import BraceLint.Url.Basic

/-!
Reading URLs. A text is taken apart from both ends: the scheme stands before the first colon, the
fragment after the first number sign and the query after the first question mark. What is left is an
authority and a path, or a path alone. The well-known schemes read a backslash as a slash, need a host
and leave out the port they use anyway.
-/

namespace BraceLint.Url

/-- The port that a well-known scheme uses when none is given; a scheme that is well known without a
port has `none` inside. -/
def wellKnown? (scheme : String) : Option (Option Nat) :=
  [("http", some 80), ("https", some 443), ("ws", some 80), ("wss", some 443), ("ftp", some 21),
    ("file", none)].lookup scheme

/-- Cuts a text before the first character of a kind. -/
def breakAt (test : Char → Bool) (text : List Char) : List Char × List Char :=
  (text.takeWhile fun c => !test c, text.dropWhile fun c => !test c)

/-- The part after the first occurrence of a mark, if the mark is there, and what stands before it. -/
def splitAfter (mark : Char) (text : List Char) : List Char × Option (List Char) :=
  match breakAt (· == mark) text with
  | (before, _ :: after) => (before, some after)
  | (before, []) => (before, none)

/-- The text without blanks around it and without line ends and tabs inside it. -/
def clean (text : List Char) : List Char :=
  let isPadding (c : Char) : Bool := c.toNat ≤ 0x20
  let trimmed := ((text.dropWhile isPadding).reverse.dropWhile isPadding).reverse
  trimmed.filter fun c => !(c == '\t' || c == '\n' || c == '\r')

/-- The scheme in lower case, and what follows its colon. -/
def scheme? (text : List Char) : Option (String × List Char) :=
  let (name, rest) := breakAt (fun c => !(c.isAlphanum || c == '+' || c == '-' || c == '.')) text
  match name, rest with
  | first :: _, ':' :: rest =>
    if first.isAlpha then some (String.ofList (name.map Char.toLower), rest) else none
  | _, _ => none

/-- Whether a character divides the names of a path. -/
def isSlash (special : Bool) (c : Char) : Bool :=
  c == '/' || (special && c == '\\')

/-- Splits the text of a path at its slashes. -/
def splitPath (special : Bool) (text : List Char) : List (List Char) :=
  Text.splitOn '/' (text.map fun c => if isSlash special c then '/' else c)

/-- Whether a name stands for the directory it is in. -/
def isDot (name : List Char) : Bool :=
  [".", "%2e"].contains (String.ofList (name.map Char.toLower))

/-- Whether a name stands for the directory above. -/
def isDoubleDot (name : List Char) : Bool :=
  ["..", ".%2e", "%2e.", "%2e%2e"].contains (String.ofList (name.map Char.toLower))

/-- Whether a name is a letter of a drive with its mark. -/
def isDrive : List Char → Bool
  | [letter, mark] => letter.isAlpha && (mark == ':' || mark == '|')
  | _ => false

/-- Removes the last name. The letter of a drive is never removed. The names are latest first. -/
def shorten : List (List Char) → List (List Char)
  | [] => []
  | name :: names => if isDrive name then name :: names else names

/-- Resolves the names of a path one after the other. The names so far are given latest first. -/
def resolve : List (List Char) → List (List Char) → List (List Char)
  | found, [] => found.reverse
  | found, name :: rest =>
    let name := Percent.encode Percent.path name
    if isDoubleDot name then
      let shorter := shorten found
      resolve (if rest.isEmpty then [] :: shorter else shorter) rest
    else if isDot name then
      resolve (if rest.isEmpty then [] :: found else found) rest
    else
      resolve (name :: found) rest

/-- Drops empty names from the start of a path, as long as others follow. -/
def dropEmpty : List (List Char) → List (List Char)
  | [] :: name :: names => dropEmpty (name :: names)
  | names => names

/-- The path with the given text after its first slash. The path of a file starts with a name. -/
def segments (isFile special : Bool) (text : List Char) : UrlPath :=
  let names := resolve [] (splitPath special text)
  .segments ((if isFile then dropEmpty names else names).map String.ofList)

/-- The port a text gives, if it gives one that the scheme does not use anyway. -/
def port? (default : Option Nat) (text : List Char) : Option (Option Nat) := do
  if text.isEmpty then return none
  else
    guard (text.all Char.isDigit)
    let port ← Host.number? 10 text
    guard (port < 65536)
    return if some port == default then none else some port

/-- Splits a host from its port, which follows the first colon outside of brackets. -/
def splitPort (inBrackets : Bool) : List Char → List Char × Option (List Char)
  | [] => ([], none)
  | c :: rest =>
    if c = ':' && !inBrackets then ([], some rest)
    else
      let (host, port) := splitPort (c == '[' || (inBrackets && c != ']')) rest
      (c :: host, port)

/-- User name and password of an authority, encoded. -/
def userInfo (text : List Char) : String × Option String :=
  let encode (part : List Char) := String.ofList (Percent.encode Percent.userInfo part)
  match splitAfter ':' text with
  | (name, some password) =>
    (encode name, if password.isEmpty then none else some (encode password))
  | (name, none) => (encode name, none)

/-- Splits an authority at its last at sign. -/
def splitUser (text : List Char) : Option (List Char) × List Char :=
  match breakAt (· == '@') text.reverse with
  | (host, _ :: user) => (some user.reverse, host.reverse)
  | (host, []) => (none, host.reverse)

/-- Reads the authority part of a URL, and tells whether it is followed by a path. A user or a port needs
a host. -/
def authority? (scheme : String) (special : Bool) (text : List Char) (path : UrlPath)
    (hasMore : Bool) : Option Url := do
  let (user, place) := splitUser text
  let (hostText, portText) := splitPort false place
  let (username, password) := userInfo (user.getD [])
  let isNamed := !username.isEmpty || password.isSome
  guard (!hostText.isEmpty || !(isNamed || portText.isSome || (user == some [] && hasMore)))
  let host ←
    if special then (Host.special? hostText).map some
    else if hostText.isEmpty then some none
    else (Host.plain? hostText).map some
  let port ← port? ((wellKnown? scheme).getD none) (portText.getD [])
  return { scheme, username, password, host, hasAuthority := true, port, path }

/-- Reads a URL of a file after its scheme. -/
def file? (text : List Char) : Option Url := do
  let whole (host : Option Host) (path : List Char) : Url :=
    { scheme := "file", host := host, hasAuthority := true, path := segments true true path }
  match text with
  | a :: b :: rest =>
    if isSlash true a && isSlash true b then
      let (hostText, path) := breakAt (isSlash true) rest
      if isDrive hostText then return whole none rest
      else
        let host ← if hostText.isEmpty then some none else (Host.special? hostText).map some
        let host := if host == some (.domain "localhost") then none else host
        return whole host (path.drop 1)
    else if isSlash true a then return whole none (b :: rest)
    else return whole none text
  | [a] => return whole none (if isSlash true a then [] else [a])
  | [] => return whole none []

/-- Reads a URL after its scheme, without query and fragment, which may follow. -/
def body? (scheme : String) (text : List Char) (hasMore : Bool) : Option Url := do
  if scheme == "file" then file? text
  else if (wellKnown? scheme).isSome then
    let (authority, path) := breakAt (isSlash true) (text.dropWhile (isSlash true))
    authority? scheme true authority (segments false true (path.drop 1)) hasMore
  else
    match text with
    | '/' :: '/' :: rest =>
      let (authority, path) := breakAt (· == '/') rest
      authority? scheme false authority
        (if path.isEmpty then .segments [] else segments false false (path.drop 1))
        (hasMore || !path.isEmpty)
    | '/' :: rest => return { scheme, path := segments false false rest }
    | text => return { scheme, path := .whole (String.ofList (Percent.encode Percent.control text)) }

/-- Reads a URL, if the text is one that needs no other to complete it. -/
def read? (text : String) : Option Url := do
  let (scheme, rest) ← scheme? (clean text.toList)
  let (rest, fragment) := splitAfter '#' rest
  let (rest, query) := splitAfter '?' rest
  let url ← body? scheme rest (query.isSome || fragment.isSome)
  let querySet := if (wellKnown? scheme).isSome then Percent.specialQuery else Percent.query
  return { url with
    query := query.map fun query => String.ofList (Percent.encode querySet query)
    fragment := fragment.map fun text =>
      String.ofList (Percent.encode Percent.fragment text) }

end BraceLint.Url
