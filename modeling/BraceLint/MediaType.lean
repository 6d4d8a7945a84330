import BraceLint.Syntax.Dialect
import BraceLint.Url.Basic

/-!
Kinds of source files. A URL that carries its data says what kind they are; every other URL tells by
the extension of its last name. The kind decides which dialect the file is read in.
-/

namespace BraceLint

/-- The kinds of source files. -/
inductive MediaType where
  | javaScript
  | jsx
  | mjs
  | cjs
  | typeScript
  | mts
  | cts
  | dts
  | tsx
  | unknown
deriving DecidableEq, Repr

namespace MediaType

/-- The kinds with their names. -/
def names : List (String × MediaType) :=
  [("JavaScript", .javaScript), ("JSX", .jsx), ("Mjs", .mjs), ("Cjs", .cjs),
    ("TypeScript", .typeScript), ("Mts", .mts), ("Cts", .cts), ("Dts", .dts), ("TSX", .tsx),
    ("Unknown", .unknown)]

/-- The kind with the given name. -/
def ofName? (name : String) : Option MediaType :=
  names.lookup name

/-- Whether a text holds another one. -/
def holds (part : List Char) : List Char → Bool
  | [] => part.isEmpty
  | c :: rest => part.isPrefixOf (c :: rest) || holds part rest

/-- The kind of a typed file, which only declares when its name says so before the extension. -/
def declaring (stem : List Char) (otherwise : MediaType) : MediaType :=
  if holds ".d.".toList (stem ++ ['.']) then .dts else otherwise

/-- A file name in two parts: what stands before its last dot, and its extension. -/
def splitName? (name : List Char) : Option (List Char × String) :=
  let extension := (name.reverse.takeWhile (· != '.')).reverse
  if name.contains '.' then
    some (name.take (name.length - extension.length - 1), String.ofList extension)
  else
    none

/-- The kind of a file by its name. -/
def ofFileName (name : List Char) : MediaType :=
  match splitName? (name.map Char.toLower) with
  | none => .unknown
  | some (stem, extension) =>
    match extension with
    | "ts" => declaring stem .typeScript
    | "mts" => declaring stem .mts
    | "cts" => declaring stem .cts
    | "tsx" => .tsx
    | "js" => .javaScript
    | "jsx" => .jsx
    | "mjs" => .mjs
    | "cjs" => .cjs
    | _ => .unknown

/-- The kind of data that are labelled as a program, by the name they seem to have. -/
def refined (name : List Char) (label : MediaType) : MediaType :=
  match splitName? name with
  | none => label
  | some (stem, extension) =>
    match extension with
    | "ts" => if label == .typeScript then declaring stem .typeScript else label
    | "mts" => declaring stem .mts
    | "cts" => declaring stem .cts
    | "tsx" => .tsx
    | "jsx" => .jsx
    | "mjs" => .mjs
    | "cjs" => .cjs
    | _ => label

/-- The kind of data by the type they are labelled with and the name they seem to have. -/
def ofContentType (type : String) (name : List Char) : MediaType :=
  if ["application/typescript", "text/typescript", "video/vnd.dlna.mpeg-tts", "video/mp2t",
      "application/x-typescript"].contains type then refined name .typeScript
  else if ["application/javascript", "text/javascript", "application/ecmascript",
      "text/ecmascript", "application/x-javascript", "application/node"].contains type then
    refined name .javaScript
  else if ["text/jsx", "text/jscript"].contains type then .jsx
  else if type == "text/tsx" then .tsx
  else .unknown

/-- The last name in a path. -/
def lastName (path : List Char) : List Char :=
  ((path.reverse.dropWhile (· == '/')).takeWhile (· != '/')).reverse

/-- The kind of the file at a URL. A host stands for the name of a file where there is no path. -/
def ofUrl (url : Url) : MediaType :=
  let path := url.pathText.toList
  if url.scheme == "data" then
    let label := path.takeWhile fun c => c != ',' && c != ';'
    ofContentType (String.ofList ((label.filter (· != ' ')).map Char.toLower)) (lastName path)
  else
    match url.host with
    | some (.domain name) => ofFileName (if path.isEmpty then name.toList else lastName path)
    | _ => ofFileName (lastName path)

/-- The dialect a kind of file is read in. -/
def dialect (type : MediaType) : Dialect where
  typed := [.typeScript, .mts, .cts, .dts, .tsx].contains type
  markup := [.jsx, .tsx].contains type
  modules := type != .cjs
  isModule := type == .mjs || type == .mts
  declaresOnly := type == .dts

end MediaType

end BraceLint
