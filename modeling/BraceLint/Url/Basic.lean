import BraceLint.Url.Host

/-!
URLs in normal form. A URL is kept as its parts, already encoded; its text puts them together again,
and two URLs are the same when their texts are.
-/

namespace BraceLint

/-- The path of a URL: one text that cannot be taken apart, or names between slashes. -/
inductive UrlPath where
  | whole (text : String)
  | segments (names : List String)
deriving DecidableEq, Repr

/-- A URL. -/
structure Url where
  scheme : String
  username : String := ""
  password : Option String := none
  /-- The host. An authority may be there without one, as in a URL of a file. -/
  host : Option Host := none
  /-- Whether the URL has an authority part. -/
  hasAuthority : Bool := false
  port : Option Nat := none
  path : UrlPath
  query : Option String := none
  fragment : Option String := none
deriving DecidableEq, Repr

namespace Url

/-- Whether the path cannot be taken apart, so that no other URL is relative to this one. -/
def isOpaque (url : Url) : Bool :=
  match url.path with
  | .whole _ => true
  | .segments _ => false

/-- The text of the path. -/
def pathText (url : Url) : String :=
  match url.path with
  | .whole text => text
  | .segments names => String.join (names.map fun name => "/" ++ name)

/-- The text of the authority part after its two slashes. -/
def authorityText (url : Url) : String :=
  let password := (url.password.map fun password => ":" ++ password).getD ""
  let user := if url.username.isEmpty && url.password.isNone then "" else
    url.username ++ password ++ "@"
  let port := (url.port.map fun port => ":" ++ toString port).getD ""
  user ++ (url.host.map Host.render).getD "" ++ port

/-- The text of a URL. Without an authority part, a path that starts with two slashes is set off by a
dot. -/
def render (url : Url) : String :=
  let authority :=
    if url.hasAuthority then "//" ++ url.authorityText
    else
      match url.path with
      | .segments ("" :: _ :: _) => "/."
      | _ => ""
  let query := (url.query.map fun query => "?" ++ query).getD ""
  let fragment := (url.fragment.map fun fragment => "#" ++ fragment).getD ""
  url.scheme ++ ":" ++ authority ++ url.pathText ++ query ++ fragment

/-- The URL of a file, given the names on the way to it from the root. -/
def ofFileNames (names : List String) : Url where
  scheme := "file"
  hasAuthority := true
  path := .segments (names.map fun name =>
    String.ofList (Percent.encode Percent.fileName name.toList))

end Url

end BraceLint
