import ChainIndex.Url.Host

/-!
# ChainIndex.Url.Basic

URLs, their one written form, and how a path is extended.

A URL either names an authority and has a path of segments, or has neither and everything
after the scheme is one opaque text, or has a path of segments and no authority.
-/

namespace ChainIndex

/-- The part of a URL between `//` and the path. -/
structure Url.Authority where
  user : String
  password : Option String
  /-- The written form of the host; a `file` URL may have none. -/
  host : String
  /-- The port, unless it is the usual one of the scheme. -/
  port : Option Nat
  deriving DecidableEq

/-- The part of a URL after the authority. -/
inductive Url.Path where
  | opaqueText (text : String)
  | segments (names : List String)
  deriving DecidableEq

/-- A URL; all its parts are encoded. -/
structure Url where
  scheme : String
  authority : Option Url.Authority
  path : Url.Path
  query : Option String
  fragment : Option String
  deriving DecidableEq

namespace Url

/-- The text of a path. -/
def Path.toText : Path → String
  | .opaqueText text => text
  | .segments names => String.join (names.map ("/" ++ ·))

/-- The text of an authority. -/
def Authority.toText (a : Authority) : String :=
  let password := (a.password.map (":" ++ ·)).getD ""
  let credentials := a.user ++ password
  let credentials := if credentials.isEmpty then "" else credentials ++ "@"
  credentials ++ a.host ++ (a.port.map fun port => ":" ++ toString port).getD ""

/-- The text between the scheme and the path.  Without an authority, a path that starts with
two slashes is kept apart from one. -/
def leadText (url : Url) : String :=
  match url.authority with
  | some authority => "//" ++ authority.toText
  | none => if url.path.toText.startsWith "//" then "/." else ""

/-- The text of path and query, as a request names them. -/
def target (url : Url) : String :=
  url.path.toText ++ (url.query.map ("?" ++ ·)).getD ""

/-- The text of a URL. -/
def toText (url : Url) : String :=
  url.scheme ++ ":" ++ url.leadText ++ url.target ++ (url.fragment.map ("#" ++ ·)).getD ""

/-- The path that ends in a slash; an opaque path takes the slash as text. -/
def Path.closed : Path → Path
  | .opaqueText text =>
    .opaqueText (if text.isEmpty then "%2F" else if text.endsWith "/" then text else text ++ "/")
  | .segments names => .segments (if names.getLast? = some "" then names else names ++ [""])

/-- The URL whose path ends in a slash. -/
def closed (url : Url) : Url := { url with path := url.path.closed }

/-- The URL of something that is named relative to another: the last segment gives way to the
names, and the query to the one given.  An opaque path cannot be extended. -/
def extend (url : Url) (names : List String) (query : Option String) : Except UrlError Url :=
  match url.path with
  | .opaqueText _ => .error .opaqueBase
  | .segments before =>
    .ok { url with path := .segments (before.dropLast ++ names), query := query, fragment := none }

end Url

end ChainIndex
