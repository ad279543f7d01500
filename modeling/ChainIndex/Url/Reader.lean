import ChainIndex.Url.Path

/-!
# ChainIndex.Url.Reader

Reading URLs.

Blanks and controls around the text and line breaks and tabs inside it do not count.  The
web schemes have an authority after any number of slashes; `file` has one after two slashes,
and the other schemes too, which have a path of segments only after one.
-/

namespace ChainIndex.Url

/-! ## Parts -/

/-- A text without one slash at its start. -/
def dropSlash (kind : SchemeKind) : List Char → List Char
  | c :: rest => if isSlash kind c then rest else c :: rest
  | [] => []

/-- A text cut before its query and its fragment. -/
structure Cut where
  front : List Char
  query : Option (List Char)
  fragment : Option (List Char)

/-- Cuts a text. -/
def cut (text : List Char) : Cut :=
  let front := text.takeWhile fun c => c ≠ '?' ∧ c ≠ '#'
  match text.dropWhile fun c => c ≠ '?' ∧ c ≠ '#' with
  | '?' :: rest =>
    let fragment :=
      match rest.dropWhile (· ≠ '#') with
      | '#' :: fragment => some fragment
      | _ => none
    ⟨front, some (rest.takeWhile (· ≠ '#')), fragment⟩
  | '#' :: fragment => ⟨front, none, some fragment⟩
  | _ => ⟨front, none, none⟩

/-- The URL of its parts, the last two still to be encoded. -/
def assemble (scheme : String) (authority : Option Authority) (path : Path) (parts : Cut) : Url :=
  let inQuery := if schemeKind scheme = .other then notInQuery else notInWebQuery
  { scheme, authority, path
    query := parts.query.map fun q => String.ofList (percentEncode inQuery q)
    fragment := parts.fragment.map fun f => String.ofList (percentEncode notInFragment f) }

/-! ## Authorities -/

/-- User name and password. -/
def readCredentials (text : List Char) : String × Option String :=
  let encode (text : List Char) : String := String.ofList (percentEncode notInUser text)
  let user := text.takeWhile (· ≠ ':')
  match text.dropWhile (· ≠ ':') with
  | ':' :: p :: password => (encode user, some (encode (p :: password)))
  | _ => (encode user, none)

/-- A text at its last `@`. -/
def splitUser (text : List Char) : Option (List Char) × List Char :=
  let pieces := splitOn (· = '@') text
  match pieces.reverse with
  | host :: user :: users => (some (['@'].intercalate (user :: users).reverse), host)
  | _ => (none, text)

/-- The text of a host, which ends at a colon outside brackets, and the text after it. -/
def splitHost : (bracket : Bool) → List Char → List Char × List Char
  | _, [] => ([], [])
  | bracket, c :: rest =>
    if c = ':' ∧ !bracket then ([], c :: rest)
    else
      let bracket := if c = '[' then true else if c = ']' then false else bracket
      let (host, after) := splitHost bracket rest
      (c :: host, after)

/-- The port after a colon; a backslash ends it, and the text from there on is left. -/
def readPort (text : List Char) : Except UrlError (Option Nat × List Char) :=
  let digits := text.takeWhile Char.isDigit
  let rest := text.dropWhile Char.isDigit
  let port := digits.foldl (fun n c => min 65536 (10 * n + (c.toNat - 48))) 0
  if 65535 < port then .error .invalidPort
  else
    match rest with
    | [] => .ok (if digits.isEmpty then none else some port, [])
    | '\\' :: _ => .ok (if digits.isEmpty then none else some port, rest)
    | _ => .error .invalidPort

/-- Reads the authority of a web or other scheme; gives the part of the text it leaves to the
path. -/
def readAuthority (scheme : String) (text : List Char) (ended : Bool) :
    Except UrlError (Authority × List Char) := do
  let kind := schemeKind scheme
  let (credentials, text) := splitUser text
  if credentials = some [] ∧ text.isEmpty ∧ !ended then throw .emptyHost
  let (user, password) := readCredentials (credentials.getD [])
  let (hostText, after) := splitHost false text
  let host ←
    if kind = .web then
      if hostText.isEmpty then throw .emptyHost else readHost hostText
    else readOpaqueHost hostText
  if host.isEmpty ∧ !after.isEmpty then throw .emptyHost
  let (port, left) ←
    match after with
    | ':' :: digits => readPort digits
    | _ => .ok (none, after)
  if host.isEmpty ∧ (!user.isEmpty ∨ password.isSome) then throw .emptyHost
  let port := if port = usualPort? scheme then none else port
  return (⟨user, password, host, port⟩, left)

/-- Whether a character ends an authority. -/
def endsAuthority (kind : SchemeKind) (c : Char) : Bool :=
  isSlash kind c || c = '?' || c = '#'

/-- Reads what follows the two slashes. -/
def readAfterSlashes (scheme : String) (text : List Char) : Except UrlError Url := do
  let kind := schemeKind scheme
  let front := text.takeWhile fun c => !endsAuthority kind c
  let rest := text.dropWhile fun c => !endsAuthority kind c
  let (authority, left) ← readAuthority scheme front rest.isEmpty
  let parts := cut (left ++ rest)
  let path :=
    if kind = .other ∧ parts.front.isEmpty then .segments []
    else readSegments kind (dropSlash kind parts.front)
  return assemble scheme (some authority) path parts

/-! ## Files -/

/-- The host of a file URL, which is none for this machine. -/
def readFileHost (text : List Char) : Except UrlError String := do
  if text.isEmpty then return ""
  let host ← readHost text
  return if host = "localhost" then "" else host

/-- A text without its first `count` characters, breaks not counted. -/
def dropVisible : (count : Nat) → List Char → List Char
  | 0, text => text
  | _, [] => []
  | count + 1, c :: rest =>
    if isBreak c then dropVisible (count + 1) rest else dropVisible count rest

/-- The file URL of a host and what follows the first slash of its path. -/
def assembleFile (scheme : String) (host : String) (text : List Char) : Url :=
  let parts := cut text
  let trail := readTrail .file parts.front
  let host := if trail.onDrive then "" else host
  assemble scheme (some ⟨"", none, host, none⟩) (.segments trail.names)
    { parts with
      query := parts.query.map withoutBreaks
      fragment := parts.fragment.map withoutBreaks }

/-- Reads what follows the two slashes of a file URL.  Without a host, the slash before the
path is part of it. -/
def readFileAfterSlashes (scheme : String) (text : List Char) : Except UrlError Url := do
  let front := withoutBreaks (text.takeWhile fun c => !endsAuthority .file c)
  let rest := text.dropWhile fun c => !endsAuthority .file c
  if (driveLetter? front).isSome then return assembleFile scheme "" text
  let host ← readFileHost front
  if host.isEmpty then return assembleFile scheme "" rest
  else if (rest.head?.map (isSlash .file)).getD false then
    return assembleFile scheme host (rest.drop 1)
  else return assembleFile scheme host rest

/-- Reads what follows the colon of a file URL, breaks included. -/
def readFile (scheme : String) (text : List Char) : Except UrlError Url :=
  match (withoutBreaks text).map (isSlash .file) with
  | true :: true :: _ => readFileAfterSlashes scheme (dropVisible 2 text)
  | true :: _ => .ok (assembleFile scheme "" (dropVisible 1 text))
  | _ => .ok (assembleFile scheme "" text)

/-! ## URLs -/

/-- Reads a URL without an authority. -/
def readPlain (scheme : String) (text : List Char) : Url :=
  let parts := cut text
  match parts.front with
  | '/' :: rest => assemble scheme none (readSegments .other rest) parts
  | front => assemble scheme none (.opaqueText (String.ofList (percentEncode [] front))) parts

/-- The text without the blanks and controls around it. -/
def trimmed (text : String) : List Char :=
  let outer (c : Char) : Bool := c.toNat ≤ 32
  ((text.toList.dropWhile outer).reverse.dropWhile outer).reverse

def ofText (text : String) : Except UrlError Url :=
  let text := trimmed text
  match readScheme? (withoutBreaks text) with
  | none => .error .relative
  | some (scheme, rest) =>
    match schemeKind scheme, rest with
    | .file, _ => readFile scheme ((text.dropWhile (· ≠ ':')).drop 1)
    | .web, _ => readAfterSlashes scheme (rest.dropWhile (isSlash .web))
    | .other, '/' :: '/' :: rest => readAfterSlashes scheme rest
    | .other, _ => .ok (readPlain scheme rest)

end ChainIndex.Url
