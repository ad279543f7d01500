import ChainIndex.Url.Basic
import ChainIndex.Url.Pieces
import ChainIndex.Url.Scheme

/-!
# ChainIndex.Url.Path

Reading the path of a URL.

The pieces between the slashes are added one after another.  Pieces of dots are resolved at
once: one dot adds nothing, two take the last name away, but never a drive, which is a
letter with a colon or a bar.  A drive at the root of a file path stands in the place of the
host.
-/

namespace ChainIndex.Url

/-! ## Pieces -/

/-- Whether a segment stands for the place itself. -/
def isDot (segment : String) : Bool :=
  [".", "%2e", "%2E"].contains segment

/-- Whether a segment stands for the place above. -/
def isDoubleDot (segment : String) : Bool :=
  ["..", "%2e%2e", "%2e%2E", "%2E%2e", "%2E%2E", "%2e.", "%2E.", ".%2e", ".%2E"].contains segment

/-- The letter of a drive, if a text is one. -/
def driveLetter? : List Char → Option Char
  | [c, d] => if c.isAlpha ∧ (d = ':' ∨ d = '|') then some c else none
  | _ => none

/-- Whether a character breaks a line or is a tab; none of them counts in a URL. -/
def isBreak (c : Char) : Bool :=
  c = '\t' || c = '\n' || c = '\r'

/-- A text without its breaks. -/
def withoutBreaks (text : List Char) : List Char :=
  text.filter fun c => !isBreak c

/-- The name that a piece of a path is written as. -/
def nameOf (piece : List Char) : String :=
  String.ofList (percentEncode notInPath (withoutBreaks piece))

/-- A drive that a break keeps apart from the rest of its piece. -/
def brokenDrive? (piece : List Char) : Option (Char × List Char) :=
  match withoutBreaks piece, piece.dropWhile (· ≠ ':') with
  | letter :: ':' :: c :: rest, ':' :: next :: _ =>
    if letter.isAlpha && isBreak next then some (letter, c :: rest) else none
  | _, _ => none

/-! ## Names -/

/-- The names of a path as far as it is read, and whether the first of them is a drive that
takes the place of the host. -/
structure Trail where
  names : List String
  onDrive : Bool

/-- Takes the last name away, unless it is a drive. -/
def Trail.shorten (trail : Trail) : Trail :=
  match trail.names.getLast? with
  | some last =>
    if (driveLetter? last.toList).isSome then trail
    else { trail with names := trail.names.dropLast }
  | none => trail

/-- Adds a name. -/
def Trail.push (trail : Trail) (name : String) : Trail :=
  { trail with names := trail.names ++ [name] }

/-- Adds a piece of a path, `last` if nothing follows it.  A drive at the root of a file path
is written with a colon. -/
def Trail.add (kind : SchemeKind) (last : Bool) (trail : Trail) (piece : List Char) : Trail :=
  let name := nameOf piece
  let close (trail : Trail) : Trail := if last then trail.push "" else trail
  if isDoubleDot name then close trail.shorten
  else if isDot name then close trail
  else if kind = .file ∧ trail.names = [] then
    match driveLetter? name.toList, brokenDrive? piece with
    | some letter, _ => ⟨[String.ofList [letter, ':']], true⟩
    | none, some (letter, rest) => (trail.push (String.ofList [letter, ':'])).push (nameOf rest)
    | none, none => trail.push name
  else trail.push name

/-- Adds pieces one after another. -/
def Trail.addAll (kind : SchemeKind) (trail : Trail) : List (List Char) → Trail
  | [] => trail
  | [piece] => trail.add kind true piece
  | piece :: rest => (trail.add kind false piece).addAll kind rest

/-- The path of a text that follows its first slash.  A file path has one slash at its
start. -/
def readTrail (kind : SchemeKind) (text : List Char) : Trail :=
  let trail := Trail.addAll kind ⟨[], false⟩ (splitOn (isSlash kind) text)
  if kind = .file then
    match trail.names.dropWhile String.isEmpty with
    | [] => { trail with names := [""] }
    | names => { trail with names }
  else trail

/-- The path of a text that follows its first slash. -/
def readSegments (kind : SchemeKind) (text : List Char) : Path :=
  .segments (readTrail kind text).names

end ChainIndex.Url
