import ChainIndex.Json.Numeral

/-!
# ChainIndex.Json.Document

Reading JSON texts.

A text is first read into a `Document`, which holds everything the grammar admits: a
number beyond the largest double and a string with an unpaired surrogate are kept as
unreadable leaves.  A reader that knows which members it uses gives their `Shape`, and
`prune` drops the members it skips; what is left must be readable and nested at most 127
deep to become a `Json` value.  So faults of this second kind do no harm in a member that
nobody reads.
-/

namespace ChainIndex.Json

/-- A text as the grammar reads it. -/
inductive Document where
  | null
  | bool (b : Bool)
  | number (n : Option Number)
  | string (s : Option String)
  | array (items : List Document)
  | object (members : List (Option String × Document))

namespace Document

/-! ## Reading texts -/

/-- The text without leading blanks: spaces, tabs, line feeds and carriage returns. -/
def skipBlanks : List Char → List Char
  | c :: rest => if c = ' ' ∨ c = '\t' ∨ c = '\n' ∨ c = '\r' then skipBlanks rest else c :: rest
  | [] => []

/-- The value of a hexadecimal digit of either case. -/
def hexValue? (c : Char) : Option Nat :=
  let n := c.toNat
  if '0' ≤ c ∧ c ≤ '9' then some (n - 48)
  else if 'a' ≤ c ∧ c ≤ 'f' then some (n - 87)
  else if 'A' ≤ c ∧ c ≤ 'F' then some (n - 55)
  else none

/-- The code unit written by four digits. -/
def codeUnit? (a b c d : Char) : Option Nat := do
  let a ← hexValue? a
  let b ← hexValue? b
  let c ← hexValue? c
  let d ← hexValue? d
  return ((a * 16 + b) * 16 + c) * 16 + d

/-- Whether a code unit is the first half of a pair. -/
def isHighHalf (unit : Nat) : Bool := 0xD800 ≤ unit && unit < 0xDC00

/-- Whether a code unit is the second half of a pair. -/
def isLowHalf (unit : Nat) : Bool := 0xDC00 ≤ unit && unit < 0xE000

/-- The character of a pair of code units. -/
def pairedChar (high low : Nat) : Char :=
  Char.ofNat (0x10000 + (high - 0xD800) * 0x400 + (low - 0xDC00))

/-- The character after a backslash that stands for one character. -/
def shortEscape? : Char → Option Char
  | '"' => some '"'
  | '\\' => some '\\'
  | '/' => some '/'
  | 'b' => some '\x08'
  | 'f' => some '\x0c'
  | 'n' => some '\n'
  | 'r' => some '\r'
  | 't' => some '\t'
  | _ => none

/-- The code points and code units of a string, read after its opening quote, and the text
after its closing quote. -/
def readUnits : List Char → Option (List Nat × List Char)
  | '"' :: rest => some ([], rest)
  | '\\' :: 'u' :: a :: b :: c :: d :: rest => do
    let unit ← codeUnit? a b c d
    let (units, rest) ← readUnits rest
    some (unit :: units, rest)
  | '\\' :: c :: rest => do
    let c ← shortEscape? c
    let (units, rest) ← readUnits rest
    some (c.toNat :: units, rest)
  | c :: rest =>
    if c.toNat < 32 then none
    else do
      let (units, rest) ← readUnits rest
      some (c.toNat :: units, rest)
  | [] => none

/-- The characters of code points and code units; `none` if half a pair stands alone. -/
def joinHalves : List Nat → Option (List Char)
  | [] => some []
  | [unit] => if isHighHalf unit || isLowHalf unit then none else some [Char.ofNat unit]
  | unit :: next :: rest =>
    if isHighHalf unit && isLowHalf next then
      (joinHalves rest).map (pairedChar unit next :: ·)
    else if isHighHalf unit || isLowHalf unit then none
    else (joinHalves (next :: rest)).map (Char.ofNat unit :: ·)

/-- The string after an opening quote, and the rest; the string is `none` when it holds half
a pair that stands alone. -/
def readString (text : List Char) : Option (Option String × List Char) :=
  (readUnits text).map fun (units, rest) => ((joinHalves units).map String.ofList, rest)

mutual

/-- The value at the start of a text, and the rest; `fuel` bounds the work and twice the
length of the text is enough. -/
def readValue : (fuel : Nat) → List Char → Option (Document × List Char)
  | 0, _ => none
  | fuel + 1, text =>
    match skipBlanks text with
    | 'n' :: 'u' :: 'l' :: 'l' :: rest => some (.null, rest)
    | 't' :: 'r' :: 'u' :: 'e' :: rest => some (.bool true, rest)
    | 'f' :: 'a' :: 'l' :: 's' :: 'e' :: rest => some (.bool false, rest)
    | '"' :: rest => (readString rest).map fun (s, rest) => (.string s, rest)
    | '[' :: rest =>
      match skipBlanks rest with
      | ']' :: rest => some (.array [], rest)
      | rest => (readItems fuel rest).map fun (items, rest) => (.array items, rest)
    | '{' :: rest =>
      match skipBlanks rest with
      | '}' :: rest => some (.object [], rest)
      | rest => (readMembers fuel rest).map fun (members, rest) => (.object members, rest)
    | text => (Numeral.read text).map fun (n, rest) => (.number n.toNumber, rest)

/-- The items of an array up to its closing bracket. -/
def readItems : (fuel : Nat) → List Char → Option (List Document × List Char)
  | 0, _ => none
  | fuel + 1, text => do
    let (item, rest) ← readValue fuel text
    match skipBlanks rest with
    | ',' :: rest =>
      let (items, rest) ← readItems fuel rest
      some (item :: items, rest)
    | ']' :: rest => some ([item], rest)
    | _ => none

/-- The members of an object up to its closing brace. -/
def readMembers : (fuel : Nat) → List Char → Option (List (Option String × Document) × List Char)
  | 0, _ => none
  | fuel + 1, text =>
    match skipBlanks text with
    | '"' :: rest => do
      let (name, rest) ← readString rest
      match skipBlanks rest with
      | ':' :: rest =>
        let (value, rest) ← readValue fuel rest
        match skipBlanks rest with
        | ',' :: rest =>
          let (members, rest) ← readMembers fuel rest
          some ((name, value) :: members, rest)
        | '}' :: rest => some ([(name, value)], rest)
        | _ => none
      | _ => none
    | _ => none

end

/-- Reads a text that holds one value and blanks. -/
def read (text : String) : Option Document :=
  let chars := text.toList
  match readValue (2 * chars.length + 2) chars with
  | some (document, rest) =>
    match skipBlanks rest with
    | [] => some document
    | _ => none
  | none => none

end Document

/-! ## The part that is used -/

/-- Which members of a document are used. -/
inductive Shape where
  /-- All of it. -/
  | any
  /-- The named members of an object, or the items of an array at their positions. -/
  | record (fields : List (String × Shape))
  /-- Every item of an array. -/
  | items (shape : Shape)

namespace Document

mutual

/-- Drops the members that are not used. -/
def prune : Shape → Document → Document
  | .record fields, .object members => .object (pruneMembers fields members)
  | .record fields, .array items => .array (prunePositions fields items)
  | .items shape, .array items => .array (pruneItems shape items)
  | _, document => document

/-- Drops the members of an object that are not used; a name that cannot be read stays. -/
def pruneMembers (fields : List (String × Shape)) :
    List (Option String × Document) → List (Option String × Document)
  | [] => []
  | (none, value) :: rest => (none, value) :: pruneMembers fields rest
  | (some name, value) :: rest =>
    match fields.lookup name with
    | some shape => (some name, prune shape value) :: pruneMembers fields rest
    | none => pruneMembers fields rest

/-- Prunes the items of a record written as an array. -/
def prunePositions : List (String × Shape) → List Document → List Document
  | _, [] => []
  | [], items => items
  | (_, shape) :: fields, item :: items => prune shape item :: prunePositions fields items

/-- Prunes every item. -/
def pruneItems (shape : Shape) : List Document → List Document
  | [] => []
  | item :: items => prune shape item :: pruneItems shape items

end

mutual

/-- The value of a document that is readable throughout and nested at most `depth` deep. -/
def toJson? : (depth : Nat) → Document → Option Json
  | _, .null => some .null
  | _, .bool b => some (.bool b)
  | _, .number n => n.map Json.number
  | _, .string s => s.map Json.string
  | 0, .array _ | 0, .object _ => none
  | depth + 1, .array items => (itemsToJson? depth items).map Json.array
  | depth + 1, .object members => (membersToJson? depth members).map Json.object

/-- The values of the items of an array. -/
def itemsToJson? (depth : Nat) : List Document → Option (List Json)
  | [] => some []
  | item :: items => do
    let value ← toJson? depth item
    let values ← itemsToJson? depth items
    some (value :: values)

/-- The members of an object with their values. -/
def membersToJson? (depth : Nat) : List (Option String × Document) → Option (List (String × Json))
  | [] => some []
  | (name, document) :: rest => do
    let name ← name
    let value ← toJson? depth document
    let members ← membersToJson? depth rest
    some ((name, value) :: members)

end

end Document

/-- The deepest nesting that is read. -/
def depthLimit : Nat := 127

/-- The written form of a type: how a value is written and read, and which members of a
document the reader uses. -/
structure Format (α : Type) where
  shape : Shape
  read : Json → Option α
  write : α → Json

/-- Reads the used part of a text. -/
def ofText? (shape : Shape) (text : String) : Option Json := do
  let document ← Document.read text
  (document.prune shape).toJson? depthLimit

def Format.ofText? {α : Type} (format : Format α) (text : String) : Option α :=
  (Json.ofText? format.shape text).bind format.read

end ChainIndex.Json
