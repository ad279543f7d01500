import ChainIndex.Json.Document
import ChainIndex.Toml.Moment
import ChainIndex.Toml.Number
import ChainIndex.Toml.Text
import ChainIndex.Toml.Tree

/-!
# ChainIndex.Toml.Document

Reading TOML texts as JSON values: tables become objects, a date or a time becomes an
object of one member.

A text is read into statements, one a line, and these build the tables.  Arrays and inline
tables may be nested 79 deep.
-/

namespace ChainIndex.Toml

/-! ## Values -/

/-- The items of an array after its opening bracket, and the rest; lines may end between
them, and the last may be followed by a comma.  There are less than `limit` of them. -/
def readItems (readItem : List Char → Option (Json × List Char)) :
    (limit : Nat) → List Char → Option (List Json × List Char)
  | 0, _ => none
  | limit + 1, text =>
    match skipLines false text with
    | ']' :: rest => some ([], rest)
    | text => do
      let (item, rest) ← readItem text
      match skipLines false rest with
      | ',' :: rest =>
        let (items, rest) ← readItems readItem limit rest
        some (item :: items, rest)
      | ']' :: rest => some ([item], rest)
      | _ => none

/-- A key, an equals sign and a value, and the rest. -/
def readPair (readItem : List Char → Option (Json × List Char)) (text : List Char) :
    Option ((Key × Json) × List Char) := do
  let (key, rest) ← readKey keyLimit text
  let rest ← after? '=' rest
  let (value, rest) ← readItem (skipBlanks rest)
  return ((key, value), rest)

/-- The pairs of an inline table that is not empty, and the rest after its closing brace;
there are less than `limit` of them. -/
def readPairs (readItem : List Char → Option (Json × List Char)) :
    (limit : Nat) → List Char → Option (List (Key × Json) × List Char)
  | 0, _ => none
  | limit + 1, text => do
    let (pair, rest) ← readPair readItem text
    match skipBlanks rest with
    | ',' :: rest =>
      let (pairs, rest) ← readPairs readItem limit rest
      some (pair :: pairs, rest)
    | '}' :: rest => some ([pair], rest)
    | _ => none

/-- The value of an inline table. -/
def ofPairs (pairs : List (Key × Json)) : Option Json := do
  let entries ← pairs.foldlM (fun entries (key, value) =>
    Entries.put value key.path key.name entries) []
  return .object (Tree.membersOf entries)

/-- An inline table after its opening brace, and the rest. -/
def readInlineTable (readItem : List Char → Option (Json × List Char)) (text : List Char) :
    Option (Json × List Char) :=
  match skipBlanks text with
  | '}' :: rest => some (.object [], rest)
  | text => do
    let (pairs, rest) ← readPairs readItem text.length text
    let value ← ofPairs pairs
    return (value, rest)

/-- A value that holds no others, and the rest. -/
def readLeaf : List Char → Option (Json × List Char)
  | 't' :: 'r' :: 'u' :: 'e' :: rest => some (.bool true, rest)
  | 'f' :: 'a' :: 'l' :: 's' :: 'e' :: rest => some (.bool false, rest)
  | text =>
    match readString text with
    | some (s, rest) => some (.string s, rest)
    | none =>
      match readMoment text with
      | some (moment, rest) => some (.object [("moment", .string moment)], rest)
      | none => readNumber text

/-- A value nested at most `depth` deep, and the rest. -/
def readValue : (depth : Nat) → List Char → Option (Json × List Char)
  | depth + 1, '[' :: rest =>
    (readItems (readValue depth) (rest.length + 1) rest).map fun (items, rest) =>
      (.array items, rest)
  | depth + 1, '{' :: rest => readInlineTable (readValue depth) rest
  | _, text => readLeaf text

/-- How deep arrays and inline tables can be nested. -/
def depthLimit : Nat := 79

/-! ## Statements -/

/-- What a line says. -/
inductive Statement where
  /-- A pair belongs to the table of the last header. -/
  | pair (key : Key) (value : Json)
  | table (key : Key)
  /-- One more table of an array. -/
  | item (key : Key)

/-- A statement without the end of its line, and the rest. -/
def readStatement : List Char → Option (Statement × List Char)
  | '[' :: '[' :: rest => do
    let (key, rest) ← readKey keyLimit rest
    let rest ← after? ']' rest
    let rest ← after? ']' rest
    return (.item key, rest)
  | '[' :: rest => do
    let (key, rest) ← readKey keyLimit rest
    let rest ← after? ']' rest
    return (.table key, rest)
  | text => do
    let ((key, value), rest) ← readPair (readValue depthLimit) text
    return (.pair key value, rest)

/-- The statements of a text, of which there are less than `limit`. -/
def readStatements : (limit : Nat) → List Char → Option (List Statement)
  | 0, _ => none
  | limit + 1, text =>
    match skipLines false text with
    | [] => some []
    | text => do
      let (statement, rest) ← readStatement text
      let rest ← endLine rest
      let statements ← readStatements limit rest
      return statement :: statements

/-! ## Documents -/

/-- The tables as far as they are known, and the header that pairs belong to. -/
structure Building where
  root : Entries
  header : Option Key

/-- Adds what a statement says. -/
def Building.add (b : Building) : Statement → Option Building
  | .pair key value =>
    let change := Entries.put value key.path key.name
    let root :=
      match b.header with
      | none => change b.root
      | some header => b.root.atHeader (Entries.inTable change) header.path header.name
    root.map fun root => { b with root }
  | .table key =>
    (b.root.atHeader Entries.stateTable key.path key.name).map (⟨·, some key⟩)
  | .item key =>
    (b.root.atHeader Entries.addTable key.path key.name).map (⟨·, some key⟩)

/-- The text without a byte order mark. -/
def skipMark : List Char → List Char
  | '\uFEFF' :: rest => rest
  | text => text

def ofText? (text : String) : Option Json := do
  let text := skipMark text.toList
  let statements ← readStatements (text.length + 1) text
  let building ← statements.foldlM Building.add ⟨[], none⟩
  return .object (Tree.membersOf building.root)

/-! ## Typed values -/

mutual

/-- Drops the items of records written as arrays that are beyond their fields. -/
def trim : Json.Shape → Json → Json
  | .record fields, .object members => .object (trimMembers fields members)
  | .record fields, .array items => .array (trimPositions fields items)
  | .items shape, .array items => .array (trimItems shape items)
  | _, value => value

/-- Trims the members of a record. -/
def trimMembers (fields : List (String × Json.Shape)) : List (String × Json) → List (String × Json)
  | [] => []
  | (name, value) :: rest =>
    (name, trim ((fields.lookup name).getD .any) value) :: trimMembers fields rest

/-- Trims the items of a record written as an array. -/
def trimPositions : List (String × Json.Shape) → List Json → List Json
  | _, [] | [], _ => []
  | (_, shape) :: fields, item :: items => trim shape item :: trimPositions fields items

/-- Trims every item. -/
def trimItems (shape : Json.Shape) : List Json → List Json
  | [] => []
  | item :: items => trim shape item :: trimItems shape items

end

/-- Reads a value from a text; surplus items of records are skipped. -/
def read {α : Type} (format : Json.Format α) (text : String) : Option α := do
  let value ← ofText? text
  format.read (trim format.shape value)

end ChainIndex.Toml
