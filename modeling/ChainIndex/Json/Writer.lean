import ChainIndex.Json.Binary64
import ChainIndex.Json.Value
import ChainIndex.Text.Numeral

/-!
# ChainIndex.Json.Writer

Writing JSON values without blanks.

The members of an object come in ascending order of their names, the last one of a name
standing for all of that name; strings escape the quote, the backslash and the control
characters.
-/

namespace ChainIndex.Json

/-- The escape of a character inside a string. -/
def escapeChar (c : Char) : List Char :=
  if c = '"' then ['\\', '"']
  else if c = '\\' then ['\\', '\\']
  else if c = '\x08' then ['\\', 'b']
  else if c = '\x0c' then ['\\', 'f']
  else if c = '\n' then ['\\', 'n']
  else if c = '\r' then ['\\', 'r']
  else if c = '\t' then ['\\', 't']
  else if c.toNat < 32 then
    ['\\', 'u', '0', '0', Text.hexDigit (c.toNat / 16), Text.hexDigit (c.toNat % 16)]
  else [c]

/-- A string between quotes. -/
def renderString (s : String) : String :=
  String.ofList ('"' :: s.toList.flatMap escapeChar ++ ['"'])

/-- The text of a number. -/
def Number.render : Number → String
  | .natural n => toString n.toNat
  | .negative n => toString n.toInt
  | .double bits => Binary64.toText bits

/-- Puts a written member where its name belongs; it takes the place of one of its name. -/
def insertMember (name written : String) : List (String × String) → List (String × String)
  | [] => [(name, written)]
  | (other, text) :: rest =>
    if name < other then (name, written) :: (other, text) :: rest
    else if name = other then (name, written) :: rest
    else (other, text) :: insertMember name written rest

mutual

/-- The text of a value. -/
def render : Json → String
  | .null => "null"
  | .bool b => if b then "true" else "false"
  | .number n => n.render
  | .string s => renderString s
  | .array items => "[" ++ ",".intercalate (renderItems items) ++ "]"
  | .object members =>
    let written := (renderMembers members).foldl (fun done (name, text) =>
      insertMember name text done) []
    "\x7b" ++ ",".intercalate (written.map fun (name, text) => renderString name ++ ":" ++ text)
      ++ "\x7d"

/-- The texts of the items of an array. -/
def renderItems : List Json → List String
  | [] => []
  | item :: items => render item :: renderItems items

/-- The members of an object with their texts. -/
def renderMembers : List (String × Json) → List (String × String)
  | [] => []
  | (name, value) :: rest => (name, render value) :: renderMembers rest

end

end ChainIndex.Json
