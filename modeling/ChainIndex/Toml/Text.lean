import ChainIndex.Text.Numeral

/-!
# ChainIndex.Toml.Text

The parts of a TOML text below its values: blanks, comments and line ends, quoted texts, and
the names of keys.

Every reader takes the text from where it stands and gives what it has read with the text
that follows.
-/

namespace ChainIndex.Toml

/-! ## Blanks and lines -/

/-- Blanks inside a line. -/
def isBlank (c : Char) : Bool := c = ' ' || c = '\t'

/-- The characters that may stand in comments and quoted texts: of the ASCII control
characters only the tab. -/
def isPlain (c : Char) : Bool := c = '\t' || (32 ≤ c.toNat && c.toNat ≠ 127)

/-- The text without leading blanks. -/
def skipBlanks (text : List Char) : List Char := text.dropWhile isBlank

/-- The text without leading blanks, line ends and comments; a line may end in a line feed
or in a carriage return and a line feed. -/
def skipLines : (inComment : Bool) → List Char → List Char
  | _, [] => []
  | _, '\n' :: rest => skipLines false rest
  | _, '\r' :: '\n' :: rest => skipLines false rest
  | inComment, c :: rest =>
    if isBlank c || (inComment && isPlain c) then skipLines inComment rest
    else if c = '#' then skipLines true rest
    else c :: rest

/-- The text without a comment it starts with. -/
def skipComment : List Char → List Char
  | '#' :: rest => rest.dropWhile isPlain
  | text => text

/-- The text of the next line, if nothing but blanks and a comment is left in this one. -/
def endLine (text : List Char) : Option (List Char) :=
  match skipComment (skipBlanks text) with
  | [] => some []
  | '\n' :: rest => some rest
  | '\r' :: '\n' :: rest => some rest
  | _ => none

/-! ## Quoted texts -/

/-- How a text is quoted. -/
structure Quotation where
  mark : Char
  /-- Whether backslashes start escapes. -/
  escapes : Bool
  /-- Whether the text is between three marks at each end and may hold line ends. -/
  lines : Bool

/-- Where the reading of a quoted text stands. -/
inductive QuotedState where
  /-- Between characters; `skipping` after an escaped line end, where blanks and line ends
  do not count. -/
  | between (skipping : Bool)
  /-- After a backslash. -/
  | escape
  /-- After a backslash and blanks, which have to be followed by a line end. -/
  | escapedBlank
  /-- Within a character given by its number: one digit and `more` are to come. -/
  | code (more value : Nat)

/-- The rest of a text that starts with the closing marks of a quotation, and the marks
before them that still belong to the quoted text, which are two at most. -/
def Quotation.closing? (q : Quotation) (text : List Char) : Option (List Char × List Char) :=
  let count := (text.takeWhile (· = q.mark)).length
  if q.lines then
    if 3 ≤ count then some (List.replicate (min (count - 3) 2) q.mark, text.drop (min count 5))
    else none
  else if 1 ≤ count then some ([], text.drop 1)
  else none

/-- The character after a backslash that stands for one character. -/
def escaped? : Char → Option Char
  | '"' => some '"'
  | '\\' => some '\\'
  | 'b' => some '\x08'
  | 'f' => some '\x0c'
  | 'n' => some '\n'
  | 'r' => some '\r'
  | 't' => some '\t'
  | _ => none

/-- The character of a number; none for surrogates and beyond the last one. -/
def scalar? (n : Nat) : Option Char :=
  if n < 0xD800 ∨ (0xE000 ≤ n ∧ n < 0x110000) then some (Char.ofNat n) else none

/-- The text with a character in front of what was read. -/
def push (c : Char) (read : List Char × List Char) : List Char × List Char :=
  (c :: read.1, read.2)

/-- The characters of a quoted text after its opening marks, and the rest; a line end is
read as a line feed. -/
def readQuoted (q : Quotation) : QuotedState → List Char → Option (List Char × List Char)
  | _, [] => none
  | .between skipping, c :: rest =>
    if c = '\r' ∧ rest.head? = some '\n' ∧ q.lines then readQuoted q (.between skipping) rest
    else if skipping ∧ (isBlank c ∨ c = '\n') then readQuoted q (.between true) rest
    else
      match q.closing? (c :: rest) with
      | some closed => some closed
      | none =>
        if c = '\\' ∧ q.escapes then readQuoted q .escape rest
        else if isPlain c ∨ (c = '\n' ∧ q.lines) then
          (readQuoted q (.between false) rest).map (push c)
        else none
  | .escape, c :: rest =>
    if c = 'u' then readQuoted q (.code 3 0) rest
    else if c = 'U' then readQuoted q (.code 7 0) rest
    else
      match escaped? c with
      | some c => (readQuoted q (.between false) rest).map (push c)
      | none =>
        if q.lines then
          if c = '\n' then readQuoted q (.between true) rest
          else if isBlank c ∨ (c = '\r' ∧ rest.head? = some '\n') then
            readQuoted q .escapedBlank rest
          else none
        else none
  | .escapedBlank, c :: rest =>
    if c = '\n' then readQuoted q (.between true) rest
    else if isBlank c ∨ (c = '\r' ∧ rest.head? = some '\n') then
      readQuoted q .escapedBlank rest
    else none
  | .code more value, c :: rest => do
    let d ← Text.digitValue? 16 c
    let value := value * 16 + d
    match more with
    | 0 => do
      let c ← scalar? value
      (readQuoted q (.between false) rest).map (push c)
    | more + 1 => readQuoted q (.code more value) rest

/-- A quoted text after its opening marks, as a string, and the rest. -/
def Quotation.read (q : Quotation) (text : List Char) : Option (String × List Char) :=
  (readQuoted q (.between false) text).map fun (chars, rest) => (String.ofList chars, rest)

/-- The text without a line end it starts with. -/
def skipLineEnd : List Char → List Char
  | '\n' :: rest => rest
  | '\r' :: '\n' :: rest => rest
  | text => text

/-- A string in one of its four forms, and the rest; of a line end right after three opening
marks nothing is kept. -/
def readString : List Char → Option (String × List Char)
  | '"' :: '"' :: '"' :: rest => Quotation.read ⟨'"', true, true⟩ (skipLineEnd rest)
  | '\'' :: '\'' :: '\'' :: rest => Quotation.read ⟨'\'', false, true⟩ (skipLineEnd rest)
  | '"' :: rest => Quotation.read ⟨'"', true, false⟩ rest
  | '\'' :: rest => Quotation.read ⟨'\'', false, false⟩ rest
  | _ => none

/-! ## Keys -/

/-- The characters of a name that is not quoted. -/
def isBare (c : Char) : Bool := c.isAlphanum || c = '-' || c = '_'

/-- A name, and the rest. -/
def readName : List Char → Option (String × List Char)
  | '"' :: rest => Quotation.read ⟨'"', true, false⟩ rest
  | '\'' :: rest => Quotation.read ⟨'\'', false, false⟩ rest
  | text =>
    match text.span isBare with
    | ([], _) => none
    | (name, rest) => some (String.ofList name, rest)

/-- A dotted key: the names of the tables it leads through, and the name in the last one. -/
structure Key where
  path : List String
  name : String

/-- How many names a dotted key can have. -/
def keyLimit : Nat := 79

/-- A dotted key of at most so many names, and the rest after the blanks that follow. -/
def readKey : (limit : Nat) → List Char → Option (Key × List Char)
  | 0, _ => none
  | limit + 1, text => do
    let (name, rest) ← readName (skipBlanks text)
    match skipBlanks rest with
    | '.' :: rest =>
      let (key, rest) ← readKey limit rest
      some (⟨name :: key.path, key.name⟩, rest)
    | rest => some (⟨[], name⟩, rest)

end ChainIndex.Toml
