import ChainIndex.Text.Composed.Table

/-!
# ChainIndex.Text.Composed

The composed form of a text, which is the same for all texts that differ only in whether a
character is written as one or as a base with its marks, and in the order of marks that do
not touch each other.

Every character is taken apart, the marks between two bases are sorted by rank, and what
can be put together is put together again.
-/

namespace ChainIndex.Text

/-- The rank of a character. -/
def rank (c : Char) : Nat :=
  if c.toNat < 768 then 0
  else
    match rankRanges.find? fun (low, high, _) => low ≤ c.toNat && c.toNat ≤ high with
    | some (_, _, rank) => rank
    | none => 0

/-! ## Pairs -/

/-- The syllable block of two letters or of a block and a letter: 21 vowels, and 27 final
letters after them, follow each leading letter in turn. -/
def syllable? (a b : Char) : Option Char :=
  let a := a.toNat
  let b := b.toNat
  if 0x1100 ≤ a ∧ a < 0x1113 ∧ 0x1161 ≤ b ∧ b < 0x1176 then
    some (Char.ofNat (0xac00 + ((a - 0x1100) * 21 + (b - 0x1161)) * 28))
  else if 0xac00 ≤ a ∧ a < 0xd7a4 ∧ (a - 0xac00) % 28 = 0 ∧ 0x11a7 < b ∧ b < 0x11c3 then
    some (Char.ofNat (a + (b - 0x11a7)))
  else none

/-- The two parts of a syllable block. -/
def syllableParts? (c : Char) : Option (Char × Char) :=
  if 0xac00 ≤ c.toNat ∧ c.toNat < 0xd7a4 then
    let place := c.toNat - 0xac00
    if place % 28 = 0 then
      some (Char.ofNat (0x1100 + place / 588), Char.ofNat (0x1161 + place % 588 / 28))
    else some (Char.ofNat (c.toNat - place % 28), Char.ofNat (0x11a7 + place % 28))
  else none

/-- The character that two others make. -/
def compose? (a b : Char) : Option Char :=
  if b.toNat < 768 then none
  else
    match syllable? a b with
    | some c => some c
    | none =>
      compositionTable.findSome? fun (mark, bases, wholes) =>
        if mark = b.toNat then (bases.toList.zip wholes.toList).lookup a else none

/-- The two characters that make another. -/
def parts? (c : Char) : Option (Char × Char) :=
  if c.toNat < 192 then none
  else
    match syllableParts? c with
    | some parts => some parts
    | none =>
      compositionTable.findSome? fun (mark, bases, wholes) =>
        ((wholes.toList.zip bases.toList).lookup c).map fun base => (base, Char.ofNat mark)

/-! ## Texts -/

/-- Takes a character apart; `depth` bounds the number of marks. -/
def takeApart : (depth : Nat) → Char → List Char
  | 0, c => [c]
  | depth + 1, c =>
    match parts? c with
    | some (base, mark) => takeApart depth base ++ [mark]
    | none => [c]

/-- Puts a character before a text with sorted marks, at its place. -/
def insertByRank (c : Char) : List Char → List Char
  | [] => [c]
  | d :: rest =>
    if rank d ≠ 0 ∧ rank d < rank c then d :: insertByRank c rest else c :: d :: rest

/-- The characters of a text taken apart, in the order of the marks; no character has more
than three marks. -/
def decomposed (text : List Char) : List Char :=
  (text.flatMap (takeApart 3)).foldr insertByRank []

/-- Puts together what follows a base, given the marks between that were not put to it. -/
def composeAfter (base : Char) (between : List Char) : List Char → List Char
  | [] => base :: between
  | c :: rest =>
    let reaches := between.getLast?.all fun last => rank last < rank c
    match if reaches then compose? base c else none with
    | some whole => composeAfter whole between rest
    | none =>
      if rank c = 0 then base :: between ++ composeAfter c [] rest
      else composeAfter base (between ++ [c]) rest

/-- The composed form of a text. -/
def composed (text : List Char) : List Char :=
  match decomposed text with
  | [] => []
  | base :: rest => composeAfter base [] rest

end ChainIndex.Text
