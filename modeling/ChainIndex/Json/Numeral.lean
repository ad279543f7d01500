import ChainIndex.Json.Binary64
import ChainIndex.Json.Value

/-!
# ChainIndex.Json.Numeral

JSON numbers as they are written: a sign, digits, an optional fraction and an optional
exponent, and the number they stand for.

The digits are gathered into a 64-bit significand; the digits of the integer part that no
longer fit only count as powers of ten, those of the fraction are left out.  A numeral
without fraction and exponent whose digits all fit is an integer, except `-0`.
-/

namespace ChainIndex.Json

/-- The value of an ASCII digit. -/
def digit? (c : Char) : Option Nat :=
  if '0' ≤ c ∧ c ≤ '9' then some (c.toNat - 48) else none

/-- The digits at the start of a text, and the rest. -/
def spanDigits : List Char → List Nat × List Char
  | [] => ([], [])
  | c :: rest =>
    match digit? c with
    | some d =>
      let (digits, rest) := spanDigits rest
      (d :: digits, rest)
    | none => ([], c :: rest)

/-- A number in its written form. -/
structure Numeral where
  negative : Bool
  /-- Digits before the point. -/
  whole : List Nat
  /-- Digits after the point, when there is one. -/
  fraction : Option (List Nat)
  /-- Sign and digits of the exponent, when there is one; `true` stands for a minus. -/
  exponent : Option (Bool × List Nat)
  deriving DecidableEq

namespace Numeral

/-! ## Reading -/

/-- The digits before the point: a single zero, or digits that do not start with one. -/
def readWhole (text : List Char) : Option (List Nat × List Char) :=
  match spanDigits text with
  | ([], _) => none
  | (0 :: _ :: _, _) => none
  | (digits, rest) => some (digits, rest)

/-- The fraction, if a point follows; a point needs digits. -/
def readFraction : List Char → Option (Option (List Nat) × List Char)
  | '.' :: rest =>
    match spanDigits rest with
    | ([], _) => none
    | (digits, rest) => some (some digits, rest)
  | rest => some (none, rest)

/-- The digits of an exponent, of which there is at least one. -/
def readExponentDigits (minus : Bool) (text : List Char) :
    Option (Option (Bool × List Nat) × List Char) :=
  match spanDigits text with
  | ([], _) => none
  | (digits, rest) => some (some (minus, digits), rest)

/-- The exponent, if a letter `e` follows. -/
def readExponent : List Char → Option (Option (Bool × List Nat) × List Char)
  | c :: rest =>
    if c = 'e' ∨ c = 'E' then
      match rest with
      | '-' :: rest => readExponentDigits true rest
      | '+' :: rest => readExponentDigits false rest
      | rest => readExponentDigits false rest
    else some (none, c :: rest)
  | [] => some (none, [])

/-- The numeral at the start of a text, and the rest. -/
def read (text : List Char) : Option (Numeral × List Char) := do
  let (negative, text) :=
    match text with
    | '-' :: rest => (true, rest)
    | _ => (false, text)
  let (whole, text) ← readWhole text
  let (fraction, text) ← readFraction text
  let (exponent, text) ← readExponent text
  return (⟨negative, whole, fraction, exponent⟩, text)

/-! ## The number meant -/

/-- One more than the largest 64-bit significand. -/
def significandBound : Nat := UInt64.size

/-- Adds digits to a significand while it fits; also the number of digits left over. -/
def gather : Nat → List Nat → Nat × Nat
  | value, [] => (value, 0)
  | value, d :: rest =>
    if value * 10 + d < significandBound then gather (value * 10 + d) rest
    else (value, rest.length + 1)

/-- The value of exponent digits; `none` above the largest signed 32-bit integer. -/
def exponentValue? (digits : List Nat) : Option Nat :=
  digits.foldlM (fun value d =>
    let next := value * 10 + d
    if next < 0x80000000 then some next else none) 0

/-- A double with a sign. -/
def signed (negative : Bool) (magnitude : UInt64) : Number :=
  .double (if negative then magnitude ||| Binary64.signBit else magnitude)

/-- The significand and the power of ten that stand before the written exponent. -/
def scientific (n : Numeral) : UInt64 × Int :=
  let (value, dropped) := gather 0 n.whole
  match n.fraction with
  | none => (UInt64.ofNat value, dropped)
  | some digits =>
    let (value, left) := gather value digits
    (UInt64.ofNat value, (dropped : Int) - (digits.length - left : Nat))

/-- The number meant by a numeral with a fraction, an exponent or too many digits;
`none` if it is beyond the largest double. -/
def toDouble (n : Numeral) : Option Number :=
  let (significand, power) := n.scientific
  match n.exponent with
  | none => (Binary64.ofDecimal significand power).map (signed n.negative)
  | some (minus, digits) =>
    match exponentValue? digits with
    | some e =>
      let power := if minus then power - e else power + e
      (Binary64.ofDecimal significand power).map (signed n.negative)
    | none => if significand ≠ 0 ∧ minus = false then none else some (signed n.negative 0)

/-- The number meant by a numeral; `none` if it is beyond the largest double. -/
def toNumber (n : Numeral) : Option Number :=
  if n.fraction = none ∧ n.exponent = none ∧ (gather 0 n.whole).2 = 0 then
    let value := (gather 0 n.whole).1
    if n.negative then
      if 0 < value ∧ value ≤ 0x8000000000000000 then some (.negative (Int64.ofInt (-(value : Int))))
      else n.toDouble
    else some (.natural (UInt64.ofNat value))
  else n.toDouble

end Numeral

end ChainIndex.Json
