import ChainIndex.Json.Binary64
import ChainIndex.Json.Value
import ChainIndex.Text.Numeral

/-!
# ChainIndex.Toml.Number

Integers and floating point numbers of a TOML text.

Single underscores may stand between digits.  Integers have 64 bits with a sign; those in
base 16, 8 and 2 are written without one.  A number with a fraction or an exponent is the
double nearest to it, where one too large is refused unless it has a minus.
-/

namespace ChainIndex.Toml

/-- The digits that follow a digit, and the rest; none if an underscore is not followed by
a digit. -/
def readMoreDigits (base : Nat) : List Char → Option (List Nat × List Char)
  | [] => some ([], [])
  | ['_'] => none
  | '_' :: c :: rest => do
    let d ← Text.digitValue? base c
    let (digits, rest) ← readMoreDigits base rest
    return (d :: digits, rest)
  | c :: rest =>
    match Text.digitValue? base c with
    | none => some ([], c :: rest)
    | some d => (readMoreDigits base rest).map fun (digits, rest) => (d :: digits, rest)

/-- One or more digits, and the rest. -/
def readDigits (base : Nat) : List Char → Option (List Nat × List Char)
  | [] => none
  | c :: rest => do
    let d ← Text.digitValue? base c
    let (digits, rest) ← readMoreDigits base rest
    return (d :: digits, rest)

/-- The digits before a point: a single zero, or digits that do not start with one. -/
def readWhole : List Char → Option (List Nat × List Char)
  | '0' :: rest => some ([0], rest)
  | text => readDigits 10 text

/-- A sign, if there is one; `true` stands for a minus. -/
def readSign : List Char → Bool × List Char
  | '-' :: rest => (true, rest)
  | '+' :: rest => (false, rest)
  | text => (false, text)

/-- The digits after a point, if a point follows. -/
def readFraction : List Char → Option (Option (List Nat) × List Char)
  | '.' :: rest => (readDigits 10 rest).map fun (digits, rest) => (some digits, rest)
  | text => some (none, text)

/-- The number that digits stand for. -/
def ofDigits (base : Nat) (digits : List Nat) : Nat :=
  digits.foldl (fun n d => n * base + d) 0

/-- The exponent, if a letter `e` follows. -/
def readExponent : List Char → Option (Option Int × List Char)
  | [] => some (none, [])
  | c :: rest =>
    if c = 'e' ∨ c = 'E' then do
      let (minus, rest) := readSign rest
      let (digits, rest) ← readDigits 10 rest
      let e : Int := ofDigits 10 digits
      return (some (if minus then -e else e), rest)
    else some (none, c :: rest)

/-- The bits of infinity. -/
def infinity : UInt64 := 0x7FF0000000000000

/-- The bits of what is not a number. -/
def notANumber : UInt64 := 0x7FF8000000000000

/-- Bits with a sign. -/
def signed (negative : Bool) (bits : UInt64) : UInt64 :=
  if negative then bits ||| Json.Binary64.signBit else bits

/-- The bits of the double nearest to `digits * 10 ^ power`, infinity if that is too large.
From 310 digits before the point on it is, and with 330 zeros after the point it is zero. -/
def nearestDouble (digits : List Nat) (power : Int) : UInt64 :=
  let digits := digits.dropWhile (· = 0)
  let size := digits.length + power
  if digits = [] ∨ size < -330 then 0
  else if 310 < size then infinity
  else
    let (numerator, denominator) :=
      match power with
      | .ofNat k => (ofDigits 10 digits * Nat.pow 10 k, 1)
      | .negSucc k => (ofDigits 10 digits, Nat.pow 10 (k + 1))
    (Json.Binary64.nearest numerator denominator).getD infinity

/-- The value of a number with a fraction or an exponent. -/
def toDouble? (negative : Bool) (whole fraction : List Nat) (exponent : Int) : Option Json :=
  let bits := nearestDouble (whole ++ fraction) (exponent - fraction.length)
  if bits = infinity ∧ !negative then none else some (.number (.double (signed negative bits)))

/-- The value of an integer, if it has no more than 64 bits with its sign. -/
def toInteger? (negative : Bool) (n : Nat) : Option Json :=
  if n < 0x8000000000000000 ∨ (negative ∧ n = 0x8000000000000000) then
    some (.ofInt64 (Int64.ofInt (if negative then -(n : Int) else n)))
  else none

/-- An integer in a base of two marks and digits, and the rest. -/
def readInBase (base : Nat) (text : List Char) : Option (Json × List Char) := do
  let (digits, rest) ← readDigits base text
  let value ← toInteger? false (ofDigits base digits)
  return (value, rest)

/-- A number in base ten after its sign, and the rest. -/
def readDecimal (negative : Bool) (text : List Char) : Option (Json × List Char) := do
  let (whole, rest) ← readWhole text
  let (fraction, rest) ← readFraction rest
  let (exponent, rest) ← readExponent rest
  let value ←
    if fraction.isNone ∧ exponent.isNone then toInteger? negative (ofDigits 10 whole)
    else toDouble? negative whole (fraction.getD []) (exponent.getD 0)
  return (value, rest)

/-- A number, and the rest. -/
def readNumber : List Char → Option (Json × List Char)
  | '0' :: 'x' :: rest => readInBase 16 rest
  | '0' :: 'o' :: rest => readInBase 8 rest
  | '0' :: 'b' :: rest => readInBase 2 rest
  | text =>
    match readSign text with
    | (negative, 'i' :: 'n' :: 'f' :: rest) =>
      some (.number (.double (signed negative infinity)), rest)
    | (negative, 'n' :: 'a' :: 'n' :: rest) =>
      some (.number (.double (signed negative notANumber)), rest)
    | (negative, rest) => readDecimal negative rest

end ChainIndex.Toml
