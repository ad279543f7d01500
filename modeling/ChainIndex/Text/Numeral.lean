/-!
# ChainIndex.Text.Numeral

Unsigned 64-bit integers written in a base up to 36: what a reader accepts, which
fault it names, and the digits of the hexadecimal forms.

A numeral is at most one leading `+` and then one or more ASCII digits.  The digits are
read from the left and the first fault met is the one reported: a character that is no
digit, or the digit with which the value leaves the 64 bits.
-/

namespace ChainIndex.Text

/-- Why a text is no unsigned 64-bit integer. -/
inductive NumeralError where
  | empty
  | invalidDigit
  | tooLarge
  deriving DecidableEq, Repr

/-- The wording of a numeral fault. -/
def NumeralError.message : NumeralError → String
  | .empty => "cannot parse integer from empty string"
  | .invalidDigit => "invalid digit found in string"
  | .tooLarge => "number too large to fit in target type"

/-- The value of a digit in `base`; both cases of a letter count the same. -/
def digitValue? (base : Nat) (c : Char) : Option Nat :=
  let n := c.toNat
  let value :=
    if '0' ≤ c ∧ c ≤ '9' then n - 48
    else if 'a' ≤ c ∧ c ≤ 'z' then n - 87
    else if 'A' ≤ c ∧ c ≤ 'Z' then n - 55
    else base
  if value < base then some value else none

/-- The digit of a value below 16, in lower case. -/
def hexDigit (n : Nat) : Char :=
  if n < 10 then Char.ofNat (48 + n) else Char.ofNat (87 + n)

/-- The hexadecimal digits of a number, without leading zeros and in lower case. -/
def hexDigits (n : Nat) : String :=
  String.ofList (Nat.toDigits 16 n)

/-- One more than the largest unsigned 64-bit integer. -/
def wordBound : Nat := 18446744073709551616

/-- Reads digits onto the value of the digits before them. -/
def readDigits (base : Nat) : Nat → List Char → Except NumeralError Nat
  | value, [] => .ok value
  | value, c :: rest =>
    match digitValue? base c with
    | none => .error .invalidDigit
    | some d =>
      if value * base + d < wordBound then readDigits base (value * base + d) rest
      else .error .tooLarge

/-- Reads a numeral as a natural number below `wordBound`. -/
def readUnsigned (base : Nat) : List Char → Except NumeralError Nat
  | [] => .error .empty
  | ['+'] => .error .invalidDigit
  | '+' :: rest => readDigits base 0 rest
  | digits => readDigits base 0 digits

/-- Reads an unsigned 64-bit integer in `base`. -/
def parseUnsigned (base : Nat) (text : String) : Except NumeralError UInt64 :=
  (readUnsigned base text.toList).map UInt64.ofNat

end ChainIndex.Text
