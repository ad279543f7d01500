import ChainIndex.Text.Numeral
import ChainIndex.Text.Quoted

/-!
# ChainIndex.Text.Hex

Bytes written as pairs of hexadecimal digits.

Writing uses lower case.  Reading takes either case, works on the bytes of the text and
reports positions in bytes; it looks for an odd number of digits first, then (when the
number of bytes is fixed) for a wrong length, and then for the first byte that is no digit.
-/

namespace ChainIndex.Text.Hex

/-- Why a text is no byte string in hexadecimal. -/
inductive HexError where
  | oddLength
  | wrongLength
  | invalidDigit (byte : UInt8) (position : Nat)
  deriving DecidableEq, Repr

/-- The wording of a fault; the offending byte is shown as the character of that code. -/
def HexError.message : HexError → String
  | .oddLength => "Odd number of digits"
  | .wrongLength => "Invalid string length"
  | .invalidDigit byte position =>
    "Invalid character " ++ quoteChar (Char.ofNat byte.toNat) ++ " at position " ++
      toString position

/-- The two digits of a byte, high half first. -/
def encodeByte (byte : UInt8) : List Char :=
  [hexDigit (byte.toNat / 16), hexDigit (byte.toNat % 16)]

/-- The digits of a byte string. -/
def encode (bytes : List UInt8) : String :=
  String.ofList (bytes.flatMap encodeByte)

/-- The half byte a digit stands for; `position` is where it stands. -/
def halfByte (byte : UInt8) (position : Nat) : Except HexError Nat :=
  match digitValue? 16 (Char.ofNat byte.toNat) with
  | some value => .ok value
  | none => .error (.invalidDigit byte position)

/-- Reads pairs of digits, the first of which stands at `position`. -/
def decodePairs : Nat → List UInt8 → Except HexError (List UInt8)
  | position, high :: low :: rest => do
    let h ← halfByte high position
    let l ← halfByte low (position + 1)
    let bytes ← decodePairs (position + 2) rest
    return UInt8.ofNat (16 * h + l) :: bytes
  | _, _ => .ok []

/-- Reads a byte string of any length. -/
def decode (text : String) : Except HexError (List UInt8) :=
  let digits := text.toUTF8.toList
  if digits.length % 2 = 1 then .error .oddLength else decodePairs 0 digits

/-- Reads a byte string of `size` bytes. -/
def decodeSized (size : Nat) (text : String) : Except HexError (List UInt8) :=
  let digits := text.toUTF8.toList
  if digits.length % 2 = 1 then .error .oddLength
  else if digits.length / 2 ≠ size then .error .wrongLength
  else decodePairs 0 digits

end ChainIndex.Text.Hex
