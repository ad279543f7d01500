/-!
# ChainIndex.Url.Percent

Percent-encoding in the parts of a URL.

A character that a part does not hold as it is stands there as its UTF-8 bytes, each
written `%` and two upper-case hexadecimal digits.  The parts differ in the ASCII
characters they hold; none holds a control character or a character beyond ASCII.
-/

namespace ChainIndex.Url

/-- A digit of an encoded byte. -/
def percentDigit (n : Nat) : Char :=
  if n < 10 then Char.ofNat (48 + n) else Char.ofNat (55 + n)

/-- An encoded byte. -/
def percentByte (byte : UInt8) : List Char :=
  ['%', percentDigit (byte.toNat / 16), percentDigit (byte.toNat % 16)]

/-- Encodes the characters that are not ASCII, are controls, or are listed in `special`. -/
def percentEncode (special : List Char) (text : List Char) : List Char :=
  text.flatMap fun c =>
    if c.toNat < 32 ∨ 127 ≤ c.toNat ∨ special.contains c then
      (String.singleton c).toUTF8.toList.flatMap percentByte
    else [c]

/-- What a fragment does not hold. -/
def notInFragment : List Char := [' ', '"', '<', '>', (Char.ofNat 96)]

/-- What a segment of a path does not hold. -/
def notInPath : List Char := ['#', '?', '\x7b', '\x7d'] ++ notInFragment

/-- What a user name or password does not hold. -/
def notInUser : List Char := ['/', ':', ';', '=', '@', '[', '\\', ']', '^', '|'] ++ notInPath

/-- What a query does not hold. -/
def notInQuery : List Char := [' ', '"', '#', '<', '>']

/-- What a query does not hold where the scheme is a web scheme. -/
def notInWebQuery : List Char := '\'' :: notInQuery

/-- The value of a hexadecimal digit of either case. -/
def percentValue? (c : Char) : Option Nat :=
  let n := c.toNat
  if '0' ≤ c ∧ c ≤ '9' then some (n - 48)
  else if 'a' ≤ c ∧ c ≤ 'f' then some (n - 87)
  else if 'A' ≤ c ∧ c ≤ 'F' then some (n - 55)
  else none

/-- The bytes of a text with its encoded bytes decoded; a `%` without two digits stands for
itself. -/
def percentDecode : List Char → List UInt8
  | '%' :: a :: b :: rest =>
    match percentValue? a, percentValue? b with
    | some high, some low => UInt8.ofNat (16 * high + low) :: percentDecode rest
    | _, _ => 37 :: percentDecode (a :: b :: rest)
  | c :: rest => (String.singleton c).toUTF8.toList ++ percentDecode rest
  | [] => []

end ChainIndex.Url
