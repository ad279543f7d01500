/-!
# ChainIndex.Text.Base64

The standard base64 alphabet, read strictly: four characters per group, padding only in
the last group and exactly as much as the group needs, and no bit set that the padding
leaves over.  Under these rules every byte string has exactly one written form.
-/

namespace ChainIndex.Text.Base64

/-- The six bits a character of the alphabet stands for. -/
def sextet? (byte : UInt8) : Option Nat :=
  let n := byte.toNat
  if 65 ≤ n ∧ n ≤ 90 then some (n - 65)
  else if 97 ≤ n ∧ n ≤ 122 then some (n - 71)
  else if 48 ≤ n ∧ n ≤ 57 then some (n + 4)
  else if n = 43 then some 62
  else if n = 47 then some 63
  else none

/-- The padding character. -/
def pad : UInt8 := 61

/-- Reads the last group, which may be padded. -/
def decodeLast (a b c d : UInt8) : Option (List UInt8) := do
  let p ← sextet? a
  let q ← sextet? b
  if c = pad ∧ d = pad then
    if q % 16 = 0 then some [UInt8.ofNat (4 * p + q / 16)] else none
  else
    let r ← sextet? c
    if d = pad then
      if r % 4 = 0 then
        some [UInt8.ofNat (4 * p + q / 16), UInt8.ofNat (16 * (q % 16) + r / 4)]
      else none
    else
      let s ← sextet? d
      some [UInt8.ofNat (4 * p + q / 16), UInt8.ofNat (16 * (q % 16) + r / 4),
        UInt8.ofNat (64 * (r % 4) + s)]

/-- Reads a group that is not the last one. -/
def decodeGroup (a b c d : UInt8) : Option (List UInt8) := do
  let p ← sextet? a
  let q ← sextet? b
  let r ← sextet? c
  let s ← sextet? d
  some [UInt8.ofNat (4 * p + q / 16), UInt8.ofNat (16 * (q % 16) + r / 4),
    UInt8.ofNat (64 * (r % 4) + s)]

/-- Reads the characters of a text, given as bytes. -/
def decodeBytes : List UInt8 → Option (List UInt8)
  | [] => some []
  | [a, b, c, d] => decodeLast a b c d
  | a :: b :: c :: d :: rest => do
    let group ← decodeGroup a b c d
    let bytes ← decodeBytes rest
    some (group ++ bytes)
  | _ => none

/-- Reads a text; `none` unless it is the written form of a byte string. -/
def decode? (text : String) : Option (List UInt8) :=
  decodeBytes text.toUTF8.toList

end ChainIndex.Text.Base64
