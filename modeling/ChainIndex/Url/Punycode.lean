/-!
# ChainIndex.Url.Punycode

The ASCII form of a label of a host name that holds other characters.

The ASCII characters of the label come first, and after a hyphen the others, as the
differences between their code points in ascending order, each a number in base 36 of
variable length whose digit thresholds adapt to the differences before it.  Reading puts the
characters back one by one, each where its difference says.
-/

namespace ChainIndex.Url.Punycode

/-- A digit: letters stand for 0 to 25. -/
def digit (n : Nat) : Char :=
  if n < 26 then Char.ofNat (97 + n) else Char.ofNat (22 + n)

/-- The threshold of the digit of weight place `k`. -/
def threshold (k bias : Nat) : Nat := max 1 (min 26 (k - bias))

/-- The base without its threshold is left of the value in each round. -/
theorem threshold_bounds (k bias : Nat) : 1 ≤ threshold k bias ∧ threshold k bias ≤ 26 := by
  unfold threshold
  omega

/-- Divides a difference by 35 until it is small, and adds 36 for every time. -/
def settle (delta k : Nat) : Nat × Nat :=
  if 455 < delta then settle (delta / 35) (k + 36) else (delta, k)
termination_by delta
decreasing_by exact Nat.div_lt_self (by omega) (by omega)

/-- The bias after a difference; `count` characters are written by then. -/
def adapt (delta count : Nat) (first : Bool) : Nat :=
  let delta := if first then delta / 700 else delta / 2
  let (delta, k) := settle (delta + delta / count) 0
  k + 36 * delta / (delta + 38)

/-- The digits of a difference. -/
def digits (bias k q : Nat) : List Char :=
  let t := threshold k bias
  if q < t then [digit q]
  else digit (t + (q - t) % (36 - t)) :: digits bias (k + 36) ((q - t) / (36 - t))
termination_by q
decreasing_by
  have h := threshold_bounds k bias
  calc (q - threshold k bias) / (36 - threshold k bias)
      ≤ q - threshold k bias := Nat.div_le_self _ _
    _ < q := by omega

/-- Where the writing of the differences stands. -/
structure Progress where
  written : List Char
  delta : Nat
  bias : Nat
  count : Nat

/-- Looks at one character of the label for the code point `next`. -/
def visit (ascii next : Nat) (p : Progress) (c : Char) : Progress :=
  if c.toNat < next then { p with delta := p.delta + 1 }
  else if c.toNat = next then
    { written := p.written ++ digits p.bias 36 p.delta
      delta := 0
      bias := adapt p.delta (p.count + 1) (p.count = ascii)
      count := p.count + 1 }
  else p

/-- Writes the code points that are given in ascending order; `seen` is the least one that
is not yet written. -/
def writePoints (label : List Char) (ascii : Nat) : (points : List Nat) → (seen : Nat) →
    Progress → Progress
  | [], _, p => p
  | next :: points, seen, p =>
    let p := { p with delta := p.delta + (next - seen) * (p.count + 1) }
    let p := label.foldl (visit ascii next) p
    writePoints label ascii points (next + 1) { p with delta := p.delta + 1 }

/-- The code points above ASCII in ascending order, each once. -/
def points (label : List Char) : List Nat :=
  ((label.map Char.toNat).filter (128 ≤ ·)).eraseDups.mergeSort

/-- The ASCII form of a label, without its marker. -/
def encode (label : List Char) : List Char :=
  let ascii := label.filter fun c => c.toNat < 128
  let start := if ascii.isEmpty then [] else ascii ++ ['-']
  (writePoints label ascii.length (points label) 128 ⟨start, 0, 72, ascii.length⟩).written

/-! ## Reading -/

/-- The value of a digit. -/
def digitValue? (c : Char) : Option Nat :=
  let n := c.toNat
  if 'a' ≤ c ∧ c ≤ 'z' then some (n - 97)
  else if 'A' ≤ c ∧ c ≤ 'Z' then some (n - 65)
  else if '0' ≤ c ∧ c ≤ '9' then some (n - 22)
  else none

/-- The digits of a difference from the weight place `k` on, added to `value`, and the rest;
value and weight have 32 bits. -/
def readDifference (bias : Nat) : (k weight value : Nat) → List Char → Option (Nat × List Char)
  | _, _, _, [] => none
  | k, weight, value, c :: rest =>
    match digitValue? c with
    | none => none
    | some d =>
      let t := threshold k bias
      let value := value + d * weight
      if UInt32.size ≤ value then none
      else if d < t then some (value, rest)
      else if UInt32.size ≤ weight * (36 - t) then none
      else readDifference bias (k + 36) (weight * (36 - t)) value rest

/-- A difference has a digit at least. -/
theorem length_of_readDifference {bias : Nat} {text : List Char} :
    ∀ {k weight value n : Nat} {rest : List Char},
      readDifference bias k weight value text = some (n, rest) → rest.length < text.length := by
  induction text with
  | nil => intro k weight value n rest h; simp [readDifference] at h
  | cons c text ih =>
    intro k weight value n rest h
    simp only [readDifference] at h
    split at h
    · simp at h
    · split at h
      · simp at h
      · split at h
        · obtain ⟨-, rfl⟩ := Prod.mk.inj (Option.some.inj h)
          simp
        · split at h
          · simp at h
          · exact Nat.lt_succ_of_lt (ih h)

/-- Puts the characters that the differences stand for into a label; `next` and `index` are
the least code point that can come and the place after the last one. -/
def readPoints (label : List Char) (next index bias : Nat) (first : Bool) (text : List Char) :
    Option (List Char) :=
  if text.isEmpty then some label
  else
    match _h : readDifference bias 36 1 index text with
    | none => none
    | some (value, rest) =>
      let count := label.length + 1
      let point := next + value / count
      let place := value % count
      if point < 0xD800 ∨ (0xE000 ≤ point ∧ point < 0x110000) then
        readPoints (label.take place ++ Char.ofNat point :: label.drop place) point (place + 1)
          (adapt (value - index) count first) false rest
      else none
termination_by text.length
decreasing_by exact length_of_readDifference _h

/-- The label that an ASCII form without its marker stands for. -/
def decode? (text : List Char) : Option (List Char) :=
  let tail := (text.reverse.takeWhile (· ≠ '-')).reverse
  let ascii := text.take (text.length - tail.length - 1)
  if text.all fun c => c.toNat < 128 then
    if ascii.isEmpty then readPoints [] 128 0 72 true text
    else readPoints ascii 128 0 72 true tail
  else none

end ChainIndex.Url.Punycode
