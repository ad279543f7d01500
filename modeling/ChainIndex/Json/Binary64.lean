/-!
# ChainIndex.Json.Binary64

Finite double-precision numbers as their 64 bits, worked out in exact natural-number
arithmetic: rounding a quotient, products and quotients, reading a decimal, and the
shortest decimal that reads back.

A magnitude is `m * 2 ^ q` with `m < 2 ^ 53` and `-1074 ≤ q ≤ 971`; its bits are those of
`m` alone while `q` is least, and otherwise the exponent field holds `q + 1075` and the
leading bit of `m` is left out.
-/

namespace ChainIndex.Json.Binary64

/-! ## Magnitudes -/

/-- `n / d` rounded to the nearest natural number, a half to the even one. -/
def roundQuotient (n d : Nat) : Nat :=
  let q := n / d
  let twice := 2 * (n % d)
  if twice > d ∨ (twice = d ∧ q % 2 = 1) then q + 1 else q

/-- The bit of a full significand that the bits of a double leave out, `2 ^ 52`. -/
def leadingBit : Nat := 0x10000000000000

/-- `m * 2 ^ k` as a quotient of natural numbers. -/
def shifted (m : Nat) (k : Int) : Nat × Nat :=
  match k with
  | .ofNat k => (m <<< k, 1)
  | .negSucc k => (m, 1 <<< (k + 1))

/-- The bits of `m * 2 ^ q`; `none` if that is too large. -/
def pack (m : Nat) (q : Int) : Option UInt64 :=
  if m < leadingBit then some (UInt64.ofNat m)
  else if m = 2 * leadingBit then pack' leadingBit (q + 1)
  else pack' m q
where
  /-- The case of a full significand. -/
  pack' (m : Nat) (q : Int) : Option UInt64 :=
    if q ≤ 971 then some (UInt64.ofNat ((q + 1075).toNat * leadingBit + (m - leadingBit))) else none

/-- The bits of the double nearest to `n / d`, a tie going to the even significand;
`none` if it is beyond the largest double. -/
def nearest (n d : Nat) : Option UInt64 :=
  if n = 0 then some 0
  else
    let low : Int := (n.log2 : Int) - d.log2 - 53
    let (a, b) := shifted d low
    let q := max (-1074) (if n * b < 2 * leadingBit * a then low else low + 1)
    let (a, b) := shifted d q
    pack (roundQuotient (n * b) a) q

/-- The sign bit. -/
def signBit : UInt64 := 0x8000000000000000

/-- Whether the sign bit is set. -/
def isNegative (bits : UInt64) : Bool :=
  signBit ≤ bits

/-- The magnitude of a double as significand and exponent of two. -/
def unpack (bits : UInt64) : Nat × Int :=
  let magnitude : Nat := bits.toNat % signBit.toNat
  let field : Nat := magnitude / leadingBit
  let fraction := magnitude % leadingBit
  if field = 0 then (fraction, -1074) else (fraction + leadingBit, (field : Int) - 1075)

/-- The product of two magnitudes, rounded. -/
def product (x y : UInt64) : Option UInt64 :=
  let (m, q) := unpack x
  let (n, r) := unpack y
  let (a, b) := shifted (m * n) (q + r)
  nearest a b

/-- The quotient of two magnitudes, rounded; the divisor is not zero. -/
def quotient (x y : UInt64) : Option UInt64 :=
  let (m, q) := unpack x
  let (n, r) := unpack y
  let (a, b) := shifted m (q - r)
  nearest a (n * b)

/-! ## Reading decimals -/

/-- The double nearest to `10 ^ k`, for `k ≤ 308`. -/
def powerOfTen (k : Nat) : UInt64 :=
  (nearest (Nat.pow 10 k) 1).getD 0

/-- A magnitude divided by `10 ^ k`, in steps of at most 308 places, each rounded. -/
def scaleDown (x : UInt64) (k : Nat) : UInt64 :=
  if k ≤ 308 then (quotient x (powerOfTen k)).getD 0
  else if x = 0 then 0
  else scaleDown ((quotient x (powerOfTen 308)).getD 0) (k - 308)
termination_by k

/-- The magnitude read from `digits * 10 ^ exponent`: the digits are rounded first and the
power of ten is applied after that.  `none` if the outcome is too large. -/
def ofDecimal (digits : UInt64) (exponent : Int) : Option UInt64 := do
  let x ← nearest digits.toNat 1
  match exponent with
  | .ofNat k =>
    if k ≤ 308 then product x (powerOfTen k)
    else if x = 0 then some 0
    else none
  | .negSucc k => some (scaleDown x (k + 1))

/-! ## The shortest decimal that reads back -/

/-- A number with the interval of reals that round to it, all over one denominator. -/
structure Interval where
  low : Nat
  value : Nat
  high : Nat
  denominator : Nat
  /-- Whether the ends belong to the interval. -/
  closed : Bool

/-- The interval that rounds to the magnitude `m * 2 ^ q`; the gap below a power of two is
half the gap above it. -/
def interval (m : Nat) (q : Int) : Interval :=
  let (a, b) := shifted 1 (q - 2)
  let below := if m = leadingBit ∧ -1074 < q then 1 else 2
  ⟨(4 * m - below) * a, 4 * m * a, (4 * m + 2) * a, b, m % 2 = 0⟩

/-- The interval in units of `10 ^ k`. -/
def Interval.scale (i : Interval) (k : Int) : Interval :=
  match k with
  | .ofNat k => { i with denominator := i.denominator * Nat.pow 10 k }
  | .negSucc k =>
    let p := Nat.pow 10 (k + 1)
    { i with low := i.low * p, value := i.value * p, high := i.high * p }

/-- Whether the natural number lies in the interval. -/
def Interval.contains (i : Interval) (d : Nat) : Bool :=
  let x := d * i.denominator
  if i.closed then i.low ≤ x && x ≤ i.high else i.low < x && x < i.high

/-- The natural number nearest to the value, among its two neighbours that lie in the
interval; the even one of two equally near. -/
def Interval.pick (i : Interval) : Option Nat :=
  let d := i.value / i.denominator
  let twice := 2 * (i.value % i.denominator)
  match i.contains d, i.contains (d + 1) with
  | true, true =>
    if twice < i.denominator ∨ (twice = i.denominator ∧ d % 2 = 0) then some d else some (d + 1)
  | true, false => some d
  | false, true => some (d + 1)
  | false, false => none

/-- Whether `10 ^ k` is at most the value. -/
def Interval.reaches (i : Interval) (k : Int) : Bool :=
  let j := i.scale k
  j.denominator ≤ j.value

/-- The exponent of ten of the leading digit. -/
def Interval.leading (i : Interval) (m : Nat) (q : Int) : Int :=
  let guess := ((m.log2 + q) * 30103) / 100000
  if i.reaches (guess + 1) then guess + 1 else if i.reaches guess then guess else guess - 1

/-- The first grid with a hit, from `n` digits on and for at most `tries` grids; the digits
are in units of ten to the second component. -/
def Interval.search (i : Interval) (leading : Int) : (tries n : Nat) → Nat × Int
  | 0, _ => (0, 0)
  | tries + 1, n =>
    let k := leading + 1 - n
    match (i.scale k).pick with
    | some d => (d, k)
    | none => i.search leading tries (n + 1)

/-- A number without its trailing zeros, and how many there were; at most `tries`. -/
def stripZeros : (tries d : Nat) → Nat × Nat
  | 0, d => (d, 0)
  | tries + 1, d =>
    if d % 10 = 0 then
      let (rest, zeros) := stripZeros tries (d / 10)
      (rest, zeros + 1)
    else (d, 0)

/-- The fewest digits that read back as the magnitude, and their power of ten. -/
def shortest (bits : UInt64) : Nat × Int :=
  let (m, q) := unpack bits
  if m = 0 then (0, 0)
  else
    let i := interval m q
    let (d, k) := i.search (i.leading m q) 17 1
    let (d, zeros) := stripZeros 17 d
    (d, k + zeros)

/-! ## Writing -/

/-- `n` zeros. -/
def zeros (n : Nat) : List Char :=
  List.replicate n '0'

/-- An exponent of ten, always with its sign. -/
def exponentText (e : Int) : List Char :=
  'e' :: (if e < 0 then '-' else '+') :: Nat.toDigits 10 e.natAbs

/-- A magnitude in decimal: positional from `10 ^ -5` up to `10 ^ 16`, always with a point,
and otherwise with an exponent. -/
def layout (digits : List Char) (k : Int) : List Char :=
  let point : Int := digits.length + k
  if 0 ≤ k ∧ point ≤ 16 then digits ++ zeros k.toNat ++ ['.', '0']
  else if 0 < point ∧ point ≤ 16 then
    digits.take point.toNat ++ '.' :: digits.drop point.toNat
  else if -5 < point ∧ point ≤ 0 then ['0', '.'] ++ zeros (-point).toNat ++ digits
  else
    let significand :=
      match digits with
      | [] => []
      | [d] => [d]
      | d :: rest => d :: '.' :: rest
    significand ++ exponentText (point - 1)

/-- The text of a double. -/
def toText (bits : UInt64) : String :=
  let (d, k) := shortest bits
  let sign := if isNegative bits then ['-'] else []
  String.ofList (sign ++ layout (Nat.toDigits 10 d) k)

end ChainIndex.Json.Binary64
