import ChainIndex.Proofs.Text.Hex
import ChainIndex.Text.Base64

/-!
# ChainIndex.Proofs.Text.Base64

Which texts are read as base64.

Writing turns three bytes at a time into four characters of the alphabet, and pads the last group
where fewer are left (`encode`).  The reader goes the other way and is strict about the padding and
about the bits that it leaves over, so a text is read as a byte string exactly if it is what the
byte string is written as (`decodeBytes_eq_some_iff`).  Two texts are then never read as the same
bytes (`decode?_inj`).
-/

namespace ChainIndex.Text.Base64

/-! ## Writing -/

/-- The characters that stand for six bits each, in the order of their values. -/
def alphabet : List Char :=
  "ABCDEFGHIJKLMNOPQRSTUVWXYZabcdefghijklmnopqrstuvwxyz0123456789+/".toList

/-- The character of a value below 64, as a byte. -/
def digit (sextet : Nat) : UInt8 := UInt8.ofNat (alphabet.getD sextet 'A').toNat

/-- The written form of a byte string: four characters for three bytes, the last group padded. -/
def encode : List UInt8 → List UInt8
  | x :: y :: z :: rest =>
    digit (x.toNat / 4) :: digit (16 * (x.toNat % 4) + y.toNat / 16) ::
      digit (4 * (y.toNat % 16) + z.toNat / 64) :: digit (z.toNat % 64) :: encode rest
  | [x, y] =>
    [digit (x.toNat / 4), digit (16 * (x.toNat % 4) + y.toNat / 16), digit (4 * (y.toNat % 16)),
      pad]
  | [x] => [digit (x.toNat / 4), digit (16 * (x.toNat % 4)), pad, pad]
  | [] => []

/-! ## Characters -/

/-- A digit stands for its six bits. -/
theorem sextet?_digit : ∀ n < 64, sextet? (digit n) = some n := by
  decide +kernel

/-- Only the digits stand for six bits, each of them for its own. -/
theorem digit_of_sextet? : ∀ b < 256, ∀ n ∈ sextet? (UInt8.ofNat b),
    n < 64 ∧ UInt8.ofNat b = digit n := by
  decide +kernel

/-- No digit is the padding. -/
theorem digit_ne_pad : ∀ n < 64, digit n ≠ pad := by
  decide +kernel

/-- A character stands for six bits exactly if it is the one in this place of the alphabet. -/
theorem sextet?_eq_some_iff {byte : UInt8} {n : Nat} :
    sextet? byte = some n ↔ n < 64 ∧ byte = digit n := by
  constructor
  · intro h
    have hdigit := digit_of_sextet? byte.toNat byte.toNat_lt n
    rw [UInt8.ofNat_toNat] at hdigit
    exact hdigit h
  · rintro ⟨hn, rfl⟩
    exact sextet?_digit n hn

/-! ## Groups -/

/-- Only no bytes are written as nothing. -/
theorem encode_eq_nil {bytes : List UInt8} : encode bytes = [] ↔ bytes = [] := by
  match bytes with
  | [] | [_] | [_, _] | _ :: _ :: _ :: _ => simp [encode]

/-- Four characters are read as a full group if it is written with them. -/
theorem decodeGroup_eq_some_iff {a b c d : UInt8} {group : List UInt8} :
    decodeGroup a b c d = some group ↔
      ∃ x y z, group = [x, y, z] ∧ [a, b, c, d] = encode [x, y, z] := by
  simp only [decodeGroup, Option.bind_eq_bind, Option.bind_eq_some_iff, sextet?_eq_some_iff]
  constructor
  · rintro ⟨p, ⟨hp, rfl⟩, q, ⟨hq, rfl⟩, r, ⟨hr, rfl⟩, s, ⟨hs, rfl⟩, hgroup⟩
    refine ⟨_, _, _, (Option.some.inj hgroup).symm, ?_⟩
    have hx := UInt8.toNat_ofNat_of_lt' (show 4 * p + q / 16 < 256 by omega)
    have hy := UInt8.toNat_ofNat_of_lt' (show 16 * (q % 16) + r / 4 < 256 by omega)
    have hz := UInt8.toNat_ofNat_of_lt' (show 64 * (r % 4) + s < 256 by omega)
    simp only [encode, hx, hy, hz, List.cons.injEq, and_true]
    refine ⟨congrArg digit ?_, congrArg digit ?_, congrArg digit ?_, congrArg digit ?_⟩ <;> omega
  · rintro ⟨x, y, z, rfl, h⟩
    have hx : x.toNat < 256 := x.toNat_lt
    have hy : y.toNat < 256 := y.toNat_lt
    have hz : z.toNat < 256 := z.toNat_lt
    simp only [encode, List.cons.injEq, and_true] at h
    obtain ⟨ha, hb, hc, hd⟩ := h
    refine ⟨_, ⟨by omega, ha⟩, _, ⟨by omega, hb⟩, _, ⟨by omega, hc⟩, _, ⟨by omega, hd⟩, ?_⟩
    rw [Option.some.injEq, List.cons.injEq, List.cons.injEq, List.cons.injEq]
    refine ⟨?_, ?_, ?_, rfl⟩ <;> refine UInt8.toNat_inj.mp ?_ <;> rw [UInt8.toNat_ofNat'] <;> omega

/-- Without a padding character the last group is like any other. -/
theorem decodeLast_of_ne_pad {a b c d : UInt8} (h : d ≠ pad) :
    decodeLast a b c d = decodeGroup a b c d := by
  have hpads : ¬ (c = pad ∧ d = pad) := fun hpads => h hpads.2
  simp only [decodeLast, decodeGroup, if_neg hpads, if_neg h]

/-- One padding at the end leaves two bytes. -/
theorem decodeLast_pad {a b c : UInt8} {group : List UInt8} (hc : c ≠ pad) :
    decodeLast a b c pad = some group ↔ ∃ x y, group = [x, y] ∧ [a, b, c, pad] = encode [x, y] := by
  simp only [decodeLast, hc, false_and, if_false, if_true, Option.bind_eq_bind,
    Option.bind_eq_some_iff, sextet?_eq_some_iff, Option.ite_none_right_eq_some]
  constructor
  · rintro ⟨p, ⟨hp, rfl⟩, q, ⟨hq, rfl⟩, r, ⟨hr, rfl⟩, hrest, hgroup⟩
    refine ⟨_, _, (Option.some.inj hgroup).symm, ?_⟩
    have hx := UInt8.toNat_ofNat_of_lt' (show 4 * p + q / 16 < 256 by omega)
    have hy := UInt8.toNat_ofNat_of_lt' (show 16 * (q % 16) + r / 4 < 256 by omega)
    simp only [encode, hx, hy, List.cons.injEq, and_true]
    refine ⟨congrArg digit ?_, congrArg digit ?_, congrArg digit ?_⟩ <;> omega
  · rintro ⟨x, y, rfl, h⟩
    have hx : x.toNat < 256 := x.toNat_lt
    have hy : y.toNat < 256 := y.toNat_lt
    simp only [encode, List.cons.injEq, and_true] at h
    obtain ⟨ha, hb, hc⟩ := h
    refine ⟨_, ⟨by omega, ha⟩, _, ⟨by omega, hb⟩, _, ⟨by omega, hc⟩, by omega, ?_⟩
    rw [Option.some.injEq, List.cons.injEq, List.cons.injEq]
    refine ⟨?_, ?_, rfl⟩ <;> refine UInt8.toNat_inj.mp ?_ <;> rw [UInt8.toNat_ofNat'] <;> omega

/-- Two paddings at the end leave one byte. -/
theorem decodeLast_pad_pad {a b : UInt8} {group : List UInt8} :
    decodeLast a b pad pad = some group ↔ ∃ x, group = [x] ∧ [a, b, pad, pad] = encode [x] := by
  simp only [decodeLast, and_self, if_true, Option.bind_eq_bind, Option.bind_eq_some_iff,
    sextet?_eq_some_iff, Option.ite_none_right_eq_some]
  constructor
  · rintro ⟨p, ⟨hp, rfl⟩, q, ⟨hq, rfl⟩, hrest, hgroup⟩
    refine ⟨_, (Option.some.inj hgroup).symm, ?_⟩
    have hx := UInt8.toNat_ofNat_of_lt' (show 4 * p + q / 16 < 256 by omega)
    simp only [encode, hx, List.cons.injEq, and_true]
    refine ⟨congrArg digit ?_, congrArg digit ?_⟩ <;> omega
  · rintro ⟨x, rfl, h⟩
    have hx : x.toNat < 256 := x.toNat_lt
    simp only [encode, List.cons.injEq, and_true] at h
    obtain ⟨ha, hb⟩ := h
    refine ⟨_, ⟨by omega, ha⟩, _, ⟨by omega, hb⟩, by omega, ?_⟩
    rw [Option.some.injEq, List.cons.injEq]
    refine ⟨UInt8.toNat_inj.mp ?_, rfl⟩
    rw [UInt8.toNat_ofNat']
    omega

/-- The padding of four characters tells how many bytes were written. -/
theorem cases_of_encode {a b c d : UInt8} {group : List UInt8} (h : [a, b, c, d] = encode group) :
    (∃ x, group = [x] ∧ c = pad ∧ d = pad) ∨ (∃ x y, group = [x, y] ∧ c ≠ pad ∧ d = pad) ∨
      ∃ x y z, group = [x, y, z] ∧ d ≠ pad := by
  match group with
  | [] => simp [encode] at h
  | [x] => simp_all [encode]
  | [x, y] =>
    have hy : y.toNat < 256 := y.toNat_lt
    have hdigit := digit_ne_pad (4 * (y.toNat % 16)) (by omega)
    simp_all [encode]
  | [x, y, z] =>
    have hdigit := digit_ne_pad (z.toNat % 64) (by omega)
    simp_all [encode]
  | x :: y :: z :: w :: rest => simp [encode, encode_eq_nil] at h

/-- Four characters are read as the last group if it is written with them. -/
theorem decodeLast_eq_some_iff {a b c d : UInt8} {group : List UInt8} :
    decodeLast a b c d = some group ↔ [a, b, c, d] = encode group := by
  constructor
  · intro h
    by_cases hd : d = pad
    · subst hd
      by_cases hc : c = pad
      · subst hc
        obtain ⟨x, rfl, hgroup⟩ := decodeLast_pad_pad.mp h
        exact hgroup
      · obtain ⟨x, y, rfl, hgroup⟩ := (decodeLast_pad hc).mp h
        exact hgroup
    · rw [decodeLast_of_ne_pad hd] at h
      obtain ⟨x, y, z, rfl, hgroup⟩ := decodeGroup_eq_some_iff.mp h
      exact hgroup
  · intro h
    obtain ⟨x, rfl, rfl, rfl⟩ | ⟨x, y, rfl, hc, rfl⟩ | ⟨x, y, z, rfl, hd⟩ := cases_of_encode h
    · exact decodeLast_pad_pad.mpr ⟨x, rfl, h⟩
    · exact (decodeLast_pad hc).mpr ⟨x, y, rfl, h⟩
    · rw [decodeLast_of_ne_pad hd]
      exact decodeGroup_eq_some_iff.mpr ⟨x, y, z, rfl, h⟩

/-! ## Texts -/

/-- What is read of a group and of more characters after it. -/
theorem decodeBytes_append {a b c d : UInt8} {rest bytes : List UInt8} (hrest : rest ≠ []) :
    decodeBytes (a :: b :: c :: d :: rest) = some bytes ↔
      ∃ group tail, decodeGroup a b c d = some group ∧ decodeBytes rest = some tail ∧
        group ++ tail = bytes := by
  cases rest with
  | nil => contradiction
  | cons e rest => simp [decodeBytes, Option.bind_eq_some_iff]

/-- Characters are read as a byte string exactly if they are what it is written as. -/
theorem decodeBytes_eq_some_iff {text bytes : List UInt8} :
    decodeBytes text = some bytes ↔ text = encode bytes := by
  match text with
  | [] =>
    rw [decodeBytes, Option.some.injEq]
    exact ⟨fun h => h ▸ rfl, fun h => (encode_eq_nil.mp h.symm).symm⟩
  | [_] | [_, _] | [_, _, _] =>
    match bytes with
    | [] | [_] | [_, _] | _ :: _ :: _ :: _ => simp [decodeBytes, encode]
  | [a, b, c, d] => exact decodeLast_eq_some_iff
  | a :: b :: c :: d :: e :: rest =>
    have ih (tail : List UInt8) := @decodeBytes_eq_some_iff (e :: rest) tail
    rw [decodeBytes_append (List.cons_ne_nil e rest)]
    simp only [ih, decodeGroup_eq_some_iff]
    constructor
    · rintro ⟨_, tail, ⟨x, y, z, rfl, hgroup⟩, htail, rfl⟩
      rw [htail]
      exact congrArg (· ++ encode tail) hgroup
    · intro h
      match bytes with
      | [] | [_] | [_, _] => simp [encode] at h
      | x :: y :: z :: tail =>
        have hparts : [a, b, c, d] ++ e :: rest = encode [x, y, z] ++ encode tail := h
        obtain ⟨hgroup, htail⟩ := List.append_inj hparts rfl
        exact ⟨[x, y, z], tail, ⟨x, y, z, rfl, hgroup⟩, htail, rfl⟩

/-- A text in canonical base64, which is what some byte string is written as. -/
def IsCanonical (text : String) : Prop := ∃ bytes, text.toUTF8.toList = encode bytes

/-- A text is decoded exactly to the bytes whose written form it is. -/
theorem decode?_eq_some_iff {text : String} {bytes : List UInt8} :
    decode? text = some bytes ↔ text.toUTF8.toList = encode bytes :=
  decodeBytes_eq_some_iff

/-- Different texts are never read as the same bytes. -/
theorem decode?_inj {text text' : String} {bytes : List UInt8} (h : decode? text = some bytes)
    (h' : decode? text' = some bytes) : text = text' := by
  rw [decode?_eq_some_iff] at h h'
  exact toList_toUTF8_inj.mp (h.trans h'.symm)

end ChainIndex.Text.Base64
