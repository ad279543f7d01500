import ChainIndex.Proofs.Text.Hex
import Mathlib.Data.List.Forall2
import Mathlib.Data.Nat.Digits.Defs

/-!
# ChainIndex.Proofs.Text.Numeral

Which texts are read as unsigned 64-bit integers.

The reader gives up at the digit with which the value leaves the 64 bits.  More digits only make a
value larger (`Extends.le`), so digits are read exactly if all of them together make a number below
the bound, and then as this number (`readDigits_eq_ok_iff`).  In base 16 digits of the two alphabets
write a number (`Hex.Writes`), as its usual digits do (`Hex.writes_toDigits`), and a numeral is read
exactly if it has digits that write a number of 64 bits (`readUnsigned_eq_ok_iff`,
`readUnsigned_eq_error_iff`).  In base 10 it is the usual ten digits that write a number
(`Decimal.Writes`, `parseUnsigned_eq_ok_iff`).
-/

namespace ChainIndex.Text

/-! ## Digits one after the other -/

/-- Digits that make a number of the value of the digits before them. -/
def Extends (base value : Nat) (digits : List Char) (n : Nat) : Prop :=
  ∃ values, List.Forall₂ (fun c d => digitValue? base c = some d) digits values ∧
    value * base ^ values.length + Nat.ofDigits base values.reverse = n

/-- No digits leave the value as it is. -/
theorem extends_nil {base value n : Nat} : Extends base value [] n ↔ value = n := by
  simp [Extends]

/-- A first digit shifts the value and is added. -/
theorem extends_cons {base value n : Nat} {c : Char} {rest : List Char} :
    Extends base value (c :: rest) n ↔
      ∃ d, digitValue? base c = some d ∧ Extends base (value * base + d) rest n := by
  have hworth (d : Nat) (values : List Nat) :
      value * base ^ (d :: values).length + Nat.ofDigits base (d :: values).reverse =
        (value * base + d) * base ^ values.length + Nat.ofDigits base values.reverse := by
    rw [Nat.ofDigits_reverse_cons, List.length_cons]
    ring
  simp only [Extends, List.forall₂_cons_left_iff]
  constructor
  · rintro ⟨_, ⟨d, values, hd, hrest, rfl⟩, hn⟩
    exact ⟨d, hd, values, hrest, hworth d values ▸ hn⟩
  · rintro ⟨d, hd, values, hrest, hn⟩
    exact ⟨d :: values, ⟨d, values, hd, hrest, rfl⟩, (hworth d values).trans hn⟩

/-- More digits only make a value larger. -/
theorem Extends.le {base value n : Nat} {digits : List Char} (hbase : 0 < base)
    (h : Extends base value digits n) : value ≤ n := by
  obtain ⟨values, -, rfl⟩ := h
  exact Nat.le_add_right_of_le (Nat.le_mul_of_pos_right _ (Nat.pow_pos hbase))

/-- Digits are read to the number that they write, if it fits into a word. -/
theorem readDigits_eq_ok_iff {base value n : Nat} {digits : List Char}
    (hvalue : value < wordBound) :
    readDigits base value digits = .ok n ↔ Extends base value digits n ∧ n < wordBound := by
  induction digits generalizing value with
  | nil =>
    rw [readDigits, Except.ok.injEq, extends_nil]
    constructor
    · rintro rfl
      exact ⟨rfl, hvalue⟩
    · exact fun h => h.1
  | cons c rest ih =>
    rw [readDigits, extends_cons]
    cases hc : digitValue? base c with
    | none => simp
    | some d =>
      simp only [Option.some.injEq, exists_eq_left']
      split
      · next hlt => exact ih hlt
      · next hle =>
        -- whatever digits follow, they make no smaller number
        simp only [reduceCtorEq, false_iff, not_and]
        intro h hn
        have hbase : 0 < base := Nat.zero_lt_of_lt (lt_of_digitValue? hc)
        exact hle (Nat.lt_of_le_of_lt (h.le hbase) hn)

/-! ## Base 16 -/

/-- No character beyond ASCII is a digit. -/
theorem digitValue?_of_le {base : Nat} {c : Char} (h : 128 ≤ c.toNat) :
    digitValue? base c = none := by
  have hle (d : Char) (hd : d.toNat < 128) : ¬ c ≤ d := fun hcd => by
    have hnat : c.toNat ≤ d.toNat := hcd
    omega
  simp [digitValue?, hle]

/-- The digits that are read are those of the two alphabets. -/
theorem digitValue?_eq_some_iff {c : Char} {value : Nat} :
    digitValue? 16 c = some value ↔ IsHexDigit c value := by
  rw [isHexDigit_iff]
  by_cases hc : c.toNat < 128
  · have hascii := digitValue?_ofNat_iff c.toNat (by omega)
    rw [Char.ofNat_toNat] at hascii
    constructor
    · intro h
      have hvalue := lt_of_digitValue? h
      exact ⟨hvalue, (hascii value hvalue).mp h⟩
    · rintro ⟨hvalue, h⟩
      exact (hascii value hvalue).mpr h
  · rw [digitValue?_of_le (by omega)]
    simp only [reduceCtorEq, false_iff]
    intro h
    exact absurd (isHexDigit_iff.mpr h).lt.2 hc

namespace Hex

/-- Digits of either case, the highest first, that write a number in base 16. -/
def Writes (digits : List Char) (n : Nat) : Prop :=
  ∃ values, List.Forall₂ IsHexDigit digits values ∧ Nat.ofDigits 16 values.reverse = n

/-- Hexadecimal digits are read from zero exactly to the number that they write. -/
theorem extends_zero_iff {digits : List Char} {n : Nat} :
    Extends 16 0 digits n ↔ Writes digits n := by
  simp only [Extends, digitValue?_eq_some_iff, zero_mul, zero_add, Writes]

/-- Any digits write a number. -/
theorem exists_writes_iff {digits : List Char} :
    (∃ n, Writes digits n) ↔ ∀ c ∈ digits, ∃ value, IsHexDigit c value := by
  constructor
  · rintro ⟨_, values, h, -⟩ c hc
    obtain ⟨i, hi, rfl⟩ := List.mem_iff_getElem.mp hc
    exact ⟨_, (List.forall₂_iff_get.mp h).2 i hi (h.length_eq ▸ hi)⟩
  · intro h
    induction digits with
    | nil => exact ⟨_, [], .nil, rfl⟩
    | cons c rest ih =>
      obtain ⟨⟨value, hc⟩, hrest⟩ := List.forall_mem_cons.mp h
      obtain ⟨_, values, hvalues, -⟩ := ih hrest
      exact ⟨_, value :: values, .cons hc hvalues, rfl⟩

/-- Digits write one number only. -/
theorem writes_unique {digits : List Char} {n m : Nat} (h : Writes digits n)
    (h' : Writes digits m) : n = m := by
  obtain ⟨values, hvalues, rfl⟩ := h
  obtain ⟨values', hvalues', rfl⟩ := h'
  have hunique : Relator.RightUnique IsHexDigit := fun c value value' hvalue hvalue' => by
    rw [← digitValue?_eq_some_iff] at hvalue hvalue'
    exact Option.some.inj (hvalue.symm.trans hvalue')
  rw [hunique.forall₂ hvalues hvalues']

/-- One more digit makes a number 16 times as large, plus the digit. -/
theorem writes_append_singleton {digits : List Char} {n value : Nat} {c : Char}
    (h : Writes digits n) (hc : IsHexDigit c value) :
    Writes (digits ++ [c]) (16 * n + value) := by
  obtain ⟨values, hvalues, rfl⟩ := h
  refine ⟨values ++ [value], List.rel_append hvalues (.cons hc .nil), ?_⟩
  rw [List.reverse_append, List.reverse_singleton, List.singleton_append, Nat.ofDigits_cons]
  omega

/-- The digits of numbers are hexadecimal digits. -/
theorem isHexDigit_digitChar : ∀ value < 16, IsHexDigit (Nat.digitChar value) value := by
  decide

/-- A number is written with its digits. -/
theorem writes_toDigits (n : Nat) : Writes (Nat.toDigits 16 n) n := by
  induction n using Nat.strongRecOn with
  | ind n ih =>
    by_cases hn : n < 16
    · rw [Nat.toDigits_of_lt_base hn]
      exact ⟨[n], .cons (isHexDigit_digitChar n hn) .nil, Nat.ofDigits_singleton⟩
    · rw [Nat.toDigits_of_base_le (by decide) (by omega)]
      have hlast := writes_append_singleton (ih (n / 16) (by omega))
        (isHexDigit_digitChar (n % 16) (by omega))
      rwa [Nat.div_add_mod] at hlast

end Hex

/-! ## Base 10 -/

/-- A decimal digit and its value. -/
def IsDecimalDigit (c : Char) (value : Nat) : Prop := "0123456789".toList[value]? = some c

instance (c : Char) (value : Nat) : Decidable (IsDecimalDigit c value) :=
  inferInstanceAs (Decidable (_ = _))

/-- An ASCII character is a decimal digit exactly if it is one of the ten. -/
theorem digitValue?_ten_ofNat_iff : ∀ n < 128, ∀ value < 10,
    digitValue? 10 (Char.ofNat n) = some value ↔ IsDecimalDigit (Char.ofNat n) value := by
  decide +kernel

theorem IsDecimalDigit.lt {c : Char} {value : Nat} (h : IsDecimalDigit c value) :
    value < 10 ∧ c.toNat < 128 := by
  have hmem : c ∈ "0123456789".toList := List.mem_of_getElem? h
  have hascii : ∀ c ∈ "0123456789".toList, c.toNat < 128 := by simp
  exact ⟨(List.getElem?_eq_some_iff.mp h).1, hascii c hmem⟩

/-- A character is read in base 10 exactly if it is one of the ten digits. -/
theorem digitValue?_ten_eq_some_iff {c : Char} {value : Nat} :
    digitValue? 10 c = some value ↔ IsDecimalDigit c value := by
  constructor
  · intro h
    by_cases hc : c.toNat < 128
    · have hdigit := digitValue?_ten_ofNat_iff c.toNat hc value (lt_of_digitValue? h)
      rw [Char.ofNat_toNat] at hdigit
      exact hdigit.mp h
    · rw [digitValue?_of_le (by omega)] at h
      cases h
  · intro h
    have hdigit := digitValue?_ten_ofNat_iff c.toNat h.lt.2 value h.lt.1
    rw [Char.ofNat_toNat] at hdigit
    exact hdigit.mpr h

namespace Decimal

/-- Digits, the highest first, that write a number in base 10. -/
def Writes (digits : List Char) (n : Nat) : Prop :=
  ∃ values, List.Forall₂ IsDecimalDigit digits values ∧ Nat.ofDigits 10 values.reverse = n

/-- Decimal digits are read from zero exactly to the number that they write. -/
theorem extends_zero_iff {digits : List Char} {n : Nat} :
    Extends 10 0 digits n ↔ Writes digits n := by
  simp only [Extends, digitValue?_ten_eq_some_iff, zero_mul, zero_add, Writes]

/-- A sign is no digit. -/
theorem not_writes_sign {rest : List Char} {n : Nat} : ¬ Writes ('+' :: rest) n := by
  rintro ⟨_, hvalues, -⟩
  obtain ⟨value, _, hsign, -, rfl⟩ := List.forall₂_cons_left_iff.mp hvalues
  have hmem : '+' ∈ "0123456789".toList := List.mem_of_getElem? hsign
  exact absurd hmem (by decide)

end Decimal

/-! ## Numerals -/

/-- A text without one leading sign. -/
def dropSign : List Char → List Char
  | '+' :: rest => rest
  | text => text

/-- One sign is dropped at most. -/
theorem dropSign_eq (text : List Char) :
    text = '+' :: dropSign text ∨ dropSign text = text ∧ ∀ more, text ≠ '+' :: more := by
  unfold dropSign
  split
  · exact .inl rfl
  · next hsign => exact .inr ⟨rfl, hsign⟩

/-- A numeral is read exactly if it has digits and they make a number of 64 bits. -/
theorem readUnsigned_eq_ok_iff_extends {base : Nat} {text : List Char} {n : Nat} :
    readUnsigned base text = .ok n ↔
      dropSign text ≠ [] ∧ Extends base 0 (dropSign text) n ∧ n < wordBound := by
  have hread (digits : List Char) (hdigits : digits ≠ []) :
      readDigits base 0 digits = .ok n ↔ digits ≠ [] ∧ Extends base 0 digits n ∧ n < wordBound := by
    rw [readDigits_eq_ok_iff (by decide), and_iff_right hdigits]
  unfold readUnsigned
  split
  · simp [dropSign]
  · simp [dropSign]
  · next rest hrest => exact hread rest hrest
  · next hnil _ hsign =>
    obtain h | ⟨h, -⟩ := dropSign_eq text
    · exact absurd h (hsign _)
    · exact h.symm ▸ hread text hnil

/-- As a word a numeral is read without being cut off. -/
theorem map_ofNat_eq_ok_iff {base : Nat} {text : List Char} {n : UInt64} :
    (readUnsigned base text).map UInt64.ofNat = .ok n ↔
      dropSign text ≠ [] ∧ Extends base 0 (dropSign text) n.toNat := by
  have hword : (readUnsigned base text).map UInt64.ofNat = .ok n ↔
      readUnsigned base text = .ok n.toNat := by
    cases hread : readUnsigned base text with
    | error fault => simp [Except.map]
    | ok m =>
      have hlt : m < UInt64.size := (readUnsigned_eq_ok_iff_extends.mp hread).2.2
      rw [Except.map, Except.ok.injEq, Except.ok.injEq, ← UInt64.toNat_inj,
        UInt64.toNat_ofNat_of_lt' hlt]
  rw [hword, readUnsigned_eq_ok_iff_extends]
  exact and_congr_right' (and_iff_left n.toNat_lt)

/-- A text in base 16 is read of the digits after the sign, if their number fits into a word. -/
theorem readUnsigned_eq_ok_iff {text : List Char} {n : Nat} :
    readUnsigned 16 text = .ok n ↔
      dropSign text ≠ [] ∧ Hex.Writes (dropSign text) n ∧ n < wordBound := by
  rw [readUnsigned_eq_ok_iff_extends, Hex.extends_zero_iff]

/-- A numeral is not read if it has no digits, or something else between them, or if they write a
number of more than 64 bits. -/
theorem readUnsigned_eq_error_iff {text : List Char} :
    (∃ fault, readUnsigned 16 text = .error fault) ↔
      dropSign text = [] ∨ (∃ c ∈ dropSign text, ∀ value, ¬ IsHexDigit c value) ∨
        ∃ n, Hex.Writes (dropSign text) n ∧ wordBound ≤ n := by
  have hfault : (∃ fault, readUnsigned 16 text = .error fault) ↔
      ∀ n, readUnsigned 16 text ≠ .ok n := by
    cases readUnsigned 16 text <;> simp
  rw [hfault]
  simp only [ne_eq, readUnsigned_eq_ok_iff]
  generalize dropSign text = digits
  constructor
  · intro h
    by_cases hnil : digits = []
    · exact .inl hnil
    by_cases hdigits : ∀ c ∈ digits, ∃ value, IsHexDigit c value
    · obtain ⟨n, hn⟩ := Hex.exists_writes_iff.mpr hdigits
      exact .inr (.inr ⟨n, hn, Nat.le_of_not_lt fun hlt => h n ⟨hnil, hn, hlt⟩⟩)
    · push Not at hdigits
      exact .inr (.inl hdigits)
  · rintro (rfl | ⟨c, hc, hnone⟩ | ⟨n, hn, hlarge⟩) m ⟨hnil, hm, hlt⟩
    · exact hnil rfl
    · obtain ⟨value, hvalue⟩ := Hex.exists_writes_iff.mp ⟨_, hm⟩ c hc
      exact hnone value hvalue
    · rw [Hex.writes_unique hm hn] at hlt
      omega

/-- A text is read as a number in base 10 exactly if it has digits, after one sign at most, and they
write the number. -/
theorem parseUnsigned_eq_ok_iff {text : String} {n : UInt64} :
    parseUnsigned 10 text = .ok n ↔
      ∃ digits, (text.toList = digits ∨ text.toList = '+' :: digits) ∧ digits ≠ [] ∧
        Decimal.Writes digits n.toNat := by
  have hread : parseUnsigned 10 text = .ok n ↔
      dropSign text.toList ≠ [] ∧ Decimal.Writes (dropSign text.toList) n.toNat := by
    rw [parseUnsigned, map_ofNat_eq_ok_iff, Decimal.extends_zero_iff]
  rw [hread]
  constructor
  · rintro ⟨hdigits, hwrites⟩
    obtain hsign | ⟨hsame, -⟩ := dropSign_eq text.toList
    · exact ⟨_, .inr hsign, hdigits, hwrites⟩
    · exact ⟨_, .inl hsame.symm, hdigits, hwrites⟩
  · rintro ⟨digits, htext | htext, hdigits, hwrites⟩
    · obtain hsign | ⟨hsame, -⟩ := dropSign_eq text.toList
      · rw [htext] at hsign
        exact absurd (hsign ▸ hwrites) Decimal.not_writes_sign
      · rw [hsame, htext]
        exact ⟨hdigits, hwrites⟩
    · rw [htext]
      exact ⟨hdigits, hwrites⟩

end ChainIndex.Text
