import ChainIndex.Text.Hex

/-!
# ChainIndex.Proofs.Text.Hex

Which texts are read as bytes in hexadecimal.

The reader works on the bytes of a text, so it is first said what these are: the encodings of its
characters one after the other (`toList_toUTF8_ofList`).  A byte is read as a digit where it stands
for one by itself, in either case (`digitValue?_iff`), and bytes that all do are those of a text of
just these characters (`map_lowerChar_iff`).  A text is thus read as a byte string exactly if, in
lower case, it is what the byte string is written as (`decodeSized_eq_ok_iff`), that is, if its
digits spell the bytes in pairs (`spells_iff`).  A text that is not read has an odd number of bytes,
or else the wrong number, or else a first byte that is no digit (`decodeSized_eq_error_iff`).
-/

namespace ChainIndex.Text

/-! ## The bytes of a text -/

/-- The bytes of an array are gathered one by one, behind those before. -/
theorem toList_loop_eq (bytes : ByteArray) (i : Nat) (before : List UInt8) :
    ByteArray.toList.loop bytes i before = before.reverse ++ bytes.data.toList.drop i := by
  fun_induction ByteArray.toList.loop bytes i before with
  | case1 i before hlt ih =>
    have hlength : i < bytes.data.toList.length := by simpa using hlt
    have hget : bytes.get! i = bytes.data.toList[i] := by
      cases bytes
      exact getElem!_pos _ i hlt
    rw [ih, List.drop_eq_getElem_cons hlength, hget]
    simp
  | case2 i before hle =>
    rw [List.drop_eq_nil_of_le (by simpa using Nat.le_of_not_lt hle), List.append_nil]

/-- An array of bytes has the bytes it was made of. -/
theorem toList_eq_data_toList (bytes : ByteArray) : bytes.toList = bytes.data.toList := by
  rw [ByteArray.toList, toList_loop_eq]
  rfl

theorem toList_toByteArray (bytes : List UInt8) : bytes.toByteArray.toList = bytes := by
  rw [toList_eq_data_toList, List.data_toByteArray]

/-- Different texts have different bytes. -/
theorem toList_toUTF8_inj {s t : String} : s.toUTF8.toList = t.toUTF8.toList ↔ s = t := by
  rw [String.toUTF8_eq_toByteArray, String.toUTF8_eq_toByteArray, toList_eq_data_toList,
    toList_eq_data_toList, Array.toList_inj, ← ByteArray.ext_iff, String.toByteArray_inj]

/-- The bytes of a text encode its characters one after the other. -/
theorem toList_toUTF8_ofList (chars : List Char) :
    (String.ofList chars).toUTF8.toList = chars.flatMap String.utf8EncodeChar := by
  rw [String.toUTF8_eq_toByteArray, String.toByteArray_ofList, List.utf8Encode,
    toList_toByteArray]

/-! ## Digits of either case -/

/-- The character that a byte stands for by itself, in lower case. -/
def lowerChar (byte : UInt8) : Char := (Char.ofNat byte.toNat).toLower

/-- A character below 256 is a digit exactly if its small form is one. -/
theorem digitValue?_ofNat_iff : ∀ n < 256, ∀ value < 16,
    digitValue? 16 (Char.ofNat n) = some value ↔ (Char.ofNat n).toLower = hexDigit value := by
  decide +kernel

/-- A character beyond ASCII has a small form beyond ASCII. -/
theorem toNat_toLower_ofNat : ∀ n < 256, 128 ≤ n → 128 ≤ (Char.ofNat n).toLower.toNat := by
  decide +kernel

/-- The digits are ASCII. -/
theorem toNat_hexDigit_lt : ∀ value < 16, (hexDigit value).toNat < 128 := by
  decide

/-- The digits that are written are small letters. -/
theorem toLower_hexDigit : ∀ value < 16, (hexDigit value).toLower = hexDigit value := by
  decide

/-- A digit is below the base. -/
theorem lt_of_digitValue? {base value : Nat} {c : Char} (h : digitValue? base c = some value) :
    value < base := by
  simp only [digitValue?, Option.ite_none_right_eq_some] at h
  rw [← Option.some.inj h.2]
  exact h.1

/-- A byte is read as a digit of either case. -/
theorem digitValue?_iff {byte : UInt8} {value : Nat} :
    digitValue? 16 (Char.ofNat byte.toNat) = some value ↔
      value < 16 ∧ lowerChar byte = hexDigit value := by
  constructor
  · intro h
    have hlt := lt_of_digitValue? h
    exact ⟨hlt, (digitValue?_ofNat_iff _ byte.toNat_lt _ hlt).mp h⟩
  · intro h
    exact (digitValue?_ofNat_iff _ byte.toNat_lt _ h.1).mpr h.2

/-- A character beyond ASCII is left as it is. -/
theorem toLower_of_le {c : Char} (h : 128 ≤ c.toNat) : c.toLower = c := by
  have hnot : ¬ (c.val ≥ 'A'.val ∧ c.val ≤ 'Z'.val) := by
    intro hrange
    have hle : c.toNat ≤ 90 := UInt32.le_iff_toNat_le.mp hrange.2
    omega
  exact dif_neg hnot

/-- A hexadecimal digit of either case and its value. -/
def IsHexDigit (c : Char) (value : Nat) : Prop :=
  "0123456789abcdef".toList[value]? = some c ∨ "0123456789ABCDEF".toList[value]? = some c

instance (c : Char) (value : Nat) : Decidable (IsHexDigit c value) :=
  inferInstanceAs (Decidable (_ ∨ _))

/-- An ASCII character is a digit exactly if its small form is that of one. -/
theorem isHexDigit_ofNat_iff : ∀ n < 128, ∀ value < 16,
    IsHexDigit (Char.ofNat n) value ↔ (Char.ofNat n).toLower = hexDigit value := by
  decide +kernel

/-- Both spellings of the digits are ASCII. -/
theorem toNat_lt_of_mem_alphabet :
    ∀ c ∈ "0123456789abcdef".toList ++ "0123456789ABCDEF".toList, c.toNat < 128 := by
  simp

/-- A digit is one of those that are written, in either spelling. -/
theorem IsHexDigit.mem {c : Char} {value : Nat} (h : IsHexDigit c value) :
    c ∈ "0123456789abcdef".toList ++ "0123456789ABCDEF".toList := by
  obtain h | h := h
  · exact List.mem_append_left _ (List.mem_of_getElem? h)
  · exact List.mem_append_right _ (List.mem_of_getElem? h)

/-- A digit stands for a value below 16, and is ASCII. -/
theorem IsHexDigit.lt {c : Char} {value : Nat} (h : IsHexDigit c value) :
    value < 16 ∧ c.toNat < 128 := by
  refine ⟨?_, toNat_lt_of_mem_alphabet c h.mem⟩
  obtain h | h := h <;> exact (List.getElem?_eq_some_iff.mp h).1

/-- A digit of either case is in lower case what its value is written as. -/
theorem isHexDigit_iff {c : Char} {value : Nat} :
    IsHexDigit c value ↔ value < 16 ∧ c.toLower = hexDigit value := by
  have hascii (hc : c.toNat < 128) (hvalue : value < 16) :
      IsHexDigit c value ↔ c.toLower = hexDigit value := by
    have hsame := isHexDigit_ofNat_iff c.toNat hc value hvalue
    rwa [Char.ofNat_toNat] at hsame
  constructor
  · intro h
    exact ⟨h.lt.1, (hascii h.lt.2 h.lt.1).mp h⟩
  · rintro ⟨hvalue, h⟩
    refine (hascii (Nat.lt_of_not_le fun hc => ?_) hvalue).mpr h
    have hlower := toNat_hexDigit_lt value hvalue
    rw [← h, toLower_of_le hc] at hlower
    omega

/-- A character is encoded by one byte that stands for it, or else by bytes of which the first is
beyond those. -/
theorem utf8EncodeChar_cases (c : Char) :
    (∃ byte, String.utf8EncodeChar c = [byte] ∧ lowerChar byte = c.toLower) ∨
      128 ≤ c.toNat ∧ ∃ byte rest, String.utf8EncodeChar c = byte :: rest ∧ 128 ≤ byte.toNat := by
  have hval : c.val.toNat = c.toNat := rfl
  have hbyte {n : Nat} (h : n < 256) : (UInt8.ofNat n).toNat = n := UInt8.toNat_ofNat_of_lt' h
  unfold String.utf8EncodeChar
  simp only [hval]
  by_cases h : c.toNat ≤ 127
  · left
    have hone : (UInt8.ofNat c.toNat).toNat = c.toNat := hbyte (by omega)
    refine ⟨UInt8.ofNat c.toNat, by rw [if_pos h], ?_⟩
    rw [lowerChar, hone, Char.ofNat_toNat]
  · right
    refine ⟨by omega, ?_⟩
    rw [if_neg h]
    split
    · exact ⟨_, _, rfl, by rw [hbyte] <;> omega⟩
    · split
      · exact ⟨_, _, rfl, by rw [hbyte] <;> omega⟩
      · exact ⟨_, _, rfl, by rw [hbyte] <;> omega⟩

/-- Bytes that stand for characters of a small set are those of a text of such characters. -/
theorem map_lowerChar_iff {chars lower : List Char} (hlower : ∀ c ∈ lower, c.toNat < 128) :
    (chars.flatMap String.utf8EncodeChar).map lowerChar = lower ↔
      chars.map Char.toLower = lower := by
  induction chars generalizing lower with
  | nil => rfl
  | cons c chars ih =>
    rw [List.flatMap_cons, List.map_append, List.map_cons]
    obtain ⟨byte, hone, hchar⟩ | ⟨hc, byte, rest, hbytes, hbyte⟩ := utf8EncodeChar_cases c
    · rw [hone, List.map_singleton, hchar, List.singleton_append]
      cases lower with
      | nil => simp
      | cons d lower =>
        have htail : ∀ c ∈ lower, c.toNat < 128 := fun c h => hlower c (List.mem_cons_of_mem _ h)
        rw [List.cons_eq_cons, List.cons_eq_cons, ih htail]
    · -- neither the first byte nor the character is one of the set
      rw [hbytes, List.map_cons, List.cons_append]
      cases lower with
      | nil => simp
      | cons d lower =>
        have hd : d.toNat < 128 := hlower d List.mem_cons_self
        have hfirst : lowerChar byte ≠ d := by
          intro heq
          have hle := toNat_toLower_ofNat byte.toNat byte.toNat_lt hbyte
          rw [← heq, lowerChar] at hd
          omega
        have hlower' : c.toLower ≠ d := by
          intro heq
          rw [← heq, toLower_of_le hc] at hd
          omega
        simp only [List.cons_eq_cons, hfirst, hlower', false_and]

namespace Hex

/-- A byte that stands for a digit of either case by itself. -/
def IsDigitByte (byte : UInt8) : Prop := ∃ value, IsHexDigit (Char.ofNat byte.toNat) value

/-- The first byte that stands for no digit, and how many bytes come before it. -/
def FirstInvalid (digits : List UInt8) (byte : UInt8) (position : Nat) : Prop :=
  digits[position]? = some byte ∧ ¬ IsDigitByte byte ∧
    ∀ earlier ∈ digits.take position, IsDigitByte earlier

/-- A fault in the first digit is the first fault. -/
theorem firstInvalid_cons_zero {first byte : UInt8} {digits : List UInt8} :
    FirstInvalid (first :: digits) byte 0 ↔ first = byte ∧ ¬ IsDigitByte first := by
  simp only [FirstInvalid, List.getElem?_cons_zero, Option.some.injEq, List.take_zero,
    List.not_mem_nil, false_implies, implies_true, and_true]
  exact and_congr_right fun h => h ▸ Iff.rfl

/-- A first digit without a fault leaves the fault to the rest. -/
theorem firstInvalid_cons_succ {first byte : UInt8} {digits : List UInt8} {position : Nat} :
    FirstInvalid (first :: digits) byte (position + 1) ↔
      IsDigitByte first ∧ FirstInvalid digits byte position := by
  simp only [FirstInvalid, List.getElem?_cons_succ, List.take_succ_cons, List.forall_mem_cons]
  exact ⟨fun ⟨h, hno, hfirst, hrest⟩ => ⟨hfirst, h, hno, hrest⟩,
    fun ⟨hfirst, h, hno, hrest⟩ => ⟨h, hno, hfirst, hrest⟩⟩

/-- A half byte is read of the digits that are written so, in either spelling. -/
theorem halfByte_eq_ok_iff {byte : UInt8} {position value : Nat} :
    halfByte byte position = .ok value ↔ value < 16 ∧ lowerChar byte = hexDigit value := by
  rw [halfByte, ← digitValue?_iff]
  cases digitValue? 16 (Char.ofNat byte.toNat) <;> simp

/-- A half byte is refused exactly if it is no digit, and the fault names it and its place. -/
theorem halfByte_eq_error_iff {byte : UInt8} {position : Nat} {fault : HexError} :
    halfByte byte position = .error fault ↔
      ¬ IsDigitByte byte ∧ fault = .invalidDigit byte position := by
  have hdigit : IsDigitByte byte ↔ ∃ value, halfByte byte position = .ok value :=
    exists_congr fun value => isHexDigit_iff.trans halfByte_eq_ok_iff.symm
  rw [hdigit, halfByte]
  cases digitValue? 16 (Char.ofNat byte.toNat) <;> simp [eq_comm]

/-- A byte that is put together from its halves is written with their digits. -/
theorem encodeByte_ofNat {high low : Nat} (hhigh : high < 16) (hlow : low < 16) :
    encodeByte (UInt8.ofNat (16 * high + low)) = [hexDigit high, hexDigit low] := by
  have hbyte : (UInt8.ofNat (16 * high + low)).toNat = 16 * high + low :=
    UInt8.toNat_ofNat_of_lt' (show 16 * high + low < 256 by omega)
  have hdiv : (16 * high + low) / 16 = high := by omega
  have hmod : (16 * high + low) % 16 = low := by omega
  rw [encodeByte, hbyte, hdiv, hmod]

/-- Two digits are one byte, and the rest are further ones. -/
theorem decodePairs_cons_eq_ok_iff {position : Nat} {high low : UInt8} {rest bytes : List UInt8} :
    decodePairs position (high :: low :: rest) = .ok bytes ↔
      ∃ h l tail, halfByte high position = .ok h ∧ halfByte low (position + 1) = .ok l ∧
        decodePairs (position + 2) rest = .ok tail ∧ UInt8.ofNat (16 * h + l) :: tail = bytes := by
  rw [decodePairs]
  cases halfByte high position with
  | error e => simp [bind, Except.bind]
  | ok h =>
    cases halfByte low (position + 1) with
    | error e => simp [bind, Except.bind]
    | ok l =>
      cases decodePairs (position + 2) rest with
      | error e => simp [bind, Except.bind]
      | ok tail => simp [bind, Except.bind, pure, Except.pure]

/-- Pairs of digits of either case are read as the bytes that are written with them. -/
theorem decodePairs_eq_ok_iff {digits : List UInt8} (heven : digits.length % 2 = 0)
    (position : Nat) (bytes : List UInt8) :
    decodePairs position digits = .ok bytes ↔
      digits.map lowerChar = bytes.flatMap encodeByte := by
  match digits with
  | [] =>
    cases bytes with
    | nil => simp [decodePairs]
    | cons byte bytes => simp [decodePairs, encodeByte]
  | [_] => contradiction
  | high :: low :: rest =>
    have hrest : rest.length % 2 = 0 := by
      simp only [List.length_cons] at heven
      omega
    have ih := decodePairs_eq_ok_iff hrest (position + 2)
    simp only [decodePairs_cons_eq_ok_iff, halfByte_eq_ok_iff, ih, List.map_cons]
    constructor
    · rintro ⟨h, l, tail, ⟨hh, hhigh⟩, ⟨hl, hlow⟩, htail, rfl⟩
      rw [List.flatMap_cons, encodeByte_ofNat hh hl, hhigh, hlow, htail]
      rfl
    · intro h
      cases bytes with
      | nil => contradiction
      | cons byte bytes =>
        have hsize : byte.toNat < 256 := byte.toNat_lt
        simp only [List.flatMap_cons, encodeByte, List.cons_append, List.nil_append,
          List.cons_eq_cons] at h
        obtain ⟨hhigh, hlow, htail⟩ := h
        refine ⟨byte.toNat / 16, byte.toNat % 16, bytes, ⟨by omega, hhigh⟩, ⟨by omega, hlow⟩,
          htail, ?_⟩
        rw [Nat.div_add_mod, UInt8.ofNat_toNat]

/-- A fault in one of the first two digits comes before any in the rest. -/
theorem decodePairs_cons_eq_error_iff {position : Nat} {high low : UInt8} {rest : List UInt8}
    {fault : HexError} :
    decodePairs position (high :: low :: rest) = .error fault ↔
      halfByte high position = .error fault ∨
      (∃ h, halfByte high position = .ok h) ∧
        (halfByte low (position + 1) = .error fault ∨
        (∃ l, halfByte low (position + 1) = .ok l) ∧
          decodePairs (position + 2) rest = .error fault) := by
  rw [decodePairs]
  cases halfByte high position with
  | error e => simp [bind, Except.bind]
  | ok h =>
    cases halfByte low (position + 1) with
    | error e => simp [bind, Except.bind]
    | ok l =>
      cases decodePairs (position + 2) rest with
      | error e => simp [bind, Except.bind]
      | ok tail => simp [bind, Except.bind, pure, Except.pure]

/-- Pairs that are not read have a byte that stands for no digit, and the first one is reported. -/
theorem decodePairs_eq_error_iff {digits : List UInt8} (heven : digits.length % 2 = 0)
    (position : Nat) (fault : HexError) :
    decodePairs position digits = .error fault ↔
      ∃ byte i, FirstInvalid digits byte i ∧ fault = .invalidDigit byte (position + i) := by
  match digits with
  | [] => simp [decodePairs, FirstInvalid]
  | [_] => contradiction
  | high :: low :: rest =>
    have hrest : rest.length % 2 = 0 := by
      simp only [List.length_cons] at heven
      omega
    have ih := decodePairs_eq_error_iff hrest (position + 2) fault
    have hdigit {byte : UInt8} {position : Nat} :
        (∃ value, halfByte byte position = .ok value) ↔ IsDigitByte byte :=
      exists_congr fun value => halfByte_eq_ok_iff.trans isHexDigit_iff.symm
    rw [decodePairs_cons_eq_error_iff, halfByte_eq_error_iff, halfByte_eq_error_iff, hdigit, hdigit,
      ih]
    constructor
    · rintro (⟨hno, rfl⟩ | ⟨hhigh, ⟨hno, rfl⟩ | ⟨hlow, byte, i, hfirst, rfl⟩⟩)
      · exact ⟨high, 0, firstInvalid_cons_zero.mpr ⟨rfl, hno⟩, rfl⟩
      · exact ⟨low, 1, firstInvalid_cons_succ.mpr ⟨hhigh, firstInvalid_cons_zero.mpr ⟨rfl, hno⟩⟩,
          rfl⟩
      · refine ⟨byte, i + 2, firstInvalid_cons_succ.mpr ⟨hhigh, firstInvalid_cons_succ.mpr
          ⟨hlow, hfirst⟩⟩, ?_⟩
        rw [Nat.add_assoc, Nat.add_comm 2]
    · rintro ⟨byte, i, hfirst, rfl⟩
      match i with
      | 0 =>
        obtain ⟨rfl, hno⟩ := firstInvalid_cons_zero.mp hfirst
        exact .inl ⟨hno, rfl⟩
      | 1 =>
        obtain ⟨hhigh, hfirst⟩ := firstInvalid_cons_succ.mp hfirst
        obtain ⟨rfl, hno⟩ := firstInvalid_cons_zero.mp hfirst
        exact .inr ⟨hhigh, .inl ⟨hno, rfl⟩⟩
      | i + 2 =>
        obtain ⟨hhigh, hfirst⟩ := firstInvalid_cons_succ.mp hfirst
        obtain ⟨hlow, hfirst⟩ := firstInvalid_cons_succ.mp hfirst
        refine .inr ⟨hhigh, .inr ⟨hlow, byte, i, hfirst, ?_⟩⟩
        rw [Nat.add_assoc, Nat.add_comm 2]

/-! ## Digits that spell bytes -/

/-- Digits of either case that spell bytes in pairs, the high half of each byte first. -/
inductive Spells : List Char → List UInt8 → Prop
  | nil : Spells [] []
  | cons {c d : Char} {high low : Nat} {byte : UInt8} {digits : List Char} {bytes : List UInt8}
    (hhigh : IsHexDigit c high) (hlow : IsHexDigit d low) (hbyte : byte.toNat = 16 * high + low)
    (h : Spells digits bytes) : Spells (c :: d :: digits) (byte :: bytes)

/-- Digits spell the bytes that are written with them in lower case. -/
theorem spells_iff {digits : List Char} {bytes : List UInt8} :
    Spells digits bytes ↔ digits.map Char.toLower = bytes.flatMap encodeByte := by
  constructor
  · intro h
    induction h with
    | nil => rfl
    | @cons c d high low byte digits bytes hhigh hlow hbyte _ ih =>
      obtain ⟨hh, hc⟩ := isHexDigit_iff.mp hhigh
      obtain ⟨hl, hd⟩ := isHexDigit_iff.mp hlow
      have hencoded := encodeByte_ofNat hh hl
      rw [← hbyte, UInt8.ofNat_toNat] at hencoded
      rw [List.flatMap_cons, hencoded, List.map_cons, List.map_cons, hc, hd, ih]
      rfl
  · intro h
    induction bytes generalizing digits with
    | nil =>
      obtain rfl := List.map_eq_nil_iff.mp h
      exact .nil
    | cons byte bytes ih =>
      have hsize : byte.toNat < 256 := byte.toNat_lt
      obtain ⟨c, rest, rfl, hc, hrest⟩ := List.map_eq_cons_iff.mp h
      obtain ⟨d, rest, rfl, hd, hrest⟩ := List.map_eq_cons_iff.mp hrest
      exact .cons (isHexDigit_iff.mpr ⟨by omega, hc⟩) (isHexDigit_iff.mpr ⟨by omega, hd⟩)
        (Nat.div_add_mod _ _).symm (ih hrest)

/-- Twice as many digits as bytes are needed, and any digits do. -/
theorem exists_spells_iff {size : Nat} {digits : List Char} :
    (∃ bytes : List UInt8, bytes.length = size ∧ Spells digits bytes) ↔
      digits.length = 2 * size ∧ ∀ c ∈ digits, ∃ value, IsHexDigit c value := by
  constructor
  · rintro ⟨bytes, rfl, h⟩
    induction h with
    | nil => simp
    | cons hhigh hlow _ _ ih =>
      refine ⟨by simp [ih.1]; omega, List.forall_mem_cons.mpr ⟨⟨_, hhigh⟩, ?_⟩⟩
      exact List.forall_mem_cons.mpr ⟨⟨_, hlow⟩, ih.2⟩
  · rintro ⟨hlength, hdigits⟩
    induction size generalizing digits with
    | zero =>
      obtain rfl := List.eq_nil_of_length_eq_zero hlength
      exact ⟨[], rfl, .nil⟩
    | succ size ih =>
      match digits with
      | [] => simp at hlength
      | [_] =>
        simp only [List.length_cons, List.length_nil] at hlength
        omega
      | c :: d :: digits =>
        simp only [List.length_cons] at hlength
        obtain ⟨⟨high, hhigh⟩, hrest⟩ := List.forall_mem_cons.mp hdigits
        obtain ⟨⟨low, hlow⟩, hrest⟩ := List.forall_mem_cons.mp hrest
        obtain ⟨bytes, rfl, h⟩ := ih (by omega) hrest
        have hsize : 16 * high + low < 256 := by
          have hh := hhigh.lt.1
          have hl := hlow.lt.1
          omega
        exact ⟨UInt8.ofNat (16 * high + low) :: bytes, rfl,
          .cons hhigh hlow (UInt8.toNat_ofNat_of_lt' hsize) h⟩

/-! ## Texts -/

/-- Every byte has two digits. -/
theorem length_flatMap_encodeByte (bytes : List UInt8) :
    (bytes.flatMap encodeByte).length = 2 * bytes.length := by
  induction bytes with
  | nil => rfl
  | cons byte bytes ih =>
    rw [List.flatMap_cons, List.length_append, ih, List.length_cons, encodeByte]
    simp only [List.length_cons, List.length_nil]
    omega

/-- What bytes are written with are digits. -/
theorem exists_hexDigit_of_mem {bytes : List UInt8} {c : Char}
    (h : c ∈ bytes.flatMap encodeByte) : ∃ value < 16, c = hexDigit value := by
  obtain ⟨byte, -, hc⟩ := List.mem_flatMap.mp h
  have hsize : byte.toNat < 256 := byte.toNat_lt
  simp only [encodeByte, List.mem_cons, List.not_mem_nil, or_false] at hc
  obtain hc | hc := hc
  · exact ⟨_, by omega, hc⟩
  · exact ⟨_, by omega, hc⟩

/-- Written bytes are ASCII. -/
theorem toNat_lt_of_mem_encoded {bytes : List UInt8} {c : Char}
    (h : c ∈ bytes.flatMap encodeByte) : c.toNat < 128 := by
  obtain ⟨value, hvalue, rfl⟩ := exists_hexDigit_of_mem h
  exact toNat_hexDigit_lt value hvalue

/-- Bytes are written in small letters. -/
theorem map_toLower_encoded (bytes : List UInt8) :
    (bytes.flatMap encodeByte).map Char.toLower = bytes.flatMap encodeByte := by
  have hlower : ∀ c ∈ bytes.flatMap encodeByte, c.toLower = c := by
    intro c hc
    obtain ⟨value, hvalue, rfl⟩ := exists_hexDigit_of_mem hc
    exact toLower_hexDigit value hvalue
  rw [List.map_congr_left hlower, List.map_id']

/-- A text is read as a byte string of a size exactly if, in lower case, it is what the byte string
is written as. -/
theorem decodeSized_eq_ok_iff {size : Nat} {text : String} {bytes : List UInt8} :
    decodeSized size text = .ok bytes ↔
      bytes.length = size ∧ text.toList.map Char.toLower = bytes.flatMap encodeByte := by
  have hutf8 : text.toUTF8.toList = text.toList.flatMap String.utf8EncodeChar := by
    rw [← toList_toUTF8_ofList, String.ofList_toList]
  have hchars : (text.toUTF8.toList.map lowerChar = bytes.flatMap encodeByte ↔
      text.toList.map Char.toLower = bytes.flatMap encodeByte) := by
    rw [hutf8]
    exact map_lowerChar_iff fun c => toNat_lt_of_mem_encoded
  have hlength := length_flatMap_encodeByte bytes
  rw [← hchars, decodeSized]
  generalize text.toUTF8.toList = digits at hchars ⊢
  have hsize (h : digits.map lowerChar = bytes.flatMap encodeByte) :
      digits.length = 2 * bytes.length := by
    rw [← hlength, ← h, List.length_map]
  split
  · next hodd =>
    simp only [reduceCtorEq, false_iff, not_and]
    intro _ h
    have hdouble := hsize h
    omega
  · next heven =>
    split
    · next hwrong =>
      simp only [reduceCtorEq, false_iff, not_and]
      intro hright h
      have hdouble := hsize h
      omega
    · next hright =>
      rw [decodePairs_eq_ok_iff (by omega)]
      constructor
      · intro h
        have hdouble := hsize h
        exact ⟨by omega, h⟩
      · intro h
        exact h.2

/-- A text that is not read has an odd number of bytes, or else the wrong number, or else a byte
that stands for no digit; of these the first one is reported. -/
theorem decodeSized_eq_error_iff {size : Nat} {text : String} {fault : HexError} :
    decodeSized size text = .error fault ↔
      (text.toUTF8.toList.length % 2 = 1 ∧ fault = .oddLength) ∨
      (text.toUTF8.toList.length % 2 = 0 ∧ text.toUTF8.toList.length ≠ 2 * size ∧
        fault = .wrongLength) ∨
      (text.toUTF8.toList.length = 2 * size ∧ ∃ byte position,
        FirstInvalid text.toUTF8.toList byte position ∧ fault = .invalidDigit byte position) := by
  rw [decodeSized]
  generalize text.toUTF8.toList = bytes
  by_cases hodd : bytes.length % 2 = 1
  · have hlength : ¬ bytes.length = 2 * size := by omega
    simp [hodd, hlength, eq_comm]
  · have heven : bytes.length % 2 = 0 := by omega
    by_cases hsize : bytes.length = 2 * size
    · have hhalf : ¬ bytes.length / 2 ≠ size := by omega
      rw [if_neg hodd, if_neg hhalf, decodePairs_eq_error_iff heven]
      simp [hsize]
    · have hhalf : bytes.length / 2 ≠ size := by omega
      simp [hhalf, hsize, heven, eq_comm]

end Hex

end ChainIndex.Text
