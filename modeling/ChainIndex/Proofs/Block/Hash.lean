import ChainIndex.Block.Hash
import ChainIndex.Proofs.Text.Hex

/-!
# ChainIndex.Proofs.Block.Hash

Which texts denote a block hash.

The reader takes the digits of a hash in either case and does not insist on the marker `0x`; apart
from that a text must be what the hash is written as (`ofText_eq_ok_iff`).  What is left without the
marker decides how any text is read, and the fault that is found in it (`ofText_exact`).
-/

namespace ChainIndex.BlockHash

open ChainIndex.Text

/-- A text that denotes a hash: with its digits in lower case, and with the marker `0x` if it is
missing, it is the written form of the hash. -/
def Denotes (text : String) (hash : BlockHash) : Prop :=
  ∃ digits : List Char, (text.toList = digits ∨ text.toList = '0' :: 'x' :: digits) ∧
    '0' :: 'x' :: digits.map Char.toLower = hash.toText.toList

/-- The text of a hash is the marker and two digits for each byte. -/
theorem toList_toText (hash : BlockHash) :
    hash.toText.toList = '0' :: 'x' :: hash.bytes.toList.flatMap Hex.encodeByte := by
  simp [toText, Hex.encode]

/-- A marker at the front of a text is dropped. -/
theorem dropMarker_of_marker {text : String} {digits : List Char}
    (h : text.toList = '0' :: 'x' :: digits) : (dropMarker text).toList = digits := by
  simp [dropMarker, h]

/-- A text without a marker is left as it is. -/
theorem dropMarker_of_no_marker {text : String}
    (h : ∀ digits, text.toList ≠ '0' :: 'x' :: digits) : dropMarker text = text := by
  unfold dropMarker
  split
  · next digits htext => exact absurd htext (h digits)
  · rfl

/-- What is left of a text without its marker. -/
theorem toList_dropMarker (text : String) :
    text.toList = (dropMarker text).toList ∨
      text.toList = '0' :: 'x' :: (dropMarker text).toList := by
  by_cases h : ∃ digits, text.toList = '0' :: 'x' :: digits
  · obtain ⟨digits, hdigits⟩ := h
    right
    rw [dropMarker_of_marker hdigits, hdigits]
  · left
    rw [dropMarker_of_no_marker fun digits hdigits => h ⟨digits, hdigits⟩]

/-- The marker is no digit. -/
theorem ne_marker_of_encoded {bytes : List UInt8} {digits more : List Char}
    (h : digits.map Char.toLower = bytes.flatMap Hex.encodeByte) : digits ≠ '0' :: 'x' :: more := by
  intro hdigits
  have hmem : 'x' ∈ bytes.flatMap Hex.encodeByte := by
    rw [← h, hdigits]
    simp
  obtain ⟨value, hvalue, hx⟩ := Hex.exists_hexDigit_of_mem hmem
  revert value
  decide

/-- Only a text without its marker is read. -/
theorem denotes_iff {text : String} {hash : BlockHash} :
    Denotes text hash ↔
      (dropMarker text).toList.map Char.toLower = hash.bytes.toList.flatMap Hex.encodeByte := by
  constructor
  · intro h
    obtain ⟨digits, htext, hdigits⟩ := h
    rw [toList_toText] at hdigits
    have hencoded := List.tail_eq_of_cons_eq (List.tail_eq_of_cons_eq hdigits)
    obtain htext | htext := htext
    · have hmarker : ∀ more, text.toList ≠ '0' :: 'x' :: more := by
        intro more
        rw [htext]
        exact ne_marker_of_encoded hencoded
      rw [dropMarker_of_no_marker hmarker, htext, hencoded]
    · rw [dropMarker_of_marker htext, hencoded]
  · intro h
    refine ⟨(dropMarker text).toList, toList_dropMarker text, ?_⟩
    rw [toList_toText, h]

/-- The texts that are read as a hash are those that denote it. -/
theorem ofText_eq_ok_iff {text : String} {hash : BlockHash} :
    ofText text = .ok hash ↔ Denotes text hash := by
  have hread := @Hex.decodeSized_eq_ok_iff 32 (dropMarker text)
  rw [denotes_iff, ofText]
  constructor
  · intro h
    cases hbytes : Hex.decodeSized 32 (dropMarker text) with
    | error fault =>
      rw [hbytes] at h
      contradiction
    | ok bytes =>
      rw [hbytes] at h
      obtain ⟨hlength, hencoded⟩ := hread.mp hbytes
      obtain rfl := Except.ok.inj h
      have hsame : (Vector.ofFn fun i : Fin 32 => bytes.getD i.val 0).toList = bytes := by
        refine List.ext_getElem (by simp [hlength]) fun i h₁ h₂ => ?_
        simp [h₂]
      rw [hsame, hencoded]
  · intro h
    have hbytes := hread.mpr ⟨Vector.length_toList, h⟩
    rw [hbytes]
    refine congrArg Except.ok (congrArg BlockHash.mk (Vector.ext fun i hi => ?_))
    simp

/-- A hash is denoted by its written form. -/
theorem denotes_toText (hash : BlockHash) : Denotes hash.toText hash := by
  have hdigits := toList_toText hash
  refine ⟨_, .inr hdigits, ?_⟩
  rw [Hex.map_toLower_encoded, hdigits]

/-- A hash is read back from its text. -/
theorem ofText_toText (hash : BlockHash) : ofText hash.toText = .ok hash :=
  ofText_eq_ok_iff.mpr (denotes_toText hash)

/-! ## All texts -/

/-- How a text is read as a hash, where `rest` is what is left without one leading marker. -/
structure Reads (text rest : String) : Prop where
  /-- One marker is left out at most, and only in lower case. -/
  marker : text.toList = '0' :: 'x' :: rest.toList ∨
    rest = text ∧ ∀ more, text.toList ≠ '0' :: 'x' :: more
  accepted : (∃ hash, ofText text = .ok hash) ↔
    rest.toList.length = 64 ∧ ∀ c ∈ rest.toList, ∃ value, IsHexDigit c value
  /-- The digits spell the bytes of the hash. -/
  spelled : ∀ hash, ofText text = .ok hash ↔ Hex.Spells rest.toList hash.bytes.toList
  /-- The hash is written with the same digits. -/
  written : ∀ hash, ofText text = .ok hash →
    hash.toText.toList = '0' :: 'x' :: rest.toList.map Char.toLower
  oddLength : ofText text = .error .oddLength ↔ rest.toUTF8.toList.length % 2 = 1
  wrongLength : ofText text = .error .wrongLength ↔
    rest.toUTF8.toList.length % 2 = 0 ∧ rest.toUTF8.toList.length ≠ 64
  /-- The fault is the first byte that is no digit, and its place is counted in bytes. -/
  invalidDigit : ∀ byte position, ofText text = .error (.invalidDigit byte position) ↔
    rest.toUTF8.toList.length = 64 ∧ Hex.FirstInvalid rest.toUTF8.toList byte position

/-- What keeps a text from being a hash is the first fault in what follows the marker. -/
theorem ofText_eq_error_iff {text : String} {fault : Hex.HexError} :
    ofText text = .error fault ↔ Hex.decodeSized 32 (dropMarker text) = .error fault := by
  rw [ofText]
  cases Hex.decodeSized 32 (dropMarker text) <;> simp [bind, Except.bind, pure, Except.pure]

/-- A text is read as a hash exactly if it spells the bytes, after the marker. -/
theorem ofText_eq_ok_iff_spells {text : String} {hash : BlockHash} :
    ofText text = .ok hash ↔ Hex.Spells (dropMarker text).toList hash.bytes.toList := by
  rw [ofText_eq_ok_iff, denotes_iff, Hex.spells_iff]

/-- A text is some hash exactly if it has 64 hexadecimal digits after the marker. -/
theorem exists_ofText_iff {text : String} :
    (∃ hash, ofText text = .ok hash) ↔ (dropMarker text).toList.length = 64 ∧
      ∀ c ∈ (dropMarker text).toList, ∃ value, IsHexDigit c value := by
  have hspelled := @Hex.exists_spells_iff 32 (dropMarker text).toList
  rw [← hspelled]
  constructor
  · rintro ⟨hash, hhash⟩
    exact ⟨hash.bytes.toList, Vector.length_toList, ofText_eq_ok_iff_spells.mp hhash⟩
  · rintro ⟨bytes, hlength, hspells⟩
    exact ⟨⟨⟨bytes.toArray, hlength⟩⟩, ofText_eq_ok_iff_spells.mpr hspells⟩

/-- How a text is read is decided by what follows the marker. -/
theorem reads_dropMarker (text : String) : Reads text (dropMarker text) where
  marker := by
    by_cases h : ∃ digits, text.toList = '0' :: 'x' :: digits
    · obtain ⟨digits, hdigits⟩ := h
      left
      rw [dropMarker_of_marker hdigits, hdigits]
    · have hnone : ∀ more, text.toList ≠ '0' :: 'x' :: more := fun more hmore => h ⟨more, hmore⟩
      exact .inr ⟨dropMarker_of_no_marker hnone, hnone⟩
  accepted := exists_ofText_iff
  spelled hash := ofText_eq_ok_iff_spells
  written hash h := by
    rw [toList_toText, Hex.spells_iff.mp (ofText_eq_ok_iff_spells.mp h)]
  oddLength := by simp [ofText_eq_error_iff, Hex.decodeSized_eq_error_iff]
  wrongLength := by simp [ofText_eq_error_iff, Hex.decodeSized_eq_error_iff]
  invalidDigit byte position := by
    rw [ofText_eq_error_iff, Hex.decodeSized_eq_error_iff]
    simp [eq_comm]

/-- Whether a text is read as a hash, as which one, and with which fault if it is not, is decided by
what is left of it without one marker; what a hash is written as is read as this hash. -/
theorem ofText_exact :
    (∀ text, ∃ rest, Reads text rest) ∧ ∀ hash : BlockHash, ofText hash.toText = .ok hash :=
  ⟨fun text => ⟨dropMarker text, reads_dropMarker text⟩, ofText_toText⟩

end ChainIndex.BlockHash
