import ChainIndex.Json.Document
import ChainIndex.Json.Members
import Mathlib.Data.List.Nodup

/-!
# ChainIndex.Proofs.Json.Members

What is written is read back, for the parts that records are made of and for records themselves.

A record is written as an object with one member for each name, so that all of them are used, none
twice (`members?_object`), and each part is found under its name.  A written form is faithful to
some values if each of them is read back, and whatever is read is one of them
(`Format.Faithful`): reading and writing again then leads to the same value, from whatever form it
was read.
-/

namespace ChainIndex.Json

variable {α : Type}

/-! ## Leaves -/

@[simp] theorem toUInt64?_ofUInt64 (n : UInt64) : toUInt64? (ofUInt64 n) = some n := rfl

@[simp] theorem toUInt32?_ofUInt32 (n : UInt32) : toUInt32? (ofUInt32 n) = some n := by
  simp [toUInt32?, ofUInt32, ofUInt64, UInt32.toNat_lt_size]

@[simp] theorem toUInt8?_ofUInt64 (n : UInt8) : toUInt8? (ofUInt64 n.toUInt64) = some n := by
  simp [toUInt8?, ofUInt64, UInt8.toNat_lt_size]

@[simp] theorem toInt64?_ofInt64 (n : Int64) : toInt64? (ofInt64 n) = some n := by
  unfold ofInt64
  split
  · rfl
  · next h =>
    have hsmall : n.toUInt64.toNat < 0x8000000000000000 := by
      rw [Int64.toNat_toUInt64_of_le (Int64.not_lt.mp h)]
      exact n.toNatClampNeg_lt
    exact if_pos hsmall

@[simp] theorem toString?_string (text : String) : toString? (.string text) = some text := rfl

@[simp] theorem toBool?_bool (b : Bool) : toBool? (.bool b) = some b := rfl

@[simp] theorem toAny?_eq (value : Json) : toAny? value = some value := rfl

/-- Reading each of some items that were written gives the items. -/
theorem mapM_eq_some_of {β γ : Type} {decode : β → Option γ} {encode : γ → β}
    (h : ∀ a, decode (encode a) = some a) (items : List γ) :
    (items.map encode).mapM decode = some items := by
  induction items with
  | nil => rfl
  | cons a items ih => simp [h, ih]

/-- A written list is read back where its items are. -/
theorem toList?_ofList {decode : Json → Option α} {encode : α → Json}
    (h : ∀ a, decode (encode a) = some a) (items : List α) :
    toList? decode (ofList encode items) = some items :=
  mapM_eq_some_of h items

@[simp] theorem toList?_ofList_string (texts : List String) :
    toList? toString? (ofList .string texts) = some texts :=
  toList?_ofList toString?_string texts

@[simp] theorem toList?_toAny?_array (items : List Json) :
    toList? toAny? (.array items) = some items := by
  have h : (items.map id).mapM toAny? = some items := mapM_eq_some_of toAny?_eq items
  rwa [List.map_id] at h

/-- A written optional part is read back where the part is, unless it is written as `null`. -/
theorem toOption?_ofOption {decode : Json → Option α} {encode : α → Json} (part : Option α)
    (h : ∀ a, part = some a → encode a ≠ .null ∧ decode (encode a) = some a) :
    toOption? decode (ofOption encode part) = some part := by
  cases part with
  | none => rfl
  | some a =>
    obtain ⟨hnull, hread⟩ := h a rfl
    change toOption? decode (encode a) = _
    unfold toOption?
    split
    · next heq => exact absurd heq hnull
    · rw [hread]
      rfl

@[simp] theorem toOption?_ofOption_string (part : Option String) :
    toOption? toString? (ofOption .string part) = some part :=
  toOption?_ofOption part fun _ _ => ⟨by simp, rfl⟩

/-- A part that is kept as a value is read back, unless it is `null`, which counts as missing. -/
theorem toOption?_toAny?_ofOption {part : Option Json} (h : part ≠ some .null) :
    toOption? toAny? (ofOption id part) = some part :=
  toOption?_ofOption part fun _ ha => ⟨fun hnull => h (hnull ▸ ha), rfl⟩

/-- What is read of an optional part is never `null`. -/
theorem ne_null_of_toOption?_toAny? {value : Json} {part : Option Json}
    (h : toOption? toAny? value = some part) : part ≠ some .null := by
  unfold toOption? at h
  split at h
  · rw [← Option.some.inj h]
    simp
  · next hnull =>
    rw [← Option.some.inj h]
    simpa using hnull

/-! ## Records -/

/-- The names of some members are distinct if none comes twice. -/
theorem distinctNames_iff {members : List (String × Json)} :
    distinctNames members = true ↔ (members.map Prod.fst).Nodup := by
  induction members with
  | nil => simp [distinctNames]
  | cons member members ih =>
    simp only [distinctNames, Bool.and_eq_true, List.all_eq_true, decide_eq_true_eq, List.map_cons,
      List.nodup_cons, ih, List.mem_map, not_exists, not_and]

/-- The members of an object that a record of these names uses. -/
def usedMembers (names : List String) (members : List (String × Json)) : List (String × Json) :=
  members.filter fun member => names.contains member.1

/-- A record is made of the members it uses, if no name comes twice among them. -/
theorem members?_object_eq_some_iff {names : List String} {members : List (String × Json)}
    {m : Members} : (object members).members? names = some m ↔
      ((usedMembers names members).map Prod.fst).Nodup ∧
        m = ⟨usedMembers names members, false⟩ := by
  rw [← distinctNames_iff, members?]
  simp only [usedMembers, Option.ite_none_right_eq_some, Option.some.injEq, @eq_comm _ m]

/-- An object whose members are named as asked for, each name once, has all its members as
parts. -/
@[simp] theorem members?_object {names : List String} {members : List (String × Json)}
    (hnames : members.map Prod.fst = names) (hdistinct : names.Nodup) :
    (object members).members? names = some ⟨members, false⟩ := by
  have hused : usedMembers names members = members := by
    refine List.filter_eq_self.mpr fun member hmember => ?_
    rw [List.contains_iff_mem, ← hnames]
    exact List.mem_map_of_mem hmember
  exact members?_object_eq_some_iff.mpr ⟨by rwa [hused, hnames], by rw [hused]⟩

namespace Members

variable {name other : String} {value : Json} {rest : List (String × Json)} {positional : Bool}

@[simp] theorem get?_cons :
    (⟨(other, value) :: rest, positional⟩ : Members).get? name =
      if name = other then some value else (⟨rest, positional⟩ : Members).get? name := by
  unfold get?
  rw [List.lookup_cons]
  by_cases h : name = other
  · simp [h]
  · have hne : (name == other) = false := beq_eq_false_iff_ne.mpr h
    simp only [hne, if_neg h]

variable {m : Members} {decode : Json → Option α}

/-- What is read of an optional part, present or missing, is never `null`. -/
theorem ne_null_of_optional {part : Option Json} (h : m.optional name toAny? = some part) :
    part ≠ some .null := by
  unfold optional at h
  split at h
  · exact ne_null_of_toOption?_toAny? h
  · split at h
    · cases h
    · rw [← Option.some.inj h]
      simp

/-- A part that is missing by default is never `null`. -/
theorem ne_null_of_defaulted {part : Option Json}
    (h : m.defaulted name none (toOption? toAny?) = some part) : part ≠ some .null := by
  unfold defaulted at h
  split at h
  · exact ne_null_of_toOption?_toAny? h
  · rw [← Option.some.inj h]
    simp

end Members

/-! ## Written forms -/

/-- A written form from which the definite values are read back, and from which no others are
read: whatever a value was read from, it is read again from the form that it is written in. -/
structure Format.Faithful (format : Format α) (definite : α → Prop) : Prop where
  read_write : ∀ a, definite a → format.read (format.write a) = some a
  reread : ∀ value a, format.read value = some a →
    definite a ∧ format.read (format.write a) = some a

/-- A written form from which every value is read back. -/
theorem Format.Faithful.of_forall {format : Format α}
    (h : ∀ a, format.read (format.write a) = some a) : format.Faithful fun _ => True where
  read_write := fun a _ => h a
  reread := fun _ a _ => ⟨trivial, h a⟩

/-- A form from which the definite values are read back, where no others are ever read. -/
theorem Format.Faithful.of_definite {format : Format α} {definite : α → Prop}
    (h : ∀ a, definite a → format.read (format.write a) = some a)
    (hread : ∀ value a, format.read value = some a → definite a) : format.Faithful definite where
  read_write := h
  reread := fun value a ha => ⟨hread value a ha, h a (hread value a ha)⟩

end ChainIndex.Json
