import ChainIndex.Index.Filter
import Mathlib.Data.List.Count

/-!
# ChainIndex.Proofs.Index.Filtering

What filters keep of extrinsics and of events.

A condition is met where each of its present parts is (`Condition.MetByExtrinsic`,
`Condition.MetByEvent`); the functions that decide this agree with it.  Both filters go through
their items in one way (`sift`), so what there is to say of them is said once: they keep what meets
one of their conditions, in order and as often as it comes (`FilterLaws.conditional`), and the
other laws of filters follow (`filters_lawful`).
-/

namespace ChainIndex

/-! ## Conditions -/

/-- A version that lies within those bounds that are there. -/
structure VersionRange.Admits (range : VersionRange) (version : UInt32) : Prop where
  lower (bound : UInt32) (h : range.lower = some bound) : bound ≤ version
  upper (bound : UInt32) (h : range.upper = some bound) : version ≤ bound

/-- A version is in a range exactly if the range admits it. -/
theorem VersionRange.contains_iff {range : VersionRange} {version : UInt32} :
    range.contains version = true ↔ range.Admits version := by
  simp only [contains, Bool.and_eq_true, Option.all_eq_true, decide_eq_true_eq]
  constructor
  · intro h
    exact ⟨h.1, h.2⟩
  · intro h
    exact ⟨h.lower, h.upper⟩

namespace Condition

/-- An extrinsic that is as a condition says, in every part that the condition has. -/
structure MetByExtrinsic (c : Condition) (x : IndexedExtrinsic) : Prop where
  version (range : VersionRange) (h : c.specVersion = some range) : range.Admits x.specVersion
  pallet (name : String) (h : c.pallet = some name) : x.extrinsic.pallet = name
  method (name : String) (h : c.method = some name) : x.extrinsic.method = name
  success (outcome : Bool) (h : c.success = some outcome) : x.success = outcome

/-- An event that is as a condition says, in every part that the condition has: the outcome is no
such part, and neither is an empty name. -/
structure MetByEvent (c : Condition) (e : IndexedEvent) : Prop where
  version (range : VersionRange) (h : c.specVersion = some range) : range.Admits e.specVersion
  pallet (name : String) (h : c.pallet = some name) (hname : name ≠ "") :
    e.event.event.pallet = name
  method (name : String) (h : c.method = some name) (hname : name ≠ "") :
    e.event.event.method = name

theorem holdsOfVersion_iff {c : Condition} {version : UInt32} :
    c.holdsOfVersion version = true ↔
      ∀ range, c.specVersion = some range → range.Admits version := by
  simp only [holdsOfVersion, Option.all_eq_true, VersionRange.contains_iff]

/-- An empty name asks for any name. -/
theorem isNamed_iff {asked : Option String} {name : String} :
    isNamed asked name = true ↔ ∀ wanted, asked = some wanted → wanted ≠ "" → name = wanted := by
  simp only [isNamed, Option.all_eq_true, decide_eq_true_eq]
  constructor
  · intro h wanted hasked hne
    exact ((h wanted hasked).resolve_left hne).symm
  · intro h wanted hasked
    by_cases hempty : wanted = ""
    · exact .inl hempty
    · exact .inr (h wanted hasked hempty).symm

/-- A condition holds of exactly those extrinsics that meet it. -/
theorem holdsOfExtrinsic_iff {c : Condition} {x : IndexedExtrinsic} :
    c.holdsOfExtrinsic x = true ↔ c.MetByExtrinsic x := by
  simp only [holdsOfExtrinsic, Bool.and_eq_true, holdsOfVersion_iff, Option.all_eq_true,
    decide_eq_true_eq]
  constructor
  · intro h
    obtain ⟨⟨⟨hversion, hpallet⟩, hmethod⟩, hsuccess⟩ := h
    exact ⟨hversion, hpallet, hmethod, hsuccess⟩
  · intro h
    exact ⟨⟨⟨h.version, h.pallet⟩, h.method⟩, h.success⟩

/-- A condition holds of exactly those events that meet it. -/
theorem holdsOfEvent_iff {c : Condition} {e : IndexedEvent} :
    c.holdsOfEvent e = true ↔ c.MetByEvent e := by
  simp only [holdsOfEvent, Bool.and_eq_true, holdsOfVersion_iff, isNamed_iff]
  constructor
  · intro h
    obtain ⟨⟨hversion, hpallet⟩, hmethod⟩ := h
    exact ⟨hversion, hpallet, hmethod⟩
  · intro h
    exact ⟨⟨h.version, h.pallet⟩, h.method⟩

end Condition

/-! ## Keeping some items of a list -/

section

variable {γ : Type} [DecidableEq γ]

/-- What is left of some items where those of `P` are kept: nothing else, everything as often as it
was there, and in the same order. -/
structure Keeps (P : γ → Prop) (xs kept : List γ) : Prop where
  only (x : γ) (h : x ∈ kept) : P x
  count (x : γ) (h : P x) : kept.count x = xs.count x
  order : kept.Sublist xs

variable {P : γ → Prop} {p : γ → Bool} {xs kept : List γ}

/-- A test keeps exactly what passes it. -/
theorem keeps_filter (hp : ∀ x, p x = true ↔ P x) : Keeps P xs (xs.filter p) where
  only x hx := by
    have hpasses := (List.mem_filter.mp hx).2
    exact (hp x).mp hpasses
  count x hx := by
    have hpasses := (hp x).mpr hx
    exact List.count_filter hpasses
  order := List.filter_sublist

/-- There is only one list of what is kept. -/
theorem Keeps.eq_filter (h : Keeps P xs kept) (hp : ∀ x, p x = true ↔ P x) :
    xs.filter p = kept := by
  have hkept : kept.filter p = kept := List.filter_eq_self.mpr fun x hx => (hp x).mpr (h.only x hx)
  have hsub : kept.Sublist (xs.filter p) := by
    have horder := h.order.filter p
    rwa [hkept] at horder
  have hcount : ∀ x, kept.count x = (xs.filter p).count x := by
    intro x
    by_cases hx : p x = true
    · rw [List.count_filter hx, h.count x ((hp x).mp hx)]
    · have hnot : x ∉ kept := fun hmem => hx ((hp x).mpr (h.only x hmem))
      have hnot' : x ∉ xs.filter p := fun hmem => hx (List.mem_filter.mp hmem).2
      rw [List.count_eq_zero_of_not_mem hnot, List.count_eq_zero_of_not_mem hnot']
  have hlength := (List.perm_iff_count.mpr hcount).length_eq
  exact (hsub.eq_of_length hlength).symm

end

/-! ## Filters -/

section

variable {γ : Type} {holds : Condition → γ → Bool} {F G : List Condition} {xs ys : List γ}

/-- What is left of some items where a list of conditions is applied to them: everything if there
are no conditions, and else that of which one holds. -/
def sift (holds : Condition → γ → Bool) (filters : List Condition) (xs : List γ) : List γ :=
  if filters.isEmpty then xs else xs.filter fun x => filters.any (holds · x)

theorem filterExtrinsics_eq_sift : filterExtrinsics = sift Condition.holdsOfExtrinsic := rfl

theorem filterEvents_eq_sift : filterEvents = sift Condition.holdsOfEvent := rfl

theorem sift_nil : sift holds [] xs = xs := rfl

theorem sift_of_ne_nil (hF : F ≠ []) :
    sift holds F xs = xs.filter fun x => F.any (holds · x) := by
  rw [sift, if_neg (by simpa using hF)]

/-- Either way it is the items for which something holds that are kept. -/
theorem sift_eq_filter :
    sift holds F xs = xs.filter fun x => F.isEmpty || F.any (holds · x) := by
  by_cases hF : F = []
  · subst hF
    exact (List.filter_eq_self.mpr fun _ _ => rfl).symm
  · have hempty : F.isEmpty = false := by simpa using hF
    rw [sift_of_ne_nil hF]
    simp only [hempty, Bool.false_or]

/-- Every item is tested by itself. -/
theorem sift_append : sift holds F (xs ++ ys) = sift holds F xs ++ sift holds F ys := by
  simp only [sift_eq_filter, List.filter_append]

/-- What was kept is kept again. -/
theorem sift_sift : sift holds F (sift holds F xs) = sift holds F xs := by
  simp only [sift_eq_filter, List.filter_filter, Bool.and_self]

/-- Only which conditions there are counts. -/
theorem sift_congr (h : ∀ c, c ∈ F ↔ c ∈ G) : sift holds F xs = sift holds G xs := by
  have hempty : F.isEmpty = G.isEmpty := by
    rw [Bool.eq_iff_iff, List.isEmpty_iff, List.isEmpty_iff, List.eq_nil_iff_forall_not_mem,
      List.eq_nil_iff_forall_not_mem]
    simp only [h]
  have hany : ∀ x, F.any (holds · x) = G.any (holds · x) := by
    intro x
    rw [Bool.eq_iff_iff, List.any_eq_true, List.any_eq_true]
    simp only [h]
  simp only [sift_eq_filter, hempty, hany]

/-- A further condition lets further items through, unless there was none before. -/
theorem mem_sift_append (hF : F ≠ []) (hG : G ≠ []) {x : γ} :
    x ∈ sift holds (F ++ G) xs ↔ x ∈ sift holds F xs ∨ x ∈ sift holds G xs := by
  have hFG : F ++ G ≠ [] := by simp [hF]
  rw [sift_of_ne_nil hF, sift_of_ne_nil hG, sift_of_ne_nil hFG]
  simp only [List.mem_filter, List.any_append, Bool.or_eq_true]
  exact and_or_left

end

/-- The laws of a filter with lists of conditions, where `Met c x` says that the item `x` meets the
condition `c`. -/
structure FilterLaws {γ : Type} [DecidableEq γ] (filter : List Condition → List γ → List γ)
    (Met : Condition → γ → Prop) : Prop where
  /-- Without conditions everything is kept. -/
  unconditional (xs : List γ) : filter [] xs = xs
  /-- With conditions, what is kept are the items that meet one of them. -/
  conditional (F : List Condition) (hF : F ≠ []) (xs kept : List γ) :
    filter F xs = kept ↔ Keeps (fun x => ∃ c ∈ F, Met c x) xs kept
  /-- Two lists of conditions together keep what one of them keeps. -/
  either (F G : List Condition) (hF : F ≠ []) (hG : G ≠ []) (xs : List γ) (x : γ) :
    x ∈ filter (F ++ G) xs ↔ x ∈ filter F xs ∨ x ∈ filter G xs
  /-- Neither the order of the conditions counts nor how often one occurs. -/
  unordered (F G : List Condition) (h : ∀ c, c ∈ F ↔ c ∈ G) (xs : List γ) :
    filter F xs = filter G xs
  /-- A second time, a filter does nothing. -/
  idempotent (F : List Condition) (xs : List γ) : filter F (filter F xs) = filter F xs
  /-- Every item is looked at by itself. -/
  append (F : List Condition) (xs ys : List γ) : filter F (xs ++ ys) = filter F xs ++ filter F ys

/-- Filters with conditions are lawful, whatever the items are. -/
theorem sift_lawful {γ : Type} [DecidableEq γ] {holds : Condition → γ → Bool}
    {Met : Condition → γ → Prop} (h : ∀ c x, holds c x = true ↔ Met c x) :
    FilterLaws (sift holds) Met where
  unconditional _ := sift_nil
  conditional F hF xs kept := by
    have hany : ∀ x, F.any (holds · x) = true ↔ ∃ c ∈ F, Met c x := by
      intro x
      simp only [List.any_eq_true, h]
    rw [sift_of_ne_nil hF]
    constructor
    · intro hkept
      rw [← hkept]
      exact keeps_filter hany
    · intro hkeeps
      exact hkeeps.eq_filter hany
  either _ _ hF hG _ _ := mem_sift_append hF hG
  unordered _ _ hmem _ := sift_congr hmem
  idempotent _ _ := sift_sift
  append _ _ _ := sift_append

/-- The filters for extrinsics and for events are lawful, with conditions that are met where each of
their present parts is. -/
theorem filters_lawful :
    FilterLaws filterExtrinsics Condition.MetByExtrinsic ∧
      FilterLaws filterEvents Condition.MetByEvent := by
  constructor
  · rw [filterExtrinsics_eq_sift]
    exact sift_lawful fun c x => Condition.holdsOfExtrinsic_iff
  · rw [filterEvents_eq_sift]
    exact sift_lawful fun c e => Condition.holdsOfEvent_iff

end ChainIndex
