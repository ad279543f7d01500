import ChainIndex.Proofs.Task.Conduct
import Mathlib.Data.List.Infix

/-!
# ChainIndex.Proofs.Task.Steps

The steps of a task, one by one, while others change the state in between.

`t.Moves terms R Q` says that every step that `t` takes leads from one state to another as `R` says.
`t.Proceeds terms R endings` says besides how the task may end: at the step by which it does, it is
known in what state its own step before had left it, and what it asked until then (`Endings`).  The
states passed meanwhile are kept in a list (`Passed`), and where something has changed along the
list, there are two next to each other between which it changed (`Passed.exists_turn`).
-/

namespace ChainIndex

namespace Task

variable {σ : Type} {S : Signature} {α β : Type}

/-- Under the terms, a task keeps to them, its steps are steps of `R`, and it ends with a value of
`Q`. -/
def Moves (terms : Terms σ S) (R : σ → σ → Prop) (Q : α → Prop) : Task σ S α → Prop
  | .done a => Q a
  | .act change next => ∀ s, terms.state s → terms.state (change s) ∧ R s (change s) ∧
      (next s).Moves terms R Q
  | .ask query next => ∀ a, terms.answer query a → (next a).Moves terms R Q

/-- One step of a task: it changes the state, or a question of it is answered as is admitted. -/
inductive StepsTo (admits : (query : S.Query) → S.Answer query → Prop) :
    Task σ S α → σ → Task σ S α → σ → Prop
  | act (change : σ → σ) (next : σ → Task σ S α) (s : σ) :
    StepsTo admits (.act change next) s (next s) (change s)
  | answer {query : S.Query} (next : S.Answer query → Task σ S α) (s : σ) (a : S.Answer query)
    (ha : admits query a) : StepsTo admits (.ask query next) s (next a) s

/-- How a task may end. -/
structure Endings (σ : Type) (S : Signature) (α : Type) where
  /-- The values that it ends with by a change of the state from `s` to `s'`, where it had left the
  state as `left` by its own change before, and asked `made` until now. -/
  byChange : (left : σ) → (made : List (Exchange S)) → (s s' : σ) → α → Prop
  /-- The values that it ends with as it is answered. -/
  byAnswer : α → Prop

/-- The endings of which nothing is known. -/
def Endings.any : Endings σ S α := ⟨fun _ _ _ _ _ => True, fun _ => True⟩

/-- Under the terms, a task keeps to them, its changes of the state are steps of `R`, and it ends in
one of the endings. -/
def Proceeds (terms : Terms σ S) (R : σ → σ → Prop) (endings : Endings σ S α) :
    Task σ S α → (left : σ) → (made : List (Exchange S)) → Prop
  | .done _, _, _ => True
  | .act change next, left, made => ∀ s, terms.state s → terms.state (change s) ∧
      R s (change s) ∧ (∀ a, next s = .done a → endings.byChange left made s (change s) a) ∧
        (next s).Proceeds terms R endings (change s) made
  | .ask query next, left, made => ∀ a, terms.answer query a →
      (∀ b, next a = .done b → endings.byAnswer b) ∧
        (next a).Proceeds terms R endings left (made ++ [⟨query, a⟩])

variable {terms : Terms σ S} {R : σ → σ → Prop} {Q : α → Prop} {Q' : β → Prop}

/-- What is known of the end of a task may be weakened. -/
theorem Moves.mono {Q' : α → Prop} {t : Task σ S α} (h : t.Moves terms R Q)
    (himp : ∀ a, Q a → Q' a) : t.Moves terms R Q' := by
  induction t with
  | done a => exact himp a h
  | act change next ih => exact fun s hs => ⟨(h s hs).1, (h s hs).2.1, ih s (h s hs).2.2⟩
  | ask query next ih => exact fun a ha => ih a (h a ha)

/-- The steps of two tasks are those of the one and those of the other. -/
theorem Moves.bind {t : Task σ S α} {f : α → Task σ S β} (h : t.Moves terms R Q)
    (hf : ∀ a, Q a → (f a).Moves terms R Q') : (t.bind f).Moves terms R Q' := by
  induction t with
  | done a => exact hf a h
  | act change next ih => exact fun s hs => ⟨(h s hs).1, (h s hs).2.1, ih s (h s hs).2.2⟩
  | ask query next ih => exact fun a ha => ih a (h a ha)

/-- A task of which nothing need be known when it ends. -/
theorem Moves.proceeds {t : Task σ S α} (h : t.Moves terms R Q) (left : σ)
    (made : List (Exchange S)) : t.Proceeds terms R .any left made := by
  induction t generalizing left made with
  | done a => trivial
  | act change next ih =>
    intro s hs
    obtain ⟨hchange, hstep, hnext⟩ := h s hs
    exact ⟨hchange, hstep, fun _ _ => trivial, ih s hnext (change s) made⟩
  | ask query next ih =>
    exact fun a ha => ⟨fun _ _ => trivial, ih a (h a ha) left (made ++ [⟨query, a⟩])⟩

end Task

/-! ## States passed -/

/-- The states from `first` to the present one, each after the one before by a step of `R`; the
last one comes first. -/
inductive Passed {σ : Type} (R : σ → σ → Prop) (first : σ) : List σ → σ → Prop
  | here : Passed R first [first] first
  | step {passed : List σ} {s s' : σ} (h : Passed R first passed s) (hstep : R s s') :
    Passed R first (s' :: passed) s'

namespace Passed

variable {σ : Type} {R : σ → σ → Prop} {first last : σ} {passed : List σ}

/-- The present state is the last one that was passed. -/
theorem head (h : Passed R first passed last) : ∃ before, passed = last :: before := by
  cases h with
  | here => exact ⟨[], rfl⟩
  | step _ _ => exact ⟨_, rfl⟩

/-- What did not hold at first and holds now came about by one step. -/
theorem exists_turn {P : σ → Prop} (h : Passed R first passed last) (hfirst : ¬ P first)
    (hlast : P last) : ∃ s s', [s', s] <:+: passed ∧ R s s' ∧ ¬ P s ∧ P s' := by
  induction h with
  | here => exact absurd hlast hfirst
  | @step passed s s' h hstep ih =>
    by_cases hs : P s
    · obtain ⟨t, t', hinfix, hturn⟩ := ih hs
      exact ⟨t, t', List.infix_cons hinfix, hturn⟩
    · obtain ⟨before, rfl⟩ := h.head
      exact ⟨s, s', (List.prefix_append [s', s] before).isInfix, hstep, hs, hlast⟩

end Passed

end ChainIndex
