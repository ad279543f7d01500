import ChainIndex.Proofs.Task.Run

/-!
# ChainIndex.Proofs.Task.Questions

The questions that a task may ask and the changes that it may make, whatever it is answered.

`Asks P Q t` says that every question of `t` satisfies `P` and that `t` ends with a value
that satisfies `Q`, for all answers and all states in between.  `Confined R P Q t` says besides that
every change that `t` makes is one of `R`.  It is shown of a task by going through its parts, and
then holds of every run and every interleaving with other tasks.
-/

namespace ChainIndex.Task

variable {σ τ κ ε : Type} {S T : Signature} {α β : Type}

/-- Whatever it is answered, a task asks only questions of `P` and ends with a value of `Q`. -/
def Asks (P : S.Query → Prop) (Q : α → Prop) : Task σ S α → Prop
  | .done a => Q a
  | .act _ next => ∀ s, (next s).Asks P Q
  | .ask query next => P query ∧ ∀ a, (next a).Asks P Q

/-- Whatever it is answered, a task makes only changes of `R`, asks only questions of `P` and ends
with a value of `Q`. -/
def Confined (R : σ → σ → Prop) (P : S.Query → Prop) (Q : α → Prop) : Task σ S α → Prop
  | .done a => Q a
  | .act change next => ∀ s, R s (change s) ∧ (next s).Confined R P Q
  | .ask query next => P query ∧ ∀ a, (next a).Confined R P Q

variable {P : S.Query → Prop} {Q : α → Prop} {Q' : β → Prop} {R : σ → σ → Prop}

/-- Asking only some questions is no more than that where every change is allowed. -/
theorem asks_iff {t : Task σ S α} : t.Asks P Q ↔ t.Confined (fun _ _ => True) P Q := by
  induction t with
  | done a => exact Iff.rfl
  | act change next ih => exact forall_congr' fun s => (ih s).trans (iff_of_eq (true_and _).symm)
  | ask query next ih => exact and_congr_right fun _ => forall_congr' ih

/-! ## Parts of tasks -/

/-- A question asks nothing but itself. -/
theorem asks_question {query : S.Query} (h : P query) :
    (Task.question query : Task σ S _).Asks P fun _ => True :=
  ⟨h, fun _ => trivial⟩

theorem confined_read (hsame : ∀ s, R s s) (view : σ → α) :
    (Task.read view : Task σ S α).Confined R P fun _ => True :=
  fun s => ⟨hsame s, trivial⟩

/-- Confined tasks are confined one after the other. -/
theorem Confined.bind {t : Task σ S α} {f : α → Task σ S β} (h : t.Confined R P Q)
    (hf : ∀ a, Q a → (f a).Confined R P Q') : (t.bind f).Confined R P Q' := by
  induction t with
  | done a => exact hf a h
  | act change next ih => exact fun s => ⟨(h s).1, ih s (h s).2⟩
  | ask query next ih => exact ⟨h.1, fun a => ih a (h.2 a)⟩

/-- A failure ends a task that may fail, so only results are passed on. -/
theorem Confined.bind_result {x : ExceptT ε (Task σ S) α} {f : α → ExceptT ε (Task σ S) β}
    (h : x.run.Confined R P fun _ => True)
    (hf : ∀ a, (f a).run.Confined R P fun _ => True) :
    (x >>= f).run.Confined R P fun _ => True := by
  refine Confined.bind h fun result _ => ?_
  cases result with
  | ok a => exact hf a
  | error e => trivial

/-- Renaming errors neither asks nor changes anything. -/
theorem Confined.adapt {ε' : Type} {x : ExceptT ε (Task σ S) α} (rename : ε → ε')
    (h : x.run.Confined R P fun _ => True) :
    (ExceptT.adapt rename x).run.Confined R P fun _ => True :=
  Confined.bind h fun _ _ => trivial

/-- What is left of a task after it has worked up to a question is confined as the task was. -/
theorem Confined.toQuestion {t : Task σ S α} (h : t.Confined R P Q) :
    t.toQuestion.Confined R P fun rest => rest.Confined R P Q := by
  induction t with
  | done a => exact h
  | act change next ih => exact fun s => ⟨(h s).1, ih s (h s).2⟩
  | ask query next ih => exact h

/-- What is left of a confined task after a question is confined. -/
theorem Confined.pastQuestion {t : Task σ S α} (h : t.Confined R P Q) :
    t.pastQuestion.Confined R P fun rest => rest.Confined R P Q := by
  cases t with
  | done a => exact h
  | act change next => exact fun s => ⟨(h s).1, Confined.toQuestion (h s).2⟩
  | ask query next => exact ⟨h.1, fun a => Confined.toQuestion (h.2 a)⟩

/-! ## Tasks inside others -/

/-- A task on a part of the state asks what it asks by itself. -/
theorem Asks.within {t : Task τ S α} (part : Part σ τ) (h : t.Asks P Q) :
    (t.within part).Asks P Q := by
  induction t with
  | done a => exact h
  | act change next ih => exact fun s => ih _ (h _)
  | ask query next ih => exact ⟨h.1, fun a => ih a (h.2 a)⟩

/-- A task asks of one side what it asks by itself. -/
theorem Asks.inLeft {P : (S.sum T).Query → Prop} {t : Task σ S α}
    (h : t.Asks (fun query => P (.inl query)) Q) : t.inLeft.Asks P Q := by
  induction t with
  | done a => exact h
  | act change next ih => exact fun s => ih s (h s)
  | ask query next ih => exact ⟨h.1, fun a => ih a (h.2 a)⟩

/-! ## Runs -/

/-- A run makes no changes but those allowed, taken together. -/
theorem Confined.run_state {t : Task σ S α} (h : t.Confined R P Q) (hsame : ∀ s, R s s)
    (htrans : ∀ {s s' s''}, R s s' → R s' s'' → R s s'') (server : Server S κ) (s : σ) (k : κ) :
    R s (t.run server s k).2.1 := by
  induction t generalizing s k with
  | done a => exact hsame s
  | act change next ih => exact htrans (h s).1 (ih s (h s).2 (change s) k)
  | ask query next ih => exact ih _ (h.2 _) s _

/-- A run ends as foreseen, and what it adds to a record are questions as foreseen. -/
theorem Asks.recorded {t : Task σ S α} (h : t.Asks P Q) (server : Server S κ) (s : σ) (k : κ)
    (record : List (Exchange S)) :
    Q (t.run server.recording s (k, record)).1 ∧
      ∃ more, (t.run server.recording s (k, record)).2.2.2 = record ++ more ∧
        ∀ exchange ∈ more, P exchange.query := by
  induction t generalizing s k record with
  | done a => exact ⟨h, [], (List.append_nil record).symm, by simp⟩
  | act change next ih => exact ih s (h s) (change s) k record
  | ask query next ih =>
    have hstep := ih (server query k).1 (h.2 _) s (server query k).2
      (record ++ [⟨query, (server query k).1⟩])
    obtain ⟨hq, more, hrecord, hmore⟩ := hstep
    refine ⟨hq, ⟨query, (server query k).1⟩ :: more, ?_, ?_⟩
    · rw [List.append_assoc] at hrecord
      exact hrecord
    · intro exchange hmem
      cases hmem with
      | head => exact h.1
      | tail _ htail => exact hmore exchange htail

/-- A record of foreseen questions goes on to be one. -/
theorem Asks.forall_recorded {t : Task σ S α} (h : t.Asks P Q) (server : Server S κ) (s : σ) (k : κ)
    {record : List (Exchange S)} (hrecord : ∀ exchange ∈ record, P exchange.query) :
    ∀ exchange ∈ (t.run server.recording s (k, record)).2.2.2, P exchange.query := by
  obtain ⟨-, more, hmore, hP⟩ := h.recorded server s k record
  rw [hmore]
  exact List.forall_mem_append.mpr ⟨hrecord, hP⟩

end ChainIndex.Task
