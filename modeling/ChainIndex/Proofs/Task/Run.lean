import ChainIndex.Task.Run

/-!
# ChainIndex.Proofs.Task.Run

Running tasks step by step, and keeping a record of what they ask.

The first part rewrites the run of a composed task into the runs of its parts, so that a
task made of steps and questions can be executed by rewriting.  The second part is about
servers that record their exchanges: a record only grows, and recording changes nothing
else.
-/

namespace ChainIndex

variable {σ τ κ ε : Type} {S T : Signature} {α β : Type}

namespace Task

/-- Going on twice is going on with what goes on. -/
theorem bind_bind {γ : Type} (t : Task σ S α) (f : α → Task σ S β) (g : β → Task σ S γ) :
    (t.bind f).bind g = t.bind fun a => (f a).bind g := by
  induction t with
  | done a => rfl
  | act change next ih => exact congrArg (Task.act change) (funext ih)
  | ask query next ih => exact congrArg (Task.ask query) (funext ih)

/-! ## Runs of composed tasks -/

@[simp] theorem run_pure (server : Server S κ) (a : α) (s : σ) (k : κ) :
    (pure a : Task σ S α).run server s k = (a, s, k) := rfl

@[simp] theorem run_read (server : Server S κ) (view : σ → α) (s : σ) (k : κ) :
    (Task.read view : Task σ S α).run server s k = (view s, s, k) := rfl

@[simp] theorem run_step (server : Server S κ) (f : σ → α × σ) (s : σ) (k : κ) :
    (Task.step f).run server s k = ((f s).1, (f s).2, k) := rfl

/-- A task that goes on with another one is run before it. -/
theorem run_bind' (server : Server S κ) (t : Task σ S α) (f : α → Task σ S β) (s : σ) (k : κ) :
    (t.bind f).run server s k =
      (f (t.run server s k).1).run server (t.run server s k).2.1 (t.run server s k).2.2 := by
  induction t generalizing s k with
  | done a => rfl
  | act change next ih => exact ih s (change s) k
  | ask query next ih => exact ih (server query k).1 s (server query k).2

@[simp] theorem run_bind (server : Server S κ) (t : Task σ S α) (f : α → Task σ S β) (s : σ)
    (k : κ) :
    (t >>= f).run server s k =
      (f (t.run server s k).1).run server (t.run server s k).2.1 (t.run server s k).2.2 :=
  run_bind' server t f s k

@[simp] theorem run_map (server : Server S κ) (f : α → β) (t : Task σ S α) (s : σ) (k : κ) :
    (f <$> t).run server s k =
      (f (t.run server s k).1, (t.run server s k).2.1, (t.run server s k).2.2) :=
  run_bind' server t (fun a => .done (f a)) s k

/-! ## Runs of tasks that may fail -/

/-- Runs a task that may fail. -/
def attempt (server : Server S κ) (x : ExceptT ε (Task σ S) α) (s : σ) (k : κ) :
    Except ε α × σ × κ :=
  Task.run server x.run s k

/-- Running a task that may fail is attempting it. -/
theorem run_eq_attempt (server : Server S κ) (x : ExceptT ε (Task σ S) α) (s : σ) (k : κ) :
    Task.run server x.run s k = attempt server x s k := rfl

@[simp] theorem attempt_pure (server : Server S κ) (a : α) (s : σ) (k : κ) :
    attempt server (pure a : ExceptT ε (Task σ S) α) s k = (.ok a, s, k) := rfl

@[simp] theorem attempt_throw (server : Server S κ) (e : ε) (s : σ) (k : κ) :
    attempt server (throw e : ExceptT ε (Task σ S) α) s k = (.error e, s, k) := rfl

@[simp] theorem attempt_lift (server : Server S κ) (t : Task σ S α) (s : σ) (k : κ) :
    attempt server (ExceptT.lift t : ExceptT ε (Task σ S) α) s k =
      (.ok (t.run server s k).1, (t.run server s k).2.1, (t.run server s k).2.2) :=
  run_map server Except.ok t s k

@[simp] theorem attempt_mk (server : Server S κ) (t : Task σ S (Except ε α)) (s : σ) (k : κ) :
    attempt server (ExceptT.mk t) s k = t.run server s k := rfl

/-- A failure ends the whole. -/
theorem attempt_bind (server : Server S κ) (x : ExceptT ε (Task σ S) α)
    (f : α → ExceptT ε (Task σ S) β) (s : σ) (k : κ) :
    attempt server (x >>= f) s k =
      match attempt server x s k with
      | (.ok a, s, k) => attempt server (f a) s k
      | (.error e, s, k) => (.error e, s, k) := by
  have h := run_bind' server x.run (ExceptT.bindCont f) s k
  unfold attempt
  cases hx : Task.run server x.run s k with
  | mk result rest =>
    rw [hx] at h
    cases result with
    | ok a => exact h
    | error e => exact h

/-- Changing the value of an attempt changes no error. -/
@[simp] theorem attempt_map (server : Server S κ) (f : α → β) (x : ExceptT ε (Task σ S) α)
    (s : σ) (k : κ) :
    attempt server (f <$> x) s k =
      ((attempt server x s k).1.map f, (attempt server x s k).2.1,
        (attempt server x s k).2.2) := by
  have h := attempt_bind server x (fun a => pure (f a)) s k
  cases hx : attempt server x s k with
  | mk result rest =>
    rw [hx] at h
    cases result with
    | ok a => exact h
    | error e => exact h

@[simp] theorem mapError_ok {ε' : Type} (rename : ε → ε') (a : α) :
    (Except.ok a : Except ε α).mapError rename = .ok a := rfl

@[simp] theorem mapError_error {ε' : Type} (rename : ε → ε') (e : ε) :
    (Except.error e : Except ε α).mapError rename = .error (rename e) := rfl

/-- A renamed outcome is a result where the outcome is. -/
theorem mapError_eq_ok {ε' : Type} {x : Except ε α} {rename : ε → ε'} {a : α} :
    x.mapError rename = .ok a ↔ x = .ok a := by
  cases x <;> simp

/-- A renamed error is the new name of an error. -/
theorem mapError_eq_error {ε' : Type} {x : Except ε α} {rename : ε → ε'} {e' : ε'} :
    x.mapError rename = .error e' ↔ ∃ e, x = .error e ∧ e' = rename e := by
  cases x <;> simp [eq_comm]

/-- A second step succeeds after a first one that did. -/
theorem bind_eq_ok {x : Except ε α} {f : α → Except ε β} {b : β} :
    x.bind f = .ok b ↔ ∃ a, x = .ok a ∧ f a = .ok b := by
  cases x <;> simp [Except.bind]

/-- Either the first step fails, or the second one after it. -/
theorem bind_eq_error {x : Except ε α} {f : α → Except ε β} {e : ε} :
    x.bind f = .error e ↔ x = .error e ∨ ∃ a, x = .ok a ∧ f a = .error e := by
  cases x <;> simp [Except.bind]

theorem map_eq_ok {x : Except ε α} {f : α → β} {b : β} :
    x.map f = .ok b ↔ ∃ a, x = .ok a ∧ f a = b := by
  cases x <;> simp [Except.map]

theorem map_eq_error {x : Except ε α} {f : α → β} {e : ε} :
    x.map f = .error e ↔ x = .error e := by
  cases x <;> simp [Except.map]

/-- Renaming a failure changes nothing else. -/
@[simp] theorem attempt_adapt {ε' : Type} (server : Server S κ) (rename : ε → ε')
    (x : ExceptT ε (Task σ S) α) (s : σ) (k : κ) :
    attempt server (ExceptT.adapt rename x) s k =
      ((attempt server x s k).1.mapError rename, (attempt server x s k).2.1,
        (attempt server x s k).2.2) :=
  run_map server (Except.mapError rename) x.run s k

/-! ## Tasks inside a larger state -/

/-- A task on a part of the state runs on the part and leaves the rest. -/
theorem run_within (server : Server S κ) (part : Part σ τ) (t : Task τ S α) (s : σ) (k : κ)
    (hset : ∀ s a b, part.set (part.set s a) b = part.set s b)
    (hget : ∀ s a, part.get (part.set s a) = a) (hsame : ∀ s, part.set s (part.get s) = s) :
    (t.within part).run server s k =
      ((t.run server (part.get s) k).1, part.set s (t.run server (part.get s) k).2.1,
        (t.run server (part.get s) k).2.2) := by
  induction t generalizing s k with
  | done a => simp [within, run, hsame]
  | act change next ih => simp [within, run, ih, hset, hget]
  | ask query next ih => exact ih (server query k).1 s (server query k).2

end Task

/-! ## Questions of two kinds -/

/-- A server of two kinds of questions, as one of the first kind. -/
def Server.left (server : Server (S.sum T) κ) : Server S κ := fun query => server (.inl query)

/-- A server of two kinds of questions, as one of the second kind. -/
def Server.right (server : Server (S.sum T) κ) : Server T κ := fun query => server (.inr query)

namespace Task

@[simp] theorem run_inLeft (server : Server (S.sum T) κ) (t : Task σ S α) (s : σ) (k : κ) :
    (t.inLeft (T := T)).run server s k = t.run server.left s k := by
  induction t generalizing s k with
  | done a => rfl
  | act change next ih => exact ih s (change s) k
  | ask query next ih => exact ih (server.left query k).1 s (server.left query k).2

end Task

/-! ## Records of what is asked -/

/-- A question with its answer. -/
structure Exchange (S : Signature) where
  query : S.Query
  answer : S.Answer query

/-- A server that also keeps a record of its exchanges, the last one at the end. -/
def Server.recording (server : Server S κ) : Server S (κ × List (Exchange S)) :=
  fun query k =>
    ((server query k.1).1, (server query k.1).2, k.2 ++ [⟨query, (server query k.1).1⟩])

namespace Task

/-- A record only grows. -/
theorem prefix_recording (server : Server S κ) (t : Task σ S α) (s : σ) (k : κ)
    (record : List (Exchange S)) :
    record <+: (t.run server.recording s (k, record)).2.2.2 := by
  induction t generalizing s k record with
  | done a => exact List.prefix_rfl
  | act change next ih => exact ih s (change s) k record
  | ask query next ih =>
    have hstep := List.prefix_append record [Exchange.mk query (server query k).1]
    exact hstep.trans (ih (server query k).1 s (server query k).2 _)

/-- Keeping a record changes neither what a task ends with nor the state it leaves. -/
theorem run_recording (server : Server S κ) (t : Task σ S α) (s : σ) (k : κ)
    (record : List (Exchange S)) :
    ((t.run server.recording s (k, record)).1, (t.run server.recording s (k, record)).2.1,
      (t.run server.recording s (k, record)).2.2.1) = t.run server s k := by
  induction t generalizing s k record with
  | done a => rfl
  | act change next ih => exact ih s (change s) k record
  | ask query next ih => exact ih (server query k).1 s (server query k).2 _

end Task

end ChainIndex
