import ChainIndex.Proofs.Api.Invocation

/-!
# ChainIndex.Proofs.Api.Failure

Tasks that change nothing of what is watched when they fail.

A task spares a view of the state if it takes a step that changes the view only once it cannot
fail any more, whatever happens to the state in between (`Spares`).  So one that fails has taken no
such step, and a run of it leaves the view as it was (`Spares.run`).  It is shown of a task by
going through its parts: those that never change the view (`Leaves`) come first, and then
at most one step that may.
-/

namespace ChainIndex

namespace Task

variable {σ κ ρ : Type} {S : Signature} {α β : Type}

/-- Under the terms, a task keeps to them, changes nothing of the view, and ends with a value
of `Q`. -/
def Leaves (terms : Terms σ S) (view : σ → ρ) (Q : α → Prop) : Task σ S α → Prop
  | .done a => Q a
  | .act change next => ∀ s, terms.state s → terms.state (change s) ∧
      view (change s) = view s ∧ (next s).Leaves terms view Q
  | .ask query next => ∀ a, terms.answer query a → (next a).Leaves terms view Q

/-- Under the terms, a task keeps to them, and takes a step that changes the view only if none of
the ends that are left to it is one of `fails`. -/
def Spares (terms : Terms σ S) (view : σ → ρ) (fails : α → Prop) : Task σ S α → Prop
  | .done _ => True
  | .act change next => ∀ s, terms.state s → terms.state (change s) ∧
      ((next s).Fulfils terms (fun _ a => ¬ fails a) ∨
        view (change s) = view s ∧ (next s).Spares terms view fails)
  | .ask query next => ∀ a, terms.answer query a → (next a).Spares terms view fails

variable {terms : Terms σ S} {view : σ → ρ} {Q : α → Prop} {R : β → Prop} {fails : α → Prop}
  {fails' : β → Prop}

/-! ## Parts of tasks -/

/-- What is known of the end of a task may be weakened. -/
theorem Leaves.mono {Q' : α → Prop} {t : Task σ S α} (h : t.Leaves terms view Q)
    (himp : ∀ a, Q a → Q' a) : t.Leaves terms view Q' := by
  induction t with
  | done a => exact himp a h
  | act change next ih => exact fun s hs => ⟨(h s hs).1, (h s hs).2.1, ih s (h s hs).2.2⟩
  | ask query next ih => exact fun a ha => ih a (h a ha)

/-- Tasks that leave a view as it is leave it so one after the other. -/
theorem Leaves.bind {t : Task σ S α} {f : α → Task σ S β} (h : t.Leaves terms view Q)
    (hf : ∀ a, Q a → (f a).Leaves terms view R) : (t.bind f).Leaves terms view R := by
  induction t with
  | done a => exact hf a h
  | act change next ih => exact fun s hs => ⟨(h s hs).1, (h s hs).2.1, ih s (h s hs).2.2⟩
  | ask query next ih => exact fun a ha => ih a (h a ha)

/-- A task that leaves a view as it is may come before one that spares it. -/
theorem Leaves.bind_spares {t : Task σ S α} {f : α → Task σ S β} (h : t.Leaves terms view Q)
    (hf : ∀ a, Q a → (f a).Spares terms view fails') : (t.bind f).Spares terms view fails' := by
  induction t with
  | done a => exact hf a h
  | act change next ih => exact fun s hs => ⟨(h s hs).1, .inr ⟨(h s hs).2.1, ih s (h s hs).2.2⟩⟩
  | ask query next ih => exact fun a ha => ih a (h a ha)

/-- A task that leaves a view as it is also spares it. -/
theorem Leaves.spares {t : Task σ S α} (h : t.Leaves terms view Q) :
    t.Spares terms view fails := by
  induction t with
  | done a => trivial
  | act change next ih => exact fun s hs => ⟨(h s hs).1, .inr ⟨(h s hs).2.1, ih s (h s hs).2.2⟩⟩
  | ask query next ih => exact fun a ha => ih a (h a ha)

/-- A task on another part of the state changes nothing of the view. -/
theorem leaves_within {τ : Type} {t : Task τ S α} {part : Part σ τ}
    (hset : ∀ s b, view (part.set s b) = view s) :
    (t.within part).Leaves .any view fun _ => True := by
  induction t with
  | done a => trivial
  | act change next ih => exact fun s _ => ⟨trivial, hset s _, ih _⟩
  | ask query next ih => exact fun a _ => ih a

/-- What comes last may change the view only where the task before could not fail. -/
theorem Spares.bind {t : Task σ S α} {f : α → Task σ S β} (h : t.Spares terms view fails)
    (hf : ∀ a, (f a).Spares terms view fails')
    (hfine : ∀ a, ¬ fails a → (f a).Fulfils terms fun _ b => ¬ fails' b) :
    (t.bind f).Spares terms view fails' := by
  induction t with
  | done a => exact hf a
  | act change next ih =>
    intro s hs
    obtain ⟨hchange, hnext | ⟨hview, hnext⟩⟩ := h s hs
    · exact ⟨hchange, .inl (Fulfils.bind hnext fun _ a ha => hfine a ha)⟩
    · exact ⟨hchange, .inr ⟨hview, ih s hnext⟩⟩
  | ask query next ih => exact fun a ha => ih a (h a ha)

/-! ## Runs -/

/-- A run of a task that changes nothing of the view leaves it as it was. -/
theorem Leaves.run {t : Task σ S α} (h : t.Leaves .any view Q) (server : Server S κ) (s : σ)
    (k : κ) : view (t.run server s k).2.1 = view s := by
  induction t generalizing s k with
  | done a => rfl
  | act change next ih =>
    obtain ⟨-, hview, hnext⟩ := h s trivial
    exact (ih s hnext (change s) k).trans hview
  | ask query next ih => exact ih _ (h _ trivial) s _

/-- A run that fails leaves the view as it was. -/
theorem Spares.run {t : Task σ S α} (h : t.Spares terms view fails) (server : Server S κ)
    (hserver : ∀ query k, terms.answer query (server query k).1) {s : σ} (hs : terms.state s)
    (k : κ) (hfails : fails (t.run server s k).1) : view (t.run server s k).2.1 = view s := by
  induction t generalizing s k with
  | done a => rfl
  | act change next ih =>
    obtain ⟨hchange, hnext | ⟨hview, hnext⟩⟩ := h s hs
    · exact absurd hfails (hnext.run_value server hserver hchange k)
    · exact (ih s hnext hchange k hfails).trans hview
  | ask query next ih => exact ih _ (h _ (hserver query k)) hs _ hfails

end Task

open ChainIndex.Task

/-! ## Tasks that may fail -/

section

variable {σ ρ : Type} {S : Signature} {α β : Type} {terms : Terms σ S} {view : σ → ρ}
  {Q : α → Prop} {R : β → Prop}

/-- A part of a call that changes nothing of the view, with what is known of its result. -/
def LeavesView (terms : Terms σ S) (view : σ → ρ) (x : Attempt σ S α) (Q : α → Prop) : Prop :=
  x.run.Leaves terms view fun result => ∀ a, result = .ok a → Q a

/-- A part of a call that changes nothing of the view if it fails. -/
def SparesView (terms : Terms σ S) (view : σ → ρ) (x : Attempt σ S α) : Prop :=
  x.run.Spares terms view fun result => errorOf? result ≠ none

/-- Ending with a value leaves a view as it is. -/
theorem leavesView_pure {a : α} (h : Q a) : LeavesView terms view (pure a) Q := by
  intro b hb
  rwa [← Except.ok.inj hb]

/-- Ending with an error leaves a view as it is. -/
theorem leavesView_throw (e : ApiError) :
    LeavesView terms view (throw e : Attempt σ S α) Q :=
  fun _ ha => nomatch ha

/-- A part of a call that leaves a view as it is also spares it. -/
theorem LeavesView.spares {x : Attempt σ S α} (h : LeavesView terms view x Q) :
    SparesView terms view x :=
  Leaves.spares h

/-- Parts of a call that leave a view as it is leave it so one after the other. -/
theorem LeavesView.bind {x : Attempt σ S α} {f : α → Attempt σ S β}
    (h : LeavesView terms view x Q) (hf : ∀ a, Q a → LeavesView terms view (f a) R) :
    LeavesView terms view (x >>= f) R := by
  refine Leaves.bind h fun result hresult => ?_
  cases result with
  | ok a => exact hf a (hresult a rfl)
  | error e => exact leavesView_throw e

/-- After a part that changes nothing, what follows decides. -/
theorem LeavesView.bind_spares {x : Attempt σ S α} {f : α → Attempt σ S β}
    (h : LeavesView terms view x Q) (hf : ∀ a, Q a → SparesView terms view (f a)) :
    SparesView terms view (x >>= f) := by
  refine Leaves.bind_spares h fun result hresult => ?_
  cases result with
  | ok a => exact hf a (hresult a rfl)
  | error e => trivial

/-- A task that cannot fail leaves a view as it is also as a part of a call. -/
theorem leavesView_lift {t : Task σ S α} (h : t.Leaves terms view Q) :
    LeavesView terms view (ExceptT.lift t) Q := by
  refine Leaves.bind h fun a ha => ?_
  exact leavesView_pure ha

/-- What is known without asking. -/
theorem leavesView_except (result : Except ApiError α) :
    LeavesView terms view (liftM result) fun _ => True := by
  cases result with
  | ok a => exact leavesView_pure trivial
  | error e => exact leavesView_throw e

/-- A look at the state. -/
theorem leavesView_read (f : σ → α) (h : ∀ s, terms.state s → Q (f s)) :
    LeavesView terms view (ExceptT.lift (Task.read f)) Q := by
  refine fun s hs => ⟨hs, rfl, ?_⟩
  intro b hb
  rw [← Except.ok.inj hb]
  exact h s hs

/-- A step that changes nothing of the view. -/
theorem leavesView_step {f : σ → α × σ}
    (h : ∀ s, terms.state s → terms.state (f s).2 ∧ view (f s).2 = view s) :
    LeavesView terms view (ExceptT.lift (Task.step f)) fun _ => True :=
  fun s hs => ⟨(h s hs).1, (h s hs).2, fun _ _ => trivial⟩

/-- A step that may change the view: where it does, it is the last thing that happens. -/
theorem sparesView_step {f : σ → α × σ} {g : α → Attempt σ S β}
    (h : ∀ s, terms.state s → terms.state (f s).2 ∧
      ((∃ b, g (f s).1 = pure b) ∨ view (f s).2 = view s ∧ SparesView terms view (g (f s).1))) :
    SparesView terms view (ExceptT.lift (Task.step f) >>= g) := by
  intro s hs
  obtain ⟨hchange, ⟨b, hb⟩ | hnext⟩ := h s hs
  · refine ⟨hchange, .inl ?_⟩
    change (g (f s).1).run.Fulfils terms _
    rw [hb]
    exact fun hne => hne rfl
  · exact ⟨hchange, .inr hnext⟩

/-! ## Invocations -/

/-- If every call changes nothing of the view when it fails, then so does every invocation. -/
theorem spares_invoke {api : Api σ S}
    (hsupports : ∀ method, (api.supports method).Leaves terms view fun _ => True)
    (h : ∀ call, (api call).Spares terms view fun answer => call.error? answer ≠ none)
    (invocation : Invocation) :
    (api.invoke invocation).Spares terms view fun answer => invocation.error? answer ≠ none := by
  cases invocation with
  | direct call => exact h call
  | byName name parameters =>
    change (api.callByName name parameters).run.Spares terms view fun result =>
      errorOf? result ≠ none
    rw [callByName_eq]
    cases Request.parse name parameters with
    | error e => trivial
    | ok request =>
      refine (hsupports request.method).bind_spares fun served _ => ?_
      cases served with
      | true =>
        refine Spares.bind (h request.call) (fun _ => trivial) fun answer hfine hfails => hfine ?_
        rwa [errorOf?_map, Request.errorOf?_respond] at hfails
      | false => trivial

/-- If no call that a request stands for changes anything of the view, then no call by name
does. -/
theorem leaves_byName {api : Api σ S}
    (hsupports : ∀ method, (api.supports method).Leaves terms view fun _ => True)
    (h : ∀ request : Request, (api request.call).Leaves terms view fun _ => True) (name : String)
    (parameters : List Json) :
    (api.callByName name parameters).run.Leaves terms view fun _ => True := by
  rw [callByName_eq]
  cases Request.parse name parameters with
  | error e => trivial
  | ok request =>
    refine (hsupports request.method).bind fun served _ => ?_
    cases served with
    | true => exact (h request).bind fun _ _ => trivial
    | false => trivial

end

end ChainIndex
