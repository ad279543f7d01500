import ChainIndex.Proofs.Api.Session

/-!
# ChainIndex.Proofs.Api.Conduct

How a call accounts for the error that it ends with.

An exchange with a node may be a failure, which stands for an error of the call.  A call ends
with the first failure that it meets, and an error that stands for no failure is one of the
few that it makes itself (`Accounts`).  This is shown of a call by going through its steps
(`Conducts`), and goes for either kind of node.
-/

namespace ChainIndex

open ChainIndex.Task

section

variable {S : Signature} {Fails : Exchange S → ApiError → Prop} {own : ApiError → Prop}

/-! ## Failures -/

/-- Exchanges that all went well. -/
def AllFine (Fails : Exchange S → ApiError → Prop) (made : List (Exchange S)) : Prop :=
  ∀ x ∈ made, ∀ e, ¬ Fails x e

theorem allFine_nil : AllFine Fails [] := fun _ hx => nomatch hx

theorem allFine_singleton {x : Exchange S} (h : ∀ e, ¬ Fails x e) : AllFine Fails [x] :=
  List.forall_mem_singleton.mpr h

/-- Exchanges that all went well, and more such exchanges, went well together. -/
theorem AllFine.append {made more : List (Exchange S)} (h : AllFine Fails made)
    (hmore : AllFine Fails more) : AllFine Fails (made ++ more) :=
  List.forall_mem_append.mpr ⟨h, hmore⟩

/-- How a call whose own errors are among `own` accounts for the error it ends with: it met no
failure of the node, or it ends with the only one it met. -/
inductive Accounts (Fails : Exchange S → ApiError → Prop) (own : ApiError → Prop) :
    List (Exchange S) → Option ApiError → Prop
  | fine {made : List (Exchange S)} (h : AllFine Fails made) : Accounts Fails own made none
  | own {made : List (Exchange S)} {e : ApiError} (h : AllFine Fails made) (he : own e) :
    Accounts Fails own made (some e)
  | failed {made : List (Exchange S)} {last : Exchange S} {e : ApiError}
    (h : AllFine Fails made) (hlast : Fails last e) :
    Accounts Fails own (made ++ [last]) (some e)

namespace Accounts

variable {made more : List (Exchange S)} {ended : Option ApiError} {e : ApiError} {x : Exchange S}

/-- Exchanges that went well can come before. -/
theorem prepend (h : Accounts Fails own more ended) (hmade : AllFine Fails made) :
    Accounts Fails own (made ++ more) ended := by
  cases h with
  | fine h => exact .fine (hmade.append h)
  | own h he => exact .own (hmade.append h) he
  | failed h hlast =>
    rw [← List.append_assoc]
    exact .failed (hmade.append h) hlast

/-- A call may be said to make more errors of its own than it does. -/
theorem weaken {own' : ApiError → Prop} (h : Accounts Fails own made ended)
    (himp : ∀ e, own e → own' e) : Accounts Fails own' made ended := by
  cases h with
  | fine h => exact .fine h
  | own h he => exact .own h (himp _ he)
  | failed h hlast => exact .failed h hlast

/-- The first exchange may be the failure. -/
theorem failed_first (h : Fails x e) : Accounts Fails own [x] (some e) :=
  show Accounts Fails own ([] ++ [x]) (some e) from .failed allFine_nil h

/-- A call that ends without an error met no failure of the node. -/
theorem allFine (h : Accounts Fails own made none) : AllFine Fails made := by
  cases h with
  | fine h => exact h

/-- A call that met a failure ends with it, and met no other. -/
theorem heeds (h : Accounts Fails own made ended) (hx : x ∈ made) (he : Fails x e) :
    ∃ e', ended = some e' ∧ Fails x e' ∧ ∀ y ∈ made, ∀ e, Fails y e → y = x := by
  cases h with
  | fine h | own h _ => exact absurd he (h x hx e)
  | @failed before last e' h hlast =>
    have heq : ∀ y ∈ before ++ [last], ∀ e, Fails y e → y = last := by
      intro y hy e hfails
      obtain hy | hy := List.mem_append.mp hy
      · exact absurd hfails (h y hy e)
      · exact List.mem_singleton.mp hy
    obtain rfl := heq x hx e he
    exact ⟨e', rfl, hlast, heq⟩

/-- An error that is none of the call's own is that of a failure. -/
theorem cause (h : Accounts Fails own made (some e)) (hown : ¬ own e) : ∃ x ∈ made, Fails x e := by
  cases h with
  | own _ he => exact absurd he hown
  | @failed before last _ _ hlast => exact ⟨last, List.mem_append_right _ (by simp), hlast⟩

end Accounts

end

/-! ## Calls -/

section

variable {σ : Type} {S : Signature} {α β : Type} {terms : Terms σ S}
  {Fails : Exchange S → ApiError → Prop} {own : ApiError → Prop} {Q : α → Prop} {R : β → Prop}

/-- What a task that may fail does under some terms: its error is accounted for, and its result
is one of `Q`. -/
def Conducts (terms : Terms σ S) (Fails : Exchange S → ApiError → Prop) (own : ApiError → Prop)
    (x : Attempt σ S α) (Q : α → Prop) : Prop :=
  x.run.Fulfils terms fun made result =>
    Accounts Fails own made (errorOf? result) ∧ ∀ a, result = .ok a → Q a

/-- Ending with a value asks nothing. -/
theorem conducts_pure {a : α} (h : Q a) : Conducts terms Fails own (pure a) Q := by
  refine ⟨.fine allFine_nil, ?_⟩
  intro b hb
  rwa [← Except.ok.inj hb]

/-- Ending with an error of its own asks nothing. -/
theorem conducts_throw {e : ApiError} (h : own e) :
    Conducts terms Fails own (throw e : Attempt σ S α) Q :=
  ⟨.own allFine_nil h, fun _ ha => nomatch ha⟩

/-- What is known without asking. -/
theorem conducts_except {result : Except ApiError α} (h : ∀ e, result = .error e → own e) :
    Conducts terms Fails own (liftM result) fun _ => True := by
  cases result with
  | ok a => exact conducts_pure trivial
  | error e => exact conducts_throw (h e rfl)

/-- A failure ends a call. -/
theorem Conducts.bind {x : Attempt σ S α} {f : α → Attempt σ S β}
    (h : Conducts terms Fails own x Q) (hf : ∀ a, Q a → Conducts terms Fails own (f a) R) :
    Conducts terms Fails own (x >>= f) R := by
  refine Fulfils.bind_attempt h ?_ ?_
  · intro made a ha
    refine (hf a (ha.2 a rfl)).mono fun more result hresult => ?_
    exact ⟨hresult.1.prepend ha.1.allFine, hresult.2⟩
  · intro made e he
    exact ⟨he.1, fun _ ha => nomatch ha⟩

/-- What goes well. -/
theorem conducts_lift {t : Task σ S α}
    (h : t.Fulfils terms fun made a => AllFine Fails made ∧ Q a) :
    Conducts terms Fails own (ExceptT.lift t) Q := by
  refine fulfils_lift (h.mono fun made a ha => ⟨.fine ha.1, ?_⟩)
  intro b hb
  rw [← Except.ok.inj hb]
  exact ha.2

/-- A look at the state. -/
theorem conducts_read (view : σ → α) (h : ∀ s, terms.state s → Q (view s)) :
    Conducts terms Fails own (ExceptT.lift (Task.read view)) Q :=
  conducts_lift (fulfils_read _ fun s hs => ⟨allFine_nil, h s hs⟩)

/-- A change of the state. -/
theorem conducts_step {f : σ → α × σ} (h : ∀ s, terms.state s → terms.state (f s).2 ∧ Q (f s).1) :
    Conducts terms Fails own (ExceptT.lift (Task.step f)) Q :=
  conducts_lift (fulfils_step _ fun s hs => ⟨(h s hs).1, allFine_nil, (h s hs).2⟩)

/-- A check that the connection is active. -/
theorem conducts_ensureActive {view : σ → Connection} {operation : String}
    (hown : ∀ operation state, own (.notConnected operation state)) :
    Conducts terms Fails own (ExceptT.mk (Task.read fun s => (view s).ensureActive operation))
      fun _ => True := by
  refine fulfils_read _ fun s _ => ⟨?_, fun _ _ => trivial⟩
  unfold Connection.ensureActive
  cases (view s).state with
  | active => exact .fine allFine_nil
  | disconnected | connected => exact .own allFine_nil (hown _ _)

end

end ChainIndex
