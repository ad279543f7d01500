import ChainIndex.Proofs.Api.Session

/-!
# ChainIndex.Proofs.Api.Invocation

Chain apis in use by several callers: calls and calls by name that go on at the same time.

A call by name comes to the call that it stands for, so whatever every call keeps, every
invocation keeps (`fulfils_invoke`).  Invocations take their steps in any order, and any of them
may be given up half way (`Underway`); whatever each of them keeps holds of every state that
comes about in this way (`Underway.fulfils`).
-/

namespace ChainIndex

open ChainIndex.Task

/-! ## Calls by name -/

/-- Changing the value of a result does not change its error. -/
theorem errorOf?_map {ε α β : Type} (f : α → β) (result : Except ε α) :
    errorOf? (result.map f) = errorOf? result := by
  cases result <;> rfl

/-- The errors of a call by name that is refused before any call is made. -/
def Refusal : ApiError → Prop
  | .invalidParameter _ _ _ | .unsupportedMethod _ => True
  | _ => False

/-- A refusal is no error of the network. -/
theorem isNetwork_of_refusal {e : ApiError} (h : Refusal e) : e.isNetwork = false := by
  cases e with
  | network source => cases h
  | _ => rfl

namespace Request

/-- The call that a request stands for. -/
def call : Request → Call
  | .runtimeVersion hash => .runtimeVersion hash
  | .metadata hash => .metadata hash
  | .chainName => .chainName
  | .genesisHash => .genesisHash
  | .blockHash number => .blockHash number
  | .finalizedHead => .finalizedHead
  | .header hash => .header hash
  | .block hash => .block hash
  | .eventsAt hash => .eventsAt hash
  | .eventsRange first last => .eventsRange first last

/-- The response to a request, from the answer to its call. -/
def respond : (request : Request) → request.call.Answer → Except ApiError Response
  | .runtimeVersion _, answer => Except.map .runtimeVersion answer
  | .metadata _, answer => Except.map .metadata answer
  | .chainName, answer => Except.map .chainName answer
  | .genesisHash, answer => Except.map .genesisHash answer
  | .blockHash _, answer => Except.map .blockHash answer
  | .finalizedHead, answer => Except.map .blockHash answer
  | .header _, answer => Except.map .header answer
  | .block _, answer => Except.map .block answer
  | .eventsAt _, answer => Except.map .events answer
  | .eventsRange _ _, answer => Except.map .events answer

/-- A request fails as its call does. -/
theorem errorOf?_respond (request : Request) (answer : request.call.Answer) :
    errorOf? (request.respond answer) = request.call.error? answer := by
  cases request <;> exact errorOf?_map _ _

/-- A parameter that may be missing is read or refused. -/
theorem optional_refuses {α : Type} {read : Json → Except ParameterFault α} {method : Method}
    {parameters : List Json} {position : Nat} {e : ApiError}
    (h : optional read method parameters position = .error e) : Refusal e := by
  unfold optional at h
  split at h
  · cases h
  · cases h
  · split at h
    · cases h
    · cases h
      trivial

/-- A parameter that must be there is read or refused. -/
theorem required_refuses {α : Type} {read : Json → Except ParameterFault α} {method : Method}
    {parameters : List Json} {position : Nat} {e : ApiError}
    (h : required read method parameters position = .error e) : Refusal e := by
  unfold required at h
  cases hread : optional read method parameters position with
  | error e' =>
    rw [hread] at h
    cases h
    exact optional_refuses hread
  | ok found =>
    rw [hread] at h
    cases found with
    | some a => cases h
    | none =>
      cases h
      trivial

/-- Changing what is read does not change how it is refused. -/
theorem map_refuses {α β : Type} {f : α → β} {result : Except ApiError α} {e : ApiError}
    (hresult : ∀ e, result = .error e → Refusal e) (h : f <$> result = .error e) : Refusal e := by
  cases result with
  | ok a => cases h
  | error e' =>
    cases h
    exact hresult e rfl

/-- Parameters are read or refused. -/
theorem ofParameters_refuses {method : Method} {parameters : List Json} {e : ApiError}
    (h : ofParameters method parameters = .error e) : Refusal e := by
  cases method with
  | chainName | genesisHash | finalizedHead => cases h
  | runtimeVersion | metadata => exact map_refuses (fun _ => optional_refuses) h
  | blockHash | header | block | eventsAt => exact map_refuses (fun _ => required_refuses) h
  | eventsRange =>
    unfold ofParameters at h
    cases hfirst : required readHash .eventsRange parameters 0 with
    | error e' =>
      rw [hfirst] at h
      cases h
      exact required_refuses hfirst
    | ok first =>
      rw [hfirst] at h
      cases hlast : required readHash .eventsRange parameters 1 with
      | error e' =>
        rw [hlast] at h
        cases h
        exact required_refuses hlast
      | ok last =>
        rw [hlast] at h
        cases h

/-- What is not read as a request is refused. -/
theorem parse_refuses {name : String} {parameters : List Json} {e : ApiError}
    (h : parse name parameters = .error e) : Refusal e := by
  unfold parse at h
  split at h
  · exact ofParameters_refuses h
  · cases h
    trivial

end Request

section

variable {σ : Type} {S : Signature} {α β : Type}

theorem map_attempt_eq (f : α → β) (x : Attempt σ S α) :
    (f <$> x).run = x.run.bind fun result => .done (result.map f) := by
  refine congrArg x.run.bind (funext fun result => ?_)
  cases result <;> rfl

/-- A request is answered by its call. -/
theorem perform_eq (api : Api σ S) (request : Request) :
    (api.perform request).run =
      (api request.call).bind fun answer => .done (request.respond answer) := by
  cases request <;> exact map_attempt_eq _ _

/-- A call by name is refused, or comes to the call that it stands for. -/
theorem callByName_eq (api : Api σ S) (name : String) (parameters : List Json) :
    (api.callByName name parameters).run =
      match Request.parse name parameters with
      | .error e => .done (.error e)
      | .ok request => (api.supports request.method).bind fun served =>
        if served then (api request.call).bind fun answer =>
          .done ((request.respond answer).map Response.toJson)
        else .done (.error (.unsupportedMethod request.method.name)) := by
  unfold Api.callByName
  cases Request.parse name parameters with
  | error e => rfl
  | ok request =>
    have hdispatch : (api.dispatch request).run =
        (api.supports request.method).bind fun served =>
          if served then (api.perform request).run
          else .done (.error (.unsupportedMethod request.method.name)) := by
      refine (bind_bind _ _ _).trans (congrArg _ (funext fun served => ?_))
      cases served <;> rfl
    change (Response.toJson <$> api.dispatch request).run = _
    rw [map_attempt_eq, hdispatch, bind_bind]
    refine congrArg _ (funext fun served => ?_)
    cases served with
    | true =>
      rw [if_pos rfl, perform_eq, bind_bind]
      rfl
    | false => rfl

end

/-! ## Invocations -/

/-- What an api is asked to do: a call, or a method by name. -/
inductive Invocation where
  | direct (call : Call)
  | byName (name : String) (parameters : List Json)

namespace Invocation

/-- What an invocation is answered with. -/
def Answer : Invocation → Type
  | .direct call => call.Answer
  | .byName _ _ => Except ApiError Json

/-- The error that an invocation is answered with. -/
def error? : (invocation : Invocation) → invocation.Answer → Option ApiError
  | .direct call, answer => call.error? answer
  | .byName _ _, answer => errorOf? answer

end Invocation

/-- Does what is asked. -/
def Api.invoke {σ : Type} {S : Signature} (api : Api σ S) :
    (invocation : Invocation) → Task σ S invocation.Answer
  | .direct call => api call
  | .byName name parameters => api.callByName name parameters

section

variable {σ κ : Type} {S : Signature} {api : Api σ S}

/-- What is said of every call by its exchanges and its error goes for every invocation. -/
theorem fulfils_invoke {terms : Terms σ S} (Ends : List (Exchange S) → Option ApiError → Prop)
    (hrefused : ∀ e, Refusal e → Ends [] (some e))
    (hsupports : ∀ method, (api.supports method).Fulfils terms fun made _ => made = [])
    (h : ∀ call, (api call).Fulfils terms fun made answer => Ends made (call.error? answer))
    (invocation : Invocation) :
    (api.invoke invocation).Fulfils terms fun made answer =>
      Ends made (invocation.error? answer) := by
  cases invocation with
  | direct call => exact h call
  | byName name parameters =>
    change (api.callByName name parameters).run.Fulfils terms fun made result =>
      Ends made (errorOf? result)
    rw [callByName_eq]
    cases hparse : Request.parse name parameters with
    | error e => exact hrefused e (Request.parse_refuses hparse)
    | ok request =>
      refine Fulfils.bind (hsupports request.method) ?_
      rintro _ served rfl
      cases served with
      | true =>
        refine Fulfils.map _ ((h request.call).mono fun made answer hanswer => ?_)
        rwa [errorOf?_map, Request.errorOf?_respond]
      | false => exact hrefused _ trivial

/-! ## Invocations at the same time -/

/-- An invocation that goes on, with what is left to do. -/
structure Pending (σ : Type) (S : Signature) where
  invocation : Invocation
  rest : Task σ S invocation.Answer

/-- The states that come about while invocations of an api go on, however their steps follow one
another and whatever their questions are answered. -/
inductive Underway (api : Api σ S) (initial : σ) : List (Pending σ S) → σ → Prop
  | initial : Underway api initial [] initial
  | begin {pending : List (Pending σ S)} {s : σ} (h : Underway api initial pending s)
    (invocation : Invocation) :
    Underway api initial (⟨invocation, api.invoke invocation⟩ :: pending) s
  | act (before : List (Pending σ S)) {after : List (Pending σ S)} {invocation : Invocation}
    {change : σ → σ} {next : σ → Task σ S invocation.Answer} {s : σ}
    (h : Underway api initial (before ++ ⟨invocation, .act change next⟩ :: after) s) :
    Underway api initial (before ++ ⟨invocation, next s⟩ :: after) (change s)
  | answer (before : List (Pending σ S)) {after : List (Pending σ S)} {invocation : Invocation}
    {query : S.Query} {next : S.Answer query → Task σ S invocation.Answer} {s : σ}
    (h : Underway api initial (before ++ ⟨invocation, .ask query next⟩ :: after) s)
    (answer : S.Answer query) :
    Underway api initial (before ++ ⟨invocation, next answer⟩ :: after) s
  /-- It has ended, or is given up. -/
  | leave (before : List (Pending σ S)) {after : List (Pending σ S)} {one : Pending σ S} {s : σ}
    (h : Underway api initial (before ++ one :: after) s) :
    Underway api initial (before ++ after) s

namespace Underway

variable {initial s : σ} {pending : List (Pending σ S)}

/-- What every invocation keeps, all of them keep together, and so does what is left of them. -/
theorem fulfils {state : σ → Prop} (h : Underway api initial pending s) (hinitial : state initial)
    (hinvoke : ∀ invocation, (api.invoke invocation).Fulfils (.ofState state) fun _ _ => True) :
    state s ∧ ∀ one ∈ pending, one.rest.Fulfils (.ofState state) fun _ _ => True := by
  induction h with
  | initial => exact ⟨hinitial, by simp⟩
  | begin _ invocation ih => exact ⟨ih.1, List.forall_mem_cons.mpr ⟨hinvoke invocation, ih.2⟩⟩
  | act _ _ ih =>
    obtain ⟨hs, hpending⟩ := ih
    simp only [List.forall_mem_append, List.forall_mem_cons] at hpending ⊢
    obtain ⟨hbefore, hone, hafter⟩ := hpending
    exact ⟨(hone _ hs).1, hbefore, (hone _ hs).2, hafter⟩
  | answer _ _ answer ih =>
    obtain ⟨hs, hpending⟩ := ih
    simp only [List.forall_mem_append, List.forall_mem_cons] at hpending ⊢
    obtain ⟨hbefore, hone, hafter⟩ := hpending
    exact ⟨hs, hbefore, hone answer trivial, hafter⟩
  | leave _ _ ih =>
    simp only [List.forall_mem_append, List.forall_mem_cons] at ih ⊢
    exact ⟨ih.1, ih.2.1, ih.2.2.2⟩

/-- A task that is begun may be run to its end without a break. -/
theorem run_rest {invocation : Invocation} {rest : Task σ S invocation.Answer}
    (h : Underway api initial (⟨invocation, rest⟩ :: pending) s) (server : Server S κ) (k : κ) :
    Underway api initial pending (rest.run server s k).2.1 := by
  induction rest generalizing s k with
  | done a => exact leave [] h
  | act change next ih => exact ih s (act [] h) k
  | ask query next ih =>
    exact ih (server query k).1 (answer [] h (server query k).1) (server query k).2

/-- Running an invocation to its end leads to a state that may come about while others go on. -/
theorem run (h : Underway api initial pending s) (server : Server S κ) (k : κ)
    (invocation : Invocation) :
    Underway api initial pending ((api.invoke invocation).run server s k).2.1 :=
  (h.begin invocation).run_rest server k

end Underway

end

end ChainIndex
