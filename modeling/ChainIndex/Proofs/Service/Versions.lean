import ChainIndex.Api.Listed
import ChainIndex.Proofs.Service.Startup

/-!
# ChainIndex.Proofs.Service.Versions

The versions of the runtime that a service hands out views with.

A start ends by resolving a version (`Session.init_eq_ok`), so a service always remembers one and
a request without a parent is never put to the api.  A request with a parent asks once, and changes
what is remembered only where it is answered (`Serving.view_leaves`).  By induction over the
requests, the service remembers the version that was resolved last (`Serving.views_leaves`).
-/

namespace ChainIndex

open ChainIndex.Task

/-! ## The start of a service -/

namespace Session

variable {σ κ ε α β : Type} {S : Signature}

/-- Makes an attempt over an api in use. -/
def attempt (server : Server S κ) (s : Session σ S κ) (x : ExceptT ε (Task σ S) α) :
    Except ε α × Session σ S κ :=
  let (result, state, node, record) := Task.attempt server.recording x s.state (s.node, s.record)
  (result, ⟨state, node, record⟩)

section

variable {api : Api σ S} {server : Server S κ} {s s' : Session σ S κ}

/-- The run of a call, from the call. -/
theorem run_of_call {next : Call} {answer : next.Answer}
    (h : s.call api server next = (answer, s')) :
    (api next).run server.recording s.state (s.node, s.record) =
      (answer, s'.state, s'.node, s'.record) := by
  obtain ⟨hanswer, rfl⟩ := Prod.mk.inj h
  exact Prod.ext hanswer rfl

/-- An attempt at one thing after another succeeds where each of them does. -/
theorem attempt_bind_eq_ok {x : ExceptT ε (Task σ S) α} {f : α → ExceptT ε (Task σ S) β} {b : β}
    (h : s.attempt server (x >>= f) = (.ok b, s')) :
    ∃ a s₁, s.attempt server x = (.ok a, s₁) ∧ s₁.attempt server (f a) = (.ok b, s') := by
  unfold attempt at h ⊢
  rw [attempt_bind] at h
  cases hx : Task.attempt server.recording x s.state (s.node, s.record) with
  | mk result rest =>
    rw [hx] at h
    cases result with
    | ok a => exact ⟨a, ⟨rest.1, rest.2.1, rest.2.2⟩, rfl, h⟩
    | error e => simp at h

/-- What succeeds through a service succeeds with the api alone. -/
theorem attempt_onApi_eq_ok {x : Attempt σ S α} {a : α}
    (h : s.attempt server (Service.onApi x) = (.ok a, s')) : s.attempt server x = (.ok a, s') := by
  unfold attempt Service.onApi at h
  rw [attempt_adapt] at h
  obtain ⟨hresult, hs⟩ := Prod.mk.inj h
  exact Prod.ext (mapError_eq_ok.mp hresult) hs

theorem attempt_lift_eq_ok {next : Call} {answer : next.Answer}
    (h : s.attempt server (ExceptT.lift (api next) : Service.Starting σ S next.Answer) =
      (.ok answer, s')) : s.call api server next = (answer, s') := by
  unfold attempt at h
  rw [attempt_lift] at h
  obtain ⟨hanswer, hs⟩ := Prod.mk.inj h
  exact Prod.ext (Except.ok.inj hanswer) hs

/-- A network that is resolved has the version that the api gave last. -/
theorem resolving_eq_ok {config : ServiceConfig} {state : ConnectionState} {genesisHash : String}
    {service : Service}
    (h : s.attempt server (Service.resolving config api state genesisHash) = (.ok service, s')) :
    ∃ version, (s.call api server .chainName).2.call api server (.runtimeVersion none) =
      (.ok version, s') ∧ service.runtime = some version := by
  obtain ⟨chain, s₁, hchain, h⟩ := attempt_bind_eq_ok h
  obtain ⟨version, s₂, hversion, h⟩ := attempt_bind_eq_ok h
  have hchain : s.call api server .chainName = (.ok chain, s₁) := attempt_onApi_eq_ok hchain
  obtain ⟨hservice, rfl⟩ := Prod.mk.inj h
  obtain rfl := Except.ok.inj hservice
  rw [hchain]
  exact ⟨version, attempt_onApi_eq_ok hversion, rfl⟩

/-- A start that succeeds has ended by resolving the version that the service remembers. -/
theorem init_eq_ok {config : ServiceConfig} {service : Service}
    (h : s.init api server config = (.ok service, s')) :
    ∃ version, (s.calls api server [.connect, .connectionState, .genesisHash, .chainName]).2.call
        api server (.runtimeVersion none) = (.ok version, s') ∧ service.runtime = some version := by
  have h : s.attempt server (Service.init config api) = (.ok service, s') := h
  obtain ⟨done, s₁, hconnect, h⟩ := attempt_bind_eq_ok h
  obtain ⟨state, s₂, hstate, h⟩ := attempt_bind_eq_ok h
  obtain ⟨genesisHash, s₃, hgenesis, h⟩ := attempt_bind_eq_ok h
  have hconnect : s.call api server .connect = (.ok done, s₁) := attempt_onApi_eq_ok hconnect
  have hstate : s₁.call api server .connectionState = (state, s₂) := attempt_lift_eq_ok hstate
  have hgenesis : s₂.call api server .genesisHash = (.ok genesisHash, s₃) :=
    attempt_onApi_eq_ok hgenesis
  -- the identity of the network was not refused, so the rest of the start was made
  have hresolving :
      s₃.attempt server (Service.resolving config api state genesisHash) = (.ok service, s') := by
    cases hexpected : config.genesisHash with
    | none =>
      rw [hexpected] at h
      exact h
    | some expected =>
      rw [hexpected] at h
      by_cases hne : expected = genesisHash
      · simp only [ne_eq, hne, not_true_eq_false, ↓reduceIte] at h
        exact h
      · simp only [ne_eq, hne, not_false_eq_true, ↓reduceIte] at h
        obtain ⟨_, _, _, h⟩ := attempt_bind_eq_ok h
        obtain ⟨_, _, h, _⟩ := attempt_bind_eq_ok h
        simp [attempt] at h
  simp only [calls_cons, calls_nil, hconnect, hstate, hgenesis]
  exact resolving_eq_ok hresolving

end

end Session

/-! ## Views one after another -/

/-- A request for a view. -/
structure ViewRequest where
  hash : BlockHash
  parent : Option BlockHash

/-- The call that is made for a request. -/
def ViewRequest.call? (request : ViewRequest) : Option Call :=
  request.parent.map fun parent => .runtimeVersion (some parent)

theorem ViewRequest.filterMap_call?_cons (request : ViewRequest) (rest : List ViewRequest) :
    (request :: rest).filterMap call? = request.call?.toList ++ rest.filterMap call? := by
  cases h : request.call? with
  | none => simp [List.filterMap_cons_none h]
  | some next => simp [List.filterMap_cons_some h]

/-- A request for a view, with what came of it. -/
structure Viewing where
  request : ViewRequest
  result : Except ServiceError View

/-- The version that was resolved for a view: at a parent, with success. -/
def Viewing.resolved? (viewing : Viewing) : Option RuntimeVersion :=
  match viewing.request.parent, viewing.result with
  | some _, .ok view => some view.runtime
  | _, _ => none

/-- The version that was resolved last, where `version` was resolved before. -/
def lastResolved (version : RuntimeVersion) (viewings : List Viewing) : RuntimeVersion :=
  (viewings.filterMap Viewing.resolved?).getLastD version

/-- The version that was resolved last may be found view by view. -/
theorem lastResolved_cons (version : RuntimeVersion) (viewing : Viewing) (rest : List Viewing) :
    lastResolved version (viewing :: rest) =
      lastResolved (lastResolved version [viewing]) rest := by
  unfold lastResolved
  cases h : viewing.resolved? with
  | none =>
    rw [List.filterMap_cons_none h, List.filterMap_cons_none h]
    rfl
  | some found =>
    rw [List.filterMap_cons_some h, List.filterMap_cons_some h, List.getLastD_cons]
    rfl

/-- A service in use, over an api in use. -/
structure Serving (σ : Type) (S : Signature) (κ : Type) where
  service : Service
  session : Session σ S κ

namespace Serving

variable {σ κ : Type} {S : Signature}

section

variable (api : Api σ S) (server : Server S κ) (serving : Serving σ S κ)

/-- Asks for a view. -/
def view (request : ViewRequest) : Except ServiceError View × Serving σ S κ :=
  let s := serving.session
  let ((result, service), state, node, record) :=
    (serving.service.view api request.hash request.parent).run server.recording s.state
      (s.node, s.record)
  (result, ⟨service, state, node, record⟩)

/-- Asks for views one after another. -/
def views : Serving σ S κ → List ViewRequest → List Viewing × Serving σ S κ
  | serving, [] => ([], serving)
  | serving, request :: rest =>
    let (result, serving) := serving.view api server request
    let (viewings, serving) := views serving rest
    (⟨request, result⟩ :: viewings, serving)

@[simp] theorem views_nil : serving.views api server [] = ([], serving) := rfl

@[simp] theorem views_cons (request : ViewRequest) (rest : List ViewRequest) :
    serving.views api server (request :: rest) =
      (⟨request, (serving.view api server request).1⟩ ::
          ((serving.view api server request).2.views api server rest).1,
        ((serving.view api server request).2.views api server rest).2) := rfl

/-- What was handed out stays, whatever is asked for later. -/
theorem views_append (before later : List ViewRequest) :
    serving.views api server (before ++ later) =
      ((serving.views api server before).1 ++
          ((serving.views api server before).2.views api server later).1,
        ((serving.views api server before).2.views api server later).2) := by
  induction before generalizing serving with
  | nil => rfl
  | cons request rest ih => simp [ih]

/-- The service with a version that was resolved, over the api as it is then. -/
def remembering (found : RuntimeVersion) (s : Session σ S κ) : Serving σ S κ :=
  ⟨{ serving.service with runtime := some found }, s⟩

/-- How a service that remembers a version serves the requests for views. -/
structure Resolves (version : RuntimeVersion) : Prop where
  remembers : serving.service.runtime = some version
  /-- Without a parent nothing is asked. -/
  unasked (hash : BlockHash) :
    serving.view api server ⟨hash, none⟩ = (.ok (View.mk hash version), serving)
  /-- The version at a parent is asked for once, and is remembered. -/
  resolved (hash parent : BlockHash) (found : RuntimeVersion) (s : Session σ S κ)
    (h : serving.session.call api server (.runtimeVersion (some parent)) = (.ok found, s)) :
    serving.view api server ⟨hash, some parent⟩ =
      (.ok (View.mk hash found), serving.remembering found s)
  /-- Where it cannot be had, the service is as before. -/
  failed (hash parent : BlockHash) (e : ApiError) (s : Session σ S κ)
    (h : serving.session.call api server (.runtimeVersion (some parent)) = (.error e, s)) :
    serving.view api server ⟨hash, some parent⟩ = (.error (.api e), { serving with session := s })

/-- The views that a service hands out, from the time on when `version` was the one that was
resolved last. -/
structure HandsOut (version : RuntimeVersion) : Prop where
  /-- Each is with the version at its parent or else with the one that was resolved last. -/
  resolves (before : List ViewRequest) :
    (serving.views api server before).2.Resolves api server
      (lastResolved version (serving.views api server before).1)
  /-- The api was asked for the versions at the parents, and for nothing else. -/
  asked (before : List ViewRequest) :
    (serving.views api server before).2.session =
      (serving.session.calls api server (before.filterMap ViewRequest.call?)).2
  /-- Every request comes to something. -/
  served (before : List ViewRequest) :
    (serving.views api server before).1.map Viewing.request = before
  /-- What was handed out stays, whatever is asked for later. -/
  stays (before later : List ViewRequest) :
    (serving.views api server before).1 <+: (serving.views api server (before ++ later)).1

end

variable {api : Api σ S} {server : Server S κ} {serving : Serving σ S κ} {version : RuntimeVersion}

/-- A view with a parent is what the call for the version there is answered with. -/
theorem view_some {parent : BlockHash} {answer : Except ApiError RuntimeVersion}
    {s : Session σ S κ}
    (h : serving.session.call api server (.runtimeVersion (some parent)) = (answer, s))
    (hash : BlockHash) :
    serving.view api server ⟨hash, some parent⟩ =
      match answer with
      | .ok found => (.ok (View.mk hash found), serving.remembering found s)
      | .error e => (.error (.api e), { serving with session := s }) := by
  have hrun : (api.runtimeVersion (some parent)).run.run server.recording serving.session.state
      (serving.session.node, serving.session.record) = (answer, s.state, s.node, s.record) :=
    Session.run_of_call h
  simp only [view, Service.view, run_bind, hrun]
  cases answer with
  | ok found => rfl
  | error e => rfl

/-- A service that remembers a version resolves what it says it does. -/
theorem resolves_of_remembers (h : serving.service.runtime = some version) :
    serving.Resolves api server version := by
  constructor
  · exact h
  · intro hash
    simp only [view, Service.view, h]
    rfl
  · intro hash parent found s hcall
    exact view_some hcall hash
  · intro hash parent e s hcall
    exact view_some hcall hash

/-- A view leaves the version that was resolved last, and the api as the call for it leaves it. -/
theorem view_leaves (h : serving.Resolves api server version) (request : ViewRequest) :
    let viewed := serving.view api server request
    viewed.2.service.runtime = some (lastResolved version [⟨request, viewed.1⟩]) ∧
      viewed.2.session = (serving.session.calls api server request.call?.toList).2 := by
  obtain ⟨hash, parent⟩ := request
  cases parent with
  | none =>
    rw [h.unasked]
    exact ⟨h.remembers, rfl⟩
  | some parent =>
    cases hcall : serving.session.call api server (.runtimeVersion (some parent)) with
    | mk answer s =>
      have hleft : (serving.session.calls api server [.runtimeVersion (some parent)]).2 = s := by
        rw [Session.calls_cons, Session.calls_nil, hcall]
      cases answer with
      | ok found =>
        rw [h.resolved hash parent found s hcall]
        exact ⟨rfl, hleft.symm⟩
      | error e =>
        rw [h.failed hash parent e s hcall]
        exact ⟨h.remembers, hleft.symm⟩

/-- After any requests the service remembers the version that was resolved last, and nothing was
asked but the versions at the parents. -/
theorem views_leaves (h : serving.Resolves api server version) (requests : List ViewRequest) :
    let handed := serving.views api server requests
    handed.2.Resolves api server (lastResolved version handed.1) ∧
      handed.2.session =
        (serving.session.calls api server (requests.filterMap ViewRequest.call?)).2 ∧
      handed.1.map Viewing.request = requests := by
  induction requests generalizing serving version with
  | nil => exact ⟨h, rfl, rfl⟩
  | cons request rest ih =>
    obtain ⟨hruntime, hsession⟩ := view_leaves h request
    obtain ⟨hresolves, hrest, hrequests⟩ := ih (resolves_of_remembers hruntime)
    rw [views_cons]
    refine ⟨?_, ?_, by rw [List.map_cons, hrequests]⟩
    · rw [lastResolved_cons]
      exact hresolves
    · rw [hrest, hsession, ViewRequest.filterMap_call?_cons, Session.calls_append]

/-- A service that resolves versions so hands them out so. -/
theorem handsOut_of_resolves (h : serving.Resolves api server version) :
    serving.HandsOut api server version := by
  constructor
  · intro before
    exact (views_leaves h before).1
  · intro before
    exact (views_leaves h before).2.1
  · intro before
    exact (views_leaves h before).2.2
  · intro before later
    rw [views_append]
    exact List.prefix_append _ _

end Serving

/-- A start that succeeds has ended by resolving a version.  From then on a view with a parent is
with the version there, which is asked for once; a view without one is with the version that was
resolved last, which is never lost and never asked for. -/
theorem Session.handsOut_of_init {σ κ : Type} {S : Signature} {api : Api σ S}
    {server : Server S κ} {s s₀ : Session σ S κ} {config : ServiceConfig} {service : Service}
    (h : s.init api server config = (.ok service, s₀)) :
    ∃ version, (s.calls api server [.connect, .connectionState, .genesisHash, .chainName]).2.call
        api server (.runtimeVersion none) = (.ok version, s₀) ∧
      (Serving.mk service s₀).HandsOut api server version := by
  obtain ⟨version, hversion, hruntime⟩ := Session.init_eq_ok h
  have hresolves : (Serving.mk service s₀).Resolves api server version :=
    Serving.resolves_of_remembers hruntime
  exact ⟨version, hversion, Serving.handsOut_of_resolves hresolves⟩

/-- An api that serves the first block of a chain, which was executed by an earlier version of the
runtime than the last block. -/
def firstBlock : BlockList :=
  ⟨[(⟨⟨.zero, 0, .zero, []⟩, [], none⟩, [])], 2, [(BlockHash.zero.toText, 1)], [], [], []⟩

/-- A service starts over such a chain. -/
theorem handsOut_of_init_firstBlock :
    let config : ServiceConfig := .ofParts .algorand localUrl none none none
    let s : Session Unit Calls Unit := .start () ()
    let server : Server Calls Unit := fun call k => (firstBlock.answer call, k)
    ∃ service s₀ version, s.init Api.asking server config = (.ok service, s₀) ∧
      (s.calls Api.asking server [.connect, .connectionState, .genesisHash, .chainName]).2.call
        Api.asking server (.runtimeVersion none) = (.ok version, s₀) ∧
      (Serving.mk service s₀).HandsOut Api.asking server version := by
  intro config s server
  have h : s.init Api.asking server config =
      (.ok ⟨config, ⟨"scripted", "scripted", BlockHash.zero.toText⟩,
        some ⟨"scripted", "scripted", 0, 2, 0, 0, [("0xdf6acb689907609b", 4)]⟩, true, .active⟩,
        (s.init Api.asking server config).2) := rfl
  obtain ⟨version, hversion, hhands⟩ := Session.handsOut_of_init h
  exact ⟨_, _, version, h, hversion, hhands⟩

end ChainIndex
