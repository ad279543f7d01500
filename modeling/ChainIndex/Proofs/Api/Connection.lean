import ChainIndex.Proofs.Api.Failure
import ChainIndex.Proofs.Connection

/-!
# ChainIndex.Proofs.Api.Connection

The connection of a chain api in use.

To connect, an api makes two moves around a request to its node, and goes back where the request
fails (`Connects`).  If it moves its connection in no other way than so and to disconnect
(`Orderly`), then after any invocations that were made one after another nobody is left half
connected, and the connection says what they have done (`Orderly.keepsConnection`).
-/

namespace ChainIndex

open ChainIndex.Task

/-! ## Connections at rest -/

/-- A connection that nobody is about to make. -/
structure Connection.AtRest (c : Connection) : Prop where
  state : c.state = .disconnected ∨ c.state = .active
  channel : c.channel.value = c.state

namespace Connection

/-- Nobody is about to make a connection that is new. -/
theorem atRest_initial : initial.AtRest := ⟨.inl rfl, rfl⟩

/-- Nobody is about to make a connection that was just given up. -/
theorem atRest_disconnect (c : Connection) : c.disconnect.AtRest := ⟨.inl rfl, rfl⟩

/-- A connection at rest is disconnected or active, and in neither case about to be made. -/
theorem AtRest.state_ne_connected {c : Connection} (h : c.AtRest) : c.state ≠ .connected := by
  obtain hstate | hstate := h.state <;> simp [hstate]

end Connection

/-! ## One invocation -/

section

variable {σ κ : Type} {S : Signature} {api : Api σ S} {view : σ → Connection} {s : σ} {k : κ}
  {ended : Except ApiError Unit × σ × κ}

/-- How a call to connect may end, and how it leaves the api and its node. -/
inductive Connects (view : σ → Connection) (s : σ) (k : κ) : Except ApiError Unit × σ × κ → Prop
  /-- It was connected before, and nothing is done. -/
  | already (h : (view s).state = .active) : Connects view s k (.ok (), s, k)
  /-- Somebody else is about to connect. -/
  | refused (h : (view s).state = .connected) :
    Connects view s k (.error (.notConnected "connect" .connected), s, k)
  /-- The node has answered. -/
  | made {s' : σ} {k' : κ} (h : (view s).state = .disconnected)
    (hview : view s' = ((view s).moveTo .connected).moveTo .active) :
    Connects view s k (.ok (), s', k')
  /-- The node has not answered, and the connection goes back. -/
  | failed {s' : σ} {k' : κ} {e : ApiError} (h : (view s).state = .disconnected)
    (hview : view s' = ((view s).moveTo .connected).disconnect) :
    Connects view s k (.error e, s', k')

namespace Connects

/-- A call to connect that has ended leaves a connection at rest, if it was. -/
theorem atRest (h : Connects view s k ended) (hrest : (view s).AtRest) :
    (view ended.2.1).AtRest := by
  cases h with
  | already | refused => exact hrest
  | made _ hview =>
    rw [hview]
    exact ⟨.inr rfl, rfl⟩
  | failed _ hview =>
    rw [hview]
    exact Connection.atRest_disconnect _

/-- A call to connect ends well exactly if it leaves the connection active. -/
theorem ok_iff (h : Connects view s k ended) :
    ended.1 = .ok () ↔ (view ended.2.1).state = .active := by
  cases h with
  | already hactive => simp [hactive]
  | refused hconnected => simp [hconnected]
  | made _ hview => simp [hview]
  | failed _ hview => simp [hview]

/-- A connection that was at rest and could not be made is disconnected. -/
theorem disconnected_of_error {e : ApiError} (h : Connects view s k ended)
    (hrest : (view s).AtRest) (he : ended.1 = .error e) :
    (view ended.2.1).state = .disconnected := by
  cases h with
  | already _ => cases he
  | made _ _ => cases he
  | refused hconnected => exact absurd hconnected hrest.state_ne_connected
  | failed _ hview => simp [hview]

/-- On an active connection nothing is done, and so nothing is asked. -/
theorem eq_of_active (h : Connects view s k ended) (hactive : (view s).state = .active) :
    ended = (.ok (), s, k) := by
  cases h with
  | already _ => rfl
  | refused hstate | made hstate _ | failed hstate _ =>
    rw [hactive] at hstate
    cases hstate

end Connects

/-- A move of the connection within a state. -/
def moving (part : Part σ Connection) (source target : ConnectionState) : Attempt σ S Unit := do
  let moved ← ExceptT.lift (Task.step fun s =>
    let (moved, connection) := (part.get s).transition source target
    (moved, part.set s connection))
  match moved with
  | .ok () => return ()
  | .error state => throw (.notConnected "connect" state)

/-- Two moves of the connection around a request; where the request fails, the connection goes
back. -/
def connecting {ε β : Type} (part : Part σ Connection) (request : Task σ S (Except ε β))
    (rename : ε → ApiError) : Attempt σ S Unit := do
  let state ← ExceptT.lift (Task.read fun s => (part.get s).state)
  if state = .active then return ()
  moving part .disconnected .connected
  match ← ExceptT.lift request with
  | .ok _ => moving part .connected .active
  | .error e =>
    ExceptT.lift (Task.modify fun s => part.set s (part.get s).disconnect)
    throw (rename e)

/-- A move of the connection reports the state that it found, where it is not made. -/
theorem attempt_moving (part : Part σ Connection) (source target : ConnectionState)
    (server : Server S κ) (s : σ) (k : κ) :
    attempt server (moving part source target) s k =
      (((part.get s).transition source target).1.mapError (.notConnected "connect"),
        part.set s ((part.get s).transition source target).2, k) := by
  unfold moving
  rw [attempt_bind, attempt_lift, run_step]
  cases ((part.get s).transition source target).1 <;> rfl

/-- Two moves around a request that leaves the connection alone connect. -/
theorem connects_connecting {ε β : Type} {part : Part σ Connection}
    (hset : ∀ s connection, part.get (part.set s connection) = connection)
    (hsame : ∀ s, part.set s (part.get s) = s) {request : Task σ S (Except ε β)}
    (hrequest : request.Leaves .any part.get fun _ => True) (rename : ε → ApiError)
    (server : Server S κ) (s : σ) (k : κ) :
    Connects part.get s k ((connecting part request rename).run.run server s k) := by
  rw [run_eq_attempt]
  unfold connecting
  rw [attempt_bind, attempt_lift, run_read]
  cases hstate : (part.get s).state with
  | active => exact .already hstate
  | connected =>
    have hrefused : (part.get s).transition .disconnected .connected =
        (.error .connected, part.get s) := by
      rw [Connection.transition_of_state_ne (by simp [hstate]), hstate]
    simp only [reduceCtorEq, ↓reduceIte]
    rw [attempt_bind, attempt_moving, hrefused, hsame]
    exact .refused hstate
  | disconnected =>
    have hbuilt : (part.get s).transition .disconnected .connected =
        (.ok (), (part.get s).moveTo .connected) :=
      Connection.transition_of_legal .build hstate
    simp only [reduceCtorEq, ↓reduceIte]
    rw [attempt_bind, attempt_moving, hbuilt]
    simp only [mapError_ok]
    rw [attempt_bind, attempt_lift]
    -- while the request is under way, nobody else moves the connection
    have hkept := hrequest.run server (part.set s ((part.get s).moveTo .connected)) k
    rw [hset] at hkept
    generalize request.run server (part.set s ((part.get s).moveTo .connected)) k = asked
      at hkept ⊢
    obtain ⟨answer, s', k'⟩ := asked
    change part.get s' = (part.get s).moveTo .connected at hkept
    cases answer with
    | ok a =>
      have hchecked : (part.get s').transition .connected .active =
          (.ok (), (part.get s').moveTo .active) :=
        Connection.transition_of_legal .check (by rw [hkept, Connection.moveTo_state])
      change Connects part.get s k (attempt server (moving part .connected .active) s' k')
      rw [attempt_moving, hchecked, hkept]
      exact .made hstate (hset _ _)
    | error e =>
      refine .failed hstate ?_
      change part.get (part.set s' (part.get s').disconnect) = _
      rw [hset, hkept]

/-- An api that moves its connection only to connect and to disconnect. -/
structure Orderly (api : Api σ S) (view : σ → Connection) : Prop where
  connect {κ : Type} (server : Server S κ) (s : σ) (k : κ) :
    Connects view s k ((api .connect).run server s k)
  disconnect {κ : Type} (server : Server S κ) (s : σ) (k : κ) :
    view ((api .disconnect).run server s k).2.1 = (view s).disconnect
  keeps (call : Call) (hconnect : call ≠ .connect) (hdisconnect : call ≠ .disconnect) :
    (api call).Leaves .any view fun _ => True

namespace Orderly

variable (horderly : Orderly api view)
include horderly

/-- Whatever else an api is asked to do, its connection stays. -/
theorem view_invoke {invocation : Invocation} (hconnect : invocation ≠ .direct .connect)
    (hdisconnect : invocation ≠ .direct .disconnect) (server : Server S κ) (s : σ) (k : κ) :
    view ((api.invoke invocation).run server s k).2.1 = view s := by
  cases invocation with
  | direct call =>
    have hleaves := horderly.keeps call (fun h => hconnect (congrArg _ h))
      fun h => hdisconnect (congrArg _ h)
    exact hleaves.run server s k
  | byName name parameters =>
    have hsupports (method : Method) : (api.supports method).Leaves .any view fun _ => True :=
      horderly.keeps (.supports method) (fun h => nomatch h) fun h => nomatch h
    have hcall (request : Request) : (api request.call).Leaves .any view fun _ => True := by
      apply horderly.keeps <;> cases request <;> exact fun h => nomatch h
    exact (leaves_byName hsupports hcall name parameters).run server s k

/-- An invocation that starts at rest ends at rest. -/
theorem atRest_invoke (invocation : Invocation) (server : Server S κ) (k : κ)
    (hrest : (view s).AtRest) : (view ((api.invoke invocation).run server s k).2.1).AtRest := by
  by_cases hconnect : invocation = .direct .connect
  · subst hconnect
    exact (horderly.connect server s k).atRest hrest
  by_cases hdisconnect : invocation = .direct .disconnect
  · subst hdisconnect
    have hview := horderly.disconnect server s k
    change (view ((api .disconnect).run server s k).2.1).AtRest
    rw [hview]
    exact Connection.atRest_disconnect _
  · rw [horderly.view_invoke hconnect hdisconnect]
    exact hrest

end Orderly

end

/-! ## Many invocations -/

namespace Session

section

variable {σ κ : Type} {S : Signature} (api : Api σ S) (server : Server S κ) (s : Session σ S κ)

/-- Does what is asked. -/
def invoke (invocation : Invocation) : invocation.Answer × Session σ S κ :=
  let (answer, state, node, record) :=
    (api.invoke invocation).run server.recording s.state (s.node, s.record)
  (answer, ⟨state, node, record⟩)

/-- The session after some invocations, one after another. -/
def after (invocations : List Invocation) : Session σ S κ :=
  invocations.foldl (fun s invocation => (s.invoke api server invocation).2) s

end

end Session

section

variable {σ κ : Type} {S : Signature} {api : Api σ S} {server : Server S κ}
  {view : σ → Connection} {initial : σ} {s : Session σ S κ}

/-- A session that came about by invocations of an api, one after another. -/
def Session.Reached (api : Api σ S) (server : Server S κ) (initial : σ) (s : Session σ S κ) :
    Prop :=
  ∃ node invocations, s = (Session.start initial node).after api server invocations

/-- What holds of the connection of an api in every session that came about by invocations, one
after another, whatever its node has answered. -/
structure KeepsConnection (api : Api σ S) (view : σ → Connection) (initial : σ) : Prop where
  /-- The connection is disconnected or active, and its channel holds its state. -/
  atRest {κ : Type} {server : Server S κ} {s : Session σ S κ} (h : s.Reached api server initial) :
    (view s.state).AtRest
  /-- Who connects succeeds exactly if the connection is active thereafter. -/
  connect_ok_iff {κ : Type} {server : Server S κ} {s : Session σ S κ}
    (h : s.Reached api server initial) : (s.call api server .connect).1 = .ok () ↔
      (view (s.call api server .connect).2.state).state = .active
  /-- Who fails to connect leaves the connection disconnected. -/
  connect_error {κ : Type} {server : Server S κ} {s : Session σ S κ}
    (h : s.Reached api server initial) (e : ApiError)
    (he : (s.call api server .connect).1 = .error e) :
    (view (s.call api server .connect).2.state).state = .disconnected
  /-- Who connects once more asks the node nothing and changes nothing. -/
  connect_active {κ : Type} {server : Server S κ} {s : Session σ S κ}
    (h : s.Reached api server initial) (hactive : (view s.state).state = .active) :
    s.call api server .connect = (.ok (), s)
  /-- Nothing else that an api is asked to do moves its connection. -/
  keeps {κ : Type} {server : Server S κ} {s : Session σ S κ} (h : s.Reached api server initial)
    (invocation : Invocation) (hconnect : invocation ≠ .direct .connect)
    (hdisconnect : invocation ≠ .direct .disconnect) :
    view (s.invoke api server invocation).2.state = view s.state

/-- Invocations leave a connection at rest, one after another. -/
theorem Orderly.atRest_after (horderly : Orderly api view) (hrest : (view s.state).AtRest)
    (invocations : List Invocation) : (view (s.after api server invocations).state).AtRest := by
  induction invocations generalizing s with
  | nil => exact hrest
  | cons invocation rest ih =>
    have hnext := horderly.atRest_invoke invocation server.recording (s.node, s.record) hrest
    exact ih hnext

/-- The connection of an orderly api says what was done. -/
theorem Orderly.keepsConnection (horderly : Orderly api view)
    (hinitial : (view initial).AtRest) : KeepsConnection api view initial := by
  have hrest {κ : Type} {server : Server S κ} {s : Session σ S κ}
      (h : s.Reached api server initial) : (view s.state).AtRest := by
    obtain ⟨node, invocations, rfl⟩ := h
    exact horderly.atRest_after hinitial invocations
  have hconnects {κ : Type} (server : Server S κ) (s : Session σ S κ) :=
    horderly.connect server.recording s.state (s.node, s.record)
  constructor
  · intro κ server s h
    exact hrest h
  · intro κ server s h
    exact (hconnects server s).ok_iff
  · intro κ server s h e he
    exact (hconnects server s).disconnected_of_error (hrest h) he
  · intro κ server s h hactive
    exact Session.call_eq_of_run server ((hconnects server s).eq_of_active hactive)
  · intro κ server s h invocation hconnect hdisconnect
    exact horderly.view_invoke hconnect hdisconnect server.recording s.state (s.node, s.record)

end

end ChainIndex
