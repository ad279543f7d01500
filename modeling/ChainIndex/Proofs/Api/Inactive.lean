import ChainIndex.Proofs.Algod.Calls
import ChainIndex.Proofs.Api.NotFound

/-!
# ChainIndex.Proofs.Api.Inactive

Calls to a chain api whose connection is not active.

Every call that has to do with the chain looks at the connection before anything else, and is
refused in the name of a method where the connection is not active (`Call.guard?`).  Over a
node of rounds this goes for all of them.  Over a node of hashes it goes for those whose
method is served; the others are turned away in any state of the connection
(`refused_of_inactive_iff`).  Either way nothing is asked and nothing changes.
-/

namespace ChainIndex

open ChainIndex.Task

/-- The method in whose name a call is refused while the connection is not active, if it needs an
active one.  The call for the block of a number is of no method of its own, and is refused in the
name of the one given. -/
def Call.guard? (byNumber : Method) : Call → Option Method
  | .connectionState | .supports _ | .connect | .disconnect => none
  | .runtimeVersion _ => some .runtimeVersion
  | .metadata _ => some .metadata
  | .chainName => some .chainName
  | .genesisHash => some .genesisHash
  | .blockHash _ => some .blockHash
  | .finalizedHead => some .finalizedHead
  | .header _ => some .header
  | .block _ => some .block
  | .eventsAt _ => some .eventsAt
  | .eventsRange _ _ => some .eventsRange
  | .blockByNumber _ => some byNumber

/-- A call that ends with an error and does nothing else. -/
theorem Session.fails_of_run {σ κ : Type} {S : Signature} {api : Api σ S} {server : Server S κ}
    {s : Session σ S κ} {call : Call} {answer : call.Answer} {e : ApiError}
    (h : (api call).run server.recording s.state (s.node, s.record) =
      (answer, s.state, s.node, s.record)) (he : call.error? answer = some e) :
    call.error? (s.call api server call).1 = some e ∧ (s.call api server call).2 = s := by
  rw [Session.call_eq_of_run server h]
  exact ⟨he, rfl⟩

/-! ## Over a node of rounds -/

/-- Over a node of rounds every call that needs an active connection is refused without one. -/
theorem Algod.refused_of_guard {κ : Type} {server : Server Client κ} {s : Session Chain Client κ}
    (hinactive : s.state.connection.state ≠ .active) {call : Call} {method : Method}
    (hguard : call.guard? .block = some method) :
    call.error? (s.call Chain.api server call).1 =
        some (.notConnected method.name s.state.connection.state) ∧
      (s.call Chain.api server call).2 = s := by
  have hrun {α : Type} (method : Method) (x : Attempt Chain Client α) :=
    Chain.attempt_guarded server.recording (s.node, s.record) hinactive method x
  cases call with
  | connectionState | supports method | connect | disconnect => cases hguard
  | _ =>
    obtain rfl := Option.some.inj hguard
    exact Session.fails_of_run (hrun _ _) rfl

/-! ## Over a node of hashes -/

namespace Substrate.Chain

section

variable {κ α β : Type} (server : Server Http.Exchange κ) {c : Chain} (k : κ)
  (hinactive : c.connection.state ≠ .active) (method : Method) (x : Attempt Chain Http.Exchange α)
include hinactive

/-- Without an active connection, nothing else is done. -/
theorem attempt_guarded :
    attempt server (do ensureActive method; x) c k =
      (.error (.notConnected method.name c.connection.state), c, k) := by
  have hlook : attempt server (ensureActive method) c k =
      (c.connection.ensureActive method.name, c, k) := rfl
  rw [attempt_bind, hlook, Algod.Chain.ensureActive_of_inactive hinactive]

/-- What comes after a call that is refused is not done, either. -/
theorem attempt_guarded_bind (f : α → Attempt Chain Http.Exchange β) :
    attempt server ((do ensureActive method; x) >>= f) c k =
      (.error (.notConnected method.name c.connection.state), c, k) := by
  rw [attempt_bind, attempt_guarded server k hinactive]

end

/-- The error of a call over a node of hashes without an active connection. -/
def refusal (method : Method) (state : ConnectionState) : ApiError :=
  if serves method then .notConnected method.name state else .unsupportedMethod method.name

/-- Over a node of hashes every call that needs an active connection fails without one. -/
theorem fails_of_guard {κ : Type} (server : Server Http.Exchange κ)
    {s : Session Chain Http.Exchange κ} (hinactive : s.state.connection.state ≠ .active)
    {call : Call} {method : Method} (hguard : call.guard? .blockHash = some method) :
    call.error? (s.call api server call).1 = some (refusal method s.state.connection.state) ∧
      (s.call api server call).2 = s := by
  have hrun {α : Type} (method : Method) (x : Attempt Chain Http.Exchange α) :=
    attempt_guarded server.recording (s.node, s.record) hinactive method x
  cases call with
  | connectionState | supports method | connect | disconnect => cases hguard
  | eventsAt hash =>
    obtain rfl := Option.some.inj hguard
    exact Session.fails_of_run rfl rfl
  | eventsRange first last =>
    obtain rfl := Option.some.inj hguard
    exact Session.fails_of_run rfl rfl
  | blockByNumber number =>
    obtain rfl := Option.some.inj hguard
    exact Session.fails_of_run (attempt_guarded_bind server.recording _ hinactive _ _ _) rfl
  | _ =>
    obtain rfl := Option.some.inj hguard
    exact Session.fails_of_run (hrun _ _) rfl

end Substrate.Chain

/-! ## Both kinds of nodes -/

/-- While its connection is not active, whatever else is known of an api and whatever its node would
answer, a call that has to do with the chain fails, asks nothing and changes nothing.  Over a node
of rounds it is refused with the state that the connection is in.  Over a node of hashes it is
refused so exactly if its method is served; if not, it fails for just that. -/
theorem refused_of_inactive_iff {κ κ' : Type} (call : Call)
    (rounds : Session Algod.Chain Algod.Client κ) (server : Server Algod.Client κ)
    (hrounds : rounds.state.connection.state ≠ .active)
    (hashes : Session Substrate.Chain Http.Exchange κ') (server' : Server Http.Exchange κ')
    (hhashes : hashes.state.connection.state ≠ .active) :
    (∀ method, call.guard? .block = some method →
      let ended := rounds.call Algod.Chain.api server call
      ended.2 = rounds ∧
      call.error? ended.1 = some (.notConnected method.name rounds.state.connection.state)) ∧
    (∀ method, call.guard? .blockHash = some method →
      let ended := hashes.call Substrate.Chain.api server' call
      ended.2 = hashes ∧
      (call.error? ended.1 = some (.notConnected method.name hashes.state.connection.state) ↔
        Substrate.Chain.serves method = true) ∧
      (Substrate.Chain.serves method = false →
        call.error? ended.1 = some (.unsupportedMethod method.name))) := by
  refine ⟨fun method hguard => ?_, fun method hguard => ?_⟩
  · exact (Algod.refused_of_guard hrounds hguard).symm
  · obtain ⟨herror, hsame⟩ := Substrate.Chain.fails_of_guard server' hhashes hguard
    refine ⟨hsame, ?_⟩
    rw [herror, Substrate.Chain.refusal]
    cases Substrate.Chain.serves method <;> simp

/-- A node of rounds that is not there. -/
def Algod.absent : Server Algod.Client Unit
  | .lastRound, k => (.error .unreachable, k)
  | .block _, k => (.error .unreachable, k)

/-- A header is refused over either kind of node, by a chain that is just being connected and by
one that was never connected. -/
theorem refused_of_inactive_connecting :
    let rounds : Session Algod.Chain Algod.Client Unit :=
      .start ⟨⟨.connected, ⟨.connected, 1⟩⟩, .empty⟩ ()
    let hashes : Session Substrate.Chain Http.Exchange Unit := .start (.ofUrl localUrl) ()
    let server := answeringAll ⟨200, "", true⟩
    let call := Call.header .zero
    rounds.state.connection.state ≠ .active ∧ hashes.state.connection.state ≠ .active ∧
      call.error? (rounds.call Algod.Chain.api Algod.absent call).1 =
        some (.notConnected "chain_getHeader" .connected) ∧
      call.error? (hashes.call Substrate.Chain.api server call).1 =
        some (.notConnected "chain_getHeader" .disconnected) ∧
      (hashes.call Substrate.Chain.api server call).2 = hashes := by
  intro rounds hashes server call
  have hrounds : rounds.state.connection.state ≠ .active := by decide
  have hhashes : hashes.state.connection.state ≠ .active := by decide
  obtain ⟨hround, hhash⟩ :=
    refused_of_inactive_iff call rounds Algod.absent hrounds hashes server hhashes
  obtain ⟨-, herror⟩ := hround .header rfl
  obtain ⟨hsame, hrefused, -⟩ := hhash .header rfl
  exact ⟨hrounds, hhashes, herror, hrefused.mpr rfl, hsame⟩

/-- A chain over a node of hashes that was never connected does not say so when it is asked for
the events of a block. -/
theorem events_not_refused_of_disconnected :
    let s : Session Substrate.Chain Http.Exchange Unit := .start (.ofUrl localUrl) ()
    let call := Call.eventsAt .zero
    let error? := call.error? (s.call Substrate.Chain.api (answeringAll ⟨200, "", true⟩) call).1
    s.state.connection.state = .disconnected ∧ call.guard? .blockHash = some .eventsAt ∧
      error? = some (.unsupportedMethod "state_getEvents") ∧
      ∀ operation, error? ≠ some (.notConnected operation .disconnected) := by
  intro s call error?
  have herror : error? = some (.unsupportedMethod "state_getEvents") := rfl
  refine ⟨rfl, rfl, herror, fun operation h => ?_⟩
  cases herror.symm.trans h

end ChainIndex
