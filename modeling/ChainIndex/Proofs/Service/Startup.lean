import ChainIndex.Proofs.Api.NotFound
import ChainIndex.Proofs.Api.Orderly
import ChainIndex.Service.Basic

/-!
# ChainIndex.Proofs.Service.Startup

How the start of a service leaves the connection of its api.

A start connects, and then fails or succeeds at one of a few points (`Startup`).  The connection
is undone where it was not made, and where the network is not the one that was asked for; where
any of the calls in between or after fails, it stays (`startup_undone_iff`).
-/

namespace ChainIndex

open ChainIndex.Task

section

variable {σ κ α : Type} {S : Signature} {api : Api σ S} {view : σ → Connection}

/-- How a start may end, where its call to connect has ended as `connected`. -/
inductive Startup (view : σ → Connection) (config : ServiceConfig)
    (connected : Except ApiError Unit × σ × κ) : Except ServiceError Service × σ × κ → Prop
  /-- The connection was not made. -/
  | unconnected {cause : ApiError} (h : connected.1 = .error cause) :
    Startup view config connected (.error (.api cause), connected.2)
  /-- One of the calls about the network failed. -/
  | failed {cause : ApiError} {s : σ} {k : κ} (h : connected.1 = .ok ())
    (hview : view s = view connected.2.1) :
    Startup view config connected (.error (.api cause), s, k)
  /-- It is another network, and the api is disconnected. -/
  | mismatch {expected actual : String} {s : σ} {k : κ} (h : connected.1 = .ok ())
    (hexpected : config.genesisHash = some expected) (hne : expected ≠ actual)
    (hview : view s = (view connected.2.1).disconnect) :
    Startup view config connected (.error (.genesisMismatch expected actual), s, k)
  | started {service : Service} {s : σ} {k : κ} (h : connected.1 = .ok ())
    (hview : view s = view connected.2.1) (hconfig : service.config = config)
    (hgenesis : ∀ expected, config.genesisHash = some expected →
      service.network.genesisHash = expected) :
    Startup view config connected (.ok service, s, k)

namespace Service

/-- A call that leaves the connection alone, as a part of a start. -/
theorem attempt_onApi_cases {x : Attempt σ S α} (hx : x.run.Leaves .any view fun _ => True)
    (server : Server S κ) (s : σ) (k : κ) :
    (∃ a s' k', attempt server (onApi x) s k = (.ok a, s', k') ∧ view s' = view s) ∨
    (∃ cause s' k', attempt server (onApi x) s k = (.error (.api cause), s', k') ∧
      view s' = view s) := by
  have hview := hx.run server s k
  rw [run_eq_attempt] at hview
  unfold onApi
  rw [attempt_adapt]
  cases hresult : (attempt server x s k).1 with
  | ok a => exact .inl ⟨a, _, _, rfl, hview⟩
  | error cause => exact .inr ⟨cause, _, _, rfl, hview⟩

/-- What a start does once the identity of the network is settled. -/
def resolving (config : ServiceConfig) (api : Api σ S) (state : ConnectionState)
    (genesisHash : String) : Starting σ S Service := do
  let chain ← onApi api.chainName
  let runtime ← onApi (api.runtimeVersion none)
  return ⟨config, ⟨chain, runtime.specName, genesisHash⟩, some runtime, true, state⟩

/-- Resolving the network ends with the error of a call or with a service for it, and leaves the
connection as it is. -/
theorem attempt_resolving_cases (horderly : Orderly api view) (config : ServiceConfig)
    (state : ConnectionState) (genesisHash : String) (server : Server S κ) (s : σ) (k : κ) :
    ∃ result s' k', attempt server (resolving config api state genesisHash) s k =
      (result, s', k') ∧ view s' = view s ∧
        ((∃ cause, result = .error (.api cause)) ∨
          ∃ service, result = .ok service ∧ service.config = config ∧
            service.network.genesisHash = genesisHash) := by
  unfold resolving
  rw [attempt_bind]
  have hname : (api .chainName).Leaves .any view fun _ => True :=
    horderly.keeps .chainName (by simp) (by simp)
  obtain ⟨chain, s₁, k₁, hchain, hview⟩ | ⟨cause, s₁, k₁, hchain, hview⟩ :=
    attempt_onApi_cases (x := api.chainName) hname server s k
  · rw [hchain]
    simp only
    rw [attempt_bind]
    have hversion : (api (.runtimeVersion none)).Leaves .any view fun _ => True :=
      horderly.keeps (.runtimeVersion none) (by simp) (by simp)
    obtain ⟨runtime, s₂, k₂, hruntime, hview'⟩ | ⟨cause, s₂, k₂, hruntime, hview'⟩ :=
      attempt_onApi_cases (x := api.runtimeVersion none) hversion server s₁ k₁
    · rw [hruntime]
      exact ⟨_, s₂, k₂, rfl, hview'.trans hview, .inr ⟨_, rfl, rfl, rfl⟩⟩
    · rw [hruntime]
      exact ⟨_, s₂, k₂, rfl, hview'.trans hview, .inl ⟨cause, rfl⟩⟩
  · rw [hchain]
    exact ⟨_, s₁, k₁, rfl, hview, .inl ⟨cause, rfl⟩⟩

/-- A start over an orderly api ends in one of these ways. -/
theorem init_cases (horderly : Orderly api view) (config : ServiceConfig) (server : Server S κ)
    (s : σ) (k : κ) :
    Startup view config ((api .connect).run server s k)
      (attempt server (init config api) s k) := by
  unfold init
  rw [attempt_bind, onApi, attempt_adapt]
  change Startup view config (attempt server api.connect s k) _
  generalize attempt server api.connect s k = connected
  obtain ⟨answer, s₁, k₁⟩ := connected
  cases answer with
  | error cause => exact .unconnected rfl
  | ok a =>
    simp only [mapError_ok]
    rw [attempt_bind, attempt_lift]
    have hlook : (api .connectionState).Leaves .any view fun _ => True :=
      horderly.keeps .connectionState (by simp) (by simp)
    have hstate : view (api.connectionState.run server s₁ k₁).2.1 = view s₁ :=
      hlook.run server s₁ k₁
    generalize api.connectionState.run server s₁ k₁ = looked at hstate ⊢
    obtain ⟨state, s₂, k₂⟩ := looked
    simp only at hstate ⊢
    have hlookup : (api .genesisHash).Leaves .any view fun _ => True :=
      horderly.keeps .genesisHash (by simp) (by simp)
    rw [attempt_bind]
    obtain ⟨genesisHash, s₃, k₃, hgenesis, hview⟩ | ⟨cause, s₃, k₃, hgenesis, hview⟩ :=
      attempt_onApi_cases (x := api.genesisHash) hlookup server s₂ k₂
    · rw [hgenesis]
      have hrest := attempt_resolving_cases horderly config state genesisHash server s₃ k₃
      obtain ⟨result, s₄, k₄, hresolved, hview', hresult⟩ := hrest
      -- the identity that was found is the one that was asked for, if any was
      have hsettled (hmatch : ∀ expected, config.genesisHash = some expected →
          genesisHash = expected) : Startup view config (.ok a, s₁, k₁) (result, s₄, k₄) := by
        have hkept : view s₄ = view s₁ := hview'.trans (hview.trans hstate)
        obtain ⟨cause, rfl⟩ | ⟨service, rfl, hconfig, hsame⟩ := hresult
        · exact .failed rfl hkept
        · refine .started rfl hkept hconfig fun expected hexpected => ?_
          rw [hsame]
          exact hmatch expected hexpected
      cases hexpected : config.genesisHash with
      | none =>
        change Startup view config _ (attempt server (resolving config api state genesisHash) s₃ k₃)
        rw [hresolved]
        exact hsettled (by simp [hexpected])
      | some expected =>
        by_cases hne : expected = genesisHash
        · simp only [ne_eq, hne, not_true_eq_false, ↓reduceIte]
          change Startup view config _
            (attempt server (resolving config api state genesisHash) s₃ k₃)
          rw [hresolved]
          exact hsettled (by simp [hexpected, hne])
        · simp only [ne_eq, hne, not_false_eq_true, ↓reduceIte]
          rw [attempt_bind, attempt_lift]
          refine .mismatch rfl hexpected hne ?_
          change view ((api .disconnect).run server s₃ k₃).2.1 = _
          rw [horderly.disconnect, hview, hstate]
    · rw [hgenesis]
      exact .failed rfl (hview.trans hstate)

end Service

namespace Startup

variable {config : ServiceConfig} {connected : Except ApiError Unit × σ × κ}
  {ended : Except ServiceError Service × σ × κ} {service : Service} {e : ServiceError}

/-- A service that has started is that of an active connection, and of the network that was
expected. -/
theorem active_of_started (h : Startup view config connected ended)
    (hactive : connected.1 = .ok () → (view connected.2.1).state = .active)
    (hservice : ended.1 = .ok service) :
    (view ended.2.1).state = .active ∧ service.config = config ∧
      ∀ expected, config.genesisHash = some expected →
        service.network.genesisHash = expected := by
  cases h with
  | unconnected _ | failed _ _ | mismatch _ _ _ _ => cases hservice
  | started hok hview hconfig hgenesis =>
    obtain rfl := Except.ok.inj hservice
    refine ⟨?_, hconfig, hgenesis⟩
    rw [hview]
    exact hactive hok

/-- The connection is undone where it failed itself, and where it is to another network. -/
theorem disconnected_iff (h : Startup view config connected ended)
    (hactive : connected.1 = .ok () → (view connected.2.1).state = .active)
    (hundone : ∀ cause, connected.1 = .error cause →
      (view connected.2.1).state = .disconnected) (he : ended.1 = .error e) :
    (view ended.2.1).state = .disconnected ↔
      (∃ cause, connected.1 = .error cause) ∨ ∃ expected actual,
        e = .genesisMismatch expected actual := by
  cases h with
  | started _ _ _ _ => cases he
  | unconnected hcause => exact iff_of_true (hundone _ hcause) (.inl ⟨_, hcause⟩)
  | mismatch hok _ _ hview =>
    obtain rfl := Except.error.inj he
    exact iff_of_true (by simp [hview]) (.inr ⟨_, _, rfl⟩)
  | failed hok hview =>
    obtain rfl := Except.error.inj he
    have hstate := hactive hok
    simp [hview, hstate, hok]

/-- Starting a service leaves the connection at rest. -/
theorem atRest (h : Startup view config connected ended)
    (hrest : (view connected.2.1).AtRest) : (view ended.2.1).AtRest := by
  cases h with
  | unconnected _ => exact hrest
  | failed _ hview | started _ hview _ _ =>
    rw [hview]
    exact hrest
  | mismatch _ _ _ hview =>
    rw [hview]
    exact Connection.atRest_disconnect _

end Startup

end

/-! ## Both kinds of nodes -/

section

variable {σ κ : Type} {S : Signature} {api : Api σ S} {view : σ → Connection}

/-- Starts a service over an api in use. -/
def Session.init (api : Api σ S) (server : Server S κ) (s : Session σ S κ)
    (config : ServiceConfig) : Except ServiceError Service × Session σ S κ :=
  let (result, state, node, record) :=
    attempt server.recording (Service.init config api) s.state (s.node, s.record)
  (result, ⟨state, node, record⟩)

/-- How a service starts over an api in use. -/
structure Session.Starts (api : Api σ S) (view : σ → Connection) (server : Server S κ)
    (s : Session σ S κ) (config : ServiceConfig) : Prop where
  /-- A service that was started is connected, and to the network that was asked for. -/
  started (service : Service) (hservice : (s.init api server config).1 = .ok service) :
    (view (s.init api server config).2.state).state = .active ∧ service.config = config ∧
      ∀ expected, config.genesisHash = some expected → service.network.genesisHash = expected
  /-- A start that failed has undone the connection if it could not be made or is to another
  network, and only then. -/
  failed (e : ServiceError) (he : (s.init api server config).1 = .error e) :
    (view (s.init api server config).2.state).state = .disconnected ↔
      (∃ cause, (s.call api server .connect).1 = .error cause) ∨
        ∃ expected actual, e = .genesisMismatch expected actual
  /-- Either way, nobody is left half connected. -/
  atRest : (view (s.init api server config).2.state).AtRest

/-- With an orderly api at rest, starting a service ends in one of the ways that are told of it. -/
theorem Orderly.starts (horderly : Orderly api view) {server : Server S κ} {s : Session σ S κ}
    (hrest : (view s.state).AtRest) (config : ServiceConfig) : s.Starts api view server config := by
  have hinit := Service.init_cases horderly config server.recording s.state (s.node, s.record)
  have hconnect := horderly.connect server.recording s.state (s.node, s.record)
  constructor
  · intro service hservice
    exact hinit.active_of_started hconnect.ok_iff.mp hservice
  · intro e he
    exact hinit.disconnected_iff hconnect.ok_iff.mp
      (fun _ => hconnect.disconnected_of_error hrest) he
  · exact hinit.atRest (hconnect.atRest hrest)

end

/-- Whatever was asked before of a chain over either kind of node, and whatever its node answers, a
service that was started over it is connected to the network that was asked for.  A start that
failed leaves the chain disconnected if the connection could not be made or is to another network;
where the identity of the network, the name of the chain or the version of the runtime could not be
had, the chain stays connected. -/
theorem startup_undone_iff {κ κ' : Type} (config : ServiceConfig) (before : List Invocation)
    (server : Server Algod.Client κ) (node : κ) (server' : Server Http.Exchange κ') (node' : κ')
    (url : Url) :
    let rounds := (Session.start .initial node).after Algod.Chain.api server before
    let hashes := (Session.start (.ofUrl url) node').after Substrate.Chain.api server' before
    rounds.Starts Algod.Chain.api Algod.Chain.connection server config ∧
      hashes.Starts Substrate.Chain.api Substrate.Chain.connection server' config := by
  intro rounds hashes
  have hrounds : rounds.state.connection.AtRest :=
    Algod.Chain.orderly.atRest_after Connection.atRest_initial before
  have hhashes : hashes.state.connection.AtRest :=
    Substrate.Chain.orderly.atRest_after Connection.atRest_initial before
  exact ⟨Algod.Chain.orderly.starts hrounds config, Substrate.Chain.orderly.starts hhashes config⟩

/-- A node of rounds that knows its last round and no block. -/
def Algod.blockless : Server Algod.Client Unit
  | .lastRound, k => (.ok 10, k)
  | .block _, k => (.error .unreachable, k)

/-- A chain is connected to by a service that is to be started, and stays so though the start
fails. -/
theorem startup_left_active :
    let config : ServiceConfig := .ofParts .algorand localUrl none none none
    let s : Session Algod.Chain Algod.Client Unit := .start .initial ()
    let ended := s.init Algod.Chain.api Algod.blockless config
    s.state.connection.state = .disconnected ∧
      ended.1 = .error (.api (.network (.client .unreachable))) ∧
      ended.2.state.connection.state = .active := by
  exact ⟨rfl, rfl, rfl⟩

end ChainIndex
