import ChainIndex.Proofs.Algod.Failure
import ChainIndex.Proofs.Api.Connection
import ChainIndex.Substrate.Chain

/-!
# ChainIndex.Proofs.Api.Orderly

Chains over either kind of node move their connection only to connect and to disconnect.

Both connect by the same two moves around one request, in which they differ: a chain over a node
of rounds asks for the last round, and one over a node of hashes for the name of the chain.  With
what goes for the moves of any connection this gives what goes for the connections of both
(`connection_kept`).
-/

namespace ChainIndex

open ChainIndex.Task

/-! ## Over a node of rounds -/

namespace Algod.Chain

/-- The connection within a chain. -/
def connectionPart : Task.Part Chain Connection :=
  ⟨Chain.connection, fun c connection => { c with connection }⟩

/-- A move of the connection is one within the chain. -/
theorem transition_eq (source target : ConnectionState) :
    transition source target = moving connectionPart source target := by
  unfold transition moving
  refine congrArg (_ >>= ·) (funext fun moved => ?_)
  cases moved <;> rfl

/-- The node is asked for the last round. -/
theorem connect_eq : connect = connecting connectionPart Client.askLastRound .ofClient := by
  unfold connect connecting
  refine congrArg (_ >>= ·) (funext fun state => congrArg (ite _ _) ?_)
  rw [transition_eq, transition_eq]
  refine congrArg (_ >>= ·) (funext fun _ => congrArg (_ >>= ·) (funext fun answer => ?_))
  cases answer <;> rfl

/-- Changes of the registry do not concern the connection. -/
theorem leavesView_onRegistry {α : Type} (f : Registry Block → α × Registry Block) :
    LeavesView .any Chain.connection (onRegistry f) fun _ => True :=
  leavesView_step fun _ _ => ⟨trivial, rfl⟩

/-- A call for the hash of a round leaves the connection as it is. -/
theorem leavesView_blockHash (round : BlockNumber) :
    LeavesView .any Chain.connection (blockHash round) fun _ => True := by
  refine (leavesView_ensureActive _).bind fun _ _ => ?_
  refine (leavesView_onRegistry _).bind fun found _ => ?_
  cases found with
  | some hash => exact leavesView_pure trivial
  | none =>
    refine (leavesView_fetch round).bind fun fetched _ => ?_
    exact (leavesView_onRegistry _).bind fun _ _ => leavesView_pure trivial

/-- A call for the head leaves the connection as it is. -/
theorem leavesView_finalizedHead :
    LeavesView .any Chain.connection finalizedHead fun _ => True := by
  refine (leavesView_ensureActive _).bind fun _ _ => ?_
  refine leavesView_askLastRound.bind fun round _ => ?_
  refine (leavesView_onRegistry _).bind fun found _ => ?_
  cases found with
  | some hash => exact leavesView_pure trivial
  | none =>
    refine (leavesView_fetch round).bind fun fetched _ => ?_
    refine (leavesView_onRegistry _).bind fun pinned _ => ?_
    split
    · exact leavesView_pure trivial
    · exact leavesView_throw _

/-- A call for the block of a hash leaves the connection as it is. -/
theorem leavesView_block (hash : BlockHash) :
    LeavesView .any Chain.connection (block hash) fun _ => True := by
  refine (leavesView_ensureActive _).bind fun _ _ => ?_
  refine (leavesView_read (Q := fun _ => True) _ fun _ _ => trivial).bind fun found _ => ?_
  match found with
  | none => exact leavesView_throw _
  | some (_, _, .retired) => exact leavesView_throw _
  | some (_, _, .pinned) => exact leavesView_pure trivial
  | some (_, _, .transient) =>
    exact (leavesView_onRegistry _).bind fun _ _ => leavesView_pure trivial

/-- A chain of rounds moves its connection in order. -/
theorem orderly : Orderly api Chain.connection where
  connect server c k := by
    have hrequest : (Client.askLastRound (σ := Chain)).Leaves .any connectionPart.get
        fun _ => True := fun _ _ => trivial
    change Connects Chain.connection c k (connect.run.run server c k)
    rw [connect_eq]
    exact connects_connecting (fun _ _ => rfl) (fun _ => rfl) hrequest _ server c k
  disconnect _ _ _ := rfl
  keeps call hconnect hdisconnect := by
    cases hkeeps : keepsRegistry call with
    | true => exact leaves_api_of_still hkeeps hconnect hdisconnect
    | false =>
      cases call with
      | blockHash number => exact (leavesView_blockHash number).mono fun _ _ => trivial
      | finalizedHead => exact leavesView_finalizedHead.mono fun _ _ => trivial
      | block hash => exact (leavesView_block hash).mono fun _ _ => trivial
      | _ => cases hkeeps

end Algod.Chain

/-! ## Over a node of hashes -/

namespace Substrate.Chain

variable {α β : Type}

/-- The connection within a chain. -/
def connectionPart : Task.Part Chain Connection :=
  ⟨Chain.connection, fun c connection => { c with connection }⟩

/-- A move of the connection is one within the chain of hashes. -/
theorem transition_eq (source target : ConnectionState) :
    transition source target = moving connectionPart source target := by
  unfold transition moving
  refine congrArg (_ >>= ·) (funext fun moved => ?_)
  cases moved <;> rfl

/-- The node is asked for the name of the chain. -/
theorem connect_eq :
    connect = connecting connectionPart (Node.chainName.within connectorPart) .ofJsonRpc := by
  unfold connect connecting
  refine congrArg (_ >>= ·) (funext fun state => congrArg (ite _ _) ?_)
  rw [transition_eq, transition_eq]
  refine congrArg (_ >>= ·) (funext fun _ => congrArg (_ >>= ·) (funext fun answer => ?_))
  cases answer <;> rfl

/-- A call that needs an active connection leaves it as it is, if it would with one. -/
theorem leavesView_guarded {x : Attempt Chain Http.Exchange α} (method : Method)
    (hx : LeavesView .any Chain.connection x fun _ => True) :
    LeavesView .any Chain.connection (do ensureActive method; x) fun _ => True := by
  have hcheck : LeavesView .any Chain.connection (ensureActive method) fun _ => True :=
    fun c _ => ⟨trivial, rfl, fun _ _ => trivial⟩
  exact hcheck.bind fun _ _ => hx

/-- What is asked of the node does not concern the connection. -/
theorem leavesView_onNode (asking : Node.Asking α) :
    LeavesView .any Chain.connection (onNode asking) fun _ => True := by
  have hrequest : (asking.within connectorPart).Leaves .any Chain.connection fun _ => True :=
    leaves_within fun _ _ => rfl
  refine (leavesView_lift hrequest).bind fun answer _ => ?_
  cases answer with
  | ok a => exact leavesView_pure trivial
  | error failure => exact leavesView_throw _

/-- A request, and what is read of its result. -/
theorem leavesView_reading (method : Method) (asking : Node.Asking α)
    {read : α → Attempt Chain Http.Exchange β}
    (hread : ∀ a, ∃ result : Except ApiError β, read a = liftM result) :
    LeavesView .any Chain.connection (do ensureActive method; onNode asking >>= read)
      fun _ => True := by
  refine leavesView_guarded method ((leavesView_onNode asking).bind fun a _ => ?_)
  obtain ⟨result, hresult⟩ := hread a
  rw [hresult]
  exact leavesView_except result

theorem leavesView_blockHash (number : BlockNumber) :
    LeavesView .any Chain.connection (blockHash number) fun _ => True := by
  refine leavesView_reading .blockHash (Node.blockHash number) fun found => ?_
  cases found with
  | some hash => exact ⟨readHash .blockHash hash, rfl⟩
  | none => exact ⟨.error (.notFound number), rfl⟩

/-- A call for the identity of the network leaves the connection as it is. -/
theorem leavesView_genesisHash : LeavesView .any Chain.connection genesisHash fun _ => True := by
  refine leavesView_reading .genesisHash (Node.blockHash 0) fun found => ?_
  cases found with
  | some hash => exact ⟨.ok hash, rfl⟩
  | none => exact ⟨.error (.notFound 0), rfl⟩

theorem leavesView_header (hash : BlockHash) :
    LeavesView .any Chain.connection (header hash) fun _ => True := by
  refine leavesView_reading .header (Node.header hash.toText) fun found => ?_
  cases found with
  | some header => exact ⟨readHeader hash header, rfl⟩
  | none => exact ⟨.error (.missingBlock hash), rfl⟩

theorem leavesView_block (hash : BlockHash) :
    LeavesView .any Chain.connection (block hash) fun _ => True := by
  refine leavesView_reading .block (Node.block hash.toText) fun found => ?_
  cases found with
  | some block => exact ⟨readBlock hash block, rfl⟩
  | none => exact ⟨.error (.missingBlock hash), rfl⟩

theorem leavesView_metadata (hash : Option BlockHash) :
    LeavesView .any Chain.connection (metadata hash) fun _ => True :=
  leavesView_reading _ _ fun raw => ⟨readMetadata raw, rfl⟩

theorem leavesView_finalizedHead :
    LeavesView .any Chain.connection finalizedHead fun _ => True :=
  leavesView_reading _ _ fun hash => ⟨readHash .finalizedHead hash, rfl⟩

theorem leavesView_blockByNumber (number : BlockNumber) :
    LeavesView .any Chain.connection (blockThroughHash blockHash block number) fun _ => True :=
  (leavesView_blockHash number).bind fun hash _ => leavesView_block hash

/-- A chain of hashes moves its connection in order. -/
theorem orderly : Orderly api Chain.connection where
  connect server c k := by
    have hrequest : (Node.chainName.within connectorPart).Leaves .any connectionPart.get
        fun _ => True := leaves_within fun _ _ => rfl
    change Connects Chain.connection c k (connect.run.run server c k)
    rw [connect_eq]
    exact connects_connecting (fun _ _ => rfl) (fun _ => rfl) hrequest _ server c k
  disconnect _ _ _ := rfl
  keeps call hconnect hdisconnect := by
    have hnode {α : Type} (method : Method) (asking : Node.Asking α) :=
      leavesView_guarded method (leavesView_onNode asking)
    cases call with
    | connect => exact absurd rfl hconnect
    | disconnect => exact absurd rfl hdisconnect
    | connectionState => exact fun _ _ => ⟨trivial, rfl, trivial⟩
    | supports method => trivial
    | runtimeVersion hash => exact (hnode _ _).mono fun _ _ => trivial
    | metadata hash => exact (leavesView_metadata hash).mono fun _ _ => trivial
    | chainName => exact (hnode _ _).mono fun _ _ => trivial
    | genesisHash => exact leavesView_genesisHash.mono fun _ _ => trivial
    | blockHash number => exact (leavesView_blockHash number).mono fun _ _ => trivial
    | finalizedHead => exact leavesView_finalizedHead.mono fun _ _ => trivial
    | header hash => exact (leavesView_header hash).mono fun _ _ => trivial
    | block hash => exact (leavesView_block hash).mono fun _ _ => trivial
    | eventsAt hash => trivial
    | eventsRange first last => trivial
    | blockByNumber number => exact (leavesView_blockByNumber number).mono fun _ _ => trivial

end Substrate.Chain

/-! ## Both kinds of nodes -/

/-- After any invocations that were made one after another, whatever its node has answered, the
connection of a chain over either kind of node is disconnected or active, as its channel says; who
connects succeeds exactly if it is active thereafter, and asks nothing if it was before; nothing but
connecting and disconnecting moves it.  However a connection by itself is moved, its channel holds
its state; a move that is refused reports the state found and changes nothing, and one that is made
is one of the four. -/
theorem connection_kept :
    KeepsConnection Algod.Chain.api Algod.Chain.connection Algod.Chain.initial ∧
    (∀ url, KeepsConnection Substrate.Chain.api Substrate.Chain.connection (.ofUrl url)) ∧
    ∀ moves : List Connection.Move,
      let c := Connection.initial.after moves
      c.channel.value = c.state ∧ c.disconnect.state = .disconnected ∧
        ∀ source target,
          (∀ found c', c.transition source target = (.error found, c') →
            found = c.state ∧ c' = c) ∧
          (∀ c', c.transition source target = (.ok (), c') →
            ConnectionState.Legal c.state c'.state ∧ c.state = source ∧ c'.state = target) ∧
          (ConnectionState.Legal source target → c.state = source →
            c.transition source target = (.ok (), c.moveTo target)) := by
  have halgod : KeepsConnection Algod.Chain.api Algod.Chain.connection Algod.Chain.initial :=
    Algod.Chain.orderly.keepsConnection Connection.atRest_initial
  have hsubstrate (url : Url) : KeepsConnection Substrate.Chain.api Substrate.Chain.connection
      (.ofUrl url) := Substrate.Chain.orderly.keepsConnection Connection.atRest_initial
  refine ⟨halgod, hsubstrate, fun moves => ?_⟩
  have hagrees := Connection.agrees_initial.after moves
  refine ⟨hagrees, rfl, fun source target => ⟨?_, ?_, ?_⟩⟩
  · intro found c' hrefused
    exact Connection.transition_eq_error hrefused
  · intro c' hmoved
    obtain ⟨hlegal, hsource, heq⟩ := Connection.transition_eq_ok hmoved
    exact ⟨hlegal, hsource, congrArg Connection.state heq⟩
  · intro hlegal hstate
    exact Connection.transition_of_legal hlegal hstate

end ChainIndex
