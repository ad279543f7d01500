import ChainIndex.Proofs.Api.Conduct
import ChainIndex.Substrate.Chain

/-!
# ChainIndex.Proofs.Substrate.Conduct

How the calls to a chain over a node of hashes account for their errors.

A call puts requests of two kinds to the node: lookups, which may find nothing, and requests that
must have a result.  Whatever is counted as a failure of the node, if these two account
for the errors they stand for (`Covers`), then so does every call (`Covers.fulfils_api`).
-/

namespace ChainIndex

open ChainIndex.Task

namespace JsonRpc.Connector

/-- The terms of a connector: it stays with its address. -/
def terms (url : Url) : Terms Connector Http.Exchange := .ofState fun c => c.url = url

/-- What is read of what came back, if anything did. -/
def readReply {α : Type} (method : String) (format : Json.Format α) :
    Option Http.Answer → Except Failure (Option α)
  | none => .error .unreachable
  | some answer => readAnswer method format answer

/-- A request is one exchange with the node, and ends with what is read of it. -/
theorem fulfils_request {α : Type} {url : Url} (method : String) (parameters : List Json)
    (format : Json.Format α) :
    (request method parameters format).Fulfils (terms url) fun made result =>
      ∃ (id : Int32) (answer : Option Http.Answer),
        made = [⟨.post url (requestBody method parameters id), answer⟩] ∧
          result = readReply method format answer := by
  refine fun c hc => ⟨hc, ?_⟩
  obtain rfl : c.url = url := hc
  intro answer _
  change Option Http.Answer at answer
  cases answer <;> exact ⟨c.nextId, _, rfl, rfl⟩

/-- The body of a request says what is asked. -/
theorem eq_of_requestBody {method method' : String} {parameters parameters' : List Json}
    {id id' : Int32} (h : requestBody method parameters id = requestBody method' parameters' id') :
    method = method' ∧ parameters = parameters' := by
  simp only [requestBody, Json.object.injEq, List.cons.injEq, Prod.mk.injEq,
    Json.string.injEq, Json.array.injEq] at h
  exact ⟨h.2.1.2, h.2.2.1.2⟩

end JsonRpc.Connector

namespace Substrate

open JsonRpc

/-! ## Lookups -/

/-- What a node of hashes is asked for that it may not have. -/
inductive Lookup where
  | hashOf (number : UInt64)
  | header (hash : BlockHash)
  | block (hash : BlockHash)

namespace Lookup

def method : Lookup → String
  | .hashOf _ => "chain_getBlockHash"
  | .header _ => "chain_getHeader"
  | .block _ => "chain_getBlock"

def parameter : Lookup → Json
  | .hashOf number => .ofUInt64 number
  | .header hash | .block hash => .string hash.toText

/-- The shape of what is found. -/
def shape : Lookup → Json.Shape
  | .hashOf _ => Connector.stringFormat.shape
  | .header _ => NodeHeader.format.shape
  | .block _ => NodeSignedBlock.format.shape

/-- The error of a lookup that finds nothing. -/
def missing : Lookup → ApiError
  | .hashOf number => .notFound number
  | .header hash | .block hash => .missingBlock hash

/-- The methods of all lookups. -/
def methods : List String := ["chain_getBlockHash", "chain_getHeader", "chain_getBlock"]

theorem method_mem (lookup : Lookup) : lookup.method ∈ methods := by
  cases lookup <;> simp [method, methods]

/-- What a lookup that finds nothing ends with says that there is nothing. -/
theorem missing_isNotFound (lookup : Lookup) : lookup.missing.isNotFound = true := by
  cases lookup <;> rfl

/-- Lookups of one method find things of one shape. -/
theorem shape_eq_of_method {lookup other : Lookup} (h : lookup.method = other.method) :
    lookup.shape = other.shape := by
  cases lookup <;> cases other <;> first | rfl | simp [method] at h

/-- The body of a request for it. -/
def requestBody (lookup : Lookup) (id : Int32) : Json :=
  Connector.requestBody lookup.method [lookup.parameter] id

/-- The error that a lookup stands for. -/
def error? {α : Type} (lookup : Lookup) : Except Failure (Option α) → Option ApiError
  | .ok none => some lookup.missing
  | .ok (some _) => none
  | .error failure => some (.ofJsonRpc failure)

end Lookup

/-! ## Failures of the node -/

/-- Failures by which all requests to a node account for the errors that they stand for, where a
chain may itself make the errors of `own`. -/
structure Covers (url : Url) (Fails : Exchange Http.Exchange → ApiError → Prop)
    (own : ApiError → Prop) : Prop where
  notConnected : ∀ operation state, own (.notConnected operation state)
  unsupportedMethod : ∀ name, own (.unsupportedMethod name)
  invalidResponse : ∀ text, own (.invalidResponse text)
  lookup : ∀ {α : Type} (lookup : Lookup) (format : Json.Format α), format.shape = lookup.shape →
    (Connector.request lookup.method [lookup.parameter] format).Fulfils (Connector.terms url)
      fun made result => Accounts Fails own made (lookup.error? result)
  requestSome : ∀ {α : Type} (subject method : String) (parameters : List Json)
    (format : Json.Format α), method ∉ Lookup.methods →
    (Connector.requestSome subject method parameters format).Fulfils (Connector.terms url)
      fun made result => Accounts Fails own made ((errorOf? result).map .ofJsonRpc)

namespace Chain

/-- The terms of a chain: it stays with the address of its node. -/
def terms (url : Url) : Terms Chain Http.Exchange := .ofState fun c => c.connector.url = url

/-- What the connector of a chain does, the chain does. -/
theorem fulfils_onConnector {α : Type} {url : Url} {asking : Node.Asking α}
    {P : List (Exchange Http.Exchange) → Except Failure α → Prop}
    (h : asking.Fulfils (Connector.terms url) P) :
    (asking.within connectorPart).Fulfils (terms url) P :=
  h.within (fun _ hc => hc) fun _ _ _ hc => hc

/-- What is asked of a node is asked in the same way through the chain. -/
theorem fulfils_onNode {α : Type} {url : Url} {asking : Node.Asking α}
    {P : List (Exchange Http.Exchange) → Except Failure α → Prop}
    (h : asking.Fulfils (Connector.terms url) P) :
    (onNode asking).run.Fulfils (terms url) fun made result =>
      ∃ asked, result = asked.mapError ApiError.ofJsonRpc ∧ P made asked := by
  refine Fulfils.bind_attempt (P := fun made result => ∃ asked, result = .ok asked ∧ P made asked)
    (fulfils_lift ((fulfils_onConnector h).mono fun _ asked hasked => ⟨asked, rfl, hasked⟩)) ?_ ?_
  · rintro made asked ⟨_, heq, hasked⟩
    obtain rfl := Except.ok.inj heq
    rw [← List.append_nil made] at hasked
    cases asked <;> exact ⟨_, rfl, hasked⟩
  · rintro made e ⟨_, heq, -⟩
    cases heq

/-! ## What is read -/

/-- A text that is no hash is an invalid response. -/
theorem readHash_eq_error {method : Method} {text : String} {e : ApiError}
    (h : readHash method text = .error e) : ∃ text, e = .invalidResponse text := by
  unfold readHash at h
  split at h
  · cases h
  · exact ⟨_, (Except.error.inj h).symm⟩

/-- A header that cannot be read is an invalid response. -/
theorem readHeader_eq_error {hash : BlockHash} {header : NodeHeader} {e : ApiError}
    (h : readHeader hash header = .error e) : ∃ text, e = .invalidResponse text := by
  unfold readHeader at h
  split at h
  · exact ⟨_, (Except.error.inj h).symm⟩
  · cases hparent : readHash .header header.parentHash with
    | ok parentHash =>
      rw [hparent] at h
      cases h
    | error cause =>
      rw [hparent] at h
      cases h
      exact readHash_eq_error hparent

/-- A block that cannot be read is an invalid response. -/
theorem readBlock_eq_error {hash : BlockHash} {block : NodeSignedBlock} {e : ApiError}
    (h : readBlock hash block = .error e) : ∃ text, e = .invalidResponse text := by
  unfold readBlock at h
  cases hheader : readHeader hash block.block.header with
  | ok header =>
    rw [hheader] at h
    cases h
  | error cause =>
    rw [hheader] at h
    cases h
    exact readHeader_eq_error hheader

/-- Metadata that cannot be read is an invalid response. -/
theorem readMetadata_eq_error {raw : String} {e : ApiError}
    (h : readMetadata raw = .error e) : ∃ text, e = .invalidResponse text := by
  unfold readMetadata at h
  split at h
  · exact ⟨_, (Except.error.inj h).symm⟩
  · split at h
    · simp only at h
      split at h
      · cases h
      · exact ⟨_, (Except.error.inj h).symm⟩
    · exact ⟨_, (Except.error.inj h).symm⟩

end Chain

namespace Covers

open Chain

variable {α β : Type} {url : Url} {Fails : Exchange Http.Exchange → ApiError → Prop}
  {own : ApiError → Prop} (h : Covers url Fails own)
include h

/-! ## Parts of calls -/

/-- What is read from an answer that makes no sense. -/
theorem conducts_read {result : Except ApiError α}
    (hread : ∀ e, result = .error e → ∃ text, e = .invalidResponse text) :
    Conducts (terms url) Fails own (liftM result) fun _ => True := by
  refine conducts_except fun e he => ?_
  obtain ⟨text, rfl⟩ := hread e he
  exact h.invalidResponse text

/-- A move of the connection fails only by an error of the chain's own. -/
theorem conducts_transition (source target : ConnectionState) :
    Conducts (terms url) Fails own (transition source target) fun _ => True := by
  refine Conducts.bind (conducts_step (Q := fun _ => True) fun c hc => ⟨hc, trivial⟩)
    fun moved _ => ?_
  cases moved with
  | ok _ => exact conducts_pure trivial
  | error state => exact conducts_throw (h.notConnected _ _)

/-- A call that is refused without an active connection adds no other error by that. -/
theorem conducts_guarded {x : Attempt Chain Http.Exchange α} (method : Method)
    (hx : Conducts (terms url) Fails own x fun _ => True) :
    Conducts (terms url) Fails own (do ensureActive method; x) fun _ => True :=
  Conducts.bind (conducts_ensureActive h.notConnected) fun _ _ => hx

omit h in
/-- A request that must have a result. -/
theorem conducts_onNode {asking : Node.Asking α}
    (hasking : asking.Fulfils (Connector.terms url) fun made result =>
      Accounts Fails own made ((errorOf? result).map .ofJsonRpc)) :
    Conducts (terms url) Fails own (onNode asking) fun _ => True := by
  refine (fulfils_onNode hasking).mono fun made result hresult => ?_
  obtain ⟨asked, rfl, haccounts⟩ := hresult
  cases asked <;> exact ⟨haccounts, fun _ _ => trivial⟩

omit h in
/-- A lookup that ends a call where it finds nothing. -/
theorem conducts_lookup {lookup : Lookup} {asking : Node.Asking (Option α)}
    {next : Option α → Attempt Chain Http.Exchange β}
    (hasking : asking.Fulfils (Connector.terms url) fun made result =>
      Accounts Fails own made (lookup.error? result))
    (hnone : next none = throw lookup.missing)
    (hsome : ∀ a, Conducts (terms url) Fails own (next (some a)) fun _ => True) :
    Conducts (terms url) Fails own (onNode asking >>= next) fun _ => True := by
  refine Fulfils.bind_attempt (fulfils_onNode hasking) ?_ ?_
  · rintro made found ⟨asked, heq, haccounts⟩
    obtain rfl := mapError_eq_ok.mp heq.symm
    cases found with
    | none =>
      rw [hnone]
      exact ⟨by rwa [List.append_nil], fun _ _ => trivial⟩
    | some a =>
      exact (hsome a).mono fun more result hresult =>
        ⟨hresult.1.prepend haccounts.allFine, hresult.2⟩
  · rintro made e ⟨asked, heq, haccounts⟩
    obtain ⟨failure, rfl, rfl⟩ := mapError_eq_error.mp heq.symm
    exact ⟨haccounts, fun _ _ => trivial⟩

/-! ## Calls -/

/-- Connecting fails as the node does or by an error of the chain's own. -/
theorem conducts_connect : Conducts (terms url) Fails own connect fun _ => True := by
  refine Conducts.bind (ChainIndex.conducts_read _ (Q := fun _ => True) fun _ _ => trivial)
    fun state _ => ?_
  split
  · exact conducts_pure trivial
  · refine Conducts.bind (h.conducts_transition _ _) fun _ _ => ?_
    refine Fulfils.bind_attempt (fulfils_lift (P := fun made result => ∃ asked,
      result = .ok asked ∧ Accounts Fails own made ((errorOf? asked).map .ofJsonRpc))
      ((fulfils_onConnector (h.requestSome _ _ _ _ (by decide))).mono
        fun _ asked hasked => ⟨asked, rfl, hasked⟩)) ?_ fun _ _ he => nomatch he
    rintro made asked ⟨_, heq, haccounts⟩
    obtain rfl := Except.ok.inj heq
    cases asked with
    | ok name =>
      exact (h.conducts_transition _ _).mono fun more result hresult =>
        ⟨hresult.1.prepend haccounts.allFine, hresult.2⟩
    | error failure =>
      -- the connection is given up before the call fails
      exact fun c hc => ⟨hc, by rwa [List.append_nil], fun _ _ => trivial⟩

theorem conducts_genesisHash : Conducts (terms url) Fails own genesisHash fun _ => True :=
  h.conducts_guarded _ (conducts_lookup (h.lookup (.hashOf 0) _ rfl) rfl fun _ =>
    conducts_pure trivial)

theorem conducts_blockHash (number : BlockNumber) :
    Conducts (terms url) Fails own (blockHash number) fun _ => True :=
  h.conducts_guarded _ (conducts_lookup (h.lookup (.hashOf number) _ rfl) rfl fun _ =>
    h.conducts_read fun _ => readHash_eq_error)

theorem conducts_header (hash : BlockHash) :
    Conducts (terms url) Fails own (header hash) fun _ => True :=
  h.conducts_guarded _ (conducts_lookup (h.lookup (.header hash) _ rfl) rfl fun _ =>
    h.conducts_read fun _ => readHeader_eq_error)

theorem conducts_block (hash : BlockHash) :
    Conducts (terms url) Fails own (block hash) fun _ => True :=
  h.conducts_guarded _ (conducts_lookup (h.lookup (.block hash) _ rfl) rfl fun _ =>
    h.conducts_read fun _ => readBlock_eq_error)

/-- A call for the block of a height fails as one of its two lookups does. -/
theorem conducts_blockByNumber (number : BlockNumber) :
    Conducts (terms url) Fails own (blockThroughHash blockHash block number) fun _ => True :=
  Conducts.bind (h.conducts_blockHash number) fun hash _ => h.conducts_block hash

theorem conducts_runtimeVersion (hash : Option BlockHash) :
    Conducts (terms url) Fails own (runtimeVersion hash) fun _ => True :=
  h.conducts_guarded _ (conducts_onNode (h.requestSome _ _ _ _ (by decide)))

theorem conducts_metadata (hash : Option BlockHash) :
    Conducts (terms url) Fails own (metadata hash) fun _ => True :=
  h.conducts_guarded _ (Conducts.bind (conducts_onNode (h.requestSome _ _ _ _ (by decide)))
    fun _ _ => h.conducts_read fun _ => readMetadata_eq_error)

theorem conducts_chainName : Conducts (terms url) Fails own chainName fun _ => True :=
  h.conducts_guarded _ (conducts_onNode (h.requestSome _ _ _ _ (by decide)))

theorem conducts_finalizedHead : Conducts (terms url) Fails own finalizedHead fun _ => True :=
  h.conducts_guarded _ (Conducts.bind (conducts_onNode (h.requestSome _ _ _ _ (by decide)))
    fun _ _ => h.conducts_read fun _ => readHash_eq_error)

/-- A call that is not served fails with no error of the node. -/
theorem conducts_unserved (method : Method) :
    Conducts (terms url) Fails own (unserved method : Attempt Chain Http.Exchange α)
      fun _ => True :=
  conducts_throw (h.unsupportedMethod _)

/-- Whatever the node answers, every call accounts for the error that it ends with. -/
theorem fulfils_api (call : Call) :
    (api call).Fulfils (terms url) fun made answer =>
      Accounts Fails own made (call.error? answer) := by
  cases call with
  | connectionState => exact fulfils_read _ fun _ _ => .fine allFine_nil
  | supports method => exact .fine allFine_nil
  | disconnect => exact fulfils_modify _ (fun _ hc => hc) (.fine allFine_nil)
  | connect => exact h.conducts_connect.mono fun _ _ h => h.1
  | runtimeVersion hash => exact (h.conducts_runtimeVersion hash).mono fun _ _ h => h.1
  | metadata hash => exact (h.conducts_metadata hash).mono fun _ _ h => h.1
  | chainName => exact h.conducts_chainName.mono fun _ _ h => h.1
  | genesisHash => exact h.conducts_genesisHash.mono fun _ _ h => h.1
  | blockHash number => exact (h.conducts_blockHash number).mono fun _ _ h => h.1
  | finalizedHead => exact h.conducts_finalizedHead.mono fun _ _ h => h.1
  | header hash => exact (h.conducts_header hash).mono fun _ _ h => h.1
  | block hash => exact (h.conducts_block hash).mono fun _ _ h => h.1
  | eventsAt hash => exact (h.conducts_unserved .eventsAt).mono fun _ _ h => h.1
  | eventsRange first last => exact (h.conducts_unserved .eventsRange).mono fun _ _ h => h.1
  | blockByNumber number => exact (h.conducts_blockByNumber number).mono fun _ _ h => h.1

end Covers

end Substrate

end ChainIndex
