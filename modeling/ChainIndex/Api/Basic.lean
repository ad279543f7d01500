import ChainIndex.Api.Request
import ChainIndex.Block.Event
import ChainIndex.Block.Runtime

/-!
# ChainIndex.Api.Basic

Chain apis: the calls they take, the answers they give, and calls by name.

An api is a task for every call.  Whoever uses an api sees nothing else of it, so the same
code works over a node with blocks addressed by hash, over one with blocks addressed by
round, and over any function from calls to answers.
-/

namespace ChainIndex

/-- A call to a chain api. -/
inductive Call where
  | connectionState
  /-- Whether a method is served. -/
  | supports (method : Method)
  | connect
  | disconnect
  | runtimeVersion (hash : Option BlockHash)
  | metadata (hash : Option BlockHash)
  | chainName
  | genesisHash
  | blockHash (number : BlockNumber)
  | finalizedHead
  | header (hash : BlockHash)
  | block (hash : BlockHash)
  | eventsAt (hash : BlockHash)
  | eventsRange (first last : BlockHash)
  | blockByNumber (number : BlockNumber)
  deriving DecidableEq

/-- The answer to a call. -/
def Call.Answer : Call → Type
  | .connectionState => ConnectionState
  | .supports _ => Bool
  | .connect => Except ApiError Unit
  | .disconnect => Unit
  | .runtimeVersion _ => Except ApiError RuntimeVersion
  | .metadata _ => Except ApiError RuntimeMetadata
  | .chainName | .genesisHash => Except ApiError String
  | .blockHash _ | .finalizedHead => Except ApiError BlockHash
  | .header _ => Except ApiError Header
  | .block _ | .blockByNumber _ => Except ApiError SignedBlock
  | .eventsAt _ | .eventsRange _ _ => Except ApiError (List EventRecord)

/-- Calls as questions, for tasks that leave it open who answers them. -/
def Calls : Signature := ⟨Call, Call.Answer⟩

/-- A chain api over a state `σ`, which may ask questions of `S`. -/
def Api (σ : Type) (S : Signature) : Type := (call : Call) → Task σ S call.Answer

/-- A task that may fail. -/
abbrev Attempt (σ : Type) (S : Signature) (α : Type) : Type := ExceptT ApiError (Task σ S) α

namespace Api

variable {σ : Type} {S : Signature}

/-- The api that puts every call as a question. -/
def asking : Api σ Calls := fun call => Task.question (S := Calls) call

/-- The api whose answers depend on nothing but the call. -/
def ofAnswers (answer : (call : Call) → call.Answer) : Api σ S := fun call => .done (answer call)

/-- The api whose questions are answered by tasks on a state of their own. -/
def answeredBy {τ : Type} {T : Signature} (api : Api σ S)
    (serve : (query : S.Query) → Task τ T (S.Answer query)) : Api (σ × τ) T :=
  fun call => (api call).answeredBy serve

/-- The api on a part of a larger state. -/
def within {τ : Type} (api : Api σ S) (part : Task.Part τ σ) : Api τ S :=
  fun call => (api call).within part

/-- The api where questions of another kind are served, too. -/
def inLeft {T : Signature} (api : Api σ S) : Api σ (S.sum T) := fun call => (api call).inLeft

/-- The api where questions of another kind are served, too. -/
def inRight {T : Signature} (api : Api σ S) : Api σ (T.sum S) := fun call => (api call).inRight

/-! ## Calls one by one -/

def connectionState (api : Api σ S) : Task σ S ConnectionState := api .connectionState

def supports (api : Api σ S) (method : Method) : Task σ S Bool := api (.supports method)

def connect (api : Api σ S) : Attempt σ S Unit := api .connect

def disconnect (api : Api σ S) : Task σ S Unit := api .disconnect

def runtimeVersion (api : Api σ S) (hash : Option BlockHash) : Attempt σ S RuntimeVersion :=
  api (.runtimeVersion hash)

def metadata (api : Api σ S) (hash : Option BlockHash) : Attempt σ S RuntimeMetadata :=
  api (.metadata hash)

def chainName (api : Api σ S) : Attempt σ S String := api .chainName

def genesisHash (api : Api σ S) : Attempt σ S String := api .genesisHash

def blockHash (api : Api σ S) (number : BlockNumber) : Attempt σ S BlockHash :=
  api (.blockHash number)

def finalizedHead (api : Api σ S) : Attempt σ S BlockHash := api .finalizedHead

def header (api : Api σ S) (hash : BlockHash) : Attempt σ S Header := api (.header hash)

def block (api : Api σ S) (hash : BlockHash) : Attempt σ S SignedBlock := api (.block hash)

def eventsAt (api : Api σ S) (hash : BlockHash) : Attempt σ S (List EventRecord) :=
  api (.eventsAt hash)

def eventsRange (api : Api σ S) (first last : BlockHash) : Attempt σ S (List EventRecord) :=
  api (.eventsRange first last)

def blockByNumber (api : Api σ S) (number : BlockNumber) : Attempt σ S SignedBlock :=
  api (.blockByNumber number)

end Api

/-- The block of a number, found through its hash. -/
def blockThroughHash {σ : Type} {S : Signature} (blockHash : BlockNumber → Attempt σ S BlockHash)
    (block : BlockHash → Attempt σ S SignedBlock) (number : BlockNumber) :
    Attempt σ S SignedBlock := do
  let hash ← blockHash number
  block hash

/-! ## Calls by name -/

/-- What a request is answered with. -/
inductive Response where
  | runtimeVersion (version : RuntimeVersion)
  | metadata (metadata : RuntimeMetadata)
  | chainName (name : String)
  | genesisHash (hash : String)
  | blockHash (hash : BlockHash)
  | header (header : Header)
  | block (block : SignedBlock)
  | events (events : List EventRecord)
  deriving DecidableEq

def Response.toJson : Response → Json
  | .runtimeVersion v => v.toJson
  | .metadata v => v.toJson
  | .chainName text | .genesisHash text => .string text
  | .blockHash v => v.toJson
  | .header v => v.toJson
  | .block v => v.toJson
  | .events vs => .ofList EventRecord.toJson vs

namespace Api

variable {σ : Type} {S : Signature}

/-- Makes the call of a request. -/
def perform (api : Api σ S) : Request → Attempt σ S Response
  | .runtimeVersion hash => .runtimeVersion <$> api.runtimeVersion hash
  | .metadata hash => .metadata <$> api.metadata hash
  | .chainName => .chainName <$> api.chainName
  | .genesisHash => .genesisHash <$> api.genesisHash
  | .blockHash number => .blockHash <$> api.blockHash number
  | .finalizedHead => .blockHash <$> api.finalizedHead
  | .header hash => .header <$> api.header hash
  | .block hash => .block <$> api.block hash
  | .eventsAt hash => .events <$> api.eventsAt hash
  | .eventsRange first last => .events <$> api.eventsRange first last

/-- Answers a request whose method is served. -/
def dispatch (api : Api σ S) (request : Request) : Attempt σ S Response := do
  if ← ExceptT.lift (api.supports request.method) then api.perform request
  else throw (.unsupportedMethod request.method.name)

/-- Calls a method by name. -/
def callByName (api : Api σ S) (name : String) (parameters : List Json) : Attempt σ S Json := do
  let request ← (Request.parse name parameters : Except ApiError Request)
  Response.toJson <$> api.dispatch request

end Api

end ChainIndex
