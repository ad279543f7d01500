import ChainIndex.Api.Error

/-!
# ChainIndex.Api.Request

Typed requests, and how they are read from a method name and a list of parameters.

A parameter that is `null` counts as missing, and parameters beyond those a method has are
not looked at.
-/

namespace ChainIndex

/-- A request to a chain api. -/
inductive Request where
  | runtimeVersion (hash : Option BlockHash)
  | metadata (hash : Option BlockHash)
  | chainName
  | genesisHash
  | blockHash (number : BlockNumber)
  | finalizedHead
  | header (hash : BlockHash)
  | block (hash : BlockHash)
  | eventsAt (hash : BlockHash)
  | eventsRange (first last : BlockHash)
  deriving DecidableEq

namespace Request

/-- The method of a request. -/
def method : Request → Method
  | .runtimeVersion _ => .runtimeVersion
  | .metadata _ => .metadata
  | .chainName => .chainName
  | .genesisHash => .genesisHash
  | .blockHash _ => .blockHash
  | .finalizedHead => .finalizedHead
  | .header _ => .header
  | .block _ => .block
  | .eventsAt _ => .eventsAt
  | .eventsRange _ _ => .eventsRange

/-- The parameters of a request; an absent hash is `null`. -/
def parameters : Request → List Json
  | .runtimeVersion hash | .metadata hash => [.ofOption BlockHash.toJson hash]
  | .chainName | .genesisHash | .finalizedHead => []
  | .blockHash number => [.ofUInt64 number]
  | .header hash | .block hash | .eventsAt hash => [hash.toJson]
  | .eventsRange first last => [first.toJson, last.toJson]

/-- Reads the value of a hash. -/
def readHash : Json → Except ParameterFault BlockHash
  | .string text =>
    match BlockHash.ofText text with
    | .ok hash => .ok hash
    | .error fault => .error (.badHash fault)
  | value => .error (.wrongKind value "a string")

/-- Reads the value of a number. -/
def readNumber : Json → Except ParameterFault BlockNumber
  | .number (.natural n) => .ok n
  | .number (.negative n) => .error (.negative n)
  | value => .error (.wrongKind value "u64")

/-- Reads the parameter at a position, if there is one. -/
def optional {α : Type} (read : Json → Except ParameterFault α) (method : Method)
    (parameters : List Json) (position : Nat) : Except ApiError (Option α) :=
  match parameters[position]? with
  | none | some .null => .ok none
  | some value =>
    match read value with
    | .ok a => .ok (some a)
    | .error fault => .error (.invalidParameter method position fault)

/-- Reads the parameter at a position. -/
def required {α : Type} (read : Json → Except ParameterFault α) (method : Method)
    (parameters : List Json) (position : Nat) : Except ApiError α := do
  match ← optional read method parameters position with
  | some a => return a
  | none => throw (.invalidParameter method position .missing)

/-- Reads the request of a method. -/
def ofParameters (method : Method) (parameters : List Json) : Except ApiError Request :=
  match method with
  | .runtimeVersion => .runtimeVersion <$> optional readHash method parameters 0
  | .metadata => .metadata <$> optional readHash method parameters 0
  | .chainName => .ok .chainName
  | .genesisHash => .ok .genesisHash
  | .blockHash => .blockHash <$> required readNumber method parameters 0
  | .finalizedHead => .ok .finalizedHead
  | .header => .header <$> required readHash method parameters 0
  | .block => .block <$> required readHash method parameters 0
  | .eventsAt => .eventsAt <$> required readHash method parameters 0
  | .eventsRange => do
    let first ← required readHash method parameters 0
    let last ← required readHash method parameters 1
    return .eventsRange first last

/-- Reads a request from the name of its method and its parameters. -/
def parse (name : String) (parameters : List Json) : Except ApiError Request :=
  match Method.ofName? name with
  | some method => ofParameters method parameters
  | none => .error (.unsupportedMethod name)

end Request

end ChainIndex
