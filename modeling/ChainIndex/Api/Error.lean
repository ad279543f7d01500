import ChainIndex.Algod.Client
import ChainIndex.Api.Method
import ChainIndex.Connection
import ChainIndex.JsonRpc.Failure
import ChainIndex.Json.Binary64

/-!
# ChainIndex.Api.Error

The errors of a chain api.

Errors of the node's client become errors of the api: an unknown block stays one, a refusal
in words stays one, and everything else counts as a failure of the network.  Errors of a
JSON-RPC node are failures of the network only where the node did not answer.
-/

namespace ChainIndex

/-- Why the value of a parameter is refused. -/
inductive ParameterFault where
  /-- There is no parameter, or `null`, where one is needed. -/
  | missing
  /-- The value is of another kind. -/
  | wrongKind (found : Json) (expected : String)
  /-- The value is a number below those expected. -/
  | negative (found : Int64)
  /-- The text is no hash. -/
  | badHash (fault : Text.Hex.HexError)
  deriving DecidableEq

namespace ParameterFault

/-- What a value is called in a message. -/
def describe : Json → String
  | .null => "null"
  | .bool b => "boolean `" ++ (if b then "true" else "false") ++ "`"
  | .number (.natural n) => "integer `" ++ toString n.toNat ++ "`"
  | .number (.negative n) => "integer `" ++ toString n.toInt ++ "`"
  | .number (.double bits) => "floating point `" ++ Json.Binary64.toText bits ++ "`"
  | .string s => "string " ++ Text.quoteText s
  | .array _ => "sequence"
  | .object _ => "map"

/-- The wording of a fault of the parameter at `position`. -/
def message (position : Nat) : ParameterFault → String
  | .missing => "missing param " ++ toString position
  | .wrongKind found expected =>
    "param " ++ toString position ++ ": invalid type: " ++ describe found ++ ", expected " ++
      expected
  | .negative found =>
    "param " ++ toString position ++ ": invalid value: " ++ describe (.number (.negative found)) ++
      ", expected u64"
  | .badHash fault => "param " ++ toString position ++ ": " ++ fault.message

end ParameterFault

/-- A failure of the network under a chain api. -/
inductive NetworkFailure where
  | client (error : Algod.ClientError)
  | jsonRpc (failure : JsonRpc.Failure)
  deriving DecidableEq

/-- The wording of a failure of the network. -/
def NetworkFailure.message? : NetworkFailure → Option String
  | .client error => error.message?
  | .jsonRpc failure => failure.message?

/-- An error of a chain api. -/
inductive ApiError where
  /-- The operation needs another state of the connection than the one found. -/
  | notConnected (operation : String) (state : ConnectionState)
  /-- The chain has no block of this number. -/
  | notFound (number : UInt64)
  /-- The api does not know a block of this hash. -/
  | missingBlock (hash : BlockHash)
  /-- There is no such method, or the api does not serve it. -/
  | unsupportedMethod (name : String)
  /-- A parameter is refused. -/
  | invalidParameter (method : Method) (position : Nat) (fault : ParameterFault)
  /-- The node was not reached, or failed. -/
  | network (source : NetworkFailure)
  /-- The node answered a JSON-RPC request with a failure. -/
  | jsonRpc (source : JsonRpc.Failure)
  /-- The answer of the node makes no sense. -/
  | invalidResponse (text : String)
  /-- The answer of the node ended before its announced length. -/
  | truncatedBody
  deriving DecidableEq

namespace ApiError

/-- Whether the error says that there is no such block. -/
def isNotFound : ApiError → Bool
  | .notFound _ | .missingBlock _ => true
  | _ => false

/-- The wording of an error, where this library words it. -/
def message? : ApiError → Option String
  | .notConnected operation state =>
    some ("Api not connected: " ++ operation ++ " called while " ++ state.name)
  | .notFound number => some ("Block " ++ toString number.toNat ++ " not found")
  | .missingBlock hash => some ("Missing block: " ++ hash.toText)
  | .unsupportedMethod name => some ("Unsupported method: " ++ name)
  | .invalidParameter method position fault =>
    some ("Invalid params for " ++ method.name ++ ": " ++ fault.message position)
  | .network source => source.message?.map ("Network error: " ++ ·)
  | .jsonRpc source => source.message?.map ("JsonRpcConnector error: " ++ ·)
  | .invalidResponse text => some ("Invalid response: " ++ text)
  | .truncatedBody => none

/-- The error of the api for an error of its client. -/
def ofClient : Algod.ClientError → ApiError
  | .notFound height => .notFound height
  | .invalidResponse text => .invalidResponse text
  | .truncatedBody => .truncatedBody
  | .unreachable => .network (.client .unreachable)
  | .serverFailure text => .network (.client (.serverFailure text))
  | .malformedJson => .network (.client .malformedJson)
  | .invalidUrl fault => .network (.client (.invalidUrl fault))
  | .invalidToken => .network (.client .invalidToken)

/-- The error of the api for a failed JSON-RPC request. -/
def ofJsonRpc (failure : JsonRpc.Failure) : ApiError :=
  if failure.isNetwork then .network (.jsonRpc failure) else .jsonRpc failure

end ApiError

def Connection.ensureActive (c : Connection) (operation : String) : Except ApiError Unit :=
  match c.state with
  | .active => .ok ()
  | state => .error (.notConnected operation state)

end ChainIndex
