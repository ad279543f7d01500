import ChainIndex.Json.Document
import ChainIndex.Json.Members

/-!
# ChainIndex.JsonRpc.Failure

The error objects a JSON-RPC node answers with, and the ways a request to it can fail.
-/

namespace ChainIndex.JsonRpc

/-- An error object. -/
structure RpcError where
  code : Int64
  message : String
  data : Option Json
  deriving DecidableEq

namespace RpcError

def toJson (e : RpcError) : Json :=
  .object [
    ("code", .ofInt64 e.code),
    ("message", .string e.message),
    ("data", .ofOption id e.data)]

def ofJson? (value : Json) : Option RpcError := do
  let m ← value.members? ["code", "message", "data"]
  let code ← m.required "code" Json.toInt64?
  let message ← m.required "message" Json.toString?
  let data ← m.optional "data" Json.toAny?
  return ⟨code, message, data⟩

def shape : Json.Shape := .record [("code", .any), ("message", .any), ("data", .any)]

def format : Json.Format RpcError := ⟨shape, ofJson?, toJson⟩

end RpcError

/-- Why a request failed. -/
inductive Failure where
  /-- The node did not answer. -/
  | unreachable
  /-- The answer ended before its announced length. -/
  | truncatedBody
  /-- The answer is not the expected JSON. -/
  | malformedJson
  /-- The node answered with an error object. -/
  | rpc (error : RpcError)
  /-- The node answered with a failing status and nothing else. -/
  | emptyBody (status : String) (method : String)
  /-- The node answered `null` where a value is needed. -/
  | emptyResult (subject : String)
  deriving DecidableEq

namespace Failure

/-- Whether the node did not answer, so that nothing is known about the subject. -/
def isNetwork : Failure → Bool
  | .unreachable => true
  | _ => false

/-- The wording of a failure, where this library words it. -/
def message? : Failure → Option String
  | .unreachable | .truncatedBody | .malformedJson => none
  | .rpc e => some ("Error: RPC error " ++ toString e.code.toInt ++ ": " ++ e.message)
  | .emptyBody status method =>
    some ("Error: Error: Node returned " ++ status ++ " with an empty body for " ++ method)
  | .emptyResult subject => some ("Error: Empty " ++ subject ++ " response")

end Failure

end ChainIndex.JsonRpc
