import ChainIndex.Http.Exchange
import ChainIndex.JsonRpc.Failure

/-!
# ChainIndex.JsonRpc.Connector

Requests to a JSON-RPC node over HTTP.

Every request has an identifier, counted up from zero.  An answer carries a result or an
error object; a failing status counts only where the answer has no body.
-/

namespace ChainIndex.JsonRpc

/-- The address of a node and the identifier of the next request. -/
structure Connector where
  url : Url
  nextId : Int32

namespace Connector

/-- The connector of an address. -/
def ofUrl (url : Url) : Connector := ⟨url, 0⟩

/-- The body of a request. -/
def requestBody (method : String) (parameters : List Json) (id : Int32) : Json :=
  .object [
    ("jsonrpc", .string "2.0"),
    ("method", .string method),
    ("params", .array parameters),
    ("id", .ofInt64 id.toInt64)]

/-- The written form of a string. -/
def stringFormat : Json.Format String := ⟨.any, Json.toString?, .string⟩

/-- Reads the result or the error object of an answer. -/
def readBody {α : Type} (format : Json.Format α) (text : String) :
    Option (Except RpcError (Option α)) := do
  let value ← Json.ofText? (.record [("result", format.shape), ("error", RpcError.shape)]) text
  let m ← value.members? ["result", "error"]
  let result ← m.optional "result" format.read
  let error ← m.optional "error" RpcError.ofJson?
  match error with
  | some e => return .error e
  | none => return .ok result

/-- What an answer says; a result of `null` is no result. -/
def readAnswer {α : Type} (method : String) (format : Json.Format α) (answer : Http.Answer) :
    Except Failure (Option α) :=
  if !answer.complete then .error .truncatedBody
  else if !answer.isSuccess ∧ answer.body.isEmpty then
    .error (.emptyBody (Http.statusText answer.status) method)
  else
    match readBody format answer.body with
    | none => .error .malformedJson
    | some (.error e) => .error (.rpc e)
    | some (.ok result) => .ok result

/-- Sends a request. -/
def request {α : Type} (method : String) (parameters : List Json) (format : Json.Format α) :
    Task Connector Http.Exchange (Except Failure (Option α)) := do
  let (url, id) ← Task.step fun c => ((c.url, c.nextId), { c with nextId := c.nextId + 1 })
  match ← Http.send (.post url (requestBody method parameters id)) with
  | none => return .error .unreachable
  | some answer => return readAnswer method format answer

/-- Sends a request whose result must not be `null`. -/
def requestSome {α : Type} (subject method : String) (parameters : List Json)
    (format : Json.Format α) : Task Connector Http.Exchange (Except Failure α) := do
  match ← request method parameters format with
  | .error e => return .error e
  | .ok none => return .error (.emptyResult subject)
  | .ok (some a) => return .ok a

end Connector

end ChainIndex.JsonRpc
