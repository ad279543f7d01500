import ChainIndex.Algod.Client
import ChainIndex.Http.Exchange
import ChainIndex.Json.Document

/-!
# ChainIndex.Algod.Remote

A node whose blocks are addressed by round, reached over HTTP.

Of the statuses a node can answer with, 404 says that there is no such block, those from
500 on that the node failed, and any other but success that it refused the request.
-/

namespace ChainIndex.Algod

/-- The address of a node and the token it asks for. -/
structure Remote where
  /-- A URL whose path ends in a slash, so that it can be extended. -/
  url : Url
  token : Option String

namespace Remote

/-- The node at an address; the token has to be one that can be sent. -/
def ofUrl (url : Url) (token : Option String) : Except ClientError Remote :=
  if token.all Http.isHeaderValue then .ok ⟨url.closed, token⟩ else .error .invalidToken

/-- What an answer says, if its body has the given form. -/
def readAnswer {α : Type} (format : Json.Format α) (answer : Http.Answer) :
    Except ClientError α :=
  let refusal := "algod returned " ++ Http.statusText answer.status ++ ": " ++ answer.text
  if answer.status = 404 then .error (.notFound 0)
  else if answer.isServerError then .error (.serverFailure refusal)
  else if !answer.isSuccess then .error (.invalidResponse refusal)
  else if !answer.complete then .error .truncatedBody
  else
    match format.ofText? answer.body with
    | some a => .ok a
    | none => .error .malformedJson

variable {σ : Type}

/-- Asks for a resource of the node and reads it. -/
def get {α : Type} (node : Remote) (names : List String) (query : Option String)
    (format : Json.Format α) : Task σ Http.Exchange (Except ClientError α) :=
  match node.url.extend names query with
  | .error fault => .done (.error (.invalidUrl fault))
  | .ok url => do
    match ← Http.send (.get url node.token) with
    | none => return .error .unreachable
    | some answer => return readAnswer format answer

/-- The status of the node. -/
def status (node : Remote) : Task σ Http.Exchange (Except ClientError NodeStatus) :=
  node.get ["v2", "status"] none NodeStatus.format

/-- The error of a request for a round: that there is no such block is said of this round. -/
def ofRound (round : UInt64) : ClientError → ClientError
  | .notFound _ => .notFound round
  | e => e

/-- The block of a round. -/
def block (node : Remote) (round : UInt64) : Task σ Http.Exchange (Except ClientError Block) := do
  let block ← node.get ["v2", "blocks", toString round.toNat] (some "format=json")
    Block.answerFormat
  return block.mapError (ofRound round)

/-- Answers the requests of a client. -/
def serve (node : Remote) : (query : Client.Query) → Task σ Http.Exchange (Client.Answer query)
  | .lastRound => do
    let status ← node.status
    return status.map NodeStatus.lastRound
  | .block round => node.block round

/-- Checks that a node answers, and gives its address. -/
def check (url : Url) (token : Option String) : Task σ Http.Exchange (Except ClientError Url) :=
  match ofUrl url token with
  | .error e => .done (.error e)
  | .ok node => do
    let status ← node.status
    return status.map fun _ => node.url

end Remote

end ChainIndex.Algod
