import ChainIndex.Algod.Block
import ChainIndex.Task.Basic
import ChainIndex.Url.Host

/-!
# ChainIndex.Algod.Client

The questions put to a node whose blocks are addressed by round, and the ways they can fail.
-/

namespace ChainIndex.Algod

/-- Why a question was not answered. -/
inductive ClientError where
  /-- The node does not know a block of this height. -/
  | notFound (height : UInt64)
  /-- The node did not answer. -/
  | unreachable
  /-- The node failed, in the words given. -/
  | serverFailure (text : String)
  /-- The node refused the request, in the words given. -/
  | invalidResponse (text : String)
  /-- The answer ended before its announced length. -/
  | truncatedBody
  /-- The answer is not the expected JSON. -/
  | malformedJson
  /-- The address of the node cannot be extended to that of the question. -/
  | invalidUrl (fault : UrlError)
  /-- The token cannot be sent. -/
  | invalidToken
  deriving DecidableEq

namespace ClientError

/-- Whether the error says that there is no such block. -/
def isNotFound : ClientError → Bool
  | .notFound _ => true
  | _ => false

/-- The wording of an error, where this library words it. -/
def message? : ClientError → Option String
  | .notFound height => some ("Block not found at height " ++ toString height.toNat)
  | .unreachable | .truncatedBody | .malformedJson => none
  | .serverFailure text => some ("Network error: " ++ text)
  | .invalidResponse text => some ("Invalid response: " ++ text)
  | .invalidUrl fault => some ("Invalid URL: " ++ fault.message)
  | .invalidToken => some "Invalid header value: failed to parse header value"

end ClientError

/-- A question to the node. -/
inductive Client.Query where
  /-- The last round of the chain. -/
  | lastRound
  /-- The block of a round. -/
  | block (round : UInt64)
  deriving DecidableEq

/-- The questions a node answers; every answer may be an error. -/
def Client : Signature where
  Query := Client.Query
  Answer
    | .lastRound => Except ClientError UInt64
    | .block _ => Except ClientError Block

namespace Client

/-- Asks for the last round. -/
def askLastRound {σ : Type} : Task σ Client (Except ClientError UInt64) :=
  Task.question (S := Client) Query.lastRound

/-- Asks for the block of a round. -/
def askBlock {σ : Type} (round : UInt64) : Task σ Client (Except ClientError Block) :=
  Task.question (S := Client) (Query.block round)

end Client

end ChainIndex.Algod
