import ChainIndex.Http.Exchange
import ChainIndex.Json.Writer

/-!
# ChainIndex.Http.Script

A node that answers requests by rules.

The rules are tried in order and the first that fits a request answers it; a rule can be
limited to a number of answers.  Requests that no rule fits are answered as a node does that
does not know the method or the resource.
-/

namespace ChainIndex.Http

/-- What is sent back. -/
inductive Script.Content where
  | text (body : String)
  | value (body : Json)
  /-- The answer of a JSON-RPC node, with an error object. -/
  | rpcError (error : Json)
  /-- The answer of a JSON-RPC node, with a result. -/
  | rpcResult (result : Json)

/-- A rule of a script. -/
structure Script.Rule where
  /-- The method of the JSON-RPC requests it fits, if not all. -/
  method : Option Json
  /-- The parameters of the JSON-RPC requests it fits, if not all. -/
  parameters : Option Json
  /-- The path and query of the resources it fits, if not all. -/
  path : Option String
  /-- How many requests it still answers, if there is a limit. -/
  left : Option Nat
  /-- Whether nothing is sent back. -/
  drops : Bool
  status : Nat
  content : Script.Content
  complete : Bool

/-- A node that answers by rules, with the requests it got. -/
structure Script where
  rules : List Script.Rule
  log : List Json

namespace Script

/-- The member of a name, `null` if there is none. -/
def memberOf (value : Json) (name : String) : Json :=
  match value with
  | .object members => (members.lookup name).getD .null
  | _ => .null

mutual

/-- Whether two values are the same, where the order of members does not count. -/
def same : Json → Json → Bool
  | .array as, .array bs => sameItems as bs
  | .object as, .object bs => as.length = bs.length && sameMembers as bs
  | .null, b => b = .null
  | .bool a, b => b = .bool a
  | .number a, b => b = .number a
  | .string a, b => b = .string a
  | .array _, _ | .object _, _ => false

/-- Whether two lists of values are the same. -/
def sameItems : List Json → List Json → Bool
  | [], [] => true
  | a :: as, b :: bs => same a b && sameItems as bs
  | _, _ => false

/-- Whether each member is the same as one of the others. -/
def sameMembers : List (String × Json) → List (String × Json) → Bool
  | [], _ => true
  | (name, a) :: as, bs =>
    (match bs.lookup name with
      | some b => same a b
      | none => false) && sameMembers as bs

end

/-- Whether a rule fits a request. -/
def Rule.fits (rule : Rule) : Request → Bool
  | .get url _ => rule.left ≠ some 0 && rule.path.all (· = url.target)
  | .post _ body =>
    rule.left ≠ some 0 && rule.method.all (same · (memberOf body "method")) &&
      rule.parameters.all (same · (memberOf body "params"))

/-- The identifier of a request. -/
def identifier : Request → Json
  | .get _ _ => .null
  | .post _ body => memberOf body "id"

/-- A body in the form of a JSON-RPC answer. -/
def rpcBody (id : Json) (name : String) (value : Json) : String :=
  (Json.object [("jsonrpc", .string "2.0"), ("id", id), (name, value)]).render

/-- The text of what is sent back. -/
def Content.render (id : Json) : Content → String
  | .text body => body
  | .value body => body.render
  | .rpcError error => rpcBody id "error" error
  | .rpcResult result => rpcBody id "result" result

/-- What a rule answers. -/
def Rule.answer (rule : Rule) (id : Json) : Option Answer :=
  if rule.drops then none else some ⟨rule.status, rule.content.render id, rule.complete⟩

/-- What is answered where no rule fits. -/
def unknown : Request → Answer
  | .get _ _ => ⟨404, "", true⟩
  | .post _ body =>
    ⟨200, rpcBody (memberOf body "id") "error" (.object
      [("code", .number (.negative (-32601))), ("message", .string "Method not found")]), true⟩

/-- A request as it is noted down. -/
def note : Request → Json
  | .get url token =>
    .object [("get", .string url.target), ("token", .ofOption .string token)]
  | .post url (.object members) =>
    .object (if url.target = "/" then members else members ++ [("path", .string url.target)])
  | .post _ body => body

/-- The first rule that passes a test, and the rules once it has answered. -/
def take (fits : Rule → Bool) : List Rule → Option (Rule × List Rule)
  | [] => none
  | rule :: rules =>
    if fits rule then some (rule, { rule with left := rule.left.map (· - 1) } :: rules)
    else (take fits rules).map fun (found, rules) => (found, rule :: rules)

/-- Answers a request. -/
def answer (script : Script) (request : Request) : Option Answer × Script :=
  let log := script.log ++ [note request]
  match take (·.fits request) script.rules with
  | some (rule, rules) => (rule.answer (identifier request), ⟨rules, log⟩)
  | none => (some (unknown request), ⟨script.rules, log⟩)

end Script

end ChainIndex.Http
