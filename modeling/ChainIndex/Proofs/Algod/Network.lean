import ChainIndex.Proofs.Algod.Remote
import ChainIndex.Proofs.Api.Invocation
import ChainIndex.Service.Spawn

/-!
# ChainIndex.Proofs.Algod.Network

What a chain over a node of rounds that is reached over HTTP reports as a failure of the network.

Three things are reported so (`Blame`): that a request got no answer, or one that says that the
node failed; that a complete answer with a success status is not the expected JSON; and that the
address of the node cannot be extended to that of a request, which is then not made.  So the
report is right, as one about the transport, exactly if it is not due to one of the other two
(`network_transport_iff`).
-/

namespace ChainIndex

open ChainIndex.Task

namespace Algod

/-- What a failure of the network is put down to. -/
inductive Blame where
  /-- The node did not answer, or it failed. -/
  | transport
  /-- The answer is not the expected JSON. -/
  | form
  /-- The address of the request could not be made. -/
  | address (fault : UrlError)
  /-- The token cannot be sent. -/
  | token

def ClientError.blame? : ClientError → Option Blame
  | .unreachable | .serverFailure _ => some .transport
  | .malformedJson => some .form
  | .invalidUrl fault => some (.address fault)
  | .invalidToken => some .token
  | .notFound _ | .invalidResponse _ | .truncatedBody => none

end Algod

/-- What an error from a node of rounds is put down to, if it is one of the network. -/
def ApiError.blame? : ApiError → Option Algod.Blame
  | .network (.client c) => c.blame?
  | _ => none

namespace Algod

/-- What a failure is put down to stays the same as it is passed on. -/
theorem blame?_ofClient (c : ClientError) : (ApiError.ofClient c).blame? = c.blame? := by
  cases c <;> rfl

/-- The failures that are put down to something are those of the network. -/
theorem isNetwork_ofClient (c : ClientError) :
    (ApiError.ofClient c).isNetwork = c.blame?.isSome := by
  cases c <;> rfl

/-! ## Answers -/

/-- Whether a request got no answer, or one that says that the node failed. -/
def Unserved (x : Exchange Http.Exchange) : Prop :=
  match (x.answer : Option Http.Answer) with
  | none => True
  | some answer => answer.isServerError = true

/-- Whether a body has the form of the answer to a question. -/
def isExpected : Client.Query → String → Bool
  | .lastRound, body => (NodeStatus.format.ofText? body).isSome
  | .block _, body => (Block.answerFormat.ofText? body).isSome

/-- Whether a request got a complete answer with a success status that does not have the form of
the answer to a question. -/
def Garbled (query : Client.Query) (x : Exchange Http.Exchange) : Prop :=
  match (x.answer : Option Http.Answer) with
  | none => False
  | some answer =>
    answer.isSuccess = true ∧ answer.complete = true ∧ isExpected query answer.body = false

/-- An answer that says that the node failed is no success. -/
theorem isSuccess_of_isServerError {answer : Http.Answer} (h : answer.isServerError = true) :
    answer.isSuccess = false := by
  simp only [Http.Answer.isServerError, Http.Answer.isSuccess, Bool.and_eq_true,
    decide_eq_true_eq, Bool.and_eq_false_iff, decide_eq_false_iff_not] at h ⊢
  omega

/-- What the answer to a question is blamed for. -/
def blameOf? (query : Client.Query) : Option Http.Answer → Option Blame
  | none => some .transport
  | some answer =>
    if answer.isServerError then some .transport
    else if answer.isSuccess && answer.complete && !isExpected query answer.body then some .form
    else none

/-- The transport is to blame exactly for requests that were not served. -/
theorem blameOf?_eq_transport {query : Client.Query} {x : Exchange Http.Exchange} :
    blameOf? query x.answer = some .transport ↔ Unserved x := by
  obtain ⟨request, answer⟩ := x
  change Option Http.Answer at answer
  cases answer with
  | none => exact iff_of_true rfl trivial
  | some answer =>
    refine Iff.trans ?_ (show answer.isServerError = true ↔ Unserved ⟨request, some answer⟩ from
      Iff.rfl)
    cases hserver : answer.isServerError with
    | true => simp [blameOf?, hserver]
    | false => simp [blameOf?, hserver]

/-- The form is to blame exactly for answers that are garbled. -/
theorem blameOf?_eq_form {query : Client.Query} {x : Exchange Http.Exchange} :
    blameOf? query x.answer = some .form ↔ Garbled query x := by
  obtain ⟨request, answer⟩ := x
  change Option Http.Answer at answer
  cases answer with
  | none => exact iff_of_false nofun id
  | some answer =>
    refine Iff.trans ?_ (show answer.isSuccess = true ∧ answer.complete = true ∧
      isExpected query answer.body = false ↔ Garbled query ⟨request, some answer⟩ from Iff.rfl)
    cases hserver : answer.isServerError with
    | true => simp [blameOf?, hserver, isSuccess_of_isServerError hserver]
    | false => simp [blameOf?, hserver, and_assoc]

/-- No answer is to blame for a token that cannot be sent. -/
theorem blameOf?_ne_token {query : Client.Query} {answer : Option Http.Answer} :
    blameOf? query answer ≠ some .token := by
  unfold blameOf?
  split
  · nofun
  · split
    · nofun
    · split <;> nofun

/-- What an answer is blamed for shows in the request. -/
theorem blameOf?_eq_of_requests {node : Remote} {query query' : Client.Query}
    {x : Exchange Http.Exchange} (h : node.Requests query x) (h' : node.Requests query' x) :
    blameOf? query = blameOf? query' := by
  cases query with
  | lastRound =>
    cases query' with
    | lastRound => rfl
    | block round => exact absurd h' (h.not_block round)
  | block round =>
    cases query' with
    | lastRound => exact absurd h (h'.not_block round)
    | block round' => rfl

/-! ## Questions -/

/-- What a question comes to, as far as the network is concerned: it cannot be put, or is put as
one request and is to blame for what its answer is. -/
inductive Blames (node : Remote) (x : Exchange Client) : List (Exchange Http.Exchange) → Prop
  | unsent (fault : UrlError)
    (h : (clientError? x).bind ClientError.blame? = some (.address fault)) : Blames node x []
  | sent (y : Exchange Http.Exchange) (hrequest : node.Requests x.query y)
    (h : (clientError? x).bind ClientError.blame? = blameOf? x.query y.answer) : Blames node x [y]

/-- What an answer is blamed for is seen from its status and its body. -/
theorem blame?_readAnswer {α : Type} (format : Json.Format α) (answer : Http.Answer) :
    (errorOf? (Remote.readAnswer format answer)).bind ClientError.blame? =
      if answer.isServerError then some .transport
      else if answer.isSuccess && answer.complete && !(format.ofText? answer.body).isSome then
        some .form
      else none := by
  unfold Remote.readAnswer
  simp only
  split
  · next h404 => simp [errorOf?, ClientError.blame?, Http.Answer.isServerError,
      Http.Answer.isSuccess, h404]
  · cases answer.isServerError with
    | true => rfl
    | false =>
      cases answer.isSuccess with
      | false => rfl
      | true =>
        cases answer.complete with
        | false => rfl
        | true => cases format.ofText? answer.body <;> rfl

/-- Which round there is no block of is not the network's concern. -/
theorem blame?_ofRound (round : UInt64) (c : ClientError) :
    (Remote.ofRound round c).blame? = c.blame? := by
  cases c <;> rfl

/-- A resource that is asked for. -/
theorem Remote.fulfils_get_blames {σ α : Type} (node : Remote) (query : Client.Query)
    (format : Json.Format α)
    (hformat : ∀ body, isExpected query body = (format.ofText? body).isSome) :
    (node.get (resource query).1 (resource query).2 format : Task σ Http.Exchange _).Fulfils .any
      fun made result => ∀ x : Exchange Client, x.query = query →
        (clientError? x).bind ClientError.blame? = (errorOf? result).bind ClientError.blame? →
        Blames node x made := by
  unfold get
  cases hurl : node.url.extend (resource query).1 (resource query).2 with
  | error fault => exact fun x _ hx => .unsent fault hx
  | ok url =>
    intro answer _
    change Option Http.Answer at answer
    cases answer with
    | none =>
      rintro x rfl hx
      exact .sent _ ⟨url, hurl, rfl⟩ hx
    | some answer =>
      rintro x rfl hx
      refine .sent _ ⟨url, hurl, rfl⟩ (hx.trans ?_)
      refine (blame?_readAnswer format answer).trans ?_
      rw [← hformat]
      rfl

/-- A question that is served over HTTP comes to one request at most, and blames its answer. -/
theorem Remote.fulfils_serve_blames {σ : Type} (node : Remote) (query : Client.Query) :
    (node.serve query : Task σ Http.Exchange _).Fulfils .any fun made a =>
      Blames node ⟨query, a⟩ made := by
  cases query with
  | lastRound =>
    refine Fulfils.map (Except.map NodeStatus.lastRound)
      ((node.fulfils_get_blames .lastRound NodeStatus.format fun _ => rfl).mono
        fun made result h => h _ rfl ?_)
    cases result <;> rfl
  | block round =>
    refine Fulfils.map (Except.mapError (ofRound round))
      ((node.fulfils_get_blames (.block round) Block.answerFormat fun _ => rfl).mono
        fun made result h => h _ rfl ?_)
    cases result with
    | ok block => rfl
    | error c => exact blame?_ofRound round c

/-! ## Calls -/

/-- A chain blames the network itself for nothing. -/
theorem isNetwork_of_ownError {call : Call} {e : ApiError} (h : ownError call e) :
    e.isNetwork = false := by
  cases e with
  | network source => cases h
  | _ => rfl

/-- A call ends with a failure of the network exactly if one of its questions does. -/
theorem blame_of_accounts {asked : List (Exchange Client)} {ended : Option ApiError}
    (h : Accounts FailsWith (fun e => e.isNetwork = false) asked ended) (b : Blame) :
    ended.bind ApiError.blame? = some b ↔
      ∃ x ∈ asked, (clientError? x).bind ClientError.blame? = some b := by
  constructor
  · intro hended
    obtain ⟨e, rfl, he⟩ := Option.bind_eq_some_iff.mp hended
    obtain ⟨x, hx, c, hc, rfl⟩ := h.cause fun hown => by
      cases e with
      | network source => cases hown
      | _ => cases he
    rw [blame?_ofClient] at he
    exact ⟨x, hx, by rw [hc]; exact he⟩
  · rintro ⟨x, hx, hblame⟩
    obtain ⟨c, hc, hb⟩ := Option.bind_eq_some_iff.mp hblame
    obtain ⟨e, rfl, he, -⟩ := h.heeds hx ⟨c, hc, rfl⟩
    obtain rfl := he.eq ⟨c, hc, rfl⟩
    exact (blame?_ofClient c).trans hb

/-- A failure of the network is put down to something. -/
theorem exists_blame_of_accounts {asked : List (Exchange Client)} {ended : Option ApiError}
    (h : Accounts FailsWith (fun e => e.isNetwork = false) asked ended) :
    (∃ e, ended = some e ∧ e.isNetwork = true) ↔ ∃ b, ended.bind ApiError.blame? = some b := by
  constructor
  · rintro ⟨e, rfl, he⟩
    obtain ⟨x, -, c, -, rfl⟩ := h.cause (by simp [he])
    rw [isNetwork_ofClient, Option.isSome_iff_exists] at he
    obtain ⟨b, hb⟩ := he
    exact ⟨b, (blame?_ofClient c).trans hb⟩
  · rintro ⟨b, hb⟩
    obtain ⟨e, rfl, he⟩ := Option.bind_eq_some_iff.mp hb
    refine ⟨e, rfl, ?_⟩
    cases e with
    | network source => rfl
    | _ => cases he

/-- What is put down to something is put down to the transport unless it is to something else. -/
theorem transport_only_iff {blame : Option Blame} (h : blame ≠ some .token) :
    ((∃ b, blame = some b) ↔
      blame = some .transport ∨ blame = some .form ∨ ∃ fault, blame = some (.address fault)) ∧
    (((∃ b, blame = some b) ↔ blame = some .transport) ↔
      blame ≠ some .form ∧ ∀ fault, blame ≠ some (.address fault)) := by
  cases blame with
  | none => simp
  | some b =>
    cases b with
    | token => exact absurd rfl h
    | transport | form | address fault => simp

/-- An address is to blame exactly where a call ends with the error about it. -/
theorem blame?_eq_address {ended : Option ApiError} {fault : UrlError} :
    ended.bind ApiError.blame? = some (.address fault) ↔
      ended = some (.network (.client (.invalidUrl fault))) := by
  constructor
  · intro h
    obtain ⟨e, rfl, he⟩ := Option.bind_eq_some_iff.mp h
    cases e with
    | network source =>
      cases source with
      | client c =>
        cases c with
        | invalidUrl fault' => cases he; rfl
        | _ => cases he
      | jsonRpc failure => cases he
    | _ => cases he
  · rintro rfl
    rfl

/-- What a call or a call by name comes to: questions, each put as one request at most, of which
it blames for a failure of the network only the one that it ends with. -/
def Blamed (node : Remote) (made : List (Exchange Http.Exchange)) (ended : Option ApiError) :
    Prop :=
  ∃ parts : List (Exchange Client × List (Exchange Http.Exchange)),
    made = parts.flatMap Prod.snd ∧ (∀ part ∈ parts, Blames node part.1 part.2) ∧
      Accounts FailsWith (fun e => e.isNetwork = false) (parts.map Prod.fst) ended

/-- A call over HTTP blames for a failure only the question that it ends with. -/
theorem Remote.fulfils_api_blamed (node : Remote) (call : Call) :
    (node.api call).Fulfils ((Chain.terms Derived).over .any) fun made answer =>
      Blamed node made (call.error? answer) := by
  refine ((Chain.fulfils_api call).answeredBy fun query =>
    (node.fulfils_serve_blames query).mono fun _ _ h => ⟨trivial, h⟩).mono fun made answer h => ?_
  obtain ⟨parts, hmade, hparts, haccounts⟩ := h
  exact ⟨parts, hmade, hparts, haccounts.weaken fun _ => isNetwork_of_ownError⟩

/-- An invocation over HTTP blames for a failure only the question that it ends with. -/
theorem Remote.fulfils_invoke_blamed (node : Remote) (invocation : Invocation) :
    (node.api.invoke invocation).Fulfils ((Chain.terms Derived).over .any) fun made answer =>
      Blamed node made (invocation.error? answer) := by
  have hrefused (e : ApiError) (he : Refusal e) : Blamed node [] (some e) :=
    ⟨[], rfl, fun _ hpart => (nomatch hpart), .own allFine_nil (isNetwork_of_refusal he)⟩
  have hsupports (method : Method) : (node.api.supports method).Fulfils
      ((Chain.terms Derived).over .any) fun made _ => made = [] := rfl
  exact fulfils_invoke (Blamed node) hrefused hsupports node.fulfils_api_blamed invocation

section

variable {node : Remote} {parts : List (Exchange Client × List (Exchange Http.Exchange))}
  (hparts : ∀ part ∈ parts, Blames node part.1 part.2)
include hparts

/-- Questions are blamed for what their answers are. -/
theorem exists_blame_iff {b : Blame} (hb : ∀ fault, b ≠ .address fault) :
    (∃ x ∈ parts.map Prod.fst, (clientError? x).bind ClientError.blame? = some b) ↔
      ∃ y ∈ parts.flatMap Prod.snd, ∃ query, node.Requests query y ∧
        blameOf? query y.answer = some b := by
  constructor
  · rintro ⟨x, hx, hblame⟩
    obtain ⟨⟨x, sent⟩, hpart, rfl⟩ := List.mem_map.mp hx
    cases hparts _ hpart with
    | unsent fault h => exact absurd (Option.some.inj (hblame.symm.trans h)) (hb fault)
    | sent y hrequest h =>
      exact ⟨y, List.mem_flatMap.mpr ⟨_, hpart, List.mem_singleton.mpr rfl⟩, x.query, hrequest,
        h.symm.trans hblame⟩
  · rintro ⟨y, hy, query, hquery, hblame⟩
    obtain ⟨⟨x, sent⟩, hpart, hy⟩ := List.mem_flatMap.mp hy
    refine ⟨x, List.mem_map_of_mem hpart, ?_⟩
    cases hparts _ hpart with
    | unsent fault _ => cases hy
    | sent y' hrequest h =>
      obtain rfl := List.mem_singleton.mp hy
      rw [h, blameOf?_eq_of_requests hrequest hquery]
      exact hblame

/-- A question blames the transport exactly if one of its requests was not served. -/
theorem exists_unserved_iff :
    (∃ x ∈ parts.map Prod.fst, (clientError? x).bind ClientError.blame? = some .transport) ↔
      ∃ y ∈ parts.flatMap Prod.snd, Unserved y := by
  rw [exists_blame_iff hparts (b := .transport) fun _ => nofun]
  constructor
  · rintro ⟨y, hy, query, -, hblame⟩
    exact ⟨y, hy, blameOf?_eq_transport.mp hblame⟩
  · rintro ⟨y, hy, hunserved⟩
    obtain ⟨⟨x, sent⟩, hpart, hmem⟩ := List.mem_flatMap.mp hy
    cases hparts _ hpart with
    | unsent fault _ => cases hmem
    | sent y' hrequest _ =>
      obtain rfl := List.mem_singleton.mp hmem
      exact ⟨y, hy, x.query, hrequest, blameOf?_eq_transport.mpr hunserved⟩

/-- A question blames the form exactly if one of its requests was answered by something garbled. -/
theorem exists_garbled_iff :
    (∃ x ∈ parts.map Prod.fst, (clientError? x).bind ClientError.blame? = some .form) ↔
      ∃ y ∈ parts.flatMap Prod.snd, ∃ query, node.Requests query y ∧ Garbled query y := by
  rw [exists_blame_iff hparts (b := .form) fun _ => nofun]
  simp only [blameOf?_eq_form]

/-- No question blames a token, as no answer is about one. -/
theorem not_exists_token :
    ¬ ∃ x ∈ parts.map Prod.fst, (clientError? x).bind ClientError.blame? = some .token := by
  rw [exists_blame_iff hparts (b := .token) fun _ => nofun]
  rintro ⟨y, -, query, -, hblame⟩
  exact blameOf?_ne_token hblame

end

/-- Over HTTP, a call or a call by name fails as one of the network exactly if a request of it was
not served, or got a complete success that is not the expected JSON, or could not be made; so it
is right about the transport exactly if it was neither of the last two. -/
theorem network_transport_iff {κ : Type} {node : Remote}
    {pending : List (Pending (Chain × Unit) Http.Exchange)} {s : Chain × Unit}
    (h : Underway node.api (Chain.initial, ()) pending s) (server : Server Http.Exchange κ) (k : κ)
    (invocation : Invocation) :
    let x := (node.api.invoke invocation).run server.recording s (k, [])
    let made := x.2.2.2
    let ended := invocation.error? x.1
    ((∃ e, ended = some e ∧ e.isNetwork = true) ↔
      (∃ y ∈ made, Unserved y) ∨
      (∃ y ∈ made, ∃ query, node.Requests query y ∧ Garbled query y) ∨
      ∃ fault, ended = some (.network (.client (.invalidUrl fault)))) ∧
    (((∃ e, ended = some e ∧ e.isNetwork = true) ↔ ∃ y ∈ made, Unserved y) ↔
      (∀ y ∈ made, ∀ query, node.Requests query y → ¬ Garbled query y) ∧
      ∀ fault, ended ≠ some (.network (.client (.invalidUrl fault)))) := by
  intro x made ended
  have hstart : ((Chain.terms Derived).over (.any : Terms Unit Http.Exchange)).state
      (Chain.initial, ()) := ⟨derived_empty, trivial⟩
  have hs := (h.fulfils hstart fun invocation =>
    (node.fulfils_invoke_blamed invocation).mono fun _ _ _ => trivial).1
  obtain ⟨_, hrecord, ⟨parts, rfl, hparts, haccounts⟩, -⟩ :=
    (node.fulfils_invoke_blamed invocation).run server (fun _ _ => trivial) hs k []
  have hmade : made = parts.flatMap Prod.snd := hrecord
  change Accounts FailsWith _ _ ended at haccounts
  have hunserved := (blame_of_accounts haccounts .transport).trans (exists_unserved_iff hparts)
  have hgarbled := (blame_of_accounts haccounts .form).trans (exists_garbled_iff hparts)
  have htoken := mt (blame_of_accounts haccounts .token).mp (not_exists_token hparts)
  have hnotGarbled : (∀ y ∈ parts.flatMap Prod.snd, ∀ query, node.Requests query y →
      ¬ Garbled query y) ↔ ended.bind ApiError.blame? ≠ some .form := by
    rw [ne_eq, hgarbled]
    push Not
    rfl
  rw [hmade, exists_blame_of_accounts haccounts, ← hunserved, ← hgarbled, hnotGarbled]
  simp only [ne_eq, ← blame?_eq_address]
  exact transport_only_iff htoken

end Algod

end ChainIndex
