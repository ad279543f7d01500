import ChainIndex.Algod.Remote
import ChainIndex.Proofs.Algod.Conduct

/-!
# ChainIndex.Proofs.Algod.Remote

When a chain over a node of rounds that is reached over HTTP says that a block does not exist.

A question to the node is at most one request, and it fails as unknown exactly if the request
is answered with status 404 (`Remote.fulfils_serve`).  This goes for the status of the node as
well as for its blocks: what a chain then reports is round 0.  So the chain is right about a
block that it says does not exist as long as the node has a status (`notFound_block_iff`).
-/

namespace ChainIndex.Algod

open ChainIndex.Task

/-! ## Answers -/

/-- Whether a request was answered with status 404. -/
def Unknown (x : Exchange Http.Exchange) : Prop :=
  ∃ answer : Http.Answer, x.answer = some answer ∧ answer.status = 404

/-- The round that is reported as a question finds nothing. -/
def unknownRound : Client.Query → UInt64
  | .lastRound => 0
  | .block round => round

namespace Remote

/-- The resource that a question asks for. -/
def resource : Client.Query → List String × Option String
  | .lastRound => (["v2", "status"], none)
  | .block round => (["v2", "blocks", toString round.toNat], some "format=json")

/-- The request that a question is put as. -/
def Requests (node : Remote) (query : Client.Query) (x : Exchange Http.Exchange) : Prop :=
  ∃ url, node.url.extend (resource query).1 (resource query).2 = .ok url ∧
    x.query = .get url node.token

/-- What asking for a resource comes to: requests for it, and a result that says that there is
nothing exactly if one of them is answered so. -/
structure Fetches {α : Type} (node : Remote) (names : List String) (query : Option String)
    (made : List (Exchange Http.Exchange)) (result : Except ClientError α) : Prop where
  requests : ∀ x ∈ made, ∃ url, node.url.extend names query = .ok url ∧
    x.query = .get url node.token
  unknown : ∀ n, result = .error (.notFound n) ↔ n = 0 ∧ ∃ x ∈ made, Unknown x

/-- Asking for a resource finds nothing exactly if a request is answered with status 404. -/
theorem Fetches.exists_unknown {α : Type} {node : Remote} {names : List String}
    {query : Option String} {made : List (Exchange Http.Exchange)} {result : Except ClientError α}
    (h : node.Fetches names query made result) :
    (∃ n, result = .error (.notFound n)) ↔ ∃ x ∈ made, Unknown x := by
  simp only [h.unknown, exists_and_right, exists_eq, true_and]

/-- Only status 404 is read as finding nothing, and always for round 0. -/
theorem readAnswer_eq_notFound {α : Type} {format : Json.Format α} {answer : Http.Answer}
    {n : UInt64} :
    readAnswer format answer = .error (.notFound n) ↔ n = 0 ∧ answer.status = 404 := by
  unfold readAnswer
  split
  · next h => simp [h, eq_comm]
  · next h =>
    refine iff_of_false ?_ fun h' => h h'.2
    split
    · simp
    · split
      · simp
      · split
        · simp
        · split <;> simp

/-- Asking for a resource over HTTP comes to requests for it. -/
theorem fulfils_get {σ α : Type} (node : Remote) (names : List String) (query : Option String)
    (format : Json.Format α) :
    (node.get names query format : Task σ Http.Exchange _).Fulfils .any
      (node.Fetches names query) := by
  unfold get
  cases hurl : node.url.extend names query with
  | error fault => exact ⟨by simp, by simp⟩
  | ok url =>
    intro answer _
    change Option Http.Answer at answer
    have hrequests : ∀ x ∈ [(⟨.get url node.token, answer⟩ : Exchange Http.Exchange)],
        ∃ url, node.url.extend names query = .ok url ∧ x.query = .get url node.token := by
      intro x hx
      rw [List.mem_singleton.mp hx]
      exact ⟨url, hurl, rfl⟩
    cases answer with
    | none =>
      refine ⟨hrequests, fun n => iff_of_false (by simp) ?_⟩
      rintro ⟨-, x, hx, answer, hanswer, -⟩
      rw [List.mem_singleton.mp hx] at hanswer
      cases hanswer
    | some answer =>
      refine ⟨hrequests, fun n => readAnswer_eq_notFound.trans (and_congr_right fun _ => ?_)⟩
      constructor
      · exact fun h => ⟨_, List.mem_singleton.mpr rfl, answer, rfl, h⟩
      · rintro ⟨x, hx, found, hanswer, h⟩
        rw [List.mem_singleton.mp hx] at hanswer
        rwa [Option.some.inj hanswer]

/-- A query that is added to an address is its query. -/
theorem query_of_extend {base url : Url} {names : List String} {query : Option String}
    (h : base.extend names query = .ok url) : url.query = query := by
  unfold Url.extend at h
  split at h
  · cases h
  · cases h
    rfl

/-- The status of a node is not asked for as a block is. -/
theorem Requests.not_block {node : Remote} {x : Exchange Http.Exchange}
    (h : node.Requests .lastRound x) (round : UInt64) : ¬ node.Requests (.block round) x := by
  rintro ⟨url, hurl, hquery⟩
  obtain ⟨statusUrl, hstatusUrl, hstatusQuery⟩ := h
  rw [hstatusQuery] at hquery
  obtain rfl : statusUrl = url := by injection hquery
  have hnone := query_of_extend hstatusUrl
  rw [query_of_extend hurl] at hnone
  cases hnone

/-! ## Questions -/

/-- What a question to a node comes to over HTTP. -/
structure Reports (node : Remote) (x : Exchange Client) (made : List (Exchange Http.Exchange)) :
    Prop where
  requests : ∀ y ∈ made, node.Requests x.query y
  unknown : ∀ n, clientError? x = some (.notFound n) ↔
    n = unknownRound x.query ∧ ∃ y ∈ made, Unknown y

/-- A question finds nothing exactly if its request is answered with status 404. -/
theorem fulfils_serve {σ : Type} (node : Remote) (query : Client.Query) :
    (node.serve query : Task σ Http.Exchange _).Fulfils .any fun made a =>
      node.Reports ⟨query, a⟩ made := by
  cases query with
  | lastRound =>
    refine Fulfils.map (Except.map NodeStatus.lastRound)
      ((fulfils_get node _ _ _).mono fun made result h => ?_)
    refine ⟨h.requests, fun n => Iff.trans ?_ (h.unknown n)⟩
    cases result <;> simp [clientError?, errorOf?, Except.map]
  | block round =>
    refine Fulfils.map (Except.mapError (ofRound round))
      ((fulfils_get node _ _ _).mono fun made result h => ?_)
    refine ⟨h.requests, fun n => ?_⟩
    rw [← h.exists_unknown]
    cases result with
    | ok block => simp [clientError?, errorOf?]
    | error e => cases e <;> simp [clientError?, errorOf?, ofRound, unknownRound, eq_comm]

/-- A call to a chain over HTTP accounts for its error, and reports every question. -/
theorem fulfils_api (node : Remote) (call : Call) :
    ((Chain.api.answeredBy node.serve : Api (Chain × Unit) Http.Exchange) call).Fulfils
      ((Chain.terms Derived).over .any) fun made answer =>
        ∃ parts : List (Exchange Client × List (Exchange Http.Exchange)),
          made = parts.flatMap Prod.snd ∧ (∀ part ∈ parts, node.Reports part.1 part.2) ∧
            Accounts FailsWith (ownError call) (parts.map Prod.fst) (call.error? answer) :=
  (Chain.fulfils_api call).answeredBy fun query =>
    (node.fulfils_serve query).mono fun _ _ h => ⟨trivial, h⟩

end Remote

/-! ## Chains -/

/-- Whether a call asks for what is remembered of a hash. -/
def readsHash : Call → Bool
  | .header _ | .block _ => true
  | _ => false

/-- Only a call that reads what is remembered of a hash misses a block by itself. -/
theorem not_isNotFound_of_ownError {call : Call} (hcall : readsHash call = false) {e : ApiError}
    (h : ownError call e) : e.isNotFound = false := by
  cases e with
  | notFound number => cases h
  | missingBlock hash =>
    cases call with
    | header | block => cases hcall
    | _ => cases h
  | _ => rfl

/-- A question fails for a block that does not exist exactly if its request is answered with
status 404. -/
theorem Remote.Reports.failsWith_iff {node : Remote} {x : Exchange Client}
    {made : List (Exchange Http.Exchange)} (h : node.Reports x made) {e : ApiError}
    (he : e.isNotFound = true) :
    FailsWith x e ↔ e = .notFound (unknownRound x.query) ∧ ∃ y ∈ made, Unknown y := by
  constructor
  · rintro ⟨cause, hcause, rfl⟩
    cases cause with
    | notFound n =>
      obtain ⟨rfl, hunknown⟩ := (h.unknown n).mp hcause
      exact ⟨rfl, hunknown⟩
    | _ => cases he
  · rintro ⟨rfl, hunknown⟩
    exact ⟨_, (h.unknown _).mpr ⟨rfl, hunknown⟩, rfl⟩

/-- All requests of a call that are answered with status 404 are for the same resource, and the
call says that a block does not exist exactly if there is such a request. -/
theorem exists_unknown_of_accounts {node : Remote} {own : ApiError → Prop}
    {parts : List (Exchange Client × List (Exchange Http.Exchange))} {ended : Option ApiError}
    (hparts : ∀ part ∈ parts, node.Reports part.1 part.2)
    (h : Accounts FailsWith own (parts.map Prod.fst) ended)
    (hown : ∀ e, own e → e.isNotFound = false) :
    ∃ query, (∀ x ∈ parts.flatMap Prod.snd, Unknown x → node.Requests query x) ∧
      ∀ e, e.isNotFound = true → (ended = some e ↔
        e = .notFound (unknownRound query) ∧ ∃ x ∈ parts.flatMap Prod.snd, Unknown x) := by
  have hfails : ∀ part ∈ parts, ∀ x ∈ part.2, Unknown x →
      FailsWith part.1 (.notFound (unknownRound part.1.query)) := fun part hpart x hx hunknown =>
    ((hparts part hpart).failsWith_iff rfl).mpr ⟨rfl, x, hx, hunknown⟩
  by_cases hunknown : ∃ x ∈ parts.flatMap Prod.snd, Unknown x
  · obtain ⟨x, hx, hunknown⟩ := hunknown
    obtain ⟨part, hpart, hxpart⟩ := List.mem_flatMap.mp hx
    have hfailed := hfails part hpart x hxpart hunknown
    obtain ⟨e', rfl, he', hunique⟩ := h.heeds (List.mem_map_of_mem hpart) hfailed
    obtain rfl := he'.eq hfailed
    refine ⟨part.1.query, fun y hy hyunknown => ?_, fun e _ => ?_⟩
    · obtain ⟨other, hother, hyother⟩ := List.mem_flatMap.mp hy
      rw [← hunique other.1 (List.mem_map_of_mem hother) _
        (hfails other hother y hyother hyunknown)]
      exact (hparts other hother).requests y hyother
    · rw [Option.some.injEq, eq_comm]
      exact (and_iff_left ⟨x, hx, hunknown⟩).symm
  · refine ⟨.lastRound, fun x hx hx' => absurd ⟨x, hx, hx'⟩ hunknown, fun e he => ?_⟩
    refine iff_of_false (fun hended => hunknown ?_) fun h => hunknown h.2
    rw [hended] at h
    obtain ⟨y, hy, hfailed⟩ := h.cause fun hown' => by
      rw [hown e hown'] at he
      cases he
    obtain ⟨part, hpart, rfl⟩ := List.mem_map.mp hy
    obtain ⟨-, x, hx, hx'⟩ := ((hparts part hpart).failsWith_iff he).mp hfailed
    exact ⟨x, List.mem_flatMap.mpr ⟨part, hpart, hx⟩, hx'⟩

/-- Over HTTP, a call by number or for the head says that a block does not exist exactly if a
request that it made was answered with status 404: it names the round whose block the request was
for, and round 0 if the request was for the status. -/
theorem notFound_iff_unknown {κ : Type} (node : Remote) (server : Server Http.Exchange κ) (k : κ)
    (before : List Call) {call : Call} (hcall : readsHash call = false) :
    let api : Api (Chain × Unit) Http.Exchange := Chain.api.answeredBy node.serve
    let s := ((Session.start (Chain.initial, ()) k).calls api server before).2
    ∃ made query, (s.call api server call).2.record = s.record ++ made ∧
      (∀ x ∈ made, Unknown x → node.Requests query x) ∧
      ∀ e, e.isNotFound = true → (call.error? (s.call api server call).1 = some e ↔
        e = .notFound (unknownRound query) ∧ ∃ x ∈ made, Unknown x) := by
  intro api s
  have hstart : ((Chain.terms Derived).over (.any : Terms Unit Http.Exchange)).state
      (Chain.initial, ()) := ⟨derived_empty, trivial⟩
  have hs : ((Chain.terms Derived).over (.any : Terms Unit Http.Exchange)).state s.state :=
    Session.state_calls server (fun next => (node.fulfils_api next).mono fun _ _ _ => trivial)
      (fun _ _ => trivial) hstart before
  obtain ⟨made, hrecord, ⟨parts, rfl, hparts, haccounts⟩, -⟩ :=
    Session.call_fulfils server (node.fulfils_api call) (fun _ _ => trivial) hs
  obtain ⟨query, hrequests, hended⟩ := exists_unknown_of_accounts hparts haccounts fun _ =>
    not_isNotFound_of_ownError hcall
  exact ⟨_, query, hrecord, hrequests, hended⟩

/-- A call is right about every block that it says does not exist exactly if the node did not
answer it that it has no status. -/
theorem notFound_block_iff {κ : Type} (node : Remote) (server : Server Http.Exchange κ) (k : κ)
    (before : List Call) {call : Call} (hcall : readsHash call = false) :
    let api : Api (Chain × Unit) Http.Exchange := Chain.api.answeredBy node.serve
    let s := ((Session.start (Chain.initial, ()) k).calls api server before).2
    ∃ made, (s.call api server call).2.record = s.record ++ made ∧
      ((∀ e, call.error? (s.call api server call).1 = some e → e.isNotFound = true →
          ∃ round, e = .notFound round ∧ ∃ x ∈ made, node.Requests (.block round) x ∧ Unknown x) ↔
        ∀ x ∈ made, node.Requests .lastRound x → ¬ Unknown x) := by
  intro api s
  obtain ⟨made, query, hrecord, hrequests, hended⟩ :=
    notFound_iff_unknown node server k before hcall
  refine ⟨made, hrecord, ?_, ?_⟩
  · intro hright x hx hstatus hunknown
    obtain ⟨round, -, y, hy, hblock, hyunknown⟩ :=
      hright _ ((hended _ rfl).mpr ⟨rfl, x, hx, hunknown⟩) rfl
    -- both requests are for the same resource, and it is not both the status and a block
    cases query with
    | lastRound => exact (hrequests y hy hyunknown).not_block round hblock
    | block n => exact hstatus.not_block n (hrequests x hx hunknown)
  · intro hstatus e he hnotFound
    obtain ⟨rfl, x, hx, hunknown⟩ := (hended e hnotFound).mp he
    cases query with
    | lastRound => exact absurd hunknown (hstatus x hx (hrequests x hx hunknown))
    | block round => exact ⟨round, rfl, x, hx, hrequests x hx hunknown, hunknown⟩

end ChainIndex.Algod
