import ChainIndex.Proofs.Substrate.Conduct

/-!
# ChainIndex.Proofs.Substrate.Lookup

When a chain over a node of hashes says that a block does not exist.

The answer to a request is read as an object with two members, its result and its error, each
of which may be missing.  An answer without either is taken for the one that there is no such block,
whatever else it carries and whatever its status is (`Blank`).  So the chain is right about a
block that it says does not exist as long as such an answer comes with a success status and
a result that is there and is `null` (`notFound_null_iff`).
-/

namespace ChainIndex

open ChainIndex.Task

namespace JsonRpc

/-- Whether a member is missing or `null`. -/
def Absent (members : Json.Members) (name : String) : Prop :=
  members.get? name = some .null ∨ members.get? name = none ∧ members.positional = false

/-- The members of an answer whose result has some shape. -/
def answerMembers? (shape : Json.Shape) (text : String) : Option Json.Members :=
  (Json.ofText? (.record [("result", shape), ("error", RpcError.shape)]) text).bind
    (Json.members? ["result", "error"])

/-- An answer that is read, and in which there is neither a result nor an error. -/
structure Blank (shape : Json.Shape) (answer : Http.Answer) : Prop where
  complete : answer.complete = true
  /-- A failing status counts only if there is no body. -/
  accepted : answer.isSuccess = true ∨ answer.body.isEmpty = false
  members : ∃ members, answerMembers? shape answer.body = some members ∧
    Absent members "result" ∧ Absent members "error"

/-- A blank answer with a success status and with a result, which is `null`. -/
structure NullResult (shape : Json.Shape) (answer : Http.Answer) : Prop
    extends Blank shape answer where
  isSuccess : answer.isSuccess = true
  result : ∃ members, answerMembers? shape answer.body = some members ∧
    members.get? "result" = some .null

/-- An optional part is absent if it is missing or `null`. -/
theorem optional_eq_none {α : Type} {members : Json.Members} {name : String}
    {decode : Json → Option α} :
    members.optional name decode = some none ↔ Absent members name := by
  unfold Json.Members.optional Absent
  cases members.get? name with
  | none => cases members.positional <;> simp
  | some value => cases value <;> simp [Json.toOption?]

namespace Connector

/-- An answer has neither a result nor an error exactly if both are absent. -/
theorem readBody_eq_none {α : Type} {format : Json.Format α} {text : String} :
    readBody format text = some (.ok none) ↔ ∃ members,
      answerMembers? format.shape text = some members ∧
        Absent members "result" ∧ Absent members "error" := by
  simp only [readBody, answerMembers?, Option.bind_eq_bind, Option.bind_eq_some_iff]
  constructor
  · rintro ⟨value, hvalue, members, hmembers, result, hresult, error, herror, h⟩
    cases error with
    | some e => cases h
    | none =>
      obtain rfl : result = none := Except.ok.inj (Option.some.inj h)
      exact ⟨members, ⟨value, hvalue, hmembers⟩, optional_eq_none.mp hresult,
        optional_eq_none.mp herror⟩
  · rintro ⟨members, ⟨value, hvalue, hmembers⟩, hresult, herror⟩
    exact ⟨value, hvalue, members, hmembers, none, optional_eq_none.mpr hresult, none,
      optional_eq_none.mpr herror, rfl⟩

/-- An answer is taken for the one that there is nothing if it is blank. -/
theorem readAnswer_eq_none {α : Type} {method : String} {format : Json.Format α}
    {answer : Http.Answer} :
    readAnswer method format answer = .ok none ↔ Blank format.shape answer := by
  unfold readAnswer
  by_cases hcomplete : answer.complete = true
  · by_cases hempty : !answer.isSuccess ∧ answer.body.isEmpty
    · rw [if_neg (by simp [hcomplete]), if_pos hempty]
      refine iff_of_false (by simp) fun h => ?_
      cases h.accepted <;> simp_all
    · have haccepted : answer.isSuccess = true ∨ answer.body.isEmpty = false := by
        cases hsuccess : answer.isSuccess <;> simp_all
      have hblank : readBody format answer.body = some (.ok none) ↔ Blank format.shape answer :=
        readBody_eq_none.trans ⟨fun h => ⟨hcomplete, haccepted, h⟩, fun h => h.members⟩
      rw [if_neg (by simp [hcomplete]), if_neg hempty, ← hblank]
      cases readBody format answer.body with
      | none => simp
      | some result => cases result <;> simp
  · rw [if_pos (by simp [hcomplete])]
    exact iff_of_false (by simp) fun h => hcomplete h.complete

/-- A request finds nothing if something comes back and is blank. -/
theorem readReply_eq_none {α : Type} {method : String} {format : Json.Format α}
    {answer : Option Http.Answer} :
    readReply method format answer = .ok none ↔ ∃ a, answer = some a ∧ Blank format.shape a := by
  cases answer with
  | none => simp [readReply]
  | some answer =>
    refine readAnswer_eq_none.trans ⟨fun h => ⟨answer, rfl, h⟩, ?_⟩
    rintro ⟨a, ha, h⟩
    rwa [Option.some.inj ha]

end Connector

end JsonRpc

namespace Substrate

open JsonRpc

/-! ## Lookups that find nothing -/

/-- An exchange in which a node gives some answer to the lookup that an error is about. -/
def Answers (url : Url) (Says : Json.Shape → Http.Answer → Prop) (x : Exchange Http.Exchange)
    (e : ApiError) : Prop :=
  ∃ (lookup : Lookup) (id : Int32) (answer : Http.Answer),
    x = ⟨.post url (lookup.requestBody id), some answer⟩ ∧ Says lookup.shape answer ∧
      e = lookup.missing

namespace Answers

variable {url : Url} {Says Says' : Json.Shape → Http.Answer → Prop} {x : Exchange Http.Exchange}
  {e e' : ApiError}

/-- What is known of an answer may be weakened. -/
theorem mono (h : Answers url Says x e)
    (himp : ∀ shape answer, Says shape answer → Says' shape answer) :
    Answers url Says' x e := by
  obtain ⟨lookup, id, answer, rfl, hsays, rfl⟩ := h
  exact ⟨lookup, id, answer, rfl, himp _ _ hsays, rfl⟩

/-- An answer to a lookup stands for an error that says that there is nothing. -/
theorem isNotFound (h : Answers url Says x e) : e.isNotFound = true := by
  obtain ⟨lookup, -, -, -, -, rfl⟩ := h
  exact lookup.missing_isNotFound

/-- What was looked up shows in the request. -/
theorem method_eq {method : String} {parameters : List Json} {id : Int32}
    {answer : Option Http.Answer}
    (h : Answers url Says ⟨.post url (Connector.requestBody method parameters id), answer⟩ e) :
    ∃ (lookup : Lookup) (a : Http.Answer), lookup.method = method ∧ answer = some a ∧
      Says lookup.shape a := by
  obtain ⟨lookup, id', a, hx, hsays, -⟩ := h
  obtain ⟨hquery, hanswer⟩ := Exchange.mk.inj hx
  refine ⟨lookup, a, ?_, eq_of_heq hanswer, hsays⟩
  injection hquery with _ hbody
  exact (Connector.eq_of_requestBody hbody).1.symm

/-- The answer to a request means the same for everything that the request may be for. -/
theorem transfer (h : Answers url Says x e) (h' : Answers url Says' x e') :
    Answers url Says' x e := by
  obtain ⟨lookup, id, answer, rfl, -, rfl⟩ := h
  obtain ⟨other, a, hmethod, hanswer, hsays⟩ := h'.method_eq
  obtain rfl := Option.some.inj hanswer
  rw [Lookup.shape_eq_of_method hmethod] at hsays
  exact ⟨lookup, id, answer, rfl, hsays, rfl⟩

end Answers

/-- A failed request is never taken for a missing block. -/
theorem ofJsonRpc_isNotFound (failure : Failure) :
    (ApiError.ofJsonRpc failure).isNotFound = false := by
  unfold ApiError.ofJsonRpc
  split <;> rfl

/-- A lookup finds nothing exactly if its answer is blank. -/
theorem accounts_lookup {α : Type} {url : Url} (lookup : Lookup) {format : Json.Format α}
    (hshape : format.shape = lookup.shape) :
    (Connector.request lookup.method [lookup.parameter] format).Fulfils (Connector.terms url)
      fun made result => Accounts (Answers url Blank) (fun e => e.isNotFound = false) made
        (lookup.error? result) := by
  refine (Connector.fulfils_request _ _ format).mono fun made result h => ?_
  obtain ⟨id, answer, rfl, hresult⟩ := h
  have hanswer : result = .ok none ↔ ∃ a, answer = some a ∧ Blank lookup.shape a := by
    rw [hresult, Connector.readReply_eq_none, hshape]
  have hfine (hfound : result ≠ .ok none) : AllFine (Answers url Blank)
      [⟨.post url (Connector.requestBody lookup.method [lookup.parameter] id), answer⟩] := by
    refine allFine_singleton fun e he => hfound (hanswer.mpr ?_)
    obtain ⟨other, a, hmethod, rfl, hblank⟩ := he.method_eq
    rw [Lookup.shape_eq_of_method hmethod] at hblank
    exact ⟨a, rfl, hblank⟩
  match result with
  | .ok none =>
    obtain ⟨a, rfl, hblank⟩ := hanswer.mp rfl
    exact .failed_first ⟨lookup, id, a, rfl, hblank, rfl⟩
  | .ok (some a) => exact .fine (hfine (by simp))
  | .error failure => exact .own (hfine (by simp)) (ofJsonRpc_isNotFound failure)

/-- A request for anything else does not fail as a lookup does. -/
theorem accounts_requestSome {α : Type} {url : Url} (subject : String) {method : String}
    (parameters : List Json) (format : Json.Format α) (hmethod : method ∉ Lookup.methods) :
    (Connector.requestSome subject method parameters format).Fulfils (Connector.terms url)
      fun made result => Accounts (Answers url Blank) (fun e => e.isNotFound = false) made
        ((errorOf? result).map .ofJsonRpc) := by
  refine Fulfils.bind (Connector.fulfils_request method parameters format) fun made result h => ?_
  obtain ⟨id, answer, rfl, -⟩ := h
  have hfine : AllFine (Answers url Blank)
      [⟨.post url (Connector.requestBody method parameters id), answer⟩] := by
    refine allFine_singleton fun e he => ?_
    obtain ⟨lookup, -, heq, -⟩ := he.method_eq
    exact hmethod (heq ▸ lookup.method_mem)
  match result with
  | .error failure => exact .own hfine (ofJsonRpc_isNotFound failure)
  | .ok none => exact .own hfine rfl
  | .ok (some a) => exact .fine hfine

/-- A chain says that a block does not exist exactly if it met a lookup of this block whose answer
was blank. -/
theorem covers_blank (url : Url) :
    Covers url (Answers url Blank) fun e => e.isNotFound = false where
  notConnected _ _ := rfl
  unsupportedMethod _ := rfl
  invalidResponse _ := rfl
  lookup lookup _ hshape := accounts_lookup lookup hshape
  requestSome subject _ parameters format hmethod :=
    accounts_requestSome subject parameters format hmethod

namespace Chain

/-- A call is right about every block that it says does not exist exactly if every blank answer to
a lookup came with a success status and the result `null`. -/
theorem notFound_null_iff {κ : Type} (server : Server Http.Exchange κ)
    (s : Session Chain Http.Exchange κ) (call : Call) :
    ∃ made, (s.call api server call).2.record = s.record ++ made ∧
      ((∀ e, call.error? (s.call api server call).1 = some e → e.isNotFound = true →
          ∃ x ∈ made, Answers s.state.connector.url NullResult x e) ↔
        ∀ x ∈ made, ∀ e, Answers s.state.connector.url Blank x e →
          Answers s.state.connector.url NullResult x e) := by
  have hurl : (terms s.state.connector.url).state s.state := rfl
  obtain ⟨made, hrecord, haccounts, -⟩ := Session.call_fulfils server
    ((covers_blank s.state.connector.url).fulfils_api call) (fun _ _ => trivial) hurl
  refine ⟨made, hrecord, ?_, ?_⟩
  · intro hright x hx e hblank
    obtain ⟨e', he', hfailed, hunique⟩ := haccounts.heeds hx hblank
    obtain ⟨y, hy, hnull⟩ := hright e' he' hfailed.isNotFound
    obtain rfl := hunique y hy e' (hnull.mono fun _ _ h => h.toBlank)
    exact hblank.transfer hnull
  · intro hnull e he hnotFound
    rw [he] at haccounts
    obtain ⟨x, hx, hblank⟩ := haccounts.cause (by simp [hnotFound])
    exact ⟨x, hx, hnull x hx e hblank⟩

end Chain

end Substrate

end ChainIndex
