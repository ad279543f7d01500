import ChainIndex.Proofs.Api.Invocation
import ChainIndex.Proofs.Substrate.Conduct

/-!
# ChainIndex.Proofs.Substrate.Network

What a chain over a node of hashes reports as a failure of the network: that a request got no
answer, and nothing else (`Chain.network_iff_unanswered`).

An answer of any status and with any body, be it complete or not, is read or is a failure of
another kind.
-/

namespace ChainIndex.Substrate

open ChainIndex.Task JsonRpc

/-- A request that got no answer, and the error that it stands for. -/
def Unanswered (x : Exchange Http.Exchange) (e : ApiError) : Prop :=
  x.answer = none ∧ e = .network (.jsonRpc .unreachable)

/-- An answer is never taken for none. -/
theorem readAnswer_isNetwork {α : Type} {method : String} {format : Json.Format α}
    {answer : Http.Answer} {failure : Failure}
    (h : Connector.readAnswer method format answer = .error failure) :
    failure.isNetwork = false := by
  unfold Connector.readAnswer at h
  split at h
  · cases h
    rfl
  · split at h
    · cases h
      rfl
    · split at h
      · cases h
        rfl
      · cases h
        rfl
      · cases h

/-- A failure that is none of the network stays none as it is passed on. -/
theorem ofJsonRpc_isNetwork {failure : Failure} (h : failure.isNetwork = false) :
    (ApiError.ofJsonRpc failure).isNetwork = false := by
  rw [ApiError.ofJsonRpc, h]
  rfl

/-- A request is not answered, or it is and does not fail as one that is not. -/
theorem fulfils_request_unanswered {α : Type} {url : Url} (method : String)
    (parameters : List Json) (format : Json.Format α) :
    (Connector.request method parameters format).Fulfils (Connector.terms url) fun made result =>
      (∃ x, made = [x] ∧ x.answer = none ∧ result = .error .unreachable) ∨
      AllFine Unanswered made ∧ ∀ failure, result = .error failure → failure.isNetwork = false := by
  refine (Connector.fulfils_request method parameters format).mono fun made result h => ?_
  obtain ⟨id, answer, rfl, rfl⟩ := h
  cases answer with
  | none => exact .inl ⟨_, rfl, rfl, rfl⟩
  | some answer =>
    exact .inr ⟨allFine_singleton fun _ h => (nomatch h.1), fun _ => readAnswer_isNetwork⟩

/-- A chain fails as one of the network exactly if a request got no answer. -/
theorem covers_unanswered (url : Url) :
    Covers url Unanswered fun e => e.isNetwork = false where
  notConnected _ _ := rfl
  unsupportedMethod _ := rfl
  invalidResponse _ := rfl
  lookup lookup format _ := by
    refine (fulfils_request_unanswered _ _ format).mono fun made result h => ?_
    obtain ⟨x, rfl, hx, rfl⟩ | ⟨hfine, hresult⟩ := h
    · exact .failed_first ⟨hx, rfl⟩
    · match result with
      | .ok none => exact .own hfine (by cases lookup <;> rfl)
      | .ok (some a) => exact .fine hfine
      | .error failure => exact .own hfine (ofJsonRpc_isNetwork (hresult failure rfl))
  requestSome subject method parameters format _ := by
    refine Fulfils.bind (fulfils_request_unanswered method parameters format)
      fun made result h => ?_
    obtain ⟨x, rfl, hx, rfl⟩ | ⟨hfine, hresult⟩ := h
    · exact .failed_first ⟨hx, rfl⟩
    · rw [← List.append_nil made] at hfine
      match result with
      | .ok none => exact .own hfine rfl
      | .ok (some a) => exact .fine hfine
      | .error failure => exact .own hfine (ofJsonRpc_isNetwork (hresult failure rfl))

/-- Whatever the node does, a call or a call by name fails as one of the network exactly if a
request of it got no answer. -/
theorem Chain.network_iff_unanswered {κ : Type} (c : Chain) (server : Server Http.Exchange κ)
    (k : κ) (invocation : Invocation) :
    let x := (api.invoke invocation).run server.recording c (k, [])
    (∃ e, invocation.error? x.1 = some e ∧ e.isNetwork = true) ↔
      ∃ y ∈ x.2.2.2, y.answer = none := by
  intro x
  have hrefused (e : ApiError) (he : Refusal e) :
      Accounts Unanswered (fun e => e.isNetwork = false) [] (some e) :=
    .own allFine_nil (isNetwork_of_refusal he)
  have hsupports (method : Method) :
      (api.supports method).Fulfils (terms c.connector.url) fun made _ => made = [] := rfl
  have hinvoke := fulfils_invoke (Accounts Unanswered fun e => e.isNetwork = false) hrefused
    hsupports (covers_unanswered c.connector.url).fulfils_api invocation
  have hurl : (terms c.connector.url).state c := rfl
  obtain ⟨made, hrecord, haccounts, -⟩ := hinvoke.run server (fun _ _ => trivial) hurl k []
  have hmade : x.2.2.2 = made := hrecord
  change Accounts Unanswered _ made (invocation.error? x.1) at haccounts
  rw [hmade]
  constructor
  · rintro ⟨e, he, hnetwork⟩
    rw [he] at haccounts
    obtain ⟨y, hy, hunanswered, -⟩ := haccounts.cause (by simp [hnetwork])
    exact ⟨y, hy, hunanswered⟩
  · rintro ⟨y, hy, hunanswered⟩
    obtain ⟨e, he, ⟨-, rfl⟩, -⟩ := haccounts.heeds hy ⟨hunanswered, rfl⟩
    exact ⟨_, he, rfl⟩

end ChainIndex.Substrate
