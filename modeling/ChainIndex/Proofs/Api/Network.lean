import ChainIndex.Proofs.Algod.Network
import ChainIndex.Proofs.Api.NotFound
import ChainIndex.Proofs.Substrate.Network

/-!
# ChainIndex.Proofs.Api.Network

Whether a chain api is right when it reports a failure of the network.

Over a node of hashes it is: it reports one exactly if a request got no answer.  Over a node of
rounds it also reports one where the node did answer and did not fail, if the answer is not the
expected JSON, and where no request could be made at all; these are the only exceptions.
-/

namespace ChainIndex

open ChainIndex.Task

/-- What is said about failures of the network, whatever is asked of an api and whatever its node
does.  Over a node of rounds, in a state that came about by calls and calls by name, a failure of
the network is reported exactly if a request got no answer or one that says that the node failed,
or got a complete success that is not the expected JSON, or could not be made; so the
report stands for the first exactly if there was neither of the other two.  Over a node of hashes,
in any state, a failure of the network is reported exactly if a request got no answer. -/
theorem network_right_iff {κ : Type} (server : Server Http.Exchange κ) (k : κ)
    (invocation : Invocation) {node : Algod.Remote}
    {pending : List (Pending (Algod.Chain × Unit) Http.Exchange)} {s : Algod.Chain × Unit}
    (h : Underway node.api (Algod.Chain.initial, ()) pending s) (c : Substrate.Chain) :
    (let x := (node.api.invoke invocation).run server.recording s (k, [])
      let made := x.2.2.2
      let ended := invocation.error? x.1
      ((∃ e, ended = some e ∧ e.isNetwork = true) ↔
        (∃ y ∈ made, Algod.Unserved y) ∨
        (∃ y ∈ made, ∃ query, node.Requests query y ∧ Algod.Garbled query y) ∨
        ∃ fault, ended = some (.network (.client (.invalidUrl fault)))) ∧
      (((∃ e, ended = some e ∧ e.isNetwork = true) ↔ ∃ y ∈ made, Algod.Unserved y) ↔
        (∀ y ∈ made, ∀ query, node.Requests query y → ¬ Algod.Garbled query y) ∧
        ∀ fault, ended ≠ some (.network (.client (.invalidUrl fault))))) ∧
    let x := (Substrate.Chain.api.invoke invocation).run server.recording c (k, [])
    (∃ e, invocation.error? x.1 = some e ∧ e.isNetwork = true) ↔
      ∃ y ∈ x.2.2.2, y.answer = none :=
  ⟨Algod.network_transport_iff h server k invocation,
    Substrate.Chain.network_iff_unanswered c server k invocation⟩

/-- A node of rounds that is unavailable is reported as such. -/
theorem network_right_iff_unavailable :
    let node : Algod.Remote := ⟨localUrl, none⟩
    let x := (node.api.invoke (.direct .connect)).run (answeringAll ⟨503, "", true⟩).recording
      (Algod.Chain.initial, ()) ((), [])
    Underway node.api (Algod.Chain.initial, ()) [] (Algod.Chain.initial, ()) ∧
      ((∃ e, Call.connect.error? x.1 = some e ∧ e.isNetwork = true) ↔
        ∃ y ∈ x.2.2.2, Algod.Unserved y) := by
  intro node x
  have hstart : Underway node.api (Algod.Chain.initial, ()) [] (Algod.Chain.initial, ()) :=
    .initial
  refine ⟨hstart, ?_⟩
  obtain ⟨⟨-, hright⟩, -⟩ := network_right_iff (answeringAll ⟨503, "", true⟩) ()
    (.direct .connect) hstart ⟨.initial, .ofUrl localUrl⟩
  have hrecord : x.2.2.2 = [⟨.get { localUrl with path := .segments ["v2", "status"] } none,
    some ⟨503, "", true⟩⟩] := rfl
  have herror : Call.connect.error? x.1 = some (.network (.client
      (.serverFailure "algod returned 503 Service Unavailable: "))) := by decide +kernel
  refine hright.mpr ⟨?_, fun fault hfault => ?_⟩
  · change ∀ y ∈ x.2.2.2, _
    rw [hrecord]
    intro y hy query _ hgarbled
    obtain rfl := List.mem_singleton.mp hy
    cases hgarbled.1
  · cases herror.symm.trans hfault

/-- A node of rounds that answers the request for its status with a text that is no JSON is
reported as a failure of the network, although the only request was served. -/
theorem network_of_malformed_status :
    let node : Algod.Remote := ⟨localUrl, none⟩
    let x := (node.api.invoke (.direct .connect)).run
      (answeringAll ⟨200, "not json", true⟩).recording (Algod.Chain.initial, ()) ((), [])
    Call.connect.error? x.1 = some (.network (.client .malformedJson)) ∧
      x.2.2.2 = [⟨.get { localUrl with path := .segments ["v2", "status"] } none,
        some ⟨200, "not json", true⟩⟩] ∧
      ¬ ∃ y ∈ x.2.2.2, Algod.Unserved y := by
  intro node x
  have hrecord : x.2.2.2 = [⟨.get { localUrl with path := .segments ["v2", "status"] } none,
    some ⟨200, "not json", true⟩⟩] := rfl
  refine ⟨by decide +kernel, hrecord, ?_⟩
  rw [hrecord]
  rintro ⟨y, hy, hunserved⟩
  obtain rfl := List.mem_singleton.mp hy
  cases hunserved

end ChainIndex
