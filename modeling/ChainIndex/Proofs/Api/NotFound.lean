import ChainIndex.Proofs.Algod.Remote
import ChainIndex.Proofs.Substrate.Lookup

/-!
# ChainIndex.Proofs.Api.NotFound

Whether a chain api is right when it says that a block does not exist.

Over either kind of node such an error goes back to one exchange of the same call.  The exchange
need not be an answer that there is no such block: a node of rounds may have no status to
give, and a node of hashes may fail with a body that has neither a result nor an error.
These are the only ways in which the api says so of a block that the node did not say it of.
-/

namespace ChainIndex

open ChainIndex.Task

/-- Over a node of rounds, whatever was called before, a call by number or for the head is right
about every block that it says does not exist exactly if no request for the status of the node
was answered with status 404; being right, it got status 404 for just this block.  Over a node of
hashes, any call is right exactly if every lookup that was answered with neither a result nor an
error was answered by a success with the result `null`; being right, it got this answer for just
this block. -/
theorem notFound_right_iff {κ : Type} (server : Server Http.Exchange κ) (call : Call)
    (node : Algod.Remote) (k : κ) (before : List Call)
    (s : Session Substrate.Chain Http.Exchange κ) :
    (Algod.readsHash call = false →
      let api : Api (Algod.Chain × Unit) Http.Exchange := Algod.Chain.api.answeredBy node.serve
      let s := ((Session.start (Algod.Chain.initial, ()) k).calls api server before).2
      ∃ made, (s.call api server call).2.record = s.record ++ made ∧
        ((∀ e, call.error? (s.call api server call).1 = some e → e.isNotFound = true →
            ∃ round, e = .notFound round ∧
              ∃ x ∈ made, node.Requests (.block round) x ∧ Algod.Unknown x) ↔
          ∀ x ∈ made, node.Requests .lastRound x → ¬ Algod.Unknown x)) ∧
    ∃ made, (s.call Substrate.Chain.api server call).2.record = s.record ++ made ∧
      ((∀ e, call.error? (s.call Substrate.Chain.api server call).1 = some e →
          e.isNotFound = true →
          ∃ x ∈ made, Substrate.Answers s.state.connector.url JsonRpc.NullResult x e) ↔
        ∀ x ∈ made, ∀ e, Substrate.Answers s.state.connector.url JsonRpc.Blank x e →
          Substrate.Answers s.state.connector.url JsonRpc.NullResult x e) :=
  ⟨fun hcall => Algod.notFound_block_iff node server k before hcall,
    Substrate.Chain.notFound_null_iff server s call⟩

/-- A server that gives one answer to every request. -/
def answeringAll (answer : Http.Answer) : Server Http.Exchange Unit := fun _ k => (some answer, k)

/-- The address of a node on the same machine. -/
def localUrl : Url := ⟨"http", some ⟨"", none, "127.0.0.1", some 4001⟩, .segments [""], none, none⟩

/-- A chain over a node of rounds that is asked for nothing but its status, and does not have it,
says that round 0 does not exist; one over a node of hashes that is unavailable and says so in
its body says that the block does not exist. -/
theorem notFound_of_failing_node :
    let node : Algod.Remote := ⟨localUrl, none⟩
    let algod := (Session.start (Algod.Chain.initial, ()) ()).call
      (Algod.Chain.api.answeredBy node.serve) (answeringAll ⟨404, "", true⟩) .connect
    let chain : Substrate.Chain := ⟨⟨.active, ⟨.active, 2⟩⟩, .ofUrl localUrl⟩
    let unavailable : Http.Answer := ⟨503, "\x7b\"message\":\"unavailable\"\x7d", true⟩
    let substrate := (Session.start chain ()).call Substrate.Chain.api (answeringAll unavailable)
      (.header .zero)
    Call.connect.error? algod.1 = some (.notFound 0) ∧
      algod.2.record = [⟨.get { localUrl with path := .segments ["v2", "status"] } none,
        some ⟨404, "", true⟩⟩] ∧
      (Call.header .zero).error? substrate.1 = some (.missingBlock .zero) := by
  refine ⟨by decide +kernel, rfl, by decide +kernel⟩

end ChainIndex
