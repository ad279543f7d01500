import ChainIndex.Proofs.Algod.Agreement
import ChainIndex.Proofs.Algod.Conduct

/-!
# ChainIndex.Proofs.Algod.Leads

What any call to a chain over a node of rounds can do to the store of rounds behind it.

There are four changes, and each is tied to the answer that the caller sees: a given hash is
that of a round which is stored from then on, as a pinned round if it was the head that was
asked for, and a round is dropped only as its block is asked for.  All other calls, failed ones and
those without an active connection leave the store as it is (`backed_call`).
-/

namespace ChainIndex.Algod

open ChainIndex.Task

/-- The head that a call gave. -/
def headGiven? : Exchange Calls → Option BlockHash
  | ⟨.finalizedHead, answer⟩ => Except.toOption answer
  | _ => none

/-- Asking for the head gives the head that it is answered with. -/
theorem headGiven?_eq_some {answer : Except ApiError BlockHash} {head : BlockHash} :
    headGiven? ⟨.finalizedHead, answer⟩ = some head ↔ answer = .ok head := by
  cases answer <;> simp [headGiven?, Except.toOption]

/-- Whether a call gave the hash of a round. -/
def GivesHashOf (round : BlockNumber) (x : Exchange Calls) : Prop :=
  ∃ hash, x = ⟨.blockHash round, .ok hash⟩

/-- A call that is answered so can lead from one store to another. -/
inductive Rounds.Leads (m : Rounds) : Exchange Calls → Rounds → Prop
  | same {x : Exchange Calls} (h : headGiven? x = none) : Leads m x m
  | revive {round : UInt64} {block : Block} (h : m.store.get? round = some block) :
    Leads m ⟨.blockHash round, .ok block.hash⟩ (m.revive round)
  | add {round : UInt64} {block : Block} (h : m.store.get? round = none) :
    Leads m ⟨.blockHash round, .ok block.hash⟩ (m.add round block)
  | pin {round : UInt64} {block : Block}
    (h : ∀ known, m.store.get? round = some known → known = block) :
    Leads m ⟨.finalizedHead, .ok block.hash⟩ (m.pin round block)
  | drop {hash : BlockHash} {answer : Except ApiError SignedBlock} {round : UInt64}
    (hpinned : m.pinned ≠ some round) (hretired : m.retired ≠ some round) :
    Leads m ⟨.block hash, answer⟩ (m.drop round)

/-! ## Calls to a store -/

namespace Rounds

variable {κ : Type} (server : Server Client κ) (m : Rounds) (k : κ)

/-- A call for the hash of a round leads from one store to the next. -/
theorem leads_blockHash (round : BlockNumber) :
    m.Leads ⟨.blockHash round, (attempt server (blockHash round) m k).1⟩
      (attempt server (blockHash round) m k).2.1 := by
  rw [attempt_blockHash]
  cases hn : m.store.get? round with
  | some block => exact .revive hn
  | none =>
    simp only
    cases accept round (server (.block round) k).1 with
    | error e => exact .same rfl
    | ok block => exact .add hn

/-- A call for the head leads from one store to the next. -/
theorem leads_finalizedHead :
    m.Leads ⟨.finalizedHead, (attempt server finalizedHead m k).1⟩
      (attempt server finalizedHead m k).2.1 := by
  rw [attempt_finalizedHead]
  cases ((server .lastRound k).1 : Except ClientError UInt64) with
  | error e => exact .same rfl
  | ok round =>
    simp only
    cases hn : m.store.get? round with
    | some block => exact .pin fun known hknown => Option.some.inj (hknown.symm.trans hn)
    | none =>
      simp only
      cases accept round (server (.block round) (server .lastRound k).2).1 with
      | error e => exact .same rfl
      | ok block =>
        refine .pin fun known hknown => ?_
        rw [hn] at hknown
        cases hknown

/-- A round is dropped only if it is transient. -/
theorem leads_block {m : Rounds}
    (htransient : ∀ n ∈ m.transient, m.pinned ≠ some n ∧ m.retired ≠ some n) (hash : BlockHash) :
    m.Leads ⟨.block hash, (attempt server (block hash) m k).1⟩
      (attempt server (block hash) m k).2.1 := by
  rw [attempt_block]
  cases m.find? hash with
  | none => exact .same rfl
  | some found =>
    obtain ⟨round, block⟩ := found
    simp only
    split
    · exact .same rfl
    · split
      · next hmem => exact .drop (htransient round hmem).1 (htransient round hmem).2
      · exact .same rfl

/-- Whatever a store serves leads from it to the next. -/
theorem leads_serve {m : Rounds}
    (htransient : ∀ n ∈ m.transient, m.pinned ≠ some n ∧ m.retired ≠ some n) (lookup : Lookup) :
    m.Leads ⟨lookup.call, ((Rounds.serve lookup).run server m k).1⟩
      ((Rounds.serve lookup).run server m k).2.1 := by
  cases lookup with
  | blockHash round => exact leads_blockHash server m k round
  | finalizedHead => exact leads_finalizedHead server m k
  | block hash => exact leads_block server k htransient hash
  | header hash =>
    have hsame : ((Rounds.serve (.header hash)).run server m k).2.1 = m :=
      congrArg (·.2.1) (attempt_header server m k hash)
    rw [hsame]
    exact .same rfl
  | blockByNumber round =>
    have hsame : ((Rounds.serve (.blockByNumber round)).run server m k).2.1 = m :=
      congrArg (·.2.1) (attempt_blockByNumber server m k round)
    rw [hsame]
    exact .same rfl

end Rounds

/-! ## Calls to a chain -/

variable {κ : Type} {server : Server Client κ} {s : Session Chain Client κ} {m : Rounds}

/-- The registry of a chain in use holds what a store holds of the blocks that were seen. -/
def Backed (s : Session Chain Client κ) (m : Rounds) : Prop :=
  Mirrors s.state.registry m (blocksSeen s.record)

/-- A call that keeps the registry keeps the store. -/
theorem backed_of_keeps (h : Backed s m) {next : Call} (hkeeps : Chain.keepsRegistry next = true) :
    Backed (s.call Chain.api server next).2 m := by
  have hterms : (Chain.terms (· = s.state.registry)).state s.state := rfl
  obtain ⟨made, hrecord, -, hregistry⟩ := Session.call_fulfils server
    (Chain.fulfils_api_of_keeps hkeeps) (fun _ _ => trivial) hterms
  unfold Backed
  rw [hrecord, show _ = s.state.registry from hregistry]
  exact h.recorded made

/-- A call that is refused for want of an active connection leaves everything as it is. -/
theorem refused_of_inactive (hinactive : s.state.connection.state ≠ .active) {next : Call}
    (hkeeps : Chain.keepsRegistry next = false) :
    (s.call Chain.api server next).2 = s ∧
      headGiven? ⟨next, (s.call Chain.api server next).1⟩ = none := by
  cases next with
  | blockHash round =>
    have hcall : s.call Chain.api server (.blockHash round) =
        (.error (.notConnected (Method.name .blockHash) s.state.connection.state), s) :=
      Session.call_eq_of_run server (Chain.attempt_guarded _ _ hinactive .blockHash _)
    rw [hcall]
    exact ⟨rfl, rfl⟩
  | finalizedHead =>
    have hcall : s.call Chain.api server .finalizedHead =
        (.error (.notConnected (Method.name .finalizedHead) s.state.connection.state), s) :=
      Session.call_eq_of_run server (Chain.attempt_guarded _ _ hinactive .finalizedHead _)
    rw [hcall]
    exact ⟨rfl, rfl⟩
  | block hash =>
    have hcall : s.call Chain.api server (.block hash) =
        (.error (.notConnected (Method.name .block) s.state.connection.state), s) :=
      Session.call_eq_of_run server (Chain.attempt_guarded _ _ hinactive .block _)
    rw [hcall]
    exact ⟨rfl, rfl⟩
  | _ => cases hkeeps

/-- A call that is served leads to the store behind the chain afterwards. -/
theorem backed_serve (h : Backed s m) (hactive : s.state.connection.state = .active)
    (lookup : Lookup)
    (hapart : HashedApart (blocksSeen (s.call Chain.api server lookup.call).2.record)) :
    ∃ m', Backed (s.call Chain.api server lookup.call).2 m' ∧
      m.Leads ⟨lookup.call, (s.call Chain.api server lookup.call).1⟩ m' := by
  have halike := serve_alike h hactive lookup hapart
  have hleads := Rounds.leads_serve server.recording (s.node, s.record)
    (fun n hn => ((h.transient n).mp hn).2) lookup
  rw [← halike.answer] at hleads
  exact ⟨_, halike.mirrors, hleads⟩

/-- Every call leads from the store behind a chain to the store behind it afterwards. -/
theorem backed_call (h : Backed s m) (next : Call)
    (hapart : HashedApart (blocksSeen (s.call Chain.api server next).2.record)) :
    ∃ m', Backed (s.call Chain.api server next).2 m' ∧
      m.Leads ⟨next, (s.call Chain.api server next).1⟩ m' := by
  cases hkeeps : Chain.keepsRegistry next with
  | true =>
    refine ⟨m, backed_of_keeps h hkeeps, .same ?_⟩
    cases next <;> first | rfl | cases hkeeps
  | false =>
    by_cases hactive : s.state.connection.state = .active
    · cases next with
      | blockHash round => exact backed_serve h hactive (.blockHash round) hapart
      | finalizedHead => exact backed_serve h hactive .finalizedHead hapart
      | block hash => exact backed_serve h hactive (.block hash) hapart
      | _ => cases hkeeps
    · obtain ⟨hsame, hnone⟩ := refused_of_inactive hactive hkeeps
      rw [hsame]
      exact ⟨m, h, .same hnone⟩

/-- What every call answered as foreseen keeps, a sequence of such calls keeps. -/
theorem backed_calls {I : Rounds → Prop} {P : Exchange Calls → Prop}
    (hstep : ∀ x m m' r seen, P x → Mirrors r m' seen → m.Leads x m' → I m → I m')
    (h : Backed s m) (hI : I m) (rest : List Call)
    (hP : ∀ x ∈ (s.calls Chain.api server rest).1, P x)
    (hapart : HashedApart (blocksSeen (s.calls Chain.api server rest).2.record)) :
    ∃ m', Backed (s.calls Chain.api server rest).2 m' ∧ I m' := by
  induction rest generalizing s m with
  | nil => exact ⟨m, h, hI⟩
  | cons next rest ih =>
    rw [Session.calls_cons] at hP hapart ⊢
    obtain ⟨hnext, hrest⟩ := List.forall_mem_cons.mp hP
    have hgrown := (s.call Chain.api server next).2.prefix_calls Chain.api server rest
    obtain ⟨m', hm', hleads⟩ := backed_call h next (hapart.restrict hgrown)
    exact ih hm' (hstep _ _ _ _ _ hnext hm' hleads hI) hrest hapart

end ChainIndex.Algod
