import ChainIndex.Proofs.Algod.Failure
import ChainIndex.Proofs.Api.Interleaving
import ChainIndex.Proofs.Registry.Slots

/-!
# ChainIndex.Proofs.Algod.Interleaving

What a hash is good for that a chain over a node of rounds has just given, while other calls go on.

The node gives one block for a round, whenever it is asked and by whomever.  What is put into the
registry is then what stands there already, so that the slots stay formed and no hash is retired but
the one that was pinned (`Held.perform`).  A call for the hash of a round that finds the round
revives it.  One that does not find it waits for the node, and puts the block once it is there; if
others put it meanwhile, its slot stays as it is.  So the hash that is given is live, and its block
is served next, unless it became the head and was superseded while the call waited
(`served_unless_superseded`); this does happen (`retired_of_superseded`).
-/

namespace ChainIndex.Algod

open ChainIndex.Task

/-! ## A node that gives one block for a round -/

/-- Answers that give no blocks but those of a table. -/
def GivesFrom (served : UInt64 → Option Block) :
    (query : Client.Query) → Client.Answer query → Prop
  | .lastRound, _ => True
  | .block round, answer => ∀ block, answer = .ok block → served round = some block

/-- Different rounds of a table have different derived hashes. -/
def DerivesApart (served : UInt64 → Option Block) : Prop :=
  ∀ round other block block', served round = some block → served other = some block' →
    deriveHash block.genesisHash round = deriveHash block'.genesisHash other → round = other

/-- What is fetched from a table for a round. -/
structure Fetched (served : UInt64 → Option Block) (hash : BlockHash) (round : UInt64)
    (block : Block) : Prop where
  given : served round = some block
  numbered : block.round = round
  derived : hash = deriveHash block.genesisHash round

/-- Placing what is fetched, and nothing else. -/
theorem Fetched.of_placement {served : UInt64 → Option Block} {hash hash' : BlockHash}
    {round round' : UInt64} {block block' : Block} (h : Fetched served hash round block)
    (hput : some (hash, round, block) = some (hash', round', block')) :
    Fetched served hash' round' block' := by
  obtain ⟨rfl, rfl, rfl⟩ := hput
  exact h

/-- A registry that holds nothing but what is fetched from a table, and whose slots are formed. -/
structure Held (served : UInt64 → Option Block) (r : Registry Block) : Prop where
  sound : r.Sound
  slots : r.SlotsFormed
  fetched : ∀ round hash block, r.blocks.get? round = some ⟨hash, block⟩ →
    Fetched served hash round block

/-- An empty registry holds nothing that could be wrong. -/
theorem held_empty (served : UInt64 → Option Block) : Held served .empty where
  sound := Registry.sound_empty
  slots := Registry.slotsFormed_empty
  fetched := by
    intro round hash block h
    exact absurd h (by simp [Registry.empty])

namespace Held

variable {served : UInt64 → Option Block} {r : Registry Block}

/-- What a table gives for its rounds is what was fetched for them. -/
theorem derived (h : Held served r) : Derived r :=
  ⟨h.sound, fun round hash block hget =>
    ⟨(h.fetched round hash block hget).numbered, (h.fetched round hash block hget).derived⟩⟩

/-- A round is registered under the hash that it is fetched with. -/
theorem eq_of_hashOf? (h : Held served r) {hash replaced : BlockHash} {round : UInt64}
    {block : Block} (hfetched : Fetched served hash round block)
    (hof : r.hashOf? round = some replaced) : replaced = hash := by
  obtain ⟨known, hget⟩ := Registry.hashOf?_eq_some.mp hof
  have hknown := h.fetched _ _ _ hget
  obtain rfl := Option.some.inj (hknown.given.symm.trans hfetched.given)
  rw [hknown.derived, hfetched.derived]

/-- A round that is not registered is not registered under another round, either. -/
theorem not_contains (h : Held served r) (happart : DerivesApart served) {hash : BlockHash}
    {round : UInt64} {block : Block} (hfetched : Fetched served hash round block)
    (hof : r.hashOf? round = none) : r.contains hash = false := by
  by_contra hlive
  obtain ⟨other, hother⟩ := h.sound.contains_iff.mp (Bool.not_eq_false _ ▸ hlive)
  obtain ⟨known, hget⟩ := Registry.hashOf?_eq_some.mp hother
  have hknown := h.fetched _ _ _ hget
  obtain rfl := happart _ _ _ _ hknown.given hfetched.given
    (hknown.derived.symm.trans hfetched.derived)
  rw [hof] at hother
  cases hother

/-- A change that places nothing but what is fetched keeps a registry so, and retires no hash but
the pinned one. -/
theorem perform (h : Held served r) (change : Registry.Operation Block)
    (hput : ∀ hash round block, change.placement? = some (hash, round, block) →
      Fetched served hash round block) :
    Held served (r.perform change).2 ∧ r.RetiresPinned (r.perform change).2 := by
  have hperformed := Registry.performed_perform h.sound change
  have hsame : ∀ hash round block, change.placement? = some (hash, round, block) →
      ∀ replaced, r.hashOf? round = some replaced → replaced = hash :=
    fun hash round block hplaced _ hof => h.eq_of_hashOf? (hput hash round block hplaced) hof
  refine ⟨⟨Registry.sound_perform h.sound change, ?_, ?_⟩, hperformed.retiresPinned hsame⟩
  · exact (hperformed.slotsFormed_iff h.sound h.slots).mpr
      (Registry.not_merges_of_same h.slots hsame)
  · intro round hash block hget
    obtain hnew | hold := hperformed.entry hget
    · exact hput hash round block hnew
    · exact h.fetched round hash block hold

/-- Putting what is fetched registers it and leaves it in its slot. -/
theorem put (h : Held served r) {hash : BlockHash} {round : UInt64} {block : Block}
    (hfetched : Fetched served hash round block) :
    Held served (r.put hash round block) ∧
      (r.put hash round block).hashOf? round = some hash ∧
      (r.put hash round block).slot hash = r.slot hash := by
  have hplaced := Registry.placed_place h.sound hash round block
  obtain ⟨hpinned, hretired⟩ := hplaced.slots_of_same fun _ hof => h.eq_of_hashOf? hfetched hof
  refine ⟨(h.perform (.put hash round block) fun _ _ _ hput => ?_).1, ?_, ?_⟩
  · exact hfetched.of_placement hput
  · rw [Registry.put_eq, Registry.hashOf?_announceIf, hplaced.hashOf?, if_pos rfl]
  · rw [Registry.put_eq, Registry.slot, Registry.pinned_announceIf, Registry.retired_announceIf,
      hpinned, hretired, Registry.slot]

end Held

namespace Chain

variable {α β : Type} {served : UInt64 → Option Block}

/-! ## Steps of calls -/

/-- The terms of a chain over a node that gives one block for a round. -/
def termsFrom (served : UInt64 → Option Block) : Terms Chain Client :=
  ⟨fun c => Held served c.registry, GivesFrom served⟩

/-- A step in which no hash is retired but the one that was pinned until then. -/
def StepRetiresPinned (c c' : Chain) : Prop := c.registry.RetiresPinned c'.registry

/-- What leaves the registry as it is retires nothing. -/
theorem moves_of_leaves {Q : α → Prop} {t : Task Chain Client α}
    (h : t.Leaves (terms Derived) Chain.registry Q) :
    t.Moves (termsFrom served) StepRetiresPinned Q := by
  refine h.moves (fun _ hc => hc.derived) (fun _ _ _ => trivial) fun c c' hc hsame => ?_
  have hheld : Held served c.registry := hc
  rw [← hsame] at hheld
  exact ⟨hheld, .of_eq (congrArg Registry.retired hsame)⟩

/-- Fetching ends with what the table gives for the round, and changes nothing. -/
theorem movesBy_fetch (round : UInt64) :
    MovesBy (termsFrom served) StepRetiresPinned (fetch round) fun fetched =>
      Fetched served fetched.1 round fetched.2 := by
  refine MovesBy.bind (Q := fun block => served round = some block) ?_ fun block hserved => ?_
  · refine fun answer hanswer => ?_
    change Except ClientError Block at answer
    cases answer with
    | ok block => exact movesBy_pure (hanswer block rfl)
    | error e => exact movesBy_throw _
  · split
    · next hround => exact movesBy_pure ⟨hserved, hround, rfl⟩
    · exact movesBy_throw _

/-- A change of the registry as a step. -/
theorem movesBy_onRegistry {f : Registry Block → α × Registry Block}
    (change : Registry.Operation Block) (hf : ∀ r, (f r).2 = (r.perform change).2)
    (hput : ∀ hash round block, change.placement? = some (hash, round, block) →
      Fetched served hash round block) :
    MovesBy (termsFrom served) StepRetiresPinned (onRegistry f) fun _ => True := by
  refine movesBy_step fun c hc => ?_
  obtain ⟨hheld, hretires⟩ := Held.perform hc change hput
  rw [← hf c.registry] at hheld hretires
  exact ⟨hheld, hretires, trivial⟩

theorem movesBy_guarded {Q : α → Prop} {x : Attempt Chain Client α} (method : Method)
    (h : MovesBy (termsFrom served) StepRetiresPinned x Q) :
    MovesBy (termsFrom served) StepRetiresPinned (do ensureActive method; x) Q :=
  MovesBy.bind (moves_of_leaves (leavesView_ensureActive method)) fun _ _ => h

/-- A call for the head retires no hash but the pinned one. -/
theorem movesBy_finalizedHead :
    MovesBy (termsFrom served) StepRetiresPinned finalizedHead fun _ => True := by
  refine movesBy_guarded _ ?_
  refine MovesBy.bind (moves_of_leaves leavesView_askLastRound) fun round _ => ?_
  refine (movesBy_onRegistry (f := fun r => r.pinNumber round) (.pinNumber round) (fun _ => rfl)
    (fun _ _ _ h => nomatch h)).bind fun found _ => ?_
  cases found with
  | some hash => exact movesBy_pure trivial
  | none =>
    refine (movesBy_fetch round).bind fun fetched hfetched => ?_
    refine (movesBy_onRegistry (.putPinned fetched.1 round fetched.2)
      (fun _ => (Registry.perform_putPinned _ _ _ _).symm)
      fun _ _ _ h => hfetched.of_placement h).bind fun pinned _ => ?_
    split
    · exact movesBy_pure trivial
    · exact movesBy_throw _

/-- A call for the block of a hash retires none. -/
theorem movesBy_block (hash : BlockHash) :
    MovesBy (termsFrom served) StepRetiresPinned (block hash) fun _ => True := by
  refine movesBy_guarded _ ?_
  refine MovesBy.bind (Q := fun _ => True) (moves_of_leaves (leavesView_read _ fun _ _ => trivial))
    fun found _ => ?_
  match found with
  | none => exact movesBy_throw _
  | some (_, _, .retired) => exact movesBy_throw _
  | some (_, _, .pinned) => exact movesBy_pure trivial
  | some (_, _, .transient) =>
    exact (movesBy_onRegistry (.evict hash) (fun _ => rfl) fun _ _ _ h => nomatch h).bind
      fun _ _ => movesBy_pure trivial

/-- A call for the hash of a round retires none. -/
theorem movesBy_blockHash (round : BlockNumber) :
    MovesBy (termsFrom served) StepRetiresPinned (blockHash round) fun _ => True := by
  refine movesBy_guarded _ ?_
  refine (movesBy_onRegistry (f := fun r => r.revive round) (.revive round) (fun _ => rfl)
    (fun _ _ _ h => nomatch h)).bind fun found _ => ?_
  cases found with
  | some hash => exact movesBy_pure trivial
  | none =>
    refine (movesBy_fetch round).bind fun fetched hfetched => ?_
    exact (movesBy_onRegistry (.put fetched.1 round fetched.2) (fun _ => rfl)
      fun _ _ _ h => hfetched.of_placement h).bind fun _ _ => movesBy_pure trivial

/-- No call retires a hash but the one that was pinned until then. -/
theorem moves_api (call : Call) :
    (api call).Moves (termsFrom served) StepRetiresPinned fun _ => True := by
  cases hkeeps : keepsRegistry call with
  | true => exact moves_of_leaves (leaves_api_of_keeps hkeeps)
  | false =>
    cases call with
    | blockHash number => exact (movesBy_blockHash number).mono fun _ _ => trivial
    | finalizedHead => exact movesBy_finalizedHead.mono fun _ _ => trivial
    | block hash => exact (movesBy_block hash).mono fun _ _ => trivial
    | _ => cases hkeeps

/-! ## The hash of a round -/

/-- How a call for the hash of a round ends by a step from `c` to `c'`, where it had left the chain
as `left` by its step before: it finds the round and revives it, or it did not find it, asked for
it, and puts it. -/
inductive HashEnds (served : UInt64 → Option Block) (round : UInt64) (left : Chain) :
    (made : List (Exchange Client)) → (c c' : Chain) → Except ApiError BlockHash → Prop
  | refused {made : List (Exchange Client)} {c c' : Chain} (e : ApiError) :
    HashEnds served round left made c c' (.error e)
  | known {c c' : Chain} {hash : BlockHash} (hof : c.registry.hashOf? round = some hash)
    (h : c'.registry = (c.registry.revive round).2) :
    HashEnds served round left [] c c' (.ok hash)
  | fetched {made : List (Exchange Client)} {c c' : Chain} {hash : BlockHash} {block : Block}
    (hmade : made ≠ []) (hleft : Held served left.registry)
    (hof : left.registry.hashOf? round = none) (hfetched : Fetched served hash round block)
    (h : c'.registry = c.registry.put hash round block) :
    HashEnds served round left made c c' (.ok hash)

/-- The one step of fetching the block of a round. -/
theorem run_fetch_eq (round : UInt64) :
    (fetch round).run = .ask (.block round) fun answer =>
      .done ((accept round answer).map fun block =>
        (deriveHash block.genesisHash round, block)) := by
  refine congrArg (Task.ask _) (funext fun answer => ?_)
  change Except ClientError Block at answer
  cases answer with
  | error e => rfl
  | ok block =>
    change (if block.round = round then pure (deriveHash block.genesisHash round, block)
      else throw _ : Attempt Chain Client (BlockHash × Block)).run = _
    by_cases hround : block.round = round
    · rw [accept, if_pos hround, if_pos hround]
      rfl
    · rw [accept, if_neg hround, if_neg hround]
      rfl

/-- What is left of a call for the hash of a round once the node has answered. -/
def registering (round : UInt64) (answer : Except ClientError Block) :
    Task Chain Client (Except ApiError BlockHash) :=
  match accept round answer with
  | .error e => .done (.error e)
  | .ok block =>
    .act (fun c => { c with
      registry := c.registry.put (deriveHash block.genesisHash round) round block })
      fun _ => .done (.ok (deriveHash block.genesisHash round))

/-- What is left of a call for the hash of a round that goes to the registry. -/
def resolving (round : UInt64) : Task Chain Client (Except ApiError BlockHash) :=
  .act (fun c => { c with registry := (c.registry.revive round).2 }) fun c =>
    match (c.registry.revive round).1 with
    | some hash => .done (.ok hash)
    | none => .ask (.block round) (registering round)

/-- The steps of a call for the hash of a round. -/
theorem run_blockHash_eq (round : BlockNumber) :
    (blockHash round).run = .act id fun c =>
      match c.connection.ensureActive (Method.name .blockHash) with
      | .error e => .done (.error e)
      | .ok () => resolving round := by
  refine congrArg (Task.act id) (funext fun c => ?_)
  beta_reduce
  cases c.connection.ensureActive (Method.name .blockHash) with
  | error e => rfl
  | ok _ =>
    refine congrArg (Task.act _) (funext fun c => ?_)
    beta_reduce
    cases (c.registry.revive round).1 with
    | some hash => rfl
    | none =>
      change (fetch round).run.bind (ExceptT.bindCont _) = _
      rw [run_fetch_eq]
      refine congrArg (Task.ask _) (funext fun answer => ?_)
      unfold registering
      beta_reduce
      cases accept round answer <;> rfl

/-- How a call for the hash of a round may end; as it is answered it ends only with an error. -/
def hashEndings (served : UInt64 → Option Block) (round : UInt64) :
    Endings Chain Client (Except ApiError BlockHash) :=
  ⟨HashEnds served round, fun result => ∃ e, result = .error e⟩

/-- A call that got its answer puts the block in its one remaining step, or ends at once with an
error. -/
theorem proceeds_registering {round : UInt64} {left : Chain} {made : List (Exchange Client)}
    (hmade : made ≠ []) (hleft : Held served left.registry)
    (hof : left.registry.hashOf? round = none) {answer : Except ClientError Block}
    (hanswer : GivesFrom served (.block round) answer) :
    (∀ ended, registering round answer = .done ended → ∃ e, ended = .error e) ∧
      (registering round answer).Proceeds (termsFrom served) StepRetiresPinned
        (hashEndings served round) left made := by
  unfold registering
  cases haccept : accept round answer with
  | error e => exact ⟨fun _ hended => ⟨e, (Task.done.inj hended).symm⟩, trivial⟩
  | ok block =>
    obtain ⟨rfl, hround⟩ := accept_eq_ok.mp haccept
    have hfetched : Fetched served (deriveHash block.genesisHash round) round block :=
      ⟨hanswer block rfl, hround, rfl⟩
    refine ⟨fun _ hended => (nomatch hended), fun c hc => ?_⟩
    obtain ⟨hheld, hretires⟩ := Held.perform hc (.put _ round block)
      fun _ _ _ h => hfetched.of_placement h
    refine ⟨hheld, hretires, fun ended hended => ?_, trivial⟩
    obtain rfl := Task.done.inj hended
    exact .fetched hmade hleft hof hfetched rfl

/-- A call for the hash of a round ends in one of the ways it may end. -/
theorem proceeds_blockHash (round : BlockNumber) (left : Chain) :
    (blockHash round).run.Proceeds (termsFrom served) StepRetiresPinned (hashEndings served round)
      left [] := by
  rw [run_blockHash_eq]
  intro c hc
  refine ⟨hc, .of_eq rfl, ?_⟩
  beta_reduce
  cases c.connection.ensureActive (Method.name .blockHash) with
  | error e =>
    refine ⟨fun ended hended => ?_, trivial⟩
    obtain rfl := Task.done.inj hended
    exact .refused e
  | ok _ =>
    refine ⟨fun _ hended => (nomatch hended), fun c hc => ?_⟩
    obtain ⟨hheld, hretires⟩ := Held.perform hc (.revive round) fun _ _ _ h => nomatch h
    refine ⟨hheld, hretires, ?_⟩
    beta_reduce
    cases hof : c.registry.hashOf? round with
    | some hash =>
      rw [Registry.revive_of_hashOf?_eq_some hof]
      refine ⟨fun ended hended => ?_, trivial⟩
      obtain rfl := Task.done.inj hended
      refine .known hof ?_
      rw [Registry.revive_of_hashOf?_eq_some hof]
    | none =>
      rw [Registry.revive_of_hashOf?_eq_none hof]
      refine ⟨fun _ hended => (nomatch hended), fun answer hanswer => ?_⟩
      exact proceeds_registering (by simp) hc hof hanswer

/-- How an invocation may end, of which nothing is known but for calls for the hash of a round. -/
def endingsFrom (served : UInt64 → Option Block) :
    (invocation : Invocation) → Endings Chain Client invocation.Answer
  | .direct (.blockHash round) => hashEndings served round
  | _ => .any

/-- An invocation ends in one of the ways it may end, whatever it asks for. -/
theorem proceeds_invoke (invocation : Invocation) (left : Chain) :
    (api.invoke invocation).Proceeds (termsFrom served) StepRetiresPinned
      (endingsFrom served invocation) left [] := by
  have hmoves : (api.invoke invocation).Moves (termsFrom served) StepRetiresPinned fun _ => True :=
    moves_invoke moves_api invocation
  cases invocation with
  | byName name parameters => exact hmoves.proceeds left []
  | direct call =>
    cases call with
    | blockHash round => exact proceeds_blockHash round left
    | _ => exact hmoves.proceeds left []

/-! ## The block of the hash that was given -/

/-- What a call for the block of a registered hash is answered. -/
theorem answer_block {κ : Type} (server : Server Client κ) (k : κ) {c : Chain}
    (hheld : Held served c.registry) {round : UInt64} {hash : BlockHash}
    (hof : c.registry.hashOf? round = some hash) :
    let answer := (attempt server (block hash) c k).1
    (answer = .error (.missingBlock hash) ↔
      c.connection.state = .active ∧ c.registry.slot hash = .retired) ∧
    (c.connection.state = .active → c.registry.slot hash ≠ .retired →
      ∃ block, answer = .ok block ∧ block.hash = hash ∧ block.number = round) := by
  intro answer
  by_cases hactive : c.connection.state = .active
  · obtain ⟨known, hget⟩ := Registry.hashOf?_eq_some.mp hof
    have hfetched := hheld.fetched round hash known hget
    have hentry := hheld.sound.entry?_eq_some.mpr ⟨hget, rfl⟩
    have hanswer : answer = if c.registry.slot hash = .retired then .error (.missingBlock hash)
        else .ok known.signed := by
      simp only [answer, attempt_block server k hactive, hentry]
      cases c.registry.slot hash <;> rfl
    have hserved : known.signed.hash = hash ∧ known.signed.number = round := by
      refine ⟨?_, hfetched.numbered⟩
      rw [hfetched.derived, ← hfetched.numbered]
      rfl
    rw [hanswer]
    by_cases hretired : c.registry.slot hash = .retired
    · simp [hretired, hactive]
    · rw [if_neg hretired]
      exact ⟨by simp [hretired], fun _ _ => ⟨_, rfl, hserved⟩⟩
  · have hanswer : answer = .error (.notConnected (Method.name .block) c.connection.state) :=
      congrArg Prod.fst (attempt_guarded server k hactive .block _)
    rw [hanswer]
    simp [hactive]

/-- Whether a hash was pinned in one of some states, the last one first, and not in the next. -/
def Superseded (hash : BlockHash) (passed : List Chain) : Prop :=
  ∃ c c', [c', c] <:+: passed ∧ c.registry.pinned = some hash ∧ c'.registry.pinned ≠ some hash

/-- A hash that was not registered and is retired now was pinned and superseded in between. -/
theorem superseded_of_passed {left c : Chain} {since : List Chain} {hash : BlockHash}
    (hleft : Held served left.registry) (hgone : left.registry.contains hash = false)
    (hpassed : Passed StepRetiresPinned left since c)
    (hretired : c.registry.retired = some hash) : Superseded hash since := by
  have hfirst : left.registry.retired ≠ some hash := by
    intro hold
    rw [hleft.slots.retired_live hash hold] at hgone
    cases hgone
  obtain ⟨s, s', hinfix, hstep, hnot, hnow⟩ := hpassed.exists_turn
    (P := fun c => c.registry.retired = some hash) hfirst hretired
  obtain hold | hsuperseded := hstep hash hnow
  · exact absurd hold hnot
  · exact ⟨s, s', hinfix, hsuperseded⟩

/-- What is known of the registry when a call for the hash of a round has ended with a hash. -/
theorem HashEnds.registered {round : UInt64} {left c c' : Chain} {made : List (Exchange Client)}
    {since : List Chain} {hash : BlockHash} (happart : DerivesApart served)
    (h : HashEnds served round left made c c' (.ok hash)) (hheld : Held served c.registry)
    (hpassed : Passed StepRetiresPinned left since c) :
    Held served c'.registry ∧ c'.registry.hashOf? round = some hash ∧
      (c'.registry.slot hash = .retired ↔ made ≠ [] ∧ c.registry.slot hash = .retired) ∧
      (c'.registry.slot hash = .retired → Superseded hash since) := by
  cases h with
  | known hof heq =>
    have hrevived := (hheld.perform (.revive round) fun _ _ _ h => nomatch h).1
    change Held served (c.registry.revive round).2 at hrevived
    have hnot := Registry.slot_revive_ne_retired hof
    rw [heq]
    refine ⟨hrevived, ?_, by simp [hnot], fun h => absurd h hnot⟩
    rw [Registry.revive_of_hashOf?_eq_some hof]
    exact hof
  | @fetched _ _ _ _ block hmade hleft hof hfetched heq =>
    obtain ⟨hput, hregistered, hslot⟩ := hheld.put hfetched
    rw [heq]
    refine ⟨hput, hregistered, by simp [hslot, hmade], fun hretired => ?_⟩
    rw [hslot, Registry.slot_eq_retired] at hretired
    -- the round was not registered when it was looked up
    have hgone := hleft.not_contains happart hfetched hof
    exact superseded_of_passed hleft hgone hpassed hretired.2

/-- Whenever a call for the hash of a round ends with a hash, then right after the step by which it
does the hash is live, whatever calls and calls by name go on at the same time, and whatever a node
answers that gives one block for a round.  The hash is in the retired slot exactly if the call had
to ask for the block and the hash was in this slot when it put it; then the hash was pinned and
superseded while the call waited.  A call for its block that is made next fails for a missing block
exactly if the hash is in the retired slot, and else is served. -/
theorem served_unless_superseded (happart : DerivesApart served)
    {before after : List (Caller Chain Client)} {round : BlockNumber}
    {rest : Task Chain Client (Invocation.Answer (.direct (.blockHash round)))}
    {made : List (Exchange Client)} {since : List Chain} {c c' : Chain}
    (h : Interleaved api (GivesFrom served) initial
      (before ++ ⟨⟨.direct (.blockHash round), rest⟩, made, since⟩ :: after) c)
    {hash : BlockHash}
    (hstep : rest.StepsTo (GivesFrom served) c
      (.done (Except.ok hash : Except ApiError BlockHash)) c')
    {κ : Type} (server : Server Client κ) (k : κ) :
    let answer : Except ApiError SignedBlock := ((api (.block hash)).run server c' k).1
    c'.registry.contains hash = true ∧
    (c'.registry.slot hash = .retired ↔ made ≠ [] ∧ c.registry.slot hash = .retired) ∧
    (c'.registry.slot hash = .retired → Superseded hash since) ∧
    (answer = .error (.missingBlock hash) ↔
      c'.connection.state = .active ∧ c'.registry.slot hash = .retired) ∧
    (c'.connection.state = .active → c'.registry.slot hash ≠ .retired →
      ∃ block, answer = .ok block ∧ block.hash = hash ∧ block.number = round) := by
  intro answer
  have hinitial : (termsFrom served).state initial := held_empty served
  obtain ⟨hheld, left, hpassed, hends⟩ | ⟨e, he⟩ :=
    Interleaved.ends h hinitial proceeds_invoke hstep
  · obtain ⟨hheld', hof, hslot, hsuperseded⟩ := HashEnds.registered happart hends hheld hpassed
    have hlive := hheld'.sound.contains_iff.mpr ⟨round, hof⟩
    exact ⟨hlive, hslot, hsuperseded, answer_block server k hheld' hof⟩
  · cases he

end Chain

/-! ## A call that waits while the head moves on -/

/-- Two rounds. -/
def twoRounds (round : UInt64) : Option Block :=
  if round = 1 ∨ round = 2 then some (simulatedBlock round Simulation.testnetGenesis) else none

/-- The two rounds have different hashes. -/
theorem derivesApart_twoRounds : DerivesApart twoRounds := by
  have hne : deriveHash Simulation.testnetGenesis 1 ≠ deriveHash Simulation.testnetGenesis 2 := by
    decide +kernel
  intro round other block block' hblock hblock' hsame
  obtain ⟨hround, hblock⟩ := Option.ite_none_right_eq_some.mp hblock
  obtain ⟨hother, hblock'⟩ := Option.ite_none_right_eq_some.mp hblock'
  obtain rfl := Option.some.inj hblock
  obtain rfl := Option.some.inj hblock'
  obtain rfl | rfl := hround <;> obtain rfl | rfl := hother
  · rfl
  · exact absurd hsame hne
  · exact absurd hsame.symm hne
  · rfl

/-- A node that gives the blocks of a table and reports a last round. -/
def serving (served : UInt64 → Option Block) (last : UInt64) : Server Client Unit
  | .lastRound, k => (.ok last, k)
  | .block round, k =>
    match served round with
    | some block => (.ok block, k)
    | none => (.error (.notFound round), k)

/-- A node that serves a table gives nothing else. -/
theorem givesFrom_serving (served : UInt64 → Option Block) (last : UInt64) (query : Client.Query)
    (k : Unit) : GivesFrom served query (serving served last query k).1 := by
  cases query with
  | lastRound => trivial
  | block round =>
    intro block hblock
    change (serving served last (.block round) k).1 = Except.ok block at hblock
    simp only [serving] at hblock
    cases hround : served round with
    | none =>
      rw [hround] at hblock
      cases hblock
    | some given =>
      rw [hround] at hblock
      rw [Except.ok.inj hblock]

namespace Chain

/-- An api that was connected to a node of two rounds. -/
def connected : Chain := ((api.invoke (.direct .connect)).run (serving twoRounds 1) initial ()).2.1

/-- The state that asking for the head leaves, once for each of some last rounds. -/
def afterHeads (lasts : List UInt64) (c : Chain) : Chain :=
  lasts.foldl (fun c last =>
    ((api.invoke (.direct .finalizedHead)).run (serving twoRounds last) c ()).2.1) c

/-- While some callers wait, the head may be asked for any number of times, with any last rounds. -/
theorem interleaved_afterHeads {callers : List (Caller Chain Client)} {c : Chain}
    (h : Interleaved api (GivesFrom twoRounds) initial callers c) (lasts : List UInt64) :
    ∃ passed, Interleaved api (GivesFrom twoRounds) initial (callers.map (Caller.watch passed))
      (afterHeads lasts c) := by
  induction lasts generalizing callers c with
  | nil => exact ⟨[], by rwa [Caller.map_watch_nil]⟩
  | cons last lasts ih =>
    obtain ⟨passed, hrun⟩ :=
      h.run (serving twoRounds last) (givesFrom_serving twoRounds last) () (.direct .finalizedHead)
    obtain ⟨later, hrest⟩ := ih hrun
    rw [Caller.map_watch_map_watch] at hrest
    exact ⟨_, hrest⟩

/-- A call for the hash of a round that is not registered comes to its question without a change. -/
theorem run_toQuestion_blockHash {κ : Type} (server : Server Client κ) (k : κ) {c : Chain}
    (hactive : c.connection.state = .active) {round : BlockNumber}
    (hof : c.registry.hashOf? round = none) :
    (blockHash round).run.toQuestion.run server c k =
      (.ask (.block round) (registering round), c, k) := by
  rw [run_blockHash_eq]
  simp only [toQuestion, Task.run, id_eq, Connection.ensureActive, hactive, resolving,
    Registry.revive_of_hashOf?_eq_none hof]

/-- The first of two rounds. -/
def firstBlock : Block := simulatedBlock 1 Simulation.testnetGenesis

/-- A call for the hash of round 1 that has got the block, after the head was asked for while it
waited. -/
theorem interleaved_waiting (lasts : List UInt64) :
    ∃ since, Interleaved api (GivesFrom twoRounds) initial
      [⟨⟨.direct (.blockHash 1), registering 1 (.ok firstBlock)⟩, [⟨.block 1, .ok firstBlock⟩],
        since⟩] (afterHeads lasts connected) := by
  let server := serving twoRounds 1
  have hinitial : Interleaved api (GivesFrom twoRounds) initial [] initial := .initial
  obtain ⟨_, hconnected⟩ :=
    hinitial.run server (givesFrom_serving twoRounds 1) () (.direct .connect)
  obtain ⟨_, since, hasked⟩ := (hconnected.begin (.direct (.blockHash 1))).toQuestion server ()
  have hrun : (api.invoke (.direct (.blockHash 1))).toQuestion.run server connected () =
      (.ask (.block 1) (registering 1), connected, ()) :=
    run_toQuestion_blockHash server () rfl rfl
  unfold connected at hrun
  rw [hrun] at hasked
  obtain ⟨passed, hmoved⟩ := interleaved_afterHeads hasked lasts
  exact ⟨passed ++ since, .answer [] hmoved (.ok firstBlock) (givesFrom_serving twoRounds 1 _ ())⟩

/-- The step by which a call for the hash of round 1 puts the block. -/
theorem stepsTo_registering (c : Chain) :
    (registering 1 (.ok firstBlock)).StepsTo (GivesFrom twoRounds) c
      (.done (Except.ok firstBlock.hash : Except ApiError BlockHash))
      { c with registry := c.registry.put firstBlock.hash 1 firstBlock } :=
  .act _ _ c

/-- A call for the hash of round 1 waits while round 1 becomes the head and is then superseded; the
hash that it gives is in the retired slot, and its block is missing to the call made next. -/
theorem retired_of_superseded :
    let hash := firstBlock.hash
    let c := afterHeads [1, 2] connected
    let c' : Chain := { c with registry := c.registry.put hash 1 firstBlock }
    DerivesApart twoRounds ∧
      (∃ since, Interleaved api (GivesFrom twoRounds) initial
        [⟨⟨.direct (.blockHash 1), registering 1 (.ok firstBlock)⟩, [⟨.block 1, .ok firstBlock⟩],
          since⟩] c) ∧
      (registering 1 (.ok firstBlock)).StepsTo (GivesFrom twoRounds) c
        (.done (Except.ok hash : Except ApiError BlockHash)) c' ∧
      c'.registry.slot hash = .retired ∧
      (Call.block hash).error? ((api (.block hash)).run (serving twoRounds 2) c' ()).1 =
        some (.missingBlock hash) := by
  refine ⟨derivesApart_twoRounds, interleaved_waiting [1, 2], stepsTo_registering _, ?_⟩
  decide +kernel

/-- A call for the hash of round 1 waits while round 1 becomes the head; the hash that it gives is
pinned, and its block is served. -/
theorem served_unless_superseded_pinned :
    let hash := firstBlock.hash
    let c := afterHeads [1] connected
    let c' : Chain := { c with registry := c.registry.put hash 1 firstBlock }
    DerivesApart twoRounds ∧ c'.registry.slot hash = .pinned ∧
      ∃ block : SignedBlock,
        ((api (.block hash)).run (serving twoRounds 1) c' ()).1 =
          (.ok block : Except ApiError SignedBlock) ∧ block.hash = hash ∧ block.number = 1 := by
  intro hash c c'
  obtain ⟨hpinned, hactive⟩ : c'.registry.slot hash = .pinned ∧
      c'.connection.state = .active := by
    decide +kernel
  obtain ⟨_, hwaiting⟩ := interleaved_waiting [1]
  change Interleaved api _ initial ([] ++ _ :: []) _ at hwaiting
  obtain ⟨-, -, -, -, hserved⟩ := served_unless_superseded derivesApart_twoRounds hwaiting
    (stepsTo_registering c) (serving twoRounds 1) ()
  exact ⟨derivesApart_twoRounds, hpinned, hserved hactive (by rw [hpinned]; simp)⟩

end Chain

end ChainIndex.Algod
