import ChainIndex.Proofs.Algod.Headers
import ChainIndex.Proofs.Algod.Leads

/-!
# ChainIndex.Proofs.Algod.Head

How long a finalized head is served.

A head that was given is served until another one is given, whatever else is called and
however the node behaves.  From then on its header is still there and its block is not,
until its round is asked for again or a third head is given.  Both follow from what a single
call does to the store behind the chain (`Rounds.Leads`), once for a store in which a round
is pinned and once for one in which it was pinned before.
-/

namespace ChainIndex.Algod

open ChainIndex.Task

/-! ## Stores with a head -/

/-- Two stored rounds with the same hash are the same. -/
theorem Mirrors.eq_of_hash {r : Registry Block} {m : Rounds} {seen : List Block}
    (h : Mirrors r m seen) {n n' : UInt64} {block block' : Block} (hn : m.store.get? n = some block)
    (hn' : m.store.get? n' = some block') (hhash : block.hash = block'.hash) :
    n = n' ∧ block = block' := by
  have hfound := h.find?_eq_some.mpr ⟨hn, hhash⟩
  rw [h.find?_eq_some.mpr ⟨hn', rfl⟩] at hfound
  obtain ⟨rfl, rfl⟩ := Prod.mk.inj (Option.some.inj hfound)
  exact ⟨rfl, rfl⟩

namespace Rounds

/-- A store in which a round is pinned. -/
structure Pins (m : Rounds) (round : UInt64) (tip : Block) : Prop where
  pinned : m.pinned = some round
  stored : m.store.get? round = some tip

/-- A store in which a round was pinned before the one that is. -/
structure Retires (m : Rounds) (round : UInt64) (tip : Block) (next : UInt64) (successor : Block) :
    Prop where
  pins : m.Pins next successor
  retired : m.retired = some round
  stored : m.store.get? round = some tip

variable {m m' : Rounds} {r : Registry Block} {seen : List Block} {round next : UInt64}
  {tip successor block : Block} {x : Exchange Calls}

@[simp] theorem store_revive (m : Rounds) (n : UInt64) : (m.revive n).store = m.store := by
  unfold revive
  split <;> rfl

@[simp] theorem pinned_revive (m : Rounds) (n : UInt64) : (m.revive n).pinned = m.pinned := by
  unfold revive
  split <;> rfl

/-- A pinned round is where it was pinned. -/
theorem get?_pin (h : ∀ n, m.pinned = some n → m.store.contains n = true)
    (hknown : ∀ known, m.store.get? round = some known → known = block) :
    (m.pin round block).store.get? round = some block := by
  by_cases hpinned : m.pinned = some round
  · rw [pin_of_pinned hpinned]
    obtain ⟨known, hget⟩ := Option.isSome_iff_exists.mp (h round hpinned)
    rw [hget, hknown known hget]
  · rw [get?_store_pin hpinned, if_pos rfl]

namespace Pins

/-- Adding a round that is not stored. -/
theorem add (hp : m.Pins round tip) {n : UInt64} (hn : m.store.get? n = none) (block : Block) :
    (m.add n block).Pins round tip := by
  refine ⟨hp.pinned, ?_⟩
  have hne : round ≠ n := by
    rintro rfl
    rw [hp.stored] at hn
    cases hn
  rw [Rounds.add, Table.get?_insert, if_neg hne]
  exact hp.stored

/-- Dropping a round leaves another one pinned. -/
theorem drop (hp : m.Pins round tip) {n : UInt64} (hn : m.pinned ≠ some n) :
    (m.drop n).Pins round tip := by
  refine ⟨hp.pinned, ?_⟩
  have hne : round ≠ n := fun e => hn (e ▸ hp.pinned)
  rw [Rounds.drop, Table.get?_erase, if_neg hne]
  exact hp.stored

/-- Reviving a round leaves the pinned one pinned. -/
theorem revive (hp : m.Pins round tip) (n : UInt64) : (m.revive n).Pins round tip :=
  ⟨(pinned_revive m n).trans hp.pinned, by rw [store_revive]; exact hp.stored⟩

/-- Pinning a round with the hash of the pinned one changes nothing. -/
theorem pin_eq (hp : m.Pins round tip) {n : UInt64} (h : Mirrors r (m.pin n block) seen)
    (hhash : block.hash = tip.hash) : m.pin n block = m := by
  by_cases hpinned : m.pinned = some n
  · exact pin_of_pinned hpinned block
  · have hne : round ≠ n := fun e => hpinned (e ▸ hp.pinned)
    have hnew : (m.pin n block).store.get? n = some block := by
      rw [get?_store_pin hpinned, if_pos rfl]
    have hold : (m.pin n block).store.get? round = some tip := by
      rw [get?_store_pin hpinned, if_neg hne, if_pos hp.pinned]
      exact hp.stored
    exact absurd (h.eq_of_hash hold hnew hhash.symm).1 hne

end Pins

/-! ## One call -/

/-- The call that gives a head pins a round. -/
theorem Leads.of_head (h : m.Leads x m') {head : BlockHash} (hx : headGiven? x = some head) :
    ∃ n block, block.hash = head ∧ m' = m.pin n block ∧
      ∀ known, m.store.get? n = some known → known = block := by
  cases h with
  | same hnone =>
    rw [hnone] at hx
    cases hx
  | pin hknown => exact ⟨_, _, Option.some.inj hx, rfl, hknown⟩
  | revive => cases hx
  | add => cases hx
  | drop => cases hx

/-- A pinned round stays pinned as long as no other head is given. -/
theorem Leads.pins (h : m.Leads x m') (hmirrors : Mirrors r m' seen) (hp : m.Pins round tip)
    (hx : ∀ head, headGiven? x = some head → head = tip.hash) : m'.Pins round tip := by
  cases h with
  | same => exact hp
  | revive => exact hp.revive _
  | add hn => exact hp.add hn _
  | drop hpinned => exact hp.drop hpinned
  | pin =>
    rw [hp.pin_eq hmirrors (hx _ rfl)]
    exact hp

/-- As another head is given, a pinned round becomes the one that was pinned before. -/
theorem Leads.retires (h : m.Leads x m') (hp : m.Pins round tip) {head : BlockHash}
    (hx : headGiven? x = some head) (hne : head ≠ tip.hash) :
    ∃ next successor, successor.hash = head ∧ m'.Retires round tip next successor := by
  obtain ⟨next, successor, rfl, rfl, hknown⟩ := h.of_head hx
  have hother : round ≠ next := by
    rintro rfl
    exact hne (congrArg Block.hash (hknown tip hp.stored)).symm
  have hpinned : m.pinned ≠ some next := by
    rw [hp.pinned]
    exact fun e => hother (Option.some.inj e)
  refine ⟨next, successor, rfl, ⟨pinned_pin m next successor, ?_⟩, ?_, ?_⟩
  · rw [get?_store_pin hpinned, if_pos rfl]
  · rw [retired_pin hpinned, hp.pinned]
  · rw [get?_store_pin hpinned, if_neg hother, if_pos hp.pinned]
    exact hp.stored

/-- A round that was pinned before stays so as long as it is not asked for and no other head
is given than the pinned one. -/
theorem Leads.keeps_retired (h : m.Leads x m') (hmirrors : Mirrors r m' seen)
    (hr : m.Retires round tip next successor)
    (hx : ∀ head, headGiven? x = some head → head = successor.hash)
    (hasked : ¬ GivesHashOf round x) :
    m'.Retires round tip next successor := by
  cases h with
  | same => exact hr
  | @revive n block hn =>
    have hne : m.retired ≠ some n := by
      rw [hr.retired]
      rintro e
      obtain rfl := Option.some.inj e
      exact hasked ⟨_, rfl⟩
    rw [Rounds.revive, if_neg hne]
    exact hr
  | @add n block hn =>
    refine ⟨hr.pins.add hn _, hr.retired, ?_⟩
    have hne : round ≠ n := by
      rintro rfl
      rw [hr.stored] at hn
      cases hn
    rw [Rounds.add, Table.get?_insert, if_neg hne]
    exact hr.stored
  | @drop _ _ n hpinned hretired =>
    refine ⟨hr.pins.drop hpinned, hr.retired, ?_⟩
    have hne : round ≠ n := fun e => hretired (e ▸ hr.retired)
    rw [Rounds.drop, Table.get?_erase, if_neg hne]
    exact hr.stored
  | pin =>
    rw [hr.pins.pin_eq hmirrors (hx _ rfl)]
    exact hr

end Rounds

/-! ## What is answered -/

variable {κ : Type} {server : Server Client κ} {s : Session Chain Client κ} {m : Rounds}
  {round next : UInt64} {tip successor : Block}

section

variable (h : Backed s m) (hactive : s.state.connection.state = .active)
include h hactive

/-- The header of every stored round is served. -/
theorem header_of_stored (hn : m.store.get? round = some tip) :
    (s.call Chain.api server (.header tip.hash)).1 = .ok tip.header := by
  have hget := h.get?_eq tip.hash
  rw [h.find?_eq_some.mpr ⟨hn, rfl⟩] at hget
  exact header_of_get? hactive hget

/-- A hash that no stored block has is not found. -/
theorem header_of_not_stored {hash : BlockHash}
    (hnone : ∀ n block, m.store.get? n = some block → block.hash ≠ hash) :
    (s.call Chain.api server (.header hash)).1 = .error (.missingBlock hash) := by
  change (attempt server.recording (Chain.header hash) s.state (s.node, s.record)).1 = _
  rw [Chain.attempt_header server.recording _ hactive, h.get?_eq]
  cases hfound : m.find? hash with
  | none => rfl
  | some found =>
    obtain ⟨hn, hhash⟩ := h.find?_eq_some.mp hfound
    exact absurd hhash (hnone _ _ hn)

/-- The block of a stored round is served unless the round is retired. -/
theorem block_of_stored (hn : m.store.get? round = some tip) (hretired : m.retired ≠ some round) :
    (s.call Chain.api server (.block tip.hash)).1 = .ok tip.signed := by
  have halike : Alike s.state.connection
      (attempt server.recording (Chain.block tip.hash) s.state (s.node, s.record))
      (attempt server.recording (Rounds.block tip.hash) m (s.node, s.record)) :=
    block_alike h hactive tip.hash
  refine halike.answer.trans ?_
  rw [Rounds.attempt_block, h.find?_eq_some.mpr ⟨hn, rfl⟩]
  simp only
  by_cases hpinned : m.pinned = some round
  · rw [if_pos hpinned]
  · have hmem := (h.transient round).mpr ⟨Table.contains_of_get? hn, hpinned, hretired⟩
    rw [if_neg hpinned, if_pos hmem]

/-- A block of a retired round is not served. -/
theorem block_of_retired (hn : m.store.get? round = some tip) (hretired : m.retired = some round) :
    (s.call Chain.api server (.block tip.hash)).1 = .error (.missingBlock tip.hash) := by
  have halike : Alike s.state.connection
      (attempt server.recording (Chain.block tip.hash) s.state (s.node, s.record))
      (attempt server.recording (Rounds.block tip.hash) m (s.node, s.record)) :=
    block_alike h hactive tip.hash
  refine halike.answer.trans ?_
  have hmem : round ∉ m.transient := fun hmem => ((h.transient round).mp hmem).2.2 hretired
  rw [Rounds.attempt_block, h.find?_eq_some.mpr ⟨hn, rfl⟩]
  simp only
  rw [if_neg (h.retired_ne round hretired), if_neg hmem]

/-- The hash of a stored round is given without asking the node. -/
theorem blockHash_of_stored (hn : m.store.get? round = some tip) :
    ∃ after, s.call Chain.api server (.blockHash round) = (.ok tip.hash, after) ∧
      after.state.connection.state = .active ∧ Backed after (m.revive round) := by
  have hcall : s.call Chain.api server (.blockHash round) = (.ok tip.hash,
      { s with state := { s.state with registry := (s.state.registry.revive round).2 } }) := by
    refine Session.call_eq_of_run server ?_
    refine (Chain.attempt_blockHash server.recording _ hactive round).trans ?_
    rw [h.hashOf?_of_stored hn]
    rfl
  exact ⟨_, hcall, hactive, h.revive hn⟩

/-- Asked for the head while the pinned round is still the last one, a chain gives its hash and
changes nothing. -/
theorem finalizedHead_of_pinned (hp : m.Pins round tip) {node : κ}
    (hlast : server .lastRound s.node = (.ok round, node)) :
    s.call Chain.api server .finalizedHead =
      (.ok tip.hash, ⟨s.state, node, s.record ++ [⟨.lastRound, .ok round⟩]⟩) := by
  have hof := h.hashOf?_of_stored hp.stored
  have hpinned : s.state.registry.pinned = some tip.hash := (h.pinned_iff hp.stored).mpr hp.pinned
  refine Session.call_eq_of_run server ?_
  refine (Chain.attempt_finalizedHead server.recording _ hactive).trans ?_
  simp only [recording_apply, hlast]
  rw [Registry.pinNumber_of_pinned h.sound hof hpinned]
  rfl

end

/-! ## Heads -/

/-- How a chain in use answers for a head that was given last, for the round `round`. -/
structure HeadServed (server : Server Client κ) (s : Session Chain Client κ) (round : UInt64)
    (tip : Block) : Prop where
  header : (s.call Chain.api server (.header tip.hash)).1 = .ok tip.header
  block : (s.call Chain.api server (.block tip.hash)).1 = .ok tip.signed
  /-- The same head is given again, after one question and without any change. -/
  again : ∀ node, server .lastRound s.node = (.ok round, node) →
    s.call Chain.api server .finalizedHead =
      (.ok tip.hash, ⟨s.state, node, s.record ++ [⟨.lastRound, .ok round⟩]⟩)

/-- How a chain in use answers for a head, given for the round `round`, since another one was
given. -/
structure HeadReplaced (server : Server Client κ) (s : Session Chain Client κ) (round : UInt64)
    (tip successor : Block) : Prop where
  served : (s.call Chain.api server (.block successor.hash)).1 = .ok successor.signed
  missing : (s.call Chain.api server (.block tip.hash)).1 = .error (.missingBlock tip.hash)
  header : (s.call Chain.api server (.header tip.hash)).1 = .ok tip.header
  /-- The block is served once its hash was asked for again. -/
  revived : ∃ after, s.call Chain.api server (.blockHash round) = (.ok tip.hash, after) ∧
    (after.call Chain.api server (.block tip.hash)).1 = .ok tip.signed
  /-- The block is served once it is the head again, and a third head drops it. -/
  moved : ∀ third, (s.call Chain.api server .finalizedHead).1 = .ok third →
    let after := (s.call Chain.api server .finalizedHead).2
    HashedApart (blocksSeen after.record) →
    (third = tip.hash → (after.call Chain.api server (.block tip.hash)).1 = .ok tip.signed) ∧
    (third ≠ tip.hash → third ≠ successor.hash →
      (after.call Chain.api server (.header tip.hash)).1 = .error (.missingBlock tip.hash))

/-- A chain whose pinned round is the head answers for it as a head is answered for. -/
theorem headServed_of_pins (h : Backed s m) (hactive : s.state.connection.state = .active)
    (hp : m.Pins round tip) : HeadServed server s round tip where
  header := header_of_stored h hactive hp.stored
  block := block_of_stored h hactive hp.stored fun e => h.retired_ne round e hp.pinned
  again := fun _ => finalizedHead_of_pinned h hactive hp

/-- Of the rounds that were seen, the store behind a chain holds one with a given hash. -/
theorem Backed.eq_of_seen (h : Backed s m) (hapart : HashedApart (blocksSeen s.record))
    (hn : m.store.get? next = some successor) (hseen : tip ∈ blocksSeen s.record)
    (hround : tip.round = round) (hhash : successor.hash = tip.hash) : next = round := by
  obtain ⟨hsuccessor, hmem⟩ := h.stored next successor hn
  by_contra hne
  rw [← hround, ← hsuccessor] at hne
  exact hapart successor hmem tip hseen hne hhash

/-- A block that was seen in part of a record was seen in the whole. -/
theorem mem_blocksSeen_of_prefix {record more : List (Exchange Client)} (hgrown : record <+: more)
    {block : Block} (h : block ∈ blocksSeen record) : block ∈ blocksSeen more := by
  obtain ⟨rest, rfl⟩ := hgrown
  rw [blocksSeen_append]
  exact List.mem_append_left _ h

/-- What happens to a head, given before the last one, as the chain is asked for the head. -/
theorem moved_of_retires (h : Backed s m) (hactive : s.state.connection.state = .active)
    (hr : m.Retires round tip next successor) (hne : tip.hash ≠ successor.hash)
    {third : BlockHash} (hanswer : (s.call Chain.api server .finalizedHead).1 = .ok third)
    (hapart : HashedApart (blocksSeen (s.call Chain.api server .finalizedHead).2.record)) :
    let after := (s.call Chain.api server .finalizedHead).2
    (third = tip.hash → (after.call Chain.api server (.block tip.hash)).1 = .ok tip.signed) ∧
    (third ≠ tip.hash → third ≠ successor.hash →
      (after.call Chain.api server (.header tip.hash)).1 = .error (.missingBlock tip.hash)) := by
  intro after
  obtain ⟨m', hm', hleads⟩ := backed_call h .finalizedHead hapart
  have hconnection : after.state.connection = s.state.connection :=
    (finalizedHead_alike h hactive hapart).connection
  have hactive' : after.state.connection.state = .active := by rw [hconnection, hactive]
  rw [hanswer] at hleads
  obtain ⟨n, block, rfl, rfl, hknown⟩ := hleads.of_head rfl
  have hnew : (m.pin n block).store.get? n = some block := Rounds.get?_pin h.pinned_stored hknown
  constructor
  · intro hhash
    have hseen := mem_blocksSeen_of_prefix (s.prefix_call Chain.api server .finalizedHead)
      (h.stored round tip hr.stored).2
    obtain rfl := hm'.eq_of_seen hapart hnew hseen (h.stored round tip hr.stored).1 hhash
    obtain rfl := hknown tip hr.stored
    have hunpinned := h.retired_ne n hr.retired
    refine block_of_stored hm' hactive' hnew ?_
    rw [Rounds.retired_pin hunpinned]
    exact hunpinned
  · intro hold hother
    have hpinned : m.pinned ≠ some n := by
      rintro hpinned
      rw [hr.pins.pinned] at hpinned
      obtain rfl := Option.some.inj hpinned
      exact hother (congrArg Block.hash (hknown successor hr.pins.stored)).symm
    refine header_of_not_stored hm' hactive' fun n' block' hn' => ?_
    rw [Rounds.get?_store_pin hpinned] at hn'
    split at hn'
    · rw [← Option.some.inj hn']
      exact hold
    · split at hn'
      · next hkept =>
        rw [hr.pins.pinned] at hkept
        obtain rfl := Option.some.inj hkept
        rw [hr.pins.stored] at hn'
        rw [← Option.some.inj hn']
        exact hne.symm
      · cases hn'

/-- A chain in which another round is pinned answers for the former head as for a head that was
replaced. -/
theorem headReplaced_of_retires (h : Backed s m) (hactive : s.state.connection.state = .active)
    (hr : m.Retires round tip next successor) (hne : tip.hash ≠ successor.hash) :
    HeadReplaced server s round tip successor where
  served := block_of_stored h hactive hr.pins.stored fun e => h.retired_ne next e hr.pins.pinned
  missing := block_of_retired h hactive hr.stored hr.retired
  header := header_of_stored h hactive hr.stored
  revived := by
    obtain ⟨after, hcall, hactive', hbacked⟩ := blockHash_of_stored h hactive hr.stored
    have hstored : (m.revive round).store.get? round = some tip := by
      rw [Rounds.store_revive]
      exact hr.stored
    refine ⟨after, hcall, block_of_stored hbacked hactive' hstored ?_⟩
    rw [Rounds.revive, if_pos hr.retired]
    simp
  moved := fun _ hanswer hapart => moved_of_retires h hactive hr hne hanswer hapart

/-! ## Runs -/

/-- Behind a chain in use there is a store. -/
theorem backed_sessionAfter (node : κ) (before : List Call)
    (hapart : HashedApart (blocksSeen (Chain.sessionAfter server node before).record)) :
    ∃ m, Backed (Chain.sessionAfter server node before) m := by
  have hstart : Backed (Session.start Chain.initial node) .empty := Mirrors.empty _
  obtain ⟨m, hm, -⟩ := backed_calls (I := fun _ => True) (P := fun _ => True)
    (fun _ _ _ _ _ _ _ _ _ => trivial) hstart trivial before (fun _ _ => trivial) hapart
  exact ⟨m, hm⟩

/-- The store behind a chain pins the round whose block is registered with the pinned hash. -/
theorem pins_of_get? (h : Backed s m) {head : BlockHash}
    (hpinned : s.state.registry.pinned = some head)
    (hget : s.state.registry.get? head = some (round, tip)) : m.Pins round tip := by
  rw [h.get?_eq] at hget
  obtain ⟨hn, rfl⟩ := h.find?_eq_some.mp hget
  exact ⟨(h.pinned_iff hn).mp hpinned, hn⟩

/-- A round stays pinned through calls that give no other head. -/
theorem pins_calls (h : Backed s m) (hp : m.Pins round tip) (rest : List Call)
    (hheads : ∀ x ∈ (s.calls Chain.api server rest).1, ∀ given, headGiven? x = some given →
      given = tip.hash)
    (hapart : HashedApart (blocksSeen (s.calls Chain.api server rest).2.record)) :
    ∃ m', Backed (s.calls Chain.api server rest).2 m' ∧ m'.Pins round tip :=
  backed_calls (fun _ _ _ _ _ hx hmirrors hleads hp => hleads.pins hmirrors hp hx) h hp rest hheads
    hapart

/-- A round stays retired through calls that neither give its hash nor another head. -/
theorem retires_calls (h : Backed s m) (hr : m.Retires round tip next successor)
    (rest : List Call)
    (hcalls : ∀ x ∈ (s.calls Chain.api server rest).1, ¬ GivesHashOf round x ∧
      ∀ given, headGiven? x = some given → given = successor.hash)
    (hapart : HashedApart (blocksSeen (s.calls Chain.api server rest).2.record)) :
    ∃ m', Backed (s.calls Chain.api server rest).2 m' ∧ m'.Retires round tip next successor :=
  backed_calls (fun _ _ _ _ _ hx hmirrors hleads hr => hleads.keeps_retired hmirrors hr hx.2 hx.1)
    h hr rest hcalls hapart

/-- However the node behaves, a head that a chain gave for the last round is served until another
one is given, whatever else is called: its header and its block can be read any number of times,
and asking for the head while the node still reports the round gives it again without any change.
From the moment another head is given, that one is served, and the header of the old one can
still be read while its block cannot, until its round is asked for again, it is given as the
head again, or a third head drops it. -/
theorem head_served_until_replaced (server : Server Client κ) (node : κ) (before : List Call)
    (head : BlockHash)
    (hhead : ((Chain.sessionAfter server node before).call Chain.api server .finalizedHead).1 =
      .ok head) :
    let s := Chain.sessionAfter server node before
    ∃ round tip, (server .lastRound s.node).1 = .ok round ∧ tip.round = round ∧ tip.hash = head ∧
      ∀ meanwhile, let run := (s.call Chain.api server .finalizedHead).2.calls Chain.api server meanwhile
        (∀ x ∈ run.1, ∀ given, headGiven? x = some given → given = head) →
        (HashedApart (blocksSeen run.2.record) → run.2.state.connection.state = .active →
          HeadServed server run.2 round tip) ∧
        ∀ other, (run.2.call Chain.api server .finalizedHead).1 = .ok other → other ≠ head →
          ∃ successor, successor.hash = other ∧
            ∀ afterwards, let run' :=
                (run.2.call Chain.api server .finalizedHead).2.calls Chain.api server afterwards
              (∀ x ∈ run'.1, ¬ GivesHashOf round x ∧
                ∀ given, headGiven? x = some given → given = other) →
              HashedApart (blocksSeen run'.2.record) → run'.2.state.connection.state = .active →
                HeadReplaced server run'.2 round tip successor := by
  intro s
  have hs : Derived s.state.registry := derived_sessionAfter server node before
  have hgiven := derived_call server hs .finalizedHead
  obtain ⟨-, hpinned, round, hlast, hof⟩ := pinned_of_finalizedHead hs hhead
  obtain ⟨tip, hget, hround⟩ := hgiven.get?_of_hashOf? hof
  obtain rfl : tip.hash = head := (hgiven.describes hget).hash
  refine ⟨round, tip, hlast, hround, rfl, ?_⟩
  intro meanwhile run hheads
  have hkept : HashedApart (blocksSeen run.2.record) → ∃ m, Backed run.2 m ∧ m.Pins round tip := by
    intro hapart
    have hapart' := hapart.restrict (Session.prefix_calls _ _ _ meanwhile)
    obtain ⟨m₀, hm₀⟩ := backed_sessionAfter node before
      (hapart'.restrict (s.prefix_call Chain.api server .finalizedHead))
    obtain ⟨m, hm, -⟩ := backed_call hm₀ .finalizedHead hapart'
    exact pins_calls hm (pins_of_get? hm hpinned hget) meanwhile hheads hapart
  refine ⟨?_, ?_⟩
  · intro hapart hactive
    obtain ⟨m, hm, hp⟩ := hkept hapart
    exact headServed_of_pins hm hactive hp
  · intro other hother hne
    have hrun : Derived run.2.state.registry := derived_calls server hgiven meanwhile
    have hgiven' := derived_call server hrun .finalizedHead
    obtain ⟨-, -, next, -, hof'⟩ := pinned_of_finalizedHead hrun hother
    obtain ⟨successor, hget', -⟩ := hgiven'.get?_of_hashOf? hof'
    obtain rfl : successor.hash = other := (hgiven'.describes hget').hash
    refine ⟨successor, rfl, ?_⟩
    intro afterwards run' hcalls hapart hactive
    have hapart' := hapart.restrict (Session.prefix_calls _ _ _ afterwards)
    obtain ⟨m, hm, hp⟩ :=
      hkept (hapart'.restrict (run.2.prefix_call Chain.api server .finalizedHead))
    obtain ⟨m', hm', hleads⟩ := backed_call hm .finalizedHead hapart'
    rw [hother] at hleads
    obtain ⟨n, block, hhash, hr⟩ := hleads.retires hp rfl hne
    rw [hm'.get?_eq] at hget'
    obtain ⟨-, rfl⟩ := hm'.eq_of_hash hr.pins.stored (hm'.find?_eq_some.mp hget').1 hhash
    obtain ⟨m'', hm'', hr'⟩ := retires_calls hm' hr afterwards hcalls hapart
    exact headReplaced_of_retires hm'' hactive hr' hne.symm

/-- A node that reports one round more each time it is asked for the last one. -/
def advancing : Server Client UInt64
  | .lastRound, last => (.ok last, last + 1)
  | .block round, last => (.ok (simulatedBlock round Simulation.testnetGenesis), last)

/-- A head is served after the chain was connected anew, and then replaced by the next one. -/
theorem head_served_until_replaced_advancing :
    let s := Chain.sessionAfter advancing 4 [.connect]
    let head := deriveHash Simulation.testnetGenesis 5
    let other := deriveHash Simulation.testnetGenesis 7
    let run :=
      (s.call Chain.api advancing .finalizedHead).2.calls Chain.api advancing [.disconnect, .connect]
    let after := (run.2.call Chain.api advancing .finalizedHead).2
    (s.call Chain.api advancing .finalizedHead).1 = .ok head ∧
      (run.2.call Chain.api advancing .finalizedHead).1 = .ok other ∧
      ∃ tip : Block, tip.hash = head ∧
        (run.2.call Chain.api advancing (.block head)).1 = .ok tip.signed ∧
        (after.call Chain.api advancing (.block head)).1 = .error (.missingBlock head) ∧
        (after.call Chain.api advancing (.header head)).1 = .ok tip.header := by
  intro s head other run after
  -- all at once, so that no hash is worked out twice
  obtain ⟨hhead, hother, hapart, hne, hactive, hactive'⟩ :
      headGiven? ⟨.finalizedHead, (s.call Chain.api advancing .finalizedHead).1⟩ = some head ∧
        headGiven? ⟨.finalizedHead, (run.2.call Chain.api advancing .finalizedHead).1⟩ =
          some other ∧
        HashedApart (blocksSeen after.record) ∧ other ≠ head ∧
        run.2.state.connection.state = .active ∧ after.state.connection.state = .active := by
    decide +kernel
  replace hhead := headGiven?_eq_some.mp hhead
  replace hother := headGiven?_eq_some.mp hother
  have hheads : ∀ x ∈ run.1, ∀ given, headGiven? x = some given → given = head := by
    simp [run, headGiven?]
  have hapart' := hapart.restrict (run.2.prefix_call Chain.api advancing .finalizedHead)
  refine ⟨hhead, hother, ?_⟩
  obtain ⟨round, tip, -, -, hhash, hrest⟩ :=
    head_served_until_replaced advancing 4 [.connect] head hhead
  refine ⟨tip, hhash, ?_⟩
  obtain ⟨hserved, hreplaced⟩ := hrest [.disconnect, .connect] hheads
  obtain ⟨successor, -, hafter⟩ := hreplaced other hother hne
  simp only [after, run, s] at hapart hapart' hactive hactive' ⊢
  have hold := hafter [] (by simp) hapart hactive'
  have hnow := hserved hapart' hactive
  rw [← hhash]
  exact ⟨hnow.block, hold.missing, hold.header⟩

end ChainIndex.Algod
