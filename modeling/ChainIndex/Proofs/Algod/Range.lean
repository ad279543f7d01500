import ChainIndex.Proofs.Algod.Interleaving
import ChainIndex.Proofs.Algod.Rounds
import ChainIndex.Proofs.Fetch.Blocks
import Mathlib.Algebra.Group.Nat.Defs

/-!
# ChainIndex.Proofs.Algod.Range

Ranges of blocks over a node of rounds, and the hashes that the registry gives for their rounds.

Three things are derived from a genesis hash and a round: the hash of a block, the parent hash of
the block after it, and the hash that a chain gives for the round.  A fetched block is of the round
that was asked for (`Chain.yields_fetch`), so the blocks of a range are linked as long as they all
carry one genesis hash (`linkedFrom_of_ofRound`).  A registry that is filled with such blocks gives
their hashes, whatever calls go on at the same time (`Chain.hashDerived_of_interleaved`).
-/

namespace ChainIndex.Algod

open ChainIndex.Task

/-! ## Linked blocks -/

/-- The hash that is derived for the round before, or the zero hash where there is none. -/
def deriveParent (genesis : String) (round : UInt64) : BlockHash :=
  if round = 0 then .zero else deriveHash genesis (round - 1)

/-- Blocks each of which has the one before it as parent; the first one has `parent`. -/
def LinkedFrom : (parent : BlockHash) → List SignedBlock → Prop
  | _, [] => True
  | parent, block :: rest => block.header.parentHash = parent ∧ LinkedFrom block.hash rest

/-- A block with the number and the hashes of a round. -/
structure OfRound (genesis : String) (round : UInt64) (block : SignedBlock) : Prop where
  number : block.number = round
  hash : block.hash = deriveHash genesis round
  parent : block.header.parentHash = deriveParent genesis round

/-- A signed block has the number and the hashes of its round. -/
theorem ofRound_signed (block : Block) : OfRound block.genesisHash block.round block.signed where
  number := rfl
  hash := rfl
  parent := rfl

/-- Below the largest round there is a next one, and this one is before it. -/
theorem deriveParent_ofNat_succ (genesis : String) {round : Nat} (h : round + 1 < 2 ^ 64) :
    deriveParent genesis (.ofNat (round + 1)) = deriveHash genesis (.ofNat round) := by
  have hne : UInt64.ofNat (round + 1) ≠ 0 := by
    intro hzero
    have hround := congrArg UInt64.toNat hzero
    rw [UInt64.toNat_ofNat_of_lt' h, UInt64.toNat_zero] at hround
    omega
  have hbefore : UInt64.ofNat (round + 1) - 1 = UInt64.ofNat round := by
    rw [UInt64.ofNat_add]
    simp
  rw [deriveParent, if_neg hne, hbefore]

/-- Blocks of rounds in a row are linked. -/
theorem linkedFrom_of_ofRound {genesis : String} {start count : Nat} {blocks : List SignedBlock}
    (hfits : start + count ≤ 2 ^ 64)
    (h : List.Forall₂ (OfRound genesis) ((List.range' start count).map UInt64.ofNat) blocks) :
    LinkedFrom (deriveParent genesis (.ofNat start)) blocks := by
  induction count generalizing start blocks with
  | zero =>
    cases h with
    | nil => trivial
  | succ count ih =>
    rw [List.range'_succ, List.map_cons] at h
    cases h with
    | @cons _ block _ rest hblock hrest =>
      refine ⟨hblock.parent, ?_⟩
      -- only where there are more rounds does the next one fit into a number
      cases count with
      | zero =>
        cases hrest with
        | nil => trivial
      | succ count =>
        have hlinked := ih (by omega) hrest
        rw [deriveParent_ofNat_succ genesis (by omega), ← hblock.hash] at hlinked
        exact hlinked

/-! ## Registries of one genesis hash -/

/-- Answers whose blocks all carry one genesis hash. -/
def Carries (genesis : String) (admits : (query : Client.Query) → Client.Answer query → Prop) :
    Prop :=
  ∀ round block, admits (.block round) (.ok block) → block.genesisHash = genesis

/-- A registry of fetched blocks that all carry one genesis hash. -/
structure DerivedFrom (genesis : String) (r : Registry Block) : Prop extends Derived r where
  genesis : ∀ round hash block, r.blocks.get? round = some ⟨hash, block⟩ →
    block.genesisHash = genesis

/-- In an empty registry there is no block with another genesis hash. -/
theorem derivedFrom_empty (genesis : String) : DerivedFrom genesis .empty where
  toDerived := derived_empty
  genesis := by
    intro round hash block h
    exact absurd h (by simp [Registry.empty])

namespace DerivedFrom

variable {genesis : String} {r : Registry Block}

/-- A round is registered under the hash that is derived for it. -/
theorem hash_eq (h : DerivedFrom genesis r) {round : UInt64} {hash : BlockHash}
    (hof : r.hashOf? round = some hash) : hash = deriveHash genesis round := by
  obtain ⟨block, hget⟩ := Registry.hashOf?_eq_some.mp hof
  rw [(h.entry round hash block hget).2, h.genesis round hash block hget]

/-- A change that registers nothing but fetched blocks with the genesis hash. -/
theorem perform (h : DerivedFrom genesis r) {change : Registry.Operation Block}
    (hfetched : RegistersFetched change)
    (hgenesis : ∀ hash round block, change.placement? = some (hash, round, block) →
      block.genesisHash = genesis) :
    DerivedFrom genesis (r.perform change).2 where
  toDerived := derived_perform h.toDerived change hfetched
  genesis := by
    intro round hash block hget
    obtain hnew | hold := (Registry.performed_perform h.sound change).entry hget
    · exact hgenesis hash round block hnew
    · exact h.genesis round hash block hold

/-- The hash of a round that is revived, if it is registered. -/
theorem hash_eq_of_revive (h : DerivedFrom genesis r) {round : UInt64} {hash : BlockHash}
    (hrevive : (r.revive round).1 = some hash) : hash = deriveHash genesis round := by
  cases hof : r.hashOf? round with
  | none =>
    rw [Registry.revive_of_hashOf?_eq_none hof] at hrevive
    cases hrevive
  | some known =>
    rw [Registry.revive_of_hashOf?_eq_some hof] at hrevive
    obtain rfl := Option.some.inj hrevive
    exact h.hash_eq hof

/-- The hash of a round that is pinned, if it is registered. -/
theorem hash_eq_of_pinNumber (h : DerivedFrom genesis r) {round : UInt64} {hash : BlockHash}
    (hpin : (r.pinNumber round).1 = some hash) : hash = deriveHash genesis round := by
  obtain ⟨-, heq⟩ | ⟨known, _, _, hof, -, heq⟩ := Registry.pinNumber_cases h.sound round
  · rw [heq] at hpin
    cases hpin
  · rw [heq] at hpin
    obtain rfl := Option.some.inj hpin
    exact h.hash_eq hof

end DerivedFrom

namespace Chain

variable {α : Type} {terms : Terms Chain Client}

/-! ## Blocks of a node -/

/-- A block that was given for a round and is of this round. -/
structure Accepted (terms : Terms Chain Client) (round : UInt64) (block : Block) : Prop where
  given : terms.answer (.block round) (.ok block)
  numbered : block.round = round

/-- A call that is refused without an active connection ends as it would with one, or with an error.
-/
theorem fulfils_guarded {P : List (Exchange Client) → Except ApiError α → Prop} (method : Method)
    {x : Attempt Chain Client α} (h : x.run.Fulfils terms P) (herror : ∀ e, P [] (.error e)) :
    (do ensureActive method; x : Attempt Chain Client α).run.Fulfils terms P := by
  intro c hc
  refine ⟨hc, ?_⟩
  beta_reduce
  cases c.connection.ensureActive method.name with
  | ok _ => exact h
  | error e => exact herror e

theorem yields_guarded {Q : α → Prop} (method : Method) {x : Attempt Chain Client α}
    (h : Yields terms x.run Q) :
    Yields terms (do ensureActive method; x : Attempt Chain Client α).run Q :=
  fulfils_guarded method h fun _ _ ha => nomatch ha

/-- What is fetched for a round is of this round, and comes with its derived hash. -/
theorem yields_fetch (round : UInt64) :
    Yields terms (fetch round).run fun fetched =>
      Accepted terms round fetched.2 ∧ fetched.1 = deriveHash fetched.2.genesisHash round := by
  rw [run_fetch_eq]
  intro answer hanswer fetched hfetched
  cases haccept : accept round answer with
  | error e =>
    rw [haccept] at hfetched
    cases hfetched
  | ok block =>
    rw [haccept] at hfetched
    obtain rfl := Except.ok.inj hfetched
    obtain ⟨rfl, hround⟩ := accept_eq_ok.mp haccept
    exact ⟨⟨hanswer, hround⟩, rfl⟩

/-- The block of a round is the one that the node gave for it. -/
theorem yields_blockByNumber (round : BlockNumber) :
    Yields terms (api.blockByNumber round).run fun signed =>
      ∃ block, Accepted terms round block ∧ signed = block.signed := by
  refine yields_guarded .block ?_
  refine Yields.bind (yields_fetch round) ?_
  rintro ⟨hash, block⟩ ⟨haccepted, -⟩ signed hsigned
  exact ⟨block, haccepted, (Except.ok.inj hsigned).symm⟩

/-! ## Hashes from the registry -/

/-- The terms of a chain whose registry is filled with blocks of one genesis hash. -/
def termsOn (genesis : String) (admits : (query : Client.Query) → Client.Answer query → Prop) :
    Terms Chain Client :=
  ⟨fun c => DerivedFrom genesis c.registry, admits⟩

section

variable {genesis : String} {admits : (query : Client.Query) → Client.Answer query → Prop}
  {Q : α → Prop}

/-- A change of the registry as a step, with what is found by it. -/
theorem yields_onRegistry {f : Registry Block → α × Registry Block}
    (change : Registry.Operation Block) (hf : ∀ r, (f r).2 = (r.perform change).2)
    (hfetched : RegistersFetched change)
    (hgenesis : ∀ hash round block, change.placement? = some (hash, round, block) →
      block.genesisHash = genesis)
    (hQ : ∀ r, DerivedFrom genesis r → Q (f r).1) :
    Yields (termsOn genesis admits) (onRegistry f).run Q := by
  intro c hc
  have hkept : DerivedFrom genesis (c.registry.perform change).2 := hc.perform hfetched hgenesis
  rw [← hf] at hkept
  refine ⟨hkept, ?_⟩
  intro a ha
  rw [← Except.ok.inj ha]
  exact hQ c.registry hc

/-- Serving the block of a hash adds nothing to the registry. -/
theorem yields_block (hash : BlockHash) :
    Yields (termsOn genesis admits) (block hash).run fun _ => True := by
  refine yields_guarded .block ?_
  refine Yields.bind (Q := fun _ => True) (fun c hc => ⟨hc, fun _ _ => trivial⟩) ?_
  intro found _
  match found with
  | none => exact fun _ _ => trivial
  | some (_, _, .retired) => exact fun _ _ => trivial
  | some (_, _, .pinned) => exact fun _ _ => trivial
  | some (_, _, .transient) =>
    refine Yields.bind (Q := fun _ => True) ?_ fun _ _ _ _ => trivial
    exact yields_onRegistry (.evict hash) (fun _ => rfl) trivial (fun _ _ _ h => nomatch h)
      fun _ _ => trivial

variable (hadmits : Carries genesis admits)
include hadmits

/-- What is fetched carries the genesis hash. -/
theorem yields_fetch_from (round : UInt64) :
    Yields (termsOn genesis admits) (fetch round).run fun fetched =>
      fetched.2.round = round ∧ fetched.2.genesisHash = genesis ∧
        fetched.1 = deriveHash genesis round := by
  refine (yields_fetch round).mono ?_
  intro _ result hresult fetched hfetched
  obtain ⟨haccepted, hhash⟩ := hresult fetched hfetched
  have hgenesis := hadmits round fetched.2 haccepted.given
  rw [hgenesis] at hhash
  exact ⟨haccepted.numbered, hgenesis, hhash⟩

omit hadmits in
/-- A change that looks a round up finds the hash that is derived for it, if any. -/
theorem yields_lookup {f : Registry Block → Option BlockHash × Registry Block}
    (change : Registry.Operation Block) (hf : ∀ r, (f r).2 = (r.perform change).2)
    (hfetched : RegistersFetched change) (hput : change.placement? = none) {round : UInt64}
    (hfound : ∀ r hash, DerivedFrom genesis r → (f r).1 = some hash →
      hash = deriveHash genesis round) :
    Yields (termsOn genesis admits) (onRegistry f).run fun found =>
      ∀ hash, found = some hash → hash = deriveHash genesis round := by
  refine yields_onRegistry change hf hfetched ?_ fun r hr hash => hfound r hash hr
  intro hash round block hplaced
  rw [hput] at hplaced
  cases hplaced

omit hadmits in
/-- A change that places a fetched block with the genesis hash. -/
theorem yields_place {f : Registry Block → α × Registry Block} (change : Registry.Operation Block)
    (hf : ∀ r, (f r).2 = (r.perform change).2) {hash : BlockHash} {round : UInt64} {block : Block}
    (hchange : change = .put hash round block ∨ change = .putPinned hash round block)
    (hround : block.round = round) (hgenesis : block.genesisHash = genesis)
    (hhash : hash = deriveHash genesis round) :
    Yields (termsOn genesis admits) (onRegistry f).run fun _ => True := by
  have hfetched : block.round = round ∧ hash = deriveHash block.genesisHash round := by
    rw [hhash, hgenesis]
    exact ⟨hround, rfl⟩
  refine yields_onRegistry change hf ?_ ?_ fun _ _ => trivial
  · obtain rfl | rfl := hchange <;> exact hfetched
  · obtain rfl | rfl := hchange <;>
    · rintro _ _ _ hput
      obtain ⟨rfl, rfl, rfl⟩ := hput
      exact hgenesis

/-- A round that is looked up, and fetched and placed where it is not found. -/
theorem yields_lookup_or_place {round : UInt64} {lookup : Attempt Chain Client (Option BlockHash)}
    {rest : Option BlockHash → Attempt Chain Client BlockHash}
    {place : BlockHash × Block → Attempt Chain Client BlockHash}
    (hsome : ∀ hash, rest (some hash) = pure hash) (hnone : rest none = fetch round >>= place)
    (hlookup : Yields (termsOn genesis admits) lookup.run fun found =>
      ∀ hash, found = some hash → hash = deriveHash genesis round)
    (hplace : ∀ hash block, block.round = round → block.genesisHash = genesis →
      hash = deriveHash genesis round →
      Yields (termsOn genesis admits) (place (hash, block)).run fun given => given = hash) :
    Yields (termsOn genesis admits) (lookup >>= rest).run fun hash =>
      hash = deriveHash genesis round := by
  refine Yields.bind hlookup ?_
  intro found hfound
  cases found with
  | some hash =>
    rw [hsome]
    intro _ heq
    rw [← Except.ok.inj heq]
    exact hfound hash rfl
  | none =>
    rw [hnone]
    refine Yields.bind (yields_fetch_from hadmits round) ?_
    rintro ⟨hash, block⟩ ⟨hround, hgenesis, hhash⟩
    refine (hplace hash block hround hgenesis hhash).mono ?_
    intro _ result hresult given heq
    rw [hresult given heq]
    exact hhash

/-- The hash of a round that is asked for. -/
theorem yields_blockHash (round : BlockNumber) :
    Yields (termsOn genesis admits) (blockHash round).run fun hash =>
      hash = deriveHash genesis round := by
  refine yields_guarded .blockHash (yields_lookup_or_place hadmits (fun _ => rfl) rfl ?_ ?_)
  · exact yields_lookup (.revive round) (fun _ => rfl) trivial rfl
      fun r hash hr hfound => hr.hash_eq_of_revive hfound
  · intro hash block hround hgenesis hhash
    refine Yields.bind
      (yields_place (.put hash round block) (fun _ => rfl) (.inl rfl) hround hgenesis hhash) ?_
    intro _ _ given heq
    exact (Except.ok.inj heq).symm

/-- The hash of a round that is pinned, or fetched and pinned at once. -/
theorem yields_pinNumber (round : UInt64) {rest : Option BlockHash → Attempt Chain Client BlockHash}
    (hsome : ∀ hash, rest (some hash) = pure hash)
    (hnone : rest none = do
      let fetched ← fetch round
      let pinned ← onRegistry fun r => r.putPinned fetched.1 round fetched.2
      if pinned then return fetched.1 else throw (.missingBlock fetched.1)) :
    Yields (termsOn genesis admits) (onRegistry (fun r => r.pinNumber round) >>= rest).run
      fun hash => hash = deriveHash genesis round := by
  refine yields_lookup_or_place hadmits hsome hnone ?_ ?_
  · exact yields_lookup (.pinNumber round) (fun _ => rfl) trivial rfl
      fun r hash hr hfound => hr.hash_eq_of_pinNumber hfound
  · intro hash block hround hgenesis hhash
    have hplaced : Yields (termsOn genesis admits)
        (onRegistry fun r => r.putPinned hash round block).run fun _ => True :=
      yields_place (.putPinned hash round block)
        (fun _ => (Registry.perform_putPinned _ _ _ _).symm) (.inr rfl) hround hgenesis hhash
    refine Yields.bind hplaced ?_
    intro pinned _
    cases pinned with
    | true =>
      intro given heq
      exact (Except.ok.inj heq).symm
    | false =>
      intro given heq
      cases heq

/-- The head is the hash of the last round, which the node is asked for first. -/
theorem fulfils_finalizedHead :
    finalizedHead.run.Fulfils (termsOn genesis admits) fun made result =>
      ∀ hash, result = .ok hash → ∃ round more,
        made = ⟨.lastRound, .ok round⟩ :: more ∧ hash = deriveHash genesis round := by
  refine fulfils_guarded .finalizedHead ?_ fun _ _ h => nomatch h
  intro answer _
  change Except ClientError UInt64 at answer
  cases answer with
  | error e => exact fun _ h => nomatch h
  | ok round =>
    refine (yields_pinNumber hadmits round (fun _ => rfl) rfl).mono ?_
    intro more result hresult hash heq
    exact ⟨round, more, rfl, hresult hash heq⟩

omit hadmits in
/-- A call that leaves the registry alone adds nothing to it. -/
theorem fulfils_of_keeps {call : Call} (h : keepsRegistry call = true) :
    (api call).Fulfils (termsOn genesis admits) fun _ _ => True :=
  ((fulfils_api_of_keeps h).restrict fun _ _ _ => trivial).mono fun _ _ _ => trivial

/-- What a call for a hash ends with: the hash that is derived for its round, which is the one asked
for, or the last one that the node gave. -/
def HashDerived (genesis : String) : (invocation : Invocation) → List (Exchange Client) →
    invocation.Answer → Prop
  | .direct (.blockHash round), _, answer =>
    ∀ hash, answer = (.ok hash : Except ApiError BlockHash) → hash = deriveHash genesis round
  | .direct .finalizedHead, made, answer =>
    ∀ hash, answer = (.ok hash : Except ApiError BlockHash) → ∃ round more,
      made = ⟨.lastRound, .ok round⟩ :: more ∧ hash = deriveHash genesis round
  | _, _, _ => True

/-- Every invocation keeps the registry filled so, and gives no hash but the one that is derived. -/
theorem fulfils_hashDerived (invocation : Invocation) :
    (api.invoke invocation).Fulfils (termsOn genesis admits) (HashDerived genesis invocation) := by
  have hcalls (call : Call) : (api call).Fulfils (termsOn genesis admits) fun _ _ => True := by
    cases hkeeps : keepsRegistry call with
    | true => exact fulfils_of_keeps hkeeps
    | false =>
      cases call with
      | blockHash round => exact (yields_blockHash hadmits round).mono fun _ _ _ => trivial
      | finalizedHead => exact (fulfils_finalizedHead hadmits).mono fun _ _ _ => trivial
      | block hash => exact (yields_block hash).mono fun _ _ _ => trivial
      | _ => cases hkeeps
  have hsupports (method : Method) :
      (api.supports method).Fulfils (termsOn genesis admits) fun made _ => made = [] := rfl
  have hinvoke : (api.invoke invocation).Fulfils (termsOn genesis admits) fun _ _ => True :=
    fulfils_invoke (fun _ _ => True) (fun _ _ => trivial) hsupports hcalls invocation
  cases invocation with
  | byName name parameters => exact hinvoke.mono fun _ _ _ => trivial
  | direct call =>
    cases call with
    | blockHash round => exact yields_blockHash hadmits round
    | finalizedHead => exact fulfils_finalizedHead hadmits
    | _ => exact hinvoke.mono fun _ _ _ => trivial

/-- A caller that has ended with a hash, among whatever others, has the one that is derived. -/
theorem hashDerived_of_interleaved {callers : List (Caller Chain Client)} {c : Chain}
    (h : Interleaved api admits initial callers c) {invocation : Invocation}
    {answer : invocation.Answer} {made : List (Exchange Client)} {since : List Chain}
    (hcaller : ⟨⟨invocation, .done answer⟩, made, since⟩ ∈ callers) :
    HashDerived genesis invocation made answer := by
  have hinitial : (termsOn genesis admits).state initial := derivedFrom_empty genesis
  obtain ⟨-, hcallers⟩ := Interleaved.fulfils h hinitial (fulfils_hashDerived hadmits)
  have hended : HashDerived genesis invocation (made ++ []) answer := hcallers _ hcaller
  rwa [List.append_nil] at hended

end

end Chain

/-! ## Ranges -/

theorem mem_blocksSeen {made : List (Exchange Client)} {round : UInt64} {block : Block}
    (h : (⟨.block round, .ok block⟩ : Exchange Client) ∈ made) : block ∈ blocksSeen made :=
  List.mem_filterMap.mpr ⟨_, h, rfl⟩

/-- The blocks of a range are those that the node gave for its rounds. -/
theorem fulfils_range (limit : Nat) (schedule : Schedule Chain Client) (first last : BlockNumber)
    (made : List (Exchange Client)) :
    (Fetcher.range ⟨Chain.api, limit, schedule⟩ first last).Fulfils (.heard made)
      fun (_ : List (Exchange Client)) result => ∀ blocks, result = .ok blocks →
        List.Forall₂ (fun round signed => ∃ block, block ∈ blocksSeen made ∧
          block.round = round ∧ signed = block.signed) (Heights.between first last) blocks := by
  refine Fetcher.yields_range ?_ first last
  intro round
  refine (Chain.yields_blockByNumber round).mono ?_
  intro _ result hresult signed hsigned
  obtain ⟨block, haccepted, rfl⟩ := hresult signed hsigned
  exact ⟨block, mem_blocksSeen haccepted.given, haccepted.numbered, rfl⟩

/-- Blocks of rounds in a row, as the node gave them, are linked if they carry one genesis hash. -/
theorem linkedFrom_of_given {genesis : String} {given : List Block}
    (hgenesis : ∀ block ∈ given, block.genesisHash = genesis) {first last : BlockNumber}
    {blocks : List SignedBlock}
    (h : List.Forall₂ (fun round signed => ∃ block, block ∈ given ∧ block.round = round ∧
      signed = block.signed) (Heights.between first last) blocks) :
    (∀ b ∈ blocks, b.hash = deriveHash genesis b.number) ∧
      LinkedFrom (deriveParent genesis first) blocks := by
  have hrounds : List.Forall₂ (OfRound genesis) (Heights.between first last) blocks := by
    refine h.imp ?_
    rintro _ _ ⟨block, hmem, rfl, rfl⟩
    rw [← hgenesis block hmem]
    exact ofRound_signed block
  constructor
  · have hhashes : List.Forall₂ (fun b (_ : UInt64) => b.hash = deriveHash genesis b.number ∧ True)
        blocks (Heights.between first last) := by
      refine hrounds.flip.imp ?_
      intro b round hround
      rw [hround.number]
      exact ⟨hround.hash, trivial⟩
    exact (List.forall₂_and_left _ _).mp hhashes |>.1
  · have hfits : first.toNat + (last.toNat + 1 - first.toNat) ≤ 2 ^ 64 := by
      have hlast := UInt64.toNat_lt last
      have hfirst := UInt64.toNat_lt first
      omega
    have hlinked := linkedFrom_of_ofRound hfits hrounds
    rwa [UInt64.ofNat_toNat] at hlinked

/-- Calls that have ended gave the hashes of some blocks: to those who asked for the hash of a
round, and to those who asked for the head when the node gave the round as its last one. -/
structure GaveHashesOf (blocks : List SignedBlock) (callers : List (Caller Chain Client)) :
    Prop where
  blockHash {round : BlockNumber} {hash : BlockHash} {made : List (Exchange Client)}
    {since : List Chain}
    (hcaller : ⟨⟨.direct (.blockHash round), .done (Except.ok hash : Except ApiError BlockHash)⟩,
      made, since⟩ ∈ callers) :
    ∀ b ∈ blocks, b.number = round → b.hash = hash
  finalizedHead {hash : BlockHash} {made : List (Exchange Client)} {since : List Chain}
    (hcaller : ⟨⟨.direct .finalizedHead, .done (Except.ok hash : Except ApiError BlockHash)⟩,
      made, since⟩ ∈ callers) :
    ∃ round more, made = ⟨.lastRound, .ok round⟩ :: more ∧
      ∀ b ∈ blocks, b.number = round → b.hash = hash

/-- Whatever the node answers, a range of blocks that a chain over a node of rounds gives is
numbered from its first round to its last.  If all blocks that the node gave for it carry one
genesis hash, then the hash of each block is derived from this and its number, the parent of each is
the one before it, and the parent of the first one is derived for the round before, or zero.  A
chain to which nothing but blocks of this genesis hash were given, for whatever calls that went on
at the same time, gave the hashes of these blocks. -/
theorem range_linked {κ : Type} (server : Server Client κ) (limit : Nat)
    (schedule : Schedule Chain Client) (first last : BlockNumber) (c : Chain) (k : κ)
    {blocks : List SignedBlock}
    (h : ((Fetcher.range ⟨Chain.api, limit, schedule⟩ first last).run server.recording c
      (k, [])).1 = .ok blocks) :
    let made := ((Fetcher.range ⟨Chain.api, limit, schedule⟩ first last).run server.recording c
      (k, [])).2.2.2
    blocks.map SignedBlock.number = Heights.between first last ∧
    ∀ genesis, (∀ block ∈ blocksSeen made, block.genesisHash = genesis) →
      (∀ b ∈ blocks, b.hash = deriveHash genesis b.number) ∧
      LinkedFrom (deriveParent genesis first) blocks ∧
      ∀ admits callers c', Carries genesis admits →
        Interleaved Chain.api admits Chain.initial callers c' → GaveHashesOf blocks callers := by
  intro made
  have hgiven := Fulfils.run_heard (fulfils_range limit schedule first last) server c k blocks h
  have hnumbers : blocks.map SignedBlock.number = Heights.between first last := by
    refine map_number_eq (hgiven.imp ?_)
    rintro _ _ ⟨block, -, rfl, rfl⟩
    rfl
  refine ⟨hnumbers, ?_⟩
  intro genesis hgenesis
  obtain ⟨hhashes, hlinked⟩ := linkedFrom_of_given hgenesis hgiven
  refine ⟨hhashes, hlinked, ?_⟩
  intro admits callers c' hadmits hreached
  constructor
  · intro round hash made since hcaller b hb hnumber
    have hhash := Chain.hashDerived_of_interleaved hadmits hreached hcaller hash rfl
    rw [hhashes b hb, hnumber, hhash]
  · intro hash made since hcaller
    obtain ⟨round, more, hmade, hhash⟩ :=
      Chain.hashDerived_of_interleaved hadmits hreached hcaller hash rfl
    refine ⟨round, more, hmade, ?_⟩
    intro b hb hnumber
    rw [hhashes b hb, hnumber, hhash]

/-- Both of two rounds carry the genesis hash of the test network. -/
theorem carries_twoRounds : Carries Simulation.testnetGenesis (GivesFrom twoRounds) := by
  intro round block hgiven
  have hround : twoRounds round = some block := hgiven block rfl
  obtain ⟨-, hblock⟩ := Option.ite_none_right_eq_some.mp hround
  rw [← Option.some.inj hblock]
  rfl

/-- The second of two rounds. -/
def secondBlock : Block := simulatedBlock 2 Simulation.testnetGenesis

/-- A call for the hash of round 1 that has ended, with the states since its last step. -/
def firstHashGiven (since : List Chain) : Caller Chain Client :=
  ⟨⟨.direct (.blockHash 1), .done (Except.ok Chain.firstBlock.hash : Except ApiError BlockHash)⟩,
    [⟨.block 1, .ok Chain.firstBlock⟩], since⟩

/-- Such a call comes about with nothing else going on. -/
theorem interleaved_firstHashGiven : ∃ since c,
    Interleaved Chain.api (GivesFrom twoRounds) Chain.initial [firstHashGiven since] c := by
  obtain ⟨_, hwaiting⟩ := Chain.interleaved_waiting []
  exact ⟨_, _, .act [] hwaiting⟩

/-- The range of two rounds, of which the second block has the first as its parent; the call for the
hash of round 1 gave that of the first block. -/
theorem range_linked_twoRounds :
    let range := (Fetcher.range ⟨Chain.api, 8, .inOrder⟩ 1 2).run (serving twoRounds 2).recording
      Chain.connected ((), [])
    let blocks := [Chain.firstBlock.signed, secondBlock.signed]
    range.1 = .ok blocks ∧ blocks.map SignedBlock.number = [1, 2] ∧
      LinkedFrom (deriveParent Simulation.testnetGenesis 1) blocks ∧
      ∃ since c,
        Interleaved Chain.api (GivesFrom twoRounds) Chain.initial [firstHashGiven since] c ∧
        GaveHashesOf blocks [firstHashGiven since] := by
  intro range blocks
  have hrange : range.1 = .ok blocks := rfl
  have hseen : blocksSeen range.2.2.2 = [Chain.firstBlock, secondBlock] := rfl
  obtain ⟨hnumbers, hlinks⟩ := range_linked (serving twoRounds 2) 8 .inOrder 1 2 Chain.connected ()
    hrange
  have hgenesis : ∀ block ∈ blocksSeen range.2.2.2,
      block.genesisHash = Simulation.testnetGenesis := by
    rw [hseen]
    simp [Chain.firstBlock, secondBlock, simulatedBlock]
  obtain ⟨-, hlinked, hgave⟩ := hlinks Simulation.testnetGenesis hgenesis
  obtain ⟨since, c, hended⟩ := interleaved_firstHashGiven
  exact ⟨hrange, hnumbers, hlinked, since, c, hended, hgave _ _ c carries_twoRounds hended⟩

end ChainIndex.Algod
