import ChainIndex.Proofs.Algod.Interleaving

/-!
# ChainIndex.Proofs.Algod.Refusal

What a chain over a node of rounds does with a block of another round than it asked for.

What becomes of an answer shows in how a call goes on wherever it waits for one (`Task.Waits`).  A
call asks for the block of the round that it is for, and the call for the head for that of the last
round (`Wants`).  Whatever else goes on, a block of another round ends the call: nothing is done
after it, and what is given is an error that names both rounds.  Only the call for the identity of
the network asks without comparing the rounds, and gives what the block says
(`otherRound_refused_iff`, `genesisHash_of_otherRound`).
-/

namespace ChainIndex

/-! ## How tasks go on -/

namespace Task

variable {σ : Type} {S : Signature} {α β : Type}

/-- What may hold of a task that waits: of what it asked so far, of what it asks now and of how it
goes on. -/
abbrev Outlook (σ : Type) (S : Signature) (α : Type) : Type :=
  List (Exchange S) → (query : S.Query) → (S.Answer query → Task σ S α) → Prop

/-- Wherever a task waits for an answer, `P` holds of it. -/
def Waits (P : Outlook σ S α) : List (Exchange S) → Task σ S α → Prop
  | _, .done _ => True
  | made, .act _ next => ∀ s, Waits P made (next s)
  | made, .ask query next =>
    P made query next ∧ ∀ answer, Waits P (made ++ [⟨query, answer⟩]) (next answer)

variable {P : Outlook σ S α} {made : List (Exchange S)} {t : Task σ S α}

/-- What holds wherever a task waits may be weakened. -/
theorem Waits.mono {P' : Outlook σ S α} (h : Waits P made t)
    (himp : ∀ made query next, P made query next → P' made query next) : Waits P' made t := by
  induction t generalizing made with
  | done a => trivial
  | act change next ih => exact fun s => ih s (h s)
  | ask query next ih => exact ⟨himp _ _ _ h.1, fun answer => ih answer (h.2 answer)⟩

/-- Where a task that goes on with another one waits, it is the one or the other that waits. -/
theorem Waits.bind {P' : Outlook σ S β} {f : α → Task σ S β} (h : Waits P made t)
    (hask : ∀ made query next, P made query next → P' made query fun answer => (next answer).bind f)
    (hf : ∀ made a, Waits P' made (f a)) : Waits P' made (t.bind f) := by
  induction t generalizing made with
  | done a => exact hf made a
  | act change next ih => exact fun s => ih s (h s)
  | ask query next ih => exact ⟨hask _ _ _ h.1, fun answer => ih answer (h.2 answer)⟩

end Task

open ChainIndex.Task

/-- The call that an invocation comes to, if it is not refused before. -/
def Invocation.call? : Invocation → Option Call
  | .direct call => some call
  | .byName name parameters => (Request.parse name parameters).toOption.map Request.call

namespace Algod

/-! ## Blocks of other rounds -/

/-- The round that a call is for, after what it has asked so far. -/
def Wants : Call → List (Exchange Client) → UInt64 → Prop
  | .genesisHash, _, round => round = 1
  | .blockHash number, _, round => round = number
  | .blockByNumber number, _, round => round = number
  | .finalizedHead, made, round => ⟨.lastRound, (.ok round : Except ClientError UInt64)⟩ ∈ made
  | _, _, _ => False

/-- The error of a call that is given a block of another round than it asked for. -/
def otherRound (round : UInt64) (block : Block) : ApiError :=
  .invalidResponse ("requested round " ++ toString round.toNat ++
    ", node returned round " ++ toString block.round.toNat)

/-- A block of another round is refused, and the error names both rounds. -/
theorem accept_of_ne {round : UInt64} {block : Block} (h : block.round ≠ round) :
    accept round (.ok block) = .error (otherRound round block) :=
  if_neg h

/-- How a call goes on that asks the node for the block of a round: given one of another round, it
ends at once, and with an error exactly if it is not the call for the identity of the network. -/
def Refuses {α : Type} (call : Call) (error? : α → Option ApiError) : Outlook Chain Client α
  | _, .lastRound, _ => True
  | made, .block round, next => Wants call made round ∧ ∀ block : Block, block.round ≠ round →
    ∃ a, next (.ok block : Except ClientError Block) = .done a ∧
      (error? a = some (otherRound round block) ↔ call ≠ .genesisHash)

/-- An answer that is only put differently fails as before. -/
theorem Refuses.bind {α β : Type} {call : Call} {error? : α → Option ApiError}
    {error'? : β → Option ApiError} {made : List (Exchange Client)} {query : Client.Query}
    {next : Client.Answer query → Task Chain Client α} {f : α → β}
    (h : Refuses call error? made query next) (herror : ∀ a, error'? (f a) = error? a) :
    Refuses call error'? made query fun answer => (next answer).bind fun a => .done (f a) := by
  cases query with
  | lastRound => trivial
  | block round =>
    refine ⟨h.1, fun block hround => ?_⟩
    obtain ⟨a, hdone, ha⟩ := h.2 block hround
    exact ⟨f a, congrArg (Task.bind · fun a => .done (f a)) hdone, by rwa [herror]⟩

namespace Chain

variable {α : Type} {call : Call} {made : List (Exchange Client)}
  {P : Outlook Chain Client (Except ApiError α)}

/-- A call that needs an active connection waits only where it would wait with one. -/
theorem waits_guarded {x : Attempt Chain Client α} (method : Method) (h : Waits P made x.run) :
    Waits P made (do ensureActive method; x : Attempt Chain Client α).run := by
  intro c
  change Waits P made (ExceptT.bindCont (fun _ => x) (c.connection.ensureActive method.name))
  cases c.connection.ensureActive method.name with
  | ok _ => exact h
  | error e => trivial

theorem waits_read {β : Type} {view : Chain → β} {g : β → Attempt Chain Client α}
    (h : ∀ b, Waits P made (g b).run) :
    Waits P made (ExceptT.lift (Task.read view) >>= g).run :=
  fun c => h (view c)

theorem waits_step {β : Type} {f : Chain → β × Chain} {g : β → Attempt Chain Client α}
    (h : ∀ b, Waits P made (g b).run) :
    Waits P made (ExceptT.lift (Task.step f) >>= g).run :=
  fun c => h (f c).1

/-- What follows a fetch is done with a block of the round only. -/
theorem waits_fetch {round : UInt64} {f : BlockHash × Block → Attempt Chain Client α}
    (hcall : call ≠ .genesisHash) (hwants : Wants call made round)
    (hf : ∀ made found, Waits (Refuses call errorOf?) made (f found).run) :
    Waits (Refuses call errorOf?) made (fetch round >>= f).run := by
  change Waits _ made ((fetch round).run.bind (ExceptT.bindCont f))
  rw [run_fetch_eq]
  -- what is fetched goes on to `f` only if it is accepted
  let goesOn (result : Except ApiError Block) : Task Chain Client (Except ApiError α) :=
    ExceptT.bindCont f (result.map fun block => (deriveHash block.genesisHash round, block))
  change Waits (Refuses call errorOf?) made (.ask (.block round) fun answer =>
    goesOn (accept round answer))
  refine ⟨⟨hwants, fun block hround => ⟨.error (otherRound round block), ?_, ?_⟩⟩, ?_⟩
  · exact congrArg goesOn (accept_of_ne hround)
  · exact iff_of_true rfl hcall
  · intro answer
    change Waits _ _ (goesOn (accept round answer))
    cases accept round answer with
    | ok block => exact hf _ _
    | error e => trivial

/-- A call for the identity of the network goes on with whatever block it is given. -/
theorem waits_genesisHash : Waits (Refuses .genesisHash errorOf?) [] genesisHash.run := by
  refine waits_guarded _ ⟨⟨rfl, fun block _ => ⟨.ok block.prev, rfl, by simp [errorOf?]⟩⟩, ?_⟩
  intro answer
  change Except ClientError Block at answer
  cases answer <;> trivial

/-- A call for the block of a round refuses one of another round. -/
theorem waits_blockByNumber (round : BlockNumber) :
    Waits (Refuses (.blockByNumber round) errorOf?) [] (blockByNumber round).run :=
  waits_guarded _ (waits_fetch (by simp) rfl fun _ _ => trivial)

/-- A call for the hash of a round refuses a block of another round. -/
theorem waits_blockHash (round : BlockNumber) :
    Waits (Refuses (.blockHash round) errorOf?) [] (blockHash round).run := by
  refine waits_guarded _ (waits_step fun found => ?_)
  cases found with
  | some hash => trivial
  | none => exact waits_fetch (by simp) rfl fun _ _ => waits_step fun _ => trivial

/-- A call for the head refuses a block of another round than the last one. -/
theorem waits_finalizedHead : Waits (Refuses .finalizedHead errorOf?) [] finalizedHead.run := by
  refine waits_guarded _ ⟨trivial, fun answer => ?_⟩
  change Except ClientError UInt64 at answer
  cases answer with
  | error e => trivial
  | ok round =>
    refine waits_step fun found => ?_
    cases found with
    | some hash => trivial
    | none =>
      refine waits_fetch (by simp) (List.mem_singleton_self _) fun _ _ => ?_
      refine waits_step fun pinned => ?_
      cases pinned <;> trivial

theorem waits_header (hash : BlockHash) :
    Waits (Refuses (.header hash) errorOf?) [] (header hash).run := by
  refine waits_guarded _ (waits_read fun found => ?_)
  cases found <;> trivial

theorem waits_block (hash : BlockHash) :
    Waits (Refuses (.block hash) errorOf?) [] (block hash).run := by
  refine waits_guarded _ (waits_read fun found => ?_)
  match found with
  | none | some (_, _, .retired) | some (_, _, .pinned) => trivial
  | some (_, _, .transient) => exact waits_step fun _ => trivial

theorem waits_transition {P : Outlook Chain Client (Except ApiError Unit)}
    (made : List (Exchange Client)) (source target : ConnectionState) :
    Waits P made (transition source target).run := by
  refine waits_step fun moved => ?_
  cases moved <;> trivial

/-- Connecting asks for no block. -/
theorem waits_connect : Waits (Refuses .connect errorOf?) [] connect.run := by
  refine waits_read fun state => ?_
  split
  · trivial
  · refine Waits.bind (waits_transition (P := fun _ _ _ => False) _ _ _) (fun _ _ _ h => h.elim) ?_
    intro made moved
    cases moved with
    | error e => trivial
    | ok _ =>
      refine ⟨trivial, fun answer => ?_⟩
      change Except ClientError UInt64 at answer
      cases answer with
      | ok round => exact waits_transition _ _ _
      | error e => exact fun _ => trivial

/-- Wherever a call waits for the block of a round, it refuses a block of another round, or else is
the one for the identity of the network. -/
theorem waits_api (call : Call) : Waits (Refuses call call.error?) [] (api call) := by
  cases call with
  | connectionState => exact fun _ => trivial
  | supports method => trivial
  | disconnect => exact fun _ => trivial
  | connect => exact waits_connect
  | runtimeVersion hash => exact waits_guarded _ trivial
  | metadata hash => exact waits_guarded _ trivial
  | chainName => exact waits_guarded _ trivial
  | genesisHash => exact waits_genesisHash
  | blockHash number => exact waits_blockHash number
  | finalizedHead => exact waits_finalizedHead
  | header hash => exact waits_header hash
  | block hash => exact waits_block hash
  | eventsAt hash => exact waits_guarded _ trivial
  | eventsRange first last => exact waits_guarded _ trivial
  | blockByNumber number => exact waits_blockByNumber number

/-- Calls by name go on as the calls that they stand for. -/
theorem waits_invoke (invocation : Invocation) :
    Waits (fun made query next => ∃ call, invocation.call? = some call ∧
      Refuses call invocation.error? made query next) [] (api.invoke invocation) := by
  cases invocation with
  | direct call => exact (waits_api call).mono fun _ _ _ h => ⟨call, rfl, h⟩
  | byName name parameters =>
    change Waits _ _ (api.callByName name parameters).run
    rw [callByName_eq]
    cases hparse : Request.parse name parameters with
    | error e => trivial
    | ok request =>
      change Waits _ _ ((api request.call).bind fun answer =>
        .done ((request.respond answer).map Response.toJson))
      refine (waits_api request.call).bind (fun made query next h => ?_) fun _ _ => trivial
      refine ⟨request.call, by rw [Invocation.call?, hparse]; rfl, h.bind fun answer => ?_⟩
      exact (errorOf?_map _ _).trans (Request.errorOf?_respond request answer)

/-- A call that waits for a block, however it is interleaved with others, goes on as it does alone.
-/
theorem refuses_of_interleaved {admits : (query : Client.Query) → Client.Answer query → Prop}
    {start c : Chain} {before after : List (Caller Chain Client)} {invocation : Invocation}
    {query : Client.Query} {next : Client.Answer query → Task Chain Client invocation.Answer}
    {made : List (Exchange Client)} {since : List Chain}
    (h : Interleaved api admits start
      (before ++ ⟨⟨invocation, .ask query next⟩, made, since⟩ :: after) c) :
    ∃ call, invocation.call? = some call ∧ Refuses call invocation.error? made query next := by
  have hwaits := h.each (I := fun _ => True) (C := fun caller _ => Waits (fun made query next =>
      ∃ call, caller.invocation.call? = some call ∧
        Refuses call caller.invocation.error? made query next) caller.made caller.rest)
    trivial (fun invocation _ _ => waits_invoke invocation)
    (fun _ hone => ⟨trivial, hone _, fun _ hother => hother⟩)
    fun answer _ hone => hone.2 answer
  exact (hwaits.2 _ (List.mem_append_right _ List.mem_cons_self)).1

/-! ## Calls by themselves -/

/-- A call by which an active chain asks its node for the block of a round, when the node has come
to `k`. -/
inductive Requests {κ : Type} (server : Server Client κ) (s : Session Chain Client κ) :
    Call → (round : UInt64) → (k : κ) → Prop
  | genesisHash : Requests server s .genesisHash 1 s.node
  | blockHash {round : UInt64} (hof : s.state.registry.hashOf? round = none) :
    Requests server s (.blockHash round) round s.node
  | finalizedHead {round : UInt64} {k : κ} (hlast : server .lastRound s.node = (.ok round, k))
    (hof : s.state.registry.hashOf? round = none) : Requests server s .finalizedHead round k
  | blockByNumber (round : UInt64) : Requests server s (.blockByNumber round) round s.node

/-- Given a block of another round, a call by itself fails and changes nothing. -/
theorem run_of_otherRound {κ : Type} {server : Server Client κ} {s : Session Chain Client κ}
    {call : Call} {round : UInt64} {k k' : κ} {block : Block}
    (hactive : s.state.connection.state = .active) (h : Requests server s call round k)
    (hblock : server (.block round) k = (.ok block, k')) (hround : block.round ≠ round)
    (hcall : call ≠ .genesisHash) :
    ∃ answer, (api call).run server s.state s.node = (answer, s.state, k') ∧
      call.error? answer = some (otherRound round block) := by
  have haccept := accept_of_ne hround
  cases h with
  | genesisHash => exact absurd rfl hcall
  | blockHash hof =>
    refine ⟨.error (otherRound round block), ?_, rfl⟩
    refine (attempt_blockHash server _ hactive round).trans ?_
    simp only [hof, hblock, haccept]
    rfl
  | finalizedHead hlast hof =>
    have hpin : s.state.registry.pinNumber round = (none, s.state.registry) := by
      rw [Registry.pinNumber, hof]
    refine ⟨.error (otherRound round block), ?_, rfl⟩
    refine (attempt_finalizedHead server _ hactive).trans ?_
    simp only [hlast, hpin, hblock, haccept]
    rfl
  | blockByNumber =>
    refine ⟨.error (otherRound round block), ?_, rfl⟩
    refine (attempt_blockByNumber server _ hactive round).trans ?_
    simp only [hblock, haccept, Except.map]
    rfl

/-- The call for the identity of the network takes the block as it is. -/
theorem run_genesisHash {κ : Type} {server : Server Client κ} {c : Chain} {k k' : κ}
    {block : Block} (hactive : c.connection.state = .active)
    (hblock : server (.block 1) k = (.ok block, k')) :
    (api .genesisHash).run server c k = ((.ok block.prev : Except ApiError String), c, k') := by
  change attempt server genesisHash c k = _
  unfold genesisHash
  rw [attempt_bind, attempt_ensureActive, ensureActive_of_active hactive]
  simp only
  rw [attempt_bind, attempt_askBlock]
  simp only [hblock, mapError_ok, attempt_pure]

end Chain

/-- What a call by itself comes to, from a run of its task. -/
theorem answered_of_run {κ : Type} {server : Server Client κ} {s : Session Chain Client κ}
    {call : Call} {answer : call.Answer} {c : Chain} {k : κ}
    (h : (Chain.api call).run server s.state s.node = (answer, c, k)) :
    (s.call Chain.api server call).1 = answer ∧ (s.call Chain.api server call).2.state = c := by
  have hrun := (run_recording server (Chain.api call) s.state s.node s.record).trans h
  exact ⟨congrArg Prod.fst hrun, congrArg (fun ended => ended.2.1) hrun⟩

/-- What an active chain over a node of rounds does with a block of another round than it asked for.
A call made by itself fails for it, and leaves everything as it was, exactly if it is not the call
for the identity of the network.  And whatever is done at the same time from then on, a call that
waits for a block asked for the round that it is for, and once it is given the other block it is at
its end, and fails exactly if it is not the call for the identity of the network. -/
theorem otherRound_refused_iff {κ : Type} (server : Server Client κ) (s : Session Chain Client κ)
    (hactive : s.state.connection.state = .active) :
    (∀ {call : Call} {round : UInt64} {k k' : κ} {block : Block},
      Chain.Requests server s call round k → server (.block round) k = (.ok block, k') →
      block.round ≠ round →
      let ended := s.call Chain.api server call
      (call.error? ended.1 = some (otherRound round block) ∧ ended.2.state = s.state ↔
        call ≠ .genesisHash)) ∧
    ∀ {admits : (query : Client.Query) → Client.Answer query → Prop} {c : Chain}
      {before after : List (Caller Chain Client)} {invocation : Invocation} {round : UInt64}
      {next : Client.Answer (.block round) → Task Chain Client invocation.Answer}
      {made : List (Exchange Client)} {since : List Chain},
      Interleaved Chain.api admits s.state
        (before ++ ⟨⟨invocation, .ask (.block round) next⟩, made, since⟩ :: after) c →
      ∃ call, invocation.call? = some call ∧ Wants call made round ∧
        ∀ block : Block, block.round ≠ round →
          ∃ answer, next (.ok block : Except ClientError Block) = .done answer ∧
            (invocation.error? answer = some (otherRound round block) ↔ call ≠ .genesisHash) := by
  refine ⟨?_, Chain.refuses_of_interleaved⟩
  intro call round k k' block hrequests hblock hround ended
  constructor
  · rintro ⟨herror, -⟩ rfl
    cases hrequests
    rw [(answered_of_run (Chain.run_genesisHash hactive hblock)).1] at herror
    cases herror
  · intro hcall
    obtain ⟨answer, hrun, herror⟩ :=
      Chain.run_of_otherRound hactive hrequests hblock hround hcall
    obtain ⟨hanswer, hstate⟩ := answered_of_run hrun
    exact ⟨hanswer ▸ herror, hstate⟩

/-- A block of round 5 that names some block before it. -/
def strayed : Block := { simulatedBlock 5 Simulation.testnetGenesis with prev := "astray" }

/-- A node whose last round is 1 and that gives the same block for every round. -/
def straying : Server Client Unit
  | .lastRound, k => (.ok 1, k)
  | .block _, k => (.ok strayed, k)

/-- A chain that was just connected to the node. -/
def Chain.astray : Session Chain Client Unit :=
  (Session.call Chain.api straying (.start .initial ()) .connect).2

/-- Asked for the identity of the network, it gives what the block of round 5 has for the block
before. -/
theorem genesisHash_of_otherRound :
    let call := Call.genesisHash
    let ended := Chain.astray.call Chain.api straying call
    Chain.astray.state.connection.state = .active ∧
      Chain.Requests straying Chain.astray call 1 () ∧
      straying (.block 1) () = (.ok strayed, ()) ∧ strayed.round ≠ 1 ∧
      ended.1 = .ok "astray" ∧ call.error? ended.1 ≠ some (otherRound 1 strayed) := by
  intro call ended
  have hactive : Chain.astray.state.connection.state = .active := rfl
  have hblock : straying (.block 1) () = (.ok strayed, ()) := rfl
  have hanswer : ended.1 = .ok "astray" :=
    (answered_of_run (Chain.run_genesisHash hactive hblock)).1
  refine ⟨hactive, .genesisHash, hblock, by decide, hanswer, ?_⟩
  rw [hanswer]
  exact Option.some_ne_none _ ∘ Eq.symm

/-- A call for the hash of round 1 refuses the block of round 5, by itself and where it waits for
the block while others may go on. -/
theorem otherRound_refused_iff_blockHash :
    let call := Call.blockHash 1
    let ended := Chain.astray.call Chain.api straying call
    let error : ApiError := .invalidResponse "requested round 1, node returned round 5"
    Chain.astray.state.connection.state = .active ∧
      Chain.Requests straying Chain.astray call 1 () ∧
      straying (.block 1) () = (.ok strayed, ()) ∧ strayed.round ≠ 1 ∧
      call.error? ended.1 = some error ∧ ended.2.state = Chain.astray.state ∧
      (∃ since, Interleaved Chain.api (fun _ _ => True) Chain.astray.state
        ([] ++ ⟨⟨.direct call, .ask (.block 1) (Chain.registering 1)⟩, [], since⟩ :: [])
        Chain.astray.state) ∧
      ∃ answer, Chain.registering 1 (.ok strayed) = .done answer ∧
        errorOf? answer = some error := by
  intro call ended error
  have hactive : Chain.astray.state.connection.state = .active := rfl
  have hrequests : Chain.Requests straying Chain.astray call 1 () := .blockHash rfl
  have hround : strayed.round ≠ 1 := by decide
  have herror : otherRound 1 strayed = error := by decide +kernel
  have hblock : straying (.block 1) () = (.ok strayed, ()) := rfl
  obtain ⟨halone, hamong⟩ := otherRound_refused_iff straying Chain.astray hactive
  obtain ⟨hrefused, hsame⟩ := (halone hrequests hblock hround).mpr (by simp [call])
  have hbegun : Interleaved Chain.api (fun _ _ => True) Chain.astray.state
      [⟨⟨.direct call, Chain.api.invoke (.direct call)⟩, [], [Chain.astray.state]⟩]
      Chain.astray.state := Interleaved.initial.begin _
  obtain ⟨_, since, hwaiting⟩ := hbegun.toQuestion straying ()
  have hquestion : (Chain.api.invoke (.direct call)).toQuestion.run straying Chain.astray.state () =
      (.ask (.block 1) (Chain.registering 1), Chain.astray.state, ()) :=
    Chain.run_toQuestion_blockHash straying () hactive rfl
  rw [hquestion] at hwaiting
  change Interleaved Chain.api _ _ ([] ++ _ :: []) _ at hwaiting
  obtain ⟨_, hcall, -, hother⟩ := hamong hwaiting
  obtain rfl := Option.some.inj hcall
  obtain ⟨answer, hdone, hends⟩ := hother strayed hround
  exact ⟨hactive, hrequests, hblock, hround, herror ▸ hrefused, hsame, ⟨since, hwaiting⟩, answer,
    hdone, herror ▸ hends.mpr (by simp [call])⟩

end Algod

end ChainIndex
