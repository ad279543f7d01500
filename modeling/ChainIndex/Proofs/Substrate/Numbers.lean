import ChainIndex.Proofs.Api.NotFound
import ChainIndex.Proofs.Fetch.Blocks

/-!
# ChainIndex.Proofs.Substrate.Numbers

Which number a block has that a chain over a node of hashes gives for a height.

The height goes into one request and the hash that comes back into another, and the number of the
block is read from the second answer alone.  So the block has the number that was asked for
exactly if the two answers of the node go together (`Agree`), and a node may well answer
so that they do not (`number_ne_of_misnumbered`).  Blocks of a range have their heights for numbers
as long as all answers that were given meanwhile go together (`number_eq_height_iff`).
-/

namespace ChainIndex.Substrate

open ChainIndex.Task JsonRpc

/-! ## What is found -/

section

variable {α β : Type} {url : Url}

/-- An exchange in which a lookup finds something that is read as `b`. -/
def Finds (url : Url) (lookup : Lookup) (format : Json.Format α) (read : α → Except ApiError β)
    (x : Exchange Http.Exchange) (b : β) : Prop :=
  ∃ (id : Int32) (answer : Option Http.Answer) (a : α),
    x = ⟨.post url (lookup.requestBody id), answer⟩ ∧
      Connector.readReply lookup.method format answer = .ok (some a) ∧ read a = .ok b

/-- What was looked up shows in the request. -/
theorem Finds.eq_of_request {lookup other : Lookup} {format : Json.Format α}
    {read : α → Except ApiError β} {id : Int32} {answer : Option Http.Answer} {b : β}
    (h : Finds url other format read ⟨.post url (lookup.requestBody id), answer⟩ b) :
    other.method = lookup.method ∧ other.parameter = lookup.parameter ∧
      ∃ a, Connector.readReply other.method format answer = .ok (some a) ∧ read a = .ok b := by
  obtain ⟨_, _, a, hx, hreply, hread⟩ := h
  obtain ⟨hquery, hanswer⟩ := Exchange.mk.inj hx
  obtain rfl := eq_of_heq hanswer
  injection hquery with _ hbody
  obtain ⟨hmethod, hparameters⟩ := Connector.eq_of_requestBody hbody
  exact ⟨hmethod.symm, (List.cons.inj hparameters).1.symm, a, hreply, hread⟩

/-- How a lookup ends that must find something: with what is found in its only exchange, or with an
error if nothing is. -/
structure LooksUp (url : Url) (lookup : Lookup) (format : Json.Format α)
    (read : α → Except ApiError β) (made : List (Exchange Http.Exchange))
    (result : Except ApiError β) : Prop where
  asks : ∀ x ∈ made, ∃ id answer, x = ⟨.post url (lookup.requestBody id), answer⟩
  found : ∀ b, result = .ok b → ∃ x ∈ made, Finds url lookup format read x b
  only : ∀ x ∈ made, ∀ b, Finds url lookup format read x b → result = .ok b

namespace Chain

/-- A lookup that must find something ends with what is found, or with an error. -/
theorem fulfils_lookup {format : Json.Format α} {read : α → Except ApiError β}
    {next : Option α → Attempt Chain Http.Exchange β} (method : Method) (lookup : Lookup)
    (hnone : next none = throw lookup.missing) (hsome : ∀ a, next (some a) = liftM (read a)) :
    (do ensureActive method
        onNode (Connector.request lookup.method [lookup.parameter] format) >>= next).run.Fulfils
      (terms url) (LooksUp url lookup format read) := by
  have hidle (e : ApiError) : LooksUp url lookup format read [] (.error e) :=
    ⟨fun _ hx => (nomatch hx), fun _ h => (nomatch h), fun _ hx => (nomatch hx)⟩
  refine Fulfils.bind_attempt (P := fun made _ => made = [])
    (fulfils_read _ fun _ _ => rfl) ?_ fun made e hmade => hmade ▸ hidle e
  rintro made _ rfl
  -- what the lookup comes to is settled by the reply to its request
  have hends (id : Int32) (answer : Option Http.Answer) (result : Except ApiError β)
      (hresult : ∀ b, result = .ok b ↔ ∃ a,
        Connector.readReply lookup.method format answer = .ok (some a) ∧ read a = .ok b) :
      LooksUp url lookup format read [⟨.post url (lookup.requestBody id), answer⟩] result := by
    refine ⟨fun x hx => ⟨id, answer, List.mem_singleton.mp hx⟩, fun b hb => ?_, ?_⟩
    · obtain ⟨a, hreply, hread⟩ := (hresult b).mp hb
      exact ⟨_, List.mem_singleton_self _, id, answer, a, rfl, hreply, hread⟩
    · intro x hx b hfinds
      obtain rfl := List.mem_singleton.mp hx
      obtain ⟨-, -, hfound⟩ := hfinds.eq_of_request
      exact (hresult b).mpr hfound
  refine Fulfils.bind_attempt (fulfils_onNode (Connector.fulfils_request _ _ format)) ?_ ?_
  · rintro made found ⟨asked, heq, id, answer, rfl, hasked⟩
    obtain rfl := mapError_eq_ok.mp heq.symm
    cases found with
    | none =>
      rw [hnone]
      exact hends id answer _ fun b => by simp [← hasked]
    | some a =>
      rw [hsome]
      have hread := hends id answer (read a) fun b => by simp [← hasked]
      cases hresult : read a <;> exact hresult ▸ hread
  · rintro made e ⟨asked, heq, id, answer, rfl, hasked⟩
    obtain ⟨failure, rfl, rfl⟩ := mapError_eq_error.mp heq.symm
    exact hends id answer _ fun b => by simp [← hasked]

end Chain

end

/-! ## Blocks for heights -/

/-- An exchange in which a node gives a hash for a height. -/
def Gives (url : Url) (x : Exchange Http.Exchange) (height : BlockNumber) : BlockHash → Prop :=
  Finds url (.hashOf height) Connector.stringFormat (readHash .blockHash) x

/-- An exchange in which a node serves a block under a hash. -/
def Serves (url : Url) (x : Exchange Http.Exchange) (hash : BlockHash) : SignedBlock → Prop :=
  Finds url (.block hash) NodeSignedBlock.format (readBlock hash) x

/-- Answers that go together: under a hash that was given for a height, no block of another number
was served. -/
def Agree (url : Url) (made : List (Exchange Http.Exchange)) : Prop :=
  ∀ x ∈ made, ∀ y ∈ made, ∀ height hash block,
    Gives url x height hash → Serves url y hash block → block.number = height

/-- How a call for the block of a height ends: with a block that the node served under the hash that
it gave for the height. -/
structure GoesThroughHash (url : Url) (height : BlockNumber) (made : List (Exchange Http.Exchange))
    (result : Except ApiError SignedBlock) : Prop where
  found : ∀ block, result = .ok block →
    ∃ x ∈ made, ∃ y ∈ made, ∃ hash, Gives url x height hash ∧ Serves url y hash block
  only : ∀ x ∈ made, ∀ y ∈ made, ∀ other hash block, Gives url x other hash →
    Serves url y hash block → other = height ∧ result = .ok block

namespace GoesThroughHash

variable {url : Url} {height : BlockNumber} {made more : List (Exchange Http.Exchange)}

/-- Without a hash there is no block. -/
theorem of_no_hash {e e' : ApiError}
    (h : LooksUp url (.hashOf height) Connector.stringFormat (readHash .blockHash) made
      (.error e)) : GoesThroughHash url height made (.error e') := by
  refine ⟨fun _ hblock => (nomatch hblock), fun x hx y hy other hash block hgives _ => ?_⟩
  obtain ⟨id, answer, rfl⟩ := h.asks x hx
  obtain ⟨-, hparameter, -⟩ := hgives.eq_of_request
  cases hparameter
  cases h.only _ hx hash hgives

/-- A block that is found under the hash of a height is found through the hash. -/
theorem of_hash {hash : BlockHash} {result : Except ApiError SignedBlock}
    (h : LooksUp url (.hashOf height) Connector.stringFormat (readHash .blockHash) made
      (.ok hash))
    (hmore : LooksUp url (.block hash) NodeSignedBlock.format (readBlock hash) more result) :
    GoesThroughHash url height (made ++ more) result := by
  constructor
  · intro block hblock
    obtain ⟨x, hx, hgives⟩ := h.found hash rfl
    obtain ⟨y, hy, hserves⟩ := hmore.found block hblock
    exact ⟨x, List.mem_append_left _ hx, y, List.mem_append_right _ hy, hash, hgives, hserves⟩
  · intro x hx y hy other hash' block hgives hserves
    -- each of the two exchanges is of one kind only
    obtain hx | hx := List.mem_append.mp hx
    · obtain hy | hy := List.mem_append.mp hy
      · obtain ⟨id, answer, rfl⟩ := h.asks y hy
        exact absurd hserves.eq_of_request.1 (by simp [Lookup.method])
      · obtain ⟨id, answer, rfl⟩ := h.asks x hx
        obtain ⟨-, hparameter, -⟩ := hgives.eq_of_request
        cases hparameter
        cases h.only _ hx hash' hgives
        exact ⟨rfl, hmore.only y hy block hserves⟩
    · obtain ⟨id, answer, rfl⟩ := hmore.asks x hx
      exact absurd hgives.eq_of_request.1 (by simp [Lookup.method])

/-- The block has the number that was asked for exactly if the answers go together. -/
theorem number_iff {result : Except ApiError SignedBlock}
    (h : GoesThroughHash url height made result) :
    (∀ block, result = .ok block → block.number = height) ↔ Agree url made := by
  constructor
  · intro hnumber x hx y hy other hash block hgives hserves
    obtain ⟨rfl, hblock⟩ := h.only x hx y hy other hash block hgives hserves
    exact hnumber block hblock
  · intro hagree block hblock
    obtain ⟨x, hx, y, hy, hash, hgives, hserves⟩ := h.found block hblock
    exact hagree x hx y hy height hash block hgives hserves

end GoesThroughHash

namespace Chain

variable {url : Url}

/-- The block of a height is found through its hash, or there is an error. -/
theorem fulfils_blockByNumber (height : BlockNumber) :
    (api.blockByNumber height).run.Fulfils (terms url) (GoesThroughHash url height) := by
  refine Fulfils.bind_attempt
    (fulfils_lookup .blockHash (.hashOf height) rfl fun _ => rfl) ?_ ?_
  · intro made hash h
    exact (fulfils_lookup .block (.block hash) rfl fun _ => rfl).mono
      fun more result hmore => .of_hash h hmore
  · intro made e h
    exact .of_no_hash h

/-! ## Ranges -/

/-- The terms of a chain whose node gives no answers but those of some exchanges. -/
def termsOf (url : Url) (made : List (Exchange Http.Exchange)) : Terms Chain Http.Exchange :=
  ⟨(terms url).state, fun query answer => ⟨query, answer⟩ ∈ made⟩

variable {made : List (Exchange Http.Exchange)}

/-- A node whose answers agree gives the block of the number that is asked for. -/
theorem yields_blockByNumber (hagree : Agree url made) (height : BlockNumber) :
    Yields (termsOf url made) (api.blockByNumber height).run fun block =>
      block.number = height := by
  refine ((fulfils_blockByNumber height).restrict fun _ _ _ => trivial).mono
    fun asked result h block hblock => ?_
  obtain ⟨x, hx, y, hy, hash, hgives, hserves⟩ := h.1.found block hblock
  exact hagree x (h.2 x hx) y (h.2 y hy) height hash block hgives hserves

/-- No call leaves the terms of a node that gives some answers. -/
theorem fulfils_termsOf (call : Call) : (api call).Fulfils (termsOf url made) fun _ _ => True :=
  (((covers_blank url).fulfils_api call).restrict fun _ _ _ => trivial).mono fun _ _ _ => trivial

/-- A run of a task all of whose results are right as long as the answers go together. -/
theorem right_of_agree {κ α : Type} {t : Task Chain Http.Exchange (Except FetchError α)}
    {Q : α → Prop} (h : ∀ made, Agree url made → Yields (termsOf url made) t Q)
    (server : Server Http.Exchange κ) {s : Session Chain Http.Exchange κ}
    (hurl : s.state.connector.url = url) :
    ∃ made, (t.run server.recording s.state (s.node, s.record)).2.2.2 = s.record ++ made ∧
      (Agree url made → ∀ a,
        (t.run server.recording s.state (s.node, s.record)).1 = .ok a → Q a) := by
  obtain ⟨made, hmade⟩ := prefix_recording server t s.state s.node s.record
  refine ⟨made, hmade.symm, fun hagree => ?_⟩
  exact (h made hagree).run_of_record server hurl s.node hmade.symm fun x hx => hx

end Chain

/-- Whatever the node answers and whatever was called before, a block that a chain over a node of
hashes gives for a height has this number exactly if the answers of the node in this call go
together.  As long as all its answers during a fetch do, the blocks of the range, indexed or not,
are numbered from its first height to its last. -/
theorem number_eq_height_iff {κ : Type} (server : Server Http.Exchange κ)
    (s : Session Chain Http.Exchange κ) :
    let url := s.state.connector.url
    (∀ height, ∃ made,
      (s.call Chain.api server (.blockByNumber height)).2.record = s.record ++ made ∧
        ((∀ block, (s.call Chain.api server (.blockByNumber height)).1 = .ok block →
          block.number = height) ↔ Agree url made)) ∧
    ∀ limit schedule first last,
      let fetcher : Fetcher Chain Http.Exchange := ⟨Chain.api, limit, schedule⟩
      let range := (fetcher.range first last).run server.recording s.state (s.node, s.record)
      let indexed :=
        (fetcher.indexedRange first last).run server.recording s.state (s.node, s.record)
      (∃ made, range.2.2.2 = s.record ++ made ∧ (Agree url made → ∀ blocks, range.1 = .ok blocks →
        blocks.map SignedBlock.number = Heights.between first last)) ∧
      ∃ made, indexed.2.2.2 = s.record ++ made ∧ (Agree url made → ∀ blocks,
        indexed.1 = .ok blocks → blocks.map IndexedBlock.number = Heights.between first last) := by
  intro url
  refine ⟨fun height => ?_, fun limit schedule first last => ?_⟩
  · have hurl : (Chain.terms url).state s.state := rfl
    obtain ⟨made, hrecord, hthrough, -⟩ := Session.call_fulfils server
      (Chain.fulfils_blockByNumber height) (fun _ _ => trivial) hurl
    exact ⟨made, hrecord, hthrough.number_iff⟩
  · intro fetcher range indexed
    constructor
    · refine Chain.right_of_agree (fun made hagree => ?_) server rfl
      exact (Fetcher.yields_range (Chain.yields_blockByNumber hagree) first last).mono
        fun _ _ h blocks hblocks => map_number_eq (h blocks hblocks)
    · refine Chain.right_of_agree (fun made hagree => ?_) server rfl
      refine (Fetcher.yields_indexedRange (Chain.yields_blockByNumber hagree)
        (fun call _ => Chain.fulfils_termsOf call) first last).mono fun _ _ h blocks hblocks => ?_
      have hnumbers := map_number_eq (h blocks hblocks)
      rwa [List.map_map] at hnumbers

/-- A node that gives its answers one after the other. -/
def answeringInTurn : Server Http.Exchange (List String) := fun _ answers =>
  (answers.head?.map (⟨200, ·, true⟩), answers.tail)

/-- Asked for block 5, a chain that was just connected gives block 7, if the node serves it under
the hash that it gave for block 5; and so it does for the range from 5 to 5. -/
theorem number_ne_of_misnumbered :
    let digits := "1111111111111111111111111111111111111111111111111111111111111111"
    let header := "\x7b\"parentHash\":\"" ++ digits ++ "\",\"number\":\"0x7\"\x7d"
    let answers := [
      "\x7b\"result\":\"chain\"\x7d",
      "\x7b\"result\":\"" ++ digits ++ "\"\x7d",
      "\x7b\"result\":\x7b\"block\":\x7b\"header\":" ++ header ++ "\x7d\x7d\x7d"]
    let s : Session Chain Http.Exchange (List String) := .start (.ofUrl localUrl) answers
    let connected := (s.call Chain.api answeringInTurn .connect).2
    let fetcher : Fetcher Chain Http.Exchange := ⟨Chain.api, 1, .inOrder⟩
    let range := (fetcher.range 5 5).run answeringInTurn connected.state connected.node
    connected.state.connection.state = .active ∧
      (connected.call Chain.api answeringInTurn (.blockByNumber 5)).1.map SignedBlock.number =
        .ok 7 ∧
      range.1.map (List.map SignedBlock.number) = .ok [7] := by
  decide +kernel

end ChainIndex.Substrate
