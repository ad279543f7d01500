import ChainIndex.Proofs.Json.Formats
import ChainIndex.Proofs.Json.Omission

/-!
# ChainIndex.Proofs.Algod.Omission

Blocks that a node sends without the members that hold a zero value.

A node leaves out what is zero, so a block may come as an object with some of its members missing
(`Omits`), by itself or in an answer (`Body`).  Every part of a block but the genesis hash falls
back to the value that was left out (`ofJson?_of_omits`), and without a genesis hash there is no
block (`ofJson?_of_lacksGenesis`).  What holds of values holds of the texts that a node sends, too,
as the parts that a block does not have are dropped before anything is read
(`Body.ofText?_of_holds`).
-/

namespace ChainIndex.Algod.Block

open ChainIndex.Json

/-! ## Objects -/

/-- An object is that of a block but for members with zero values that are left out, other than the
genesis hash; it may have further members of other names, and all in any order. -/
def Omits (full short : Json) : Prop :=
  ∃ members members', full = .object members ∧ short = .object members' ∧
    Abridged (MayOmit (· ≠ "gh")) (Unused names) members members'

/-- A value has no genesis hash, neither by name nor, in an array, at its place. -/
def LacksGenesis : Json → Prop
  | .object members => ∀ member ∈ members, member.1 ≠ "gh"
  | .array items => items.length < 3
  | _ => True

/-- A block that is read from an object is read from one that omits zero values. -/
theorem ofJson?_of_omits {full short : Json} {b : Block} (h : Omits full short)
    (hread : ofJson? full = some b) : ofJson? short = some b := by
  obtain ⟨members, members', rfl, rfl, habridged⟩ := h
  simp only [ofJson?, Option.bind_eq_bind, Option.bind_eq_some_iff] at hread ⊢
  obtain ⟨m, hm, round, hround, prev, hprev, genesisHash, hgenesisHash, genesisId, hgenesisId,
    timestamp, htimestamp, seed, hseed, txnRoot, htxnRoot, protocol, hprotocol, transactions,
    htransactions, hb⟩ := hread
  obtain ⟨m', hm', hparts⟩ := members?_of_abridged habridged hm
  -- the genesis hash has no default, but it cannot be missing either
  have hgenesis : m'.required "gh" toString? = m.required "gh" toString? :=
    hparts.required (by simp)
  exact ⟨m', hm', round, hparts.defaulted readsZero_toUInt64? hround,
    prev, hparts.defaulted readsZero_toString? hprev,
    genesisHash, hgenesis.trans hgenesisHash,
    genesisId, hparts.defaulted readsZero_toString? hgenesisId,
    timestamp, hparts.defaulted readsZero_toInt64? htimestamp,
    seed, hparts.defaulted readsZero_toString? hseed,
    txnRoot, hparts.defaulted readsZero_toString? htxnRoot,
    protocol, hparts.defaulted readsZero_toString? hprotocol,
    transactions, hparts.defaulted readsZero_toList? htransactions, hb⟩

/-- Nothing is read of a value without a genesis hash. -/
theorem ofJson?_of_lacksGenesis {value : Json} (h : LacksGenesis value) : ofJson? value = none := by
  have hgh (m : Members) (hm : value.members? names = some m) : m.get? "gh" = none := by
    cases value with
    | object members =>
      obtain ⟨-, rfl⟩ := members?_object_eq_some_iff.mp hm
      refine List.lookup_eq_none_iff.mpr fun member hmember => ?_
      simpa using (h member (List.mem_of_mem_filter hmember)).symm
    | array items =>
      rw [members?, Option.ite_none_right_eq_some] at hm
      obtain rfl := Option.some.inj hm.2
      obtain _ | ⟨first, _ | ⟨second, _ | ⟨third, items⟩⟩⟩ := items
      · rfl
      · rfl
      · rfl
      · have hlength : (first :: second :: third :: items).length < 3 := h
        simp only [List.length_cons] at hlength
        omega
    | _ => cases hm
  rw [Option.eq_none_iff_forall_ne_some]
  intro b hb
  simp only [ofJson?, Option.bind_eq_bind, Option.bind_eq_some_iff] at hb
  obtain ⟨m, hm, -, -, -, -, _, hgenesis, -⟩ := hb
  rw [Members.required, hgh m hm] at hgenesis
  cases hgenesis

/-! ## Objects of a text -/

/-- An object of a text is that of a block but for members with zero values, as for values. -/
def DocumentOmits (full short : Document) : Prop :=
  ∃ members members', full = .object members ∧ short = .object members' ∧
    Abridged (Document.MayOmit (· ≠ "gh")) (Document.Unused names) members members'

/-- A document has no genesis hash, neither by name nor, in an array, at its place. -/
def DocumentLacksGenesis : Document → Prop
  | .object members => ∀ member ∈ members, member.1 ≠ some "gh"
  | .array items => items.length < 3
  | _ => True

/-- The block that is read of a document nested at most so deep. -/
def ofDocument? (depth : Nat) (document : Document) : Option Block :=
  ((document.prune shape).toJson? depth).bind ofJson?

/-- Of an object, only the parts of a block are read. -/
theorem prune_object (members : List (Option String × Document)) :
    (Document.object members).prune shape = .object (Document.usedMembers names members) := by
  rw [shape, Document.prune, Document.pruneMembers_any]

theorem prune_array (items : List Document) :
    (Document.array items).prune shape = .array items := by
  rw [shape, Document.prune, Document.prunePositions_any]

/-- A block that is read from a document is read from one that omits zero values. -/
theorem ofDocument?_of_omits {full short : Document} {depth : Nat} {b : Block}
    (h : DocumentOmits full short) (hread : ofDocument? depth full = some b) :
    ofDocument? depth short = some b := by
  obtain ⟨members, members', rfl, rfl, habridged⟩ := h
  cases depth with
  | zero => cases hread
  | succ depth =>
    simp only [ofDocument?, prune_object, Document.toJson?, Option.bind_eq_some_iff,
      Option.map_eq_some_iff] at hread ⊢
    obtain ⟨_, ⟨values, hvalues, rfl⟩, hb⟩ := hread
    obtain ⟨values', hvalues', habridged'⟩ := Document.values_of_abridged habridged hvalues
    exact ⟨_, ⟨values', hvalues', rfl⟩, ofJson?_of_omits ⟨_, _, rfl, rfl, habridged'⟩ hb⟩

/-- Nothing is read from a document without a genesis hash. -/
theorem ofDocument?_of_lacksGenesis {document : Document} {depth : Nat}
    (h : DocumentLacksGenesis document) : ofDocument? depth document = none := by
  rw [ofDocument?, Option.bind_eq_none_iff]
  intro value hvalue
  refine ofJson?_of_lacksGenesis ?_
  cases document with
  | object members =>
    rw [prune_object] at hvalue
    cases depth with
    | zero => cases hvalue
    | succ depth =>
      obtain ⟨values, hvalues, rfl⟩ := Option.map_eq_some_iff.mp hvalue
      rintro ⟨name, value⟩ hmem rfl
      obtain ⟨document, hmember, -⟩ := Document.exists_of_mem_membersToJson? hvalues hmem
      exact h _ (List.mem_of_mem_filter hmember) rfl
  | array items =>
    rw [prune_array] at hvalue
    cases depth with
    | zero => cases hvalue
    | succ depth =>
      obtain ⟨values, hvalues, rfl⟩ := Option.map_eq_some_iff.mp hvalue
      change values.length < 3
      rw [Document.length_of_itemsToJson? hvalues]
      exact h
  | null =>
    obtain rfl := Option.some.inj hvalue
    trivial
  | bool b =>
    obtain rfl := Option.some.inj hvalue
    trivial
  | number n =>
    obtain ⟨_, -, rfl⟩ := Option.map_eq_some_iff.mp hvalue
    trivial
  | string text =>
    obtain ⟨_, -, rfl⟩ := Option.map_eq_some_iff.mp hvalue
    trivial

/-! ## Bodies -/

/-- What a block is sent as: by itself, or as a member of an answer. -/
inductive Body
  | plain
  | answer

namespace Body

def format : Body → Format Block
  | plain => Block.format
  | answer => answerFormat

/-- How deep the block of a body may nest. -/
def depth : Body → Nat
  | plain => depthLimit
  | answer => depthLimit - 1

/-- A value is a body of this block, in an answer among whatever other members. -/
inductive Carries : Body → Json → Json → Prop
  | plain (block : Json) : Carries .plain block block
  | member {before after : List (String × Json)} (block : Json)
    (hothers : ∀ member ∈ before ++ after, Unused ["block"] member) :
    Carries .answer (.object (before ++ ("block", block) :: after)) block
  | item (block : Json) : Carries .answer (.array [block]) block

/-- A document is a body of this block, in an answer among whatever other members. -/
inductive CarriesDocument : Body → Document → Document → Prop
  | plain (block : Document) : CarriesDocument .plain block block
  | member {before after : List (Option String × Document)} (block : Document)
    (hothers : ∀ member ∈ before ++ after, Document.Unused ["block"] member) :
    CarriesDocument .answer (.object (before ++ (some "block", block) :: after)) block
  | item (block : Document) : CarriesDocument .answer (.array [block]) block

/-- A text is a body of this block. -/
def Holds (body : Body) (text : String) (block : Document) : Prop :=
  ∃ document, Document.read text = some document ∧ body.CarriesDocument document block

variable {body : Body}

/-- What is read of a body is what is read of its block. -/
theorem read_of_carries {value block : Json} (h : body.Carries value block) :
    body.format.read value = ofJson? block := by
  cases h with
  | plain => rfl
  | member _ hothers =>
    simp [format, answerFormat, answerOfJson?, members?_of_unused hothers, Members.required]
  | item => rfl

/-- What is read of a text is what is read of the block it holds. -/
theorem ofText?_of_holds {text : String} {block : Document} (h : body.Holds text block) :
    body.format.ofText? text = ofDocument? body.depth block := by
  obtain ⟨document, hdocument, hcarries⟩ := h
  have htext : body.format.ofText? text =
      ((document.prune body.format.shape).toJson? depthLimit).bind body.format.read := by
    rw [Format.ofText?, Json.ofText?, hdocument]
    rfl
  rw [htext]
  cases hcarries with
  | plain => rfl
  | member _ hothers =>
    have hvalue : (Document.object [(some "block", block.prune shape)]).toJson? depthLimit =
        ((block.prune shape).toJson? Body.answer.depth).map fun value =>
          .object [("block", value)] := Document.toJson?_object_singleton ..
    have hread (value : Json) : Body.answer.format.read (.object [("block", value)]) =
        ofJson? value := read_of_carries (@Carries.member [] [] value (by simp))
    have hshape : Body.answer.format.shape = .record [("block", shape)] := rfl
    rw [hshape, Document.prune_of_unused hothers, hvalue, Option.bind_map]
    exact congrArg _ (funext hread)
  | item =>
    have hvalue : (Document.array [block.prune shape]).toJson? depthLimit =
        ((block.prune shape).toJson? Body.answer.depth).map fun value => .array [value] :=
      Document.toJson?_array_singleton ..
    have hread (value : Json) : Body.answer.format.read (.array [value]) = ofJson? value :=
      read_of_carries (.item value)
    have hpruned : (Document.array [block]).prune Body.answer.format.shape =
        .array [block.prune shape] := rfl
    rw [hpruned, hvalue, Option.bind_map]
    exact congrArg _ (funext hread)

end Body

/-! ## What is lost -/

/-- Whatever block a node sends, by itself or in an answer: the members that hold zero values may be
left out, all but the genesis hash, and others be added, and all come in any order; the block is
read as it was.  The same goes for texts, where the members that are added need not even be
readable.  Without the genesis hash nothing is read. -/
theorem omission_lossless (body : Body) :
    (∀ (b : Block) (short value : Json), Omits b.toJson short → body.Carries value short →
      body.format.read value = some b) ∧
    (∀ value block : Json, body.Carries value block → LacksGenesis block →
      body.format.read value = none) ∧
    (∀ (text text' : String) (full short : Document) (b : Block), body.Holds text full →
      body.Holds text' short → DocumentOmits full short → body.format.ofText? text = some b →
      body.format.ofText? text' = some b) ∧
    ∀ (text : String) (block : Document), body.Holds text block → DocumentLacksGenesis block →
      body.format.ofText? text = none := by
  refine ⟨?_, ?_, ?_, ?_⟩
  · intro b short value homits hcarries
    rw [Body.read_of_carries hcarries]
    exact ofJson?_of_omits homits b.ofJson?_toJson
  · intro value block hcarries hlacks
    rw [Body.read_of_carries hcarries]
    exact ofJson?_of_lacksGenesis hlacks
  · intro text text' full short b hfull hshort homits hread
    rw [Body.ofText?_of_holds hfull] at hread
    rw [Body.ofText?_of_holds hshort]
    exact ofDocument?_of_omits homits hread
  · intro text block hholds hlacks
    rw [Body.ofText?_of_holds hholds]
    exact ofDocument?_of_lacksGenesis hlacks

/-- The first block of a network, which has round 0, is sent without its round. -/
theorem omission_lossless_firstBlock :
    let b : Block := ⟨0, "", "SGO1GKSzyE7IEPItTxCByw9x8FmnrCDexi9/cOUJOiI=", "testnet-v1.0",
      1560211200, "", "", "", []⟩
    let short : Json := .object [("ts", .number (.natural 1560211200)), ("cert", .null),
      ("gen", .string "testnet-v1.0"),
      ("gh", .string "SGO1GKSzyE7IEPItTxCByw9x8FmnrCDexi9/cOUJOiI=")]
    let full : Document := .object [(some "rnd", .number (some (.natural 0))),
      (some "gh", .string (some "A"))]
    let bare : Document := .object [(some "cert", .number none), (some "gh", .string (some "A"))]
    let text := "\x7b\"rnd\":0,\"gh\":\"A\"\x7d"
    let text' := "\x7b\"cert\":1e999,\"gh\":\"A\"\x7d"
    Omits b.toJson short ∧ Body.answer.Carries (.object [("block", short)]) short ∧
      Body.answer.format.read (.object [("block", short)]) = some b ∧
      LacksGenesis (.object []) ∧ Body.plain.format.read (.object []) = none ∧
      Body.plain.Holds text full ∧ Body.plain.Holds text' bare ∧ DocumentOmits full bare ∧
      Body.plain.format.ofText? text = some ⟨0, "", "A", "", 0, "", "", "", []⟩ ∧
      Body.plain.format.ofText? text' = some ⟨0, "", "A", "", 0, "", "", "", []⟩ ∧
      Body.plain.Holds "null" .null ∧ DocumentLacksGenesis .null ∧
      Body.plain.format.ofText? "null" = none := by
  intro b short full bare text text'
  have homits : Omits b.toJson short := by
    refine ⟨_, _, rfl, rfl, [("gh", .string b.genesisHash), ("gen", .string b.genesisId),
      ("ts", .ofInt64 b.timestamp)], [("rnd", .ofUInt64 0), ("prev", .string ""),
      ("seed", .string ""), ("txn", .string ""), ("proto", .string ""), ("txns", .array [])],
      [("cert", .null)], by decide +kernel, by decide +kernel, ?_, ?_⟩
    · simp only [List.forall_mem_cons, MayOmit]
      exact ⟨⟨by decide, .number⟩, ⟨by decide, .text⟩, ⟨by decide, .text⟩, ⟨by decide, .text⟩,
        ⟨by decide, .text⟩, ⟨by decide, .list⟩, nofun⟩
    · simp [Unused, names]
  have hcarries : Body.answer.Carries (.object [("block", short)]) short :=
    @Body.Carries.member [] [] short (by simp)
  have hlacks : LacksGenesis (.object []) := by simp [LacksGenesis]
  -- the texts differ in their first member only
  have hlast (fuel : Nat) : Document.readMembers (fuel + 2) "\"gh\":\"A\"\x7d".toList =
      some ([(some "gh", .string (some "A"))], []) := by
    have hname : Document.readString "gh\":\"A\"\x7d".toList =
        some (some "gh", ":\"A\"\x7d".toList) := by decide
    have hvalue : Document.readString "A\"\x7d".toList = some (some "A", "\x7d".toList) := by decide
    simp only [String.reduceToList] at hname hvalue ⊢
    simp [Document.readMembers, Document.readValue, Document.skipBlanks, hname, hvalue]
  have hfull : Document.read text = some full := by
    have htext : text.toList = '\x7b' :: '"' :: "rnd\":0,\"gh\":\"A\"\x7d".toList := by decide
    have hname : Document.readString "rnd\":0,\"gh\":\"A\"\x7d".toList =
        some (some "rnd", ":0,\"gh\":\"A\"\x7d".toList) := by decide
    have hnumeral : Numeral.read "0,\"gh\":\"A\"\x7d".toList =
        some (⟨false, [0], none, none⟩, ",\"gh\":\"A\"\x7d".toList) := by decide
    have hnumber : (⟨false, [0], none, none⟩ : Numeral).toNumber = some (.natural 0) := by decide
    refine Document.read_object htext fun fuel => ?_
    simp only [String.reduceToList] at hname hnumeral hlast ⊢
    refine Document.readMembers_cons hname ?_ (hlast fuel)
    simp [Document.readValue, Document.skipBlanks, hnumeral, hnumber]
  have hbare : Document.read text' = some bare := by
    have htext : text'.toList = '\x7b' :: '"' :: "cert\":1e999,\"gh\":\"A\"\x7d".toList := by
      decide
    have hname : Document.readString "cert\":1e999,\"gh\":\"A\"\x7d".toList =
        some (some "cert", ":1e999,\"gh\":\"A\"\x7d".toList) := by decide
    have hnumeral : Numeral.read "1e999,\"gh\":\"A\"\x7d".toList =
        some (⟨false, [1], none, some (false, [9, 9, 9])⟩, ",\"gh\":\"A\"\x7d".toList) := by
      decide
    have hnumber : (⟨false, [1], none, some (false, [9, 9, 9])⟩ : Numeral).toNumber = none := by
      decide +kernel
    refine Document.read_object htext fun fuel => ?_
    simp only [String.reduceToList] at hname hnumeral hlast ⊢
    refine Document.readMembers_cons hname ?_ (hlast fuel)
    simp [Document.readValue, Document.skipBlanks, hnumeral, hnumber]
  have hholds : Body.plain.Holds text full := ⟨full, hfull, .plain full⟩
  have hholds' : Body.plain.Holds text' bare := ⟨bare, hbare, .plain bare⟩
  have homits' : DocumentOmits full bare := by
    refine ⟨_, _, rfl, rfl, [(some "gh", .string (some "A"))],
      [(some "rnd", .number (some (.natural 0)))], [(some "cert", .number none)],
      .swap .., .swap .., ?_, ?_⟩
    · simpa [Document.MayOmit] using Document.IsZero.number
    · simp [Document.Unused, names]
  have hread : Body.plain.format.ofText? text = some ⟨0, "", "A", "", 0, "", "", "", []⟩ := by
    decide +kernel
  have hholdsNull : Body.plain.Holds "null" .null := ⟨.null, rfl, .plain .null⟩
  exact ⟨homits, hcarries, (omission_lossless .answer).1 b short _ homits hcarries, hlacks,
    (omission_lossless .plain).2.1 _ _ (.plain _) hlacks, hholds, hholds', homits', hread,
    (omission_lossless .plain).2.2.1 text text' full bare _ hholds hholds' homits' hread,
    hholdsNull, trivial, (omission_lossless .plain).2.2.2 "null" .null hholdsNull trivial⟩

end ChainIndex.Algod.Block
