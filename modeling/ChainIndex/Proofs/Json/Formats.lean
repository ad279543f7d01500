import ChainIndex.Algod.Block
import ChainIndex.Block.Event
import ChainIndex.Family
import ChainIndex.Index.Filter
import ChainIndex.Proofs.Block.Hash
import ChainIndex.Proofs.Json.Members
import ChainIndex.Substrate.Answer

/-!
# ChainIndex.Proofs.Json.Formats

Every written form of a value is read back as the value.

The lemmas go through the values from the inside out, one for each written form.  Where a value has
an optional part that may be any JSON value, a part that is `null` is written as an absent one is,
and is read as absent; such a value is not read from any form, and all others are read back
(`formats_faithful`).
-/

namespace ChainIndex

open Json

/-! ## Hashes -/

/-- A hash is read from its written form. -/
@[simp] theorem BlockHash.ofJson?_toJson (hash : BlockHash) : ofJson? hash.toJson = some hash := by
  simp [ofJson?, toJson, ofText_toText, Except.toOption]

/-! ## Blocks -/

@[simp] theorem Header.digestOfJson?_digestToJson (logs : List String) :
    digestOfJson? (digestToJson logs) = some logs := by
  simp [digestOfJson?, digestToJson, Members.required]

@[simp] theorem Header.ofJson?_toJson (header : Header) : ofJson? header.toJson = some header := by
  simp [ofJson?, toJson, Members.required]

@[simp] theorem Extrinsic.ofJson?_toJson (call : Extrinsic) : ofJson? call.toJson = some call := by
  simp [ofJson?, toJson, Members.required, Members.optional]

/-- The header and the extrinsics of a block are read from the written form of its body. -/
@[simp] theorem SignedBlock.bodyOfJson?_bodyToJson (block : SignedBlock) :
    bodyOfJson? block.bodyToJson = some (block.header, block.extrinsics) := by
  simp [bodyOfJson?, bodyToJson, Members.required, toList?_ofList Extrinsic.ofJson?_toJson]

/-- A block is read from its written form, unless its justifications are `null`, which counts as
none. -/
theorem SignedBlock.ofJson?_toJson {block : SignedBlock} (h : block.justifications ≠ some .null) :
    ofJson? block.toJson = some block := by
  simp [ofJson?, toJson, Members.required, Members.optional, toOption?_toAny?_ofOption h]

/-- A block that was read never has `null` for its justifications. -/
theorem SignedBlock.justifications_ne_null {value : Json} {block : SignedBlock}
    (h : ofJson? value = some block) : block.justifications ≠ some .null := by
  simp only [ofJson?, Option.bind_eq_bind, Option.bind_eq_some_iff] at h
  obtain ⟨m, -, body, -, justifications, hjustifications, hblock⟩ := h
  obtain rfl := Option.some.inj hblock
  exact Members.ne_null_of_optional hjustifications

/-! ## Events -/

/-- A phase is read from its written form, which is its name alone or with the place of an
extrinsic. -/
@[simp] theorem Phase.ofJson?_toJson (phase : Phase) : ofJson? phase.toJson = some phase := by
  cases phase with
  | applyExtrinsic index => simp [ofJson?, toJson]
  | finalization => rfl
  | initialization => rfl

@[simp] theorem Event.ofJson?_toJson (event : Event) : ofJson? event.toJson = some event := by
  simp [ofJson?, toJson, Members.required]

@[simp] theorem EventRecord.ofJson?_toJson (record : EventRecord) :
    ofJson? record.toJson = some record := by
  simp [ofJson?, toJson, Members.required, toList?_ofList BlockHash.ofJson?_toJson]

/-! ## Runtimes -/

@[simp] theorem namedVersionOfJson?_namedVersionToJson (entry : String × UInt32) :
    namedVersionOfJson? (namedVersionToJson entry) = some entry := by
  simp [namedVersionOfJson?, namedVersionToJson]

/-- A version is read from its written form. -/
theorem RuntimeVersion.ofJson?_toJson (version : RuntimeVersion) :
    ofJson? version.toJson = some version := by
  simp [ofJson?, toJson, names, Members.required,
    toList?_ofList namedVersionOfJson?_namedVersionToJson]

/-- A version is read from its written form as one that a node sends, too. -/
theorem RuntimeVersion.ofNodeJson?_toJson (version : RuntimeVersion) :
    ofNodeJson? version.toJson = some version := by
  simp [ofNodeJson?, toJson, names, Members.required, Members.defaulted,
    toList?_ofList namedVersionOfJson?_namedVersionToJson]

@[simp] theorem ModuleMetadata.ofJson?_toJson (m : ModuleMetadata) :
    ofJson? m.toJson = some m := by
  simp [ofJson?, toJson, Members.required]

theorem RuntimeMetadata.ofJson?_toJson (m : RuntimeMetadata) : ofJson? m.toJson = some m := by
  simp [ofJson?, toJson, Members.required, Members.optional,
    toList?_ofList ModuleMetadata.ofJson?_toJson]

/-! ## Filters and families -/

/-- A range is read from its written form, in which both bounds stand. -/
@[simp] theorem VersionRange.ofJson?_toJson (range : VersionRange) :
    ofJson? range.toJson = some range := by
  have hbound (bound : Option UInt32) :
      toOption? toUInt32? (ofOption ofUInt32 bound) = some bound :=
    toOption?_ofOption bound fun n _ => ⟨by simp [ofUInt32, ofUInt64], toUInt32?_ofUInt32 n⟩
  simp [ofJson?, toJson, toList?, hbound]

/-- A condition is read from its written form, in which all parts stand. -/
theorem Condition.ofJson?_toJson (c : Condition) : ofJson? c.toJson = some c := by
  have hversion : toOption? VersionRange.ofJson? (ofOption VersionRange.toJson c.specVersion) =
      some c.specVersion :=
    toOption?_ofOption _ fun range _ => ⟨by simp [VersionRange.toJson], range.ofJson?_toJson⟩
  have hsuccess : toOption? toBool? (ofOption .bool c.success) = some c.success :=
    toOption?_ofOption _ fun b _ => ⟨by simp, rfl⟩
  simp [ofJson?, toJson, Members.defaulted, hversion, hsuccess]

theorem ChainFamily.ofJson?_toJson (family : ChainFamily) :
    ofJson? family.toJson = some family := by
  cases family <;> rfl

/-! ## Answers of nodes -/

/-- The status of a node is read from its written form. -/
theorem Algod.NodeStatus.ofJson?_toJson (status : NodeStatus) :
    ofJson? status.toJson = some status := by
  simp [ofJson?, toJson, names, Members.required, Members.defaulted]

/-- A block of a round is read from its written form, in which all parts stand. -/
@[simp] theorem Algod.Block.ofJson?_toJson (block : Block) : ofJson? block.toJson = some block := by
  simp [ofJson?, toJson, names, Members.required, Members.defaulted]

/-- A block of a round is read from an answer that holds it. -/
theorem Algod.Block.answerOfJson?_answerToJson (block : Block) :
    answerOfJson? block.answerToJson = some block := by
  simp [answerOfJson?, answerToJson, Members.required]

namespace Substrate

@[simp] theorem NodeHeader.digestOfJson?_digestToJson (logs : List String) :
    digestOfJson? (Header.digestToJson logs) = some logs := by
  simp [digestOfJson?, Header.digestToJson, Members.defaulted]

@[simp] theorem NodeHeader.ofJson?_toJson (header : NodeHeader) :
    ofJson? header.toJson = some header := by
  simp [ofJson?, toJson, names, Members.required, Members.defaulted]

@[simp] theorem NodeBlock.ofJson?_toJson (block : NodeBlock) :
    ofJson? block.toJson = some block := by
  simp [ofJson?, toJson, Members.required, Members.defaulted]

/-- A block that a node sends is read from its written form, with the same exception for `null`. -/
theorem NodeSignedBlock.ofJson?_toJson {block : NodeSignedBlock}
    (h : block.justifications ≠ some .null) : ofJson? block.toJson = some block := by
  simp [ofJson?, toJson, Members.required, Members.defaulted, toOption?_toAny?_ofOption h]

/-- A block that was read from a node never has `null` for its justifications. -/
theorem NodeSignedBlock.justifications_ne_null {value : Json} {block : NodeSignedBlock}
    (h : ofJson? value = some block) : block.justifications ≠ some .null := by
  simp only [ofJson?, Option.bind_eq_bind, Option.bind_eq_some_iff] at h
  obtain ⟨m, -, body, -, justifications, hjustifications, hblock⟩ := h
  obtain rfl := Option.some.inj hblock
  exact Members.ne_null_of_defaulted hjustifications

end Substrate

/-- An error is read from its written form, unless its data is `null`, which counts as none. -/
theorem JsonRpc.RpcError.ofJson?_toJson {e : RpcError} (h : e.data ≠ some .null) :
    ofJson? e.toJson = some e := by
  simp [ofJson?, toJson, Members.required, Members.optional, toOption?_toAny?_ofOption h]

/-- An error that was read never has `null` for its data. -/
theorem JsonRpc.RpcError.data_ne_null {value : Json} {e : RpcError}
    (h : ofJson? value = some e) : e.data ≠ some .null := by
  simp only [ofJson?, Option.bind_eq_bind, Option.bind_eq_some_iff] at h
  obtain ⟨m, -, code, -, message, -, data, hdata, he⟩ := h
  obtain rfl := Option.some.inj he
  exact Members.ne_null_of_optional hdata

/-! ## All written forms -/

/-- Every value is read back from its written form, unless it has an optional part that is present
and `null`; no such value is read from anything; and so whatever a value was read from, be it a form
with missing or further members, an array, another name or another spelling of a hash, what is then
written is read as the same value. -/
theorem formats_faithful :
    BlockHash.format.Faithful (fun _ => True) ∧
    Header.format.Faithful (fun _ => True) ∧
    Extrinsic.format.Faithful (fun _ => True) ∧
    SignedBlock.format.Faithful (fun block => block.justifications ≠ some .null) ∧
    Phase.format.Faithful (fun _ => True) ∧
    EventRecord.format.Faithful (fun _ => True) ∧
    RuntimeVersion.format.Faithful (fun _ => True) ∧
    RuntimeMetadata.format.Faithful (fun _ => True) ∧
    VersionRange.format.Faithful (fun _ => True) ∧
    Condition.format.Faithful (fun _ => True) ∧
    ChainFamily.format.Faithful (fun _ => True) ∧
    Algod.NodeStatus.format.Faithful (fun _ => True) ∧
    Algod.Block.answerFormat.Faithful (fun _ => True) ∧
    Algod.Block.format.Faithful (fun _ => True) ∧
    Substrate.NodeHeader.format.Faithful (fun _ => True) ∧
    Substrate.NodeBlock.format.Faithful (fun _ => True) ∧
    Substrate.NodeSignedBlock.format.Faithful (fun block => block.justifications ≠ some .null) ∧
    RuntimeVersion.nodeFormat.Faithful (fun _ => True) ∧
    JsonRpc.RpcError.format.Faithful (fun e => e.data ≠ some .null) :=
  ⟨.of_forall BlockHash.ofJson?_toJson, .of_forall Header.ofJson?_toJson,
    .of_forall Extrinsic.ofJson?_toJson,
    .of_definite (fun _ => SignedBlock.ofJson?_toJson)
      fun _ _ => SignedBlock.justifications_ne_null,
    .of_forall Phase.ofJson?_toJson, .of_forall EventRecord.ofJson?_toJson,
    .of_forall RuntimeVersion.ofJson?_toJson, .of_forall RuntimeMetadata.ofJson?_toJson,
    .of_forall VersionRange.ofJson?_toJson, .of_forall Condition.ofJson?_toJson,
    .of_forall ChainFamily.ofJson?_toJson, .of_forall Algod.NodeStatus.ofJson?_toJson,
    .of_forall Algod.Block.answerOfJson?_answerToJson, .of_forall Algod.Block.ofJson?_toJson,
    .of_forall Substrate.NodeHeader.ofJson?_toJson, .of_forall Substrate.NodeBlock.ofJson?_toJson,
    .of_definite (fun _ => Substrate.NodeSignedBlock.ofJson?_toJson)
      fun _ _ => Substrate.NodeSignedBlock.justifications_ne_null,
    .of_forall RuntimeVersion.ofNodeJson?_toJson,
    .of_definite (fun _ => JsonRpc.RpcError.ofJson?_toJson)
      fun _ _ => JsonRpc.RpcError.data_ne_null⟩

/-- A range with its bounds left out is written with both. -/
example : VersionRange.ofJson? (.array []) = some ⟨none, none⟩ ∧
    VersionRange.toJson ⟨none, none⟩ = .array [.null, .null] := by decide

/-- A part that is `null` is written as an absent one is, and read as absent. -/
example : JsonRpc.RpcError.ofJson? (JsonRpc.RpcError.toJson ⟨-32000, "gone", some .null⟩) =
    some ⟨-32000, "gone", none⟩ := by decide

end ChainIndex
