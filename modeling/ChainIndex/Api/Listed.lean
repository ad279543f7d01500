import ChainIndex.Api.Basic

/-!
# ChainIndex.Api.Listed

A chain api that serves given blocks with given events.

It is always active, and can be told which methods it does not serve and for which blocks
it fails.
-/

namespace ChainIndex

/-- Blocks with their events, and what is said about them. -/
structure BlockList where
  blocks : List (SignedBlock × List EventRecord)
  /-- The runtime version of the blocks that have none of their own. -/
  specVersion : UInt32
  /-- The runtime versions of single blocks, by the text of their hash. -/
  runtimes : List (String × UInt32)
  /-- The names of the methods that are not served. -/
  unserved : List String
  /-- The blocks, by the text of their hash, whose runtime version cannot be had. -/
  withoutRuntime : List String
  /-- The blocks, by the text of their hash, whose events cannot be had. -/
  withoutEvents : List String

namespace BlockList

/-- The block of a hash. -/
def find (s : BlockList) (hash : BlockHash) : Except ApiError (SignedBlock × List EventRecord) :=
  match s.blocks.find? fun b => b.1.hash = hash with
  | some b => .ok b
  | none => .error (.missingBlock hash)

/-- The hash of the first block of a number. -/
def blockHash (s : BlockList) (number : BlockNumber) : Except ApiError BlockHash :=
  match s.blocks.find? fun b => b.1.number = number with
  | some b => .ok b.1.hash
  | none => .error (.notFound number)

/-- The version of the runtime at a block; the last block has the empty text as hash. -/
def runtimeVersion (s : BlockList) (hash : Option BlockHash) : Except ApiError RuntimeVersion :=
  let name := (hash.map BlockHash.toText).getD ""
  if s.withoutRuntime.contains name then .error (.invalidResponse ("runtime " ++ name))
  else
    .ok ⟨"scripted", "scripted", 0, (s.runtimes.lookup name).getD s.specVersion, 0, 0,
      [("0xdf6acb689907609b", 4)]⟩

/-- The events of the blocks whose numbers lie between those of two blocks. -/
def eventsRange (s : BlockList) (first last : BlockHash) : Except ApiError (List EventRecord) := do
  let (a, _) ← s.find first
  let (b, _) ← s.find last
  let between := s.blocks.filter fun x => a.number ≤ x.1.number ∧ x.1.number ≤ b.number
  return between.flatMap Prod.snd

/-- The answer to a call. -/
def answer (s : BlockList) : (call : Call) → call.Answer
  | .connectionState => .active
  | .supports method => !s.unserved.contains method.name
  | .connect => .ok ()
  | .disconnect => ()
  | .runtimeVersion hash => s.runtimeVersion hash
  | .metadata _ =>
    .ok ⟨RuntimeMetadata.magicWord, 14, [⟨"balances", ["transfer"], ["Transfer"]⟩], none⟩
  | .chainName => .ok "scripted"
  | .genesisHash => (s.blockHash 0).map BlockHash.toText
  | .blockHash number => s.blockHash number
  | .finalizedHead =>
    match s.blocks.getLast? with
    | some b => .ok b.1.hash
    | none => .error (.notFound 0)
  | .header hash => (s.find hash).map fun b => b.1.header
  | .block hash => (s.find hash).map Prod.fst
  | .eventsAt hash =>
    if s.withoutEvents.contains hash.toText then
      .error (.invalidResponse ("events " ++ hash.toText))
    else (s.find hash).map Prod.snd
  | .eventsRange first last => s.eventsRange first last
  | .blockByNumber number => do
    let hash ← s.blockHash number
    (s.find hash).map Prod.fst

end BlockList

end ChainIndex
