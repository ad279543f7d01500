import ChainIndex.Proofs.Substrate.Numbers
import ChainIndex.Proofs.Text.Numeral

/-!
# ChainIndex.Proofs.Substrate.BlockNumber

Which numbers are read from the headers of a node.

A number is written in hexadecimal.  However many markers stand before it, and one sign, they are
left out; what is left is the number itself, digit for digit, or else there is a fault
(`NumberReads`).  No text stands for a number that is cut off at 64 bits: a number that is too large
is a fault, too, and a call for a header or a block of which the number cannot be read
fails (`blockNumber_exact`).
-/

namespace ChainIndex.Substrate

open ChainIndex.Task ChainIndex.Text JsonRpc

/-! ## The text of a number -/

namespace NodeHeader

/-- How a number is read of which `digits` are left without markers and sign. -/
structure NumberReads (header : NodeHeader) (digits : List Char) : Prop where
  /-- All markers at the start are left out, and then one sign at most. -/
  left : ∃ (markers : Nat) (rest : List Char),
    header.number.toList = (List.replicate markers ['0', 'x']).flatten ++ rest ∧
      (∀ more, rest ≠ '0' :: 'x' :: more) ∧
      (rest = '+' :: digits ∨ digits = rest ∧ ∀ more, rest ≠ '+' :: more)
  /-- The number is the one that the digits write. -/
  accepted : ∀ n, header.blockNumber = .ok n ↔ digits ≠ [] ∧ Hex.Writes digits n.toNat
  refused : (∃ fault, header.blockNumber = .error fault) ↔
    digits = [] ∨ (∃ c ∈ digits, ∀ value, ¬ IsHexDigit c value) ∨
      ∃ n, Hex.Writes digits n ∧ 2 ^ 64 ≤ n

/-- All markers at the front of a text are dropped, however many there are. -/
theorem dropMarkers_eq (text : List Char) :
    ∃ markers, text = (List.replicate markers ['0', 'x']).flatten ++ dropMarkers text ∧
      ∀ more, dropMarkers text ≠ '0' :: 'x' :: more := by
  fun_induction dropMarkers text with
  | case1 rest ih =>
    obtain ⟨markers, heq, hmore⟩ := ih
    refine ⟨markers + 1, ?_, hmore⟩
    rw [List.replicate_succ, List.flatten_cons, List.append_assoc, ← heq]
    rfl
  | case2 text hmore => exact ⟨0, rfl, hmore⟩

/-- A number is read exactly of the digits that are left without markers and sign. -/
theorem blockNumber_eq_ok_iff {header : NodeHeader} {n : UInt64} :
    header.blockNumber = .ok n ↔
      dropSign (dropMarkers header.number.toList) ≠ [] ∧
        Hex.Writes (dropSign (dropMarkers header.number.toList)) n.toNat := by
  rw [blockNumber, map_ofNat_eq_ok_iff, Hex.extends_zero_iff]

/-- Whatever is left without markers and sign is how a number is read. -/
theorem numberReads_dropSign (header : NodeHeader) :
    NumberReads header (dropSign (dropMarkers header.number.toList)) where
  left := by
    obtain ⟨markers, heq, hmore⟩ := dropMarkers_eq header.number.toList
    exact ⟨markers, _, heq, hmore, dropSign_eq _⟩
  accepted _ := blockNumber_eq_ok_iff
  refused := by
    simp only [blockNumber, map_eq_error]
    exact readUnsigned_eq_error_iff

example : (⟨"", "0x0x+001A", "", "", []⟩ : NodeHeader).blockNumber = .ok 26 := by
  decide +kernel

/-! ## Numbers as they are written -/

/-- Digits alone have no marker to drop. -/
theorem dropMarkers_of_digits {digits : List Char}
    (h : ∀ c ∈ digits, ∃ value, IsHexDigit c value) : dropMarkers digits = digits := by
  unfold dropMarkers
  split
  · obtain ⟨value, hx⟩ := h 'x' (by simp)
    exact absurd hx.mem (by decide)
  · rfl

/-- Digits alone have no sign to drop. -/
theorem dropSign_of_digits {digits : List Char}
    (h : ∀ c ∈ digits, ∃ value, IsHexDigit c value) : dropSign digits = digits := by
  unfold dropSign
  split
  · obtain ⟨value, hsign⟩ := h '+' (by simp)
    exact absurd hsign.mem (by decide)
  · rfl

/-- A number is read from the text that it is written as. -/
theorem blockNumber_of_written {header : NodeHeader} {n : UInt64}
    (h : header.number = "0x" ++ hexDigits n.toNat) : header.blockNumber = .ok n := by
  have hwrites := Hex.writes_toDigits n.toNat
  have hdigits := Hex.exists_writes_iff.mp ⟨_, hwrites⟩
  have htext : header.number.toList = '0' :: 'x' :: Nat.toDigits 16 n.toNat := by
    simp [h, hexDigits]
  have hleft : dropSign (dropMarkers header.number.toList) = Nat.toDigits 16 n.toNat := by
    rw [htext, dropMarkers, dropMarkers_of_digits hdigits, dropSign_of_digits hdigits]
  rw [blockNumber_eq_ok_iff, hleft]
  exact ⟨Nat.toDigits_ne_nil, hwrites⟩

end NodeHeader

/-! ## Calls that look something up -/

section

variable {α β κ : Type} (server : Server Http.Exchange κ)

/-- What a lookup that must find something comes to, from what is read of its reply. -/
def Lookup.outcome (lookup : Lookup) (read : α → Except ApiError β) :
    Except Failure (Option α) → Except ApiError β
  | .ok (some a) => read a
  | .ok none => .error lookup.missing
  | .error failure => .error (.ofJsonRpc failure)

/-- A request is one exchange, and the next request has the next number. -/
theorem run_request (method : String) (parameters : List Json) (format : Json.Format α)
    (c : Connector) (k : κ) :
    (Connector.request method parameters format).run server c k =
      (Connector.readReply method format
          (server (.post c.url (Connector.requestBody method parameters c.nextId)) k).1,
        { c with nextId := c.nextId + 1 },
        (server (.post c.url (Connector.requestBody method parameters c.nextId)) k).2) := by
  have hsend (request : Http.Request) (c : Connector) (k : κ) :
      (Http.send request).run server c k = ((server request k).1, c, (server request k).2) := rfl
  simp only [Connector.request, Task.run_bind, Task.run_step, hsend]
  generalize server (.post c.url (Connector.requestBody method parameters c.nextId)) k = reply
  obtain ⟨answer, k'⟩ := reply
  change Option Http.Answer at answer
  cases answer <;> rfl

namespace Chain

/-- What is asked of the node is asked with the connector of the chain. -/
theorem attempt_onNode (asking : Node.Asking α) (c : Chain) (k : κ) :
    attempt server (onNode asking) c k =
      ((asking.run server c.connector k).1.mapError ApiError.ofJsonRpc,
        { c with connector := (asking.run server c.connector k).2.1 },
        (asking.run server c.connector k).2.2) := by
  unfold onNode
  rw [attempt_bind, attempt_lift, run_within _ _ _ _ _ (fun _ _ _ => rfl) (fun _ _ => rfl)
    fun _ => rfl]
  simp only [connectorPart]
  generalize asking.run server c.connector k = ended
  obtain ⟨asked, connector, k'⟩ := ended
  cases asked <;> rfl

/-- A lookup of an active chain comes to what is read of the reply to its request. -/
theorem attempt_lookup {format : Json.Format α} {read : α → Except ApiError β}
    {next : Option α → Attempt Chain Http.Exchange β} {c : Chain} (k : κ)
    (hactive : c.connection.state = .active) (method : Method) (lookup : Lookup)
    (hnone : next none = throw lookup.missing) (hsome : ∀ a, next (some a) = liftM (read a)) :
    (attempt server (do
        ensureActive method
        onNode (Connector.request lookup.method [lookup.parameter] format) >>= next) c k).1 =
      lookup.outcome read (Connector.readReply lookup.method format
        (server (.post c.connector.url (lookup.requestBody c.connector.nextId)) k).1) := by
  have hlook : attempt server (ensureActive method) c k =
      (c.connection.ensureActive method.name, c, k) := rfl
  rw [attempt_bind, hlook, Algod.Chain.ensureActive_of_active hactive]
  simp only
  rw [attempt_bind, attempt_onNode, run_request]
  simp only [Lookup.requestBody]
  cases Connector.readReply lookup.method format (server (.post c.connector.url
      (Connector.requestBody lookup.method [lookup.parameter] c.connector.nextId)) k).1 with
  | error failure => rfl
  | ok found =>
    cases found with
    | none => simp [hnone, Lookup.outcome]
    | some a =>
      simp only [mapError_ok, hsome, Lookup.outcome]
      cases read a <;> rfl

/-- What a call for a header comes to. -/
theorem call_header {s : Session Chain Http.Exchange κ}
    (hactive : s.state.connection.state = .active) (hash : BlockHash) :
    (s.call api server (.header hash)).1 =
      (Lookup.header hash).outcome (readHeader hash)
        (Connector.readReply "chain_getHeader" NodeHeader.format
          (server (.post s.state.connector.url
            ((Lookup.header hash).requestBody s.state.connector.nextId)) s.node).1) :=
  attempt_lookup server.recording (s.node, s.record) hactive .header (.header hash) rfl fun _ => rfl

/-- What a call for a block comes to. -/
theorem call_block {s : Session Chain Http.Exchange κ}
    (hactive : s.state.connection.state = .active) (hash : BlockHash) :
    (s.call api server (.block hash)).1 =
      (Lookup.block hash).outcome (readBlock hash)
        (Connector.readReply "chain_getBlock" NodeSignedBlock.format
          (server (.post s.state.connector.url
            ((Lookup.block hash).requestBody s.state.connector.nextId)) s.node).1) :=
  attempt_lookup server.recording (s.node, s.record) hactive .block (.block hash) rfl fun _ => rfl

/-- The error of a header of which the number cannot be read. -/
def misnumbered (header : NodeHeader) (fault : NumeralError) : ApiError :=
  .invalidResponse ("invalid block number " ++ header.number ++ ": " ++ fault.message)

/-- A header whose number cannot be read is refused. -/
theorem readHeader_of_fault {hash : BlockHash} {header : NodeHeader} {fault : NumeralError}
    (h : header.blockNumber = .error fault) :
    readHeader hash header = .error (misnumbered header fault) := by
  rw [readHeader, h]
  rfl

/-- A block whose number cannot be read is refused. -/
theorem readBlock_of_fault {hash : BlockHash} {block : NodeSignedBlock} {fault : NumeralError}
    (h : block.block.header.blockNumber = .error fault) :
    readBlock hash block = .error (misnumbered block.block.header fault) := by
  rw [readBlock, readHeader_of_fault h]
  rfl

end Chain

end

/-- Whatever a header has for its number, it is read digit for digit, as the number that its digits
write, or not at all; what a number is written as is read as this number.  Whatever node an active
chain asks, if it is given a header of which the number cannot be read, or a block with such a
header, it says so and fails. -/
theorem blockNumber_exact :
    (∀ header, ∃ digits, NodeHeader.NumberReads header digits) ∧
    (∀ (header : NodeHeader) (n : UInt64), header.number = "0x" ++ hexDigits n.toNat →
      header.blockNumber = .ok n) ∧
    ∀ {κ : Type} (server : Server Http.Exchange κ) (s : Session Chain Http.Exchange κ)
      (hash : BlockHash), s.state.connection.state = .active →
      let answer (lookup : Lookup) : Option Http.Answer := (server
        (.post s.state.connector.url (lookup.requestBody s.state.connector.nextId)) s.node).1
      (∀ header fault, header.blockNumber = .error fault →
        Connector.readReply "chain_getHeader" NodeHeader.format (answer (.header hash)) =
          .ok (some header) →
        (s.call Chain.api server (.header hash)).1 = .error (Chain.misnumbered header fault)) ∧
      ∀ block fault, block.block.header.blockNumber = .error fault →
        Connector.readReply "chain_getBlock" NodeSignedBlock.format (answer (.block hash)) =
          .ok (some block) →
        (s.call Chain.api server (.block hash)).1 =
          .error (Chain.misnumbered block.block.header fault) := by
  refine ⟨fun header => ⟨_, header.numberReads_dropSign⟩,
    fun _ _ => NodeHeader.blockNumber_of_written, ?_⟩
  intro κ server s hash hactive answer
  constructor
  · intro header fault hfault hanswer
    rw [Chain.call_header server hactive, hanswer]
    exact Chain.readHeader_of_fault hfault
  · intro block fault hfault hanswer
    rw [Chain.call_block server hactive, hanswer]
    exact Chain.readBlock_of_fault hfault

/-- The largest number is read, and the next one is not: asked for a header that has it, and for a
block with this header, a chain that was just connected says that the number is too large. -/
theorem blockNumber_exact_at_bound :
    let largest : NodeHeader := ⟨"", "0xffffffffffffffff", "", "", []⟩
    let next : NodeHeader := ⟨"", "0x10000000000000000", "", "", []⟩
    let header := "\x7b\"parentHash\":\"\",\"number\":\"0x10000000000000000\"\x7d"
    let answers := [
      "\x7b\"result\":\"chain\"\x7d",
      "\x7b\"result\":" ++ header ++ "\x7d",
      "\x7b\"result\":\x7b\"block\":\x7b\"header\":" ++ header ++ "\x7d\x7d\x7d"]
    let s : Session Chain Http.Exchange (List String) := .start (.ofUrl localUrl) answers
    let connected := (s.call Chain.api answeringInTurn .connect).2
    let asked := connected.call Chain.api answeringInTurn (.header .zero)
    let error : ApiError := .invalidResponse
      "invalid block number 0x10000000000000000: number too large to fit in target type"
    largest.number = "0x" ++ hexDigits (18446744073709551615 : UInt64).toNat ∧
      largest.blockNumber = .ok 18446744073709551615 ∧
      next.blockNumber = .error .tooLarge ∧
      connected.state.connection.state = .active ∧ asked.1 = .error error ∧
      asked.2.state.connection.state = .active ∧
      (asked.2.call Chain.api answeringInTurn (.block .zero)).1 = .error error := by
  intro largest next header answers s connected asked error
  have hwritten : largest.number = "0x" ++ hexDigits (18446744073709551615 : UInt64).toNat := by
    decide +kernel
  have hnext : next.blockNumber = .error .tooLarge := by decide +kernel
  have herror : Chain.misnumbered next .tooLarge = error := by decide +kernel
  have hactive : connected.state.connection.state = .active := by decide +kernel
  have hstill : asked.2.state.connection.state = .active := by decide +kernel
  refine ⟨hwritten, blockNumber_exact.2.1 largest _ hwritten, hnext, hactive, ?_, hstill, ?_⟩
  · rw [← herror]
    exact (blockNumber_exact.2.2 answeringInTurn connected .zero hactive).1 next _ hnext
      (by decide +kernel)
  · rw [← herror]
    exact (blockNumber_exact.2.2 answeringInTurn asked.2 .zero hstill).2 ⟨⟨next, []⟩, none⟩ _ hnext
      (by decide +kernel)

end ChainIndex.Substrate
