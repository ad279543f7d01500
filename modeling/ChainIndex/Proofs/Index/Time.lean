import ChainIndex.Index.Block
import ChainIndex.Proofs.Task.Run
import ChainIndex.Proofs.Text.Numeral

/-!
# ChainIndex.Proofs.Index.Time

Which time a block has.

The first call of a block that sets its time decides, and nothing before or after it.  If there is
none, the block has no time; otherwise the first argument of this call is the time
(`Extrinsic.GivesTime`), or else the block is refused, even if a later call has one
(`IndexedBlock.time_set_by_first`).
-/

namespace ChainIndex

open ChainIndex.Task

variable {block : SignedBlock} {call : Extrinsic} {value : Json} {time : UInt64}

/-! ## Times as values -/

/-- A value is a time: an unsigned integer of 64 bits, or the text of one, which is its decimal
digits after one sign at most. -/
inductive Json.IsTime : Json → UInt64 → Prop
  | number (time : UInt64) : IsTime (.number (.natural time)) time
  | text {text : String} {digits : List Char} {time : UInt64}
    (htext : text.toList = digits ∨ text.toList = '+' :: digits) (hdigits : digits ≠ [])
    (hwrites : Text.Decimal.Writes digits time.toNat) : IsTime (.string text) time

/-- A value is read as a time exactly if it is one. -/
theorem readTime?_eq_some_iff : readTime? value = some time ↔ value.IsTime time := by
  constructor
  · intro h
    unfold readTime? at h
    split at h
    · next n =>
      obtain rfl := Option.some.inj h
      exact .number n
    · next text =>
      have hread : Text.parseUnsigned 10 text = .ok time := by
        cases hparse : Text.parseUnsigned 10 text with
        | error fault => simp [hparse, Except.toOption] at h
        | ok n => simpa [hparse, Except.toOption] using h
      obtain ⟨digits, htext, hdigits, hwrites⟩ := Text.parseUnsigned_eq_ok_iff.mp hread
      exact .text htext hdigits hwrites
    · cases h
  · intro h
    cases h with
    | number => rfl
    | text htext hdigits hwrites =>
      have hread := Text.parseUnsigned_eq_ok_iff.mpr ⟨_, htext, hdigits, hwrites⟩
      simp [readTime?, hread, Except.toOption]

/-! ## Calls that set the time -/

/-- A call sets the time of its block. -/
def Extrinsic.SetsTime (call : Extrinsic) : Prop :=
  call.pallet = "timestamp" ∧ call.method = "set"

/-- The first argument of a call is a time. -/
def Extrinsic.GivesTime (call : Extrinsic) (time : UInt64) : Prop :=
  ∃ value, call.args.head? = some value ∧ value.IsTime time

/-- A call is the first one of a block that sets its time. -/
def SignedBlock.FirstToSetTime (block : SignedBlock) (call : Extrinsic) : Prop :=
  call.SetsTime ∧ ∃ before after, block.extrinsics = before ++ call :: after ∧
    ∀ earlier ∈ before, ¬ earlier.SetsTime

theorem Extrinsic.setsTime_iff : call.setsTime = true ↔ call.SetsTime := decide_eq_true_iff

theorem Extrinsic.readTime?_head_eq_some_iff :
    call.args.head?.bind readTime? = some time ↔ call.GivesTime time := by
  simp only [Option.bind_eq_some_iff, readTime?_eq_some_iff, GivesTime]

/-- Looking for a call that sets the time finds the first one. -/
theorem SignedBlock.find?_setsTime_eq_some_iff :
    block.extrinsics.find? Extrinsic.setsTime = some call ↔ block.FirstToSetTime call := by
  rw [List.find?_eq_some_iff_append]
  simp only [Bool.not_eq_true', ← Bool.not_eq_true, Extrinsic.setsTime_iff, FirstToSetTime]

/-- A block in which no call sets the time has none. -/
theorem SignedBlock.time_of_none (h : ∀ call ∈ block.extrinsics, ¬ call.SetsTime) :
    block.time = .ok none := by
  have hnone : block.extrinsics.find? Extrinsic.setsTime = none := by
    simpa only [List.find?_eq_none, Extrinsic.setsTime_iff] using h
  rw [time, hnone]

/-- The time is what the first argument is read as, of the first call that sets it. -/
theorem SignedBlock.time_of_first (h : block.FirstToSetTime call) :
    block.time = (call.args.head?.bind readTime?).elim (.error (.invalidTimestamp block.number))
      fun time => .ok (some time) := by
  simp only [time, find?_setsTime_eq_some_iff.mpr h]
  cases call.args.head?.bind readTime? <;> rfl

/-- The first call that sets the time gives it. -/
theorem SignedBlock.time_eq_ok_iff (h : block.FirstToSetTime call) {found : Option UInt64} :
    block.time = .ok found ↔ ∃ time, call.GivesTime time ∧ found = some time := by
  simp only [time_of_first h, ← Extrinsic.readTime?_head_eq_some_iff]
  cases call.args.head?.bind readTime? <;> simp [eq_comm]

/-- A first call that gives no time makes the block refused, with its number. -/
theorem SignedBlock.time_eq_error_iff (h : block.FirstToSetTime call) {e : FetchError} :
    block.time = .error e ↔
      (∀ time, ¬ call.GivesTime time) ∧ e = .invalidTimestamp block.number := by
  simp only [time_of_first h, ← Extrinsic.readTime?_head_eq_some_iff]
  cases call.args.head?.bind readTime? <;> simp [eq_comm]

/-- A time that cannot be read is reported with the number of the block. -/
theorem SignedBlock.time_eq_error {e : FetchError} :
    block.time = .error e ↔
      (∀ time, block.time ≠ .ok time) ∧ e = .invalidTimestamp block.number := by
  constructor
  · intro h
    refine ⟨fun time htime => by simp [h] at htime, ?_⟩
    unfold SignedBlock.time at h
    split at h
    · cases h
    · split at h
      · cases h
      · exact (Except.error.inj h).symm
  · rintro ⟨hnone, rfl⟩
    unfold SignedBlock.time at hnone ⊢
    split at hnone
    · exact absurd rfl (hnone none)
    · split at hnone
      · exact absurd rfl (hnone _)
      · rfl

/-! ## Blocks with their context -/

namespace IndexedBlock

/-- A block is taken with its context if its time can be read. -/
theorem ofBlock_eq (block : SignedBlock) (events : List EventRecord) (specVersion : UInt32) :
    ofBlock block events specVersion =
      block.time.map fun time => ⟨block, block.hash, specVersion, time, events⟩ := by
  unfold ofBlock
  cases block.time <;> rfl

/-- The times of two blocks are the same, if either has one. -/
theorem map_timestamp_ofBlock (block : SignedBlock) (events : List EventRecord)
    (specVersion : UInt32) :
    (ofBlock block events specVersion).toOption.map timestamp = block.time.toOption := by
  rw [ofBlock_eq]
  cases block.time <;> rfl

/-- A block in which no call sets the time is taken without a time.  Otherwise the first call that
sets it decides: the block is taken exactly if this call gives a time, and then with this time, and
else it is refused with its number.  Whatever else two blocks hold, they are alike in this if they
have this call in common.  Hash, events and version are what they were. -/
theorem time_set_by_first (block : SignedBlock) (events : List EventRecord)
    (specVersion : UInt32) :
    ((∀ call ∈ block.extrinsics, ¬ call.SetsTime) →
      ofBlock block events specVersion = .ok ⟨block, block.hash, specVersion, none, events⟩) ∧
    ∀ call, block.FirstToSetTime call →
      (∀ b, ofBlock block events specVersion = .ok b ↔
        ∃ time, call.GivesTime time ∧ b = ⟨block, block.hash, specVersion, some time, events⟩) ∧
      (∀ e, ofBlock block events specVersion = .error e ↔
        (∀ time, ¬ call.GivesTime time) ∧ e = .invalidTimestamp block.number) ∧
      ∀ (other : SignedBlock) (events' : List EventRecord) (specVersion' : UInt32),
        other.FirstToSetTime call →
        (ofBlock other events' specVersion').toOption.map timestamp =
          (ofBlock block events specVersion).toOption.map timestamp := by
  refine ⟨fun hnone => ?_, fun call hfirst => ⟨fun b => ?_, fun e => ?_, ?_⟩⟩
  · rw [ofBlock_eq, SignedBlock.time_of_none hnone]
    rfl
  · simp only [ofBlock_eq, map_eq_ok, SignedBlock.time_eq_ok_iff hfirst]
    constructor
    · rintro ⟨_, ⟨time, htime, rfl⟩, rfl⟩
      exact ⟨time, htime, rfl⟩
    · rintro ⟨time, htime, rfl⟩
      exact ⟨_, ⟨time, htime, rfl⟩, rfl⟩
  · rw [ofBlock_eq, map_eq_error, SignedBlock.time_eq_error_iff hfirst]
  · intro other events' specVersion' hother
    rw [map_timestamp_ofBlock, map_timestamp_ofBlock, SignedBlock.time_of_first hfirst,
      SignedBlock.time_of_first hother]
    cases call.args.head?.bind readTime? <;> rfl

/-- A time may be a text with a sign and leading zeros, and no call after the first counts, be it
that the first one gives a time or that it has a negative number instead. -/
theorem time_set_by_first_threeCalls :
    let other : Extrinsic := ⟨"balances", "transfer", [.number (.natural 1)], none, none⟩
    let set (value : Json) : Extrinsic := ⟨"timestamp", "set", [value], none, none⟩
    let signed (calls : List Extrinsic) : SignedBlock := ⟨⟨.zero, 7, .zero, []⟩, calls, none⟩
    let late := set (.number (.natural 5))
    let timed := signed [other, set (.string "+0042"), late]
    let refused := signed [other, set (.number (.negative (-1))), late]
    (∀ call ∈ (signed [other]).extrinsics, ¬ call.SetsTime) ∧
      ofBlock (signed [other]) [] 9 = .ok ⟨signed [other], .zero, 9, none, []⟩ ∧
      timed.FirstToSetTime (set (.string "+0042")) ∧
      ofBlock timed [] 9 = .ok ⟨timed, .zero, 9, some 42, []⟩ ∧
      refused.FirstToSetTime (set (.number (.negative (-1)))) ∧
      ofBlock refused [] 9 = .error (.invalidTimestamp 7) := by
  intro other set signed late timed refused
  have hnone : ∀ call ∈ (signed [other]).extrinsics, ¬ call.SetsTime := by
    simp [signed, other, Extrinsic.SetsTime]
  have htimed : timed.FirstToSetTime (set (.string "+0042")) :=
    SignedBlock.find?_setsTime_eq_some_iff.mp (by decide +kernel)
  have hrefused : refused.FirstToSetTime (set (.number (.negative (-1)))) :=
    SignedBlock.find?_setsTime_eq_some_iff.mp (by decide +kernel)
  have hgives : (set (.string "+0042")).GivesTime 42 :=
    Extrinsic.readTime?_head_eq_some_iff.mp (by decide +kernel)
  have hgivesNone (time : UInt64) : ¬ (set (.number (.negative (-1)))).GivesTime time := by
    rw [← Extrinsic.readTime?_head_eq_some_iff]
    exact nofun
  exact ⟨hnone, (time_set_by_first _ [] 9).1 hnone, htimed,
    (((time_set_by_first timed [] 9).2 _ htimed).1 _).mpr ⟨42, hgives, rfl⟩, hrefused,
    (((time_set_by_first refused [] 9).2 _ hrefused).2.1 _).mpr ⟨hgivesNone, rfl⟩⟩

end IndexedBlock

end ChainIndex
