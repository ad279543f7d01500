import ChainIndex.Api.Request
import ChainIndex.Proofs.Block.Hash
import ChainIndex.Proofs.Task.Run

/-!
# ChainIndex.Proofs.Api.Parameter

How one parameter of a request is read.

A parameter is a hash or a number, and has to be given or may be absent.  It is read as the argument
that is held at its position (`Reads.required_eq_ok_iff`, `Reads.optional_eq_ok_iff`); where what is
given there does not fit it, the error is about this parameter (`Reads.required_of_misfit`,
`Reads.optional_of_misfit`).
-/

namespace ChainIndex

open ChainIndex.Task

/-! ## Parameters and their arguments -/

/-- What the value of a parameter has to be. -/
inductive ParameterKind where
  | hash
  | number

/-- A parameter of a method. -/
structure Parameter where
  kind : ParameterKind
  required : Bool

/-- What is given at a position: nothing if there is no value, or `null`. -/
def given? (parameters : List Json) (position : Nat) : Option Json :=
  match parameters[position]? with
  | none | some .null => none
  | some value => some value

/-- The values that a parameter may have. -/
inductive ParameterKind.Admits : ParameterKind → Json → Prop
  | hash {text : String} {hash : BlockHash} (h : hash.Denotes text) : Admits .hash (.string text)
  | number (number : BlockNumber) : Admits .number (.ofUInt64 number)

/-- Whether what is given may be given for a parameter. -/
def Parameter.Fits (p : Parameter) : Option Json → Prop
  | none => p.required = false
  | some value => p.kind.Admits value

/-- An error about a parameter: it names the method and the position, and says whether anything was
given there. -/
def ApiError.Blames (method : Method) (position : Nat) : Option Json → ApiError → Prop
  | none, e => e = .invalidParameter method position .missing ∧ e.message? =
      some ("Invalid params for " ++ method.name ++ ": missing param " ++ toString position)
  | some _, e => ∃ fault why, e = .invalidParameter method position fault ∧ e.message? =
      some ("Invalid params for " ++ method.name ++ ": param " ++ toString position ++ ": " ++ why)

/-- What a request gives for a parameter. -/
inductive Argument where
  | hash (hash : BlockHash)
  | number (number : BlockNumber)
  | absent

/-- What may be given for an argument. -/
inductive Argument.HeldBy : Argument → Option Json → Prop
  | hash {text : String} {hash : BlockHash} (h : hash.Denotes text) :
    HeldBy (.hash hash) (some (.string text))
  | number (number : BlockNumber) : HeldBy (.number number) (some (.ofUInt64 number))
  | absent : HeldBy .absent none

/-- Nothing may be given for an argument exactly if it is absent. -/
theorem Argument.heldBy_none_iff {a : Argument} : a.HeldBy none ↔ a = .absent := by
  constructor
  · intro h
    cases h
    rfl
  · intro h
    rw [h]
    exact .absent

namespace Request

variable {α : Type} {read : Json → Except ParameterFault α} {kind : ParameterKind}
  {argument : α → Argument} {method : Method} {parameters : List Json} {position : Nat} {a : α}
  {value : Json}

/-! ## Reading it -/

/-- A reader for the values of a kind of parameters, with the arguments that it makes of them. -/
structure Reads (read : Json → Except ParameterFault α) (kind : ParameterKind)
    (argument : α → Argument) : Prop where
  ok_iff (value : Json) (a : α) : read value = .ok a ↔ (argument a).HeldBy (some value)
  admits_iff (value : Json) : (∃ a, read value = .ok a) ↔ kind.Admits value
  ne_absent (a : α) : argument a ≠ .absent
  /-- What is given is never called missing. -/
  ne_missing (value : Json) : read value ≠ .error .missing

/-- A hash is read of the texts that denote it, and of nothing else. -/
theorem readHash_eq_ok_iff {hash : BlockHash} :
    readHash value = .ok hash ↔ ∃ text, value = .string text ∧ hash.Denotes text := by
  cases value with
  | string text =>
    simp only [readHash, Json.string.injEq, exists_eq_left', ← BlockHash.ofText_eq_ok_iff]
    cases BlockHash.ofText text <;> simp
  | _ => simp [readHash]

/-- A number is read of itself only. -/
theorem readNumber_eq_ok_iff {number : BlockNumber} :
    readNumber value = .ok number ↔ value = .ofUInt64 number := by
  unfold readNumber Json.ofUInt64
  split <;> simp_all

/-- The reader for hashes reads what may be given for one, and tells why else it does not. -/
theorem reads_hash : Reads readHash .hash .hash where
  ok_iff value hash := by
    rw [readHash_eq_ok_iff]
    constructor
    · intro h
      obtain ⟨text, rfl, hdenotes⟩ := h
      exact .hash hdenotes
    · intro h
      cases h with
      | hash hdenotes => exact ⟨_, rfl, hdenotes⟩
  admits_iff value := by
    simp only [readHash_eq_ok_iff]
    constructor
    · intro h
      obtain ⟨hash, text, rfl, hdenotes⟩ := h
      exact .hash hdenotes
    · intro h
      cases h with
      | hash hdenotes => exact ⟨_, _, rfl, hdenotes⟩
  ne_absent hash := nofun
  ne_missing value := by
    unfold readHash
    split
    · split <;> simp
    · simp

/-- The reader for numbers reads what may be given for one, and tells why else it does not. -/
theorem reads_number : Reads readNumber .number .number where
  ok_iff value number := by
    rw [readNumber_eq_ok_iff]
    constructor
    · intro h
      rw [h]
      exact .number number
    · intro h
      cases h with
      | number => rfl
  admits_iff value := by
    simp only [readNumber_eq_ok_iff]
    constructor
    · intro h
      obtain ⟨number, rfl⟩ := h
      exact .number number
    · intro h
      cases h with
      | number number => exact ⟨number, rfl⟩
  ne_absent number := nofun
  ne_missing value := by
    unfold readNumber
    split <;> simp

/-- A parameter that may be missing is absent if nothing is given for it, and read otherwise. -/
theorem optional_eq :
    optional read method parameters position =
      match given? parameters position with
      | none => .ok none
      | some value => ((read value).map some).mapError (.invalidParameter method position) := by
  unfold optional given?
  cases parameters[position]? with
  | none => rfl
  | some value =>
    cases value with
    | null => rfl
    | _ =>
      dsimp only
      cases read _ <;> rfl

theorem optional_of_given (h : given? parameters position = some value) :
    optional read method parameters position =
      ((read value).map some).mapError (.invalidParameter method position) := by
  rw [optional_eq, h]

theorem optional_of_absent (h : given? parameters position = none) :
    optional read method parameters position = .ok none := by
  rw [optional_eq, h]

theorem required_of_given (h : given? parameters position = some value) :
    required read method parameters position =
      (read value).mapError (.invalidParameter method position) := by
  rw [required, optional_of_given h]
  cases read value <;> rfl

theorem required_of_absent (h : given? parameters position = none) :
    required read method parameters position =
      .error (.invalidParameter method position .missing) := by
  rw [required, optional_of_absent h]
  rfl

/-- A fault in something that was given names its position. -/
theorem message_of_ne_missing {fault : ParameterFault} (h : fault ≠ .missing) (position : Nat) :
    ∃ why, fault.message position = "param " ++ toString position ++ ": " ++ why := by
  cases fault with
  | missing => contradiction
  | wrongKind found expected =>
    refine ⟨"invalid type: " ++ ParameterFault.describe found ++ ", expected " ++ expected, ?_⟩
    apply String.toList_inj.mp
    simp [ParameterFault.message]
  | negative found =>
    refine ⟨"invalid value: " ++ ParameterFault.describe (.number (.negative found)) ++
      ", expected u64", ?_⟩
    apply String.toList_inj.mp
    simp [ParameterFault.message]
  | badHash fault => exact ⟨fault.message, rfl⟩

/-- The error for a value that is not read blames its parameter. -/
theorem Reads.blames (hreads : Reads read kind argument) {fault : ParameterFault}
    (h : read value = .error fault) :
    ApiError.Blames method position (some value) (.invalidParameter method position fault) := by
  have hne : fault ≠ .missing := by
    intro hmissing
    rw [hmissing] at h
    exact hreads.ne_missing value h
  obtain ⟨why, hwhy⟩ := message_of_ne_missing hne position
  refine ⟨fault, why, rfl, ?_⟩
  apply congrArg some
  apply String.toList_inj.mp
  simp [hwhy]

/-- A parameter that is needed is read as the argument that it holds. -/
theorem Reads.required_eq_ok_iff (hreads : Reads read kind argument) :
    required read method parameters position = .ok a ↔
      (argument a).HeldBy (given? parameters position) := by
  cases hgiven : given? parameters position with
  | none =>
    have hne := hreads.ne_absent a
    rw [required_of_absent hgiven, Argument.heldBy_none_iff]
    simp only [reduceCtorEq, hne]
  | some value => rw [required_of_given hgiven, mapError_eq_ok, hreads.ok_iff]

/-- A parameter that may be absent is read as the argument that it holds. -/
theorem Reads.optional_eq_ok_iff (hreads : Reads read kind argument) {found : Option α} :
    optional read method parameters position = .ok found ↔
      (found.elim .absent argument).HeldBy (given? parameters position) := by
  cases hgiven : given? parameters position with
  | none =>
    rw [optional_of_absent hgiven, Argument.heldBy_none_iff]
    cases found with
    | none => simp
    | some a => simpa using hreads.ne_absent a
  | some value =>
    rw [optional_of_given hgiven, mapError_eq_ok, map_eq_ok]
    cases found with
    | none =>
      have hnot : ¬ Argument.absent.HeldBy (some value) := nofun
      simp [hnot]
    | some a => simp [hreads.ok_iff]

/-- A value that may not be given for a parameter is not read. -/
theorem Reads.exists_error (hreads : Reads read kind argument) (h : ¬ kind.Admits value) :
    ∃ fault, read value = .error fault := by
  cases hread : read value with
  | ok a => exact absurd ((hreads.admits_iff value).mp ⟨a, hread⟩) h
  | error fault => exact ⟨fault, rfl⟩

/-- What does not fit a parameter that must be there is reported for its position. -/
theorem Reads.required_of_misfit (hreads : Reads read kind argument)
    (h : ¬ Parameter.Fits ⟨kind, true⟩ (given? parameters position)) :
    ∃ e, required read method parameters position = .error e ∧
      e.Blames method position (given? parameters position) := by
  cases hgiven : given? parameters position with
  | none =>
    refine ⟨_, required_of_absent hgiven, rfl, ?_⟩
    apply congrArg some
    apply String.toList_inj.mp
    simp [ParameterFault.message]
  | some value =>
    rw [hgiven] at h
    obtain ⟨fault, hfault⟩ := hreads.exists_error h
    refine ⟨_, ?_, hreads.blames hfault⟩
    rw [required_of_given hgiven, hfault, mapError_error]

/-- What does not fit a parameter that may be missing is reported for its position. -/
theorem Reads.optional_of_misfit (hreads : Reads read kind argument)
    (h : ¬ Parameter.Fits ⟨kind, false⟩ (given? parameters position)) :
    ∃ e, optional read method parameters position = .error e ∧
      e.Blames method position (given? parameters position) := by
  cases hgiven : given? parameters position with
  | none =>
    rw [hgiven] at h
    exact absurd rfl h
  | some value =>
    rw [hgiven] at h
    obtain ⟨fault, hfault⟩ := hreads.exists_error h
    refine ⟨_, ?_, hreads.blames hfault⟩
    rw [optional_of_given hgiven, hfault]
    rfl

/-- What fits a parameter that must be there is read. -/
theorem Reads.required_of_fits (hreads : Reads read kind argument)
    (h : Parameter.Fits ⟨kind, true⟩ (given? parameters position)) :
    ∃ a, required read method parameters position = .ok a := by
  cases hgiven : given? parameters position with
  | none =>
    rw [hgiven] at h
    contradiction
  | some value =>
    rw [hgiven] at h
    obtain ⟨a, ha⟩ := (hreads.admits_iff value).mpr h
    exact ⟨a, by rw [required_of_given hgiven, ha, mapError_ok]⟩

end Request

end ChainIndex
