import ChainIndex.Proofs.Api.Invocation
import ChainIndex.Proofs.Api.Parameter

/-!
# ChainIndex.Proofs.Api.Request

What is read as a request.

A method has some parameters, each at its position (`Method.signature`), and a request gives an
argument for each of them (`Request.arguments`).  All parameters are read in the same way, so what
is said of one goes for the requests of all methods: a list of parameters is read as a request
exactly if it holds its arguments (`ofParameters_eq_ok_iff`), and otherwise the error is about the
first parameter that does not fit (`ofParameters_of_firstMisfit`).
-/

namespace ChainIndex

open ChainIndex.Task

/-! ## Signatures -/

/-- The parameters of a method, by their positions. -/
def Method.signature : Method → List Parameter
  | .runtimeVersion | .metadata => [⟨.hash, false⟩]
  | .chainName | .genesisHash | .finalizedHead => []
  | .blockHash => [⟨.number, true⟩]
  | .header | .block | .eventsAt => [⟨.hash, true⟩]
  | .eventsRange => [⟨.hash, true⟩, ⟨.hash, true⟩]

/-- The first position at which there is nothing that fits the parameter of the method. -/
structure FirstMisfit (method : Method) (parameters : List Json) (position : Nat) : Prop where
  misfit : ∃ p, method.signature[position]? = some p ∧ ¬ p.Fits (given? parameters position)
  before (i : Nat) (h : i < position) (p : Parameter) (hp : method.signature[i]? = some p) :
    p.Fits (given? parameters i)

/-- The arguments of a request, by the positions of their parameters. -/
def Request.arguments : Request → List Argument
  | .runtimeVersion (some hash) | .metadata (some hash) => [.hash hash]
  | .runtimeVersion none | .metadata none => [.absent]
  | .chainName | .genesisHash | .finalizedHead => []
  | .blockHash number => [.number number]
  | .header hash | .block hash | .eventsAt hash => [.hash hash]
  | .eventsRange first last => [.hash first, .hash last]

namespace Request

/-- A list of parameters that holds every argument of a request at its position. -/
def HeldBy (request : Request) (parameters : List Json) : Prop :=
  ∀ (i : Nat) (a : Argument), request.arguments[i]? = some a → a.HeldBy (given? parameters i)

/-- The ways to write the parameters of a request: all that it has and any others behind them, or
none where its only one is absent. -/
inductive WrittenAs : Request → List Json → Prop
  | full (request : Request) (extra : List Json) : WrittenAs request (request.parameters ++ extra)
  | omitted {request : Request} (h : request.arguments = [.absent]) : WrittenAs request []

/-! ## Reading a request -/

variable {request : Request} {method : Method} {parameters : List Json}

/-- What is said of every position of a list is said of the first one and of the others. -/
theorem forall_getElem?_cons {β : Type} {P : Nat → β → Prop} {x : β} {l : List β} :
    (∀ (i : Nat) (b : β), (x :: l)[i]? = some b → P i b) ↔
      P 0 x ∧ ∀ (i : Nat) (b : β), l[i]? = some b → P (i + 1) b := by
  constructor
  · intro h
    exact ⟨h 0 x rfl, fun i b hb => h (i + 1) b hb⟩
  · intro h i b hb
    cases i with
    | zero =>
      obtain rfl := Option.some.inj hb
      exact h.1
    | succ i => exact h.2 i b hb

/-- Any parameters hold the arguments of a request that has none. -/
theorem heldBy_of_nil (h : request.arguments = []) : request.HeldBy parameters := by
  intro i a ha
  rw [h] at ha
  contradiction

/-- The one argument of a request is held at the first position. -/
theorem heldBy_of_singleton {a : Argument} (h : request.arguments = [a]) :
    request.HeldBy parameters ↔ a.HeldBy (given? parameters 0) := by
  unfold HeldBy
  rw [h, forall_getElem?_cons]
  simp

/-- Two arguments of a request are held at the first two positions. -/
theorem heldBy_of_pair {a b : Argument} (h : request.arguments = [a, b]) :
    request.HeldBy parameters ↔
      a.HeldBy (given? parameters 0) ∧ b.HeldBy (given? parameters 1) := by
  unfold HeldBy
  rw [h, forall_getElem?_cons, forall_getElem?_cons]
  simp

/-- The only argument of a request that has an optional one. -/
theorem arguments_optional (found : Option BlockHash) :
    arguments (.runtimeVersion found) = [found.elim .absent .hash] ∧
      arguments (.metadata found) = [found.elim .absent .hash] := by
  cases found <;> exact ⟨rfl, rfl⟩

/-- The two hashes of an interval are read one after the other. -/
theorem ofParameters_eventsRange :
    ofParameters .eventsRange parameters =
      (required readHash .eventsRange parameters 0).bind fun first =>
        (required readHash .eventsRange parameters 1).bind fun last =>
          .ok (.eventsRange first last) := rfl

/-- A range is read from its two ends. -/
theorem eventsRange_eq_ok_iff :
    ofParameters .eventsRange parameters = .ok request ↔
      ∃ first last, required readHash .eventsRange parameters 0 = .ok first ∧
        required readHash .eventsRange parameters 1 = .ok last ∧
        .eventsRange first last = request := by
  simp only [ofParameters_eventsRange, bind_eq_ok, Except.ok.injEq, exists_and_left]

/-- What is read from parameters is a request of the method, and they hold its arguments. -/
theorem method_and_heldBy_of_ofParameters (h : ofParameters method parameters = .ok request) :
    method = request.method ∧ request.HeldBy parameters := by
  cases method with
  | chainName | genesisHash | finalizedHead =>
    obtain rfl := Except.ok.inj h
    exact ⟨rfl, heldBy_of_nil rfl⟩
  | runtimeVersion =>
    obtain ⟨found, hfound, rfl⟩ := map_eq_ok.mp h
    have harguments := (arguments_optional found).1
    exact ⟨rfl, (heldBy_of_singleton harguments).mpr (reads_hash.optional_eq_ok_iff.mp hfound)⟩
  | metadata =>
    obtain ⟨found, hfound, rfl⟩ := map_eq_ok.mp h
    have harguments := (arguments_optional found).2
    exact ⟨rfl, (heldBy_of_singleton harguments).mpr (reads_hash.optional_eq_ok_iff.mp hfound)⟩
  | blockHash =>
    obtain ⟨number, hnumber, rfl⟩ := map_eq_ok.mp h
    exact ⟨rfl, (heldBy_of_singleton rfl).mpr (reads_number.required_eq_ok_iff.mp hnumber)⟩
  | header | block | eventsAt =>
    obtain ⟨hash, hhash, rfl⟩ := map_eq_ok.mp h
    exact ⟨rfl, (heldBy_of_singleton rfl).mpr (reads_hash.required_eq_ok_iff.mp hhash)⟩
  | eventsRange =>
    obtain ⟨first, last, hfirst, hlast, rfl⟩ := eventsRange_eq_ok_iff.mp h
    exact ⟨rfl, (heldBy_of_pair rfl).mpr ⟨reads_hash.required_eq_ok_iff.mp hfirst,
      reads_hash.required_eq_ok_iff.mp hlast⟩⟩

/-- A request is read from any parameters that hold its arguments. -/
theorem ofParameters_of_heldBy (h : request.HeldBy parameters) :
    ofParameters request.method parameters = .ok request := by
  cases request with
  | chainName | genesisHash | finalizedHead => rfl
  | runtimeVersion found =>
    have hheld := (heldBy_of_singleton (arguments_optional found).1).mp h
    exact map_eq_ok.mpr ⟨found, reads_hash.optional_eq_ok_iff.mpr hheld, rfl⟩
  | metadata found =>
    have hheld := (heldBy_of_singleton (arguments_optional found).2).mp h
    exact map_eq_ok.mpr ⟨found, reads_hash.optional_eq_ok_iff.mpr hheld, rfl⟩
  | blockHash number =>
    have hheld := (heldBy_of_singleton rfl).mp h
    exact map_eq_ok.mpr ⟨number, reads_number.required_eq_ok_iff.mpr hheld, rfl⟩
  | header hash | block hash | eventsAt hash =>
    have hheld := (heldBy_of_singleton rfl).mp h
    exact map_eq_ok.mpr ⟨hash, reads_hash.required_eq_ok_iff.mpr hheld, rfl⟩
  | eventsRange first last =>
    obtain ⟨hfirst, hlast⟩ := (heldBy_of_pair rfl).mp h
    exact eventsRange_eq_ok_iff.mpr ⟨first, last, reads_hash.required_eq_ok_iff.mpr hfirst,
      reads_hash.required_eq_ok_iff.mpr hlast, rfl⟩

/-- A list of parameters is read as a request if it holds its arguments, and as no other. -/
theorem ofParameters_eq_ok_iff :
    ofParameters method parameters = .ok request ↔
      method = request.method ∧ request.HeldBy parameters := by
  constructor
  · exact method_and_heldBy_of_ofParameters
  · intro h
    obtain ⟨rfl, hheld⟩ := h
    exact ofParameters_of_heldBy hheld

/-- Where something does not fit, there is a first place. -/
theorem exists_firstMisfit {position : Nat} {p : Parameter}
    (hp : method.signature[position]? = some p) (h : ¬ p.Fits (given? parameters position)) :
    ∃ first, FirstMisfit method parameters first := by
  induction position using Nat.strongRecOn generalizing p with
  | ind position ih =>
    by_cases hbefore : ∃ i q, i < position ∧ method.signature[i]? = some q ∧
        ¬ q.Fits (given? parameters i)
    · obtain ⟨i, q, hi, hq, hmisfit⟩ := hbefore
      exact ih i hi hq hmisfit
    · refine ⟨position, ⟨p, hp, h⟩, fun i hi q hq => ?_⟩
      by_cases hfits : q.Fits (given? parameters i)
      · exact hfits
      · exact absurd ⟨i, q, hi, hq, hfits⟩ hbefore

/-- Where there is one parameter only, it is the one that does not fit. -/
theorem misfit_of_singleton {p : Parameter} {position : Nat} (hsignature : method.signature = [p])
    (h : FirstMisfit method parameters position) :
    position = 0 ∧ ¬ p.Fits (given? parameters 0) := by
  obtain ⟨q, hq, hmisfit⟩ := h.misfit
  rw [hsignature] at hq
  match position, hq with
  | 0, hq =>
    obtain rfl := Option.some.inj hq
    exact ⟨rfl, hmisfit⟩

/-- The error for a list of parameters is about the first one that does not fit. -/
theorem ofParameters_of_firstMisfit {position : Nat} (h : FirstMisfit method parameters position) :
    ∃ e, ofParameters method parameters = .error e ∧
      e.Blames method position (given? parameters position) := by
  cases method with
  | chainName | genesisHash | finalizedHead =>
    obtain ⟨p, hp, -⟩ := h.misfit
    contradiction
  | runtimeVersion | metadata =>
    obtain ⟨rfl, hmisfit⟩ := misfit_of_singleton rfl h
    obtain ⟨e, he, hblames⟩ := reads_hash.optional_of_misfit hmisfit
    exact ⟨e, map_eq_error.mpr he, hblames⟩
  | blockHash =>
    obtain ⟨rfl, hmisfit⟩ := misfit_of_singleton rfl h
    obtain ⟨e, he, hblames⟩ := reads_number.required_of_misfit hmisfit
    exact ⟨e, map_eq_error.mpr he, hblames⟩
  | header | block | eventsAt =>
    obtain ⟨rfl, hmisfit⟩ := misfit_of_singleton rfl h
    obtain ⟨e, he, hblames⟩ := reads_hash.required_of_misfit hmisfit
    exact ⟨e, map_eq_error.mpr he, hblames⟩
  | eventsRange =>
    obtain ⟨p, hp, hmisfit⟩ := h.misfit
    rw [ofParameters_eventsRange]
    match position, hp with
    | 0, hp =>
      obtain rfl := Option.some.inj hp
      obtain ⟨e, he, hblames⟩ := reads_hash.required_of_misfit hmisfit
      exact ⟨e, bind_eq_error.mpr (.inl he), hblames⟩
    | 1, hp =>
      obtain rfl := Option.some.inj hp
      obtain ⟨first, hfirst⟩ := reads_hash.required_of_fits (h.before 0 (by omega) _ rfl)
      obtain ⟨e, he, hblames⟩ := reads_hash.required_of_misfit hmisfit
      exact ⟨e, bind_eq_error.mpr (.inr ⟨first, hfirst, bind_eq_error.mpr (.inl he)⟩), hblames⟩

/-! ## Writing a request -/

/-- What a request is written as holds its arguments. -/
theorem heldBy_of_writtenAs (h : request.WrittenAs parameters) : request.HeldBy parameters := by
  cases h with
  | omitted harguments => exact (heldBy_of_singleton harguments).mpr .absent
  | full extra =>
    have htext (hash : BlockHash) : (Argument.hash hash).HeldBy (some hash.toJson) :=
      .hash hash.denotes_toText
    cases request with
    | chainName | genesisHash | finalizedHead => exact heldBy_of_nil rfl
    | runtimeVersion found | metadata found =>
      cases found with
      | none => exact (heldBy_of_singleton rfl).mpr .absent
      | some hash => exact (heldBy_of_singleton rfl).mpr (htext hash)
    | blockHash number => exact (heldBy_of_singleton rfl).mpr (.number number)
    | header hash | block hash | eventsAt hash =>
      exact (heldBy_of_singleton rfl).mpr (htext hash)
    | eventsRange first last => exact (heldBy_of_pair rfl).mpr ⟨htext first, htext last⟩

/-! ## Requests by name -/

/-- A method is found by its name. -/
theorem ofName?_eq_some_iff {name : String} :
    Method.ofName? name = some method ↔ method.name = name := by
  constructor
  · intro h
    simpa using List.find?_some h
  · intro h
    rw [← h, Method.ofName?_name]

/-- A name of no method finds none. -/
theorem ofName?_eq_none {name : String} (h : ∀ method : Method, method.name ≠ name) :
    Method.ofName? name = none := by
  rw [Method.ofName?, List.find?_eq_none]
  simp [h]

/-- Two methods do not share a name. -/
theorem name_injective {method' : Method} (h : method.name = method'.name) : method = method' := by
  have hsame := ofName?_eq_some_iff.mpr h
  rw [Method.ofName?_name] at hsame
  exact (Option.some.inj hsame).symm

theorem parse_name : parse method.name parameters = ofParameters method parameters := by
  rw [parse, Method.ofName?_name]

/-- A name of no method is refused with the name, whatever the parameters are. -/
theorem parse_of_unknown {name : String} (h : ∀ method : Method, method.name ≠ name) :
    parse name parameters = .error (.unsupportedMethod name) := by
  rw [parse, ofName?_eq_none h]

/-- Reading a request inverts writing it, however it is written. -/
theorem parse_eq_ok_iff {name : String} :
    parse name parameters = .ok request ↔
      name = request.method.name ∧ request.HeldBy parameters := by
  by_cases hknown : ∃ method : Method, method.name = name
  · obtain ⟨method, rfl⟩ := hknown
    have hname : method.name = request.method.name ↔ method = request.method :=
      ⟨name_injective, congrArg Method.name⟩
    rw [parse_name, ofParameters_eq_ok_iff, hname]
  · have hunknown : ∀ method : Method, method.name ≠ name := by
      intro method h
      exact hknown ⟨method, h⟩
    have hne : name ≠ request.method.name := (hunknown request.method).symm
    rw [parse_of_unknown hunknown]
    simp only [reduceCtorEq, hne, false_and]

end Request

section

variable {σ : Type} {S : Signature} (api : Api σ S) {name : String} {parameters : List Json}
  {request : Request} (hparse : Request.parse name parameters = .ok request)
include hparse

/-- A call by name answers the request that is read. -/
theorem callByName_of_parse :
    api.callByName name parameters = Response.toJson <$> api.dispatch request := by
  unfold Api.callByName
  rw [hparse]
  rfl

/-- Where the method is served, a call by name is nothing but the call that it stands for. -/
theorem callByName_of_served (hserved : api.supports request.method = .done true) :
    (api.callByName name parameters).run =
      (api request.call).bind fun answer =>
        .done ((request.respond answer).map Response.toJson) := by
  rw [callByName_eq, hparse]
  change (api.supports request.method).bind _ = _
  rw [hserved]
  rfl

end

/-- Requests are read from what they are written as: a name and a list of parameters is read as a
request exactly if the name is that of its method and the list holds its arguments at their
positions, so also if the list is written for the request, with whatever comes behind; and a call by
this name then answers the request, with the answer in JSON.  An unknown name is refused whatever
the parameters are, and other parameters are refused for the first of them that does not fit. -/
theorem Request.parse_inverts_writing :
    (∀ (request : Request) (parameters : List Json), request.WrittenAs parameters →
      parse request.method.name parameters = .ok request ∧
      ∀ {σ : Type} {S : Signature} (api : Api σ S),
        api.callByName request.method.name parameters = Response.toJson <$> api.dispatch request ∧
        (api.supports request.method = .done true →
          (api.callByName request.method.name parameters).run =
            (api request.call).bind fun answer =>
              .done ((request.respond answer).map Response.toJson))) ∧
    (∀ (name : String) (parameters : List Json) (request : Request),
      parse name parameters = .ok request ↔
        name = request.method.name ∧ request.HeldBy parameters) ∧
    (∀ name : String, (∀ method : Method, method.name ≠ name) → ∀ parameters,
      parse name parameters = .error (.unsupportedMethod name)) ∧
    ∀ (method : Method) (parameters : List Json) (position : Nat) (p : Parameter),
      method.signature[position]? = some p → ¬ p.Fits (given? parameters position) →
        ∃ first e, FirstMisfit method parameters first ∧ parse method.name parameters = .error e ∧
          e.Blames method first (given? parameters first) := by
  refine ⟨?_, fun _ _ _ => parse_eq_ok_iff, fun _ h _ => parse_of_unknown h, ?_⟩
  · intro request parameters h
    have hparse : parse request.method.name parameters = .ok request :=
      parse_eq_ok_iff.mpr ⟨rfl, heldBy_of_writtenAs h⟩
    exact ⟨hparse, fun api => ⟨callByName_of_parse api hparse, callByName_of_served api hparse⟩⟩
  · intro method parameters position p hp hmisfit
    obtain ⟨first, hfirst⟩ := exists_firstMisfit hp hmisfit
    obtain ⟨e, he, hblames⟩ := ofParameters_of_firstMisfit hfirst
    exact ⟨first, e, hfirst, by rw [parse_name, he], hblames⟩

end ChainIndex
