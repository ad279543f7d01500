import ChainIndex.Proofs.Api.Request
import ChainIndex.Proofs.Task.Questions
import ChainIndex.Service.View

/-!
# ChainIndex.Proofs.Service.View

Views answer every call by name for the block that they are bound to.

A view puts its own hash where a method expects the block that it reads, so what is read from the
parameters is the request for the bound block, whatever was given there and behind
(`parse_setParameter`).  Methods without such a parameter are turned away before the api is called.
The parameters of a caller therefore decide nothing (`callByName_bound`).
-/

namespace ChainIndex

open ChainIndex.Task

/-- The hashes of the blocks that a call asks for. -/
def Call.hashes : Call → List BlockHash
  | .connectionState | .supports _ | .connect | .disconnect | .chainName | .genesisHash
  | .blockHash _ | .finalizedHead | .blockByNumber _ => []
  | .runtimeVersion hash | .metadata hash => hash.toList
  | .header hash | .block hash | .eventsAt hash => [hash]
  | .eventsRange first last => [first, last]

/-- The calls that are made for a request: whether its method is served, and its own. -/
def Request.Makes (request : Request) (call : Call) : Prop :=
  call = .supports request.method ∨ call = request.call

/-- An error that says that a parameter is refused. -/
def ApiError.RefusesParameter (e : ApiError) : Prop :=
  ∃ method position fault, e = .invalidParameter method position fault

namespace View

/-! ## The request that is made -/

/-- The value is where it was put. -/
theorem getElem?_setParameter (value : Json) (position : Nat) (parameters : List Json) :
    (setParameter value position parameters)[position]? = some value := by
  induction position generalizing parameters with
  | zero => cases parameters <;> rfl
  | succ position ih =>
    cases parameters with
    | nil => exact ih []
    | cons parameter rest => exact ih rest

/-- A method that reads the state of a block has one parameter, and a request for every block. -/
theorem exists_request {method : Method} {position : Nat}
    (h : method.blockParameter? = some position) (hash : BlockHash) :
    position = 0 ∧ ∃ request : Request, request.method = method ∧
      request.arguments = [.hash hash] ∧ request.call.hashes = [hash] := by
  cases method with
  | chainName | genesisHash | blockHash | finalizedHead | eventsRange => contradiction
  | runtimeVersion => exact ⟨(Option.some.inj h).symm, .runtimeVersion (some hash), rfl, rfl, rfl⟩
  | metadata => exact ⟨(Option.some.inj h).symm, .metadata (some hash), rfl, rfl, rfl⟩
  | header => exact ⟨(Option.some.inj h).symm, .header hash, rfl, rfl, rfl⟩
  | block => exact ⟨(Option.some.inj h).symm, .block hash, rfl, rfl, rfl⟩
  | eventsAt => exact ⟨(Option.some.inj h).symm, .eventsAt hash, rfl, rfl, rfl⟩

/-- With a hash at its position, the request for the block is read, whatever else is given. -/
theorem parse_setParameter {request : Request} {hash : BlockHash}
    (h : request.arguments = [.hash hash]) (parameters : List Json) :
    Request.parse request.method.name (setParameter hash.toJson 0 parameters) = .ok request := by
  have hgiven : given? (setParameter hash.toJson 0 parameters) 0 = some hash.toJson := by
    rw [given?, getElem?_setParameter]
    rfl
  have hheld : request.HeldBy (setParameter hash.toJson 0 parameters) := by
    rw [Request.heldBy_of_singleton h, hgiven]
    exact .hash hash.denotes_toText
  exact Request.parse_eq_ok_iff.mpr ⟨rfl, hheld⟩

/-! ## Calls by name -/

section

variable {σ : Type} {S : Signature} (view : View) (api : Api σ S)

/-- A method that reads the state of a block is called for the bound block. -/
theorem callByName_of_bound {method : Method} {position : Nat}
    (hposition : method.blockParameter? = some position) (parameters : List Json) :
    view.callByName api method.name parameters =
      api.callByName method.name (setParameter view.hash.toJson position parameters) := by
  unfold callByName
  rw [Method.ofName?_name, Option.bind_some, hposition]

/-- Every other name is turned away. -/
theorem callByName_of_unbound {name : String}
    (h : ∀ method : Method, method.name = name → method.blockParameter? = none)
    (parameters : List Json) :
    view.callByName api name parameters = throw (.unsupportedMethod name) := by
  have hnone : (Method.ofName? name).bind Method.blockParameter? = none := by
    cases hname : Method.ofName? name with
    | none => rfl
    | some method => exact h method (Request.ofName?_eq_some_iff.mp hname)
  unfold callByName
  rw [hnone]

end

section

variable {σ : Type} {S : Signature} {api : Api σ S} {name : String} {parameters : List Json}
  {request : Request} (hparse : Request.parse name parameters = .ok request)
include hparse

/-- Only the calls for a request are made. -/
theorem asks_callByName :
    ((Api.asking : Api σ Calls).callByName name parameters).run.Asks request.Makes
      fun _ => True := by
  rw [callByName_eq, hparse]
  refine ⟨.inl rfl, fun served => ?_⟩
  cases served with
  | true => exact ⟨.inr rfl, fun _ => trivial⟩
  | false => trivial

/-- No parameter is refused by the call by name itself. -/
theorem fulfils_callByName
    (hcall : (api request.call).Fulfils .any fun _ answer => ∀ e,
      request.call.error? answer = some e → ¬ e.RefusesParameter) :
    (api.callByName name parameters).run.Fulfils .any fun _ result => ∀ e,
      errorOf? result = some e → ¬ e.RefusesParameter := by
  rw [callByName_eq, hparse]
  refine Fulfils.bind (fulfils_any _) fun _ served _ => ?_
  cases served with
  | true =>
    refine Fulfils.map _ (hcall.mono fun _ answer hanswer => ?_)
    rwa [errorOf?_map, Request.errorOf?_respond]
  | false =>
    intro e he hrefuses
    obtain rfl := Option.some.inj he
    obtain ⟨_, _, _, h⟩ := hrefuses
    contradiction

end

end View

namespace View

variable {σ : Type} {S : Signature}

/-- A view answers a request for its block where the method is called by name. -/
structure Answers (view : View) (api : Api σ S) (request : Request) : Prop where
  hashes : request.call.hashes = [view.hash]
  /-- Whatever the parameters are, the request is served. -/
  same (parameters : List Json) :
    view.callByName api request.method.name parameters = Response.toJson <$> api.dispatch request
  /-- Nothing is asked but whether the method is served and what it says of the block. -/
  asks (parameters : List Json) :
    (view.callByName (Api.asking : Api σ Calls) request.method.name parameters).run.Asks
      request.Makes fun _ => True
  /-- No parameter is refused, unless the api itself refuses one. -/
  accepts (parameters : List Json)
    (hcall : (api request.call).Fulfils .any fun _ answer => ∀ e,
      request.call.error? answer = some e → ¬ e.RefusesParameter) :
    (view.callByName api request.method.name parameters).run.Fulfils .any fun _ result => ∀ e,
      errorOf? result = some e → ¬ e.RefusesParameter

/-- For a method that takes a block, there is a request for the block of the view. -/
theorem exists_answers (view : View) (api : Api σ S) {method : Method} {position : Nat}
    (hposition : method.blockParameter? = some position) :
    ∃ request : Request, request.method = method ∧ view.Answers api request := by
  obtain ⟨rfl, request, rfl, harguments, hhashes⟩ := exists_request hposition view.hash
  have hparse := parse_setParameter harguments
  refine ⟨request, rfl, hhashes, fun parameters => ?_, fun parameters => ?_,
    fun parameters hcall => ?_⟩
  · rw [view.callByName_of_bound api hposition]
    exact callByName_of_parse api (hparse parameters)
  · rw [view.callByName_of_bound _ hposition]
    exact asks_callByName (hparse parameters)
  · rw [view.callByName_of_bound api hposition]
    exact fulfils_callByName (hparse parameters) hcall

/-- A call by name through a view does the same and ends with the same whatever parameters it is
given.  For a method that reads the state of a block it is the request for the bound block; every
other name is turned away, and the api is not called. -/
theorem callByName_bound (view : View) (api : Api σ S) (name : String) :
    (∀ p q, view.callByName api name p = view.callByName api name q) ∧
    (∀ method : Method, method.name = name → method.blockParameter?.isSome = true →
      ∃ request : Request, request.method = method ∧ view.Answers api request) ∧
    ((∀ method : Method, method.name = name → method.blockParameter? = none) →
      ∀ parameters, view.callByName api name parameters = throw (.unsupportedMethod name)) := by
  have hbound : ∀ method : Method, method.name = name → method.blockParameter?.isSome = true →
      ∃ request : Request, request.method = method ∧ view.Answers api request := by
    intro method _ hposition
    obtain ⟨position, hposition⟩ := Option.isSome_iff_exists.mp hposition
    exact view.exists_answers api hposition
  have hunbound := fun h => @callByName_of_unbound σ S view api name h
  refine ⟨fun p q => ?_, hbound, hunbound⟩
  by_cases h : ∃ method : Method, method.name = name ∧ method.blockParameter?.isSome = true
  · obtain ⟨method, rfl, hposition⟩ := h
    obtain ⟨request, hmethod, hanswers⟩ := hbound method rfl hposition
    rw [← hmethod, hanswers.same p, hanswers.same q]
  · have hnone : ∀ method : Method, method.name = name → method.blockParameter? = none := by
      intro method hname
      simpa using fun hposition => h ⟨method, hname, hposition⟩
    rw [hunbound hnone p, hunbound hnone q]

end View

end ChainIndex
