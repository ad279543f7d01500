import ChainIndex.Api.Basic

/-!
# ChainIndex.Service.View

Views of a chain api that are bound to one block.

A method that reads the state of a block reads that of the bound one, whatever parameters
it is called with; other methods are not served.
-/

namespace ChainIndex

/-- A view bound to a block. -/
structure View where
  hash : BlockHash
  /-- The version of the runtime that executed the block. -/
  runtime : RuntimeVersion
  deriving DecidableEq

namespace View

/-- A list of parameters with the one at `position` set; `null` fills the places before. -/
def setParameter (value : Json) : (position : Nat) → List Json → List Json
  | 0, [] => [value]
  | 0, _ :: rest => value :: rest
  | position + 1, [] => .null :: setParameter value position []
  | position + 1, parameter :: rest => parameter :: setParameter value position rest

variable {σ : Type} {S : Signature}

/-- Calls a method by name. -/
def callByName (view : View) (api : Api σ S) (name : String) (parameters : List Json) :
    Attempt σ S Json :=
  match (Method.ofName? name).bind Method.blockParameter? with
  | none => throw (.unsupportedMethod name)
  | some position => api.callByName name (setParameter view.hash.toJson position parameters)

/-- The header of the bound block. -/
def header (view : View) (api : Api σ S) : Attempt σ S Header := api.header view.hash

/-- The bound block. -/
def block (view : View) (api : Api σ S) : Attempt σ S SignedBlock := api.block view.hash

/-- The events of the bound block. -/
def events (view : View) (api : Api σ S) : Attempt σ S (List EventRecord) :=
  api.eventsAt view.hash

end View

end ChainIndex
