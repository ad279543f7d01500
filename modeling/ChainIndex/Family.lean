import ChainIndex.Json.Document
import ChainIndex.Json.Members

/-!
# ChainIndex.Family

The families of chains that are served, and their names.
-/

namespace ChainIndex

/-- A family of chains. -/
inductive ChainFamily where
  /-- Blocks are addressed by round. -/
  | algorand
  /-- Blocks are addressed by hash. -/
  | substrate
  deriving DecidableEq

namespace ChainFamily

def name : ChainFamily → String
  | .algorand => "algorand"
  | .substrate => "substrate"

/-- The family of a name in lower case; the name of one network stands for its family. -/
def ofName? (name : String) : Option ChainFamily :=
  if name = "algorand" then some .algorand
  else if name = "substrate" ∨ name = "polkadot" then some .substrate
  else none

/-- Reads a name in either case; an unknown one is reported in lower case. -/
def ofText (text : String) : Except String ChainFamily :=
  let lower := text.map Char.toLower
  match ofName? lower with
  | some family => .ok family
  | none => .error ("Unknown chain family: " ++ lower)

def toJson (family : ChainFamily) : Json := .string family.name

/-- Reads a family from its JSON form, where case counts. -/
def ofJson? (value : Json) : Option ChainFamily := value.toCase?.bind ofName?

def format : Json.Format ChainFamily := ⟨.any, ofJson?, toJson⟩

end ChainFamily

end ChainIndex
