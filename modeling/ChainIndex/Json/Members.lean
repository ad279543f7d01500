import ChainIndex.Json.Value

/-!
# ChainIndex.Json.Members

Reading typed values from JSON values.

A record is read from an object by name, where members of other names are skipped and no
used name may occur twice, or from an array by position, where items may be missing at the
end only if they have a default.
-/

namespace ChainIndex.Json

/-! ## Leaves -/

/-- An unsigned 64-bit integer. -/
def toUInt64? : Json → Option UInt64
  | .number (.natural n) => some n
  | _ => none

/-- An unsigned 32-bit integer. -/
def toUInt32? : Json → Option UInt32
  | .number (.natural n) => if n.toNat < UInt32.size then some n.toUInt32 else none
  | _ => none

/-- An unsigned 8-bit integer. -/
def toUInt8? : Json → Option UInt8
  | .number (.natural n) => if n.toNat < UInt8.size then some n.toUInt8 else none
  | _ => none

/-- A signed 64-bit integer. -/
def toInt64? : Json → Option Int64
  | .number (.natural n) => if n.toNat < 0x8000000000000000 then some n.toInt64 else none
  | .number (.negative n) => some n
  | _ => none

/-- A string. -/
def toString? : Json → Option String
  | .string s => some s
  | _ => none

/-- A truth value. -/
def toBool? : Json → Option Bool
  | .bool b => some b
  | _ => none

/-- Any value. -/
def toAny? (value : Json) : Option Json := some value

/-- The items of an array, each read by `decode`. -/
def toList? (decode : Json → Option α) : Json → Option (List α)
  | .array items => items.mapM decode
  | _ => none

/-- A value that may be `null`. -/
def toOption? (decode : Json → Option α) : Json → Option (Option α)
  | .null => some none
  | value => (decode value).map some

/-! ## Records -/

/-- The parts a record is read from. -/
structure Members where
  /-- The parts that are present, under their names. -/
  present : List (String × Json)
  /-- Whether the record was written as an array. -/
  positional : Bool

/-- Whether no name occurs twice. -/
def distinctNames : List (String × Json) → Bool
  | [] => true
  | (name, _) :: rest => rest.all (fun member => member.1 ≠ name) && distinctNames rest

/-- The parts of a record with fields of the given names. -/
def members? (names : List String) : Json → Option Members
  | .object members =>
    let used := members.filter fun member => names.contains member.1
    if distinctNames used then some ⟨used, false⟩ else none
  | .array items => if items.length ≤ names.length then some ⟨names.zip items, true⟩ else none
  | _ => none

namespace Members

/-- The part under a name. -/
def get? (members : Members) (name : String) : Option Json :=
  members.present.lookup name

/-- A part that must be present. -/
def required (members : Members) (name : String) (decode : Json → Option α) : Option α :=
  match members.get? name with
  | some value => decode value
  | none => none

/-- A part that may be missing, and then is `default`. -/
def defaulted (members : Members) (name : String) (default : α) (decode : Json → Option α) :
    Option α :=
  match members.get? name with
  | some value => decode value
  | none => some default

/-- A part that may be `null` or, in an object, missing. -/
def optional (members : Members) (name : String) (decode : Json → Option α) :
    Option (Option α) :=
  match members.get? name with
  | some value => toOption? decode value
  | none => if members.positional then none else some none

end Members

/-! ## Names as values -/

/-- A case that carries nothing: its name, or an object of that name and `null`. -/
def toCase? : Json → Option String
  | .string name => some name
  | .object [(name, .null)] => some name
  | _ => none

end ChainIndex.Json
