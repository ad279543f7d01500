import ChainIndex.Json.Value

/-!
# ChainIndex.Toml.Tree

The tables of a TOML text while it is read.

A table is defined only once: a header may state a table that was so far only implied by
the headers of tables inside it, and a dotted key may add to tables that were made by
dotted keys.  Where headers lead through an array of tables, they lead through its last
table.
-/

namespace ChainIndex.Toml

/-- How a table came to be. -/
inductive Origin where
  /-- By a header. -/
  | stated
  /-- By the header of a table inside it. -/
  | implied
  /-- By a dotted key. -/
  | dotted
  deriving DecidableEq

/-- What a key stands for. -/
inductive Tree where
  | value (v : Json)
  | table (origin : Origin) (entries : List (String × Tree))
  /-- An array of tables, which has at least one. -/
  | tables (earlier : List (List (String × Tree))) (last : List (String × Tree))

/-- The entries of a table. -/
abbrev Entries : Type := List (String × Tree)

namespace Entries

/-- Replaces what a name stands for, or adds the name. -/
def alter (name : String) (change : Option Tree → Option Tree) : Entries → Option Entries
  | [] => (change none).map fun tree => [(name, tree)]
  | (n, tree) :: rest =>
    if n = name then (change (some tree)).map fun tree => (n, tree) :: rest
    else (alter name change rest).map ((n, tree) :: ·)

/-- Adds a value under a dotted key. -/
def put (value : Json) : (path : List String) → (name : String) → Entries → Option Entries
  | [], name, entries =>
    entries.alter name fun
      | none => some (.value value)
      | some _ => none
  | step :: path, name, entries =>
    entries.alter step fun
      | none => (put value path name []).map (.table .dotted)
      | some (.table .dotted es) => (put value path name es).map (.table .dotted)
      | some (.table .implied es) =>
        if path = [] then none else (put value path name es).map (.table .implied)
      | some (.tables earlier es) =>
        if path = [] then none else (put value path name es).map (.tables earlier)
      | some (.table .stated _) | some (.value _) => none

/-- Changes what a header names. -/
def atHeader (change : Option Tree → Option Tree) :
    (path : List String) → (name : String) → Entries → Option Entries
  | [], name, entries => entries.alter name change
  | step :: path, name, entries =>
    entries.alter step fun
      | none => (atHeader change path name []).map (.table .implied)
      | some (.table origin es) => (atHeader change path name es).map (.table origin)
      | some (.tables earlier es) => (atHeader change path name es).map (.tables earlier)
      | some (.value _) => none

/-- States a table. -/
def stateTable : Option Tree → Option Tree
  | none => some (.table .stated [])
  | some (.table .implied es) => some (.table .stated es)
  | some _ => none

/-- Adds a table to an array of tables. -/
def addTable : Option Tree → Option Tree
  | none => some (.tables [] [])
  | some (.tables earlier es) => some (.tables (earlier ++ [es]) [])
  | some _ => none

/-- Changes the entries of the table that a header has named. -/
def inTable (change : Entries → Option Entries) : Option Tree → Option Tree
  | some (.table origin es) => (change es).map (.table origin)
  | some (.tables earlier es) => (change es).map (.tables earlier)
  | some (.value _) | none => none

end Entries

namespace Tree

mutual

def toJson : Tree → Json
  | .value v => v
  | .table _ entries => .object (membersOf entries)
  | .tables earlier last => .array (objectsOf earlier ++ [.object (membersOf last)])

/-- The members of entries. -/
def membersOf : List (String × Tree) → List (String × Json)
  | [] => []
  | (name, tree) :: rest => (name, toJson tree) :: membersOf rest

/-- The objects of tables. -/
def objectsOf : List (List (String × Tree)) → List Json
  | [] => []
  | entries :: rest => .object (membersOf entries) :: objectsOf rest

end

end Tree

end ChainIndex.Toml
