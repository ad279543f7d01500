/-!
# ChainIndex.Connection

The connection of a chain api: its state, the moves between states, and the channel on
which the state is watched.

A connection goes from disconnected to connected (the transport exists), from there to
active (the node has answered) or back, and from active to disconnected.  A move that is
asked for from another state than the one found, or that is none of these, is refused and
changes nothing; disconnecting is always possible and always written to the channel.
-/

namespace ChainIndex

/-- A value with watchers, who can tell that it was written even if it stayed the same. -/
structure Watch (α : Type) where
  value : α
  /-- How many times the value was written. -/
  writes : Nat := 0
  deriving DecidableEq

namespace Watch

/-- Writes a value. -/
def write {α : Type} (channel : Watch α) (value : α) : Watch α := ⟨value, channel.writes + 1⟩

end Watch

/-- The state of a connection. -/
inductive ConnectionState where
  | disconnected
  | connected
  | active
  deriving DecidableEq

namespace ConnectionState

def name : ConnectionState → String
  | .disconnected => "disconnected"
  | .connected => "connected"
  | .active => "active"

/-- The number of a state. -/
def code : ConnectionState → UInt64
  | .disconnected => 0
  | .connected => 1
  | .active => 2

/-- The state of a number; a number of no state counts as disconnected. -/
def ofCode (code : UInt64) : ConnectionState :=
  if code = 1 then .connected else if code = 2 then .active else .disconnected

/-- Whether a connection may move from one state to the other. -/
def canMove : (source target : ConnectionState) → Bool
  | .disconnected, .connected => true
  | .connected, .active => true
  | .connected, .disconnected => true
  | .active, .disconnected => true
  | _, _ => false

@[simp] theorem ofCode_code (state : ConnectionState) : ofCode state.code = state := by
  cases state <;> rfl

end ConnectionState

/-- A connection. -/
structure Connection where
  state : ConnectionState
  /-- The channel on which the state is watched. -/
  channel : Watch ConnectionState
  deriving DecidableEq

namespace Connection

/-- A connection that was never made. -/
def initial : Connection := ⟨.disconnected, ⟨.disconnected, 0⟩⟩

/-- Moves to a state and writes it to the channel. -/
def moveTo (c : Connection) (state : ConnectionState) : Connection :=
  ⟨state, c.channel.write state⟩

/-- Moves from `source` to `target`, or reports the state that was found. -/
def transition (source target : ConnectionState) (c : Connection) :
    Except ConnectionState Unit × Connection :=
  if source.canMove target ∧ c.state = source then (.ok (), c.moveTo target)
  else (.error c.state, c)

/-- Moves to disconnected from any state. -/
def disconnect (c : Connection) : Connection := c.moveTo .disconnected

end Connection

end ChainIndex
