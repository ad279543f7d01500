import ChainIndex.Connection

/-!
# ChainIndex.Proofs.Connection

The moves of a connection.

A move that is asked for is either made, and then it is one of the four that a connection may make
and starts from the state found, or it is refused with the state found and changes nothing
(`transition_cases`).  The state and the channel on which it is watched are written together, so
they agree after any moves (`Agrees.after`).
-/

namespace ChainIndex

namespace ConnectionState

/-- The four moves that a connection may make. -/
inductive Legal : (source target : ConnectionState) → Prop
  /-- The transport is built. -/
  | build : Legal .disconnected .connected
  /-- The node has answered. -/
  | check : Legal .connected .active
  /-- The node has not answered. -/
  | fallBack : Legal .connected .disconnected
  | close : Legal .active .disconnected

/-- The moves that are admitted are the four legal ones. -/
theorem canMove_iff_legal {source target : ConnectionState} :
    source.canMove target = true ↔ Legal source target := by
  constructor
  · intro h
    cases source <;> cases target <;> first | constructor | cases h
  · intro h
    cases h <;> rfl

end ConnectionState

namespace Connection

open ConnectionState

/-- What may be asked of a connection. -/
inductive Move where
  | transition (source target : ConnectionState)
  | disconnect

/-- Does what is asked, or reports the state that was found. -/
def make (c : Connection) : Move → Except ConnectionState Unit × Connection
  | .transition source target => c.transition source target
  | .disconnect => (.ok (), c.disconnect)

/-- The connection after some moves were asked for, one after another. -/
def after (c : Connection) (moves : List Move) : Connection :=
  moves.foldl (fun c move => (c.make move).2) c

variable {c c' : Connection} {source target found : ConnectionState}

@[simp] theorem moveTo_state (c : Connection) (state : ConnectionState) :
    (c.moveTo state).state = state := rfl

@[simp] theorem moveTo_channel (c : Connection) (state : ConnectionState) :
    (c.moveTo state).channel.value = state := rfl

@[simp] theorem disconnect_state (c : Connection) : c.disconnect.state = .disconnected := rfl

@[simp] theorem disconnect_channel (c : Connection) :
    c.disconnect.channel.value = .disconnected := rfl

/-! ## One move -/

/-- A legal move from the state found is made; any other one is refused and changes nothing. -/
theorem transition_cases (c : Connection) (source target : ConnectionState) :
    (Legal source target ∧ c.state = source ∧
      c.transition source target = (.ok (), c.moveTo target)) ∨
    (¬ (Legal source target ∧ c.state = source) ∧
      c.transition source target = (.error c.state, c)) := by
  rw [← canMove_iff_legal]
  unfold transition
  by_cases h : source.canMove target ∧ c.state = source
  · rw [if_pos h]
    exact .inl ⟨h.1, h.2, rfl⟩
  · rw [if_neg h]
    exact .inr ⟨h, rfl⟩

/-- A legal move from the state found is made. -/
theorem transition_of_legal (hlegal : Legal source target) (hstate : c.state = source) :
    c.transition source target = (.ok (), c.moveTo target) := by
  obtain ⟨-, -, heq⟩ | ⟨hnot, -⟩ := transition_cases c source target
  · exact heq
  · exact absurd ⟨hlegal, hstate⟩ hnot

/-- A move from another state than the one found is refused, and reports the one found. -/
theorem transition_of_state_ne (hstate : c.state ≠ source) :
    c.transition source target = (.error c.state, c) := by
  obtain ⟨-, hsource, -⟩ | ⟨-, heq⟩ := transition_cases c source target
  · exact absurd hsource hstate
  · exact heq

/-- A move that is made is legal, starts from the state found and arrives. -/
theorem transition_eq_ok (h : c.transition source target = (.ok (), c')) :
    Legal c.state c'.state ∧ c.state = source ∧ c' = c.moveTo target := by
  obtain ⟨hlegal, hstate, heq⟩ | ⟨-, heq⟩ := transition_cases c source target
  · rw [heq] at h
    obtain rfl := (Prod.mk.inj h).2
    rw [hstate]
    exact ⟨hlegal, rfl, rfl⟩
  · rw [heq] at h
    cases (Prod.mk.inj h).1

/-- A refused move reports the state found and changes nothing. -/
theorem transition_eq_error (h : c.transition source target = (.error found, c')) :
    found = c.state ∧ c' = c := by
  obtain ⟨-, -, heq⟩ | ⟨-, heq⟩ := transition_cases c source target
  · rw [heq] at h
    cases (Prod.mk.inj h).1
  · rw [heq] at h
    obtain ⟨hfound, rfl⟩ := Prod.mk.inj h
    exact ⟨(Except.error.inj hfound).symm, rfl⟩

/-! ## Many moves -/

/-- The channel holds the state. -/
def Agrees (c : Connection) : Prop := c.channel.value = c.state

/-- A new connection agrees with its channel. -/
theorem agrees_initial : initial.Agrees := rfl

theorem agrees_moveTo (c : Connection) (state : ConnectionState) : (c.moveTo state).Agrees := rfl

/-- Whatever is asked of a connection, it agrees with its channel afterwards. -/
theorem Agrees.make (h : c.Agrees) (move : Move) : (c.make move).2.Agrees := by
  cases move with
  | disconnect => exact agrees_moveTo c .disconnected
  | transition source target =>
    change (c.transition source target).2.Agrees
    obtain ⟨-, -, heq⟩ | ⟨-, heq⟩ := transition_cases c source target
    · rw [heq]
      exact agrees_moveTo c target
    · rw [heq]
      exact h

/-- However it was moved, the channel of a connection holds its state. -/
theorem Agrees.after (h : c.Agrees) (moves : List Move) : (c.after moves).Agrees := by
  induction moves generalizing c with
  | nil => exact h
  | cons move rest ih => exact ih (h.make move)

end Connection

end ChainIndex
