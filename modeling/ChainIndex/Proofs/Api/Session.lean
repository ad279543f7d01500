import ChainIndex.Api.Basic
import ChainIndex.Proofs.Task.Conduct

/-!
# ChainIndex.Proofs.Api.Session

Chain apis in use: calls made one after another, with a record of what the node was asked.
-/

namespace ChainIndex

/-- The error that something ends with. -/
def errorOf? {ε α : Type} : Except ε α → Option ε
  | .error e => some e
  | .ok _ => none

/-- Whether an error is one of the network. -/
def ApiError.isNetwork : ApiError → Bool
  | .network _ => true
  | _ => false

/-- The error that a call is answered with. -/
def Call.error? : (call : Call) → call.Answer → Option ApiError
  | .connectionState, _ | .supports _, _ | .disconnect, _ => none
  | .connect, answer => errorOf? answer
  | .runtimeVersion _, answer => errorOf? answer
  | .metadata _, answer => errorOf? answer
  | .chainName, answer => errorOf? answer
  | .genesisHash, answer => errorOf? answer
  | .blockHash _, answer => errorOf? answer
  | .finalizedHead, answer => errorOf? answer
  | .header _, answer => errorOf? answer
  | .block _, answer => errorOf? answer
  | .eventsAt _, answer => errorOf? answer
  | .eventsRange _ _, answer => errorOf? answer
  | .blockByNumber _, answer => errorOf? answer

/-- An api in use. -/
structure Session (σ : Type) (S : Signature) (κ : Type) where
  /-- What the api keeps. -/
  state : σ
  node : κ
  /-- What the node was asked so far, with its answers. -/
  record : List (Exchange S)

namespace Session

open ChainIndex.Task

variable {σ κ : Type} {S : Signature}

/-- A session in which nothing was asked yet. -/
def start (state : σ) (node : κ) : Session σ S κ := ⟨state, node, []⟩

variable (api : Api σ S) (server : Server S κ) (s : Session σ S κ)

/-- Makes a call. -/
def call (call : Call) : call.Answer × Session σ S κ :=
  let (answer, state, node, record) := (api call).run server.recording s.state (s.node, s.record)
  (answer, ⟨state, node, record⟩)

/-- Makes calls one after another, and gives them with their answers. -/
def calls : Session σ S κ → List Call → List (Exchange Calls) × Session σ S κ
  | s, [] => ([], s)
  | s, next :: rest =>
    let (answer, s) := s.call api server next
    let (answers, s) := calls s rest
    (⟨next, answer⟩ :: answers, s)

@[simp] theorem calls_nil : s.calls api server [] = ([], s) := rfl

@[simp] theorem calls_cons (next : Call) (rest : List Call) :
    s.calls api server (next :: rest) =
      (⟨next, (s.call api server next).1⟩ ::
          ((s.call api server next).2.calls api server rest).1,
        ((s.call api server next).2.calls api server rest).2) := rfl

/-- Calls may be made in two parts. -/
theorem calls_append (before later : List Call) :
    s.calls api server (before ++ later) =
      ((s.calls api server before).1 ++ ((s.calls api server before).2.calls api server later).1,
        ((s.calls api server before).2.calls api server later).2) := by
  induction before generalizing s with
  | nil => rfl
  | cons next rest ih => simp [ih]

/-! ## The record -/

/-- A record only grows. -/
theorem prefix_call (next : Call) : s.record <+: (s.call api server next).2.record :=
  prefix_recording server (api next) s.state s.node s.record

/-- The record of a session grows with its calls and keeps its past. -/
theorem prefix_calls (rest : List Call) : s.record <+: (s.calls api server rest).2.record := by
  induction rest generalizing s with
  | nil => exact List.prefix_rfl
  | cons next rest ih =>
    exact (s.prefix_call api server next).trans (ih (s.call api server next).2)

/-! ## What a session keeps -/

variable {api s} {terms : Terms σ S}

/-- A call from the run of its task. -/
theorem call_eq_of_run {next : Call} {answer : next.Answer} {state : σ} {node : κ}
    {record : List (Exchange S)}
    (h : (api next).run server.recording s.state (s.node, s.record) =
      (answer, state, node, record)) :
    s.call api server next = (answer, ⟨state, node, record⟩) := by
  rw [call, h]

/-- What a call does, from what its task does. -/
theorem call_fulfils {next : Call} {P : List (Exchange S) → next.Answer → Prop}
    (h : (api next).Fulfils terms P) (hserver : ∀ query k, terms.answer query (server query k).1)
    (hs : terms.state s.state) :
    ∃ made, (s.call api server next).2.record = s.record ++ made ∧
      P made (s.call api server next).1 ∧ terms.state (s.call api server next).2.state :=
  h.run server hserver hs s.node s.record

/-- What every call keeps, every sequence of calls keeps. -/
theorem state_calls (h : ∀ next, (api next).Fulfils terms fun _ _ => True)
    (hserver : ∀ query k, terms.answer query (server query k).1) (hs : terms.state s.state)
    (rest : List Call) : terms.state (s.calls api server rest).2.state := by
  induction rest generalizing s with
  | nil => exact hs
  | cons next rest ih =>
    obtain ⟨made, -, -, hnext⟩ := call_fulfils server (h next) hserver hs
    exact ih hnext

end Session

end ChainIndex
