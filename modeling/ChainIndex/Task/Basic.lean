/-!
# ChainIndex.Task.Basic

Computations made of atomic steps and questions.

A task works on a state that it may share with others.  Each of its steps either reads and
changes the state at once, or puts a question to whoever serves it and waits for the
answer; between two steps anything may happen to the state.  What a task does is therefore
a plain value: it can be run against any server, interleaved with other tasks, or have its
questions answered by further tasks.
-/

namespace ChainIndex

/-- The questions that can be asked, and the type of the answer to each. -/
structure Signature where
  Query : Type
  Answer : Query → Type

/-- A computation over a state `σ` that asks questions of `S` and ends with an `α`. -/
inductive Task (σ : Type) (S : Signature) (α : Type) : Type where
  /-- The end. -/
  | done (value : α)
  /-- A change of the state; what follows depends on the state before the change. -/
  | act (change : σ → σ) (next : σ → Task σ S α)
  /-- A question. -/
  | ask (query : S.Query) (next : S.Answer query → Task σ S α)

namespace Task

variable {σ τ : Type} {S T : Signature} {α β : Type}

/-- One task after another. -/
def bind : Task σ S α → (α → Task σ S β) → Task σ S β
  | .done value, next => next value
  | .act change rest, next => .act change fun s => (rest s).bind next
  | .ask query rest, next => .ask query fun a => (rest a).bind next

instance : Monad (Task σ S) where
  pure := .done
  bind := .bind

/-- Reads the state. -/
def read (view : σ → α) : Task σ S α := .act id fun s => .done (view s)

/-- Changes the state. -/
def modify (change : σ → σ) : Task σ S Unit := .act change fun _ => .done ()

/-- Changes the state and gives a value, at once. -/
def step (f : σ → α × σ) : Task σ S α := .act (fun s => (f s).2) fun s => .done (f s).1

/-- Asks one question. -/
def question (query : S.Query) : Task σ S (S.Answer query) := .ask query .done

/-! ## Tasks inside a larger state -/

/-- A part of a state. -/
structure Part (σ τ : Type) where
  get : σ → τ
  set : σ → τ → σ

/-- The first of two states. -/
def Part.first : Part (σ × τ) σ := ⟨Prod.fst, fun s a => (a, s.2)⟩

/-- The second of two states. -/
def Part.second : Part (σ × τ) τ := ⟨Prod.snd, fun s b => (s.1, b)⟩

/-- A task on a part of the state. -/
def within (part : Part σ τ) : Task τ S α → Task σ S α
  | .done value => .done value
  | .act change next =>
    .act (fun s => part.set s (change (part.get s))) fun s => (next (part.get s)).within part
  | .ask query next => .ask query fun a => (next a).within part

/-- A task whose questions are answered by tasks on a state of their own. -/
def answeredBy (serve : (query : S.Query) → Task τ T (S.Answer query)) :
    Task σ S α → Task (σ × τ) T α
  | .done value => .done value
  | .act change next =>
    .act (fun s => (change s.1, s.2)) fun s => (next s.1).answeredBy serve
  | .ask query next =>
    ((serve query).within .second).bind fun a => (next a).answeredBy serve

/-- A task with a state of its own, which starts as given. -/
def isolated : Task τ S α → τ → Task σ S (α × τ)
  | .done value, s => .done (value, s)
  | .act change next, s => (next s).isolated (change s)
  | .ask query next, s => .ask query fun a => (next a).isolated s

end Task

/-- Questions of either of two kinds. -/
def Signature.sum (S T : Signature) : Signature where
  Query := S.Query ⊕ T.Query
  Answer
    | .inl query => S.Answer query
    | .inr query => T.Answer query

namespace Task

variable {σ : Type} {S T : Signature} {α : Type}

/-- A task that asks questions of the first kind, where both are served. -/
def inLeft : Task σ S α → Task σ (S.sum T) α
  | .done value => .done value
  | .act change next => .act change fun s => (next s).inLeft
  | .ask query next => .ask (.inl query) fun a => (next a).inLeft

/-- A task that asks questions of the second kind, where both are served. -/
def inRight : Task σ T α → Task σ (S.sum T) α
  | .done value => .done value
  | .act change next => .act change fun s => (next s).inRight
  | .ask query next => .ask (.inr query) fun a => (next a).inRight

end Task

end ChainIndex
