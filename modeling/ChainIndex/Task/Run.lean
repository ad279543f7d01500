import ChainIndex.Task.Basic

/-!
# ChainIndex.Task.Run

Running tasks: to the end against a server, up to the next question, and two of them
together.
-/

namespace ChainIndex

/-- A server answers every question and may change while it does. -/
def Server (S : Signature) (κ : Type) : Type := (query : S.Query) → κ → S.Answer query × κ

namespace Task

variable {σ κ : Type} {S : Signature} {α β : Type}

/-- Runs a task to its end. -/
def run (server : Server S κ) : Task σ S α → σ → κ → α × σ × κ
  | .done value, s, k => (value, s, k)
  | .act change next, s, k => (next s).run server (change s) k
  | .ask query next, s, k =>
    let (answer, k) := server query k
    (next answer).run server s k

/-- Works until the first question, and gives what is left. -/
def toQuestion : Task σ S α → Task σ S (Task σ S α)
  | .done value => .done (.done value)
  | .act change next => .act change fun s => (next s).toQuestion
  | .ask query next => .done (.ask query next)

/-- Has the first question answered and works until the next one. -/
def pastQuestion : Task σ S α → Task σ S (Task σ S α)
  | .ask query next => .ask query fun a => (next a).toQuestion
  | task => task.toQuestion

/-- Two tasks of which the second starts while the first waits for its first answer; both
ask before either is answered, and then the first goes on before the second. -/
def overlap (first : Task σ S α) (second : Task σ S β) : Task σ S (α × β) := do
  let first ← first.toQuestion
  let second ← second.toQuestion
  let first ← first.pastQuestion
  let second ← second.pastQuestion
  let a ← first
  let b ← second
  return (a, b)

end Task

end ChainIndex
