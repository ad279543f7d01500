import ChainIndex.Fetch.Heights
import ChainIndex.Task.Run

/-!
# ChainIndex.Fetch.Window

Fetching heights several at a time, with the results in the order of the heights.

A window holds the heights that are not yet asked for, the jobs that are running in the
order of their heights, and the results released so far.  A job starts only while fewer
than the limit are running or finished behind one that runs; the result of the first job is
released as soon as it is there, and the first failure in this order ends the fetch, however
many later jobs have failed before it in time.

Which running job goes on next is up to a schedule.  It decides a given number of turns;
what is left then is done in order, one height after the other.
-/

namespace ChainIndex

/-- How far a running job is. -/
inductive Progress (S : Signature) where
  /-- It can go on at once. -/
  | ready
  /-- It waits for an answer. -/
  | waiting (query : S.Query)
  | finished

/-- How far a task is. -/
def Task.progress {σ : Type} {S : Signature} {α : Type} : Task σ S α → Progress S
  | .done _ => .finished
  | .act _ _ => .ready
  | .ask query _ => .waiting query

/-- An order in which running jobs go on. -/
structure Schedule (σ : Type) (S : Signature) where
  /-- The number of turns that are decided. -/
  turns : Nat
  /-- The place of the job that goes on, given the turns left, the state and the jobs. -/
  pick : Nat → σ → List (Progress S) → Nat

/-- The schedule that does one height after the other. -/
def Schedule.inOrder {σ : Type} {S : Signature} : Schedule σ S := ⟨0, fun _ _ _ => 0⟩

/-- Whether a job waits for an answer that is due by some time. -/
def Progress.isDueBy {S : Signature} (due : S.Query → Nat) (time : Nat) : Progress S → Bool
  | .waiting query => due query ≤ time
  | _ => false

/-- Whether a job can go on at once. -/
def Progress.isReady {S : Signature} : Progress S → Bool
  | .ready => true
  | _ => false

/-- The earliest time at which one of the jobs that wait gets its answer. -/
def Progress.earliest {S : Signature} (due : S.Query → Nat) (jobs : List (Progress S)) : Nat :=
  let times := jobs.filterMap fun
    | .waiting query => some (due query)
    | _ => none
  times.foldl min (times.headD 0)

/-- The schedule of answers that arrive at set times: first the jobs go on whose answer is
there, then those that can go on at once, and then the one whose answer arrives next. -/
def Schedule.byTime {σ : Type} {S : Signature} (turns : Nat) (due : S.Query → Nat)
    (now : σ → Nat) : Schedule σ S where
  turns := turns
  pick _ s jobs :=
    match jobs.findIdx? (·.isDueBy due (now s)), jobs.findIdx? Progress.isReady with
    | some place, _ => place
    | none, some place => place
    | none, none => (jobs.findIdx? (·.isDueBy due (Progress.earliest due jobs))).getD 0

/-- A window over jobs that end with an error or a result. -/
structure Window (σ : Type) (S : Signature) (ε β : Type) where
  waiting : Heights
  running : List (Task σ S (Except ε β))
  /-- The results, the last one first. -/
  released : List β

namespace Window

variable {σ : Type} {S : Signature} {ε β : Type}

/-- The window before anything is asked for. -/
def ofHeights (heights : Heights) : Window σ S ε β := ⟨heights, [], []⟩

/-- Starts jobs for `room` heights at most. -/
def start (job : BlockNumber → Task σ S (Except ε β)) : (room : Nat) → Window σ S ε β →
    Window σ S ε β
  | 0, w => w
  | room + 1, w =>
    match w.waiting.next? with
    | none => w
    | some (height, waiting) =>
      start job room { w with waiting, running := w.running ++ [job height] }

/-- Starts jobs up to the limit. -/
def fill (job : BlockNumber → Task σ S (Except ε β)) (limit : Nat) (w : Window σ S ε β) :
    Window σ S ε β :=
  w.start job (limit - w.running.length)

/-- Lets the job at a place go on past its question. -/
def advance : (place : Nat) → List (Task σ S (Except ε β)) →
    Task σ S (List (Task σ S (Except ε β)))
  | _, [] => .done []
  | 0, job :: jobs => do
    let job ← job.pastQuestion
    return job :: jobs
  | place + 1, job :: jobs => do
    let jobs ← advance place jobs
    return job :: jobs

/-- Brings the running jobs to their end in order. -/
def finish : List (Task σ S (Except ε β)) → (released : List β) →
    Task σ S (Except ε (List β))
  | [], released => .done (.ok released)
  | job :: jobs, released =>
    job.bind fun
      | .error e => .done (.error e)
      | .ok b => finish jobs (b :: released)

/-- Does the first `count` heights, one after the other. -/
def sweep (job : BlockNumber → Task σ S (Except ε β)) : (count : Nat) → Heights →
    (released : List β) → Task σ S (Except ε (List β))
  | 0, _, released => .done (.ok released)
  | count + 1, heights, released =>
    match heights.next? with
    | none => .done (.ok released)
    | some (height, rest) =>
      (job height).bind fun
        | .error e => .done (.error e)
        | .ok b => sweep job count rest (b :: released)

/-- Does in order what is left. -/
def drain (job : BlockNumber → Task σ S (Except ε β)) (w : Window σ S ε β) :
    Task σ S (Except ε (List β)) :=
  (finish w.running w.released).bind fun
    | .error e => .done (.error e)
    | .ok released =>
      (sweep job w.waiting.size w.waiting released).bind fun result =>
        .done (result.map List.reverse)

/-- Works for the turns left, then in order. -/
def work (job : BlockNumber → Task σ S (Except ε β)) (limit : Nat) (schedule : Schedule σ S) :
    (turns : Nat) → Window σ S ε β → Task σ S (Except ε (List β))
  | 0, w => w.drain job
  | turns + 1, w =>
    let w := w.fill job limit
    match w.running with
    | [] => .done (.ok w.released.reverse)
    | .done (.error e) :: _ => .done (.error e)
    | .done (.ok b) :: running =>
      work job limit schedule turns { w with running, released := b :: w.released }
    | running => do
      let place ← Task.read fun s => schedule.pick turns s (running.map Task.progress)
      let running ← advance place running
      work job limit schedule turns { w with running }

/-- Runs a job for every height, at most `limit` at a time; no limit counts as one. -/
def fetch (job : BlockNumber → Task σ S (Except ε β)) (limit : Nat) (schedule : Schedule σ S)
    (heights : Heights) : Task σ S (Except ε (List β)) :=
  work job (max 1 limit) schedule schedule.turns (.ofHeights heights)

end Window

end ChainIndex
