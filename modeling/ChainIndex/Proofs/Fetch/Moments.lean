import ChainIndex.Fetch.Window
import ChainIndex.Proofs.Fetch.InTurn
import ChainIndex.Proofs.Task.Run
import Mathlib.Logic.Relation

/-!
# ChainIndex.Proofs.Fetch.Moments

The moments that a fetch goes through.

At every moment some heights have been asked for, and their jobs have either been released or are
running (`Window.Moment`).  From one moment to the next, a height is asked for while there is room,
any of the running jobs takes one step, or the first of them is released (`Window.Step`); no order
is set among these.  A run of a fetch, by whatever schedule, is one way through such moments, from
the one before anything is asked for to one at which nothing is left or the first job has failed
(`Window.leadsTo_fetch`).
-/

namespace ChainIndex

open Relation (ReflTransGen)

variable {σ κ : Type} {S : Signature}

/-! ## Tasks step by step -/

namespace Task

variable {α : Type} {server : Server S κ}

/-- One step of a task before a server: it changes the state, or has its question answered. -/
inductive Goes (server : Server S κ) : Task σ S α × σ × κ → Task σ S α × σ × κ → Prop
  | act (change : σ → σ) (next : σ → Task σ S α) (s : σ) (k : κ) :
    Goes server (.act change next, s, k) (next s, change s, k)
  | ask (query : S.Query) (next : S.Answer query → Task σ S α) (s : σ) (k : κ) :
    Goes server (.ask query next, s, k) (next (server query k).1, s, (server query k).2)

/-- A task that is run to its end goes there step by step. -/
theorem goes_run (t : Task σ S α) (s : σ) (k : κ) :
    ReflTransGen (Goes server) (t, s, k)
      (.done (t.run server s k).1, (t.run server s k).2) := by
  induction t generalizing s k with
  | done a => exact .refl
  | act change next ih => exact .head (.act change next s k) (ih s (change s) k)
  | ask query next ih => exact .head (.ask query next s k) (ih _ s _)

/-- A task goes on, step by step, until its next question. -/
theorem goes_toQuestion (t : Task σ S α) (s : σ) (k : κ) :
    ReflTransGen (Goes server) (t, s, k) (t.toQuestion.run server s k) := by
  induction t generalizing s k with
  | done a => exact .refl
  | act change next ih => exact .head (.act change next s k) (ih s (change s) k)
  | ask query next ih => exact .refl

/-- So does a task that goes on past its question. -/
theorem goes_pastQuestion (t : Task σ S α) (s : σ) (k : κ) :
    ReflTransGen (Goes server) (t, s, k) (t.pastQuestion.run server s k) := by
  cases t with
  | done a => exact .refl
  | act change next => exact goes_toQuestion (.act change next) s k
  | ask query next => exact .head (.ask query next s k) (goes_toQuestion _ s _)

end Task

namespace Window

variable {ε β : Type}

/-! ## Moments -/

/-- What there is at one moment of a fetch. -/
structure Moment (σ : Type) (S : Signature) (ε β κ : Type) where
  /-- The heights that were asked for, in this order. -/
  requested : List BlockNumber
  window : Window σ S ε β
  /-- The state that the jobs share. -/
  state : σ
  /-- The state of the server. -/
  served : κ

/-- The moment before anything is asked for. -/
def Moment.before (heights : Heights) (s : σ) (k : κ) : Moment σ S ε β κ :=
  ⟨[], ofHeights heights, s, k⟩

/-- From one moment to the next: the next height is asked for where there is room for its job, a job
at any place takes a step, or the result of the first job is released. -/
inductive Step (job : BlockNumber → Task σ S (Except ε β)) (limit : Nat) (server : Server S κ) :
    Moment σ S ε β κ → Moment σ S ε β κ → Prop
  | start {requested : List BlockNumber} {waiting rest : Heights} {height : BlockNumber}
    {running : List (Task σ S (Except ε β))} {released : List β} {s : σ} {k : κ}
    (hroom : running.length < limit) (hnext : waiting.next? = some (height, rest)) :
    Step job limit server ⟨requested, ⟨waiting, running, released⟩, s, k⟩
      ⟨requested ++ [height], ⟨rest, running ++ [job height], released⟩, s, k⟩
  | goOn {requested : List BlockNumber} {waiting : Heights}
    {running : List (Task σ S (Except ε β))} {released : List β} {place : Nat}
    {task task' : Task σ S (Except ε β)} {s s' : σ} {k k' : κ}
    (hplace : running[place]? = some task) (h : Task.Goes server (task, s, k) (task', s', k')) :
    Step job limit server ⟨requested, ⟨waiting, running, released⟩, s, k⟩
      ⟨requested, ⟨waiting, running.set place task', released⟩, s', k'⟩
  | release {requested : List BlockNumber} {waiting : Heights} {b : β}
    {running : List (Task σ S (Except ε β))} {released : List β} {s : σ} {k : κ} :
    Step job limit server ⟨requested, ⟨waiting, .done (.ok b) :: running, released⟩, s, k⟩
      ⟨requested, ⟨waiting, running, b :: released⟩, s, k⟩

/-- What every step keeps is kept by all that follow. -/
theorem keeps_of_steps {job : BlockNumber → Task σ S (Except ε β)} {limit : Nat}
    {server : Server S κ} {P : Moment σ S ε β κ → Prop}
    (hstep : ∀ m m', Step job limit server m m' → P m → P m') {m m' : Moment σ S ε β κ}
    (h : ReflTransGen (Step job limit server) m m') (hm : P m) : P m' := by
  induction h with
  | refl => exact hm
  | tail _ hlast ih => exact hstep _ _ hlast ih

/-- What a fetch ends with: all results where nothing is left, or the error of the first job. -/
inductive Ended : Window σ S ε β → Except ε (List β) → Prop
  | all {waiting : Heights} {released : List β} (hnone : waiting.next? = none) :
    Ended ⟨waiting, [], released⟩ (.ok released.reverse)
  | failed {waiting : Heights} {e : ε} {running : List (Task σ S (Except ε β))}
    {released : List β} : Ended ⟨waiting, .done (.error e) :: running, released⟩ (.error e)

/-- A moment leads, step by step, to one at which a fetch has ended so. -/
def LeadsTo (job : BlockNumber → Task σ S (Except ε β)) (limit : Nat) (server : Server S κ)
    (m : Moment σ S ε β κ) (x : Except ε (List β) × σ × κ) : Prop :=
  ∃ requested w, ReflTransGen (Step job limit server) m ⟨requested, w, x.2.1, x.2.2⟩ ∧ Ended w x.1

variable {job : BlockNumber → Task σ S (Except ε β)} {limit : Nat} {server : Server S κ}
  {requested : List BlockNumber} {waiting : Heights} {running : List (Task σ S (Except ε β))}
  {released : List β} {s : σ} {k : κ}

/-- A moment before leads where a moment leads. -/
theorem LeadsTo.head {m m' : Moment σ S ε β κ} {x : Except ε (List β) × σ × κ}
    (hsteps : ReflTransGen (Step job limit server) m m') (h : LeadsTo job limit server m' x) :
    LeadsTo job limit server m x := by
  obtain ⟨requested, w, hrest, hended⟩ := h
  exact ⟨requested, w, hsteps.trans hrest, hended⟩

/-! ## Runs of a fetch -/

/-- A job that goes on makes the window go on. -/
theorem goes_at (place : Nat) {t : Task σ S (Except ε β)} {x : Task σ S (Except ε β) × σ × κ}
    (hplace : running[place]? = some t) (h : ReflTransGen (Task.Goes server) (t, s, k) x) :
    ReflTransGen (Step job limit server) ⟨requested, ⟨waiting, running, released⟩, s, k⟩
      ⟨requested, ⟨waiting, running.set place x.1, released⟩, x.2.1, x.2.2⟩ := by
  obtain ⟨hlt, hget⟩ := List.getElem?_eq_some_iff.mp hplace
  induction h with
  | refl =>
    rw [← hget, List.set_getElem_self]
  | @tail y z _ hstep ih =>
    have hnow : (running.set place y.1)[place]? = some y.1 := List.getElem?_set_self hlt
    have hnext : Step job limit server
        ⟨requested, ⟨waiting, running.set place y.1, released⟩, y.2.1, y.2.2⟩
        ⟨requested, ⟨waiting, (running.set place y.1).set place z.1, released⟩, z.2.1, z.2.2⟩ :=
      .goOn hnow hstep
    rw [List.set_set] at hnext
    exact ih.tail hnext

/-- Advancing a job runs it past its question, and leaves all others alone. -/
theorem run_advance (place : Nat) (running : List (Task σ S (Except ε β))) (s : σ) (k : κ) :
    (advance place running).run server s k =
      match running[place]? with
      | some t =>
        let x := t.pastQuestion.run server s k
        (running.set place x.1, x.2.1, x.2.2)
      | none => (running, s, k) := by
  induction running generalizing place with
  | nil => cases place <;> rfl
  | cons first jobs ih =>
    cases place with
    | zero => exact Task.run_bind server _ _ s k
    | succ place =>
      rw [List.getElem?_cons_succ]
      refine (Task.run_bind server _ _ s k).trans ?_
      rw [ih]
      cases jobs[place]? <;> rfl

/-- Advancing a job neither adds nor removes one. -/
theorem length_advance (place : Nat) (running : List (Task σ S (Except ε β))) (s : σ) (k : κ) :
    ((advance place running).run server s k).1.length = running.length := by
  rw [run_advance]
  split
  · exact List.length_set
  · rfl

/-- Advancing a job makes the window go on, step by step. -/
theorem goes_advance (place : Nat) :
    let x := (advance place running).run server s k
    ReflTransGen (Step job limit server) ⟨requested, ⟨waiting, running, released⟩, s, k⟩
      ⟨requested, ⟨waiting, x.1, released⟩, x.2.1, x.2.2⟩ := by
  intro x
  have hx : x = _ := run_advance place running s k
  cases hplace : running[place]? with
  | none =>
    rw [hplace] at hx
    rw [hx]
  | some t =>
    rw [hplace] at hx
    rw [hx]
    exact goes_at place hplace (Task.goes_pastQuestion t s k)

/-- Jobs are started one by one, as many as there is room for unless no height is left. -/
theorem goes_start (server : Server S κ) (room : Nat) (w : Window σ S ε β)
    (requested : List BlockNumber) (s : σ) (k : κ) (hroom : w.running.length + room ≤ limit) :
    ∃ started, ReflTransGen (Step job limit server) ⟨requested, w, s, k⟩
        ⟨requested ++ started, w.start job room, s, k⟩ ∧
      (w.start job room).running = w.running ++ started.map job ∧ started.length ≤ room ∧
      (started.length < room → (w.start job room).waiting.next? = none) := by
  induction room generalizing w requested with
  | zero =>
    refine ⟨[], ?_, (List.append_nil _).symm, Nat.le_refl _, nofun⟩
    rw [List.append_nil]
    exact .refl
  | succ room ih =>
    unfold start
    cases hnext : w.waiting.next? with
    | none =>
      refine ⟨[], ?_, (List.append_nil _).symm, Nat.zero_le _, fun _ => hnext⟩
      rw [List.append_nil]
    | some next =>
      obtain ⟨started, hrest, hrunning, hlength, hnone⟩ := ih
        { w with waiting := next.2, running := w.running ++ [job next.1] }
        (requested ++ [next.1]) (by simp only [List.length_append, List.length_singleton]; omega)
      refine ⟨next.1 :: started, ?_, ?_, Nat.succ_le_succ hlength,
        fun h => hnone (Nat.lt_of_succ_lt_succ h)⟩
      · rw [List.append_cons]
        exact .head (.start (by omega) hnext) hrest
      · exact hrunning.trans (List.append_cons _ _ _).symm

/-- After jobs were started up to the limit, some are running unless no height is left. -/
theorem goes_fill (hlimit : 0 < limit) (server : Server S κ) (w : Window σ S ε β)
    (hroom : w.running.length ≤ limit) (requested : List BlockNumber) (s : σ) (k : κ) :
    ∃ requested', ReflTransGen (Step job limit server) ⟨requested, w, s, k⟩
        ⟨requested', w.fill job limit, s, k⟩ ∧
      (w.fill job limit).running.length ≤ limit ∧
      ((w.fill job limit).running = [] → (w.fill job limit).waiting.next? = none) := by
  have hfree : w.running.length + (limit - w.running.length) ≤ limit := by omega
  obtain ⟨started, hstart, hrunning, hlength, hnone⟩ :=
    goes_start server (limit - w.running.length) w requested s k hfree
  refine ⟨_, hstart, ?_, fun hempty => ?_⟩
  · rw [fill, hrunning, List.length_append, List.length_map]
    omega
  · obtain ⟨hnothing, hstarted⟩ := List.append_eq_nil_iff.mp (hrunning.symm.trans hempty)
    refine hnone ?_
    rwa [List.map_eq_nil_iff.mp hstarted, hnothing]

/-- The first job is run to its end. -/
theorem goes_first (t : Task σ S (Except ε β)) :
    let x := t.run server s k
    ReflTransGen (Step job limit server) ⟨requested, ⟨waiting, t :: running, released⟩, s, k⟩
      ⟨requested, ⟨waiting, .done x.1 :: running, released⟩, x.2.1, x.2.2⟩ :=
  goes_at 0 rfl (Task.goes_run t s k)

/-- What leads on from the result of the first job, where it is one, leads on from the job. -/
theorem leadsTo_first {f : Except ε β → Task σ S (Except ε (List β))}
    (herror : ∀ e, f (.error e) = .done (.error e)) (t : Task σ S (Except ε β))
    (h : ∀ b s k, LeadsTo job limit server ⟨requested, ⟨waiting, running, b :: released⟩, s, k⟩
      ((f (.ok b)).run server s k)) (s : σ) (k : κ) :
    LeadsTo job limit server ⟨requested, ⟨waiting, t :: running, released⟩, s, k⟩
      ((t.bind f).run server s k) := by
  refine LeadsTo.head (goes_first t) ?_
  rw [Task.run_bind']
  cases (t.run server s k).1 with
  | error e =>
    rw [herror]
    exact ⟨_, _, .refl, .failed⟩
  | ok b => exact LeadsTo.head (.single .release) (h b _ _)

/-- The jobs that are running are brought to their end, one after the other. -/
theorem leadsTo_finish {f : Except ε (List β) → Task σ S (Except ε (List β))}
    (herror : ∀ e, f (.error e) = .done (.error e))
    (h : ∀ released s k, LeadsTo job limit server ⟨requested, ⟨waiting, [], released⟩, s, k⟩
      ((f (.ok released)).run server s k)) (s : σ) (k : κ) :
    LeadsTo job limit server ⟨requested, ⟨waiting, running, released⟩, s, k⟩
      (((finish running released).bind f).run server s k) := by
  induction running generalizing released s k with
  | nil => exact h released s k
  | cons first jobs ih =>
    rw [finish, Task.bind_bind]
    exact leadsTo_first herror first (fun b s k => ih s k) s k

/-- The heights that are waiting are done one after the other. -/
theorem leadsTo_sweep (hlimit : 0 < limit) (waiting : Heights) (released : List β)
    (requested : List BlockNumber) (s : σ) (k : κ) :
    LeadsTo job limit server ⟨requested, ⟨waiting, [], released⟩, s, k⟩
      (((sweep job waiting.size waiting released).bind fun result =>
        .done (result.map List.reverse)).run server s k) := by
  induction hsize : waiting.size generalizing waiting released requested s k with
  | zero =>
    refine ⟨_, _, .refl, .all ?_⟩
    cases hnext : waiting.next? with
    | none => rfl
    | some next =>
      rw [Heights.size_of_next? hnext] at hsize
      cases hsize
  | succ count ih =>
    unfold sweep
    cases hnext : waiting.next? with
    | none => exact ⟨_, _, .refl, .all hnext⟩
    | some next =>
      have hrest := Heights.size_of_next? hnext
      rw [hsize, Nat.succ_inj] at hrest
      refine LeadsTo.head (.single (.start hlimit hnext)) ?_
      rw [Task.bind_bind]
      exact leadsTo_first (fun e => rfl) (job next.1)
        (fun b s k => ih next.2 (b :: released) _ s k hrest.symm) s k

/-- Draining a window leads to where it ends. -/
theorem leadsTo_drain (hlimit : 0 < limit) (w : Window σ S ε β) (requested : List BlockNumber)
    (s : σ) (k : κ) :
    LeadsTo job limit server ⟨requested, w, s, k⟩ ((w.drain job).run server s k) := by
  refine leadsTo_finish ?_ ?_ s k
  · exact fun e => rfl
  · exact fun released s k => leadsTo_sweep hlimit w.waiting released requested s k

/-- Whatever is picked at each turn, a window takes steps until it has ended. -/
theorem leadsTo_work (hlimit : 0 < limit) (schedule : Schedule σ S) (turns : Nat)
    (w : Window σ S ε β) (hroom : w.running.length ≤ limit) (requested : List BlockNumber) (s : σ)
    (k : κ) :
    LeadsTo job limit server ⟨requested, w, s, k⟩
      ((work job limit schedule turns w).run server s k) := by
  induction turns generalizing w requested s k with
  | zero => exact leadsTo_drain hlimit w requested s k
  | succ turns ih =>
    obtain ⟨requested', hfill, hfilled, hnone⟩ := goes_fill hlimit server w hroom requested s k
    refine LeadsTo.head hfill ?_
    unfold work
    simp only
    generalize w.fill job limit = filled at *
    obtain ⟨waiting, running, released⟩ := filled
    have hgoOn : LeadsTo job limit server ⟨requested', ⟨waiting, running, released⟩, s, k⟩
        ((do
          let place ← Task.read fun s => schedule.pick turns s (running.map Task.progress)
          let running ← advance place running
          work job limit schedule turns ⟨waiting, running, released⟩).run server s k) := by
      rw [Task.run_bind, Task.run_read, Task.run_bind]
      refine LeadsTo.head (goes_advance _) (ih _ ?_ _ _ _)
      rwa [length_advance]
    split
    · next hempty =>
      obtain rfl : running = [] := hempty
      exact ⟨_, _, .refl, .all (hnone rfl)⟩
    · next e rest heq =>
      obtain rfl : running = .done (.error e) :: rest := heq
      exact ⟨_, _, .refl, .failed⟩
    · next b rest heq =>
      obtain rfl : running = .done (.ok b) :: rest := heq
      exact LeadsTo.head (.single .release) (ih _ (Nat.le_of_succ_le hfilled) _ s k)
    · exact hgoOn

/-- A run of a fetch goes through its moments to one at which the fetch has ended as the run does,
with the state and the server as the run leaves them. -/
theorem leadsTo_fetch (job : BlockNumber → Task σ S (Except ε β)) (limit : Nat)
    (schedule : Schedule σ S) (heights : Heights) (server : Server S κ) (s : σ) (k : κ) :
    LeadsTo job (max 1 limit) server (.before heights s k)
      ((fetch job limit schedule heights).run server s k) :=
  leadsTo_work (Nat.le_max_left 1 limit) schedule schedule.turns (ofHeights heights)
    (Nat.zero_le _) [] s k

end Window

end ChainIndex
