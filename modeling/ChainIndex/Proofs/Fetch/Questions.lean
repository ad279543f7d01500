import ChainIndex.Fetch.Basic
import ChainIndex.Proofs.Task.Questions

/-!
# ChainIndex.Proofs.Fetch.Questions

What fetching asks and changes: nothing but what its jobs ask and change, in whatever order they go
on.

A fetcher therefore makes four kinds of calls only (`Call.isFetch`), and leaves the state as these
leave it.
-/

namespace ChainIndex

open ChainIndex.Task

variable {σ : Type} {S : Signature} {ε β : Type} {R : σ → σ → Prop} {P : S.Query → Prop}

namespace Window

variable {job : BlockNumber → Task σ S (Except ε β)}
  (hjob : ∀ height, (job height).Confined R P fun _ => True)

/-- A window whose jobs are confined stays confined as one of them is advanced. -/
theorem confined_advance (place : Nat) {running : List (Task σ S (Except ε β))}
    (h : ∀ task ∈ running, task.Confined R P fun _ => True) :
    (advance place running).Confined R P fun running =>
      ∀ task ∈ running, task.Confined R P fun _ => True := by
  induction running generalizing place with
  | nil => cases place <;> exact h
  | cons first jobs ih =>
    obtain ⟨hfirst, hjobs⟩ := List.forall_mem_cons.mp h
    cases place with
    | zero =>
      refine Confined.bind hfirst.pastQuestion fun rest hrest => ?_
      exact List.forall_mem_cons.mpr ⟨hrest, hjobs⟩
    | succ place =>
      refine Confined.bind (ih place hjobs) fun rest hrest => ?_
      exact List.forall_mem_cons.mpr ⟨hfirst, hrest⟩

/-- Finishing confined jobs is confined. -/
theorem confined_finish {running : List (Task σ S (Except ε β))}
    (h : ∀ task ∈ running, task.Confined R P fun _ => True) (released : List β) :
    (finish running released).Confined R P fun _ => True := by
  induction running generalizing released with
  | nil => trivial
  | cons first jobs ih =>
    obtain ⟨hfirst, hjobs⟩ := List.forall_mem_cons.mp h
    refine Confined.bind hfirst fun result _ => ?_
    cases result with
    | ok b => exact ih hjobs (b :: released)
    | error e => trivial

include hjob

/-- Sweeping heights is confined if every job is. -/
theorem confined_sweep (count : Nat) (heights : Heights) (released : List β) :
    (sweep job count heights released).Confined R P fun _ => True := by
  induction count generalizing heights released with
  | zero => trivial
  | succ count ih =>
    unfold sweep
    cases heights.next? with
    | none => trivial
    | some next =>
      refine Confined.bind (hjob next.1) fun result _ => ?_
      cases result with
      | ok b => exact ih next.2 (b :: released)
      | error e => trivial

/-- Draining a window of confined jobs is confined. -/
theorem confined_drain {w : Window σ S ε β}
    (h : ∀ task ∈ w.running, task.Confined R P fun _ => True) :
    (w.drain job).Confined R P fun _ => True := by
  refine Confined.bind (confined_finish h w.released) fun result _ => ?_
  cases result with
  | ok released => exact Confined.bind (confined_sweep hjob _ _ released) fun _ _ => trivial
  | error e => trivial

/-- Jobs that are started are confined, as all others are. -/
theorem running_start (room : Nat) {w : Window σ S ε β}
    (h : ∀ task ∈ w.running, task.Confined R P fun _ => True) :
    ∀ task ∈ (w.start job room).running, task.Confined R P fun _ => True := by
  induction room generalizing w with
  | zero => exact h
  | succ room ih =>
    unfold start
    cases w.waiting.next? with
    | none => exact h
    | some next =>
      refine ih fun task hmem => ?_
      obtain hold | hnew := List.mem_append.mp hmem
      · exact h task hold
      · rw [List.mem_singleton.mp hnew]
        exact hjob next.1

variable (hsame : ∀ s, R s s)
include hsame

/-- Working through a window is confined, whatever the schedule is. -/
theorem confined_work (limit : Nat) (schedule : Schedule σ S) (turns : Nat) {w : Window σ S ε β}
    (h : ∀ task ∈ w.running, task.Confined R P fun _ => True) :
    (work job limit schedule turns w).Confined R P fun _ => True := by
  induction turns generalizing w with
  | zero => exact confined_drain hjob h
  | succ turns ih =>
    have hfilled := running_start hjob (limit - w.running.length) h
    have hgoOn : ∀ running : List (Task σ S (Except ε β)),
        (∀ task ∈ running, task.Confined R P fun _ => True) →
        (do
          let place ← Task.read fun s => schedule.pick turns s (running.map Task.progress)
          let running ← advance place running
          work job limit schedule turns { w.fill job limit with running }).Confined R P
            fun _ => True := by
      intro running hrunning
      refine Confined.bind (confined_read hsame _) fun place _ => ?_
      exact Confined.bind (confined_advance place hrunning) fun rest hrest => ih hrest
    unfold work
    simp only
    split
    · trivial
    · trivial
    · next b running heq =>
      refine ih fun task hmem => hfilled task ?_
      have hmem' : task ∈ (w.fill job limit).running := by
        rw [heq]
        exact List.mem_cons_of_mem _ hmem
      exact hmem'
    · exact hgoOn _ hfilled

/-- Fetching asks and changes nothing but what its jobs ask and change. -/
theorem confined_fetch (limit : Nat) (schedule : Schedule σ S) (heights : Heights) :
    (fetch job limit schedule heights).Confined R P fun _ => True :=
  confined_work hjob hsame _ schedule schedule.turns fun _ hmem => absurd hmem List.not_mem_nil

end Window

/-- The calls that a fetcher makes. -/
def Call.isFetch : Call → Bool
  | .supports _ | .runtimeVersion _ | .eventsAt _ | .blockByNumber _ => true
  | _ => false

namespace Fetcher

section

variable {f : Fetcher σ S} (hsame : ∀ s, R s s)
  (hcalls : ∀ call : Call, call.isFetch = true → (f.api call).Confined R P fun _ => True)

include hcalls in
/-- Fetching a block is confined to what a call for one is. -/
theorem confined_block (height : BlockNumber) : (f.block height).Confined R P fun _ => True :=
  Confined.bind (hcalls (.blockByNumber height) rfl) fun _ _ => trivial

/-- The events of a block are asked for only where they are to be fetched. -/
theorem confined_indexed {withEvents : Bool}
    (hcalls : ∀ call : Call, call.isFetch = true →
      (withEvents = true ∨ ∀ hash, call ≠ .eventsAt hash) → (f.api call).Confined R P fun _ => True)
    (height : BlockNumber) : (f.indexed withEvents height).Confined R P fun _ => True := by
  unfold indexed
  have hblock : (f.block height).Confined R P fun _ => True :=
    Confined.bind (hcalls (.blockByNumber height) rfl (.inr nofun)) fun _ _ => trivial
  refine Confined.bind_result hblock fun block => ?_
  have hversion := hcalls (.runtimeVersion (some (runtimeAt height block))) rfl (.inr nofun)
  refine Confined.bind_result (Confined.adapt _ hversion) fun version => ?_
  cases withEvents with
  | true =>
    have hevents := hcalls (.eventsAt block.hash) rfl (.inl rfl)
    exact Confined.bind_result (Confined.adapt _ hevents) fun _ => trivial
  | false => trivial

include hsame hcalls

theorem confined_range (first last : BlockNumber) :
    (f.range first last).Confined R P fun _ => True := by
  unfold range
  split
  · trivial
  · exact Window.confined_fetch (confined_block hcalls) hsame _ _ _

theorem confined_listed (heights : List BlockNumber) :
    (f.listed heights).Confined R P fun _ => True :=
  Window.confined_fetch (confined_block hcalls) hsame _ _ _

/-- Fetching blocks with their events is confined to what the calls for them are. -/
theorem confined_indexedRange (first last : BlockNumber) :
    (f.indexedRange first last).Confined R P fun _ => True := by
  unfold indexedRange
  split
  · trivial
  · refine Confined.bind (hcalls (.supports .eventsAt) rfl) fun withEvents _ => ?_
    exact Window.confined_fetch (confined_indexed fun call h _ => hcalls call h) hsame _ _ _

end

/-- Fetching an interval with its context makes only calls of a fetcher. -/
theorem asks_indexedRange {f : Fetcher σ S}
    (hcalls : ∀ call : Call, call.isFetch = true → (f.api call).Asks P fun _ => True)
    (first last : BlockNumber) : (f.indexedRange first last).Asks P fun _ => True :=
  asks_iff.mpr (confined_indexedRange (fun _ => trivial)
    (fun call hcall => asks_iff.mp (hcalls call hcall)) first last)

end Fetcher

end ChainIndex
