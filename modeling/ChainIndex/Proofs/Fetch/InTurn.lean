import ChainIndex.Fetch.Window
import ChainIndex.Proofs.Task.Conduct
import Mathlib.Data.List.Forall2

/-!
# ChainIndex.Proofs.Fetch.InTurn

What fetching several heights at a time may end with.

Each job ends in some way that is right for its height, which need not be the only one.  The jobs
that run then stand for the heights that they were started for, whichever of them goes on first
(`Window.Stands`), and every turn of the window takes a result from the front of what is left
(`InTurn`).  So a fetch ends as its jobs do when they are done one after the other
(`Window.fulfils_fetch_inTurn`).
-/

namespace ChainIndex

open ChainIndex.Task

/-! ## Doing all in turn -/

/-- Where all items have results, each of them has one. -/
theorem exists_of_forall₂ {ι β : Type} {R : ι → β → Prop} {items : List ι} {results : List β}
    (h : List.Forall₂ R items results) : ∀ item ∈ items, ∃ result, R item result :=
  ((List.forall₂_and_left items results).mp (h.imp fun _ result hR => ⟨⟨result, hR⟩, hR⟩)).1

/-- The ways in which doing some items in turn can end, on top of the results released so far, the
last one first: with all results, or with the first failure. -/
inductive InTurn {ι ε β : Type} (Ends : ι → Except ε β → Prop) :
    List ι → (released : List β) → Except ε (List β) → Prop
  | nil (released : List β) : InTurn Ends [] released (.ok released.reverse)
  | failed {item : ι} {items : List ι} {released : List β} {e : ε} (h : Ends item (.error e)) :
    InTurn Ends (item :: items) released (.error e)
  | next {item : ι} {items : List ι} {released : List β} {b : β} {result : Except ε (List β)}
    (h : Ends item (.ok b)) (hrest : InTurn Ends items (b :: released) result) :
    InTurn Ends (item :: items) released result

namespace InTurn

variable {ι ε β : Type} {Ends : ι → Except ε β → Prop} {items before after : List ι}
  {released results : List β} {e : ε}

/-- A failure ends all. -/
theorem append_of_error (h : InTurn Ends before released (.error e)) :
    InTurn Ends (before ++ after) released (.error e) := by
  generalize hresult : (.error e : Except ε (List β)) = result at h
  induction h with
  | nil released => cases hresult
  | failed h =>
    obtain rfl := Except.error.inj hresult
    exact .failed h
  | next h _ ih => exact .next h (ih hresult)

/-- Where some items gave results, the others go on. -/
theorem append_of_ok {result : Except ε (List β)}
    (h : InTurn Ends before released (.ok results.reverse))
    (hafter : InTurn Ends after results result) :
    InTurn Ends (before ++ after) released result := by
  generalize hresult : (.ok results.reverse : Except ε (List β)) = result' at h
  induction h with
  | nil released =>
    obtain rfl := List.reverse_injective (Except.ok.inj hresult)
    exact hafter
  | failed h => cases hresult
  | next h _ ih => exact .next h (ih hresult)

/-- Doing all succeeds where each one does. -/
theorem ok_iff : InTurn Ends items released (.ok results) ↔
    ∃ more, List.Forall₂ (fun item b => Ends item (.ok b)) items more ∧
      results = released.reverse ++ more := by
  constructor
  · intro h
    generalize hresult : (.ok results : Except ε (List β)) = result at h
    induction h with
    | nil released =>
      obtain rfl := Except.ok.inj hresult
      exact ⟨[], .nil, (List.append_nil _).symm⟩
    | failed h => cases hresult
    | next h _ ih =>
      obtain ⟨more, hmore, rfl⟩ := ih hresult
      exact ⟨_, .cons h hmore, by simp⟩
  · rintro ⟨more, hmore, rfl⟩
    induction hmore generalizing released with
    | nil =>
      rw [List.append_nil]
      exact .nil released
    | cons h _ ih =>
      rw [List.append_cons, ← List.reverse_cons]
      exact .next h ih

/-- Doing all fails with the first failure in the order of the items. -/
theorem error_iff : InTurn Ends items released (.error e) ↔
    ∃ before item after, items = before ++ item :: after ∧
      (∀ other ∈ before, ∃ b, Ends other (.ok b)) ∧ Ends item (.error e) := by
  constructor
  · intro h
    generalize hresult : (.error e : Except ε (List β)) = result at h
    induction h with
    | nil released => cases hresult
    | @failed item items _ _ h =>
      obtain rfl := Except.error.inj hresult
      exact ⟨[], item, items, rfl, by simp, h⟩
    | @next first _ _ b _ h _ ih =>
      obtain ⟨before, item, after, rfl, hbefore, hitem⟩ := ih hresult
      exact ⟨first :: before, item, after, rfl, List.forall_mem_cons.mpr ⟨⟨b, h⟩, hbefore⟩, hitem⟩
  · rintro ⟨before, item, after, rfl, hbefore, hitem⟩
    induction before generalizing released with
    | nil => exact .failed hitem
    | cons other before ih =>
      obtain ⟨⟨b, hother⟩, hbefore⟩ := List.forall_mem_cons.mp hbefore
      exact .next hother (ih hbefore)

/-- Where no item can fail, doing all succeeds. -/
theorem exists_eq_ok {result : Except ε (List β)} (h : InTurn Ends items released result)
    (hok : ∀ item ∈ items, ∀ e, ¬ Ends item (.error e)) : ∃ results, result = .ok results := by
  cases result with
  | ok results => exact ⟨results, rfl⟩
  | error e =>
    obtain ⟨before, item, after, rfl, -, hitem⟩ := error_iff.mp h
    exact absurd hitem (hok item (by simp) e)

end InTurn

/-! ## Heights in turn -/

namespace Heights

/-- The next height comes before the rest. -/
theorem toList_of_next? {h rest : Heights} {height : BlockNumber}
    (e : h.next? = some (height, rest)) : h.toList = height :: rest.toList := by
  rw [toList, size_of_next? e, take, e]
  rfl

/-- There are no heights where there is no next one. -/
theorem size_of_next?_eq_none {h : Heights} (e : h.next? = none) : h.size = 0 := by
  cases h with
  | span first count =>
    cases count with
    | zero => rfl
    | succ count => exact nomatch e
  | listed heights =>
    cases heights with
    | nil => rfl
    | cons height heights => exact nomatch e

theorem toList_of_next?_eq_none {h : Heights} (e : h.next? = none) : h.toList = [] := by
  rw [toList, size_of_next?_eq_none e]
  rfl

end Heights

/-! ## Windows -/

namespace Window

variable {σ : Type} {S : Signature} {ε β : Type} {terms : Terms σ S}
  {job : BlockNumber → Task σ S (Except ε β)} {Ends : BlockNumber → Except ε β → Prop}

/-- Running jobs stand for the heights that they were started for: each will end as is right for
its height. -/
def Stands (terms : Terms σ S) (Ends : BlockNumber → Except ε β → Prop)
    (running : List (Task σ S (Except ε β))) (heights : List BlockNumber) : Prop :=
  List.Forall₂ (fun task height => task.Fulfils terms fun _ result => Ends height result)
    running heights

/-- Jobs that go on stand for the same heights. -/
theorem fulfils_advance (place : Nat) {running : List (Task σ S (Except ε β))}
    {heights : List BlockNumber} (h : Stands terms Ends running heights) :
    (advance place running).Fulfils terms fun _ running => Stands terms Ends running heights := by
  induction h generalizing place with
  | nil => cases place <;> exact List.Forall₂.nil
  | cons hfirst hjobs ih =>
    cases place with
    | zero =>
      refine Fulfils.bind hfirst.pastQuestion fun _ rest hrest => ?_
      exact List.Forall₂.cons hrest hjobs
    | succ place =>
      refine Fulfils.bind (ih place) fun _ rest hrest => ?_
      exact List.Forall₂.cons hfirst hrest

/-- Jobs that are finished one by one end in turn: all of them, or up to the first that fails. -/
theorem fulfils_finish {running : List (Task σ S (Except ε β))} {heights : List BlockNumber}
    (h : Stands terms Ends running heights) (released : List β) :
    (finish running released).Fulfils terms fun _ result =>
      InTurn Ends heights released (result.map List.reverse) := by
  induction h generalizing released with
  | nil => exact .nil released
  | cons hfirst hjobs ih =>
    refine Fulfils.bind hfirst fun _ result hresult => ?_
    cases result with
    | error e => exact .failed hresult
    | ok b => exact (ih (b :: released)).mono fun _ _ hrest => .next hresult hrest

section

variable (hjob : ∀ height, (job height).Fulfils terms fun _ result => Ends height result)
include hjob

/-- Heights that are swept one by one end in turn. -/
theorem fulfils_sweep (heights : Heights) (released : List β) :
    (sweep job heights.size heights released).Fulfils terms fun _ result =>
      InTurn Ends heights.toList released (result.map List.reverse) := by
  induction hsize : heights.size generalizing heights released with
  | zero =>
    rw [Heights.toList, hsize]
    exact .nil released
  | succ count ih =>
    unfold sweep
    cases hnext : heights.next? with
    | none =>
      rw [Heights.toList_of_next?_eq_none hnext]
      exact .nil released
    | some next =>
      have hrest := Heights.size_of_next? hnext
      rw [hsize, Nat.succ_inj] at hrest
      refine Fulfils.bind (hjob next.1) fun _ result hresult => ?_
      rw [Heights.toList_of_next? hnext]
      cases result with
      | error e => exact .failed hresult
      | ok b =>
        exact (ih next.2 (b :: released) hrest.symm).mono fun _ _ hrest => .next hresult hrest

/-- Doing in order what is left. -/
theorem fulfils_drain {w : Window σ S ε β} {heights : List BlockNumber}
    (h : Stands terms Ends w.running heights) :
    (w.drain job).Fulfils terms fun _ result =>
      InTurn Ends (heights ++ w.waiting.toList) w.released result := by
  refine Fulfils.bind (fulfils_finish h w.released) fun _ result hresult => ?_
  cases result with
  | error e => exact hresult.append_of_error
  | ok released =>
    refine Fulfils.bind (fulfils_sweep hjob w.waiting released) fun _ result hrest => ?_
    exact hresult.append_of_ok hrest

/-- Jobs that are started stand for the heights they are started for, and none is started
only where there is no room or no height. -/
theorem stands_start (room : Nat) {w : Window σ S ε β} {heights : List BlockNumber}
    (h : Stands terms Ends w.running heights) :
    ∃ more, Stands terms Ends (w.start job room).running (heights ++ more) ∧
      more ++ (w.start job room).waiting.toList = w.waiting.toList ∧
      (w.start job room).released = w.released ∧
      (more = [] → room = 0 ∨ w.waiting.toList = []) := by
  induction room generalizing w heights with
  | zero => exact ⟨[], by rwa [List.append_nil], rfl, rfl, fun _ => .inl rfl⟩
  | succ room ih =>
    unfold start
    cases hnext : w.waiting.next? with
    | none =>
      have hempty := Heights.toList_of_next?_eq_none hnext
      exact ⟨[], by rwa [List.append_nil], rfl, rfl, fun _ => .inr hempty⟩
    | some next =>
      have hstarted : Stands terms Ends (w.running ++ [job next.1]) (heights ++ [next.1]) :=
        List.rel_append h (.cons (hjob next.1) .nil)
      obtain ⟨more, hstands, hwaiting, hreleased, -⟩ :=
        ih (w := { w with waiting := next.2, running := w.running ++ [job next.1] }) hstarted
      refine ⟨next.1 :: more, ?_, ?_, hreleased, fun hnil => absurd hnil (List.cons_ne_nil _ _)⟩
      · rwa [List.append_assoc] at hstands
      · rw [Heights.toList_of_next? hnext, List.cons_append, hwaiting]

/-- Whatever goes on first, what comes out is what the running jobs and the waiting heights come
to in this order, on top of the results released. -/
theorem fulfils_work {limit : Nat} (hlimit : 0 < limit) (schedule : Schedule σ S) (turns : Nat)
    {w : Window σ S ε β} {heights : List BlockNumber}
    (h : Stands terms Ends w.running heights) :
    (work job limit schedule turns w).Fulfils terms fun _ result =>
      InTurn Ends (heights ++ w.waiting.toList) w.released result := by
  induction turns generalizing w heights with
  | zero => exact fulfils_drain hjob h
  | succ turns ih =>
    obtain ⟨more, hstands, hwaiting, hreleased, hidle⟩ :=
      stands_start hjob (limit - w.running.length) h
    have hlength := List.Forall₂.length_eq h
    rw [← hwaiting, ← List.append_assoc, ← hreleased]
    unfold work
    simp only
    change Stands terms Ends (w.fill job limit).running (heights ++ more) at hstands
    have hgoOn : ∀ running : List (Task σ S (Except ε β)),
        Stands terms Ends running (heights ++ more) →
        (do
          let place ← Task.read fun s => schedule.pick turns s (running.map Task.progress)
          let running ← advance place running
          work job limit schedule turns { w.fill job limit with running }).Fulfils terms
            fun _ result => InTurn Ends (heights ++ more ++ (w.fill job limit).waiting.toList)
              (w.fill job limit).released result := by
      intro running hrunning
      refine Fulfils.bind (fulfils_read (P := fun _ _ => True) _ fun _ _ => trivial)
        fun _ place _ => ?_
      exact Fulfils.bind (fulfils_advance place hrunning) fun _ rest hrest => ih hrest
    split
    · next hnone =>
      -- nothing runs although there is room, so nothing is left
      rw [hnone] at hstands
      obtain ⟨rfl, rfl⟩ := List.append_eq_nil_iff.mp (List.forall₂_nil_left_iff.mp hstands)
      have hroom : limit - w.running.length ≠ 0 := by
        rw [hlength, List.length_nil]
        omega
      rw [(hidle rfl).resolve_left hroom] at hwaiting
      rw [List.append_nil, hwaiting]
      exact .nil _
    · next e running heq =>
      rw [heq] at hstands
      obtain ⟨height, rest, hfirst, -, heights_eq⟩ := List.forall₂_cons_left_iff.mp hstands
      rw [heights_eq]
      exact .failed hfirst
    · next b running heq =>
      rw [heq] at hstands
      obtain ⟨height, rest, hfirst, hrest, heights_eq⟩ := List.forall₂_cons_left_iff.mp hstands
      rw [heights_eq]
      refine (ih (w :=
        { w.fill job limit with running, released := b :: (w.fill job limit).released })
        hrest).mono fun _ result hresult => ?_
      exact .next hfirst hresult
    · exact hgoOn _ hstands

/-- A fetch ends as its jobs do when they are done one after the other. -/
theorem fulfils_fetch_inTurn (limit : Nat) (schedule : Schedule σ S) (heights : Heights) :
    (fetch job limit schedule heights).Fulfils terms fun _ result =>
      InTurn Ends heights.toList [] result := by
  have hpositive : 0 < max 1 limit := by omega
  have hstart : Stands terms Ends (ofHeights heights).running [] := .nil
  exact fulfils_work hjob hpositive schedule schedule.turns hstart

end

end Window

end ChainIndex
