import ChainIndex.Proofs.Api.Failure
import ChainIndex.Proofs.Task.Steps

/-!
# ChainIndex.Proofs.Api.Interleaving

Invocations of a chain api whose steps follow one another in any order, with what each of them has
seen.

Every caller is kept with the questions that it asked so far and with the states that were passed
since its own last step (`Interleaved`).  What a caller keeps with each of its steps, and while it
waits, holds of all callers (`Interleaved.each`).  So what is known of the steps of every
invocation, taken alone, holds of each caller among the others (`Interleaved.follows`), and at the
step by which one ends it is known what the others did since its step before (`Interleaved.ends`).
-/

namespace ChainIndex

open ChainIndex.Task

/-! ## Callers -/

/-- An invocation that goes on, with what it has seen. -/
structure Caller (σ : Type) (S : Signature) extends Pending σ S where
  /-- What it has asked so far, with the answers. -/
  made : List (Exchange S)
  /-- The states since its own last step, or since it was begun; the last one comes first. -/
  since : List σ

namespace Caller

variable {σ : Type} {S : Signature}

/-- A caller that waits while others pass some states, the last one first. -/
def watch (passed : List σ) (caller : Caller σ S) : Caller σ S :=
  { caller with since := passed ++ caller.since }

@[simp] theorem map_watch_nil (callers : List (Caller σ S)) : callers.map (watch []) = callers :=
  List.map_id callers

/-- A caller that waits twice has seen the states of both times. -/
theorem map_watch_map_watch (later earlier : List σ) (callers : List (Caller σ S)) :
    (callers.map (watch earlier)).map (watch later) = callers.map (watch (later ++ earlier)) := by
  rw [List.map_map]
  refine List.map_congr_left fun caller _ => ?_
  simp [watch]

end Caller

/-- The states that come about while callers use an api and their questions are answered as is
admitted: one caller takes a step, or one is answered, and all others wait. -/
inductive Interleaved {σ : Type} {S : Signature} (api : Api σ S)
    (admits : (query : S.Query) → S.Answer query → Prop) (initial : σ) :
    List (Caller σ S) → σ → Prop
  | initial : Interleaved api admits initial [] initial
  | begin {callers : List (Caller σ S)} {s : σ} (h : Interleaved api admits initial callers s)
    (invocation : Invocation) :
    Interleaved api admits initial (⟨⟨invocation, api.invoke invocation⟩, [], [s]⟩ :: callers) s
  | act (before : List (Caller σ S)) {after : List (Caller σ S)} {invocation : Invocation}
    {change : σ → σ} {next : σ → Task σ S invocation.Answer} {made : List (Exchange S)}
    {since : List σ} {s : σ}
    (h : Interleaved api admits initial
      (before ++ ⟨⟨invocation, .act change next⟩, made, since⟩ :: after) s) :
    Interleaved api admits initial (before.map (Caller.watch [change s]) ++
      ⟨⟨invocation, next s⟩, made, [change s]⟩ :: after.map (Caller.watch [change s])) (change s)
  | answer (before : List (Caller σ S)) {after : List (Caller σ S)} {invocation : Invocation}
    {query : S.Query} {next : S.Answer query → Task σ S invocation.Answer}
    {made : List (Exchange S)} {since : List σ} {s : σ}
    (h : Interleaved api admits initial
      (before ++ ⟨⟨invocation, .ask query next⟩, made, since⟩ :: after) s)
    (answer : S.Answer query) (hanswer : admits query answer) :
    Interleaved api admits initial
      (before ++ ⟨⟨invocation, next answer⟩, made ++ [⟨query, answer⟩], since⟩ :: after) s
  /-- It has ended, or is given up. -/
  | leave (before : List (Caller σ S)) {after : List (Caller σ S)} {one : Caller σ S} {s : σ}
    (h : Interleaved api admits initial (before ++ one :: after) s) :
    Interleaved api admits initial (before ++ after) s

/-! ## What callers do among others -/

section

variable {σ κ : Type} {S : Signature} {api : Api σ S} {terms : Terms σ S} {R : σ → σ → Prop}
  {endings : (invocation : Invocation) → Endings σ S invocation.Answer} {initial s s' : σ}
  {callers : List (Caller σ S)}

/-- A caller goes on as its invocation does, and all that happened since its own last step were
steps of `R`. -/
def Caller.Follows (terms : Terms σ S) (R : σ → σ → Prop)
    (endings : (invocation : Invocation) → Endings σ S invocation.Answer) (caller : Caller σ S)
    (s : σ) : Prop :=
  ∃ left, Passed R left caller.since s ∧
    caller.rest.Proceeds terms R (endings caller.invocation) left caller.made

/-- A caller that waits follows its invocation also over a step of another one. -/
theorem Caller.Follows.watch {caller : Caller σ S} (h : caller.Follows terms R endings s)
    (hstep : R s s') : (caller.watch [s']).Follows terms R endings s' := by
  obtain ⟨left, hpassed, hproceeds⟩ := h
  exact ⟨left, hpassed.step hstep, hproceeds⟩

namespace Interleaved

/-- What is there when a caller begins, is kept by its own steps and answers, and by the steps of
others while it waits, holds of every caller. -/
theorem each {admits : (query : S.Query) → S.Answer query → Prop} {I : σ → Prop}
    {C : Caller σ S → σ → Prop} (h : Interleaved api admits initial callers s)
    (hinitial : I initial)
    (hbegin : ∀ invocation s, I s → C ⟨⟨invocation, api.invoke invocation⟩, [], [s]⟩ s)
    (hact : ∀ {invocation : Invocation} {change : σ → σ}
      {next : σ → Task σ S invocation.Answer} {made since s}, I s →
      C ⟨⟨invocation, .act change next⟩, made, since⟩ s →
      I (change s) ∧ C ⟨⟨invocation, next s⟩, made, [change s]⟩ (change s) ∧
        ∀ other, C other s → C (other.watch [change s]) (change s))
    (hanswer : ∀ {invocation : Invocation} {query : S.Query}
      {next : S.Answer query → Task σ S invocation.Answer} {made since s} (answer : S.Answer query),
      admits query answer → C ⟨⟨invocation, .ask query next⟩, made, since⟩ s →
      C ⟨⟨invocation, next answer⟩, made ++ [⟨query, answer⟩], since⟩ s) :
    I s ∧ ∀ caller ∈ callers, C caller s := by
  induction h with
  | initial => exact ⟨hinitial, by simp⟩
  | begin _ invocation ih =>
    exact ⟨ih.1, List.forall_mem_cons.mpr ⟨hbegin invocation _ ih.1, ih.2⟩⟩
  | act _ _ ih =>
    obtain ⟨hs, hcallers⟩ := ih
    simp only [List.forall_mem_append, List.forall_mem_cons, List.forall_mem_map]
      at hcallers ⊢
    obtain ⟨hbefore, hone, hafter⟩ := hcallers
    obtain ⟨hchange, hnext, hothers⟩ := hact hs hone
    exact ⟨hchange, fun other hother => hothers other (hbefore other hother), hnext,
      fun other hother => hothers other (hafter other hother)⟩
  | answer _ _ answer hadmits ih =>
    obtain ⟨hs, hcallers⟩ := ih
    simp only [List.forall_mem_append, List.forall_mem_cons] at hcallers ⊢
    obtain ⟨hbefore, hone, hafter⟩ := hcallers
    exact ⟨hs, hbefore, hanswer answer hadmits hone, hafter⟩
  | leave _ _ ih =>
    simp only [List.forall_mem_append, List.forall_mem_cons] at ih ⊢
    exact ⟨ih.1, ih.2.1, ih.2.2.2⟩

/-- What holds of every invocation by itself holds of all callers among each other. -/
theorem follows (h : Interleaved api terms.answer initial callers s)
    (hinitial : terms.state initial)
    (hinvoke : ∀ invocation left,
      (api.invoke invocation).Proceeds terms R (endings invocation) left []) :
    terms.state s ∧ ∀ caller ∈ callers, caller.Follows terms R endings s := by
  refine h.each hinitial ?_ ?_ ?_
  · intro invocation s _
    exact ⟨s, .here, hinvoke invocation s⟩
  · rintro invocation change next made since s hs ⟨left, -, hproceeds⟩
    obtain ⟨hchange, hstep, -, hnext⟩ := hproceeds s hs
    refine ⟨hchange, ⟨_, .here, hnext⟩, ?_⟩
    intro other hother
    exact hother.watch hstep
  · rintro invocation query next made since s answer hanswer ⟨left, hpassed, hproceeds⟩
    exact ⟨left, hpassed, (hproceeds answer hanswer).2⟩

/-- What every invocation makes of its exchanges, each caller makes of those it has made and those
to come. -/
theorem fulfils {P : (invocation : Invocation) → List (Exchange S) → invocation.Answer → Prop}
    (h : Interleaved api terms.answer initial callers s) (hinitial : terms.state initial)
    (hinvoke : ∀ invocation, (api.invoke invocation).Fulfils terms (P invocation)) :
    terms.state s ∧ ∀ caller ∈ callers, caller.rest.Fulfils terms fun more answer =>
      P caller.invocation (caller.made ++ more) answer := by
  refine h.each (C := fun caller _ => caller.rest.Fulfils terms fun more answer =>
    P caller.invocation (caller.made ++ more) answer) hinitial ?_ ?_ ?_
  · intro invocation s _
    exact hinvoke invocation
  · intro invocation change next made since s hs hone
    obtain ⟨hchange, hnext⟩ := hone s hs
    exact ⟨hchange, hnext, fun other hother => hother⟩
  · intro invocation query next made since s answer hanswer hone
    have hnext : (next answer).Fulfils terms fun more result =>
        P invocation (made ++ ⟨query, answer⟩ :: more) result := hone answer hanswer
    simpa only [List.append_assoc, List.singleton_append] using hnext

/-- What is known at the step by which a caller ends. -/
theorem ends {before after : List (Caller σ S)} {invocation : Invocation}
    {rest : Task σ S invocation.Answer} {made : List (Exchange S)} {since : List σ}
    (h : Interleaved api terms.answer initial
      (before ++ ⟨⟨invocation, rest⟩, made, since⟩ :: after) s)
    (hinitial : terms.state initial)
    (hinvoke : ∀ invocation left,
      (api.invoke invocation).Proceeds terms R (endings invocation) left [])
    {a : invocation.Answer} (hstep : rest.StepsTo terms.answer s (.done a) s') :
    (terms.state s ∧ ∃ left, Passed R left since s ∧
      (endings invocation).byChange left made s s' a) ∨ (endings invocation).byAnswer a := by
  obtain ⟨hs, hcallers⟩ := h.follows hinitial hinvoke
  obtain ⟨left, hpassed, hproceeds⟩ := hcallers _ (List.mem_append_right _ List.mem_cons_self)
  generalize hdone : (.done a : Task σ S invocation.Answer) = ended at hstep
  cases hstep with
  | act change next =>
    obtain ⟨-, -, hends, -⟩ := hproceeds s hs
    exact .inl ⟨hs, left, hpassed, hends a hdone.symm⟩
  | answer next _ answer hanswer => exact .inr ((hproceeds answer hanswer).1 a hdone.symm)

/-! ## Runs -/

/-- A caller may work up to its next question without a break. -/
theorem toQuestion {invocation : Invocation} {rest : Task σ S invocation.Answer}
    {admits : (query : S.Query) → S.Answer query → Prop} {made : List (Exchange S)}
    {since : List σ}
    (h : Interleaved api admits initial (⟨⟨invocation, rest⟩, made, since⟩ :: callers) s)
    (server : Server S κ) (k : κ) :
    ∃ passed since, Interleaved api admits initial
      (⟨⟨invocation, (rest.toQuestion.run server s k).1⟩, made, since⟩ ::
        callers.map (Caller.watch passed)) (rest.toQuestion.run server s k).2.1 := by
  induction rest generalizing s callers since with
  | done a => exact ⟨[], since, by rwa [Caller.map_watch_nil]⟩
  | act change next ih =>
    obtain ⟨passed, since, hrest⟩ := ih s (act [] h)
    rw [Caller.map_watch_map_watch] at hrest
    exact ⟨_, since, hrest⟩
  | ask query next ih => exact ⟨[], since, by rwa [Caller.map_watch_nil]⟩

/-- A caller may be run to its end without a break. -/
theorem run_rest {invocation : Invocation} {rest : Task σ S invocation.Answer}
    {admits : (query : S.Query) → S.Answer query → Prop} {made : List (Exchange S)}
    {since : List σ}
    (h : Interleaved api admits initial (⟨⟨invocation, rest⟩, made, since⟩ :: callers) s)
    (server : Server S κ) (hserver : ∀ query k, admits query (server query k).1) (k : κ) :
    ∃ passed, Interleaved api admits initial (callers.map (Caller.watch passed))
      (rest.run server s k).2.1 := by
  induction rest generalizing s callers made since k with
  | done a =>
    refine ⟨[], ?_⟩
    rw [Caller.map_watch_nil]
    exact leave [] h
  | act change next ih =>
    obtain ⟨passed, hrest⟩ := ih s (act [] h) k
    rw [Caller.map_watch_map_watch] at hrest
    exact ⟨_, hrest⟩
  | ask query next ih =>
    exact ih (server query k).1 (answer [] h (server query k).1 (hserver query k)) _

/-- While others wait, an invocation may be run to its end. -/
theorem run {admits : (query : S.Query) → S.Answer query → Prop}
    (h : Interleaved api admits initial callers s) (server : Server S κ)
    (hserver : ∀ query k, admits query (server query k).1) (k : κ) (invocation : Invocation) :
    ∃ passed, Interleaved api admits initial (callers.map (Caller.watch passed))
      ((api.invoke invocation).run server s k).2.1 :=
  (h.begin invocation).run_rest server hserver k

end Interleaved

end

/-! ## Calls and their parts -/

section

variable {σ ρ : Type} {S : Signature} {α β : Type} {terms : Terms σ S} {R : σ → σ → Prop}
  {Q : α → Prop} {Q' : β → Prop}

/-- A task that leaves a view as it is makes steps of `R`, where `R` looks at nothing else. -/
theorem Task.Leaves.moves {lower : Terms σ S} {view : σ → ρ} {t : Task σ S α}
    (h : t.Leaves lower view Q) (hstate : ∀ s, terms.state s → lower.state s)
    (hanswer : ∀ query a, terms.answer query a → lower.answer query a)
    (hsame : ∀ s s', terms.state s → view s' = view s → terms.state s' ∧ R s s') :
    t.Moves terms R Q := by
  induction t with
  | done a => exact h
  | act change next ih =>
    intro s hs
    obtain ⟨-, hview, hnext⟩ := h s (hstate s hs)
    obtain ⟨hchange, hstep⟩ := hsame s (change s) hs hview
    exact ⟨hchange, hstep, ih s hnext⟩
  | ask query next ih => exact fun a ha => ih a (h a (hanswer query a ha))

/-- A part of a call whose steps are steps of `R`, with what is known of its result. -/
def MovesBy (terms : Terms σ S) (R : σ → σ → Prop) (x : Attempt σ S α) (Q : α → Prop) : Prop :=
  x.run.Moves terms R fun result => ∀ a, result = .ok a → Q a

/-- Ending with a value takes no step. -/
theorem movesBy_pure {a : α} (h : Q a) : MovesBy terms R (pure a) Q := by
  intro b hb
  rwa [← Except.ok.inj hb]

/-- Ending with an error takes no step. -/
theorem movesBy_throw (e : ApiError) : MovesBy terms R (throw e : Attempt σ S α) Q :=
  fun _ ha => nomatch ha

/-- The steps of two parts of a call are those of the one and those of the other. -/
theorem MovesBy.bind {x : Attempt σ S α} {f : α → Attempt σ S β} (h : MovesBy terms R x Q)
    (hf : ∀ a, Q a → MovesBy terms R (f a) Q') : MovesBy terms R (x >>= f) Q' := by
  refine Moves.bind h fun result hresult => ?_
  cases result with
  | ok a => exact hf a (hresult a rfl)
  | error e => exact movesBy_throw e

/-- A change of the state is a step of `R` if it is one from every state that is admitted. -/
theorem movesBy_step {f : σ → α × σ}
    (h : ∀ s, terms.state s → terms.state (f s).2 ∧ R s (f s).2 ∧ Q (f s).1) :
    MovesBy terms R (ExceptT.lift (Task.step f)) Q := by
  refine fun s hs => ⟨(h s hs).1, (h s hs).2.1, ?_⟩
  intro b hb
  rw [← Except.ok.inj hb]
  exact (h s hs).2.2

/-- If the steps of every call are steps of `R`, then so are those of every invocation. -/
theorem moves_invoke {api : Api σ S} (h : ∀ call, (api call).Moves terms R fun _ => True)
    (invocation : Invocation) : (api.invoke invocation).Moves terms R fun _ => True := by
  cases invocation with
  | direct call => exact h call
  | byName name parameters =>
    change (api.callByName name parameters).run.Moves terms R fun _ => True
    rw [callByName_eq]
    cases Request.parse name parameters with
    | error e => trivial
    | ok request =>
      refine Moves.bind (h (.supports request.method)) fun served _ => ?_
      cases served with
      | true => exact Moves.bind (h request.call) fun _ _ => trivial
      | false => trivial

end

end ChainIndex
