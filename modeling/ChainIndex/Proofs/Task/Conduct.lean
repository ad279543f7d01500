import ChainIndex.Proofs.Task.Run

/-!
# ChainIndex.Proofs.Task.Conduct

What a task does as long as those around it keep to some terms.

Terms say what holds of the shared state between any two steps and what a question may be
answered.  `t.Fulfils terms P` says that `t` keeps the state within the terms with every
step it takes, and that `P` holds of the exchanges it made and of the value it ends with,
whatever else happens to the state in between.  It is shown of a task by going through its
parts, and then holds of every run and every interleaving with other tasks.
-/

namespace ChainIndex

variable {σ τ κ ε : Type} {S T : Signature} {α β : Type}

/-- What a task may count on, and what is expected of it. -/
structure Terms (σ : Type) (S : Signature) where
  /-- What holds of the state between any two steps. -/
  state : σ → Prop
  /-- What a question may be answered. -/
  answer : (query : S.Query) → S.Answer query → Prop

/-- The terms that keep to a condition on the state and admit every answer. -/
def Terms.ofState (state : σ → Prop) : Terms σ S := ⟨state, fun _ _ => True⟩

/-- The terms that admit everything. -/
def Terms.any : Terms σ S := .ofState fun _ => True

/-- The terms that admit no answers but those of some exchanges. -/
def Terms.heard (made : List (Exchange S)) : Terms σ S :=
  ⟨fun _ => True, fun query answer => ⟨query, answer⟩ ∈ made⟩

/-- The terms of a task whose questions are answered by tasks. -/
def Terms.over (upper : Terms σ S) (lower : Terms τ T) : Terms (σ × τ) T :=
  ⟨fun s => upper.state s.1 ∧ lower.state s.2, lower.answer⟩

namespace Task

/-- Under the terms, a task keeps to them and ends with exchanges and a value of `P`. -/
def Fulfils (terms : Terms σ S) : Task σ S α → (List (Exchange S) → α → Prop) → Prop
  | .done a, P => P [] a
  | .act change next, P =>
    ∀ s, terms.state s → terms.state (change s) ∧ (next s).Fulfils terms P
  | .ask query next, P =>
    ∀ a, terms.answer query a → (next a).Fulfils terms fun made b => P (⟨query, a⟩ :: made) b

variable {terms : Terms σ S} {P P' : List (Exchange S) → α → Prop}
  {R : List (Exchange S) → β → Prop}

/-! ## Parts of tasks -/

/-- What is known of the end of a task may be weakened. -/
theorem Fulfils.mono {t : Task σ S α} (h : t.Fulfils terms P)
    (himp : ∀ made a, P made a → P' made a) : t.Fulfils terms P' := by
  induction t generalizing P P' with
  | done a => exact himp [] a h
  | act change next ih => exact fun s hs => ⟨(h s hs).1, ih s (h s hs).2 himp⟩
  | ask query next ih => exact fun a ha => ih a (h a ha) fun made b => himp (⟨query, a⟩ :: made) b

/-- Every task keeps to the terms that admit everything. -/
theorem fulfils_any (t : Task σ S α) : t.Fulfils .any fun _ _ => True := by
  induction t with
  | done a => trivial
  | act change next ih => exact fun s _ => ⟨trivial, ih s⟩
  | ask query next ih => exact fun a _ => ih a

/-- Reading a part of the state keeps to any terms. -/
theorem fulfils_read (view : σ → α) (h : ∀ s, terms.state s → P [] (view s)) :
    (Task.read view : Task σ S α).Fulfils terms P :=
  fun s hs => ⟨hs, h s hs⟩

/-- A step keeps to the terms if it keeps to the condition on the state. -/
theorem fulfils_step (f : σ → α × σ)
    (h : ∀ s, terms.state s → terms.state (f s).2 ∧ P [] (f s).1) :
    (Task.step f : Task σ S α).Fulfils terms P := h

theorem fulfils_modify (change : σ → σ) {P : List (Exchange S) → Unit → Prop}
    (h : ∀ s, terms.state s → terms.state (change s)) (hP : P [] ()) :
    (Task.modify change : Task σ S Unit).Fulfils terms P :=
  fun s hs => ⟨h s hs, hP⟩

/-- A task that goes on with another one keeps to the terms if both do. -/
theorem Fulfils.bind {t : Task σ S α} {f : α → Task σ S β} (h : t.Fulfils terms P)
    (hf : ∀ made a, P made a → (f a).Fulfils terms fun more b => R (made ++ more) b) :
    (t.bind f).Fulfils terms R := by
  induction t generalizing P R with
  | done a => exact hf [] a h
  | act change next ih => exact fun s hs => ⟨(h s hs).1, ih s (h s hs).2 hf⟩
  | ask query next ih =>
    exact fun a ha => ih a (h a ha) fun made b hb => hf (⟨query, a⟩ :: made) b hb

/-- What a task ends with, put in other words. -/
theorem Fulfils.map {t : Task σ S α} (f : α → β) (h : t.Fulfils terms fun made a => R made (f a)) :
    (t.bind fun a => .done (f a)).Fulfils terms R := by
  refine Fulfils.bind h fun made a ha => ?_
  change R (made ++ []) (f a)
  rwa [List.append_nil]

/-- A task that cannot fail, as one that may. -/
theorem fulfils_lift {t : Task σ S α} {P : List (Exchange S) → Except ε α → Prop}
    (h : t.Fulfils terms fun made a => P made (.ok a)) :
    (ExceptT.lift t : ExceptT ε (Task σ S) α).run.Fulfils terms P :=
  Fulfils.map Except.ok h

/-- A failure ends a task that may fail. -/
theorem Fulfils.bind_attempt {x : ExceptT ε (Task σ S) α} {f : α → ExceptT ε (Task σ S) β}
    {P : List (Exchange S) → Except ε α → Prop} {R : List (Exchange S) → Except ε β → Prop}
    (h : x.run.Fulfils terms P)
    (hok : ∀ made a, P made (.ok a) → (f a).run.Fulfils terms fun more b => R (made ++ more) b)
    (herror : ∀ made e, P made (.error e) → R made (.error e)) :
    (x >>= f).run.Fulfils terms R := by
  refine Fulfils.bind h fun made result hresult => ?_
  cases result with
  | ok a => exact hok made a hresult
  | error e =>
    refine show R (made ++ []) (.error e) from ?_
    rw [List.append_nil]
    exact herror made e hresult

/-! ## Results of tasks that may fail -/

/-- Under the terms, a task that may fail ends with a result of `Q` if it ends with one. -/
def Yields (terms : Terms σ S) (t : Task σ S (Except ε α)) (Q : α → Prop) : Prop :=
  t.Fulfils terms fun _ result => ∀ a, result = .ok a → Q a

/-- What is known of a first result carries over to what is made of it. -/
theorem Yields.bind {x : ExceptT ε (Task σ S) α} {f : α → ExceptT ε (Task σ S) β} {Q : α → Prop}
    {R : β → Prop} (h : Yields terms x.run Q) (hf : ∀ a, Q a → Yields terms (f a).run R) :
    Yields terms (x >>= f).run R :=
  Fulfils.bind_attempt h (fun _ a ha => hf a (ha a rfl)) fun _ _ _ _ hb => nomatch hb

/-- Renaming a failure changes no result. -/
theorem Yields.adapt {ε' : Type} {x : ExceptT ε (Task σ S) α} {Q : α → Prop}
    (h : Yields terms x.run Q) (rename : ε → ε') :
    Yields terms (ExceptT.adapt rename x).run Q :=
  Fulfils.map (Except.mapError rename) (h.mono fun _ _ ha a heq => ha a (mapError_eq_ok.mp heq))

/-- A result that is there already is one that is known. -/
theorem yields_except {result : Except ε α} {Q : α → Prop} (h : ∀ a, result = .ok a → Q a) :
    Yields terms (liftM result : ExceptT ε (Task σ S) α).run Q := by
  cases result with
  | ok a => exact h
  | error e => exact h

/-- Under the terms, a task that may fail does not, and ends with a result of `Q`. -/
def Succeeds (terms : Terms σ S) (t : Task σ S (Except ε α)) (Q : α → Prop) : Prop :=
  t.Fulfils terms fun _ result => ∃ a, result = .ok a ∧ Q a

/-- Tasks that do not fail do not fail one after the other. -/
theorem Succeeds.bind {x : ExceptT ε (Task σ S) α} {f : α → ExceptT ε (Task σ S) β} {Q : α → Prop}
    {R : β → Prop} (h : Succeeds terms x.run Q) (hf : ∀ a, Q a → Succeeds terms (f a).run R) :
    Succeeds terms (x >>= f).run R := by
  refine Fulfils.bind_attempt h ?_ ?_
  · rintro _ a ⟨b, hb, hQ⟩
    obtain rfl := Except.ok.inj hb
    exact hf a hQ
  · rintro _ e ⟨_, herror, -⟩
    cases herror

/-- Renaming errors does no harm where there are none. -/
theorem Succeeds.adapt {ε' : Type} {x : ExceptT ε (Task σ S) α} {Q : α → Prop}
    (h : Succeeds terms x.run Q) (rename : ε → ε') :
    Succeeds terms (ExceptT.adapt rename x).run Q := by
  refine Fulfils.map (Except.mapError rename) (h.mono ?_)
  rintro _ _ ⟨a, rfl, ha⟩
  exact ⟨a, rfl, ha⟩

/-! ## Terms in part -/

/-- Where fewer answers are admitted, every answer that a task gets is one of these. -/
theorem Fulfils.restrict {t : Task σ S α} (h : t.Fulfils terms P)
    {answer : (query : S.Query) → S.Answer query → Prop}
    (hanswer : ∀ query a, answer query a → terms.answer query a) :
    t.Fulfils ⟨terms.state, answer⟩ fun made a =>
      P made a ∧ ∀ x ∈ made, answer x.query x.answer := by
  induction t generalizing P with
  | done a => exact ⟨h, fun x hx => nomatch hx⟩
  | act change next ih => exact fun s hs => ⟨(h s hs).1, ih s (h s hs).2⟩
  | ask query next ih =>
    intro a ha
    refine (ih a (h a (hanswer query a ha))).mono fun made b hb => ?_
    exact ⟨hb.1, List.forall_mem_cons.mpr ⟨ha, hb.2⟩⟩

/-! ## Tasks that wait -/

/-- What is left of a task that has worked up to a question fulfils what the task did. -/
theorem Fulfils.toQuestion {t : Task σ S α} (h : t.Fulfils terms P) :
    t.toQuestion.Fulfils terms fun made rest => made = [] ∧ rest.Fulfils terms P := by
  induction t with
  | done a => exact ⟨rfl, h⟩
  | act change next ih => exact fun s hs => ⟨(h s hs).1, ih s (h s hs).2⟩
  | ask query next ih => exact ⟨rfl, h⟩

/-- What is left of a task past a question fulfils the rest of what the task did. -/
theorem Fulfils.pastQuestion {t : Task σ S α} (h : t.Fulfils terms P) :
    t.pastQuestion.Fulfils terms fun made rest =>
      rest.Fulfils terms fun more a => P (made ++ more) a := by
  cases t with
  | done a => exact h
  | act change next =>
    refine fun s hs => ⟨(h s hs).1, (h s hs).2.toQuestion.mono fun made rest hrest => ?_⟩
    obtain ⟨rfl, hrest⟩ := hrest
    exact hrest
  | ask query next =>
    refine fun a ha => (h a ha).toQuestion.mono fun made rest hrest => ?_
    obtain ⟨rfl, hrest⟩ := hrest
    exact hrest

/-! ## Tasks inside a larger state -/

/-- A task on a part of the state does there what it does on its own. -/
theorem Fulfils.within {t : Task τ S α} {part : Part σ τ} {lower : Terms τ S} {state : σ → Prop}
    (h : t.Fulfils lower P) (hget : ∀ s, state s → lower.state (part.get s))
    (hset : ∀ s b, state s → lower.state b → state (part.set s b)) :
    (t.within part).Fulfils ⟨state, lower.answer⟩ P := by
  induction t generalizing P with
  | done a => exact h
  | act change next ih =>
    intro s hs
    obtain ⟨hchange, hnext⟩ := h _ (hget s hs)
    exact ⟨hset s _ hs hchange, ih _ hnext⟩
  | ask query next ih => exact fun a ha => ih a (h a ha)

/-! ## Tasks that answer questions -/

/-- A task whose questions are answered by tasks does what it does with their answers, and every
exchange of its own stands for those that answered it. -/
theorem Fulfils.answeredBy {t : Task σ S α} {serve : (query : S.Query) → Task τ T (S.Answer query)}
    {lower : Terms τ T} {Answered : Exchange S → List (Exchange T) → Prop}
    (h : t.Fulfils terms P)
    (hserve : ∀ query, (serve query).Fulfils lower fun made a =>
      terms.answer query a ∧ Answered ⟨query, a⟩ made) :
    (t.answeredBy serve).Fulfils (terms.over lower) fun made a =>
      ∃ parts : List (Exchange S × List (Exchange T)), made = parts.flatMap Prod.snd ∧
        (∀ part ∈ parts, Answered part.1 part.2) ∧ P (parts.map Prod.fst) a := by
  induction t generalizing P with
  | done a => exact ⟨[], rfl, by simp, h⟩
  | act change next ih => exact fun s hs => ⟨⟨(h _ hs.1).1, hs.2⟩, ih _ (h _ hs.1).2⟩
  | ask query next ih =>
    have hwithin : ((serve query).within (.second : Part (σ × τ) τ)).Fulfils (terms.over lower)
        fun made a => terms.answer query a ∧ Answered ⟨query, a⟩ made :=
      (hserve query).within (fun _ hs => hs.2) fun _ _ hs hb => ⟨hs.1, hb⟩
    refine Fulfils.bind hwithin fun made a ha => ?_
    refine (ih a (h a ha.1)).mono fun more b hmore => ?_
    obtain ⟨parts, rfl, hparts, hP⟩ := hmore
    exact ⟨(⟨query, a⟩, made) :: parts, rfl, List.forall_mem_cons.mpr ⟨ha.2, hparts⟩, hP⟩

/-! ## Runs -/

/-- A run against a server that keeps to the terms ends as foreseen and within them. -/
theorem Fulfils.run {t : Task σ S α} (h : t.Fulfils terms P) (server : Server S κ)
    (hserver : ∀ query k, terms.answer query (server query k).1) {s : σ} (hs : terms.state s)
    (k : κ) (record : List (Exchange S)) :
    ∃ made, (t.run server.recording s (k, record)).2.2.2 = record ++ made ∧
      P made (t.run server.recording s (k, record)).1 ∧
      terms.state (t.run server.recording s (k, record)).2.1 := by
  induction t generalizing s k record P with
  | done a => exact ⟨[], (List.append_nil record).symm, h, hs⟩
  | act change next ih => exact ih s (h s hs).2 (h s hs).1 k record
  | ask query next ih =>
    obtain ⟨made, hrecord, hP, hstate⟩ := ih (server query k).1 (h _ (hserver query k)) hs
      (server query k).2 (record ++ [⟨query, (server query k).1⟩])
    rw [List.append_assoc] at hrecord
    exact ⟨⟨query, (server query k).1⟩ :: made, hrecord, hP, hstate⟩

/-- A run ends as foreseen if its own exchanges keep to the terms, whatever else the server would
have answered. -/
theorem Fulfils.run_of_record {t : Task σ S α} (h : t.Fulfils terms P) (server : Server S κ)
    {s : σ} (hs : terms.state s) (k : κ) {record made : List (Exchange S)}
    (hmade : (t.run server.recording s (k, record)).2.2.2 = record ++ made)
    (hanswers : ∀ x ∈ made, terms.answer x.query x.answer) :
    P made (t.run server.recording s (k, record)).1 := by
  induction t generalizing s k record made P with
  | done a =>
    obtain rfl := List.append_right_eq_self.mp hmade.symm
    exact h
  | act change next ih => exact ih s (h s hs).2 (h s hs).1 k hmade hanswers
  | ask query next ih =>
    obtain ⟨more, hmore⟩ := prefix_recording server (next (server query k).1) s (server query k).2
      (record ++ [⟨query, (server query k).1⟩])
    obtain rfl : ⟨query, (server query k).1⟩ :: more = made :=
      List.append_cancel_left ((List.append_assoc _ _ _).symm.trans (hmore.trans hmade))
    obtain ⟨hfirst, hrest⟩ := List.forall_mem_cons.mp hanswers
    exact ih (server query k).1 (h _ hfirst) hs _ hmore.symm hrest

/-- What any exchanges make of the result of a task, those of a run make of its result. -/
theorem Fulfils.run_heard {t : Task σ S α} {Q : List (Exchange S) → α → Prop}
    (h : ∀ made, t.Fulfils (.heard made) fun _ a => Q made a) (server : Server S κ) (s : σ)
    (k : κ) :
    Q (t.run server.recording s (k, [])).2.2.2 (t.run server.recording s (k, [])).1 :=
  (h _).run_of_record server trivial k (List.nil_append _).symm fun _ hx => hx

/-- The same of a run without a record. -/
theorem Fulfils.run_value {t : Task σ S α} {Q : α → Prop} (h : t.Fulfils terms fun _ a => Q a)
    (server : Server S κ) (hserver : ∀ query k, terms.answer query (server query k).1) {s : σ}
    (hs : terms.state s) (k : κ) : Q (t.run server s k).1 := by
  obtain ⟨made, -, hQ, -⟩ := h.run server hserver hs k []
  rw [← run_recording server t s k []]
  exact hQ

/-- A run keeps the state within the terms. -/
theorem Fulfils.run_state {t : Task σ S α} (h : t.Fulfils terms P) (server : Server S κ)
    (hserver : ∀ query k, terms.answer query (server query k).1) {s : σ} (hs : terms.state s)
    (k : κ) : terms.state (t.run server s k).2.1 := by
  obtain ⟨made, -, -, hstate⟩ := h.run server hserver hs k []
  rw [← run_recording server t s k []]
  exact hstate

end Task

end ChainIndex
