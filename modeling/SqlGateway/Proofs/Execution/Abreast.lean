import SqlGateway.Executor

/-!
# Runs side by side

Two runs that cannot be told apart by what they answer: they start in worlds that are related, give
answers that are related, panic alike, and leave worlds that are related again. What is related to
what is a parameter. One lemma for each way in which actions and works are put together carries the
relation from the parts to the whole, so that two runs of a long program are compared part by part.

Works are compared poll by poll. A race against a token then comes out alike, and what is left of
the works when the token fires can be awaited side by side, too.
-/

namespace SqlGateway

namespace Abreast

variable {W α β γ δ : Type} {R : W → W → Prop}

/-- Outcomes that agree. -/
inductive Outcomes (Q : α → β → Prop) : Except Panic α → Except Panic β → Prop where
  | ok {a : α} {b : β} (h : Q a b) : Outcomes Q (.ok a) (.ok b)
  | panic (panic : Panic) : Outcomes Q (.error panic) (.error panic)

/-- Steps that give the same from related worlds. -/
def Steps (R : W → W → Prop) (first second : StateM W α) : Prop :=
  ∀ v w, R v w → (first.run v).1 = (second.run w).1 ∧ R (first.run v).2 (second.run w).2

/-- Actions whose outcomes agree from related worlds. -/
def Acts (R : W → W → Prop) (Q : α → β → Prop) (first : Action W α) (second : Action W β) : Prop :=
  ∀ v w, R v w → Outcomes Q (first.perform v).1 (second.perform w).1 ∧
    R (first.perform v).2 (second.perform w).2

/-- Works that poll by poll come to the same. -/
inductive Works (R : W → W → Prop) : Work W α → Work W α → Prop where
  | done (outcome : Except Panic α) : Works R (.done outcome) (.done outcome)
  | poll {effect effect' : W → W} {rest rest' : W → Work W α}
    (heffect : ∀ v w, R v w → R (effect v) (effect' w))
    (hrest : ∀ v w, R v w → Works R (rest v) (rest' w)) :
    Works R (.poll effect rest) (.poll effect' rest')

/-- Races that ended alike. -/
inductive Races (R : W → W → Prop) : Work.Race W α → Work.Race W α → Prop where
  | finished (outcome : Except Panic α) : Races R (.finished outcome) (.finished outcome)
  | fired {rest rest' : Work W α} (h : Works R rest rest') : Races R (.fired rest) (.fired rest')

theorem outcomes_eq_iff {outcome outcome' : Except Panic α} :
    Outcomes Eq outcome outcome' ↔ outcome = outcome' := by
  constructor
  · intro h
    cases h with
    | ok h => rw [h]
    | panic panic => rfl
  · rintro rfl
    cases outcome with
    | ok a => exact .ok rfl
    | error panic => exact .panic panic

/-! ## Steps -/

namespace Steps

/-- What both give, and the worlds that they leave. -/
theorem exists_run {first second : StateM W α} (h : Steps R first second) {v w : W}
    (hworld : R v w) : ∃ a left left',
      first.run v = (a, left) ∧ second.run w = (a, left') ∧ R left left' := by
  obtain ⟨hanswer, hleft⟩ := h v w hworld
  exact ⟨(first.run v).1, (first.run v).2, (second.run w).2, rfl, Prod.ext hanswer.symm rfl, hleft⟩

theorem pure (a : α) : Steps R (Pure.pure a) (Pure.pure a) := fun _ _ hworld ↦ ⟨rfl, hworld⟩

theorem bind {first second : StateM W α} {next next' : α → StateM W β} (h : Steps R first second)
    (hnext : ∀ a, Steps R (next a) (next' a)) : Steps R (first >>= next) (second >>= next') := by
  intro v w hworld
  obtain ⟨hanswer, hleft⟩ := h v w hworld
  change ((next (first.run v).1).run (first.run v).2).1 =
    ((next' (second.run w).1).run (second.run w).2).1 ∧
      R ((next (first.run v).1).run (first.run v).2).2
        ((next' (second.run w).1).run (second.run w).2).2
  rw [hanswer]
  exact hnext _ _ _ hleft

theorem ite {c : Prop} [Decidable c] {first second other other' : StateM W α}
    (h : c → Steps R first second) (hother : ¬c → Steps R other other') :
    Steps R (if c then first else other) (if c then second else other') := by
  by_cases hc : c
  · rw [if_pos hc, if_pos hc]
    exact h hc
  · rw [if_neg hc, if_neg hc]
    exact hother hc

/-- What is done with the worlds themselves. -/
theorem get_bind {next next' : W → StateM W α}
    (hnext : ∀ v w, R v w → Steps R (next v) (next' w)) :
    Steps R (get >>= next) (get >>= next') :=
  fun v w hworld ↦ hnext v w hworld v w hworld

end Steps

/-! ## Actions -/

namespace Acts

variable {Q : α → β → Prop} {P : γ → δ → Prop}

theorem pure {a : α} {b : β} (h : Q a b) :
    Acts R Q (Pure.pure a : Action W α) (Pure.pure b : Action W β) :=
  fun _ _ hworld ↦ ⟨.ok h, hworld⟩

theorem bind {first : Action W α} {second : Action W β} {next : α → Action W γ}
    {next' : β → Action W δ} (h : Acts R Q first second)
    (hnext : ∀ a b, Q a b → Acts R P (next a) (next' b)) :
    Acts R P (first >>= next) (second >>= next') := by
  intro v w hworld
  obtain ⟨houtcome, hleft⟩ := h v w hworld
  rcases hfirst : first.perform v with ⟨outcome, left⟩
  rcases hsecond : second.perform w with ⟨outcome', left'⟩
  rw [hfirst, hsecond] at houtcome hleft
  cases houtcome with
  | ok hanswer =>
    rw [Action.perform_bind_of_ok hfirst, Action.perform_bind_of_ok hsecond]
    exact hnext _ _ hanswer left left' hleft
  | panic panic =>
    rw [Action.perform_bind_of_error hfirst, Action.perform_bind_of_error hsecond]
    exact ⟨.panic panic, hleft⟩

/-- Reading the worlds themselves gives what is related. -/
theorem get : Acts R R (MonadState.get : Action W W) MonadState.get :=
  fun _ _ hworld ↦ ⟨.ok hworld, hworld⟩

theorem ofState {first second : StateM W α} (h : Steps R first second) :
    Acts R Eq (Action.ofState first) (Action.ofState second) := by
  intro v w hworld
  obtain ⟨hanswer, hleft⟩ := h v w hworld
  exact ⟨.ok hanswer, hleft⟩

theorem ofOutcome {outcome : Except Panic α} {outcome' : Except Panic β}
    (h : Outcomes Q outcome outcome') :
    Acts R Q (Action.ofOutcome outcome) (Action.ofOutcome outcome') := by
  intro v w hworld
  rw [Action.perform_ofOutcome, Action.perform_ofOutcome]
  exact ⟨h, hworld⟩

end Acts

/-! ## Works -/

namespace Works

variable {work work' : Work W α}

theorem ofState {first second : StateM W α} (h : Steps R first second) :
    Works R (.ofState first) (.ofState second) := by
  refine .poll (fun v w hworld ↦ (h v w hworld).2) fun v w hworld ↦ ?_
  rw [(h v w hworld).1]
  exact .done _

theorem later (h : Works R work work') : Works R work.later work'.later :=
  .poll (fun _ _ hworld ↦ hworld) fun _ _ _ ↦ h

theorem map (f : α → β) (h : Works R work work') : Works R (work.map f) (work'.map f) := by
  induction h with
  | done outcome => exact .done (outcome.map f)
  | poll heffect hrest ih => exact .poll heffect ih

theorem recover (f : Panic → α) (h : Works R work work') :
    Works R (work.recover f) (work'.recover f) := by
  induction h with
  | done outcome =>
    cases outcome with
    | ok a => exact .done _
    | error panic => exact .done _
  | poll heffect hrest ih => exact .poll heffect ih

theorem await (h : Works R work work') : Acts R Eq work.await work'.await := by
  induction h with
  | done outcome => exact .ofOutcome (outcomes_eq_iff.mpr rfl)
  | poll heffect hrest ih =>
    intro v w hworld
    exact ih v w hworld _ _ (heffect v w hworld)

/-- A race comes out alike if the token reads alike. -/
theorem race {token : Cancellation W} (htoken : Steps R token token) (h : Works R work work')
    {v w : W} (hworld : R v w) :
    Races R (work.race token v).1 (work'.race token w).1 ∧
      R (work.race token v).2 (work'.race token w).2 := by
  induction h generalizing v w with
  | done outcome => exact ⟨.finished outcome, hworld⟩
  | @poll effect effect' rest rest' heffect hrest ih =>
    obtain ⟨fired, left, left', hread, hread', hleft⟩ := htoken.exists_run hworld
    rw [Work.race, Work.race, hread, hread']
    cases fired with
    | true => exact ⟨.fired (.poll heffect hrest), hleft⟩
    | false => exact ih left left' hleft (heffect left left' hleft)

end Works

/-! ## Scenes -/

/-- Scenes with related executors in related worlds. -/
structure Scenes (E : Executor W → Executor W → Prop) (R : W → W → Prop) (first second : Scene W) :
    Prop where
  executor : E first.executor second.executor
  world : R first.world second.world

variable {E : Executor W → Executor W → Prop}

/-- What is done to the worlds leaves the executors as they are. -/
theorem Acts.perform {Q : α → β → Prop} {first : Action W α} {second : Action W β}
    (h : Acts R Q first second) :
    Acts (Scenes E R) Q (Scene.perform first) (Scene.perform second) := by
  intro s t hscene
  obtain ⟨houtcome, hleft⟩ := h s.world t.world hscene.world
  rw [Scene.perform_perform, Scene.perform_perform]
  exact ⟨houtcome, hscene.executor, hleft⟩

theorem Steps.act {first second : StateM W α} (h : Steps R first second) :
    Steps (Scenes E R) (Scene.act first) (Scene.act second) := by
  intro s t hscene
  obtain ⟨hanswer, hleft⟩ := h s.world t.world hscene.world
  exact ⟨hanswer, hscene.executor, hleft⟩

/-- A change of the executors leaves the worlds as they are. -/
theorem Steps.revise {change change' : Executor W → Executor W}
    (h : ∀ first second, E first second → E (change first) (change' second)) :
    Steps (Scenes E R) (Scene.revise change) (Scene.revise change') :=
  fun _ _ hscene ↦ ⟨rfl, h _ _ hscene.executor, hscene.world⟩

end Abreast

end SqlGateway
