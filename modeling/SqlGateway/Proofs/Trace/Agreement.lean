import SqlGateway.Proofs.Trace.Recorder

/-!
# Recording changes nothing

A step of a plain scene and the same step of the scene with a log are followed together: they have
the same answer and leave the same scene, except for the events added to the log. So a law about
logs is a law about what the plain executor does, and not about the recorder.

The rules below are those of the sequencing of steps. What is read of a scene must not depend on
its log, which is how a step that looks at the log would be found out.
-/

namespace SqlGateway

open Trace

variable {W α β : Type}

namespace Trace

/-! ## Steps that note events -/

/-- A step of a scene and of the same scene with a log agree, and add these events to the log. -/
structure Notes (bare : StateM (Scene W) α) (noted : StateM (Scene (Recorded W)) α)
    (scene : Scene W) (answer : α) (events : List Event) (left : Scene W) : Prop where
  run_bare : bare.run scene = (answer, left)
  run_noted (log : List Event) :
    noted.run (scene.recorded log) = (answer, left.recorded (log ++ events))

namespace Notes

variable {scene left last : Scene W} {events more : List Event}

theorem pure (a : α) : Notes (pure a) (pure a) scene a [] scene :=
  ⟨rfl, fun log ↦ by rw [List.append_nil]; rfl⟩

theorem bind {bare : StateM (Scene W) α} {noted : StateM (Scene (Recorded W)) α}
    {next : α → StateM (Scene W) β} {next' : α → StateM (Scene (Recorded W)) β} {a : α} {b : β}
    (first : Notes bare noted scene a events left)
    (second : Notes (next a) (next' a) left b more last) :
    Notes (bare >>= next) (noted >>= next') scene b (events ++ more) last where
  run_bare := by
    change (next (bare.run scene).1).run (bare.run scene).2 = _
    rw [first.run_bare, second.run_bare]
  run_noted log := by
    change (next' (noted.run _).1).run (noted.run _).2 = _
    rw [first.run_noted, second.run_noted, List.append_assoc]

/-- A step whose answer is only passed on in another form. -/
theorem thenPure {bare : StateM (Scene W) α} {noted : StateM (Scene (Recorded W)) α}
    {next : α → StateM (Scene W) β} {next' : α → StateM (Scene (Recorded W)) β} {a : α} {b : β}
    (first : Notes bare noted scene a events left) (h : next a = Pure.pure b)
    (h' : next' a = Pure.pure b) : Notes (bare >>= next) (noted >>= next') scene b events left := by
  have hall : Notes (bare >>= next) (noted >>= next') scene b (events ++ []) left :=
    first.bind (by rw [h, h']; exact .pure b)
  rwa [List.append_nil] at hall

/-- Reading the scene: what is done with it must not depend on the log. -/
theorem get {next : Scene W → StateM (Scene W) α}
    {next' : Scene (Recorded W) → StateM (Scene (Recorded W)) α} {a : α}
    (hnext : ∀ log, next' (scene.recorded log) = next' (scene.recorded []))
    (second : Notes (next scene) (next' (scene.recorded [])) scene a events left) :
    Notes (MonadState.get >>= next) (MonadState.get >>= next') scene a events left where
  run_bare := second.run_bare
  run_noted log := by
    change (next' (scene.recorded log)).run (scene.recorded log) = _
    rw [hnext, second.run_noted]

theorem act {step : StateM W α} {a : α} {world : W} (h : step.run scene.world = (a, world))
    (event : α → Event) :
    Notes (Scene.act step) (Scene.act (Recorded.note event step)) scene a [event a]
      { scene with world := world } where
  run_bare := by
    change ((step.run scene.world).1, ({ scene with world := (step.run scene.world).2 })) = _
    rw [h]
  run_noted log := by
    change ((step.run scene.world).1,
      Scene.recorded { scene with world := (step.run scene.world).2 }
        (log ++ [event (step.run scene.world).1])) = _
    rw [h]

theorem revise {change : Executor W → Executor W}
    {change' : Executor (Recorded W) → Executor (Recorded W)}
    (h : change' scene.executor.recorded = (change scene.executor).recorded) :
    Notes (Scene.revise change) (Scene.revise change') scene () []
      { scene with executor := change scene.executor } where
  run_bare := rfl
  run_noted log := by
    change ((), (⟨change' scene.executor.recorded, ⟨scene.world, log⟩⟩ : Scene (Recorded W))) = _
    rw [h, List.append_nil]
    rfl

section Branches

variable {c : Prop} [Decidable c] {yes no : StateM (Scene W) α}
  {yes' no' : StateM (Scene (Recorded W)) α} {a : α}

theorem ifPos (hc : c) (h : Notes yes yes' scene a events left) :
    Notes (if c then yes else no) (if c then yes' else no') scene a events left := by
  rwa [if_pos hc, if_pos hc]

theorem ifNeg (hc : ¬c) (h : Notes no no' scene a events left) :
    Notes (if c then yes else no) (if c then yes' else no') scene a events left := by
  rwa [if_neg hc, if_neg hc]

end Branches

end Notes

/-! ## Actions that note events -/

/-- Doing something to the world of a scene with a log. -/
theorem perform_recorded {action : Action (Recorded W) α} {outcome : Except Panic α}
    {scene : Scene W} {world : W} {log log' : List Event}
    (h : action.perform ⟨scene.world, log⟩ = (outcome, ⟨world, log'⟩)) :
    (Scene.perform action).perform (scene.recorded log) =
      (outcome, Scene.recorded { scene with world := world } log') := by
  have hworld : (scene.recorded log).world = ⟨scene.world, log⟩ := rfl
  rw [Scene.perform_perform, hworld, h]
  rfl

/-- An action of a scene and of the same scene with a log agree, and add these events to the
log. -/
structure Records (bare : Action (Scene W) α) (noted : Action (Scene (Recorded W)) α)
    (scene : Scene W) (outcome : Except Panic α) (events : List Event) (left : Scene W) :
    Prop where
  perform_bare : bare.perform scene = (outcome, left)
  perform_noted (log : List Event) :
    noted.perform (scene.recorded log) = (outcome, left.recorded (log ++ events))

namespace Records

variable {scene left last : Scene W} {events more : List Event}

theorem pure (a : α) : Records (pure a) (pure a) scene (.ok a) [] scene :=
  ⟨rfl, fun log ↦ by rw [List.append_nil]; rfl⟩

theorem ofState {bare : StateM (Scene W) α} {noted : StateM (Scene (Recorded W)) α} {a : α}
    (h : Notes bare noted scene a events left) :
    Records (.ofState bare) (.ofState noted) scene (.ok a) events left where
  perform_bare := by rw [Action.perform_ofState, h.run_bare]
  perform_noted log := by rw [Action.perform_ofState, h.run_noted]

section Sequence

variable {bare : Action (Scene W) α} {noted : Action (Scene (Recorded W)) α}
  {next : α → Action (Scene W) β} {next' : α → Action (Scene (Recorded W)) β}

theorem bind {a : α} {outcome : Except Panic β}
    (first : Records bare noted scene (.ok a) events left)
    (second : Records (next a) (next' a) left outcome more last) :
    Records (bare >>= next) (noted >>= next') scene outcome (events ++ more) last where
  perform_bare := by
    rw [Action.perform_bind_of_ok first.perform_bare, second.perform_bare]
  perform_noted log := by
    rw [Action.perform_bind_of_ok (first.perform_noted log), second.perform_noted,
      List.append_assoc]

/-- An action whose answer is only passed on in another form. -/
theorem thenPure {a : α} {b : β} (first : Records bare noted scene (.ok a) events left)
    (h : next a = Pure.pure b) (h' : next' a = Pure.pure b) :
    Records (bare >>= next) (noted >>= next') scene (.ok b) events left := by
  have hall : Records (bare >>= next) (noted >>= next') scene (.ok b) (events ++ []) left :=
    first.bind (by rw [h, h']; exact .pure b)
  rwa [List.append_nil] at hall

/-- A panic ends the sequence. -/
theorem bindPanic {panic : Panic} (first : Records bare noted scene (.error panic) events left) :
    Records (bare >>= next) (noted >>= next') scene (.error panic) events left where
  perform_bare := Action.perform_bind_of_error first.perform_bare next
  perform_noted log := Action.perform_bind_of_error (first.perform_noted log) next'

end Sequence

/-- Reading the scene: what is done with it must not depend on the log. -/
theorem get {next : Scene W → Action (Scene W) α}
    {next' : Scene (Recorded W) → Action (Scene (Recorded W)) α} {outcome : Except Panic α}
    (hnext : ∀ log, next' (scene.recorded log) = next' (scene.recorded []))
    (second : Records (next scene) (next' (scene.recorded [])) scene outcome events left) :
    Records (MonadState.get >>= next) (MonadState.get >>= next') scene outcome events left where
  perform_bare := by rw [Action.perform_bind_of_ok rfl, second.perform_bare]
  perform_noted log := by rw [Action.perform_bind_of_ok rfl, hnext, second.perform_noted]

/-- Doing something to the world of a scene. -/
theorem perform {action : Action W α} {action' : Action (Recorded W) α}
    {outcome : Except Panic α} {world : W} (h : action.perform scene.world = (outcome, world))
    (h' : ∀ log, action'.perform ⟨scene.world, log⟩ = (outcome, ⟨world, log ++ events⟩)) :
    Records (Scene.perform action) (Scene.perform action') scene outcome events
      { scene with world := world } where
  perform_bare := by rw [Scene.perform_perform, h]
  perform_noted log := perform_recorded (h' log)

end Records

end Trace

end SqlGateway
