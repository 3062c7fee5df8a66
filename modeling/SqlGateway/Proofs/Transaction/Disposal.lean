import SqlGateway.Proofs.Transaction.Reopening

/-!
# Giving an executor up

An executor closes its connection once, when it is given up, and asks nothing of the backend after
that. Three notes guard this: whether the executor was given up, whether the connection counts as
closed since it was opened last, and whether a transaction is active. The second one is taken back
at every opening, so it has to be shown that no call ever sets it.

What the backend answers to the last calls does not matter: a transaction that cannot be rolled
back does not keep the connection from being closed. Neither does it matter whether the executor is
closed or dropped, since closing drops it as well and a second disposal does nothing.
-/

namespace SqlGateway

open Trace

variable {W : Type}

namespace Trace

/-- Whether the backend was asked to close the connection. -/
def Event.isClosing : Event → Bool
  | .closed _ => true
  | _ => false

/-- What is asked of the backend when an executor is given up, and in which order. The truth value
says whether a transaction is active. -/
inductive Ending : Bool → List Event → Prop where
  | idle (answer : BackendResult Unit) : Ending false [.closed answer]
  | pending (rollback close : BackendResult Unit) :
      Ending true [.rolledBack rollback, .closed close]

theorem Ending.closing_last {active : Bool} {ending : List Event} (h : Ending active ending) :
    ∃ front answer, ending = front ++ [.closed answer] ∧
      ∀ event ∈ front, event.isClosing = false := by
  cases h with
  | idle answer => exact ⟨[], answer, rfl, by simp⟩
  | pending rollback close => exact ⟨[.rolledBack rollback], close, rfl, by simp [Event.isClosing]⟩

theorem Event.Concerns.not_isClosing {command : Command} {event : Event}
    (h : event.Concerns command) : event.isClosing = false := by
  cases event with
  | closed => cases h
  | _ => rfl

end Trace

namespace Executor

variable {executor left : Executor W} {events : List Event}

/-! ## Executors in use -/

/-- An executor that was not given up, over a connection that was not closed since it was opened
last. -/
structure InUse (executor : Executor W) : Prop where
  closed_eq : executor.closed = false
  disposed_eq : executor.disposed = false

theorem EnsuredOpen.inUse {answer : Result Unit} (h : EnsuredOpen executor events answer left)
    (huse : executor.InUse) : left.InUse := by
  cases h with
  | opened => exact ⟨rfl, huse.disposed_eq⟩
  | found | foundLate | failed => exact huse

theorem EnsuredOpen.not_isClosing {answer : Result Unit}
    (h : EnsuredOpen executor events answer left) : ∀ event ∈ events, event.isClosing = false := by
  cases h <;> simp [Event.isClosing]

theorem Began.inUse {isolation : Option IsolationLevel} {answer : Result Unit}
    (h : executor.Began isolation events answer left) (huse : executor.InUse) : left.InUse := by
  cases h with
  | refused => exact huse
  | unopened _ hopen | failed _ _ hopen => exact hopen.inUse huse
  | begun id _ hopen => exact ⟨(hopen.inUse huse).closed_eq, (hopen.inUse huse).disposed_eq⟩

theorem Began.not_isClosing {isolation : Option IsolationLevel} {answer : Result Unit}
    (h : executor.Began isolation events answer left) :
    ∀ event ∈ events, event.isClosing = false := by
  cases h with
  | refused => simp
  | unopened _ hopen => exact hopen.not_isClosing
  | failed _ _ hopen | begun _ _ hopen =>
    refine List.forall_mem_append.mpr ⟨hopen.not_isClosing, ?_⟩
    simp [Event.isClosing]

theorem Ended.inUse {event : BackendResult Unit → Event} {answer : Result Unit}
    (h : executor.Ended event events answer left) (huse : executor.InUse) : left.InUse := by
  cases h with
  | idle => exact huse
  | ended => exact ⟨huse.closed_eq, huse.disposed_eq⟩

theorem Ended.not_isClosing {event : BackendResult Unit → Event} {answer : Result Unit}
    (h : executor.Ended event events answer left)
    (hevent : ∀ answer, (event answer).isClosing = false) :
    ∀ event ∈ events, event.isClosing = false := by
  cases h with
  | idle => simp
  | ended answer => simp [hevent]

theorem Ran.inUse {sql : String} {parameters : List Parameter} {code : String}
    {outcome : Except Panic (Result Output)}
    (h : executor.Ran sql parameters code events outcome left) (huse : executor.InUse) :
    left.InUse := by
  cases h with
  | lost => exact ⟨huse.closed_eq, huse.disposed_eq⟩
  | unopened hopen | ran hopen => exact hopen.inUse huse

theorem not_isClosing_check (transaction : Option ActiveTransaction) :
    ∀ event ∈ check transaction, event.isClosing = false := by
  cases transaction <;> simp [check, Event.isClosing]

theorem Ran.not_isClosing {sql : String} {parameters : List Parameter} {code : String}
    {outcome : Except Panic (Result Output)}
    (h : executor.Ran sql parameters code events outcome left) :
    ∀ event ∈ events, event.isClosing = false := by
  cases h with
  | lost => simp [Event.isClosing]
  | unopened hopen =>
    exact List.forall_mem_append.mpr ⟨not_isClosing_check _, hopen.not_isClosing⟩
  | ran hopen hmore =>
    refine List.forall_mem_append.mpr ⟨?_, fun event hmem ↦ (hmore event hmem).not_isClosing⟩
    exact List.forall_mem_append.mpr ⟨not_isClosing_check _, hopen.not_isClosing⟩

/-- A call leaves an executor in use. -/
theorem inUse_of_went {call : Call W} {outcome : Outcome}
    (h : call.Went executor events outcome left) (huse : executor.InUse) : left.InUse := by
  cases h with
  | begin h => exact h.inUse huse
  | commit h | rollback h => exact h.inUse huse
  | execute _ h | executeAsync _ _ h => exact h.inUse huse
  | setBefore | setAfter | clearHooks => exact ⟨huse.closed_eq, huse.disposed_eq⟩

/-- No call closes the connection. -/
theorem not_isClosing_of_went {call : Call W} {outcome : Outcome}
    (h : call.Went executor events outcome left) : ∀ event ∈ events, event.isClosing = false := by
  cases h with
  | begin h => exact h.not_isClosing
  | commit h | rollback h => exact h.not_isClosing fun _ ↦ rfl
  | execute _ h | executeAsync _ _ h => exact h.not_isClosing
  | setBefore | setAfter | clearHooks => simp

theorem last_inUse [IdSource W] (calls : List (Call W)) (scene : Scene W) (log : List Event)
    (huse : scene.executor.InUse) (hlog : ∀ event ∈ log, event.isClosing = false) :
    ∃ (final : Scene W) (log' : List Event), last calls (scene.recorded log) = final.recorded log' ∧
      final.executor.InUse ∧ ∀ event ∈ log', event.isClosing = false := by
  refine history_induction (motive := fun scene log _ final ↦ scene.executor.InUse →
    (∀ event ∈ log, event.isClosing = false) →
    ∃ (scene' : Scene W) (log' : List Event), final = scene'.recorded log' ∧
      scene'.executor.InUse ∧ ∀ event ∈ log', event.isClosing = false)
    ?_ ?_ calls scene log huse hlog
  · intro scene log huse hlog
    exact ⟨scene, log, rfl, huse, hlog⟩
  · intro call scene left log events outcome moments final hwent ih huse hlog
    exact ih (inUse_of_went hwent huse)
      (List.forall_mem_append.mpr ⟨hlog, not_isClosing_of_went hwent⟩)

/-! ## Disposal -/

/-- Closing a connection that was not closed yet. -/
theorem closeConnection_notes (scene : Scene W) (hopen : scene.executor.closed = false) :
    ∃ answer world, Notes closeConnection closeConnection scene answer [.closed answer]
      ⟨{ scene.executor with closed := true }, world⟩ := by
  let marked : Scene W := { scene with executor := { scene.executor with closed := true } }
  rcases hclose : scene.executor.backend.close.run scene.world with ⟨answer, world⟩
  have hcall : Notes (Scene.act scene.executor.backend.close)
      (Scene.act scene.executor.backend.recorded.close) marked answer [.closed answer]
      { marked with world := world } := by
    refine .act ?_ .closed
    exact hclose
  have hmark : Notes (Scene.revise fun executor ↦ { executor with closed := true })
      (Scene.revise fun executor ↦ { executor with closed := true }) scene () [] marked :=
    .revise rfl
  exact ⟨answer, world, .get (fun _ ↦ rfl) (.ifNeg (by simp [hopen]) (.bind hmark hcall))⟩

/-- What an executor in use asks of the backend when it is given up, and what is left of it. -/
theorem dispose_notes (scene : Scene W) (huse : scene.executor.InUse) :
    ∃ ending left world, Ending scene.executor.isActive ending ∧ left.disposed = true ∧
      Notes dispose dispose scene () ending ⟨left, world⟩ := by
  let given : Scene W := { scene with executor := { scene.executor with disposed := true } }
  obtain ⟨events, answer, left, world, hended, hrollback⟩ :=
    endTransaction_notes Backend.rollback .rolledBack given rfl
  have hleft : left.closed = false ∧ left.disposed = true := by
    cases hended with
    | idle | ended => exact ⟨huse.closed_eq, rfl⟩
  -- Whatever the rollback answered, the connection is closed next.
  obtain ⟨answer', world', hclose⟩ := closeConnection_notes ⟨left, world⟩ hleft.1
  refine ⟨events ++ [.closed answer'], { left with closed := true }, world', ?_, hleft.2, ?_⟩
  · cases hended with
    | idle hidle =>
      have hidle : scene.executor.transaction = none := hidle
      rw [isActive, hidle]
      exact .idle answer'
    | ended answer hactive =>
      have hactive : scene.executor.transaction = some _ := hactive
      rw [isActive, hactive]
      exact .pending answer answer'
  · have hmark : Notes (Scene.revise fun executor ↦ { executor with disposed := true })
        (Scene.revise fun executor ↦ { executor with disposed := true }) scene () [] given :=
      .revise rfl
    refine .get (fun _ ↦ rfl) (.ifNeg (by simp [huse.disposed_eq]) ?_)
    change Notes _ _ scene () ([] ++ (events ++ [.closed answer'])) _
    exact .bind hmark (.bind hrollback (.thenPure hclose rfl rfl))

/-- Who was given up is not given up again. -/
theorem dispose_of_disposed (scene : Scene W) (h : scene.executor.disposed = true) :
    dispose.run scene = ((), scene) := by
  change StateT.run (if scene.executor.disposed = true then pure () else _) scene = _
  rw [if_pos h]
  rfl

/-- An executor that was created has made sure that its connection is open. -/
theorem create_recorded {serverType : ServerType} {dialect : Dialect} {backend : Backend W}
    {world : W} {executor : Executor (Recorded W)} {opened : Recorded W}
    (h : (create serverType dialect backend.recorded).run ⟨world, []⟩ = (.ok executor, opened)) :
    ∃ (scene : Scene W) (log : List Event), scene.recorded log = ⟨executor, opened⟩ ∧
      EnsuredOpen { serverType := serverType, dialect := dialect, backend := backend } log (.ok ())
        scene.executor := by
  obtain ⟨events, answer, left, hensuring, -, hrun⟩ :=
    create_ensuring serverType dialect backend world
  rw [hrun] at h
  cases answer with
  | error e => cases h
  | ok =>
    cases h
    exact ⟨left, events, rfl, hensuring.ensuredOpen⟩

/-- What is left of an executor that was created, called for and given up. -/
theorem last_disposed [IdSource W] {serverType : ServerType} {dialect : Dialect}
    {backend : Backend W} {world : W} {executor : Executor (Recorded W)} {opened : Recorded W}
    (hcreated :
      (create serverType dialect backend.recorded).run ⟨world, []⟩ = (.ok executor, opened))
    (calls : List (Call W)) :
    ∃ (final left : Scene W) (log ending : List Event),
      last calls ⟨executor, opened⟩ = final.recorded log ∧
      dispose.run (final.recorded log) = ((), left.recorded (log ++ ending)) ∧
      Ending final.executor.isActive ending ∧ (∀ event ∈ log, event.isClosing = false) ∧
      left.executor.disposed = true := by
  obtain ⟨scene, log, hscene, hopen⟩ := create_recorded hcreated
  obtain ⟨final, log', hfinal, huse, hlog⟩ :=
    last_inUse calls scene log (hopen.inUse ⟨rfl, rfl⟩) hopen.not_isClosing
  obtain ⟨ending, left, world', hending, hdisposed, hnotes⟩ := dispose_notes final huse
  rw [hscene] at hfinal
  exact ⟨final, ⟨left, world'⟩, log', ending, hfinal, hnotes.run_noted log', hending, hlog,
    hdisposed⟩

/-- **An executor closes its connection once and then leaves it alone.** After any calls of an
executor that was created, its disposal asks the backend to roll back the transaction that is
active, if one is, and to close the connection, whatever is answered. Nothing was closed before
that, and a disposal after the first one does nothing. -/
theorem history_disposed [IdSource W] {serverType : ServerType} {dialect : Dialect}
    {backend : Backend W} {world : W} {executor : Executor (Recorded W)} {opened : Recorded W}
    (hcreated :
      (create serverType dialect backend.recorded).run ⟨world, []⟩ = (.ok executor, opened))
    (calls : List (Call W)) :
    let final := last calls ⟨executor, opened⟩
    let left := (dispose.run final).2
    (∃ ending, Ending final.executor.isActive ending ∧
      left.world.log = final.world.log ++ ending) ∧
    (∃ front answer, left.world.log = front ++ [.closed answer]) ∧
    left.world.log.countP Event.isClosing = 1 ∧
    dispose.run left = ((), left) := by
  intro final left
  obtain ⟨scene, scene', log, ending, hfinal, hdispose, hending, hlog, hdisposed⟩ :=
    last_disposed hcreated calls
  have hfinal : final = scene.recorded log := hfinal
  have hleft : left = scene'.recorded (log ++ ending) := by
    change (dispose.run final).2 = _
    rw [hfinal, hdispose]
  obtain ⟨front, answer, hfront, hfront_closing⟩ := hending.closing_last
  have hlogs : left.world.log = final.world.log ++ ending := by rw [hleft, hfinal]; rfl
  have hwhole : left.world.log = (log ++ front) ++ [.closed answer] := by
    rw [hlogs, hfinal, hfront, List.append_assoc]
    rfl
  refine ⟨⟨ending, ?_, hlogs⟩, ⟨log ++ front, answer, hwhole⟩, ?_, ?_⟩
  · rw [hfinal]
    exact hending
  · have hnone : (log ++ front).countP Event.isClosing = 0 := by
      refine List.countP_eq_zero.mpr fun event hmem ↦ ?_
      rw [List.forall_mem_append.mpr ⟨hlog, hfront_closing⟩ event hmem]
      exact Bool.false_ne_true
    rw [hwhole, List.countP_append, hnone]
    rfl
  · rw [hleft]
    exact dispose_of_disposed _ hdisposed

namespace Wavering

/-- A connection that can neither be rolled back nor closed. -/
def stuck : Backend Wavering :=
  { backend with
    rollback := pure (.error (.transaction "rollback failed"))
    close := pure (.error (.execute "close failed")) }

/-- A connection that is lost in use is opened again, and closed once, although neither that nor the
rollback before it goes well. -/
theorem stuck_closed_once :
    let start : Recorded Wavering :=
      ⟨⟨[.closed, .closed, .open, .open, .closed, .closed, .open]⟩, []⟩
    ∃ executor opened,
      (create .sqlServer .sqlServer stuck.recorded).run start = (.ok executor, opened) ∧
      let final := last (calls ++ [.begin none, .begin none]) ⟨executor, opened⟩
      final.executor.isActive = true ∧
      (dispose.run final).2.world.log.countP Event.isClosing = 1 := by
  intro start
  let opened : Scene (Recorded Wavering) :=
    Scene.recorded ⟨{ serverType := .sqlServer, dialect := .sqlServer, backend := stuck },
      ⟨[.open, .open, .closed, .closed, .open]⟩⟩
      [.looked .closed, .looked .closed, .opened (.ok ())]
  have hcreated : (create .sqlServer .sqlServer stuck.recorded).run start =
      (.ok opened.executor, opened.world) := rfl
  exact ⟨_, _, hcreated, rfl, (history_disposed hcreated _).2.2.1⟩

end Wavering

end Executor

end SqlGateway
