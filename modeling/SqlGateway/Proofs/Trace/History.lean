import SqlGateway.Proofs.Trace.Calls

/-!
# Histories of an executor

A history is what a list of calls makes of one executor, call after call: a panic ends a call, but
the executor is used on. Every call is kept with the scenes before and after it, so that a law
about a history can speak of the transaction and of the log alike.

Nothing needs to be said of what happens between two calls. A connection that is lost then is one
whose state is read as closed next, and a backend may answer a reading in any way.
-/

namespace SqlGateway

open Trace

variable {W : Type}

namespace Trace

/-! ## Calls -/

/-- A call of an executor. -/
inductive Call (W : Type) where
  | begin (isolation : Option IsolationLevel)
  | commit
  | rollback
  | execute (sql : String) (parameters : List Parameter) (code : String) (operation : Operation)
  | executeAsync (sql : String) (parameters : List Parameter) (code : String)
    (operation : Operation) (token : Cancellation W)
  | setBefore (hook : Hook W)
  | setAfter (hook : Hook W)
  | clearHooks

/-- What comes of a call. Only executions have an output. -/
abbrev Outcome := Except Panic (Result (Option Output))

namespace Call

/-- Make a call in a recorded scene. An asynchronous one is awaited. -/
def action [IdSource W] : Call W → Action (Scene (Recorded W)) (Result (Option Output))
  | .begin isolation => do
    return (← Action.ofState (Executor.begin isolation)).map fun () ↦ none
  | .commit => do return (← Action.ofState Executor.commit).map fun () ↦ none
  | .rollback => do return (← Action.ofState Executor.rollback).map fun () ↦ none
  | .execute sql parameters code operation => do
    return (← Executor.execute sql parameters code operation).map some
  | .executeAsync sql parameters code operation token => do
    let work := Executor.executeAsync sql parameters code operation (Recorded.token token)
    return (← work.await).map some
  | .setBefore hook => do
    Action.ofState (Scene.revise (Executor.setBefore (Recorded.hook .before hook)))
    return .ok none
  | .setAfter hook => do
    Action.ofState (Scene.revise (Executor.setAfter (Recorded.hook .after hook)))
    return .ok none
  | .clearHooks => do
    Action.ofState (Scene.revise Executor.clearHooks)
    return .ok none

/-- How a call can go. -/
inductive Went (executor : Executor W) : Call W → List Event → Outcome → Executor W → Prop where
  | begin {isolation : Option IsolationLevel} {events : List Event} {answer : Result Unit}
      {left : Executor W} (h : executor.Began isolation events answer left) :
      Went executor (.begin isolation) events (.ok (answer.map fun () ↦ none)) left
  | commit {events : List Event} {answer : Result Unit} {left : Executor W}
      (h : executor.Ended .committed events answer left) :
      Went executor .commit events (.ok (answer.map fun () ↦ none)) left
  | rollback {events : List Event} {answer : Result Unit} {left : Executor W}
      (h : executor.Ended .rolledBack events answer left) :
      Went executor .rollback events (.ok (answer.map fun () ↦ none)) left
  | execute {sql : String} {parameters : List Parameter} {code : String} {events : List Event}
      {outcome : Except Panic (Result Output)} {left : Executor W} (operation : Operation)
      (h : executor.Ran sql parameters code events outcome left) :
      Went executor (.execute sql parameters code operation) events (outcome.map (·.map some)) left
  | executeAsync {sql : String} {parameters : List Parameter} {code : String}
      {events : List Event} {outcome : Except Panic (Result Output)} {left : Executor W}
      (operation : Operation) (token : Cancellation W)
      (h : executor.Ran sql parameters code events outcome left) :
      Went executor (.executeAsync sql parameters code operation token) events
        (outcome.map (·.map some)) left
  | setBefore (hook : Hook W) :
      Went executor (.setBefore hook) [] (.ok (.ok none)) (executor.setBefore hook)
  | setAfter (hook : Hook W) :
      Went executor (.setAfter hook) [] (.ok (.ok none)) (executor.setAfter hook)
  | clearHooks : Went executor .clearHooks [] (.ok (.ok none)) executor.clearHooks

theorem perform_map {action : Action (Scene (Recorded W)) (Result Output)}
    {scene left : Scene (Recorded W)} {outcome : Except Panic (Result Output)}
    (h : action.perform scene = (outcome, left)) :
    (do return (← action).map some : Action _ (Result (Option Output))).perform scene =
      (outcome.map (·.map some), left) := by
  cases outcome with
  | ok answer => exact Action.perform_bind_of_ok h _
  | error panic => exact Action.perform_bind_of_error h _

/-- What a single call can do, and that it leaves a recorded scene. -/
theorem perform_went [IdSource W] (call : Call W) (scene : Scene W) (log : List Event) :
    ∃ events outcome executor world, Went scene.executor call events outcome executor ∧
      call.action.perform (scene.recorded log) =
        (outcome, Scene.recorded ⟨executor, world⟩ (log ++ events)) := by
  cases call with
  | begin isolation =>
    obtain ⟨events, answer, left, world, h, hnotes⟩ := Executor.begin_notes isolation scene
    refine ⟨_, _, _, world, .begin h, ?_⟩
    exact Action.perform_bind_of_ok ((Records.ofState hnotes).perform_noted log) _
  | commit =>
    obtain ⟨events, answer, left, world, h, hnotes⟩ :=
      Executor.endTransaction_notes Backend.commit .committed scene rfl
    refine ⟨_, _, _, world, .commit h, ?_⟩
    exact Action.perform_bind_of_ok ((Records.ofState hnotes).perform_noted log) _
  | rollback =>
    obtain ⟨events, answer, left, world, h, hnotes⟩ :=
      Executor.endTransaction_notes Backend.rollback .rolledBack scene rfl
    refine ⟨_, _, _, world, .rollback h, ?_⟩
    exact Action.perform_bind_of_ok ((Records.ofState hnotes).perform_noted log) _
  | execute sql parameters code operation =>
    obtain ⟨events, outcome, left, world, h, hrecords⟩ :=
      Executor.execute_records sql parameters code operation scene
    exact ⟨_, _, _, world, .execute operation h.ran, perform_map (hrecords.perform_noted log)⟩
  | executeAsync sql parameters code operation token =>
    obtain ⟨events, outcome, left, world, h, hperform⟩ :=
      Executor.executeCancellable_ran sql parameters code operation token scene log
    refine ⟨_, _, _, world, .executeAsync operation token h, perform_map ?_⟩
    rw [Executor.executeAsync, Work.perform_await_later, Work.perform_await_ofAction, hperform]
  | setBefore hook =>
    refine ⟨_, _, _, scene.world, .setBefore hook, ?_⟩
    rw [List.append_nil]
    rfl
  | setAfter hook =>
    refine ⟨_, _, _, scene.world, .setAfter hook, ?_⟩
    rw [List.append_nil]
    rfl
  | clearHooks =>
    refine ⟨_, _, _, scene.world, .clearHooks, ?_⟩
    rw [List.append_nil]
    rfl

end Call

/-! ## Call after call -/

/-- A call as it went. -/
structure Moment (W : Type) where
  call : Call W
  before : Scene (Recorded W)
  outcome : Outcome
  left : Scene (Recorded W)

/-- What was noted during a call. -/
def Moment.events (moment : Moment W) : List Event :=
  moment.left.world.log.drop moment.before.world.log.length

/-- The transaction before a call. -/
def Moment.transaction (moment : Moment W) : Option ActiveTransaction :=
  moment.before.executor.transaction

theorem Moment.events_mk (call : Call W) (scene : Scene W) (log events : List Event)
    (outcome : Outcome) (left : Scene W) :
    Moment.events ⟨call, scene.recorded log, outcome, left.recorded (log ++ events)⟩ = events :=
  List.drop_left

variable [IdSource W]

/-- What the calls make of a scene, each with the scenes around it. -/
def history : List (Call W) → Scene (Recorded W) → List (Moment W)
  | [], _ => []
  | call :: calls, scene =>
    let (outcome, left) := call.action.perform scene
    ⟨call, scene, outcome, left⟩ :: history calls left

/-- The scene that the calls leave. -/
def last : List (Call W) → Scene (Recorded W) → Scene (Recorded W)
  | [], scene => scene
  | call :: calls, scene => last calls (call.action.perform scene).2

/-- **Laws of histories from laws of single calls**: what holds of no calls at all, and of a call
and more calls if it holds of these, holds of every history in a recorded scene. -/
theorem history_induction
    {motive : Scene W → List Event → List (Moment W) → Scene (Recorded W) → Prop}
    (nil : ∀ scene log, motive scene log [] (scene.recorded log))
    (cons : ∀ (call : Call W) (scene left : Scene W) (log events : List Event) (outcome : Outcome)
      (moments : List (Moment W)) (final : Scene (Recorded W)),
      call.Went scene.executor events outcome left.executor →
      motive left (log ++ events) moments final →
      motive scene log
        (⟨call, scene.recorded log, outcome, left.recorded (log ++ events)⟩ :: moments) final)
    (calls : List (Call W)) (scene : Scene W) (log : List Event) :
    motive scene log (history calls (scene.recorded log)) (last calls (scene.recorded log)) := by
  induction calls generalizing scene log with
  | nil => exact nil scene log
  | cons call calls ih =>
    obtain ⟨events, outcome, executor, world, hwent, hperform⟩ := call.perform_went scene log
    -- The scene that is left is recorded again, whatever came of the call.
    rw [history, last, hperform]
    exact cons call scene ⟨executor, world⟩ log events outcome _ _ hwent (ih _ _)

/-- The log grows by what is noted during the calls, in order. -/
theorem log_last (calls : List (Call W)) (scene : Scene W) (log : List Event) :
    (last calls (scene.recorded log)).world.log =
      log ++ (history calls (scene.recorded log)).flatMap Moment.events := by
  refine history_induction (motive := fun _ log moments final ↦
    final.world.log = log ++ moments.flatMap Moment.events) ?_ ?_ calls scene log
  · intro scene log
    rw [List.flatMap_nil, List.append_nil]
    rfl
  · intro call scene left log events outcome moments final _ ih
    rw [ih, List.flatMap_cons, Moment.events_mk, List.append_assoc]

end Trace

end SqlGateway
