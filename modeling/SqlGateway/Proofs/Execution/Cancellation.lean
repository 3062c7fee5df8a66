import SqlGateway.Proofs.Execution.Order
import SqlGateway.Proofs.Trace.Offer

/-!
# Cancelled calls

An asynchronous call prepares its command without a look at the token. Then it reads the token: if
it has fired by now, the backend is left alone and the call fails as cancelled. Otherwise the
backend's work is raced against the token, and there are two ways for it to go. The answer comes
first, and the call goes on like a synchronous one. Or a reading finds the token fired, the backend
is interrupted, once, and its work is awaited to the end; an answer that is well is still a success,
and every failure is a cancellation.

## Nothing runs behind the caller's back

Whichever way it goes, the backend is given the command at most once, and if it was given the
command then it has answered before the call ends. The readings of the token stand in the log as
well, so that "the token had fired by then" is something to be read off it.

## Every token and every backend

A reading of the token is a step of the world, so that a token stands for every moment to fire at,
and the polls of a backend's work are arbitrary too, as long as there is one: the work starts when
it is polled first (`Backend.polled`).
-/

namespace SqlGateway

open Trace

variable {W : Type}

namespace Executor

section

variable {executor left : Executor W} {command : Command} {code : String} {operation : Operation}
  {events : List Event} {reply : Except Panic (BackendResult Output)}
  {outcome : Except Panic (Result Output)}

theorem Offered.stages (h : Offered operation command events reply) :
    (events.filterMap Event.stage?).Sublist [.operation] := by
  cases h with
  | cancelled => exact List.nil_sublist _
  | @attended answer reply interrupted events hserve hattend =>
    obtain ⟨dealt, hdealt, hevents⟩ := hattend.filterMap (f := Event.stage?) fun _ ↦ rfl
    rw [List.filterMap_cons_none rfl, hevents]
    simp only [List.mem_cons, List.not_mem_nil, or_false] at hdealt
    rcases hdealt with rfl | rfl | rfl <;> exact List.Sublist.refl _

theorem Finished.stages (h : Finished executor.after command code reply events outcome) :
    (events.filterMap Event.stage?).Sublist [.after] := by
  cases h with
  | panicked | failed => exact List.nil_sublist _
  | succeeded output => exact stages_ifWell (.ok (.ok output)) executor.after command
  | hookPanicked output => exact stages_ifWell (.ok (.ok output)) executor.after command

/-- The stages of a call come in order and at most once. -/
theorem ExecutedLater.stages
    (h : ExecutedLater executor command code operation events outcome left) :
    (events.filterMap Event.stage?).Sublist Trace.stages := by
  cases h with
  | lost => exact List.nil_sublist _
  | unopened e =>
    rw [List.filterMap_append, filterMap_stage_check]
    exact List.sublist_append_left [Stage.opening] [.before, .operation, .after]
  | beforePanicked hopen hpanic =>
    rw [List.filterMap_append, List.filterMap_append, filterMap_stage_check, List.nil_append]
    have hbefore := hopen.stages.append (stages_shownTo_before executor.before command)
    exact hbefore.trans (List.sublist_append_left [Stage.opening, .before] [.operation, .after])
  | offered hopen hoffer hfinish =>
    rw [List.filterMap_append, List.filterMap_append, List.filterMap_append, List.filterMap_append,
      filterMap_stage_check, List.nil_append]
    have hbefore := hopen.stages.append (stages_shownTo_before executor.before command)
    exact hbefore.append (hoffer.stages.append hfinish.stages)

/-- A call deals with its backend only when it offers its command. -/
theorem ExecutedLater.dealings
    (h : ExecutedLater executor command code operation events outcome left) :
    events.filterMap Event.dealing? ∈ Trace.dealings := by
  cases h with
  | lost => exact List.mem_cons_self
  | unopened e =>
    rw [List.filterMap_append, filterMap_dealing_of_quiet fun _ ↦ quiet_of_mem_check]
    exact List.mem_cons_self
  | beforePanicked hopen hpanic =>
    rw [filterMap_dealing_of_quiet (hopen.quiet_begun command)]
    exact List.mem_cons_self
  | offered hopen hoffer hfinish =>
    rw [List.filterMap_append, filterMap_dealing_of_quiet (hopen.quiet_begun command),
      List.filterMap_append, filterMap_dealing_of_quiet hfinish.quiet, List.nil_append,
      List.append_nil]
    exact hoffer.dealings

end

/-- **Cancellation is clean**, whenever the token fires and whatever the backend does, and a call
is the same whether or not it is recorded. -/
theorem executeAsync_cancellation (executor : Executor W) (sql : String)
    (parameters : List Parameter) (code : String) (operation : Operation)
    (token : Cancellation W) (world : W) :
    let executor := executor.polled
    let command : Command :=
      ⟨sql, executor.serverType.name, Inference.infer sql parameters,
        executor.transaction.map (·.id)⟩
    ∃ events outcome left world',
      ExecutedLater executor command code operation events outcome left ∧
      events.filterMap Event.dealing? ∈ dealings ∧
      (events.filterMap Event.stage?).Sublist stages ∧
      Records (executeAsync sql parameters code operation token).await
        (executeAsync sql parameters code operation (Recorded.token token)).await
        ⟨executor, world⟩ outcome events ⟨left, world'⟩ := by
  intro executor command
  obtain ⟨events, outcome, left, world', hexecuted, hrecords⟩ :=
    executeCancellable_records ⟨executor, world⟩ rfl sql parameters code operation token
  refine ⟨events, outcome, left, world', hexecuted, hexecuted.dealings, hexecuted.stages, ?_, ?_⟩
  · rw [executeAsync, Work.perform_await_later, Work.perform_await_ofAction]
    exact hrecords.perform_bare
  · intro log
    rw [executeAsync, Work.perform_await_later, Work.perform_await_ofAction]
    exact hrecords.perform_noted log

end Executor

end SqlGateway
