import SqlGateway.Proofs.Trace.Offer

/-!
# Calls of both kinds

A call goes one of three ways, whether or not it is asynchronous, and this is all that laws about
transactions need: the connection was lost under the transaction, or it cannot be opened, or the
call has got a command, and all that it notes from there concerns that very command.

How often the token is read and where the answer stands makes no difference to this, and neither
does whether the work of the backend takes a poll.
-/

namespace SqlGateway

open Trace

variable {W : Type}

namespace Trace

/-! ## Events about one command -/

/-- Events that belong to running a command: it is given to the backend or shown to a hook, or the
event says nothing about what is run. -/
def Event.Concerns (command : Command) : Event → Prop
  | .called _ other | .shown _ other => other = command
  | .asked _ | .interrupted | .answered _ => True
  | _ => False

theorem concerns_of_mem_unfired {command : Command} {n : Nat} {event : Event}
    (h : event ∈ unfired n) : event.Concerns command := by
  rw [List.eq_of_mem_replicate h]
  trivial

theorem Attended.concerns {command : Command} {service : Service} {answer : Except Panic Answer}
    {events : List Event} {interrupted : Bool}
    (h : Attended (.called service command) (.answered answer) events interrupted) {event : Event}
    (hmem : event ∈ events) : event.Concerns command := by
  cases h with
  | answeredFirst n k =>
    simp only [List.mem_append, List.mem_cons, List.not_mem_nil, or_false] at hmem
    rcases hmem with hmem | rfl | hmem | rfl
    · exact concerns_of_mem_unfired hmem
    · exact rfl
    · exact concerns_of_mem_unfired hmem
    · trivial
  | interruptedIdle n =>
    simp only [List.mem_append, List.mem_cons, List.not_mem_nil, or_false] at hmem
    rcases hmem with hmem | rfl | rfl | rfl | rfl
    · exact concerns_of_mem_unfired hmem
    · trivial
    · trivial
    · exact rfl
    · trivial
  | interruptedRunning n k =>
    simp only [List.mem_append, List.mem_cons, List.not_mem_nil, or_false] at hmem
    rcases hmem with hmem | rfl | hmem | rfl | rfl | rfl
    · exact concerns_of_mem_unfired hmem
    · exact rfl
    · exact concerns_of_mem_unfired hmem
    · trivial
    · trivial
    · trivial

end Trace

namespace Executor

/-! ## The three ways -/

/-- How a call can go, synchronous or not. -/
inductive Ran (executor : Executor W) (sql : String) (parameters : List Parameter)
    (code : String) : List Event → Except Panic (Result Output) → Executor W → Prop where
  /-- The connection was lost under the transaction. -/
  | lost (hactive : executor.isActive) :
      Ran executor sql parameters code [.looked .closed]
        (.ok (.error (executionError (executor.commandNow sql parameters) code connectionLost)))
        { executor with transaction := none }
  | unopened {events : List Event} {e : Error} {left : Executor W}
      (hopen : EnsuredOpen executor events (.error e) left) :
      Ran executor sql parameters code (check executor.transaction ++ events) (.ok (.error e)) left
  /-- The call got so far as to have a command. -/
  | ran {events more : List Event} {left : Executor W}
      (hopen : EnsuredOpen executor events (.ok ()) left)
      (hmore : ∀ event ∈ more, event.Concerns (executor.commandNow sql parameters))
      (outcome : Except Panic (Result Output)) :
      Ran executor sql parameters code (check executor.transaction ++ events ++ more) outcome left

theorem concerns_of_mem_shownTo {side : Side} {hook : Option (Hook W)} {command : Command}
    {event : Event} (h : event ∈ shownTo side hook command) : event.Concerns command := by
  cases hook with
  | none => cases h
  | some hook =>
    rw [List.mem_singleton.mp h]
    exact rfl

/-- What can happen after the steps before a command is made. -/
theorem Ran.ofReadied {executor left : Executor W} {sql : String} {parameters : List Parameter}
    {code : String} {events more : List Event}
    (h : Readied executor sql parameters code events (.ok ()) left)
    (hmore : ∀ event ∈ more, event.Concerns (executor.commandNow sql parameters))
    (outcome : Except Panic (Result Output)) :
    Ran executor sql parameters code (events ++ more) outcome left := by
  cases h with
  | passed hopen => exact .ran hopen hmore outcome

theorem Ran.ofFailure {executor left : Executor W} {sql : String} {parameters : List Parameter}
    {code : String} {events : List Event} {e : Error}
    (h : Prepared executor sql parameters code events (.ok (.error e)) left) :
    Ran executor sql parameters code events (.ok (.error e)) left := by
  cases h with
  | unready hready =>
    cases hready with
    | lost hactive => exact .lost hactive
    | passed hopen => exact .unopened hopen

theorem Ran.ofPanic {executor left : Executor W} {sql : String} {parameters : List Parameter}
    {code : String} {events : List Event} {panic : Panic}
    (h : Prepared executor sql parameters code events (.error panic) left) :
    Ran executor sql parameters code events (.error panic) left := by
  cases h with
  | panicked hready => exact .ofReadied hready (fun _ ↦ concerns_of_mem_shownTo) _

theorem Ran.ofPrepared {executor left : Executor W} {sql : String} {parameters : List Parameter}
    {code : String} {events more : List Event} {command : Command}
    (h : Prepared executor sql parameters code events (.ok (.ok command)) left)
    (hmore : ∀ event ∈ more, event.Concerns command) (outcome : Except Panic (Result Output)) :
    Ran executor sql parameters code (events ++ more) outcome left := by
  cases h with
  | prepared hready =>
    rw [List.append_assoc]
    refine .ofReadied hready (fun event hmem ↦ ?_) outcome
    exact (List.mem_append.mp hmem).elim concerns_of_mem_shownTo (hmore event)

theorem Finished.concerns {hook : Option (Hook W)} {command : Command} {code : String}
    {reply : Except Panic (BackendResult Output)} {events : List Event}
    {outcome : Except Panic (Result Output)} (h : Finished hook command code reply events outcome)
    {event : Event} (hmem : event ∈ events) : event.Concerns command := by
  cases h with
  | panicked | failed => cases hmem
  | succeeded | hookPanicked => exact concerns_of_mem_shownTo hmem

theorem Executed.ran {executor left : Executor W} {sql : String} {parameters : List Parameter}
    {code : String} {operation : Operation} {events : List Event}
    {outcome : Except Panic (Result Output)}
    (h : Executed executor sql parameters code operation events outcome left) :
    Ran executor sql parameters code events outcome left := by
  cases h with
  | unprepared hprepare => exact .ofFailure hprepare
  | panicked hprepare => exact .ofPanic hprepare
  | served hprepare hserve hfinish =>
    refine .ofPrepared hprepare (fun event hmem ↦ ?_) _
    obtain hmem | hmem := List.mem_append.mp hmem
    · simp only [List.mem_cons, List.not_mem_nil, or_false] at hmem
      obtain rfl | rfl := hmem
      · exact rfl
      · trivial
    · exact hfinish.concerns hmem

theorem Offered.concerns {operation : Operation} {command : Command} {events : List Event}
    {reply : Except Panic (BackendResult Output)} (h : Offered operation command events reply)
    {event : Event} (hmem : event ∈ events) : event.Concerns command := by
  cases h with
  | cancelled =>
    rw [List.mem_singleton.mp hmem]
    trivial
  | attended hserve hattend =>
    rcases List.mem_cons.mp hmem with rfl | hmem
    · trivial
    · exact hattend.concerns hmem

theorem ExecutedLater.ran {executor left : Executor W} {sql : String} {parameters : List Parameter}
    {code : String} {operation : Operation} {events : List Event}
    {outcome : Except Panic (Result Output)}
    (h : ExecutedLater executor (executor.commandNow sql parameters) code operation events outcome
      left) : Ran executor sql parameters code events outcome left := by
  cases h with
  | lost hactive => exact .lost hactive
  | unopened e => exact .unopened (.failed e)
  | beforePanicked hopen hpanic => exact .ran hopen (fun _ ↦ concerns_of_mem_shownTo) _
  | offered hopen hoffer hfinish =>
    rw [List.append_assoc]
    refine .ran hopen (fun event hmem ↦ ?_) _
    rcases List.mem_append.mp hmem with hmem | hmem
    · exact concerns_of_mem_shownTo hmem
    · exact (List.mem_append.mp hmem).elim hoffer.concerns hfinish.concerns

/-! ## Backends of any kind -/

theorem EnsuredOpen.of_polled {executor left : Executor W} {events : List Event}
    {answer : Result Unit} (h : EnsuredOpen executor.polled events answer left) :
    ∃ left', EnsuredOpen executor events answer left' ∧ left'.recorded = left.recorded := by
  have hsame := executor.recorded_polled.symm
  cases h with
  | found => exact ⟨executor, .found, hsame⟩
  | foundLate => exact ⟨executor, .foundLate, hsame⟩
  | opened =>
    exact ⟨_, .opened, (recorded_polled { executor with closed := false }).symm⟩
  | failed e => exact ⟨executor, .failed e, hsame⟩

/-- What is noted of a call does not tell whether the work of the backend takes a poll. -/
theorem Ran.of_polled {executor left : Executor W} {sql : String} {parameters : List Parameter}
    {code : String} {events : List Event} {outcome : Except Panic (Result Output)}
    (h : Ran executor.polled sql parameters code events outcome left) :
    ∃ left', Ran executor sql parameters code events outcome left' ∧
      left'.recorded = left.recorded := by
  cases h with
  | lost hactive =>
    exact ⟨_, .lost hactive, (recorded_polled { executor with transaction := none }).symm⟩
  | unopened hopen =>
    obtain ⟨left', hopen', hsame⟩ := hopen.of_polled
    exact ⟨left', .unopened hopen', hsame⟩
  | ran hopen hmore outcome =>
    obtain ⟨left', hopen', hsame⟩ := hopen.of_polled
    exact ⟨left', .ran hopen' hmore outcome, hsame⟩

theorem executeCancellable_ran (sql : String) (parameters : List Parameter) (code : String)
    (operation : Operation) (token : Cancellation W) (scene : Scene W) (log : List Event) :
    ∃ events outcome executor world,
      Ran scene.executor sql parameters code events outcome executor ∧
        (executeCancellable sql parameters code operation (Recorded.token token)).perform
          (scene.recorded log) =
          (outcome, Scene.recorded ⟨executor, world⟩ (log ++ events)) := by
  let polled : Scene W := ⟨scene.executor.polled, scene.world⟩
  have hscene : polled.recorded log = scene.recorded log := by
    rw [Scene.recorded, Scene.recorded, recorded_polled]
  obtain ⟨events, outcome, left, world, hexecuted, hrecords⟩ :=
    executeCancellable_records polled rfl sql parameters code operation token
  obtain ⟨left', hran, hleft⟩ := hexecuted.ran.of_polled
  refine ⟨events, outcome, left', world, hran, ?_⟩
  rw [← hscene, hrecords.perform_noted, Scene.recorded, Scene.recorded, hleft]

end Executor

end SqlGateway
