import SqlGateway.Proofs.Trace.Course
import SqlGateway.Proofs.Trace.Race

/-!
# Offering a command

A command that an asynchronous call has prepared is offered to the backend: unless the token has
fired by then, the backend's work is raced against the token, and if the token wins then the backend
is interrupted and its work awaited. As for the other functions of an executor, here are the ways
for this to go and what is noted of each: the readings of the token, the interrupt, the command and
its answer. From them follow the ways for the whole call to go.

## Work that starts with a poll

The work of a backend is taken to start when it is polled first, and so to take a poll at least.
`Backend.polled` is a backend of that kind, and a backend of that kind is its own `Backend.polled`.
A record shows no difference.
-/

namespace SqlGateway

open Trace

variable {W α : Type}

/-! ## Work that starts with a poll -/

/-- The same backend, whose work takes a poll at least. -/
def Backend.polled (backend : Backend W) : Backend W :=
  { backend with
    fillCancellable := fun command token ↦ (backend.fillCancellable command token).polled
    scalarAsync := fun command token ↦ (backend.scalarAsync command token).polled
    nonQueryAsync := fun command token ↦ (backend.nonQueryAsync command token).polled
    readerAsync := fun command token ↦ (backend.readerAsync command token).polled }

theorem Backend.polled_eq_self {backend : Backend W}
    (hfill : ∀ command token, (backend.fillCancellable command token).isDone = false)
    (hscalar : ∀ command token, (backend.scalarAsync command token).isDone = false)
    (hnonQuery : ∀ command token, (backend.nonQueryAsync command token).isDone = false)
    (hreader : ∀ command token, (backend.readerAsync command token).isDone = false) :
    backend.polled = backend := by
  simp only [polled, Work.polled_of_isDone_eq_false (hfill _ _),
    Work.polled_of_isDone_eq_false (hscalar _ _), Work.polled_of_isDone_eq_false (hnonQuery _ _),
    Work.polled_of_isDone_eq_false (hreader _ _)]

/-- The same executor over a backend whose work takes a poll at least. -/
def Executor.polled (executor : Executor W) : Executor W :=
  { executor with backend := executor.backend.polled }

namespace Trace

theorem Recorded.serveLater_polled (service : Service) (answer : BackendResult α → Answer)
    (command : Command) (work : Work W (BackendResult α)) :
    serveLater service answer command work.polled = serveLater service answer command work := by
  cases work <;> rfl

end Trace

/-- On the record all work takes a poll. -/
theorem Backend.recorded_polled (backend : Backend W) :
    backend.polled.recorded = backend.recorded := by
  simp only [recorded, polled, Recorded.serveLater_polled]

/-- Nor does the record of an executor show whether it does. -/
theorem Executor.recorded_polled (executor : Executor W) :
    executor.polled.recorded = executor.recorded := by
  simp only [recorded, polled, Backend.recorded_polled]

namespace Trace

/-! ## What a backend answers -/

/-- The function of a backend that an asynchronous operation selects. -/
def Service.ofOperationLater : Operation → Service
  | .scalar => .scalarAsync
  | .nonQuery => .nonQueryAsync
  | .table => .readerAsync
  | .tableSet _ => .fillCancellable

/-- What the call of a backend comes to when several tables are filled on a thread of its own: a
panic there is a failure. -/
def onThread : Operation → Except Panic (BackendResult Output) →
    Except Panic (BackendResult Output)
  | .tableSet _, .error panic => .ok (.error (Executor.workerFailure panic))
  | _, reply => reply

/-- What becomes of the answer of a backend to an asynchronous operation. -/
def ServedLater (operation : Operation) (answer : Except Panic Answer)
    (reply : Except Panic (BackendResult Output)) : Prop :=
  ∃ direct, Served operation answer direct ∧ reply = onThread operation direct

end Trace

namespace Executor

theorem serves_dispatchAsync (backend : Backend W) (command : Command) (token : Cancellation W)
    (operation : Operation) :
    Serves (ServedLater operation) (.called (.ofOperationLater operation) command)
      (dispatchAsync backend.polled command token operation)
      (dispatchAsync backend.recorded command (Recorded.token token) operation) := by
  cases operation with
  | scalar =>
    rw [dispatchAsync, dispatchAsync, Work.map_eq_conclude, Work.map_eq_conclude]
    refine (serves_serveLater .scalarAsync .value command _).conclude fun _ outcome h ↦ ?_
    rw [h]
    exact ⟨_, .scalar outcome, rfl⟩
  | nonQuery =>
    rw [dispatchAsync, dispatchAsync, Work.map_eq_conclude, Work.map_eq_conclude]
    refine (serves_serveLater .nonQueryAsync .rows command _).conclude fun _ outcome h ↦ ?_
    rw [h]
    exact ⟨_, .nonQuery outcome, rfl⟩
  | table =>
    rw [dispatchAsync, dispatchAsync, Work.map_eq_conclude, Work.map_eq_conclude]
    refine (serves_serveLater .readerAsync .table command _).conclude fun _ outcome h ↦ ?_
    rw [h]
    exact ⟨_, .table outcome, rfl⟩
  | tableSet names =>
    rw [dispatchAsync, dispatchAsync, Work.map_eq_conclude, Work.map_eq_conclude,
      Work.recover_eq_conclude, Work.recover_eq_conclude, Work.conclude_conclude,
      Work.conclude_conclude]
    -- The panic is made a failure before the tables get their names, which leave it as it is.
    refine (serves_serveLater .fillCancellable .tables command _).later.conclude
      fun _ outcome h ↦ ?_
    rw [h]
    exact ⟨_, .tableSet names outcome, by cases outcome <;> rfl⟩

end Executor

namespace Trace

/-! ## The race of a call -/

/-- Where the readings of the token and the interrupt stand around a command and its answer, and
whether there was an interrupt. -/
inductive Attended (called answered : Event) : List Event → Bool → Prop where
  /-- The answer came first. -/
  | answeredFirst (n k : Nat) :
      Attended called answered (unfired (n + 1) ++ called :: (unfired k ++ [answered])) false
  /-- The token was found fired before the command was given. -/
  | interruptedIdle (n : Nat) :
      Attended called answered (unfired n ++ [.asked true, .interrupted, called, answered]) true
  /-- The token was found fired before the command was answered. -/
  | interruptedRunning (n k : Nat) :
      Attended called answered
        (unfired (n + 1) ++ called :: (unfired k ++ [.asked true, .interrupted, answered])) true

/-- Without the readings there is little to an attended call. -/
theorem Attended.filterMap {called answered : Event} {events : List Event} {interrupted : Bool}
    {f : Event → Option α} (hasked : ∀ fired, f (.asked fired) = none)
    (h : Attended called answered events interrupted) :
    ∃ dealt ∈ [[called, answered], [.interrupted, called, answered],
      [called, .interrupted, answered]], events.filterMap f = dealt.filterMap f := by
  have hunfired := filterMap_unfired_append hasked
  cases h with
  | answeredFirst n k =>
    refine ⟨[called, answered], by simp, ?_⟩
    rw [hunfired, List.filterMap_cons, hunfired, ← List.filterMap_cons]
  | interruptedIdle n =>
    refine ⟨[.interrupted, called, answered], by simp, ?_⟩
    rw [hunfired, List.filterMap_cons_none (hasked true)]
  | interruptedRunning n k =>
    refine ⟨[called, .interrupted, answered], by simp, ?_⟩
    rw [hunfired, List.filterMap_cons, hunfired, List.filterMap_cons_none (hasked true),
      ← List.filterMap_cons]

/-- What the caller is told: after an interrupt every failure is a cancellation. -/
def settled (interrupted : Bool) (reply : Except Panic (BackendResult Output)) :
    Except Panic (BackendResult Output) :=
  if interrupted then reply.map Executor.onlyIfWell else reply

end Trace

namespace Executor

section

variable {bare : Work W (BackendResult Output)} {noted : Work (Recorded W) (BackendResult Output)}
  {token : Cancellation W} {world left : W} {events : List Event}

theorem perform_runCancellable_of_finished {backend : Backend W}
    {outcome : Except Panic (BackendResult Output)}
    (h : bare.race token world = (.finished outcome, left)) :
    (runCancellable backend token bare).perform world = (outcome, left) := by
  rw [← Action.perform_ofOutcome outcome left]
  simp only [Action.perform, EStateM.run, runCancellable, h]

theorem perform_runCancellable_of_fired {backend : Backend W}
    {rest : Work W (BackendResult Output)} (h : bare.race token world = (.fired rest, left)) :
    (runCancellable backend token bare).perform world =
      (rest.conclude (·.map onlyIfWell)).await.perform (backend.interrupt.run left).2 := by
  rw [← Work.map_eq_conclude]
  simp only [Action.perform, EStateM.run, runCancellable, h]
  rfl

theorem runCancellable_of_finished (backend : Backend W)
    {outcome : Except Panic (BackendResult Output)}
    (h : Races bare noted token world (.finished outcome) (.finished outcome) events left) :
    Performs (runCancellable backend token bare)
      (runCancellable backend.recorded (Recorded.token token) noted) world outcome events left where
  perform_bare := perform_runCancellable_of_finished h.race_bare
  perform_noted log := perform_runCancellable_of_finished (h.race_noted log)

/-- The rest of the work is awaited in the world that the interrupt leaves. -/
theorem runCancellable_of_fired (backend : Backend W) {rest : Work W (BackendResult Output)}
    {rest' : Work (Recorded W) (BackendResult Output)} {last : W} {more : List Event}
    {outcome : Except Panic (BackendResult Output)}
    (h : Races bare noted token world (.fired rest) (.fired rest') events left)
    (hrest : Performs rest.await rest'.await (backend.interrupt.run left).2 outcome more last) :
    Performs (runCancellable backend token bare)
      (runCancellable backend.recorded (Recorded.token token) noted) world
      (outcome.map onlyIfWell) (events ++ .interrupted :: more) last where
  perform_bare := by
    rw [perform_runCancellable_of_fired h.race_bare, (hrest.conclude _).perform_bare]
  perform_noted log := by
    have hinterrupt : (backend.recorded.interrupt.run ⟨left, log ++ events⟩).2 =
        ⟨(backend.interrupt.run left).2, log ++ events ++ [.interrupted]⟩ := rfl
    rw [perform_runCancellable_of_fired (h.race_noted log), hinterrupt,
      (hrest.conclude _).perform_noted, List.append_assoc, List.append_assoc,
      List.singleton_append]

/-- A call is attended to its answer. -/
theorem runCancellable_attended {serves : Except Panic Answer →
      Except Panic (BackendResult Output) → Prop} {called : Event}
    (h : Serves serves called bare noted) (backend : Backend W) (token : Cancellation W)
    (world : W) : ∃ answer reply interrupted events left, serves answer reply ∧
      Attended called (.answered answer) events interrupted ∧
        Performs (runCancellable backend token bare)
          (runCancellable backend.recorded (Recorded.token token) noted) world
          (settled interrupted reply) events left := by
  cases h.raced token world with
  | @finished n k answer outcome left hserves hraces =>
    exact ⟨answer, outcome, false, _, left, hserves, .answeredFirst n k,
      runCancellable_of_finished backend hraces⟩
  | @idle n rest rest' left hraces hrest =>
    -- Awaiting work that has not begun gives the command after all.
    obtain ⟨answer, outcome, last, hserves, hperforms⟩ := hrest (backend.interrupt.run left).2
    have hall := runCancellable_of_fired backend hraces hperforms
    rw [List.append_assoc] at hall
    exact ⟨answer, outcome, true, _, last, hserves, .interruptedIdle n, hall⟩
  | @running n k rest rest' left hraces hrest =>
    obtain ⟨answer, outcome, last, hserves, hperforms⟩ := hrest (backend.interrupt.run left).2
    have hall := runCancellable_of_fired backend hraces hperforms
    rw [List.append_assoc, List.cons_append, List.append_assoc] at hall
    exact ⟨answer, outcome, true, _, last, hserves, .interruptedRunning n k, hall⟩

end

/-! ## The backend's part of a call -/

/-- How a prepared command can fare. -/
inductive Offered (operation : Operation) (command : Command) :
    List Event → Except Panic (BackendResult Output) → Prop where
  /-- The token had fired by the check. -/
  | cancelled : Offered operation command [.asked true] (.ok (.error .cancelled))
  | attended {answer : Except Panic Answer} {reply : Except Panic (BackendResult Output)}
      {interrupted : Bool} {events : List Event} (hserve : Served operation answer reply)
      (hattend : Attended (.called (.ofOperationLater operation) command) (.answered answer) events
        interrupted) :
      Offered operation command (.asked false :: events)
        (settled interrupted (onThread operation reply))

/-- The token is read, and the call goes on accordingly. -/
theorem runUnlessCancelled_of_read {scene : Scene W} {backend : Backend W}
    {token : Cancellation W} {bare : Work W (BackendResult Output)}
    {noted : Work (Recorded W) (BackendResult Output)} {fired : Bool} {world last : W}
    {events : List Event} {reply : Except Panic (BackendResult Output)}
    (hread : token.run scene.world = (fired, world))
    (h : Performs (if fired then pure (.error .cancelled) else runCancellable backend token bare)
      (if fired then pure (.error .cancelled)
        else runCancellable backend.recorded (Recorded.token token) noted)
      world reply events last) :
    Records (Scene.perform (runUnlessCancelled backend token bare))
      (Scene.perform (runUnlessCancelled backend.recorded (Recorded.token token) noted)) scene
      reply (.asked fired :: events) { scene with world := last } := by
  refine .perform ?_ fun log ↦ ?_
  · have hbare : (Action.ofState token).perform scene.world = (.ok fired, world) := by
      rw [Action.perform_ofState, hread]
    exact (Action.perform_bind_of_ok hbare _).trans h.perform_bare
  · have hnoted : (Action.ofState (Recorded.token token)).perform ⟨scene.world, log⟩ =
        (.ok fired, ⟨world, log ++ [.asked fired]⟩) := by
      rw [Action.perform_ofState, Recorded.run_token hread]
    rw [List.append_cons]
    exact (Action.perform_bind_of_ok hnoted _).trans (h.perform_noted _)

/-- The command of a call is offered to a backend whose work takes a poll at least. -/
theorem runUnlessCancelled_records (scene : Scene W) {backend : Backend W}
    (hbackend : scene.executor.backend = backend.polled) (command : Command)
    (token : Cancellation W) (operation : Operation) :
    ∃ events reply world, Offered operation command events reply ∧
      Records
        (Scene.perform (runUnlessCancelled scene.executor.backend token
          (dispatchAsync scene.executor.backend command token operation)))
        (Scene.perform (runUnlessCancelled scene.executor.backend.recorded (Recorded.token token)
          (dispatchAsync scene.executor.backend.recorded command (Recorded.token token)
            operation)))
        scene reply events { scene with world := world } := by
  rcases hread : token.run scene.world with ⟨fired, world⟩
  cases fired with
  | true =>
    -- The work is dropped before its first poll.
    exact ⟨_, _, world, .cancelled, runUnlessCancelled_of_read hread (.pure _ world)⟩
  | false =>
    have hserves := serves_dispatchAsync backend command token operation
    rw [← Backend.recorded_polled, ← hbackend] at hserves
    obtain ⟨answer, reply, interrupted, events, last, ⟨direct, hserve, rfl⟩, hattend, hperforms⟩ :=
      runCancellable_attended hserves scene.executor.backend token world
    exact ⟨_, _, last, .attended hserve hattend, runUnlessCancelled_of_read hread hperforms⟩

/-! ## Asynchronous calls -/

/-- How an asynchronous call can go. -/
inductive ExecutedLater (executor : Executor W) (command : Command) (code : String)
    (operation : Operation) :
    List Event → Except Panic (Result Output) → Executor W → Prop where
  /-- The connection was lost under the transaction. -/
  | lost (hactive : executor.isActive) :
      ExecutedLater executor command code operation [.looked .closed]
        (.ok (.error (.execution code connectionLost.display command.sql
          command.parameterSnapshot))) { executor with transaction := none }
  /-- The connection was closed and cannot be opened. -/
  | unopened (e : BackendError) :
      ExecutedLater executor command code operation
        (check executor.transaction ++ [.looked .closed, .looked .closed, .opened (.error e)])
        (.ok (.error (.connection e))) executor
  /-- The hook before panicked. -/
  | beforePanicked {opening : List Event} {left : Executor W} {panic : Panic}
      (hopen : EnsuredOpen executor opening (.ok ()) left)
      (hpanic : Panics executor.before command panic) :
      ExecutedLater executor command code operation
        (check executor.transaction ++ opening ++ shownTo .before executor.before command)
        (.error panic) left
  /-- The command was offered to the backend. -/
  | offered {opening events more : List Event} {left : Executor W}
      {reply : Except Panic (BackendResult Output)} {outcome : Except Panic (Result Output)}
      (hopen : EnsuredOpen executor opening (.ok ()) left)
      (hoffer : Offered operation command events reply)
      (hfinish : Finished executor.after command code reply more outcome) :
      ExecutedLater executor command code operation
        (check executor.transaction ++ opening ++ shownTo .before executor.before command ++
          (events ++ more)) outcome left

section

variable {executor left : Executor W} {sql : String} {parameters : List Parameter} {code : String}
  {operation : Operation} {events more : List Event}

theorem ExecutedLater.ofFailure {e : Error}
    (h : Prepared executor sql parameters code events (.ok (.error e)) left) :
    ExecutedLater executor (executor.commandNow sql parameters) code operation events
      (.ok (.error e)) left := by
  cases h with
  | unready hready =>
    cases hready with
    | lost hactive => exact .lost hactive
    | passed hopen =>
      cases hopen with
      | failed e => exact .unopened e

theorem ExecutedLater.ofPanic {panic : Panic}
    (h : Prepared executor sql parameters code events (.error panic) left) :
    ExecutedLater executor (executor.commandNow sql parameters) code operation events
      (.error panic) left := by
  cases h with
  | panicked hready hpanic =>
    cases hready with
    | passed hopen => exact .beforePanicked hopen hpanic

theorem ExecutedLater.ofPrepared {command : Command} {last : List Event}
    {reply : Except Panic (BackendResult Output)} {outcome : Except Panic (Result Output)}
    (h : Prepared executor sql parameters code events (.ok (.ok command)) left)
    (hoffer : Offered operation command more reply)
    (hfinish : Finished executor.after command code reply last outcome) :
    ExecutedLater executor (executor.commandNow sql parameters) code operation
      (events ++ (more ++ last)) outcome left := by
  cases h with
  | prepared hready =>
    cases hready with
    | passed hopen => exact .offered hopen hoffer hfinish

end

theorem executeCancellable_records (scene : Scene W) {backend : Backend W}
    (hbackend : scene.executor.backend = backend.polled) (sql : String)
    (parameters : List Parameter) (code : String) (operation : Operation)
    (token : Cancellation W) : ∃ events outcome executor world,
      ExecutedLater scene.executor (scene.executor.commandNow sql parameters) code operation events
          outcome executor ∧
        Records (executeCancellable sql parameters code operation token)
          (executeCancellable sql parameters code operation (Recorded.token token)) scene outcome
          events ⟨executor, world⟩ := by
  obtain ⟨events, outcome, left, world, hprepare, hrecords⟩ :=
    prepare_records sql parameters code scene
  match outcome, hprepare, hrecords with
  | .error panic, hprepare, hrecords =>
    exact ⟨_, _, _, world, .ofPanic hprepare, .bindPanic hrecords⟩
  | .ok (.error e), hprepare, hrecords =>
    exact ⟨_, _, _, world, .ofFailure hprepare, .thenPure hrecords rfl rfl⟩
  | .ok (.ok command), hprepare, hrecords =>
    obtain ⟨closed, rfl⟩ := hprepare.frame
    obtain ⟨more, reply, world₁, hoffer, hrun⟩ := runUnlessCancelled_records
      ⟨{ scene.executor with closed := closed }, world⟩ hbackend command token operation
    obtain ⟨last, outcome, world₂, hfinish, hafter⟩ := finish_after command code reply
      ⟨{ scene.executor with closed := closed }, world₁⟩
    exact ⟨_, _, _, world₂, .ofPrepared hprepare hoffer hfinish,
      .bind hrecords (.get (fun _ ↦ rfl) (hafter hrun))⟩

end Executor

namespace Trace

/-! ## Dealings with the backend -/

/-- What a call and the backend it runs on have to do with each other. -/
inductive Dealing where
  | command | answer | interrupt
deriving Repr, DecidableEq

/-- The dealing that an event is. -/
def Event.dealing? : Event → Option Dealing
  | .called _ _ => some .command
  | .answered _ => some .answer
  | .interrupted => some .interrupt
  | _ => none

/-- Events that are neither readings of the token nor dealings with the backend. -/
def Event.Quiet : Event → Prop
  | .asked _ | .called _ _ | .answered _ | .interrupted => False
  | _ => True

theorem filterMap_dealing_of_quiet {events : List Event} (h : ∀ event ∈ events, event.Quiet) :
    events.filterMap Event.dealing? = [] := by
  refine List.filterMap_eq_nil_iff.mpr fun event hmem ↦ ?_
  have hquiet := h event hmem
  cases event <;> first | rfl | cases hquiet

/-- The ways to deal with the backend in one call: no command is left without its answer, and there
is no interrupt without a command. -/
def dealings : List (List Dealing) :=
  [[], [.command, .answer], [.interrupt, .command, .answer], [.command, .interrupt, .answer]]

end Trace

namespace Executor

theorem Offered.dealings {operation : Operation} {command : Command} {events : List Event}
    {reply : Except Panic (BackendResult Output)} (h : Offered operation command events reply) :
    events.filterMap Event.dealing? ∈ Trace.dealings := by
  cases h with
  | cancelled => exact List.mem_cons_self
  | @attended answer reply interrupted events hserve hattend =>
    obtain ⟨dealt, hdealt, hevents⟩ := hattend.filterMap (f := Event.dealing?) fun _ ↦ rfl
    rw [List.filterMap_cons_none rfl, hevents]
    simp only [List.mem_cons, List.not_mem_nil, or_false] at hdealt
    rcases hdealt with rfl | rfl | rfl <;> simp [Event.dealing?, Trace.dealings]

/-! ## Everything else in a call -/

section

variable {executor left : Executor W} {command : Command} {code : String} {events : List Event}
  {reply : Except Panic (BackendResult Output)} {outcome : Except Panic (Result Output)}

theorem quiet_of_mem_check {transaction : Option ActiveTransaction} {event : Event}
    (h : event ∈ check transaction) : event.Quiet := by
  cases transaction with
  | none => cases h
  | some transaction =>
    rw [List.mem_singleton.mp h]
    trivial

theorem quiet_of_mem_shownTo {side : Side} {hook : Option (Hook W)} {event : Event}
    (h : event ∈ shownTo side hook command) : event.Quiet := by
  cases hook with
  | none => cases h
  | some hook =>
    rw [List.mem_singleton.mp h]
    trivial

theorem EnsuredOpen.quiet {answer : Result Unit} (h : EnsuredOpen executor events answer left) :
    ∀ event ∈ events, event.Quiet := by
  cases h <;> simp [Event.Quiet]

theorem EnsuredOpen.quiet_begun {answer : Result Unit}
    (h : EnsuredOpen executor events answer left) (command : Command) :
    ∀ event ∈ check executor.transaction ++ events ++ shownTo .before executor.before command,
      event.Quiet := by
  intro event hmem
  obtain hmem | hmem := List.mem_append.mp hmem
  · exact (List.mem_append.mp hmem).elim quiet_of_mem_check (h.quiet event)
  · exact quiet_of_mem_shownTo hmem

theorem Finished.quiet (h : Finished executor.after command code reply events outcome) :
    ∀ event ∈ events, event.Quiet := by
  cases h with
  | panicked | failed => exact fun _ hmem ↦ by cases hmem
  | succeeded | hookPanicked => exact fun _ ↦ quiet_of_mem_shownTo

end

end Executor

end SqlGateway
