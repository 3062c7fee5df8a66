import SqlGateway.Proofs.Trace.Agreement

/-!
# What the calls of an executor note

For every function of an executor, the ways it can go: the events it notes, its answer, and the
executor it leaves. Each way is a constructor of a relation, and one theorem for each function says
that it always goes one of these ways. Whoever reasons about runs splits on the ways and never
opens a function again.
-/

namespace SqlGateway

open Trace

variable {W α : Type}

namespace Executor

variable {scene : Scene W}

/-! ## The connection -/

theorem connectionState_notes {state : ConnectionState} {world : W}
    (h : scene.executor.backend.state.run scene.world = (state, world)) :
    Notes connectionState connectionState scene state [.looked state]
      { scene with world := world } :=
  .get (fun _ ↦ rfl) (.act h .looked)

/-- How making sure that the connection is open can go. -/
inductive EnsuredOpen (executor : Executor W) : List Event → Result Unit → Executor W → Prop where
  /-- The connection is open. -/
  | found : EnsuredOpen executor [.looked .open] (.ok ()) executor
  /-- The connection is open at the second look. -/
  | foundLate : EnsuredOpen executor [.looked .closed, .looked .open] (.ok ()) executor
  | opened : EnsuredOpen executor [.looked .closed, .looked .closed, .opened (.ok ())] (.ok ())
      { executor with closed := false }
  | failed (e : BackendError) : EnsuredOpen executor
      [.looked .closed, .looked .closed, .opened (.error e)] (.error (.connection e)) executor

/-- Making sure that the connection is open, with the worlds on the way: what is read of the
connection and what it answers, and the scene that is left. -/
inductive Ensuring (scene : Scene W) : List Event → Result Unit → Scene W → Prop where
  | found {world : W} (hlook : scene.executor.backend.state.run scene.world = (.open, world)) :
      Ensuring scene [.looked .open] (.ok ()) { scene with world := world }
  | foundLate {world₁ world₂ : W}
      (hfirst : scene.executor.backend.state.run scene.world = (.closed, world₁))
      (hsecond : scene.executor.backend.state.run world₁ = (.open, world₂)) :
      Ensuring scene [.looked .closed, .looked .open] (.ok ()) { scene with world := world₂ }
  | opened {world₁ world₂ world₃ : W}
      (hfirst : scene.executor.backend.state.run scene.world = (.closed, world₁))
      (hsecond : scene.executor.backend.state.run world₁ = (.closed, world₂))
      (hopen : scene.executor.backend.establish.run world₂ = (.ok (), world₃)) :
      Ensuring scene [.looked .closed, .looked .closed, .opened (.ok ())] (.ok ())
        ⟨{ scene.executor with closed := false }, world₃⟩
  | failed {world₁ world₂ world₃ : W} {e : BackendError}
      (hfirst : scene.executor.backend.state.run scene.world = (.closed, world₁))
      (hsecond : scene.executor.backend.state.run world₁ = (.closed, world₂))
      (hopen : scene.executor.backend.establish.run world₂ = (.error e, world₃)) :
      Ensuring scene [.looked .closed, .looked .closed, .opened (.error e)]
        (.error (.connection e)) { scene with world := world₃ }

theorem ensureOpen_ensuring (scene : Scene W) : ∃ events answer left,
    Ensuring scene events answer left ∧ Notes ensureOpen ensureOpen scene answer events left := by
  obtain ⟨executor, world⟩ := scene
  rcases hfirst : executor.backend.state.run world with ⟨first, world₁⟩
  cases first with
  | «open» =>
    refine ⟨_, _, _, .found hfirst, .get (fun _ ↦ rfl) ?_⟩
    exact .bind (connectionState_notes hfirst) (.ifPos rfl (.pure _))
  | closed =>
    -- The second look is at another world than the first one was.
    rcases hsecond : executor.backend.state.run world₁ with ⟨second, world₂⟩
    cases second with
    | «open» =>
      refine ⟨_, _, _, .foundLate hfirst hsecond, .get (fun _ ↦ rfl) ?_⟩
      refine .bind (connectionState_notes hfirst) (.ifNeg (by simp) ?_)
      exact .bind (connectionState_notes hsecond) (.ifPos rfl (.pure _))
    | closed =>
      rcases hopen : executor.backend.establish.run world₂ with ⟨e | _, world₃⟩
      · refine ⟨_, _, _, .failed hfirst hsecond hopen, .get (fun _ ↦ rfl) ?_⟩
        refine .bind (connectionState_notes hfirst) (.ifNeg (by simp) ?_)
        refine .bind (connectionState_notes hsecond) (.ifNeg (by simp) ?_)
        exact .bind (.act hopen .opened) (.pure _)
      · refine ⟨_, _, _, .opened hfirst hsecond hopen, .get (fun _ ↦ rfl) ?_⟩
        refine .bind (connectionState_notes hfirst) (.ifNeg (by simp) ?_)
        refine .bind (connectionState_notes hsecond) (.ifNeg (by simp) ?_)
        exact .bind (.act hopen .opened) (.bind (.revise rfl) (.pure _))

theorem Ensuring.ensuredOpen {scene left : Scene W} {events : List Event} {answer : Result Unit}
    (h : Ensuring scene events answer left) :
    EnsuredOpen scene.executor events answer left.executor := by
  cases h with
  | found => exact .found
  | foundLate => exact .foundLate
  | opened => exact .opened
  | failed => exact .failed _

theorem ensureOpen_notes (scene : Scene W) : ∃ events answer executor world,
    EnsuredOpen scene.executor events answer executor ∧
      Notes ensureOpen ensureOpen scene answer events ⟨executor, world⟩ := by
  obtain ⟨events, answer, left, hensuring, hnotes⟩ := ensureOpen_ensuring scene
  exact ⟨events, answer, left.executor, left.world, hensuring.ensuredOpen, hnotes⟩

/-- Nothing changes but whether the connection counts as closed. -/
theorem EnsuredOpen.frame {executor left : Executor W} {events : List Event}
    {answer : Result Unit} (h : EnsuredOpen executor events answer left) :
    ∃ closed, left = { executor with closed := closed } := by
  cases h with
  | opened => exact ⟨false, rfl⟩
  | _ => exact ⟨executor.closed, rfl⟩

/-! ## Beginning -/

/-- The executor that is made of a connection, before it is opened. -/
def fresh (serverType : ServerType) (dialect : Dialect) (backend : Backend W) : Executor W :=
  { serverType := serverType, dialect := dialect, backend := backend }

/-- An executor that is not opened yet counts as open as it is. -/
theorem Ensuring.executor_eq {serverType : ServerType} {dialect : Dialect} {backend : Backend W}
    {world : W} {events : List Event} {answer : Result Unit} {left : Scene W}
    (h : Ensuring ⟨fresh serverType dialect backend, world⟩ events answer left) :
    left.executor = fresh serverType dialect backend := by
  cases h with
  | found | foundLate | opened | failed => rfl

theorem create_ensuring (serverType : ServerType) (dialect : Dialect) (backend : Backend W)
    (world : W) : ∃ events answer left,
      Ensuring ⟨fresh serverType dialect backend, world⟩ events answer left ∧
      (create serverType dialect backend).run world =
        (answer.map fun () ↦ left.executor, left.world) ∧
      ∀ log, (create serverType dialect backend.recorded).run ⟨world, log⟩ =
        (answer.map fun () ↦ left.executor.recorded, ⟨left.world, log ++ events⟩) := by
  let start : Scene W := ⟨fresh serverType dialect backend, world⟩
  obtain ⟨events, answer, left, hensuring, hnotes⟩ := ensureOpen_ensuring start
  refine ⟨events, answer, left, hensuring, ?_, fun log ↦ ?_⟩
  · let made := ensureOpen.run start
    change (made.1.map fun () ↦ made.2.executor, made.2.world) = _
    have hmade : made = (answer, left) := hnotes.run_bare
    rw [hmade]
  · let made := ensureOpen.run (start.recorded log)
    change (made.1.map fun () ↦ made.2.executor, made.2.world) = _
    have hmade : made = (answer, left.recorded (log ++ events)) := hnotes.run_noted log
    rw [hmade]
    rfl

/-! ## Transactions -/

/-- How beginning a transaction can go. -/
inductive Began (executor : Executor W) (isolation : Option IsolationLevel) :
    List Event → Result Unit → Executor W → Prop where
  | refused {transaction : ActiveTransaction} (hactive : executor.transaction = some transaction) :
      Began executor isolation [] (.error .transactionAlreadyStarted) executor
  | unopened {events : List Event} {e : Error} {left : Executor W}
      (hidle : executor.transaction = none) (hopen : EnsuredOpen executor events (.error e) left) :
      Began executor isolation events (.error e) left
  | failed {events : List Event} {left : Executor W} (e : BackendError)
      (hidle : executor.transaction = none) (hopen : EnsuredOpen executor events (.ok ()) left) :
      Began executor isolation (events ++ [.began isolation (.error e)]) (.error (.transaction e))
        left
  | begun {events : List Event} {left : Executor W} (id : Uuid)
      (hidle : executor.transaction = none) (hopen : EnsuredOpen executor events (.ok ()) left) :
      Began executor isolation (events ++ [.began isolation (.ok ()), .named id]) (.ok ())
        { left with transaction := some ⟨id, isolation⟩ }

theorem begin_notes [IdSource W] (isolation : Option IsolationLevel) (scene : Scene W) :
    ∃ events answer executor world, Began scene.executor isolation events answer executor ∧
      Notes (Executor.begin isolation) (Executor.begin isolation) scene answer events
        ⟨executor, world⟩ := by
  cases hactive : scene.executor.transaction with
  | some transaction =>
    refine ⟨_, _, _, scene.world, .refused hactive, .get (fun _ ↦ rfl) ?_⟩
    exact .ifPos (by simp [isActive, hactive]) (.pure _)
  | none =>
    obtain ⟨events, answer, left, world, hopen, hnotes⟩ := ensureOpen_notes scene
    have hidle : ¬scene.executor.isActive = true := by simp [isActive, hactive]
    cases answer with
    | error e =>
      refine ⟨_, _, _, world, .unopened hactive hopen, .get (fun _ ↦ rfl) (.ifNeg hidle ?_)⟩
      exact .thenPure hnotes rfl rfl
    | ok =>
      rcases hbegin : (scene.executor.backend.begin isolation).run world with ⟨e | _, world₁⟩
      · refine ⟨_, _, _, world₁, .failed e hactive hopen, .get (fun _ ↦ rfl) (.ifNeg hidle ?_)⟩
        exact .bind hnotes (.bind (.act hbegin (.began isolation)) (.pure _))
      · rcases hid : (IdSource.newId (W := W)).run world₁ with ⟨id, world₂⟩
        refine ⟨_, _, _, world₂, .begun id hactive hopen, .get (fun _ ↦ rfl) (.ifNeg hidle ?_)⟩
        refine .bind hnotes (.bind (.act hbegin (.began isolation)) ?_)
        exact .bind (.act hid .named) (.bind (.revise rfl) (.pure _))

/-- How ending a transaction can go; `event` notes the call of the backend. -/
inductive Ended (executor : Executor W) (event : BackendResult Unit → Event) :
    List Event → Result Unit → Executor W → Prop where
  | idle (hidle : executor.transaction = none) : Ended executor event [] (.ok ()) executor
  | ended {transaction : ActiveTransaction} (answer : BackendResult Unit)
      (hactive : executor.transaction = some transaction) :
      Ended executor event [event answer] (answer.mapError .transaction)
        { executor with transaction := none }

theorem takeTransaction_notes (scene : Scene W) :
    Notes takeTransaction takeTransaction scene scene.executor.transaction []
      { scene with executor := { scene.executor with transaction := none } } :=
  .get (fun _ ↦ rfl) (.bind (.revise rfl) (.pure _))

theorem endTransaction_notes (finish : {V : Type} → Backend V → StateM V (BackendResult Unit))
    (event : BackendResult Unit → Event) (scene : Scene W)
    (hfinish : finish scene.executor.backend.recorded
      = Recorded.note event (finish scene.executor.backend)) :
    ∃ events answer executor world, Ended scene.executor event events answer executor ∧
      Notes (endTransaction finish) (endTransaction finish) scene answer events
        ⟨executor, world⟩ := by
  have htake := takeTransaction_notes scene
  cases hactive : scene.executor.transaction with
  | none =>
    -- Forgetting no transaction changes nothing.
    have hsame : { scene.executor with transaction := none } = scene.executor := by
      rw [← hactive]
    rw [hactive, hsame] at htake
    exact ⟨_, _, _, _, .idle hactive, .get (fun _ ↦ rfl) (.bind htake (.pure _))⟩
  | some transaction =>
    rw [hactive] at htake
    rcases hend : (finish scene.executor.backend).run scene.world with ⟨answer, world⟩
    have hcall : Notes (Scene.act (finish scene.executor.backend))
        (Scene.act (finish scene.executor.backend.recorded))
        { scene with executor := { scene.executor with transaction := none } } answer
        [event answer] ⟨{ scene.executor with transaction := none }, world⟩ := by
      rw [hfinish]
      refine .act ?_ event
      exact hend
    exact ⟨_, _, _, world, .ended answer hactive,
      .get (fun _ ↦ rfl) (.bind htake (.thenPure hcall rfl rfl))⟩

/-! ## Preparing a command -/

/-- What is noted when the connection of a transaction is found not to be lost. -/
def check : Option ActiveTransaction → List Event
  | some _ => [.looked .open]
  | none => []

theorem check_of_isActive {executor : Executor W} (h : executor.isActive) :
    check executor.transaction = [.looked .open] := by
  obtain ⟨transaction, htransaction⟩ := Option.isSome_iff_exists.mp h
  rw [htransaction, check]

theorem check_of_not_isActive {executor : Executor W} (h : ¬executor.isActive) :
    check executor.transaction = [] := by
  rw [isActive, Option.not_isSome_iff_eq_none] at h
  rw [h, check]

/-- The command of a call, under the transaction that is active. -/
def commandNow (executor : Executor W) (sql : String) (parameters : List Parameter) : Command :=
  executor.commandFor sql parameters (executor.transaction.map (·.id))

/-- How the steps before a command is made can go. -/
inductive Readied (executor : Executor W) (sql : String) (parameters : List Parameter)
    (code : String) : List Event → Result Unit → Executor W → Prop where
  /-- The connection was lost under the transaction. -/
  | lost (hactive : executor.isActive) :
      Readied executor sql parameters code [.looked .closed]
        (.error (executionError (executor.commandNow sql parameters) code connectionLost))
        { executor with transaction := none }
  | passed {events : List Event} {answer : Result Unit} {left : Executor W}
      (hopen : EnsuredOpen executor events answer left) :
      Readied executor sql parameters code (check executor.transaction ++ events) answer left

theorem refuseIfLost_notes (sql : String) (parameters : List Parameter) (code : String)
    (scene : Scene W) :
    (∃ world, Notes (refuseIfLost sql parameters code) (refuseIfLost sql parameters code) scene
      (.ok ()) (check scene.executor.transaction) { scene with world := world }) ∨
    ∃ world, scene.executor.isActive ∧
      Notes (refuseIfLost sql parameters code) (refuseIfLost sql parameters code) scene
        (.error (executionError (scene.executor.commandNow sql parameters) code connectionLost))
        [.looked .closed] ⟨{ scene.executor with transaction := none }, world⟩ := by
  by_cases hactive : scene.executor.isActive
  · rcases hlook : scene.executor.backend.state.run scene.world with ⟨state, world⟩
    have hcheck : ¬(!scene.executor.isActive) = true := by simp [hactive]
    cases state with
    | «open» =>
      refine .inl ⟨world, .get (fun _ ↦ rfl) (.ifNeg hcheck ?_)⟩
      rw [check_of_isActive hactive]
      exact .bind (connectionState_notes hlook) (.ifPos rfl (.pure _))
    | closed =>
      refine .inr ⟨world, hactive, .get (fun _ ↦ rfl) (.ifNeg hcheck ?_)⟩
      refine .bind (connectionState_notes hlook) (.ifNeg (by simp) ?_)
      exact .bind (takeTransaction_notes _) (.pure _)
  · refine .inl ⟨scene.world, .get (fun _ ↦ rfl) (.ifPos (by simpa using hactive) ?_)⟩
    rw [check_of_not_isActive hactive]
    exact .pure _

theorem ready_notes (sql : String) (parameters : List Parameter) (code : String)
    (scene : Scene W) : ∃ events answer executor world,
      Readied scene.executor sql parameters code events answer executor ∧
        Notes (ready sql parameters code) (ready sql parameters code) scene answer events
          ⟨executor, world⟩ := by
  obtain ⟨world, hpassed⟩ | ⟨world, hactive, hlost⟩ := refuseIfLost_notes sql parameters code scene
  · obtain ⟨events, answer, left, world₁, hopen, hnotes⟩ :=
      ensureOpen_notes { scene with world := world }
    exact ⟨_, _, _, world₁, .passed hopen, .bind hpassed hnotes⟩
  · exact ⟨_, _, _, world, .lost hactive, .thenPure hlost rfl rfl⟩

/-! ## Hooks -/

/-- What a hook does with a command, if there is one. -/
def consulted (hook : Option (Hook W)) (command : Command) (world : W) : Except Panic Unit × W :=
  match hook with
  | some hook => (hook command).perform world
  | none => (.ok (), world)

/-- What is noted when a hook is shown a command, if there is one. -/
def shownTo (side : Side) (hook : Option (Hook W)) (command : Command) : List Event :=
  match hook with
  | some _ => [.shown side command]
  | none => []

/-- A hook that panics over a command in some world. -/
def Panics (hook : Option (Hook W)) (command : Command) (panic : Panic) : Prop :=
  ∃ world, (consulted hook command world).1 = .error panic

theorem consult_records {hook : Option (Hook W)} {command : Command} {outcome : Except Panic Unit}
    {world : W} (side : Side) (h : consulted hook command scene.world = (outcome, world)) :
    Records (consult hook command) (consult (hook.map (Recorded.hook side)) command) scene outcome
      (shownTo side hook command) { scene with world := world } := by
  cases hook with
  | none =>
    cases h
    exact .pure ()
  | some hook =>
    have hperform : (hook command).perform scene.world = (outcome, world) := h
    refine .perform h fun log ↦ ?_
    rw [Recorded.perform_hook, hperform]
    rfl

/-- How the steps before the backend is called can go. -/
inductive Prepared (executor : Executor W) (sql : String) (parameters : List Parameter)
    (code : String) : List Event → Except Panic (Result Command) → Executor W → Prop where
  | unready {events : List Event} {e : Error} {left : Executor W}
      (hready : Readied executor sql parameters code events (.error e) left) :
      Prepared executor sql parameters code events (.ok (.error e)) left
  | panicked {events : List Event} {left : Executor W} {panic : Panic}
      (hready : Readied executor sql parameters code events (.ok ()) left)
      (hpanic : Panics executor.before (executor.commandNow sql parameters) panic) :
      Prepared executor sql parameters code
        (events ++ shownTo .before executor.before (executor.commandNow sql parameters))
        (.error panic) left
  | prepared {events : List Event} {left : Executor W}
      (hready : Readied executor sql parameters code events (.ok ()) left) :
      Prepared executor sql parameters code
        (events ++ shownTo .before executor.before (executor.commandNow sql parameters))
        (.ok (.ok (executor.commandNow sql parameters))) left

/-- Before a call is prepared nothing changes but whether the connection counts as closed. -/
theorem Readied.frame {executor left : Executor W} {sql : String} {parameters : List Parameter}
    {code : String} {events : List Event}
    (h : Readied executor sql parameters code events (.ok ()) left) :
    ∃ closed, left = { executor with closed := closed } := by
  cases h with
  | passed hopen => exact hopen.frame

theorem prepare_records (sql : String) (parameters : List Parameter) (code : String)
    (scene : Scene W) : ∃ events outcome executor world,
      Prepared scene.executor sql parameters code events outcome executor ∧
        Records (prepare sql parameters code) (prepare sql parameters code) scene outcome events
          ⟨executor, world⟩ := by
  obtain ⟨events, answer, left, world, hready, hnotes⟩ := ready_notes sql parameters code scene
  cases answer with
  | error e => exact ⟨_, _, _, world, .unready hready, .thenPure (.ofState hnotes) rfl rfl⟩
  | ok =>
    obtain ⟨closed, rfl⟩ := hready.frame
    rcases hconsult : consulted scene.executor.before (scene.executor.commandNow sql parameters)
      world with ⟨panic | _, world₁⟩
    · have hpanic : Panics scene.executor.before (scene.executor.commandNow sql parameters) panic :=
        ⟨world, by rw [hconsult]⟩
      refine ⟨_, _, _, world₁, .panicked hready hpanic, .bind (.ofState hnotes) ?_⟩
      exact .get (fun _ ↦ rfl) (.bindPanic (consult_records .before hconsult))
    · refine ⟨_, _, _, world₁, .prepared hready, .bind (.ofState hnotes) ?_⟩
      exact .get (fun _ ↦ rfl) (.thenPure (consult_records .before hconsult) rfl rfl)

/-! ## The backend's part -/

end Executor

namespace Trace

/-- The function of a backend that a synchronous operation selects. -/
def Service.ofOperation : Operation → Service
  | .scalar => .scalar
  | .nonQuery => .nonQuery
  | .table => .reader
  | .tableSet _ => .fill

/-- What becomes of the answer of a backend to an operation. -/
inductive Served :
    Operation → Except Panic Answer → Except Panic (BackendResult Output) → Prop where
  | scalar (outcome : Except Panic (BackendResult Value)) :
      Served .scalar (outcome.map .value) (outcome.map (·.map .scalar))
  | nonQuery (outcome : Except Panic (BackendResult UInt64)) :
      Served .nonQuery (outcome.map .rows) (outcome.map (·.map .rowsAffected))
  | table (outcome : Except Panic (BackendResult DataTable)) :
      Served .table (outcome.map .table) (outcome.map (·.map fun t ↦ .table (t.renamed "T0")))
  | tableSet (names : List String) (outcome : Except Panic (BackendResult (List DataTable))) :
      Served (.tableSet names) (outcome.map .tables)
        (outcome.map (·.map fun tables ↦ .tableSet (nameTables tables names)))

end Trace

namespace Executor

theorem serve_records {action : Action W (BackendResult α)}
    {outcome : Except Panic (BackendResult α)} {world : W} (service : Service)
    (answer : BackendResult α → Answer) (command : Command)
    (f : BackendResult α → BackendResult Output)
    (h : action.perform scene.world = (outcome, world)) :
    Records (Scene.perform do return f (← action))
      (Scene.perform do return f (← Recorded.serve service answer command action)) scene
      (outcome.map f) [.called service command, .answered (outcome.map answer)]
      { scene with world := world } := by
  have hserve (log : List Event) :
      (Recorded.serve service answer command action).perform ⟨scene.world, log⟩ =
        (outcome,
          ⟨world, log ++ [.called service command, .answered (outcome.map answer)]⟩) := by
    rw [Recorded.perform_serve, h]
  cases outcome with
  | ok a =>
    refine .perform (Action.perform_bind_of_ok h _) fun log ↦ ?_
    exact Action.perform_bind_of_ok (hserve log) _
  | error panic =>
    refine .perform (Action.perform_bind_of_error h _) fun log ↦ ?_
    exact Action.perform_bind_of_error (hserve log) _

theorem dispatch_records (command : Command) (operation : Operation) (scene : Scene W) :
    ∃ answer outcome world, Served operation answer outcome ∧
      Records (Scene.perform (dispatch scene.executor.backend command operation))
        (Scene.perform (dispatch scene.executor.backend.recorded command operation)) scene outcome
        [.called (.ofOperation operation) command, .answered answer]
        { scene with world := world } := by
  cases operation with
  | scalar => exact ⟨_, _, _, .scalar _, serve_records .scalar .value command _ rfl⟩
  | nonQuery => exact ⟨_, _, _, .nonQuery _, serve_records .nonQuery .rows command _ rfl⟩
  | table => exact ⟨_, _, _, .table _, serve_records .reader .table command _ rfl⟩
  | tableSet names => exact ⟨_, _, _, .tableSet names _, serve_records .fill .tables command _ rfl⟩

/-- How the steps after the backend has answered can go. -/
inductive Finished (hook : Option (Hook W)) (command : Command) (code : String) :
    Except Panic (BackendResult Output) → List Event → Except Panic (Result Output) → Prop where
  | panicked (panic : Panic) : Finished hook command code (.error panic) [] (.error panic)
  | failed (e : BackendError) : Finished hook command code (.ok (.error e)) []
      (.ok (.error (executionError command code e)))
  | succeeded (output : Output) : Finished hook command code (.ok (.ok output))
      (shownTo .after hook command) (.ok (.ok output))
  | hookPanicked (output : Output) {panic : Panic} (hpanic : Panics hook command panic) :
      Finished hook command code (.ok (.ok output)) (shownTo .after hook command) (.error panic)

theorem finish_records (command : Command) (code : String) (answer : BackendResult Output)
    (scene : Scene W) : ∃ events outcome world,
      Finished scene.executor.after command code (.ok answer) events outcome ∧
        Records (finish command code answer) (finish command code answer) scene outcome events
          { scene with world := world } := by
  cases answer with
  | error e => exact ⟨_, _, scene.world, .failed e, .pure _⟩
  | ok output =>
    rcases hconsult : consulted scene.executor.after command scene.world with ⟨panic | _, world⟩
    · have hpanic : Panics scene.executor.after command panic := ⟨scene.world, by rw [hconsult]⟩
      refine ⟨_, _, world, .hookPanicked output hpanic, .get (fun _ ↦ rfl) ?_⟩
      exact .bindPanic (consult_records .after hconsult)
    · refine ⟨_, _, world, .succeeded output, .get (fun _ ↦ rfl) ?_⟩
      exact .thenPure (consult_records .after hconsult) rfl rfl

/-- A call of the backend and the steps behind it, which depend on nothing but what it left. -/
theorem finish_after (command : Command) (code : String)
    (reply : Except Panic (BackendResult Output)) (left : Scene W) : ∃ more outcome world,
      Finished left.executor.after command code reply more outcome ∧
        ∀ {call : Action (Scene W) (BackendResult Output)}
          {call' : Action (Scene (Recorded W)) (BackendResult Output)} {scene : Scene W}
          {events : List Event}, Records call call' scene reply events left →
            Records (call >>= finish command code) (call' >>= finish command code) scene outcome
              (events ++ more) { left with world := world } := by
  cases reply with
  | error panic =>
    refine ⟨[], .error panic, left.world, .panicked panic, fun hcall ↦ ?_⟩
    rw [List.append_nil]
    exact .bindPanic hcall
  | ok answer =>
    obtain ⟨more, outcome, world, hfinish, hafter⟩ := finish_records command code answer left
    exact ⟨more, outcome, world, hfinish, fun hcall ↦ .bind hcall hafter⟩

/-! ## Synchronous calls -/

/-- How a synchronous call can go. -/
inductive Executed (executor : Executor W) (sql : String) (parameters : List Parameter)
    (code : String) (operation : Operation) :
    List Event → Except Panic (Result Output) → Executor W → Prop where
  | unprepared {events : List Event} {e : Error} {left : Executor W}
      (hprepare : Prepared executor sql parameters code events (.ok (.error e)) left) :
      Executed executor sql parameters code operation events (.ok (.error e)) left
  | panicked {events : List Event} {panic : Panic} {left : Executor W}
      (hprepare : Prepared executor sql parameters code events (.error panic) left) :
      Executed executor sql parameters code operation events (.error panic) left
  | served {events more : List Event} {answer : Except Panic Answer} {left : Executor W}
      {reply : Except Panic (BackendResult Output)} {outcome : Except Panic (Result Output)}
      {command : Command}
      (hprepare : Prepared executor sql parameters code events (.ok (.ok command)) left)
      (hserve : Served operation answer reply)
      (hfinish : Finished executor.after command code reply more outcome) :
      Executed executor sql parameters code operation
        (events ++ ([.called (.ofOperation operation) command, .answered answer] ++ more))
        outcome left

theorem Prepared.frame {executor left : Executor W} {sql : String} {parameters : List Parameter}
    {code : String} {events : List Event} {command : Command}
    (h : Prepared executor sql parameters code events (.ok (.ok command)) left) :
    ∃ closed, left = { executor with closed := closed } := by
  cases h with
  | prepared hready => exact hready.frame

theorem execute_records (sql : String) (parameters : List Parameter) (code : String)
    (operation : Operation) (scene : Scene W) : ∃ events outcome executor world,
      Executed scene.executor sql parameters code operation events outcome executor ∧
        Records (execute sql parameters code operation) (execute sql parameters code operation)
          scene outcome events ⟨executor, world⟩ := by
  obtain ⟨events, outcome, left, world, hprepare, hrecords⟩ :=
    prepare_records sql parameters code scene
  match outcome, hprepare, hrecords with
  | .error panic, hprepare, hrecords =>
    exact ⟨_, _, _, world, .panicked hprepare, .bindPanic hrecords⟩
  | .ok (.error e), hprepare, hrecords =>
    exact ⟨_, _, _, world, .unprepared hprepare, .thenPure hrecords rfl rfl⟩
  | .ok (.ok command), hprepare, hrecords =>
    obtain ⟨answer, reply, world₁, hserve, hdispatch⟩ :=
      dispatch_records command operation ⟨left, world⟩
    obtain ⟨closed, rfl⟩ := hprepare.frame
    obtain ⟨more, outcome, world₂, hfinish, hafter⟩ := finish_after command code reply
      ⟨{ scene.executor with closed := closed }, world₁⟩
    exact ⟨_, _, _, world₂, .served hprepare hserve hfinish,
      .bind hrecords (.get (fun _ ↦ rfl) (hafter hdispatch))⟩

end Executor

end SqlGateway
