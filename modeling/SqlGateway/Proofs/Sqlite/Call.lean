import SqlGateway.Executor.Pipeline
import SqlGateway.Proofs.Inference.Binding
import SqlGateway.Proofs.Sqlite.Preparation
import SqlGateway.Sqlite.Connection

/-!
# Calls of an executor of a SQLite connection

Between a call of an executor and the walk through its batch stand the hooks, the opening of the
connection, the inference of parameters and the choice of what is wanted of the outcome. None of
them touches the database, provided that the hooks do not reach around the executor. So a call that
is answered has run its batch once, on the open database as it was found, or has not been able to
open the connection.

A hook may panic, and then nothing is said.
-/

namespace SqlGateway

variable {W : Type}

namespace Sqlite

/-! ## Batches that cannot be cancelled -/

/-- What a batch that cannot be cancelled leaves of a database, and what it gives. -/
def batch (parameters : List Parameter) (statements : List (Except SqlError Prepared))
    (h : Handle) : Handle × Except SqlError (List DataTable) :=
  let walked := walk Connection.uncancelled parameters statements h ()
  (walked.handle, walked.result)

/-- No world matters to a batch that cannot be cancelled. -/
theorem walk_uncancelled (parameters : List Parameter)
    (statements : List (Except SqlError Prepared)) (h : Handle) (world : W) :
    walk Connection.uncancelled parameters statements h world =
      ⟨(batch parameters statements h).2, (batch parameters statements h).1, world⟩ := by
  simp only [batch]
  induction statements generalizing h with
  | nil => rfl
  | cons statement rest ih =>
    cases statement with
    | error e => rfl
    | ok p =>
      simp only [walk, Connection.uncancelled, StateT.run, Bool.false_eq_true, if_false]
      rcases p.ready h with ⟨ready, e | program⟩
      · rfl
      dsimp only
      rcases step parameters p.names program ready with ⟨after, e | tables⟩
      · rfl
      · simp only [ih]

/-- A batch that goes on with the rest of its statements gives what the rest gives. -/
theorem Continues.of_batch {parameters : List Parameter}
    {statements rest : List (Except SqlError Prepared)} {h after : Handle} {tables : List DataTable}
    {property : Handle → Prop}
    (hcontinues : Continues Connection.uncancelled parameters statements rest h () property)
    (hbatch : batch parameters statements h = (after, .ok tables)) :
    ∃ between, property between ∧ batch parameters rest between = (after, .ok tables) := by
  rcases hcontinues with ⟨e, herror⟩ | ⟨between, world, hbetween, hwalk⟩
  · rw [walk_uncancelled, hbatch] at herror
    cases herror
  · rw [walk_uncancelled, walk_uncancelled, hbatch] at hwalk
    obtain ⟨hresult, hhandle, -⟩ := Walk.mk.inj hwalk
    exact ⟨between, hbetween, Prod.ext hhandle.symm hresult.symm⟩

theorem batch_infer (sql : String) (supplied : List Parameter)
    (statements : List (Except SqlError Prepared)) (h : Handle) :
    batch (Inference.infer sql supplied) statements h = batch supplied statements h := by
  simp only [batch, walk_infer]

namespace Connection

/-- What an operation gives of the outcome of a batch. -/
def Outcome.output (operation : Operation) (outcome : Outcome) : Output :=
  match operation with
  | .scalar => .scalar outcome.firstValue
  | .nonQuery => .rowsAffected outcome.rowsAffected
  | .table => Executor.tableOutput outcome.firstTable
  | .tableSet names => Executor.tablesOutput names outcome.tables

theorem perform_dispatch (site : Site W) (command : Command) (operation : Operation) (world : W) :
    (Executor.dispatch (backend site) command operation).perform world =
      (.ok ((run site uncancelled command world).1.map (·.output operation)),
        (run site uncancelled command world).2) := by
  have hpart {α : Type} (part : Outcome → α) (give : α → Output) :
      (do return (← Action.ofState (runFor site part uncancelled command)).map give :
        Action W (BackendResult Output)).perform world =
      (.ok ((run site uncancelled command world).1.map (give ∘ part)),
        (run site uncancelled command world).2) := by
    have hrun : (runFor site part uncancelled command).run world =
        ((run site uncancelled command world).1.map part,
          (run site uncancelled command world).2) := rfl
    rw [Action.perform_bind_of_ok (Action.perform_ofState _ _), hrun]
    rcases run site uncancelled command world with ⟨e | outcome, left⟩
    · rfl
    · rfl
  cases operation with
  | scalar => exact hpart Outcome.firstValue Output.scalar
  | nonQuery => exact hpart Outcome.rowsAffected Output.rowsAffected
  | table => exact hpart Outcome.firstTable Executor.tableOutput
  | tableSet names => exact hpart Outcome.tables (Executor.tablesOutput names)

/-- What a command leaves of the connection and its database, and what it gives. -/
theorem run_of_database (site : Site W) (command : Command) {world : W} {c : Connection}
    {disk : Disk} {opened : OpenDatabase} (hthere : site.get world = (c, disk))
    (hopened : c.database = some opened) :
    let before := disk.load opened
    let walked := batch command.parameters (statements command.sql) before
    run site uncancelled command world =
      (match walked.2 with
        | .ok tables => .ok ⟨tables, walked.1.changes - before.changes⟩
        | .error e => .error (.execute e.display),
      site.set (c.keep disk { opened with handle := walked.1 }) world) := by
  simp only [run, hthere, hopened, walk_uncancelled]
  rcases batch command.parameters (statements command.sql) (disk.load opened) with
    ⟨after, e | tables⟩
  · rfl
  · rfl

section

variable {there : Connection × Disk} {opened : OpenDatabase}

/-- A transaction is not begun or ended on a closed connection. -/
theorem transact_of_none (hnone : there.1.database = none) (program : Program) :
    (transact program).run there = (.error .closed, there) := by
  simp only [transact, StateT.run, hnone]

theorem transact_of_found (hopened : there.1.database = some opened) (program : Program) :
    (transact program).run there =
      (match (program.run (there.2.load opened) []).2 with
        | .ok _ => .ok ()
        | .error e => .error (.transaction e.display),
      there.1.keep there.2 { opened with
        handle := (program.run (there.2.load opened) []).1 }) := by
  obtain ⟨⟨path, database, isOpen, interruptible⟩, disk⟩ := there
  obtain rfl : database = some opened := hopened
  rfl

/-- A closed connection is not closed again. -/
theorem closing_of_none (hnone : there.1.database = none) (answer : Except SqlError Unit) :
    (closing answer).run there = (.ok (), there) := by
  simp only [closing, StateT.run, hnone]

theorem closing_of_found (hopened : there.1.database = some opened)
    (answer : Except SqlError Unit) :
    (closing answer).run there =
      (match answer with
        | .ok () => .ok ()
        | .error e => .error ⟨.closed, e.display⟩,
      ofPath there.1.path, there.2.close opened) := by
  obtain ⟨⟨path, database, isOpen, interruptible⟩, disk⟩ := there
  obtain rfl : database = some opened := hopened
  rfl

end

end Connection

/-! ## Executors of a connection -/

/-- A hook that leaves the connection in its place as it is, and its database. -/
def Site.Spares (site : Site W) (hook : Hook W) : Prop :=
  ∀ command world, site.get ((hook command).perform world).2 = site.get world

/-- An executor of the connection in a place. -/
structure Site.Serves (site : Site W) (executor : Executor W) : Prop where
  get_set : ∀ there world, site.get (site.set there world) = there
  backend : executor.backend = Connection.backend site
  before : ∀ hook, executor.before = some hook → site.Spares hook
  after : ∀ hook, executor.after = some hook → site.Spares hook

/-- A world that is a connection with its files and nothing else. -/
def Site.whole : Site (Connection × Disk) := ⟨id, fun there _ ↦ there⟩

/-- A connection reports that it is open if it has a database. -/
def Connection.Sound (c : Connection) : Prop := c.isOpen = c.database.isSome

/-- No transaction is in progress. -/
def Connection.Idle (c : Connection) : Prop :=
  ∀ opened, c.database = some opened → opened.handle.transaction = none

/-- The connection as the batch of a call finds it, which is open if it can be opened. -/
def Site.ensured (site : Site W) (world : W) : Connection × Disk :=
  (Connection.establish.run (site.get world)).2

section

variable {site : Site W} {scene : Scene W}

/-- An executor that differs in whether its connection was closed, if at all. -/
structure Alike (executor other : Executor W) : Prop where
  backend : other.backend = executor.backend
  before : other.before = executor.before
  after : other.after = executor.after
  transaction : other.transaction = executor.transaction

theorem Alike.refl (executor : Executor W) : Alike executor executor := ⟨rfl, rfl, rfl, rfl⟩

theorem Site.Serves.of_alike {executor other : Executor W} (h : site.Serves executor)
    (halike : Alike executor other) : site.Serves other where
  get_set := h.get_set
  backend := halike.backend.trans h.backend
  before := by
    rw [halike.before]
    exact h.before
  after := by
    rw [halike.after]
    exact h.after

theorem run_bind {S α β : Type} (first : StateM S α) (next : α → StateM S β) (state : S) :
    (first >>= next).run state = (next (first.run state).1).run (first.run state).2 := rfl

theorem run_get {S : Type} (state : S) : (get : StateM S S).run state = (state, state) := rfl

/-- An executor that gives up its transaction has none. -/
theorem run_takeTransaction (scene : Scene W) :
    Executor.takeTransaction.run scene = (scene.executor.transaction,
      { scene with executor := { scene.executor with transaction := none } }) := rfl

theorem connectionState_run (hserves : site.Serves scene.executor) :
    Executor.connectionState.run scene = ((site.get scene.world).1.state, scene) := by
  rw [Executor.connectionState, run_bind, run_get, hserves.backend]
  rfl

/-- An open connection is not opened again. -/
theorem establish_of_database {there : Connection × Disk} (h : there.1.database.isSome = true) :
    Connection.establish.run there = (.ok (), there) := by
  obtain ⟨c, disk⟩ := there
  simp only [Connection.establish, StateT.run]
  rw [if_pos h]

/-- How the opening of a connection can go: what it answers, and the connection with the files that
it leaves. -/
inductive Establishing (there : Connection × Disk) :
    BackendResult Unit → Connection × Disk → Prop where
  | held (hdatabase : there.1.database.isSome = true) : Establishing there (.ok ()) there
  | opened {found : OpenDatabase} {disk : Disk} (hnone : there.1.database = none)
      (hopen : there.2.open there.1.path = .ok (found, disk)) :
      Establishing there (.ok ()) (there.1.holding found, disk)
  | failed {fault : LocationFault} (hnone : there.1.database = none)
      (hopen : there.2.open there.1.path = .error fault) :
      Establishing there
        (.error (.opening (there.1.path ++ ": " ++ fault.message there.1.path))) there

theorem establish_establishing (there : Connection × Disk) :
    ∃ answer left, Connection.establish.run there = (answer, left) ∧
      Establishing there answer left := by
  by_cases hdatabase : there.1.database.isSome = true
  · exact ⟨_, _, establish_of_database hdatabase, .held hdatabase⟩
  · have hnone := Option.not_isSome_iff_eq_none.mp hdatabase
    obtain ⟨c, disk⟩ := there
    simp only [Connection.establish, StateT.run]
    rw [if_neg hdatabase]
    cases hopen : disk.open c.path with
    | error fault => exact ⟨_, _, rfl, .failed hnone hopen⟩
    | ok found => exact ⟨_, _, rfl, .opened hnone hopen⟩

/-- Making sure that the connection is open. -/
theorem ensureOpen_run (hserves : site.Serves scene.executor)
    (hsound : (site.get scene.world).1.Sound) :
    ∃ left, Executor.ensureOpen.run scene =
        ((Connection.establish.run (site.get scene.world)).1.mapError Error.connection, left) ∧
      Alike scene.executor left.executor ∧ site.get left.world = site.ensured scene.world := by
  have hstate := connectionState_run hserves
  -- The state is asked for again before the connection is opened, and is the same then.
  rw [Executor.ensureOpen, run_bind, run_get, run_bind, hstate]
  by_cases hopen : (site.get scene.world).1.isOpen = true
  · have hdatabase : (site.get scene.world).1.database.isSome = true := hsound ▸ hopen
    rw [Site.ensured, establish_of_database hdatabase, Connection.state, if_pos hopen]
    exact ⟨scene, rfl, .refl _, rfl⟩
  · have hact : (Scene.act scene.executor.backend.establish).run scene =
        ((Connection.establish.run (site.get scene.world)).1,
          { scene with world := site.set (site.ensured scene.world) scene.world }) := by
      rw [hserves.backend]
      rfl
    have hclosed : (site.get scene.world).1.state = .closed := if_neg hopen
    have hne : ConnectionState.closed ≠ .open := by decide
    rw [hclosed, if_neg hne, run_bind, hstate, hclosed, if_neg hne, run_bind, hact]
    cases (Connection.establish.run (site.get scene.world)).1 with
    | error e => exact ⟨_, rfl, .refl _, hserves.get_set _ _⟩
    | ok _ => exact ⟨_, rfl, ⟨rfl, rfl, rfl, rfl⟩, hserves.get_set _ _⟩

theorem establish_cases (there : Connection × Disk) :
    ((Connection.establish.run there).1 = .ok () ∧
        (Connection.establish.run there).2.1.database.isSome = true) ∨
      (∃ e, (Connection.establish.run there).1 = .error e) ∧
        (Connection.establish.run there).2.1.database = none := by
  obtain ⟨answer, left, hrun, hestablishing⟩ := establish_establishing there
  rw [hrun]
  cases hestablishing with
  | held hdatabase => exact .inl ⟨rfl, hdatabase⟩
  | opened => exact .inl ⟨rfl, rfl⟩
  | failed hnone => exact .inr ⟨⟨_, rfl⟩, hnone⟩

theorem ensured_sound {world : W} (h : (site.get world).1.Sound) :
    (site.ensured world).1.Sound := by
  obtain ⟨answer, left, hrun, hestablishing⟩ := establish_establishing (site.get world)
  rw [Site.ensured, hrun]
  cases hestablishing with
  | held => exact h
  | opened => rfl
  | failed => exact h

theorem open_transaction {disk disk' : Disk} {name : String} {opened : OpenDatabase}
    (hopen : disk.open name = .ok (opened, disk')) : opened.handle.transaction = none := by
  rw [Disk.open] at hopen
  obtain ⟨location, -, hopen⟩ := bind_eq_ok.mp hopen
  obtain ⟨⟨residence, found⟩, -, hopen⟩ := bind_eq_ok.mp hopen
  obtain ⟨rfl, -⟩ := Prod.mk.inj (Except.ok.inj hopen)
  rfl

theorem ensured_idle {world : W} (h : (site.get world).1.Idle) : (site.ensured world).1.Idle := by
  obtain ⟨answer, left, hrun, hestablishing⟩ := establish_establishing (site.get world)
  rw [Site.ensured, hrun]
  cases hestablishing with
  | held => exact h
  | opened hnone hopen =>
    rintro opened hopened
    obtain rfl := Option.some.inj hopened
    exact open_transaction hopen
  | failed => exact h

theorem load_transaction (disk : Disk) (opened : OpenDatabase) :
    (disk.load opened).transaction = opened.handle.transaction := by
  simp only [Disk.load]
  split
  · split
    · rfl
    · rfl
  · rfl

/-- Only a call under a transaction can be refused for a lost connection. -/
theorem refuseIfLost_run (hserves : site.Serves scene.executor) (sql : String)
    (supplied : List Parameter) (code : String) :
    (Executor.refuseIfLost sql supplied code).run scene = (.ok (), scene) ∨
      scene.executor.isActive = true ∧ (site.get scene.world).1.state ≠ .open ∧ ∃ e left,
        (Executor.refuseIfLost sql supplied code).run scene = (.error e, left) := by
  rw [Executor.refuseIfLost, run_bind, run_get]
  by_cases hactive : scene.executor.isActive = true
  · simp only [hactive]
    rw [if_neg (by decide), run_bind, connectionState_run hserves]
    by_cases hopen : (site.get scene.world).1.state = .open
    · rw [if_pos hopen]
      exact .inl rfl
    · rw [if_neg hopen]
      exact .inr ⟨trivial, hopen, _, _, rfl⟩
  · rw [Bool.not_eq_true] at hactive
    simp only [hactive]
    exact .inl rfl

/-! ## Answers -/

/-- A hook of an executor panics when it is shown some command. -/
def HookPanics (executor : Executor W) (panic : Panic) : Prop :=
  ∃ hook command world, (executor.before = some hook ∨ executor.after = some hook) ∧
    ((hook command).perform world).1 = .error panic

/-- How a call of an executor of a connection can go. -/
inductive Answered (site : Site W) (scene : Scene W) (sql : String) (supplied : List Parameter)
    (operation : Operation) : Except Panic (Result Output) → Scene W → Prop where
  /-- A hook panicked. -/
  | panicked {panic : Panic} (hpanics : HookPanics scene.executor panic) (left : Scene W) :
      Answered site scene sql supplied operation (.error panic) left
  /-- The connection was lost under the transaction of the executor. -/
  | lost (hactive : scene.executor.isActive = true)
      (hclosed : (site.get scene.world).1.state ≠ .open) (e : Error) (left : Scene W) :
      Answered site scene sql supplied operation (.ok (.error e)) left
  /-- The connection could not be opened. -/
  | unopened {left : Scene W} (hserves : site.Serves left.executor)
      (htransaction : left.executor.transaction = scene.executor.transaction)
      (hdatabase : (site.ensured scene.world).1.database = none)
      (hleft : site.get left.world = site.ensured scene.world) (e : Error) :
      Answered site scene sql supplied operation (.ok (.error e)) left
  /-- The batch was run. -/
  | ran {left : Scene W} {c : Connection} {disk : Disk} {opened : OpenDatabase} {after : Handle}
      {result : Except SqlError (List DataTable)} {answer : Result Output}
      (hserves : site.Serves left.executor)
      (htransaction : left.executor.transaction = scene.executor.transaction)
      (hensured : site.ensured scene.world = (c, disk)) (hopened : c.database = some opened)
      (hbatch : batch supplied (statements sql) (disk.load opened) = (after, result))
      (hleft : site.get left.world = c.keep disk { opened with handle := after })
      (hanswer : match result with
        | .ok tables => answer = .ok (Connection.Outcome.output operation
            ⟨tables, after.changes - (disk.load opened).changes⟩)
        | .error _ => ∃ e, answer = .error e) :
      Answered site scene sql supplied operation (.ok answer) left

/-- The steps before a command is made. -/
theorem ready_cases (hserves : site.Serves scene.executor)
    (hsound : (site.get scene.world).1.Sound) (sql : String) (supplied : List Parameter)
    (code : String) (operation : Operation) :
    ∃ left, Alike scene.executor left.executor ∧
        (Executor.ready sql supplied code).run scene = (.ok (), left) ∧
        (site.ensured scene.world).1.database.isSome = true ∧
        site.get left.world = site.ensured scene.world ∨
      ∃ e, (Executor.ready sql supplied code).run scene = (.error e, left) ∧
        Answered site scene sql supplied operation (.ok (.error e)) left := by
  rw [Executor.ready, run_bind]
  rcases refuseIfLost_run hserves sql supplied code with
    hrefuse | ⟨hactive, hclosed, e, left, hrefuse⟩
  · obtain ⟨left, hensure, halike, hget⟩ := ensureOpen_run hserves hsound
    refine ⟨left, ?_⟩
    rw [hrefuse, hensure]
    rcases establish_cases (site.get scene.world) with ⟨hok, hdatabase⟩ | ⟨⟨e, herror⟩, hdatabase⟩
    · rw [hok]
      exact .inl ⟨halike, rfl, hdatabase, hget⟩
    · rw [herror]
      exact .inr ⟨_, rfl,
        .unopened (hserves.of_alike halike) halike.transaction hdatabase hget _⟩
  · rw [hrefuse]
    exact ⟨left, .inr ⟨e, rfl, .lost hactive hclosed e left⟩⟩

/-- Showing a command to a hook that leaves the connection alone. -/
theorem consult_cases {hook : Option (Hook W)}
    (hhook : ∀ found, hook = some found → site.Spares found) (command : Command)
    (scene : Scene W) :
    ∃ world, site.get world = site.get scene.world ∧
      ((Executor.consult hook command).perform scene = (.ok (), { scene with world := world }) ∨
        ∃ found panic, hook = some found ∧
          ((found command).perform scene.world).1 = .error panic ∧
          (Executor.consult hook command).perform scene =
            (.error panic, { scene with world := world })) := by
  cases hook with
  | none => exact ⟨scene.world, rfl, .inl rfl⟩
  | some found =>
    refine ⟨((found command).perform scene.world).2, hhook found rfl command scene.world, ?_⟩
    rw [Executor.consult, Scene.perform_perform]
    rcases hshown : ((found command).perform scene.world).1 with panic | ⟨⟩
    · exact .inr ⟨found, panic, rfl, hshown, rfl⟩
    · exact .inl rfl

/-- The steps before the backend is called. -/
theorem prepare_cases (hserves : site.Serves scene.executor)
    (hsound : (site.get scene.world).1.Sound) (sql : String) (supplied : List Parameter)
    (code : String) (operation : Operation) :
    ∃ left, (∃ command, (Executor.prepare sql supplied code).perform scene =
          (.ok (.ok command), left) ∧
        command.sql = sql ∧ command.parameters = Inference.infer sql supplied ∧
        Alike scene.executor left.executor ∧
        (site.ensured scene.world).1.database.isSome = true ∧
        site.get left.world = site.ensured scene.world) ∨
      (∃ e, (Executor.prepare sql supplied code).perform scene = (.ok (.error e), left) ∧
        Answered site scene sql supplied operation (.ok (.error e)) left) ∨
      ∃ panic, (Executor.prepare sql supplied code).perform scene = (.error panic, left) ∧
        HookPanics scene.executor panic := by
  have hstate := Action.perform_ofState (Executor.ready sql supplied code) scene
  obtain ⟨left, hready⟩ := ready_cases hserves hsound sql supplied code operation
  rcases hready with ⟨halike, hready, hdatabase, hget⟩ | ⟨e, hready, hanswered⟩
  · rw [hready] at hstate
    let command := left.executor.commandFor sql supplied (left.executor.transaction.map (·.id))
    obtain ⟨world, hworld, hconsult⟩ :=
      consult_cases (hserves.of_alike halike).before command left
    refine ⟨{ left with world := world }, ?_⟩
    rw [Executor.prepare, Action.perform_bind_of_ok hstate]
    have hget' : (get : Action (Scene W) (Scene W)).perform left = (.ok left, left) := rfl
    simp only
    rw [Action.perform_bind_of_ok hget']
    rcases hconsult with hok | ⟨hook, panic, hhook, hshown, herror⟩
    · rw [Action.perform_bind_of_ok hok]
      exact .inl ⟨command, rfl, rfl, rfl, halike, hdatabase, hworld.trans hget⟩
    · rw [Action.perform_bind_of_error herror]
      rw [halike.before] at hhook
      exact .inr (.inr ⟨panic, rfl, hook, command, left.world, .inl hhook, hshown⟩)
  · rw [hready] at hstate
    refine ⟨left, .inr (.inl ⟨e, ?_, hanswered⟩)⟩
    rw [Executor.prepare, Action.perform_bind_of_ok hstate]
    rfl

/-- The call of the backend. -/
theorem dispatch_of_database {command : Command} {operation : Operation}
    (hserves : site.Serves scene.executor) {c : Connection} {disk : Disk} {opened : OpenDatabase}
    (hthere : site.get scene.world = (c, disk)) (hopened : c.database = some opened)
    {supplied : List Parameter}
    (hparameters : command.parameters = Inference.infer command.sql supplied)
    {after : Handle} {result : Except SqlError (List DataTable)}
    (hbatch : batch supplied (statements command.sql) (disk.load opened) = (after, result)) :
    (Scene.perform (Executor.dispatch scene.executor.backend command operation)).perform scene =
      (.ok (match result with
        | .ok tables => .ok (Connection.Outcome.output operation
            ⟨tables, after.changes - (disk.load opened).changes⟩)
        | .error e => .error (.execute e.display)),
      { scene with
        world := site.set (c.keep disk { opened with handle := after }) scene.world }) := by
  have hrun := Connection.run_of_database site command hthere hopened
  rw [hparameters] at hrun
  -- The parameters that were inferred change nothing of the batch.
  simp only [batch_infer, hbatch] at hrun
  rw [Scene.perform_perform, hserves.backend, Connection.perform_dispatch, hrun]
  cases result with
  | error e => rfl
  | ok tables => rfl

/-- **An answered call has run its batch once on the database as it was found**, unless it could
not be opened. -/
theorem execute_answered (hserves : site.Serves scene.executor)
    (hsound : (site.get scene.world).1.Sound) (sql : String) (supplied : List Parameter)
    (code : String) (operation : Operation) :
    Answered site scene sql supplied operation
      ((Executor.execute sql supplied code operation).perform scene).1
      ((Executor.execute sql supplied code operation).perform scene).2 := by
  obtain ⟨ready, hprepare⟩ := prepare_cases hserves hsound sql supplied code operation
  rw [Executor.execute]
  rcases hprepare with ⟨command, hprepare, hsql, hparameters, halike, hdatabase, hget⟩ |
    ⟨e, hprepare, hanswered⟩ | ⟨panic, hprepare, hpanics⟩
  · have hready := hserves.of_alike halike
    rw [Action.perform_bind_of_ok hprepare]
    have hget' : (get : Action (Scene W) (Scene W)).perform ready = (.ok ready, ready) := rfl
    simp only
    rw [Action.perform_bind_of_ok hget']
    obtain ⟨opened, hopened⟩ := Option.isSome_iff_exists.mp hdatabase
    rcases hensured : site.ensured scene.world with ⟨c, disk⟩
    rw [hensured] at hget hopened
    subst hsql
    rcases hbatch : batch supplied (statements command.sql) (disk.load opened) with ⟨after, result⟩
    rw [Action.perform_bind_of_ok (dispatch_of_database hready hget hopened hparameters hbatch)]
    have hkept := hready.get_set (c.keep disk { opened with handle := after }) ready.world
    -- The hook behind the backend is shown the command only if that went well.
    cases result with
    | error e => exact .ran hready halike.transaction hensured hopened hbatch hkept ⟨_, rfl⟩
    | ok tables =>
      let ran : Scene W := { ready with
        world := site.set (c.keep disk { opened with handle := after }) ready.world }
      obtain ⟨world, hworld, hconsult⟩ := consult_cases hready.after command ran
      have hget' : (get : Action (Scene W) (Scene W)).perform ran = (.ok ran, ran) := rfl
      simp only [Executor.finish]
      rw [Action.perform_bind_of_ok hget']
      rcases hconsult with hok | ⟨hook, panic, hhook, hshown, herror⟩
      · rw [Action.perform_bind_of_ok hok]
        exact .ran hready halike.transaction hensured hopened hbatch (hworld.trans hkept) rfl
      · rw [Action.perform_bind_of_error herror]
        rw [halike.after] at hhook
        exact .panicked ⟨hook, command, ran.world, .inr hhook, hshown⟩ _
  · rw [Action.perform_bind_of_ok hprepare]
    exact hanswered
  · rw [Action.perform_bind_of_error hprepare]
    exact .panicked hpanics ready

/-- Taking a part of what a call gave. -/
theorem perform_part {α : Type} (call : Action (Scene W) (Result Output))
    (part : Output → Result α) (scene : Scene W) :
    (do return (← call).bind part : Action (Scene W) (Result α)).perform scene =
      ((call.perform scene).1.map (·.bind part), (call.perform scene).2) := by
  rcases hcall : call.perform scene with ⟨panic | answer, left⟩
  · exact Action.perform_bind_of_error hcall _
  · exact Action.perform_bind_of_ok hcall _

/-- What a call gave of which a part was taken. -/
theorem eq_ok_of_part {α : Type} {answer : Except Panic (Result Output)}
    {part : Output → Result α} {a : α} (h : answer.map (·.bind part) = .ok (.ok a)) :
    ∃ output, answer = .ok (.ok output) ∧ part output = .ok a := by
  rcases answer with panic | e | output
  · cases h
  · cases h
  · exact ⟨output, rfl, Except.ok.inj h⟩

section

variable {sql : String} {supplied : List Parameter} {code : String} {operation : Operation}

theorem execute_eq_ok (hserves : site.Serves scene.executor)
    (hsound : (site.get scene.world).1.Sound) {output : Output}
    (houtput : ((Executor.execute sql supplied code operation).perform scene).1 =
      .ok (.ok output)) :
    ∃ opened after tables, (site.ensured scene.world).1.database = some opened ∧
      batch supplied (statements sql) ((site.ensured scene.world).2.load opened) =
        (after, .ok tables) ∧
      output = Connection.Outcome.output operation
        ⟨tables, after.changes - ((site.ensured scene.world).2.load opened).changes⟩ ∧
      site.get ((Executor.execute sql supplied code operation).perform scene).2.world =
        (site.ensured scene.world).1.keep (site.ensured scene.world).2
          { opened with handle := after } := by
  have hanswered := execute_answered hserves hsound sql supplied code operation
  rcases hexecute : (Executor.execute sql supplied code operation).perform scene with
    ⟨outcome, left⟩
  rw [hexecute] at houtput hanswered
  cases hanswered with
  | panicked hpanics => cases houtput
  | lost hactive hclosed => cases houtput
  | unopened hleft htransaction hdatabase hthere e => cases houtput
  | @ran _ c disk opened after result answer hleft htransaction hensured hopened hbatch hthere
      hanswer =>
    rw [hensured]
    cases result with
    | error e =>
      obtain ⟨failure, rfl⟩ := hanswer
      cases houtput
    | ok tables =>
      obtain rfl := hanswer
      exact ⟨opened, after, tables, hopened, hbatch,
        (Except.ok.inj (Except.ok.inj houtput)).symm, hthere⟩

/-- A batch that goes well is answered, unless a hook panics or the connection was lost under a
transaction. -/
theorem execute_of_batch (hserves : site.Serves scene.executor)
    (hsound : (site.get scene.world).1.Sound) (hquiet : ∀ panic, ¬HookPanics scene.executor panic)
    (hfound : scene.executor.isActive = true → (site.get scene.world).1.state = .open)
    {opened : OpenDatabase} (hopened : (site.ensured scene.world).1.database = some opened)
    {after : Handle} {tables : List DataTable}
    (hbatch : batch supplied (statements sql) ((site.ensured scene.world).2.load opened) =
      (after, .ok tables)) :
    ((Executor.execute sql supplied code operation).perform scene).1 =
      .ok (.ok (Connection.Outcome.output operation
        ⟨tables, after.changes - ((site.ensured scene.world).2.load opened).changes⟩)) := by
  have hanswered := execute_answered hserves hsound sql supplied code operation
  rcases hexecute : (Executor.execute sql supplied code operation).perform scene with
    ⟨outcome, left⟩
  rw [hexecute] at hanswered
  cases hanswered with
  | panicked hpanics => exact absurd hpanics (hquiet _)
  | lost hactive hclosed => exact absurd (hfound hactive) hclosed
  | unopened hleft htransaction hdatabase hthere e => cases hdatabase.symm.trans hopened
  | @ran _ c disk opened' after' result answer hleft htransaction hensured hopened' hbatch' hthere
      hanswer =>
    rw [hensured] at hopened hbatch ⊢
    obtain rfl := Option.some.inj (hopened'.symm.trans hopened)
    obtain ⟨rfl, rfl⟩ := Prod.mk.inj (hbatch'.symm.trans hbatch)
    rw [hanswer]

/-! ## Scalars and counts -/

/-- What a scalar is taken from. -/
def firstValue (tables : List DataTable) : Value := Connection.Outcome.firstValue ⟨tables, 0⟩

theorem scalar_eq_ok (hserves : site.Serves scene.executor)
    (hsound : (site.get scene.world).1.Sound) {value : Value}
    (hvalue : ((Executor.scalar sql supplied).perform scene).1 = .ok (.ok value)) :
    ∃ opened after tables, (site.ensured scene.world).1.database = some opened ∧
      batch supplied (statements sql) ((site.ensured scene.world).2.load opened) =
        (after, .ok tables) ∧
      value = firstValue tables ∧
      site.get ((Executor.scalar sql supplied).perform scene).2.world =
        (site.ensured scene.world).1.keep (site.ensured scene.world).2
          { opened with handle := after } := by
  rw [Executor.scalar, perform_part] at hvalue ⊢
  obtain ⟨output, houtput, htaken⟩ := eq_ok_of_part hvalue
  obtain ⟨opened, after, tables, hopened, hbatch, rfl, hthere⟩ :=
    execute_eq_ok hserves hsound houtput
  exact ⟨opened, after, tables, hopened, hbatch, (Except.ok.inj htaken).symm, hthere⟩

/-- A batch that goes well gives a scalar, unless a hook panics or the connection was lost under a
transaction. -/
theorem scalar_of_batch (hserves : site.Serves scene.executor)
    (hsound : (site.get scene.world).1.Sound) (hquiet : ∀ panic, ¬HookPanics scene.executor panic)
    (hfound : scene.executor.isActive = true → (site.get scene.world).1.state = .open)
    {opened : OpenDatabase} (hopened : (site.ensured scene.world).1.database = some opened)
    {tables : List DataTable}
    (hbatch : (batch supplied (statements sql) ((site.ensured scene.world).2.load opened)).2 =
      .ok tables) :
    ((Executor.scalar sql supplied).perform scene).1 = .ok (.ok (firstValue tables)) := by
  rw [Executor.scalar, perform_part,
    execute_of_batch hserves hsound hquiet hfound hopened (Prod.ext rfl hbatch)]
  rfl

theorem nonQuery_eq_ok (hserves : site.Serves scene.executor)
    (hsound : (site.get scene.world).1.Sound) {count : UInt64}
    (hcount : ((Executor.nonQuery sql supplied).perform scene).1 = .ok (.ok count)) :
    ∃ opened after tables, (site.ensured scene.world).1.database = some opened ∧
      batch supplied (statements sql) ((site.ensured scene.world).2.load opened) =
        (after, .ok tables) ∧
      count = .ofNat (after.changes - ((site.ensured scene.world).2.load opened).changes) ∧
      site.get ((Executor.nonQuery sql supplied).perform scene).2.world =
        (site.ensured scene.world).1.keep (site.ensured scene.world).2
          { opened with handle := after } := by
  rw [Executor.nonQuery, perform_part] at hcount ⊢
  obtain ⟨output, houtput, htaken⟩ := eq_ok_of_part hcount
  obtain ⟨opened, after, tables, hopened, hbatch, rfl, hthere⟩ :=
    execute_eq_ok hserves hsound houtput
  exact ⟨opened, after, tables, hopened, hbatch, (Except.ok.inj htaken).symm, hthere⟩

theorem nonQuery_of_batch (hserves : site.Serves scene.executor)
    (hsound : (site.get scene.world).1.Sound) (hquiet : ∀ panic, ¬HookPanics scene.executor panic)
    (hfound : scene.executor.isActive = true → (site.get scene.world).1.state = .open)
    {opened : OpenDatabase} (hopened : (site.ensured scene.world).1.database = some opened)
    {after : Handle} {tables : List DataTable}
    (hbatch : batch supplied (statements sql) ((site.ensured scene.world).2.load opened) =
      (after, .ok tables)) :
    ((Executor.nonQuery sql supplied).perform scene).1 =
      .ok (.ok (.ofNat (after.changes - ((site.ensured scene.world).2.load opened).changes))) := by
  rw [Executor.nonQuery, perform_part,
    execute_of_batch hserves hsound hquiet hfound hopened hbatch]
  rfl

end

/-! ## Beginning a transaction -/

theorem begin_of_refused [IdSource W] (hserves : site.Serves scene.executor)
    (hidle : scene.executor.transaction = none) {c : Connection} {disk : Disk}
    {opened : OpenDatabase} (hthere : site.get scene.world = (c, disk)) (hsound : c.Sound)
    (hopened : c.database = some opened) (isolation : Option IsolationLevel) {e : SqlError}
    (hrun : ((Program.begin (Connection.lockOf isolation)).run (disk.load opened) []).2 =
      .error e) :
    ((Executor.begin isolation).run scene).1 = .error (.transaction (.transaction e.display)) := by
  have hsound' : (site.get scene.world).1.Sound := by rwa [hthere]
  have hdatabase : (site.get scene.world).1.database.isSome = true := by
    rw [hthere, hopened]
    rfl
  obtain ⟨left, hensure, -, hleft⟩ := ensureOpen_run hserves hsound'
  rw [establish_of_database hdatabase] at hensure
  rw [Site.ensured, establish_of_database hdatabase, hthere] at hleft
  have hinactive : ¬scene.executor.isActive = true := by
    rw [Executor.isActive, hidle]
    exact Bool.false_ne_true
  have hact : ((Scene.act (scene.executor.backend.begin isolation)).run left).1 =
      .error (.transaction e.display) := by
    rw [hserves.backend]
    change ((Connection.transact (.begin (Connection.lockOf isolation))).run
      (site.get left.world)).1 = _
    rw [hleft, Connection.transact_of_found hopened, hrun]
  rw [Executor.begin, run_bind, run_get, if_neg hinactive, run_bind, hensure]
  simp only [Except.mapError]
  rw [run_bind, hact]
  rfl

end

end Sqlite
end SqlGateway
