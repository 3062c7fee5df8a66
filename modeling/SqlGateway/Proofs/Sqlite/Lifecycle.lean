import SqlGateway.Proofs.Sqlite.Beside
import SqlGateway.Proofs.Trace.Recorder

/-!
# Open and closed connections

Whether a connection is open is noted three times: there is a database or none, the connection
reports that it is open or not, and there is something to interrupt a statement with or not. Opening
and closing see to all three, also when they fail, and nothing else touches the last two. So the
three agree after any calls, and what is reported can be trusted.

## What happens elsewhere

A connection is alone in holding its database, but not in the world. Others may write and lock the
same files between two calls, and so may whoever reads the token of a call; `T` stands for all that
is neither the connection nor the files. None of them can reach the connection.
-/

namespace SqlGateway.Sqlite

open Trace

variable {T : Type}

/-! ## Calls -/

/-- A place for a connection with the files, beside the rest of the world. -/
def Site.beside : Site ((Connection × Disk) × T) := ⟨Prod.fst, fun there world ↦ (there, world.2)⟩

namespace Connection

/-- A step that does not reach the connection. -/
def elsewhere {α : Type} (step : StateM (Disk × T) α) : StateM ((Connection × Disk) × T) α :=
  fun ((c, disk), rest) ↦
    let (a, (disk, rest)) := step.run (disk, rest)
    (a, ((c, disk), rest))

/-- A call of a connection. -/
inductive Call (T : Type) where
  | «open»
  /-- The database may refuse to be closed while a statement is left. -/
  | close (answer : Except SqlError Unit)
  | begin (isolation : Option IsolationLevel)
  | commit
  | rollback
  | execute (service : Service) (command : Command) (token : Cancellation (Disk × T))

/-- Whether a call came off, whatever it gave. -/
def answered {W α : Type} (action : Action W (BackendResult α)) :
    Action W (BackendResult Unit) := do
  return (← action).map fun _ ↦ ()

/-- Execute a command by one of the services of a backend. Work is awaited. -/
def serve {W : Type} (backend : Backend W) (command : Command) (token : Cancellation W) :
    Service → Action W (BackendResult Unit)
  | .scalar => answered (backend.scalar command)
  | .nonQuery => answered (backend.nonQuery command)
  | .reader => answered (backend.reader command)
  | .fill => answered (backend.fill command)
  | .fillCancellable => answered (backend.fillCancellable command token).await
  | .scalarAsync => answered (backend.scalarAsync command token).await
  | .nonQueryAsync => answered (backend.nonQueryAsync command token).await
  | .readerAsync => answered (backend.readerAsync command token).await

/-- Make a call. -/
def Call.action : Call T → Action ((Connection × Disk) × T) (BackendResult Unit)
  | .open => .ofState (backend .beside).establish
  | .close answer => .ofState (Site.beside.act (closing answer))
  | .begin isolation => .ofState ((backend .beside).begin isolation)
  | .commit => .ofState (backend .beside).commit
  | .rollback => .ofState (backend .beside).rollback
  | .execute service command token => serve (backend .beside) command (elsewhere token) service

/-- Whether a call is of use on an open connection only. -/
def Call.NeedsDatabase : Call T → Prop
  | .open | .close _ => False
  | .begin _ | .commit | .rollback | .execute .. => True

/-- Where calls lead, with something happening elsewhere before each of them. -/
def last (calls : List (StateM (Disk × T) Unit × Call T)) (world : (Connection × Disk) × T) :
    (Connection × Disk) × T :=
  calls.foldl
    (fun world call ↦ (call.2.action.perform ((elsewhere call.1).run world).2).2) world

/-! ## Executions -/

theorem perform_answered {W α : Type} (part : Outcome → α) (site : Site W)
    (token : Cancellation W) (command : Command) {action : Action W (BackendResult α)} {world : W}
    (h : action.perform world =
      (.ok ((runFor site part token command).run world).1,
        ((runFor site part token command).run world).2)) :
    (answered action).perform world =
      (.ok ((run site token command world).1.map fun _ ↦ ()),
        (run site token command world).2) := by
  have hrun : (runFor site part token command).run world =
      ((run site token command world).1.map part, (run site token command world).2) := rfl
  rw [hrun] at h
  rw [answered, Action.perform_bind_of_ok h]
  rcases run site token command world with ⟨e | outcome, left⟩
  · rfl
  · rfl

theorem elsewhere_uncancelled : elsewhere (T := T) uncancelled = uncancelled := rfl

/-- An execution runs its command once, and its token is read elsewhere if at all. -/
theorem perform_execute (service : Service) (command : Command) (token : Cancellation (Disk × T))
    (world : (Connection × Disk) × T) : ∃ token' : Cancellation (Disk × T),
      (Call.execute service command token).action.perform world =
        (.ok ((run .beside (elsewhere token') command world).1.map fun _ ↦ ()),
          (run .beside (elsewhere token') command world).2) := by
  have hplain {α : Type} (part : Outcome → α) :
      (answered (.ofState (runFor .beside part uncancelled command))).perform world =
        (.ok ((run .beside (elsewhere uncancelled) command world).1.map fun _ ↦ ()),
          (run .beside (elsewhere uncancelled) command world).2) := by
    rw [elsewhere_uncancelled]
    exact perform_answered part .beside uncancelled command rfl
  cases service with
  | scalar => exact ⟨uncancelled, hplain Outcome.firstValue⟩
  | nonQuery => exact ⟨uncancelled, hplain Outcome.rowsAffected⟩
  | reader => exact ⟨uncancelled, hplain Outcome.firstTable⟩
  | fill => exact ⟨uncancelled, hplain Outcome.tables⟩
  | fillCancellable => exact ⟨token, perform_answered Outcome.tables .beside _ command rfl⟩
  | scalarAsync => exact ⟨token, perform_answered Outcome.firstValue .beside _ command rfl⟩
  | nonQueryAsync => exact ⟨token, perform_answered Outcome.rowsAffected .beside _ command rfl⟩
  | readerAsync => exact ⟨token, perform_answered Outcome.firstTable .beside _ command rfl⟩

/-! ## Three notes of one fact -/

/-- What a connection reports, and whether it has anything to interrupt, agrees with whether it has
a database. -/
structure Mirrored (c : Connection) : Prop where
  sound : c.Sound
  interruptible_eq : c.interruptible = c.database.isSome

namespace Mirrored

variable {c : Connection} {disk : Disk} {opened : OpenDatabase}

theorem ofPath (path : String) : (Connection.ofPath path).Mirrored := ⟨rfl, rfl⟩

theorem holding (c : Connection) (opened : OpenDatabase) : (c.holding opened).Mirrored := ⟨rfl, rfl⟩

theorem state_eq_open_iff (h : c.Mirrored) : c.state = .open ↔ c.database.isSome = true := by
  rw [state, ← h.sound]
  cases c.isOpen with
  | true => simp
  | false => simp

theorem database_eq_none (h : c.Mirrored) (hclosed : c.state = .closed) : c.database = none := by
  refine Option.not_isSome_iff_eq_none.mp fun hsome ↦ ?_
  rw [h.state_eq_open_iff.mpr hsome] at hclosed
  cases hclosed

/-- There is only one way to be closed. -/
theorem eq_ofPath (h : c.Mirrored) (hnone : c.database = none) : c = .ofPath c.path := by
  obtain ⟨hsound, hinterruptible⟩ := h
  rw [Sound, hnone] at hsound
  rw [hnone] at hinterruptible
  obtain ⟨path, database, isOpen, interruptible⟩ := c
  obtain rfl : database = none := hnone
  obtain rfl : isOpen = false := hsound
  obtain rfl : interruptible = false := hinterruptible
  rfl

/-- A call of an open connection leaves it open. -/
theorem keep (h : c.Mirrored) (hsome : c.database.isSome = true) (disk : Disk)
    (opened : OpenDatabase) : (c.keep disk opened).1.Mirrored :=
  ⟨h.sound.trans hsome, h.interruptible_eq.trans hsome⟩

theorem establish (h : c.Mirrored) (disk : Disk) :
    (Connection.establish.run (c, disk)).2.1.Mirrored := by
  obtain ⟨answer, left, hrun, hestablishing⟩ := establish_establishing (c, disk)
  rw [hrun]
  cases hestablishing with
  | held => exact h
  | opened => exact holding c _
  | failed => exact h

theorem closing_eq (h : c.Mirrored) (answer : Except SqlError Unit) (disk : Disk) :
    ((closing answer).run (c, disk)).2.1 = .ofPath c.path := by
  cases hdatabase : c.database with
  | none =>
    rw [closing_of_none hdatabase]
    exact h.eq_ofPath hdatabase
  | some opened => rw [closing_of_found hdatabase]

theorem transact (h : c.Mirrored) (program : Program) (disk : Disk) :
    ((Connection.transact program).run (c, disk)).2.1.Mirrored := by
  cases hdatabase : c.database with
  | none => rwa [transact_of_none hdatabase]
  | some opened =>
    rw [transact_of_found hdatabase]
    exact h.keep (Option.isSome_of_eq_some hdatabase) _ _

theorem run {world : (Connection × Disk) × T} (h : world.1.1.Mirrored)
    (token : Cancellation (Disk × T)) (command : Command) :
    (Connection.run .beside (elsewhere token) command world).2.1.1.Mirrored := by
  cases hdatabase : world.1.1.database with
  | none => rwa [run_of_none .beside (elsewhere token) command hdatabase]
  | some opened =>
    have hkeep := h.keep (Option.isSome_of_eq_some hdatabase)
    rw [run_of_found .beside (elsewhere token) command hdatabase]
    -- What the statements gave does not matter, and neither does the token.
    dsimp only
    split
    · exact hkeep world.1.2 _
    · exact hkeep world.1.2 { opened with handle := _ }

end Mirrored

/-! ## Single calls -/

section

variable {world : (Connection × Disk) × T}

/-- A step of the connection does not reach what is beside it. -/
theorem perform_act {α : Type} (step : StateM (Connection × Disk) α)
    (world : (Connection × Disk) × T) :
    (Action.ofState (Site.beside.act step)).perform world =
      (.ok (step.run world.1).1, ((step.run world.1).2, world.2)) := rfl

/-- **Every call keeps the three notes in agreement.** -/
theorem Call.mirrored (call : Call T) (h : world.1.1.Mirrored) :
    (call.action.perform world).2.1.1.Mirrored := by
  cases call with
  | «open» => exact h.establish world.1.2
  | close answer =>
    have hleft : ((Call.close answer).action.perform world).2.1.1 = .ofPath world.1.1.path :=
      h.closing_eq answer world.1.2
    rw [hleft]
    exact .ofPath _
  | begin isolation => exact h.transact (.begin (lockOf isolation)) world.1.2
  | commit => exact h.transact .commit world.1.2
  | rollback => exact h.transact .rollback world.1.2
  | execute service command token =>
    obtain ⟨token', hperform⟩ := perform_execute service command token world
    rw [hperform]
    exact h.run token' command

/-- Without a database a call that needs one is refused, and nothing has happened. -/
theorem Call.refused {call : Call T} (hneeds : call.NeedsDatabase)
    (hnone : world.1.1.database = none) :
    call.action.perform world = (.ok (.error .closed), world) := by
  have htransact (program : Program) :
      (Action.ofState (Site.beside.act (transact program))).perform world =
        (.ok (.error .closed), world) := by
    rw [perform_act, transact_of_none hnone]
  cases call with
  | «open» => cases hneeds
  | close => cases hneeds
  | begin isolation => exact htransact (.begin (lockOf isolation))
  | commit => exact htransact .commit
  | rollback => exact htransact .rollback
  | execute service command token =>
    obtain ⟨token', hperform⟩ := perform_execute service command token world
    rw [hperform, run_of_none .beside _ command hnone]
    rfl

theorem perform_open_of_database (hsome : world.1.1.database.isSome = true) :
    (Call.open (T := T)).action.perform world = (.ok (.ok ()), world) := by
  have hact := perform_act establish world
  rw [establish_of_database hsome] at hact
  exact hact

theorem perform_close_of_none (answer : Except SqlError Unit)
    (hnone : world.1.1.database = none) :
    (Call.close answer).action.perform world = (.ok (.ok ()), world) := by
  have hact := perform_act (closing answer) world
  rw [closing_of_none hnone] at hact
  exact hact

/-- An opening that fails was one of a closed connection, and nothing has happened. -/
theorem eq_of_perform_open_eq_error {e : BackendError} {left : (Connection × Disk) × T}
    (h : (Call.open (T := T)).action.perform world = (.ok (.error e), left)) :
    world.1.1.database = none ∧ left = world := by
  have hact := (perform_act establish world).symm.trans h
  obtain ⟨answer, there, hrun, hestablishing⟩ := establish_establishing world.1
  rw [hrun] at hact
  cases hestablishing with
  | held => cases hact
  | opened => cases hact
  | failed hnone => exact ⟨hnone, (Prod.mk.inj hact).2.symm⟩

theorem perform_close_of_database {e : SqlError} (hsome : world.1.1.database.isSome = true) :
    ((Call.close (.error e)).action.perform world).1 = .ok (.error ⟨.closed, e.display⟩) := by
  obtain ⟨opened, hopened⟩ := Option.isSome_iff_exists.mp hsome
  have hact := perform_act (closing (.error e)) world
  rw [closing_of_found hopened] at hact
  exact congrArg Prod.fst hact

end

/-! ## Any calls -/

/-- What can be relied on in a world, whatever is called next. -/
structure Reliable (world : (Connection × Disk) × T) : Prop where
  state_iff : world.1.1.state = .open ↔ world.1.1.database.isSome = true
  interruptible_iff : world.1.1.interruptible = true ↔ world.1.1.database.isSome = true
  /-- An open connection is not opened again, and keeps what it has. -/
  open_of_open : world.1.1.state = .open → Call.open.action.perform world = (.ok (.ok ()), world)
  close_of_closed : world.1.1.state = .closed →
    ∀ answer, (Call.close answer).action.perform world = (.ok (.ok ()), world)
  open_failed : ∀ e left, Call.open.action.perform world = (.ok (.error e), left) →
    left = world ∧ left.1.1.state = .closed
  /-- A database that is not closed well is answered as an error. -/
  close_failed : world.1.1.state = .open → ∀ e,
    ((Call.close (.error e)).action.perform world).1 = .ok (.error ⟨.closed, e.display⟩)
  /-- A connection is closed by its closing, whatever that answers. -/
  close_left : ∀ answer,
    ((Call.close answer).action.perform world).2.1.1 = ofPath world.1.1.path
  refused : world.1.1.state = .closed → ∀ call : Call T, call.NeedsDatabase →
    call.action.perform world = (.ok (.error .closed), world)

theorem Mirrored.reliable {world : (Connection × Disk) × T} (h : world.1.1.Mirrored) :
    Reliable world where
  state_iff := h.state_eq_open_iff
  interruptible_iff := by rw [h.interruptible_eq]
  open_of_open hopen := perform_open_of_database (h.state_eq_open_iff.mp hopen)
  close_of_closed hclosed answer := perform_close_of_none answer (h.database_eq_none hclosed)
  open_failed e left hfailed := by
    obtain ⟨hnone, rfl⟩ := eq_of_perform_open_eq_error hfailed
    rw [h.eq_ofPath hnone]
    exact ⟨rfl, rfl⟩
  close_failed hopen e := perform_close_of_database (h.state_eq_open_iff.mp hopen)
  close_left answer := h.closing_eq answer world.1.2
  refused hclosed call hneeds := call.refused hneeds (h.database_eq_none hclosed)

theorem mirrored_last (calls : List (StateM (Disk × T) Unit × Call T))
    {world : (Connection × Disk) × T} (h : world.1.1.Mirrored) :
    (last calls world).1.1.Mirrored := by
  induction calls generalizing world with
  | nil => exact h
  | cons call calls ih =>
    have helsewhere : ((elsewhere call.1).run world).2.1.1 = world.1.1 := rfl
    rw [← helsewhere] at h
    exact ih (call.2.mirrored h)

/-- **A connection can be relied on after any calls.** -/
theorem reliable_last (path : String) (disk : Disk) (rest : T)
    (calls : List (StateM (Disk × T) Unit × Call T)) :
    Reliable (last calls ((ofPath path, disk), rest)) :=
  (mirrored_last calls (Mirrored.ofPath path)).reliable

/-- A database in memory keeps the transaction that was begun when its connection is opened
again. -/
theorem reliable_last_begun :
    let calls : List (StateM (Disk × Unit) Unit × Call Unit) :=
      [(pure (), .open), (pure (), .begin none)]
    let world := last calls ((ofPath ":memory:", .ofDirectories []), ())
    (∃ opened, world.1.1.database = some opened ∧ opened.handle.transaction.isSome = true) ∧
      Call.open.action.perform world = (.ok (.ok ()), world) := by
  intro calls world
  have hopen : world.1.1.state = .open := by decide +kernel
  refine ⟨⟨_, rfl, by decide +kernel⟩, ?_⟩
  exact (reliable_last ":memory:" (.ofDirectories []) () calls).open_of_open hopen

end Connection

end SqlGateway.Sqlite
