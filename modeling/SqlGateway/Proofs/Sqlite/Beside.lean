import SqlGateway.Proofs.Execution.Uses
import SqlGateway.Proofs.Sqlite.Keeping
import SqlGateway.Proofs.Sqlite.Within

/-!
# A connection in a transaction beside one without

The same commands are run by the backend of a connection in two worlds, where in the second one a
transaction was begun before. `Beside` is the invariant of the two. It puts the databases side by
side as they are loaded before the next call, and says of all others, and of what is kept of this
one, which tables they have. Of the rest of the worlds it says that they are the same.

Every function of the backend keeps it and answers alike, also if a token ends the call.
-/

namespace SqlGateway

open Abreast

variable {W X : Type}

namespace Sqlite

/-! ## What is seen of a database -/

/-- The database of a connection as its next call finds it. -/
def Connection.seen (there : Connection × Disk) : Option Handle :=
  there.1.database.map there.2.load

/-- A connection that has come from `start`, where `opened` was its database, and has seen to it
that it finds `handle`. It is the only one that has changed anything. -/
structure Holding (start : Connection × Disk) (opened : OpenDatabase) (handle : Handle)
    (there : Connection × Disk) : Prop where
  connection : ∃ h, there.1 = { start.1 with database := some { opened with handle := h } } ∧
    there.2.load { opened with handle := h } = handle
  tables : ∀ residence, there.2.tables? residence =
    if residence = opened.residence then (start.2.tables? residence).map fun _ ↦ handle.committed
    else start.2.tables? residence

namespace Holding

variable {start there : Connection × Disk} {opened : OpenDatabase} {handle after : Handle}

theorem refl (hopened : start.1.database = some opened)
    (hrival : (start.2.load opened).rival = none) :
    Holding start opened (start.2.load opened) start where
  connection := ⟨opened.handle, by rw [← hopened], rfl⟩
  tables residence := by
    split
    · next heq =>
      subst heq
      cases htables : start.2.tables? opened.residence with
      | none => rfl
      | some store => rw [Option.map_some, Disk.committed_load hrival htables]
    · rfl

theorem seen (h : Holding start opened handle there) : Connection.seen there = some handle := by
  obtain ⟨⟨stored, hconnection, hload⟩, -⟩ := h
  rw [Connection.seen, hconnection, Option.map_some, hload]

theorem database (h : Holding start opened handle there) :
    ∃ found, there.1.database = some found ∧ there.2.load found = handle := by
  obtain ⟨⟨stored, hconnection, hload⟩, -⟩ := h
  exact ⟨_, by rw [hconnection], hload⟩

theorem tables_eq {there' : Connection × Disk} {handle' : Handle}
    (h : Holding start opened handle there) (h' : Holding start opened handle' there')
    (hcommitted : handle.committed = handle'.committed) (residence : Residence) :
    there.2.tables? residence = there'.2.tables? residence := by
  rw [h.tables, h'.tables, hcommitted]

/-- A call leaves what it made of the database. -/
theorem keep (h : Holding start opened handle there) (hrival : handle.rival = none)
    {found : OpenDatabase} (hfound : there.1.database = some found) (hafter : after.rival = none) :
    Holding start opened after (there.1.keep there.2 { found with handle := after }) := by
  obtain ⟨⟨stored, hconnection, hload⟩, htables⟩ := h
  rw [hconnection] at hfound
  obtain rfl := Option.some.inj hfound
  refine ⟨⟨after, by rw [Connection.keep, hconnection], ?_⟩, fun residence ↦ ?_⟩
  · exact Disk.load_save (by rw [hload, hrival]) hafter
  · refine (Disk.tables?_save hafter residence).trans ?_
    rw [htables]
    split
    · rw [Option.map_map]
      rfl
    · rfl

/-- What a program that begins or ends a transaction does to the database. -/
theorem run_transact (h : Holding start opened handle there) (program : Program) :
    ∃ found, there.1.database = some found ∧ (Connection.transact program).run there =
      (match (program.run handle []).2 with
        | .ok _ => .ok ()
        | .error e => .error (.transaction e.display),
      there.1.keep there.2 { found with handle := (program.run handle []).1 }) := by
  obtain ⟨found, hfound, hload⟩ := h.database
  have htransact := Connection.transact_of_found hfound program
  rw [hload] at htransact
  exact ⟨found, hfound, htransact⟩

theorem transact (h : Holding start opened handle there) (hrival : handle.rival = none)
    {program : Program} {rows : List (List Cell)} (hrun : program.run handle [] = (after, .ok rows))
    (hafter : after.rival = none) :
    ((Connection.transact program).run there).1 = .ok () ∧
      Holding start opened after ((Connection.transact program).run there).2 := by
  obtain ⟨found, hfound, htransact⟩ := h.run_transact program
  rw [htransact, hrun]
  exact ⟨rfl, h.keep hrival hfound hafter⟩

/-- A file that is closed has what was committed to it. -/
theorem close (h : Holding start opened handle there) (hrival : handle.rival = none)
    {place : SqlGateway.Place} (hfile : opened.residence = .file place)
    (hthere : (start.2.tables? (.file place)).isSome = true) :
    (Connection.close.run there).2.2.Rests place handle.committed := by
  obtain ⟨store, hstore⟩ := Option.isSome_iff_exists.mp hthere
  have htables := h.tables (.file place)
  rw [if_pos hfile.symm, hstore, Option.map_some] at htables
  obtain ⟨⟨stored, hconnection, hload⟩, -⟩ := h
  have hdatabase : there.1.database = some { opened with handle := stored } := by rw [hconnection]
  rw [Connection.close, Connection.closing_of_found hdatabase]
  exact Disk.rests_close (by rw [hload, hrival]) hfile htables

end Holding

/-! ## The rest of the world -/

/-- What there is of a world besides a connection with its files and the ids that were drawn. -/
structure Site.Apart [IdSource W] (site : Site W) (outside : W → X) : Prop where
  set : ∀ there world, outside (site.set there world) = outside world
  draw : ∀ world, outside (IdSource.newId.run world).2 = outside world
  get_draw : ∀ world, site.get (IdSource.newId.run world).2 = site.get world

/-- A hook that looks at nothing but what is outside, and not at the transaction of a command. -/
def Overlooks (outside : W → X) (hook : Hook W) : Prop :=
  ∀ command transaction, Acts (fun v w ↦ outside v = outside w) Eq (hook command)
    (hook { command with transaction := transaction })

/-- A token that belongs to what is outside. -/
structure Site.Outer (site : Site W) (outside : W → X) (token : Cancellation W) : Prop where
  spares : ∀ world, site.get (token.run world).2 = site.get world
  alike : Steps (fun v w ↦ outside v = outside w) token token

theorem outer_uncancelled (site : Site W) (outside : W → X) :
    site.Outer outside Connection.uncancelled :=
  ⟨fun _ ↦ rfl, fun _ _ hworld ↦ ⟨rfl, hworld⟩⟩

/-- The worlds of two runs, without a transaction and with one. -/
structure Beside (site : Site W) (outside : W → X) (start : Connection × Disk)
    (opened : OpenDatabase) (v w : W) : Prop where
  outside : outside v = outside w
  within : ∃ plain inside, (start.2.load opened).Within plain inside ∧
    Holding start opened plain (site.get v) ∧ Holding start opened inside (site.get w)

namespace Beside

variable {site : Site W} {outside : W → X} {start : Connection × Disk} {opened : OpenDatabase}

theorem token {token : Cancellation W} (h : site.Outer outside token) :
    Steps (Beside site outside start opened) token token := by
  intro v w hworld
  obtain ⟨hfired, houtside⟩ := h.alike v w hworld.outside
  refine ⟨hfired, houtside, ?_⟩
  rw [h.spares, h.spares]
  exact hworld.within

theorem hook {hook : Hook W} (h : Overlooks outside hook) (hspares : site.Spares hook)
    (command : Command) (transaction : Option Uuid) :
    Acts (Beside site outside start opened) Eq (hook command)
      (hook { command with transaction := transaction }) := by
  intro v w hworld
  obtain ⟨houtcome, houtside⟩ := h command transaction v w hworld.outside
  refine ⟨houtcome, houtside, ?_⟩
  rw [hspares, hspares]
  exact hworld.within

/-- The connections stay open. -/
theorem state_eq_open {v w : W} (h : Beside site outside start opened v w)
    (hsound : start.1.Sound) (hopened : start.1.database = some opened) :
    (site.get v).1.state = .open ∧ (site.get w).1.state = .open := by
  obtain ⟨plain, inside, -, ⟨⟨stored, hplain, -⟩, -⟩, ⟨stored', hinside, -⟩, -⟩ := h.within
  have hopen : start.1.isOpen = true := by
    rw [hsound, hopened]
    rfl
  rw [hplain, hinside, Connection.state, Connection.state, if_pos hopen]
  exact ⟨rfl, rfl⟩

end Beside

/-- A command is not run on a closed connection. -/
theorem Connection.run_of_none (site : Site W) (token : Cancellation W) (command : Command)
    {world : W} (hnone : (site.get world).1.database = none) :
    Connection.run site token command world = (.error .closed, world) := by
  simp only [Connection.run]
  rw [hnone]

/-- What a command does to an open database. -/
theorem Connection.run_of_found (site : Site W) (token : Cancellation W) (command : Command)
    {world : W} {found : OpenDatabase} (hfound : (site.get world).1.database = some found) :
    Connection.run site token command world =
      let before := (site.get world).2.load found
      let walked := walk token command.parameters (statements command.sql) before world
      let left := site.set
        ((site.get world).1.keep (site.get world).2 { found with handle := walked.handle })
        walked.world
      match walked.result with
      | .ok tables => (.ok ⟨tables, walked.handle.changes - before.changes⟩, left)
      | .error e =>
        let (fired, left) := token.run left
        (.error (if fired then .cancelled else .execute e.display), left) := by
  simp only [Connection.run]
  split
  · next hnone => cases hnone.symm.trans hfound
  · next found' hfound' =>
    obtain rfl := Option.some.inj (hfound'.symm.trans hfound)
    rfl

section run

variable [IdSource W] {site : Site W} {outside : W → X} {start : Connection × Disk}
  {opened : OpenDatabase} (hapart : site.Apart outside)
  (hget : ∀ there world, site.get (site.set there world) = there)

include hapart hget in
/-- **A command of the backend does the same in a transaction as without one.** -/
theorem steps_run {command : Command}
    (hcalm : ∀ p, .ok p ∈ statements command.sql → p.statement.controls = false)
    (transaction : Option Uuid) {token : Cancellation W} (htoken : site.Outer outside token) :
    Steps (Beside site outside start opened) (Connection.run site token command)
      (Connection.run site token { command with transaction := transaction }) := by
  intro v w hworld
  obtain ⟨plain, inside, hwithin, hplain, hinside⟩ := hworld.within
  have hsteps : Steps (Beside site outside start opened) token token := Beside.token htoken
  obtain ⟨hresult, hafter, hwalked⟩ := hwithin.walk hcalm hsteps command.parameters hworld
  obtain ⟨found, hfound, hload⟩ := hplain.database
  obtain ⟨found', hfound', hload'⟩ := hinside.database
  have hrival : inside.rival = none := hwithin.rival_inside
  have hkept := hplain.keep hwithin.rival hfound hafter.rival
  have hkept' := hinside.keep hrival hfound' hafter.rival_inside
  have hleft : Beside site outside start opened
      (site.set ((site.get v).1.keep (site.get v).2 { found with
        handle := (walk token command.parameters (statements command.sql) plain v).handle })
        (walk token command.parameters (statements command.sql) plain v).world)
      (site.set ((site.get w).1.keep (site.get w).2 { found' with
        handle := (walk token command.parameters (statements command.sql) inside w).handle })
        (walk token command.parameters (statements command.sql) inside w).world) := by
    refine ⟨?_, _, _, hafter, ?_, ?_⟩
    · rw [hapart.set, hapart.set, hwalked.outside]
    · rwa [hget]
    · rwa [hget]
  have hrun := Connection.run_of_found site token command hfound
  have hrun' :=
    Connection.run_of_found site token { command with transaction := transaction } hfound'
  simp only [hload, hload', hresult] at hrun hrun'
  simp only [StateT.run, hrun, hrun']
  cases (walk token command.parameters (statements command.sql) plain v).result with
  | ok tables =>
    refine ⟨?_, hleft⟩
    rw [hafter.changes, hwithin.changes]
  | error e =>
    obtain ⟨hfired, hlast⟩ := hsteps _ _ hleft
    refine ⟨?_, hlast⟩
    exact congrArg (fun fired : Bool ↦ (.error (if fired then .cancelled else .execute e.display) :
      BackendResult Connection.Outcome)) hfired

/-! ## The backend -/

section command

variable {command : Command}
  (hcalm : ∀ p, .ok p ∈ statements command.sql → p.statement.controls = false)
  (transaction : Option Uuid)

include hapart hget hcalm in
theorem steps_runFor {α : Type} (part : Connection.Outcome → α) {token : Cancellation W}
    (htoken : site.Outer outside token) :
    Steps (Beside site outside start opened) (Connection.runFor site part token command)
      (Connection.runFor site part token { command with transaction := transaction }) := by
  intro v w hworld
  obtain ⟨hanswer, hleft⟩ := steps_run hapart hget hcalm transaction htoken v w hworld
  exact ⟨congrArg (Except.map part) hanswer, hleft⟩

include hapart hget hcalm in
theorem acts_dispatch (operation : Operation) :
    Acts (Beside site outside start opened) Eq
      (Executor.dispatch (Connection.backend site) command operation)
      (Executor.dispatch (Connection.backend site) { command with transaction := transaction }
        operation) := by
  have hpart {α : Type} (part : Connection.Outcome → α) (give : α → Output) :
      Acts (Beside site outside start opened) Eq
        (do return (← Action.ofState (Connection.runFor site part Connection.uncancelled
          command)).map give)
        (do return (← Action.ofState (Connection.runFor site part Connection.uncancelled
          { command with transaction := transaction })).map give) := by
    refine .bind (.ofState (steps_runFor hapart hget hcalm transaction part
      (outer_uncancelled site outside))) fun answer answer' h ↦ ?_
    exact .pure (congrArg (Except.map give) h)
  cases operation with
  | scalar => exact hpart Connection.Outcome.firstValue Output.scalar
  | nonQuery => exact hpart Connection.Outcome.rowsAffected Output.rowsAffected
  | table => exact hpart Connection.Outcome.firstTable Executor.tableOutput
  | tableSet names => exact hpart Connection.Outcome.tables (Executor.tablesOutput names)

include hapart hget hcalm in
theorem works_dispatchAsync {token : Cancellation W} (htoken : site.Outer outside token)
    (operation : Operation) :
    Works (Beside site outside start opened)
      (Executor.dispatchAsync (Connection.backend site) command token operation)
      (Executor.dispatchAsync (Connection.backend site)
        { command with transaction := transaction } token operation) := by
  have hwork {α : Type} (part : Connection.Outcome → α) :
      Works (Beside site outside start opened)
        (.ofState (Connection.runFor site part token command))
        (.ofState (Connection.runFor site part token
          { command with transaction := transaction })) :=
    .ofState (steps_runFor hapart hget hcalm transaction part htoken)
  cases operation with
  | scalar => exact ((hwork Connection.Outcome.firstValue).later).map _
  | nonQuery => exact ((hwork Connection.Outcome.rowsAffected).later).map _
  | table => exact ((hwork Connection.Outcome.firstTable).later).map _
  | tableSet names => exact (((hwork Connection.Outcome.tables).later).recover _).map _

end command

end run

end Sqlite

end SqlGateway
