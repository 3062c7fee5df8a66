import SqlGateway.Proofs.Sqlite.DataSource
import SqlGateway.Proofs.Sqlite.Location
import SqlGateway.Proofs.Transaction.Atomicity
import SqlGateway.Rehearsal.World

/-!
# Executors stay with their path

A connection keeps the name that it was made with, and opens no other database than the one of that
name. So an executor of a path uses the database of this path and no other one, whatever is asked of
it: closing and opening the connection, a failure or a cancellation make no difference. In
particular it does not come to use a database in memory unless its path says so.

Other connections may use the same files meanwhile, so nothing is said of what is in the database.
What happens elsewhere, in hooks and when a token is read, may do anything but reach the connection.
-/

namespace SqlGateway

open Abreast

variable {W : Type}

namespace Sqlite

/-! ## Connections -/

/-- A connection of a name, which holds no database but the one of the name. -/
structure Connection.Lodged (name : String) (c : Connection) : Prop where
  path_eq : c.path = name
  residence_eq : ∀ opened, c.database = some opened → opened.residence = .named name

namespace Connection.Lodged

variable {name : String} {there : Connection × Disk}

theorem ofPath (name : String) : (Connection.ofPath name).Lodged name where
  path_eq := rfl
  residence_eq opened h := by cases h

/-- What a call makes of the database does not move it. -/
theorem keep (h : there.1.Lodged name) {opened : OpenDatabase}
    (hopened : there.1.database = some opened) (after : Handle) :
    (there.1.keep there.2 { opened with handle := after }).1.Lodged name where
  path_eq := h.path_eq
  residence_eq := by
    rintro _ ⟨⟩
    exact h.residence_eq opened hopened

theorem closing (h : there.1.Lodged name) (answer : Except SqlError Unit) :
    ((Connection.closing answer).run there).2.1.Lodged name := by
  cases hdatabase : there.1.database with
  | none => rwa [Connection.closing_of_none hdatabase]
  | some opened =>
    rw [Connection.closing_of_found hdatabase, h.path_eq]
    exact .ofPath name

theorem transact (h : there.1.Lodged name) (program : Program) :
    ((Connection.transact program).run there).2.1.Lodged name := by
  cases hdatabase : there.1.database with
  | none => rwa [transact_of_none hdatabase]
  | some opened =>
    rw [transact_of_found hdatabase]
    exact h.keep hdatabase _

/-- **A connection opens the database of its name.** -/
theorem establish (hequals : '=' ∉ name.toList) (hne : name ≠ "") (h : there.1.Lodged name) :
    (Connection.establish.run there).2.1.Lodged name := by
  obtain ⟨answer, left, hrun, hestablishing⟩ := establish_establishing there
  rw [hrun]
  cases hestablishing with
  | held => exact h
  | opened hnone hopen =>
    refine ⟨h.path_eq, ?_⟩
    rintro _ ⟨⟩
    rw [h.path_eq] at hopen
    exact Disk.open_residence hequals hne hopen
  | failed => exact h

end Connection.Lodged

/-! ## Places -/

/-- What is put in the place in this world is found there. -/
def Site.Present (site : Site W) (world : W) : Prop :=
  ∀ there, site.get (site.set there world) = there

/-- A step that does not reach the connection in the place. -/
def Site.Misses (site : Site W) (step : W → W) : Prop :=
  ∀ world, site.Present world →
    site.Present (step world) ∧ (site.get (step world)).1 = (site.get world).1

/-- A place with a connection of a name. -/
structure Site.Lodges (site : Site W) (name : String) (world : W) : Prop where
  present : site.Present world
  lodged : (site.get world).1.Lodged name

theorem Site.Misses.lodges {site : Site W} {step : W → W} (h : site.Misses step) {name : String}
    {world : W} (hworld : site.Lodges name world) : site.Lodges name (step world) := by
  obtain ⟨hpresent, hthere⟩ := h world hworld.present
  exact ⟨hpresent, by rw [hthere]; exact hworld.lodged⟩

/-- A batch does nothing to the world but to read the token. -/
theorem walk_having {P : W → Prop} {token : Cancellation W}
    (htoken : ∀ world, P world → P (token.run world).2) (parameters : List Parameter)
    (statements : List (Except SqlError Prepared)) (h : Handle) {world : W} (hworld : P world) :
    P (walk token parameters statements h world).world := by
  induction statements generalizing h world with
  | nil => exact hworld
  | cons statement rest ih =>
    cases statement with
    | error e => exact hworld
    | ok p =>
      rw [walk]
      rcases p.ready h with ⟨ready, e | program⟩
      · exact hworld
      have hread := htoken world hworld
      rcases htokenRun : token.run world with ⟨fired, left⟩
      rw [htokenRun] at hread
      cases fired with
      | true => exact hread
      | false =>
        dsimp only
        rcases step parameters p.names program ready with ⟨after, e | tables⟩
        · exact hread
        · exact ih after hread

section backend

variable {site : Site W} {name : String}
  (hset : ∀ there other world, site.set there (site.set other world) = site.set there world)

include hset

theorem Site.Lodges.set {there : Connection × Disk} {world : W} (h : site.Present world)
    (hthere : there.1.Lodged name) : site.Lodges name (site.set there world) where
  present other := by rw [hset, h]
  lodged := by
    rw [h]
    exact hthere

theorem Site.Lodges.act {α : Type} {step : StateM (Connection × Disk) α}
    (hstep : ∀ there : Connection × Disk, there.1.Lodged name → (step.run there).2.1.Lodged name)
    (world : W) (h : site.Lodges name world) : site.Lodges name ((site.act step).run world).2 :=
  .set hset h.present (hstep (site.get world) h.lodged)

theorem Site.Lodges.run {token : Cancellation W}
    (htoken : ∀ world, site.Lodges name world → site.Lodges name (token.run world).2)
    (command : Command) (world : W) (h : site.Lodges name world) :
    site.Lodges name (Connection.run site token command world).2 := by
  cases hdatabase : (site.get world).1.database with
  | none => rwa [Connection.run_of_none site token command hdatabase]
  | some opened =>
    rw [Connection.run_of_found site token command hdatabase]
    dsimp only
    have hwalked := walk_having htoken command.parameters (statements command.sql)
      ((site.get world).2.load opened) h
    have hkept := Site.Lodges.set hset hwalked.present (h.lodged.keep hdatabase
      (walk token command.parameters (statements command.sql)
        ((site.get world).2.load opened) world).handle)
    split
    · exact hkept
    · exact htoken _ hkept

/-- **Nothing that a backend does moves its connection to another database.** -/
theorem respects_backend (hequals : '=' ∉ name.toList) (hne : name ≠ "") :
    (Connection.backend site).Respects (Having (site.Lodges name)) := by
  have hact {α : Type} {step : StateM (Connection × Disk) α}
      (hstep : ∀ there : Connection × Disk, there.1.Lodged name →
        (step.run there).2.1.Lodged name) :
      Steps (Having (site.Lodges name)) (site.act step) (site.act step) :=
    steps_having (Site.Lodges.act hset hstep)
  have hrun {α : Type} (part : Connection.Outcome → α) (command : Command)
      {token : Cancellation W} (htoken : Steps (Having (site.Lodges name)) token token) :
      Steps (Having (site.Lodges name)) (Connection.runFor site part token command)
        (Connection.runFor site part token command) :=
    steps_having (Site.Lodges.run hset (fun world h ↦ (htoken world world ⟨rfl, h⟩).2.2) command)
  have hplain : Steps (Having (site.Lodges name)) Connection.uncancelled Connection.uncancelled :=
    .pure false
  have hoffload {α : Type} (part : Connection.Outcome → α) (command : Command)
      {token : Cancellation W} (htoken : Steps (Having (site.Lodges name)) token token) :
      Works (Having (site.Lodges name)) (Connection.offload site part command token)
        (Connection.offload site part command token) :=
    (Works.ofState (hrun part command htoken)).later
  exact {
    state := steps_having fun _ h ↦ h
    establish := hact fun _ h ↦ h.establish hequals hne
    close := hact fun _ h ↦ h.closing (.ok ())
    begin := fun isolation ↦ hact fun _ h ↦ h.transact (.begin (Connection.lockOf isolation))
    commit := hact fun _ h ↦ h.transact .commit
    rollback := hact fun _ h ↦ h.transact .rollback
    interrupt := .pure ()
    scalar := fun command ↦ .ofState (hrun Connection.Outcome.firstValue command hplain)
    nonQuery := fun command ↦ .ofState (hrun Connection.Outcome.rowsAffected command hplain)
    reader := fun command ↦ .ofState (hrun Connection.Outcome.firstTable command hplain)
    fill := fun command ↦ .ofState (hrun Connection.Outcome.tables command hplain)
    fillCancellable := fun command _ h ↦ .ofState (hrun Connection.Outcome.tables command h)
    scalarAsync := fun command _ h ↦ hoffload Connection.Outcome.firstValue command h
    nonQueryAsync := fun command _ h ↦ hoffload Connection.Outcome.rowsAffected command h
    readerAsync := fun command _ h ↦ hoffload Connection.Outcome.firstTable command h }

end backend

/-! ## Executors -/

/-- A place that a connection was put in. Putting something there leaves nothing of what was there
before, and ids can be drawn without reaching the connection. -/
structure Site.Houses [IdSource W] (site : Site W) (c : Connection) (world : W) : Prop where
  set_set (there other : Connection × Disk) (world : W) :
    site.set there (site.set other world) = site.set there world
  draw : site.Misses fun world ↦ (IdSource.newId.run world).2
  present : site.Present world
  connection_eq : (site.get world).1 = c

end Sqlite

/-- A host that puts each connection in a place. -/
def SqliteHost.Lawful (W : Type) [SqliteHost W] [IdSource W] : Prop :=
  ∀ (c : Sqlite.Connection) (world : W),
    ((attach c).run world).1.Houses c ((attach c).run world).2

namespace Rehearsal.World

theorem present_site {index : Nat} {world : World} (h : index < world.databases.length) :
    (site index).Present world := by
  rintro ⟨c, disk⟩
  simp [site, h]

/-- A rehearsal puts every connection in a place of its own. -/
theorem lawful : SqliteHost.Lawful World := by
  intro c world
  have hindex : world.databases.length < (world.databases ++ [c]).length := by simp
  refine ⟨fun there other world ↦ ?_, fun world hpresent ↦ ⟨hpresent, rfl⟩, present_site hindex, ?_⟩
  · simp [SqliteHost.attach, site, StateT.run]
  · simp [SqliteHost.attach, site, StateT.run]

end Rehearsal.World

/-- A use whose token or hook does not reach the connection. -/
def Executor.Use.Misses (site : Sqlite.Site W) : Executor.Use W → Prop
  | .executeAsync _ _ _ _ token => site.Misses fun world ↦ (token.run world).2
  | .setBefore hook | .setAfter hook =>
    ∀ command, site.Misses fun world ↦ ((hook command).perform world).2
  | .elsewhere step => site.Misses fun world ↦ (step.run world).2
  | _ => True

theorem Executor.Use.Misses.respects {site : Sqlite.Site W} {use : Executor.Use W}
    (h : use.Misses site) (name : String) : use.Respects (Having (site.Lodges name)) := by
  cases use with
  | executeAsync sql parameters code operation token =>
    exact steps_having fun _ hworld ↦ Sqlite.Site.Misses.lodges h hworld
  | setBefore hook | setAfter hook =>
    exact fun command ↦ acts_having fun _ hworld ↦ (h command).lodges hworld
  | elsewhere step => exact steps_having fun _ hworld ↦ Sqlite.Site.Misses.lodges h hworld
  | begin | commit | rollback | dispose | execute | clearHooks => trivial

namespace Factory

variable [SqliteHost W]

/-- An executor that is created for SQLite is one of a connection that was attached for it. -/
theorem run_create_default {config : DbConfig} {world left : W} {executor : Executor W}
    (h : (create (Registry.default W) config).run world = (.ok executor, left)) :
    let attached := (SqliteHost.attach
      (Sqlite.Connection.ofPath (Sqlite.dataSource config.connectionString))).run world
    (Executor.create .sqlite .sqlite (Sqlite.Connection.backend attached.1)).run attached.2 =
      (.ok executor, left) := by
  rw [create] at h
  cases hparse : ServerType.parse config.serverType with
  | error e =>
    rw [hparse] at h
    cases h
  | ok serverType =>
    rw [hparse] at h
    cases serverType with
    | sqlServer => cases h
    | sqlite => exact h

end Factory

end SqlGateway
