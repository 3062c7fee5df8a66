import SqlGateway.Proofs.Transaction.Disposal
import SqlGateway.Proofs.Transaction.Requests

/-!
# Transactions of an executor are atomic

A transaction that was begun makes no difference to the requests that follow. What is left of them
is decided by how it ends: committed, it leaves what there is without a transaction; rolled back, or
given up with the executor, it leaves what there was at the beginning.

The law is about executors that alone use their database. Others may have it open, but hold no lock
at the beginning and change nothing afterwards. An executor that has just been created is such a
one.
-/

namespace SqlGateway.Executor

open Abreast Sqlite

section

variable {W X : Type} {site : Site W} {outside : W → X} {start : Connection × Disk}
  {opened : OpenDatabase}

/-! ## The beginning -/

/-- An executor in use that alone uses its database, which is open. -/
structure Sole [IdSource W] (site : Site W) (outside : W → X) (opened : OpenDatabase)
    (scene : Scene W) : Prop extends Discreet site outside scene.executor where
  inUse : scene.executor.InUse
  sound : (site.get scene.world).1.Sound
  database : (site.get scene.world).1.database = some opened
  alone : ((site.get scene.world).2.load opened).rival = none

section begin

variable [IdSource W] {scene : Scene W}

theorem Sole.state_eq_open (h : Sole site outside opened scene) :
    (site.get scene.world).1.state = .open := by
  have hopen : (site.get scene.world).1.isOpen = true := by
    rw [h.sound, h.database]
    rfl
  rw [Connection.state, if_pos hopen]

/-- How a transaction is begun on an open connection. -/
theorem begin_eq_ok (h : Sole site outside opened scene) {isolation : Option IsolationLevel}
    (hbegin : ((begin isolation).run scene).1 = .ok ()) :
    let there := (Connection.transact (.begin (Connection.lockOf isolation))).run
      (site.get scene.world)
    scene.executor.transaction = none ∧ there.1 = .ok () ∧ ∃ active,
      ((begin isolation).run scene).2 =
        ⟨{ scene.executor with transaction := some active },
          (IdSource.newId.run (site.set there.2 scene.world)).2⟩ := by
  intro there
  have hensure : ensureOpen.run scene = (.ok (), scene) :=
    ensureOpen_of_open h.serves h.state_eq_open
  rw [Executor.begin, run_bind, run_get] at hbegin ⊢
  cases hidle : scene.executor.transaction with
  | some transaction =>
    have hactive : scene.executor.isActive = true := by
      rw [isActive, hidle]
      rfl
    rw [if_pos hactive] at hbegin
    cases hbegin
  | none =>
    have hactive : ¬scene.executor.isActive = true := by
      rw [isActive, hidle]
      exact Bool.false_ne_true
    have hact : (Scene.act (scene.executor.backend.begin isolation)).run scene =
        (there.1, { scene with world := site.set there.2 scene.world }) := by
      rw [h.serves.backend]
      rfl
    rw [if_neg hactive, run_bind, hensure] at hbegin ⊢
    simp only at hbegin ⊢
    rw [run_bind, hact] at hbegin ⊢
    cases hanswer : there.1 with
    | error e =>
      rw [hanswer] at hbegin
      cases hbegin
    | ok answer => exact ⟨trivial, rfl, _, rfl⟩

/-- A beginning that goes well puts the executor beside the one that did not begin. -/
theorem scenes_begin (h : Sole site outside opened scene) {isolation : Option IsolationLevel}
    (hbegin : ((begin isolation).run scene).1 = .ok ()) :
    scene.executor.transaction = none ∧
    ((site.get scene.world).2.load opened).transaction = none ∧ ∃ active,
      Scenes (Twins scene.executor active) (Beside site outside (site.get scene.world) opened) scene
        ((begin isolation).run scene).2 := by
  obtain ⟨hidle, hanswer, active, hbegun⟩ := begin_eq_ok h hbegin
  have hstart := Holding.refl h.database h.alone
  obtain ⟨found, hfound, htransact⟩ :=
    hstart.run_transact (.begin (Connection.lockOf isolation))
  rw [htransact] at hanswer hbegun
  rcases hrun : (Program.begin (Connection.lockOf isolation)).run
    ((site.get scene.world).2.load opened) [] with ⟨after, e | rows⟩
  · rw [hrun] at hanswer
    cases hanswer
  rw [hrun] at hbegun
  obtain ⟨hbase, hwithin⟩ := Handle.within_of_begin h.alone hrun
  have hkept := hstart.keep h.alone hfound hwithin.rival_inside
  refine ⟨hidle, hbase, active, ?_⟩
  rw [hbegun]
  refine ⟨⟨rfl, rfl⟩, ?_, _, _, hwithin, hstart, ?_⟩
  · rw [h.apart.draw, h.apart.set]
  · rwa [h.apart.get_draw, h.serves.get_set]

end begin

/-! ## Executors that are created -/

/-- An executor without hooks is served by its connection. -/
theorem serves_of_unhooked {executor : Executor W}
    (hget : ∀ there world, site.get (site.set there world) = there)
    (hbackend : executor.backend = Connection.backend site) (hbefore : executor.before = none)
    (hafter : executor.after = none) : site.Serves executor where
  get_set := hget
  backend := hbackend
  before := by simp [hbefore]
  after := by simp [hafter]

section create

variable {path : String} {disk : Disk} {world left : W} {serverType : ServerType}
  {dialect : Dialect} {executor : Executor W}

/-- An executor that was created has opened its database. -/
theorem create_ofPath (hpresent : ∀ there, site.get (site.set there world) = there)
    (hthere : site.get world = (.ofPath path, disk))
    (hcreate : (create serverType dialect (Connection.backend site)).run world =
      (.ok executor, left)) :
    executor =
      { serverType := serverType, dialect := dialect, backend := Connection.backend site } ∧
    ∃ found disk', disk.open path = .ok (found, disk') ∧
      site.get left = ((Connection.ofPath path).holding found, disk') := by
  obtain ⟨events, answer, last, hensuring, hrun, -⟩ :=
    create_ensuring serverType dialect (Connection.backend site) world
  rw [hcreate, hensuring.executor_eq] at hrun
  obtain ⟨hanswer, rfl⟩ := Prod.mk.inj hrun
  have hclosed : (site.get world).1.state = .closed := by
    rw [hthere]
    rfl
  cases hensuring with
  | found hlook =>
    obtain ⟨hstate, -⟩ := Prod.mk.inj hlook
    cases hclosed.symm.trans hstate
  | foundLate hfirst hsecond =>
    obtain ⟨-, rfl⟩ := Prod.mk.inj hfirst
    obtain ⟨hstate, -⟩ := Prod.mk.inj hsecond
    cases hclosed.symm.trans hstate
  | failed => cases hanswer
  | opened hfirst hsecond hestablish =>
    obtain ⟨-, rfl⟩ := Prod.mk.inj hfirst
    obtain ⟨-, rfl⟩ := Prod.mk.inj hsecond
    obtain ⟨hestablished, rfl⟩ : (Connection.establish.run (site.get world)).1 = .ok () ∧
        site.set (Connection.establish.run (site.get world)).2 world = _ :=
      Prod.mk.inj hestablish
    refine ⟨Except.ok.inj hanswer, ?_⟩
    obtain ⟨answer, there, hrun, hestablishing⟩ := establish_establishing (.ofPath path, disk)
    rw [hpresent, hthere, hrun]
    rw [hthere, hrun] at hestablished
    cases hestablishing with
    | held hdatabase => cases hdatabase
    | opened hnone hopen => exact ⟨_, _, hopen, rfl⟩
    | failed => cases hestablished

/-- **An executor that was created is the only user of its database**, if nobody holds a lock. -/
theorem sole_of_create [IdSource W]
    (hget : ∀ there world, site.get (site.set there world) = there)
    (hthere : site.get world = (.ofPath path, disk))
    (hcreate : (create serverType dialect (Connection.backend site)).run world =
      (.ok executor, left))
    (hapart : site.Apart outside)
    (hfree : ∀ residence database, disk.find? residence = some database →
      ∀ number, database.rival number = none) :
    ∃ opened, Sole site outside opened ⟨executor, left⟩ := by
  obtain ⟨rfl, found, disk', hopen, hleft⟩ := create_ofPath (hget · world) hthere hcreate
  refine ⟨found, ⟨⟨serves_of_unhooked hget rfl rfl rfl, hapart, ?_, ?_⟩, ⟨rfl, rfl⟩, ?_, ?_, ?_⟩⟩
  · intro hook hhook
    cases hhook
  · intro hook hhook
    cases hhook
  · rw [hleft]
    rfl
  · rw [hleft]
    rfl
  · rw [hleft]
    exact Disk.rival_of_open hopen (hfree _)

end create

/-! ## The end -/

section ending

variable {scene : Scene W} {handle after : Handle}

/-- A transaction is ended by what the backend does, and forgotten. -/
theorem endTransaction_eq {active : ActiveTransaction}
    (hactive : scene.executor.transaction = some active)
    (finish : Backend W → StateM W (BackendResult Unit)) :
    (endTransaction finish).run scene =
      (((finish scene.executor.backend).run scene.world).1.mapError .transaction,
        ⟨{ scene.executor with transaction := none },
          ((finish scene.executor.backend).run scene.world).2⟩) := by
  rw [endTransaction, run_bind, run_get, run_bind, run_takeTransaction, hactive]
  rfl

/-- An end that the database allows leaves what it made of the database. -/
theorem holding_endTransaction {active : ActiveTransaction} (hserves : site.Serves scene.executor)
    (hactive : scene.executor.transaction = some active)
    (h : Holding start opened handle (site.get scene.world)) (hrival : handle.rival = none)
    {finish : Backend W → StateM W (BackendResult Unit)} {program : Program}
    (hfinish : finish (Connection.backend site) = site.act (Connection.transact program))
    {rows : List (List Cell)} (hrun : program.run handle [] = (after, .ok rows))
    (hafter : after.rival = none) :
    ((endTransaction finish).run scene).1 = .ok () ∧
      ((endTransaction finish).run scene).2.executor =
        { scene.executor with transaction := none } ∧
      Holding start opened after (site.get ((endTransaction finish).run scene).2.world) := by
  obtain ⟨hanswer, hleft⟩ := h.transact hrival hrun hafter
  have hact : (finish scene.executor.backend).run scene.world =
      (((Connection.transact program).run (site.get scene.world)).1,
        site.set ((Connection.transact program).run (site.get scene.world)).2 scene.world) := by
    rw [hserves.backend, hfinish]
    rfl
  rw [endTransaction_eq hactive, hact, hanswer]
  refine ⟨rfl, rfl, ?_⟩
  rwa [hserves.get_set]

/-- What is left of an executor that is given up in use. -/
theorem dispose_eq (huse : scene.executor.InUse) :
    let left := (rollback.run
      { scene with executor := { scene.executor with disposed := true } }).2
    left.executor.closed = false →
      (dispose.run scene).2.world = (left.executor.backend.close.run left.world).2 := by
  intro left hopen
  have hundisposed : ¬scene.executor.disposed = true := by
    rw [huse.disposed_eq]
    exact Bool.false_ne_true
  have hunclosed : ¬left.executor.closed = true := by
    rw [hopen]
    exact Bool.false_ne_true
  have hdispose : dispose.run scene = ((), (closeConnection.run left).2) := by
    rw [dispose, run_bind, run_get, if_neg hundisposed]
    rfl
  rw [hdispose, closeConnection, run_bind, run_get, if_neg hunclosed]
  rfl

/-- A later executor finds these tables and no lock, if the file in this place is its database. -/
def FoundLater (disk : Disk) (place : SqlGateway.Place) (store : Store) : Prop :=
  ∀ (V : Type) (site : Site V) (world left : V) (path : String) (serverType : ServerType)
    (dialect : Dialect) (executor : Executor V),
    (∀ there world, site.get (site.set there world) = there) →
    site.get world = (.ofPath path, disk) →
    (create serverType dialect (Connection.backend site)).run world = (.ok executor, left) →
    ∃ opened, (site.get left).1.database = some opened ∧ (opened.residence = .file place →
      ((site.get left).2.load opened).main = store ∧ ((site.get left).2.load opened).rival = none)

theorem foundLater_of_rests {disk : Disk} {place : SqlGateway.Place} {store : Store}
    (h : disk.Rests place store) : FoundLater disk place store := by
  intro V site world left path serverType dialect executor hget hthere hcreate
  obtain ⟨-, found, disk', hopen, hleft⟩ := create_ofPath (hget · world) hthere hcreate
  rw [hleft]
  exact ⟨found, rfl, h.load_of_open hopen⟩

/-! ### An end of a transaction that has stood beside none -/

section within

variable {active : ActiveTransaction} {plain inside : Handle}
  (hserves : site.Serves scene.executor) (hactive : scene.executor.transaction = some active)
  (hthere : Holding start opened inside (site.get scene.world))
  (hwithin : (start.2.load opened).Within plain inside)
  (hbase : (start.2.load opened).transaction = none) (halone : (start.2.load opened).rival = none)

include hserves hactive hthere hwithin

theorem holding_commit :
    (commit.run scene).1 = .ok () ∧
      (commit.run scene).2.executor = { scene.executor with transaction := none } ∧
      Holding start opened plain (site.get (commit.run scene).2.world) :=
  holding_endTransaction hserves hactive hthere hwithin.rival_inside rfl hwithin.run_commit
    hwithin.rival

include hbase halone

theorem holding_rollback :
    (rollback.run scene).1 = .ok () ∧
      (rollback.run scene).2.executor = { scene.executor with transaction := none } ∧
      Holding start opened { start.2.load opened with
          lastRowid := plain.lastRowid
          changes := plain.changes
          surveyed := plain.surveyed }
        (site.get (rollback.run scene).2.world) :=
  holding_endTransaction hserves hactive hthere hwithin.rival_inside rfl
    (hwithin.run_rollback hbase halone) halone

/-- An executor that is given up rolls back first, so that its file has what was committed before.
-/
theorem foundLater_dispose (huse : scene.executor.InUse) {place : SqlGateway.Place} {store : Store}
    (hfile : opened.residence = .file place)
    (hstore : start.2.tables? (.file place) = some store) :
    FoundLater (site.get (dispose.run scene).2.world).2 place store := by
  let marked : Scene W := { scene with executor := { scene.executor with disposed := true } }
  have hmarked : site.Serves marked.executor :=
    ⟨hserves.get_set, hserves.backend, hserves.before, hserves.after⟩
  obtain ⟨-, hexecutor, hholding⟩ := holding_rollback hmarked hactive hthere hwithin hbase halone
  have hopen : (rollback.run marked).2.executor.closed = false := by
    rw [hexecutor]
    exact huse.closed_eq
  have hbackend : (rollback.run marked).2.executor.backend = Connection.backend site := by
    rw [hexecutor]
    exact hserves.backend
  have hclose : site.get (dispose.run scene).2.world =
      (Connection.close.run (site.get (rollback.run marked).2.world)).2 := by
    rw [dispose_eq huse hopen, hbackend]
    exact hserves.get_set _ _
  have hthere' : (start.2.tables? (.file place)).isSome = true := by
    rw [hstore]
    rfl
  have hcommitted : (start.2.load opened).committed = store :=
    Disk.committed_load halone (by rw [hfile, hstore])
  have hrests := hholding.close halone hfile hthere'
  rw [hclose, ← hcommitted]
  exact foundLater_of_rests hrests

end within

end ending

end

/-! ### Insertions that fail half-way and are cancelled -/

namespace Diary

/-- A connection with its files, and the texts that were shown to a hook. -/
structure World where
  there : Connection × Disk
  shown : List String

instance : IdSource World := ⟨pure default⟩

def site : Site World := ⟨World.there, fun there world ↦ { world with there := there }⟩

/-- Writes the texts of commands down. -/
def noting : Hook World := fun command ↦
  .ofState fun world ↦ ((), { world with shown := command.sql :: world.shown })

/-- A table that holds every number once. -/
def table : Table := ⟨"t", [⟨"n", "INTEGER", false, false, true⟩], []⟩

def opened : OpenDatabase := ⟨.file ["t.db"], 0, Handle.ofStore [table]⟩

def scene : Scene World :=
  ⟨{ serverType := .sqlite, dialect := .sqlite, backend := Connection.backend site,
     before := some noting },
    ⟨((Connection.ofPath "t.db").holding opened,
      ⟨⟨[(["t.db"], ⟨[table], [(0, none)]⟩)], [[]]⟩, []⟩), []⟩⟩

/-- The second one fails at its second statement, and the third one is cancelled. -/
def requests : List (Request World) :=
  [⟨"INSERT INTO t (n) VALUES (1)", [], "E1", .nonQuery, none⟩,
    ⟨"INSERT INTO t (n) VALUES (2); INSERT INTO t (n) VALUES (2)", [], "E2", .nonQuery, none⟩,
    ⟨"INSERT INTO t (n) VALUES (3)", [], "E3", .nonQuery, some fun world ↦ (true, world)⟩]

theorem sole : Sole site World.shown opened scene where
  serves :=
    { get_set := fun _ _ ↦ rfl
      backend := rfl
      before := by
        rintro hook ⟨⟩ command world
        rfl
      after := fun hook h ↦ (by cases h) }
  apart := ⟨fun _ _ ↦ rfl, fun _ ↦ rfl, fun _ ↦ rfl⟩
  before := by
    rintro hook ⟨⟩ command transaction v w hworld
    exact ⟨.ok rfl, congrArg (command.sql :: ·) hworld⟩
  after := fun hook h ↦ (by cases h)
  inUse := ⟨rfl, rfl⟩
  sound := rfl
  database := rfl
  alone := rfl

/-- Whether no statement of a text controls transactions. -/
def isCalm (sql : String) : Bool :=
  (statements sql).all fun statement ↦ match statement with
    | .ok p => !p.statement.controls
    | .error _ => true

theorem calm : ∀ request ∈ requests, request.Calm site World.shown := by
  have hcalm : ∀ request ∈ requests, isCalm request.sql = true := by decide +kernel
  have hfired : site.Outer World.shown fun world ↦ (true, world) :=
    ⟨fun _ ↦ rfl, fun _ _ hworld ↦ ⟨rfl, hworld⟩⟩
  intro request hmem
  refine ⟨fun p hp ↦ ?_, fun token htoken ↦ ?_⟩
  · have hstatement := List.all_eq_true.mp (hcalm request hmem) (.ok p) hp
    simpa using hstatement
  · simp only [requests, List.mem_cons, List.not_mem_nil, or_false] at hmem
    rcases hmem with rfl | rfl | rfl
    · cases htoken
    · cases htoken
    · cases htoken
      exact hfired

/-- How many rows the table of an executor has. -/
def rows (scene : Scene World) : Option (List Nat) :=
  (Connection.seen (site.get scene.world)).map fun handle ↦ handle.main.map (·.rows.length)

end Diary

end SqlGateway.Executor
