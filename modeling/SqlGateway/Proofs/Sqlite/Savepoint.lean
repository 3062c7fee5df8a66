import SqlGateway.Proofs.Sqlite.Preparation
import SqlGateway.Proofs.Sqlite.Tables
import SqlGateway.Sqlite.Connection

/-!
# Transactions that begin by a savepoint

A savepoint that is set outside of a transaction begins one, and it ends the transaction when it is
released. In between nothing is committed, whatever statements are run and whether they go well or
not, and of the way back nothing is lost: the transaction keeps the temporary tables as they were,
and the savepoint is the only one. This is the invariant `Handle.Inside`. It speaks of statements
that do not themselves begin or end transactions or savepoints.

What it says of the end of such a transaction is all that can be said. Released, it is committed as
a whole, or goes on if other connections are in the way. Rolled back, it leaves what there was
before. But a failure does neither.
-/

namespace SqlGateway.Sqlite

variable {W : Type}

/-! ## Transaction control -/

/-- Whether a statement begins or ends a transaction, or sets or leaves a savepoint. -/
def Statement.controls : Statement → Bool
  | begin _ => true
  | commit => true
  | rollback => true
  | savepoint _ => true
  | release _ => true
  | rollbackTo _ => true
  | _ => false

/-- Whether a program begins or ends a transaction, or sets or leaves a savepoint. -/
def Program.controls : Program → Bool
  | begin _ => true
  | commit => true
  | rollback => true
  | savepoint _ => true
  | release _ => true
  | rollbackTo _ => true
  | _ => false

theorem Prepared.not_controls_of_program {p : Prepared} {h : Handle} {program : Program}
    (hok : p.program h = .ok program) (hcalm : p.statement.controls = false) :
    program.controls = false := by
  obtain ⟨statement, names, text⟩ := p
  cases statement with
  | select query =>
    change (query.prepare h text).map (Program.select _) = .ok program at hok
    cases hprepare : query.prepare h text with
    | error e =>
      rw [hprepare] at hok
      cases hok
    | ok selection =>
      rw [hprepare] at hok
      obtain rfl := Except.ok.inj hok
      rfl
  | createTable temporary ifNotExists table schemaPlace place columns =>
    obtain ⟨target, rfl | rfl⟩ := prepareCreate_eq_ok hok
    · rfl
    · rfl
  | insert name columns rows =>
    obtain ⟨place, table, fields, values, -, -, -, -, rfl⟩ := prepareInsert_eq_ok hok
    rfl
  | update name assignments condition =>
    obtain ⟨place, table, prepared, taken, rfl⟩ := prepareUpdate_eq_ok hok
    rfl
  | delete name condition =>
    obtain ⟨⟨place, table⟩, -, hok⟩ := bind_eq_ok.mp hok
    obtain ⟨taken, -, hok⟩ := bind_eq_ok.mp hok
    obtain rfl := Except.ok.inj hok
    rfl
  | _ => cases hcalm

theorem Prepared.program_of_ready {p : Prepared} {h ready : Handle} {program : Program}
    (hok : p.ready h = (ready, .ok program)) : p.program ready = .ok program := by
  rw [Prepared.ready] at hok
  split at hok
  · cases hok
  · obtain ⟨rfl, hprogram⟩ := Prod.mk.inj hok
    exact hprogram

/-! ## Within the transaction -/

/-- The transaction that a savepoint began in a database is in progress, with no other savepoint. -/
structure Handle.Inside (base : Handle) (name : String) (h : Handle) : Prop where
  committed : h.committed = base.committed
  transaction : ∃ working lock, h.transaction =
    some ⟨working, base.temp, lock, true, [⟨name, none, base.temp⟩]⟩

namespace Handle.Inside

variable {base h after : Handle} {name : String}

theorem savepoint (hbase : base.transaction = none) (name : String) :
    Inside base name (base.savepoint name) := by
  refine ⟨rfl, none, none, ?_⟩
  rw [Handle.savepoint, hbase]
  rfl

/-- What it says is not about temporary tables, the last key and what is only looked up. -/
theorem congr (hin : Inside base name h) (hcommitted : after.committed = h.committed)
    (htransaction : after.transaction = h.transaction) : Inside base name after :=
  ⟨hcommitted.trans hin.committed, by rw [htransaction]; exact hin.transaction⟩

theorem inTransaction (hin : Inside base name h) : h.inTransaction = true := by
  obtain ⟨working, lock, htransaction⟩ := hin.transaction
  rw [Handle.inTransaction, htransaction]
  rfl

theorem withMain (hin : Inside base name h) (store : Store) :
    Inside base name (h.withMain store) := by
  obtain ⟨working, lock, htransaction⟩ := hin.transaction
  rw [Handle.withMain, htransaction]
  exact ⟨hin.committed, some store, lock, rfl⟩

theorem withStoreAt (hin : Inside base name h) (store : Store) (place : Handle.Place) :
    Inside base name (h.withStoreAt store place) := by
  cases place with
  | main => exact hin.withMain store
  | temp => exact hin.congr rfl rfl

theorem withTable (hin : Inside base name h) (place : Handle.Place) (table : Table)
    (changed : Nat) : Inside base name (h.withTable place table changed) :=
  (hin.withStoreAt _ place).congr rfl rfl

theorem survey {p : Prepared} (hin : Inside base name h) (hok : p.survey h = .ok after) :
    Inside base name after := by
  obtain ⟨surveyed, rfl⟩ := Prepared.survey_frame hok
  exact hin.congr rfl rfl

theorem insert (hin : Inside base name h) (place : Handle.Place) (table : Table)
    (fields : List Field) (rows : List (List Cell)) :
    Inside base name (h.insert place table fields rows).1 := by
  rw [Handle.insert]
  rcases insertRows fields rows table h.lastRowid with ⟨last, e | table⟩
  · exact hin.congr rfl rfl
  · have hlast : Inside base name { h with lastRowid := last } := hin.congr rfl rfl
    exact hlast.withTable place table rows.length

/-! ### Programs -/

theorem act {program : Program} (hin : Inside base name h) (hcalm : program.controls = false)
    (cells : List Cell) : Inside base name (program.act h cells).1 := by
  cases program with
  | select place selection => exact hin
  | create place table columns => exact hin.withStoreAt _ place
  | skip place => exact hin
  | insert place table fields rows => exact hin.insert place table fields _
  | update place table assignments condition =>
    simp only [Program.act]
    cases updateRows ⟨none, cells, h.lastRowid, 0⟩ assignments
        (table.rows.filter fun row ↦
          (Scope.within ⟨none, cells, h.lastRowid, 0⟩ table row).satisfies condition) table with
    | error e => exact hin
    | ok changed => exact hin.withTable place changed _
  | delete place table condition => exact hin.withTable place _ _
  | _ => cases hcalm

theorem take {program : Program} (hin : Inside base name h) (hok : program.take h = .ok after) :
    Inside base name after := by
  obtain ⟨lock, rfl⟩ := Program.take_frame hok
  obtain ⟨working, held, htransaction⟩ := hin.transaction
  exact ⟨hin.committed, working, _, congrArg (Option.map _) htransaction⟩

theorem run {program : Program} (hin : Inside base name h) (hcalm : program.controls = false)
    (cells : List Cell) : Inside base name (program.run h cells).1 := by
  rw [Program.run]
  cases htake : program.take h with
  | error e => exact hin
  | ok ready =>
    have hready := hin.take htake
    have hact := hready.act hcalm cells
    -- Only outside of a transaction does a program commit what it wrote.
    simp only [hready.inTransaction, Bool.not_true, Bool.and_false, Bool.false_and,
      Bool.false_eq_true, if_false]
    rcases hrun : program.act ready cells with ⟨after, e | rows⟩
    · rw [hrun] at hact
      exact hact
    · rw [hrun] at hact
      exact hact

theorem step {program : Program} (hin : Inside base name h) (hcalm : program.controls = false)
    (parameters : List Parameter) (names : Variables) :
    Inside base name (step parameters names program h).1 := by
  rw [Sqlite.step]
  cases bind h parameters names with
  | error e => exact hin
  | ok cells => exact hin.run hcalm cells

/-! ### Batches -/

theorem ready {p : Prepared} (hin : Inside base name h) : Inside base name (p.ready h).1 := by
  rw [Prepared.ready]
  cases hsurvey : p.survey h with
  | error e => exact hin
  | ok surveyed => exact hin.survey hsurvey

/-- **Whatever a batch does within the transaction, it stays in progress, and nothing is
committed.** -/
theorem walk {statements : List (Except SqlError Prepared)} (hin : Inside base name h)
    (hcalm : ∀ p, .ok p ∈ statements → p.statement.controls = false) (token : Cancellation W)
    (parameters : List Parameter) (world : W) :
    Inside base name (walk token parameters statements h world).handle := by
  -- Where the batch stops, and why, is of no matter to the invariant.
  induction statements generalizing h world with
  | nil => exact hin
  | cons statement rest ih =>
    cases statement with
    | error e => exact hin
    | ok p =>
      have hready := hin.ready (p := p)
      rw [Sqlite.walk]
      rcases hprogram : p.ready h with ⟨ready, e | program⟩
      · rw [hprogram] at hready
        exact hready
      · rw [hprogram] at hready
        have hquiet : program.controls = false :=
          p.not_controls_of_program (p.program_of_ready hprogram) (hcalm p List.mem_cons_self)
        rcases token.run world with ⟨fired, world⟩
        cases fired with
        | true => exact hready
        | false =>
          have hstep := hready.step hquiet parameters p.names
          rcases hstepped : Sqlite.step parameters p.names program ready with ⟨after, e | tables⟩
          · rw [hstepped] at hstep
            simp only [hstepped]
            exact hstep
          · rw [hstepped] at hstep
            simp only [hstepped]
            exact ih hstep (fun p hmem ↦ hcalm p (List.mem_cons_of_mem _ hmem)) world

/-! ### The end of the transaction -/

/-- **Releasing the savepoint commits the transaction as a whole**, unless other connections are in
the way: then it goes on. -/
theorem release (hin : Inside base name h) :
    h.release name = ({ h with committed := h.main, transaction := none }, .ok ()) ∨
      ∃ after, h.release name = (after, .error .locked) ∧ Inside base name after := by
  obtain ⟨working, lock, htransaction⟩ := hin.transaction
  have hfind : h.findSavepoint name =
      .ok (⟨working, base.temp, lock, true, [⟨name, none, base.temp⟩]⟩, ⟨name, none, base.temp⟩,
        []) := by
    rw [Handle.findSavepoint, htransaction]
    simp only [List.dropWhile_cons, Text.sameName_self]
    rfl
  rw [Handle.release, hfind]
  simp only [List.isEmpty_nil, Bool.and_self, if_true]
  rw [Handle.finish]
  split
  · exact .inr ⟨_, rfl, hin.committed, working, some .pending, rfl⟩
  · refine .inl ?_
    rw [Handle.main, htransaction]

/-- **Rolling the transaction back leaves what there was before it.** -/
theorem rollback (hin : Inside base name h) :
    h.rollback =
      .ok { h with committed := base.committed, temp := base.temp, transaction := none } := by
  obtain ⟨working, lock, htransaction⟩ := hin.transaction
  rw [Handle.rollback, htransaction, ← hin.committed]

end Handle.Inside

/-- **Within a transaction no other one can begin.** Even the lock for it may be refused. -/
theorem run_begin_of_inTransaction {h : Handle} (hin : h.inTransaction = true)
    (lock : Option Lock) (cells : List Cell) :
    ∃ e, ((Program.begin lock).run h cells).2 = .error e ∧
      (lock = none → e = .general "cannot start a transaction within a transaction") := by
  rw [Program.run]
  cases htake : (Program.begin lock).take h with
  | error e =>
    refine ⟨e, rfl, ?_⟩
    rintro rfl
    cases htake
  | ok ready =>
    have hready : ready.inTransaction = true := by
      obtain ⟨held, rfl⟩ := Program.take_frame htake
      exact Option.isSome_map.trans hin
    simp only [Program.act, Handle.begin, hready]
    exact ⟨_, rfl, fun _ ↦ rfl⟩

/-! ## Batches between a savepoint and its release -/

/-- A batch goes on where its first part ended, if that went well. -/
theorem walk_append (token : Cancellation W) (parameters : List Parameter)
    (first rest : List (Except SqlError Prepared)) (h : Handle) (world : W) :
    walk token parameters (first ++ rest) h world =
      let walked := walk token parameters first h world
      match walked.result with
      | .error _ => walked
      | .ok tables =>
        let behind := walk token parameters rest walked.handle walked.world
        { behind with result := behind.result.map (tables ++ ·) } := by
  induction first generalizing h world with
  | nil =>
    rw [List.nil_append]
    simp only [walk, List.nil_append]
    rcases walk token parameters rest h world with ⟨e | tables, after, world'⟩ <;> rfl
  | cons statement others ih =>
    cases statement with
    | error e => rfl
    | ok p =>
      rw [List.cons_append, walk, walk]
      rcases p.ready h with ⟨ready, e | program⟩
      · rfl
      rcases token.run world with ⟨fired, world'⟩
      cases fired with
      | true => rfl
      | false =>
        simp only [Bool.false_eq_true, if_false]
        rcases step parameters p.names program ready with ⟨after, e | tables⟩
        · rfl
        · simp only [ih]
          rcases walk token parameters others after world' with ⟨e | inner, left, last⟩
          · rfl
          · simp only [Except.map]
            rcases walk token parameters rest left last with ⟨e | outer, left', last'⟩
            · rfl
            · simp only [List.append_assoc]

/-- A statement without parameters that takes no lock and gives no result. -/
theorem step_control {program : Program} (hwrites : program.writes = false)
    (hlock : ∀ readOnly, program.lock? readOnly = none) (hcolumns : program.columns = [])
    (parameters : List Parameter) (h : Handle) :
    step parameters [] program h =
      ((program.act h []).1, (program.act h []).2.map (resultTables [])) := by
  have hbind : bind h parameters [] = .ok [] := rfl
  rw [step, hbind, hcolumns]
  simp only [Program.run, Program.take, hwrites, hlock, Bool.false_and, Bool.false_eq_true,
    if_false]
  rcases program.act h [] with ⟨after, e | rows⟩ <;> rfl

variable {opening closing : Prepared} {name : String}

theorem walk_opening (hstatement : opening.statement = .savepoint name)
    (hnames : opening.names = []) (parameters : List Parameter)
    (rest : List (Except SqlError Prepared)) (h : Handle) (world : W) :
    walk Connection.uncancelled parameters (.ok opening :: rest) h world =
      walk Connection.uncancelled parameters rest (h.savepoint name) world := by
  have hready : opening.ready h = (h, .ok (.savepoint name)) := by
    simp only [Prepared.ready, Prepared.survey, Prepared.program, hstatement]
    rfl
  have hstep : step parameters [] (.savepoint name) h = (h.savepoint name, .ok []) :=
    step_control rfl (fun _ ↦ rfl) rfl parameters h
  rw [walk, hready, hnames]
  simp only [hstep]
  rcases hrest : walk Connection.uncancelled parameters rest (h.savepoint name) world with
    ⟨e | tables, after, world'⟩
  · simp [Connection.uncancelled, StateT.run, hrest, Except.map]
  · simp [Connection.uncancelled, StateT.run, hrest, Except.map]

theorem walk_closing (hstatement : closing.statement = .release name)
    (hnames : closing.names = []) (parameters : List Parameter) (h : Handle) (world : W) :
    walk Connection.uncancelled parameters [.ok closing] h world =
      ⟨(h.release name).2.map fun _ ↦ [], (h.release name).1, world⟩ := by
  have hready : closing.ready h = (h, .ok (.release name)) := by
    simp only [Prepared.ready, Prepared.survey, Prepared.program, hstatement]
    rfl
  have hstep : step parameters [] (.release name) h =
      ((h.release name).1, ((h.release name).2.map fun _ ↦ []).map (resultTables [])) :=
    step_control rfl (fun _ ↦ rfl) rfl parameters h
  rw [walk, hready, hnames]
  simp only [hstep]
  rcases h.release name with ⟨after, e | ⟨⟩⟩
  · rfl
  · rfl

/-- What becomes of statements between a savepoint and its release. -/
theorem walk_block (hopening : opening.statement = .savepoint name) (hnone : opening.names = [])
    (hclosing : closing.statement = .release name) (hnone' : closing.names = [])
    (parameters : List Parameter) (body : List (Except SqlError Prepared)) (h : Handle)
    (world : W) :
    walk Connection.uncancelled parameters (.ok opening :: body ++ [.ok closing]) h world =
      let inner := walk Connection.uncancelled parameters body (h.savepoint name) world
      match inner.result with
      | .error _ => inner
      | .ok tables => ⟨(inner.handle.release name).2.map fun _ ↦ tables,
          (inner.handle.release name).1, inner.world⟩ := by
  rw [List.cons_append, walk_opening hopening hnone, walk_append]
  rcases walk Connection.uncancelled parameters body (h.savepoint name) world with
    ⟨e | tables, after, world'⟩
  · rfl
  · simp only [walk_closing hclosing hnone']
    rcases after.release name with ⟨last, e | ⟨⟩⟩
    · rfl
    · simp only [Except.map, List.append_nil]

end SqlGateway.Sqlite
