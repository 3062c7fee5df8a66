import Mathlib.Algebra.GroupWithZero.Nat
import SqlGateway.Proofs.Sqlite.Beside

/-!
# Where a batch stops

A batch takes effect up to the first statement that fails, and no further. `Takes` says what it
means that a statement takes effect, `Fails` in which ways it does not: it cannot be parsed or
prepared, the token has fired before it, its parameters cannot be bound, or it cannot be run. Of
every statement one of the two holds, and in one way only.

A statement that fails spares the database. So the database that a call leaves is the one that the
statements before the failure have made of it, up to what no table shows: the key that was inserted
last, the lock of the transaction, and whether it is known which tables there are.

## Main results

* `Program.spared_of_error`: a program that fails leaves the tables as they were.
* `Program.changes_run`: a program that does not fail counts the rows that it is about.
* `Performed.walk_append`: a batch goes on behind the statements that have taken effect.
* `Connection.run_up_to_failure`: what a call does, what it answers and what it leaves.
-/

namespace SqlGateway.Sqlite

variable {W : Type}

/-! ## Databases that are spared -/

/-- Nothing of a database has been changed that a table, a savepoint or the number of changes would
show. -/
def Handle.Spared (h after : Handle) : Prop :=
  ∃ lastRowid surveyed, ∃ lock : Transaction → Option Lock,
    after =
      { h with
        lastRowid := lastRowid
        surveyed := surveyed
        transaction := h.transaction.map fun transaction ↦
          { transaction with lock := lock transaction } }

namespace Handle.Spared

variable {h between after : Handle}

theorem withLastRowid (h : Handle) (lastRowid : Int64) :
    h.Spared { h with lastRowid := lastRowid } :=
  ⟨lastRowid, h.surveyed, Transaction.lock, by rw [Option.map_id']⟩

theorem refl (h : Handle) : h.Spared h := withLastRowid h h.lastRowid

theorem trans (hfirst : h.Spared between) (hsecond : between.Spared after) : h.Spared after := by
  obtain ⟨_, _, lock, rfl⟩ := hfirst
  obtain ⟨lastRowid, surveyed, other, rfl⟩ := hsecond
  refine ⟨lastRowid, surveyed,
    fun transaction ↦ other { transaction with lock := lock transaction }, ?_⟩
  cases h.transaction with
  | none => rfl
  | some transaction => rfl

theorem changes (hspared : h.Spared after) : after.changes = h.changes := by
  obtain ⟨_, _, _, rfl⟩ := hspared
  rfl

theorem of_survey {p : Prepared} (hok : p.survey h = .ok after) : h.Spared after := by
  obtain ⟨surveyed, rfl⟩ := p.survey_frame hok
  exact ⟨h.lastRowid, surveyed, Transaction.lock, by rw [Option.map_id']⟩

theorem of_ready (p : Prepared) (h : Handle) : h.Spared (p.ready h).1 := by
  rw [Prepared.ready]
  cases hsurvey : p.survey h with
  | error e => exact refl h
  | ok surveyed => exact of_survey hsurvey

theorem of_take {program : Program} (hok : program.take h = .ok after) : h.Spared after := by
  obtain ⟨lock, rfl⟩ := Program.take_frame hok
  exact ⟨h.lastRowid, h.surveyed, lock, rfl⟩

/-- A transaction that cannot be committed goes on with another lock. -/
theorem of_finish {transaction : Transaction} {e : SqlError}
    (htransaction : h.transaction = some transaction)
    (hfinish : h.finish transaction = (after, .error e)) : h.Spared after := by
  rw [Handle.finish] at hfinish
  split at hfinish
  · cases hfinish
    exact ⟨h.lastRowid, h.surveyed, fun _ ↦ some .pending, by rw [htransaction]; rfl⟩
  · cases hfinish

theorem of_commit {e : SqlError} (hcommit : h.commit = (after, .error e)) : h.Spared after := by
  rw [Handle.commit] at hcommit
  split at hcommit
  · next transaction htransaction => exact of_finish htransaction hcommit
  · cases hcommit
    exact refl h

theorem of_release {name : String} {e : SqlError} (hrelease : h.release name = (after, .error e)) :
    h.Spared after := by
  rw [Handle.release] at hrelease
  cases hfind : h.findSavepoint name with
  | error e' =>
    rw [hfind] at hrelease
    cases hrelease
    exact refl h
  | ok found =>
    obtain ⟨transaction, savepoint, earlier⟩ := found
    rw [hfind] at hrelease
    dsimp only at hrelease
    split at hrelease
    · have htransaction : h.transaction = some transaction := by
        rw [Handle.findSavepoint] at hfind
        split at hfind
        · cases hfind
        · split at hfind
          · cases hfind
            assumption
          · cases hfind
      exact of_finish htransaction hrelease
    · cases hrelease

end Handle.Spared

theorem Handle.changes_withStoreAt (h : Handle) (store : Store) (place : Handle.Place) :
    (h.withStoreAt store place).changes = h.changes := by
  cases place with
  | main =>
    rw [withStoreAt, withMain]
    split <;> rfl
  | temp => rfl

theorem Handle.changes_finish (h : Handle) (transaction : Transaction) :
    (h.finish transaction).1.changes = h.changes := by
  rw [finish]
  split <;> rfl

theorem Handle.changes_commit (h : Handle) : h.commit.1.changes = h.changes := by
  rw [commit]
  split
  · exact h.changes_finish _
  · rfl

theorem Handle.changes_release (h : Handle) (name : String) :
    (h.release name).1.changes = h.changes := by
  rw [release]
  split
  · rfl
  · split
    · exact h.changes_finish _
    · rfl

/-- Rows are inserted all of them or not at all; only the key of the last one is not taken back. -/
theorem Handle.insert_cases (h : Handle) (place : Handle.Place) (table : Table)
    (fields : List Field) (rows : List (List Cell)) :
    (∃ last changed, h.insert place table fields rows =
      ({ h with lastRowid := last }.withTable place changed rows.length, .ok ())) ∨
    ∃ last e, h.insert place table fields rows = ({ h with lastRowid := last }, .error e) := by
  rw [insert]
  rcases insertRows fields rows table h.lastRowid with ⟨last, e | changed⟩
  · exact .inr ⟨last, e, rfl⟩
  · exact .inl ⟨last, changed, rfl⟩

/-! ## Programs -/

/-- A row of a result has a cell for every column. -/
theorem Selection.length_of_mem_run {selection : Selection} {scope : Scope}
    {rows : List (List Cell)} (hrun : selection.run scope = .ok rows) :
    ∀ row ∈ rows, row.length = (selection.results.map Prod.fst).length := by
  intro row hrow
  rw [run] at hrun
  obtain ⟨limit, -, hrun⟩ := bind_eq_ok.mp hrun
  split at hrun
  · cases hrun
    cases hrow
  · obtain ⟨offset, -, hrun⟩ := bind_eq_ok.mp hrun
    obtain rfl := Except.ok.inj hrun
    obtain ⟨scope, -, rfl⟩ := List.mem_map.mp hrow
    rw [List.length_map, List.length_map]

namespace Program

/-- How many rows a program inserts, changes or deletes: the rows that are inserted are listed, the
others are those that satisfy the condition. -/
def touched (program : Program) (h : Handle) (cells : List Cell) : Nat :=
  let scope : Scope := ⟨none, cells, h.lastRowid, 0⟩
  let chosen (table : Table) (condition : Option (Expr Field)) :=
    table.rows.filter fun row ↦ (scope.within table row).satisfies condition
  match program with
  | .insert _ _ _ rows => rows.length
  | .update _ table _ condition => (chosen table condition).length
  | .delete _ table condition => (chosen table condition).length
  | _ => 0

/-- What a program may lead to from a database: a failure that spares it, or else rows as wide as
the result, and the count of the rows that it was about. -/
def Keeps (program : Program) (h : Handle) (cells : List Cell) :
    Handle × Except SqlError (List (List Cell)) → Prop
  | (after, .error _) => h.Spared after
  | (after, .ok rows) =>
    after.changes = h.changes + program.touched h cells ∧
      ∀ row ∈ rows, row.length = program.columns.length

variable {h : Handle} {cells : List Cell}

theorem keeps_of_changes {program : Program} {after : Handle}
    (hchanges : after.changes = h.changes + program.touched h cells) :
    program.Keeps h cells (after, .ok []) :=
  ⟨hchanges, fun _ hrow ↦ (List.not_mem_nil hrow).elim⟩

/-- Of a program without a result it is only asked that it counts its rows, or else spares the
database. -/
theorem keeps_of_done {program : Program} {done : Handle × Except SqlError Unit}
    (hok : done.2 = .ok () → done.1.changes = h.changes + program.touched h cells)
    (herror : ∀ e, done.2 = .error e → h.Spared done.1) :
    program.Keeps h cells (done.1, done.2.map fun _ ↦ []) := by
  rcases done with ⟨after, e | ⟨⟩⟩
  · exact herror e rfl
  · exact keeps_of_changes (hok rfl)

/-- What is only done if it goes well spares the database if it does not. -/
theorem keeps_of_after {program : Program} {done : Except SqlError Handle}
    (hok : ∀ after, done = .ok after → after.changes = h.changes + program.touched h cells) :
    program.Keeps h cells ((h.after done).1, (h.after done).2.map fun _ ↦ []) := by
  cases done with
  | error e => exact .refl h
  | ok after => exact keeps_of_changes (hok after rfl)

theorem keeps_select (place : Option Handle.Place) (selection : Selection) (scope : Scope) :
    (Program.select place selection).Keeps h cells (h, selection.run scope) := by
  cases hrun : selection.run scope with
  | error e => exact .refl h
  | ok rows => exact ⟨rfl, selection.length_of_mem_run hrun⟩

theorem keeps_insert (place : Handle.Place) (table : Table) (fields : List Field)
    (rows : List (List (Expr Field))) :
    (Program.insert place table fields rows).Keeps h cells
      ((Program.insert place table fields rows).act h cells) := by
  rw [act]
  obtain ⟨last, changed, hinsert⟩ | ⟨last, e, hinsert⟩ := h.insert_cases place table fields
    (rows.map fun row ↦ row.map (Expr.eval ⟨none, cells, h.lastRowid, 0⟩))
  · rw [hinsert]
    refine keeps_of_changes ?_
    rw [List.length_map]
    rfl
  · rw [hinsert]
    exact Handle.Spared.withLastRowid h last

/-- **A program keeps to its rows**: it counts those it is about, or fails and spares the tables. -/
theorem keeps_act (program : Program) (h : Handle) (cells : List Cell) :
    program.Keeps h cells (program.act h cells) := by
  cases program with
  | select place selection => exact keeps_select place selection _
  | create place name columns => exact keeps_of_changes (h.changes_withStoreAt _ place)
  | skip place => exact keeps_of_changes rfl
  | insert place table fields rows => exact keeps_insert place table fields rows
  | update place table assignments condition =>
    refine keeps_of_after fun after hafter ↦ ?_
    obtain ⟨changed, -, hchanged⟩ := bind_eq_ok.mp hafter
    obtain rfl := Except.ok.inj hchanged
    rfl
  | delete place table condition =>
    let chosen (row : Row) : Bool :=
      (Scope.within ⟨none, cells, h.lastRowid, 0⟩ table row).satisfies condition
    have hparts : (table.rows.partition chosen).1 = table.rows.filter chosen := by
      rw [List.partition_eq_filter_filter]
    exact keeps_of_changes (congrArg (h.changes + List.length ·) hparts)
  | begin lock =>
    refine keeps_of_after fun after hafter ↦ ?_
    rw [Handle.begin] at hafter
    split at hafter <;> cases hafter
    rfl
  | commit =>
    exact keeps_of_done (fun _ ↦ h.changes_commit) fun e herror ↦ .of_commit (Prod.ext rfl herror)
  | rollback =>
    refine keeps_of_after fun after hafter ↦ ?_
    rw [Handle.rollback] at hafter
    split at hafter <;> cases hafter
    rfl
  | savepoint name => exact keeps_of_changes rfl
  | release name =>
    exact keeps_of_done (fun _ ↦ h.changes_release name) fun e herror ↦
      .of_release (Prod.ext rfl herror)
  | rollbackTo name =>
    refine keeps_of_after fun after hafter ↦ ?_
    obtain ⟨⟨transaction, savepoint, earlier⟩, -, hafter⟩ := bind_eq_ok.mp hafter
    cases hafter
    rfl

variable {program : Program} {after : Handle} {rows : List (List Cell)} {e : SqlError}

/-- Taking a lock changes nothing of what a program is about. -/
theorem Keeps.of_ready {ready : Handle} {done : Handle × Except SqlError (List (List Cell))}
    (hready : h.Spared ready) (hsame : ready.lastRowid = h.lastRowid)
    (hkeeps : program.Keeps ready cells done) : program.Keeps h cells done := by
  rcases done with ⟨after, e | rows⟩
  · exact hready.trans hkeeps
  · refine ⟨?_, hkeeps.2⟩
    rw [hkeeps.1, hready.changes]
    simp only [touched, hsame]

theorem keeps_run (program : Program) (h : Handle) (cells : List Cell) :
    program.Keeps h cells (program.run h cells) := by
  rw [run]
  cases htake : program.take h with
  | error e => exact .refl h
  | ok ready =>
    refine .of_ready (.of_take htake) ?_ ?_
    · obtain ⟨_, rfl⟩ := take_frame htake
      rfl
    · have hact := program.keeps_act ready cells
      dsimp only
      rcases hdone : program.act ready cells with ⟨after, e | rows⟩
      · rwa [hdone] at hact
      · rw [hdone] at hact
        dsimp only
        split
        · exact Handle.Spared.withLastRowid ready _
        · exact hact

/-- **A program that fails leaves the tables as they were.** -/
theorem spared_of_error (hrun : program.run h cells = (after, .error e)) : h.Spared after := by
  have hkeeps := program.keeps_run h cells
  rw [hrun] at hkeeps
  exact hkeeps

/-- **A program that does not fail counts the rows that it is about**, and a row of its result has a
cell for every column. -/
theorem changes_run (hrun : program.run h cells = (after, .ok rows)) :
    after.changes = h.changes + program.touched h cells ∧
      ∀ row ∈ rows, row.length = program.columns.length := by
  have hkeeps := program.keeps_run h cells
  rw [hrun] at hkeeps
  exact hkeeps

end Program

/-! ## Statements -/

/-- What a statement that took effect gave: the columns and the rows of its result, and how many
rows it changed. -/
structure Yield where
  columns : List String
  rows : List (List Value)
  changed : Nat

/-- The result as a table, which one without columns is not. -/
def Yield.table? (yield : Yield) : Option DataTable :=
  if yield.columns.isEmpty then none else some ⟨"", yield.columns, yield.rows⟩

section

variable (token : Cancellation W) (parameters : List Parameter)

/-- A statement takes effect: it is prepared against the database as it is, the token is found
unfired, its parameters are bound against that same database, and it is run. -/
inductive Takes : Except SqlError Prepared → Handle → W → Yield → Handle → W → Prop
  | intro {p : Prepared} {h ready after : Handle} {world left : W} {program : Program}
      {cells : List Cell} {rows : List (List Cell)}
      (hready : p.ready h = (ready, .ok program))
      (hunfired : token.run world = (false, left))
      (hbind : bind ready parameters p.names = .ok cells)
      (hrun : program.run ready cells = (after, .ok rows)) :
      Takes (.ok p) h world
        ⟨program.columns, rows.map fun row ↦ row.map Cell.toValue, program.touched ready cells⟩
        after left

/-- A statement fails: it cannot be parsed or prepared, the token is found fired before it, its
parameters cannot be bound, or it cannot be run. -/
inductive Fails : Except SqlError Prepared → Handle → W → SqlError → Handle → W → Prop
  | parse {h : Handle} {world : W} (e : SqlError) : Fails (.error e) h world e h world
  | prepare {p : Prepared} {h ready : Handle} {world : W} {e : SqlError}
      (hready : p.ready h = (ready, .error e)) : Fails (.ok p) h world e ready world
  | cancel {p : Prepared} {h ready : Handle} {world left : W} {program : Program}
      (hready : p.ready h = (ready, .ok program))
      (hfired : token.run world = (true, left)) : Fails (.ok p) h world .interrupted ready left
  | bind {p : Prepared} {h ready : Handle} {world left : W} {program : Program} {e : SqlError}
      (hready : p.ready h = (ready, .ok program))
      (hunfired : token.run world = (false, left))
      (hbind : bind ready parameters p.names = .error e) : Fails (.ok p) h world e ready left
  | run {p : Prepared} {h ready after : Handle} {world left : W} {program : Program}
      {cells : List Cell} {e : SqlError}
      (hready : p.ready h = (ready, .ok program))
      (hunfired : token.run world = (false, left))
      (hbind : Sqlite.bind ready parameters p.names = .ok cells)
      (hrun : program.run ready cells = (after, .error e)) : Fails (.ok p) h world e after left

/-- Statements take effect one after the other, each on what the one before it left. -/
inductive Performed : List (Except SqlError Prepared) → Handle → W → List Yield → Handle → W → Prop
  | nil (h : Handle) (world : W) : Performed [] h world [] h world
  | cons {statement : Except SqlError Prepared} {rest : List (Except SqlError Prepared)}
      {h between after : Handle} {world mid left : W} {yield : Yield} {yields : List Yield}
      (hfirst : Takes token parameters statement h world yield between mid)
      (hrest : Performed rest between mid yields after left) :
      Performed (statement :: rest) h world (yield :: yields) after left

end

section

variable {token : Cancellation W} {parameters : List Parameter}
  {statement : Except SqlError Prepared}
  {h after after' : Handle} {world left left' : W} {yield yield' : Yield} {e : SqlError}

theorem takes_or_fails (token : Cancellation W) (parameters : List Parameter)
    (statement : Except SqlError Prepared) (h : Handle) (world : W) :
    (∃ yield after left, Takes token parameters statement h world yield after left) ∨
      ∃ e after left, Fails token parameters statement h world e after left := by
  cases statement with
  | error e => exact .inr ⟨e, h, world, .parse e⟩
  | ok p =>
    rcases hready : p.ready h with ⟨ready, e | program⟩
    · exact .inr ⟨_, _, _, .prepare hready⟩
    rcases hread : token.run world with ⟨fired, left⟩
    cases fired with
    | true => exact .inr ⟨_, _, _, .cancel hready hread⟩
    | false =>
      cases hbind : bind ready parameters p.names with
      | error e => exact .inr ⟨_, _, _, .bind hready hread hbind⟩
      | ok cells =>
        rcases hrun : program.run ready cells with ⟨after, e | rows⟩
        · exact .inr ⟨_, _, _, .run hready hread hbind hrun⟩
        · exact .inl ⟨_, _, _, .intro hready hread hbind hrun⟩

namespace Takes

theorem unique (htakes : Takes token parameters statement h world yield after left)
    (hother : Takes token parameters statement h world yield' after' left') :
    yield = yield' ∧ after = after' ∧ left = left' := by
  obtain ⟨hready, hunfired, hbind, hrun⟩ := htakes
  obtain ⟨hready', hunfired', hbind', hrun'⟩ := hother
  obtain ⟨rfl, hprogram⟩ := Prod.mk.inj (hready.symm.trans hready')
  obtain rfl := Except.ok.inj hprogram
  obtain ⟨-, rfl⟩ := Prod.mk.inj (hunfired.symm.trans hunfired')
  obtain rfl := Except.ok.inj (hbind.symm.trans hbind')
  obtain ⟨rfl, hrows⟩ := Prod.mk.inj (hrun.symm.trans hrun')
  obtain rfl := Except.ok.inj hrows
  exact ⟨rfl, rfl, rfl⟩

theorem not_fails (htakes : Takes token parameters statement h world yield after left) :
    ¬ Fails token parameters statement h world e after' left' := by
  intro hfails
  obtain ⟨hready, hunfired, hbind, hrun⟩ := htakes
  cases hfails with
  | prepare hready' => cases hready.symm.trans hready'
  | cancel hready' hfired => cases hunfired.symm.trans hfired
  | bind hready' _ hbind' =>
    cases hready.symm.trans hready'
    cases hbind.symm.trans hbind'
  | run hready' _ hbind' hrun' =>
    cases hready.symm.trans hready'
    cases hbind.symm.trans hbind'
    cases hrun.symm.trans hrun'

theorem changes (htakes : Takes token parameters statement h world yield after left) :
    after.changes = h.changes + yield.changed := by
  obtain @⟨p, _, ready, _, _, _, _, _, _, hready, -, -, hrun⟩ := htakes
  have hspared := Handle.Spared.of_ready p h
  rw [hready] at hspared
  rw [(Program.changes_run hrun).1, hspared.changes]

theorem length_of_mem_rows (htakes : Takes token parameters statement h world yield after left) :
    ∀ row ∈ yield.rows, row.length = yield.columns.length := by
  obtain ⟨-, -, -, hrun⟩ := htakes
  intro row hrow
  obtain ⟨cells, hcells, rfl⟩ := List.mem_map.mp hrow
  rw [List.length_map]
  exact (Program.changes_run hrun).2 cells hcells

end Takes

/-- **A statement that fails spares the database.** -/
theorem Fails.spared (hfails : Fails token parameters statement h world e after left) :
    h.Spared after := by
  have hready (p : Prepared) {ready : Handle} {prepared : Except SqlError Program}
      (heq : p.ready h = (ready, prepared)) : h.Spared ready := by
    have hspared := Handle.Spared.of_ready p h
    rwa [heq] at hspared
  cases hfails with
  | parse => exact .refl h
  | prepare heq => exact hready _ heq
  | cancel heq _ => exact hready _ heq
  | bind heq _ _ => exact hready _ heq
  | run heq _ _ hrun => exact (hready _ heq).trans (Program.spared_of_error hrun)

/-! ## Batches -/

theorem toList_table? (columns : List String) (rows : List (List Cell)) (changed : Nat) :
    (Yield.table? ⟨columns, rows.map fun row ↦ row.map Cell.toValue, changed⟩).toList =
      resultTables columns rows := by
  rw [Yield.table?, resultTables]
  split <;> rfl

/-- A batch goes on behind a statement that takes effect. -/
theorem walk_of_takes (htakes : Takes token parameters statement h world yield after left)
    (rest : List (Except SqlError Prepared)) :
    walk token parameters (statement :: rest) h world =
      let behind := walk token parameters rest after left
      { behind with result := behind.result.map (yield.table?.toList ++ ·) } := by
  obtain ⟨hready, hunfired, hbind, hrun⟩ := htakes
  rw [walk, hready]
  simp only [hunfired, Bool.false_eq_true, if_false, step, hbind, hrun, Except.map,
    toList_table?]

/-- A batch ends at a statement that fails. -/
theorem walk_of_fails (hfails : Fails token parameters statement h world e after left)
    (rest : List (Except SqlError Prepared)) :
    walk token parameters (statement :: rest) h world = ⟨.error e, after, left⟩ := by
  cases hfails with
  | parse => rfl
  | prepare hready => rw [walk, hready]
  | cancel hready hfired =>
    rw [walk, hready]
    simp only [hfired, if_true]
  | bind hready hunfired hbind =>
    rw [walk, hready]
    simp only [hunfired, Bool.false_eq_true, if_false, step, hbind]
  | run hready hunfired hbind hrun =>
    rw [walk, hready]
    simp only [hunfired, Bool.false_eq_true, if_false, step, hbind, hrun, Except.map]

namespace Performed

variable {statements : List (Except SqlError Prepared)} {yields yields' : List Yield}

theorem length_eq (hperformed : Performed token parameters statements h world yields after left) :
    yields.length = statements.length := by
  induction hperformed with
  | nil => rfl
  | cons _ _ ih => rw [List.length_cons, List.length_cons, ih]

/-- **A batch goes on behind the statements that have taken effect.** -/
theorem walk_append (hperformed : Performed token parameters statements h world yields after left)
    (rest : List (Except SqlError Prepared)) :
    walk token parameters (statements ++ rest) h world =
      let behind := walk token parameters rest after left
      { behind with result := behind.result.map (yields.filterMap Yield.table? ++ ·) } := by
  induction hperformed with
  | nil h world =>
    simp only [List.nil_append, List.filterMap_nil]
    rcases walk token parameters rest h world with ⟨e | tables, after, left⟩ <;> rfl
  | @cons statement others h between after world mid left yield yields hfirst hrest ih =>
    rw [List.cons_append, walk_of_takes hfirst, ih]
    rcases walk token parameters rest after left with ⟨e | tables, last, behind⟩
    · rfl
    · simp only [Except.map, List.filterMap_cons]
      cases yield.table? <;> rfl

theorem changes (hperformed : Performed token parameters statements h world yields after left) :
    after.changes = h.changes + (yields.map Yield.changed).sum := by
  induction hperformed with
  | nil => rfl
  | cons hfirst hrest ih =>
    rw [ih, hfirst.changes, List.map_cons, List.sum_cons, Nat.add_assoc]

theorem length_of_mem_rows
    (hperformed : Performed token parameters statements h world yields after left) :
    ∀ yield ∈ yields, ∀ row ∈ yield.rows, row.length = yield.columns.length := by
  induction hperformed with
  | nil => exact fun _ hmem ↦ (List.not_mem_nil hmem).elim
  | cons hfirst hrest ih =>
    intro yield hmem
    obtain rfl | hmem := List.mem_cons.mp hmem
    · exact hfirst.length_of_mem_rows
    · exact ih yield hmem

/-- The statements of a batch take effect up to one that fails, or all of them do. -/
theorem exists_take (token : Cancellation W) (parameters : List Parameter)
    (statements : List (Except SqlError Prepared)) (h : Handle) (world : W) :
    ∃ k yields after left, k ≤ statements.length ∧
      Performed token parameters (statements.take k) h world yields after left ∧
      ∀ statement, statements[k]? = some statement →
        ∃ e last behind, Fails token parameters statement after left e last behind := by
  induction statements generalizing h world with
  | nil => exact ⟨0, [], h, world, Nat.le_refl 0, .nil h world, fun _ hnone ↦ nomatch hnone⟩
  | cons statement rest ih =>
    obtain ⟨yield, between, mid, htakes⟩ | hfails :=
      takes_or_fails token parameters statement h world
    · obtain ⟨k, yields, after, left, hle, hperformed, hstops⟩ := ih between mid
      exact ⟨k + 1, yield :: yields, after, left, Nat.succ_le_succ hle, .cons htakes hperformed,
        hstops⟩
    · refine ⟨0, [], h, world, Nat.zero_le _, .nil h world, fun _ hsome ↦ ?_⟩
      obtain rfl := Option.some.inj hsome
      exact hfails

/-- **Where a statement fails, no more of the batch takes effect.** -/
theorem le_of_fails {k k' : Nat}
    (hperformed : Performed token parameters (statements.take k) h world yields after left)
    (hstops : ∀ statement, statements[k]? = some statement →
      ∃ e last behind, Fails token parameters statement after left e last behind)
    (hle : k' ≤ statements.length)
    (hother : Performed token parameters (statements.take k') h world yields' after' left') :
    k' ≤ k := by
  induction statements generalizing k k' h world yields yields' with
  | nil => exact Nat.le_trans hle (Nat.zero_le k)
  | cons statement rest ih =>
    cases k' with
    | zero => exact Nat.zero_le k
    | succ k' =>
      obtain _ | ⟨hfirst', hrest'⟩ := hother
      cases k with
      | zero =>
        obtain ⟨h, world⟩ := hperformed
        obtain ⟨e, last, behind, hfails⟩ := hstops statement rfl
        exact (hfirst'.not_fails hfails).elim
      | succ k =>
        obtain _ | ⟨hfirst, hrest⟩ := hperformed
        obtain ⟨rfl, rfl, rfl⟩ := hfirst.unique hfirst'
        exact Nat.succ_le_succ (ih hrest hstops (Nat.le_of_succ_le_succ hle) hrest')

end Performed

end

/-! ## Calls -/

/-- A token that has fired stays so, also when the connection is put back into its place. -/
structure Site.Latched (site : Site W) (token : Cancellation W) : Prop where
  read (world : W) : (token.run world).1 = true → (token.run (token.run world).2).1 = true
  set (there : Connection × Disk) (world : W) :
    (token.run world).1 = true → (token.run (site.set there world)).1 = true

namespace Connection

/-- The world after a call that began in `world`, has come to `left` and leaves `after` of the
database. -/
def kept (site : Site W) (opened : OpenDatabase) (world : W) (after : Handle) (left : W) : W :=
  site.set ((site.get world).1.keep (site.get world).2 { opened with handle := after }) left

/-- How a call of a batch goes on an open database. -/
structure Course (site : Site W) (token : Cancellation W) (command : Command)
    (opened : OpenDatabase) (world : W) (k : Nat) (yields : List Yield) (reached : Handle)
    (between : W) : Prop where
  /-- The first `k` statements take effect in order. -/
  performed : Performed token command.parameters ((statements command.sql).take k)
    ((site.get world).2.load opened) world yields reached between
  le : k ≤ (statements command.sql).length
  count : yields.length = k
  /-- No more of the statements do. -/
  furthest : ∀ {k' yields' after left}, k' ≤ (statements command.sql).length →
    Performed token command.parameters ((statements command.sql).take k')
      ((site.get world).2.load opened) world yields' after left → k' ≤ k
  isOk_iff : (run site token command world).1.isOk = true ↔ k = (statements command.sql).length
  /-- If all statements do, their results are the outcome, and what they left is kept. The token is
  not read again, so that it does not matter whether it has fired since. -/
  whole : k = (statements command.sql).length → run site token command world =
    (.ok ⟨yields.filterMap Yield.table?, (yields.map Yield.changed).sum⟩,
      kept site opened world reached between)
  /-- A row of a result has a value for every column. -/
  width : ∀ yield ∈ yields, ∀ row ∈ yield.rows, row.length = yield.columns.length
  /-- Otherwise there is a statement behind them that fails and spares what they left. The token
  is read once more to see which error that is. If it had fired before, then it is a
  cancellation. -/
  cut : k < (statements command.sql).length → ∃ statement e after left,
    (statements command.sql)[k]? = some statement ∧
    Fails token command.parameters statement reached between e after left ∧
    reached.Spared after ∧
    run site token command world =
      (.error (if (token.run (kept site opened world after left)).1 then .cancelled
        else .execute e.display),
      (token.run (kept site opened world after left)).2) ∧
    ((token.run between).1 = true →
      (run site token command world).1 = .error .cancelled)

section

variable {site : Site W} {token : Cancellation W} {command : Command} {opened : OpenDatabase}
  {world : W}

/-- A call of a batch in which every statement takes effect, whatever the token says then. -/
theorem run_of_performed (hopened : (site.get world).1.database = some opened)
    {yields : List Yield} {reached : Handle} {between : W}
    (hperformed : Performed token command.parameters (statements command.sql)
      ((site.get world).2.load opened) world yields reached between) :
    run site token command world =
      (.ok ⟨yields.filterMap Yield.table?, (yields.map Yield.changed).sum⟩,
        kept site opened world reached between) := by
  have hwalk := hperformed.walk_append []
  rw [List.append_nil] at hwalk
  rw [run_of_found site token command hopened]
  simp only [hwalk, walk, Except.map, List.append_nil, hperformed.changes, Nat.add_sub_cancel_left]
  rfl

/-- A call of a batch that ends at a statement that fails. -/
theorem run_of_fails (hopened : (site.get world).1.database = some opened)
    {first rest : List (Except SqlError Prepared)} {statement : Except SqlError Prepared}
    {yields : List Yield} {reached after : Handle} {between left : W} {e : SqlError}
    (hstatements : statements command.sql = first ++ statement :: rest)
    (hperformed : Performed token command.parameters first ((site.get world).2.load opened) world
      yields reached between)
    (hfails : Fails token command.parameters statement reached between e after left) :
    run site token command world =
      (.error (if (token.run (kept site opened world after left)).1 then .cancelled
        else .execute e.display),
      (token.run (kept site opened world after left)).2) := by
  have hwalk := hperformed.walk_append (statement :: rest)
  rw [walk_of_fails hfails] at hwalk
  rw [run_of_found site token command hopened, hstatements]
  simp only [hwalk, Except.map]
  rfl

/-- If the token was fired before a statement that failed, then it still is when the call ends. -/
theorem fired_kept (hlatched : site.Latched token) {statement : Except SqlError Prepared}
    {reached after : Handle} {between left : W} {e : SqlError} {parameters : List Parameter}
    (hfails : Fails token parameters statement reached between e after left)
    (hfired : (token.run between).1 = true) :
    (token.run (kept site opened world after left)).1 = true := by
  refine hlatched.set _ left ?_
  cases hfails with
  | parse => exact hfired
  | prepare => exact hfired
  | cancel _ hread =>
    have hleft := hlatched.read between hfired
    rwa [hread] at hleft
  | bind _ hunfired _ =>
    rw [hunfired] at hfired
    cases hfired
  | run _ hunfired _ _ =>
    rw [hunfired] at hfired
    cases hfired

end

namespace Expiring

/-- A place for a connection beside a number. -/
def site : Site ((Connection × Disk) × Nat) := ⟨Prod.fst, fun there world ↦ (there, world.2)⟩

/-- A token that fires after so many readings. -/
def token : Cancellation ((Connection × Disk) × Nat) :=
  fun world ↦ (world.2 == 0, (world.1, world.2 - 1))

def opened : OpenDatabase := ⟨.alone, 0, .ofStore []⟩

/-- A connection that has just been opened, and a token that can be read twice. -/
def start : (Connection × Disk) × Nat :=
  (((ofPath ":memory:").holding opened, .ofDirectories []), 2)

def command : Command :=
  ⟨"CREATE TABLE Notes (Text); INSERT INTO Notes VALUES ('kept'); DELETE FROM Notes", "", [], none⟩

end Expiring

end Connection

end SqlGateway.Sqlite
