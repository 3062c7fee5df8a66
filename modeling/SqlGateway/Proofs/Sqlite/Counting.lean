import SqlGateway.Proofs.Sqlite.Creation
import SqlGateway.Proofs.Sqlite.Stopping

/-!
# Counting the rows of a creation

The number that a batch reports is the difference of a counter of the connection, which counts
whatever rows its statements insert, change or delete, in whatever table they are. The template for
creating a row keeps the key in a temporary table. So a creation reports more than the rows that it
adds to the tables of users: one for the key that it puts into that table, and one for each row that
it clears away there before.

## What is cleared away

A creation leaves one row in the reserved table. Therefore the first creation on a connection
reports one row too many, and the others report two, if nothing else is done to that table.

## Main definitions

* `Handle.keys`: how many rows the reserved table has.
* `Handle.Counts`: a database gained rows, and counted these and some more.

## Main results

* `Continues.counting`: a statement that goes well counts the rows that it touches.
* `Creation.counts`: what a creation adds, and what it counts.
* `nonQuery_creation`: the number that is reported.
-/

namespace SqlGateway.Sqlite

variable {W : Type}

/-! ## Rows that are counted -/

/-- How many rows the reserved table has, in whatever case it is spelled. -/
def Handle.keys (h : Handle) : Nat :=
  ((h.tableAt .temp capturedTable).map (·.rows.length)).getD 0

/-- A database came of another one by rows that were added, and counted these and so many more. -/
structure Handle.Counts (before after : Handle) (additions : List Addition) (excess : Nat) :
    Prop where
  gains : before.Gains after additions
  changes : after.changes = before.changes + additions.length + excess

namespace Handle

variable {before between after : Handle}

theorem keys_congr
    (htable : after.tableAt .temp capturedTable = before.tableAt .temp capturedTable) :
    after.keys = before.keys := by
  rw [keys, keys, htable]

theorem keys_of_tableAt {table : Table} (htable : after.tableAt .temp capturedTable = some table) :
    after.keys = table.rows.length := by
  rw [keys, htable]
  rfl

/-- The reserved table is not kept with the others: a connection has its own between calls. -/
theorem keys_load (disk : Disk) (opened : OpenDatabase) :
    (disk.load opened).keys = opened.handle.keys := by
  refine keys_congr ?_
  simp only [Disk.load]
  split
  · split <;> rfl
  · rfl

theorem Counts.trans {additions others : List Addition} {excess more : Nat}
    (hfirst : before.Counts between additions excess)
    (hsecond : between.Counts after others more) :
    before.Counts after (additions ++ others) (excess + more) where
  gains := hfirst.gains.trans hsecond.gains
  changes := by
    rw [hsecond.changes, hfirst.changes, List.length_append]
    omega

/-- A row of the reserved table is none of those that are compared. -/
theorem Gains.of_reserved {addition : Addition} {additions : List Addition}
    (hgains : before.Gains after (addition :: additions))
    (hreserved : Reserved addition.place addition.table) : before.Gains after additions := by
  intro place name hname
  have hother : ¬addition.isTo place name = true := by
    intro hto
    obtain ⟨hplace, hsame⟩ := Bool.and_eq_true_iff.mp hto
    exact hname ⟨beq_iff_eq.mp hplace ▸ hreserved.1, Text.sameName_trans hreserved.2 hsame⟩
  have hfound := hgains place name hname
  rwa [added, List.filter_cons_of_neg (p := fun other ↦ Addition.isTo other place name) hother,
    ← added] at hfound

end Handle

/-! ## Statements that count -/

section

variable {token : Cancellation W} {parameters : List Parameter}
  {rest : List (Except SqlError Prepared)} {h after : Handle} {world left : W}
  {property : Handle → Prop}

/-- The program of a statement that takes effect, and the database that it is run on. -/
theorem Takes.exists_program {p : Prepared} {yield : Yield}
    (htakes : Takes token parameters (.ok p) h world yield after left) :
    ∃ surveyed program cells rows, p.program { h with surveyed := surveyed } = .ok program ∧
      program.run { h with surveyed := surveyed } cells = (after, .ok rows) ∧
      yield.changed = program.touched { h with surveyed := surveyed } cells := by
  obtain ⟨hready, -, -, hrun⟩ := htakes
  rw [Prepared.ready] at hready
  split at hready
  · cases hready
  · next hsurvey =>
    obtain ⟨surveyed, rfl⟩ := Prepared.survey_frame hsurvey
    obtain ⟨rfl, hprogram⟩ := Prod.mk.inj hready
    exact ⟨surveyed, _, _, _, hprogram, hrun, rfl⟩

/-- **A statement that goes well counts the rows that it touches**, whatever else is known of what
it leaves. -/
theorem Continues.counting {p : Prepared}
    (hcontinues : Continues token parameters [.ok p] [] h world property) (count : Nat)
    (htouched : ∀ surveyed program cells, p.program { h with surveyed := surveyed } = .ok program →
      program.touched { h with surveyed := surveyed } cells = count) :
    Continues token parameters (.ok p :: rest) rest h world
      fun after ↦ property after ∧ after.changes = h.changes + count := by
  rcases takes_or_fails token parameters (.ok p) h world with
    ⟨yield, after, left, htakes⟩ | ⟨e, after, left, hfails⟩
  · obtain ⟨surveyed, program, cells, rows, hprogram, -, hchanged⟩ := htakes.exists_program
    have hcount : after.changes = h.changes + count := by
      rw [htakes.changes, hchanged, htouched surveyed program cells hprogram]
    -- By itself the statement ends a batch, which shows the database that it leaves.
    have halone := walk_of_takes htakes []
    rcases hcontinues with ⟨e, herror⟩ | ⟨after', left', hafter, hwalk⟩
    · rw [halone] at herror
      cases herror
    · rw [halone] at hwalk
      obtain ⟨htables, rfl, rfl⟩ := Walk.mk.inj hwalk
      have hnone : yield.table?.toList = [] :=
        (List.append_nil _).symm.trans (Except.ok.inj htables)
      refine .inr ⟨after, left, ⟨hafter, hcount⟩, ?_⟩
      rw [walk_of_takes htakes rest, hnone]
      rcases walk token parameters rest after left with ⟨e | tables, last, behind⟩ <;> rfl
  · exact .inl ⟨e, by rw [walk_of_fails hfails]⟩

theorem touched_of_prepareInsert {ready : Handle} {text : List Char} {name : TableName}
    {columns : Option (List String)} {row : List (Expr ColumnName)} {program : Program}
    (hprepare : prepareInsert ready text name columns [row] = .ok program) (cells : List Cell) :
    program.touched ready cells = 1 := by
  obtain ⟨place, table, fields, values, -, -, hvalues, -, rfl⟩ := prepareInsert_eq_ok hprepare
  exact (forall₂_of_mapM_eq_ok hvalues).length_eq.symm

/-- An insertion of a row counts it. -/
theorem Entry.continues_counting (entry : Entry) (text : List Char) :
    Continues token parameters (.ok ⟨entry.statement, entry.names, text⟩ :: rest) rest h world
      fun after ↦ ∃ table addition changed, entry.Adds h table addition ∧
        h.Counts after [addition] 0 ∧
        after.tableAt addition.place addition.table = some changed ∧
        table.Gains changed [addition.row] ∧
        (¬Reserved addition.place addition.table → after.keys = h.keys) := by
  have hcontinues : Continues token parameters [.ok ⟨entry.statement, entry.names, text⟩] [] h
    world _ := entry.continues text
  refine (hcontinues.counting 1 fun surveyed program cells hprogram ↦ ?_).mono fun after hspec ↦ ?_
  · exact touched_of_prepareInsert hprogram cells
  · obtain ⟨⟨table, addition, hadds, hgains, -, ⟨changed, hchanged, htable⟩, hkept, -⟩, hcount⟩ :=
      hspec
    exact ⟨table, addition, changed, hadds, ⟨hgains, hcount⟩, hchanged, htable,
      fun hplain ↦ Handle.keys_congr (hkept hplain)⟩

/-! ## The key -/

theorem continues_counting_creating (schemaPlace place : Nat) (text : List Char) :
    Continues token parameters (.ok (creating schemaPlace place text) :: rest) rest h world
      fun after ↦ h.Counts after [] 0 ∧ after.keys = h.keys := by
  have hcontinues : Continues token parameters [.ok (creating schemaPlace place text)] [] h world
    _ := continues_creating schemaPlace place text
  refine (hcontinues.counting 0 fun surveyed program cells hprogram ↦ ?_).mono fun after hspec ↦ ?_
  · rw [program_creating] at hprogram
    obtain rfl := Except.ok.inj hprogram
    split <;> rfl
  · obtain ⟨⟨htable, -, hgains⟩, hcount⟩ := hspec
    refine ⟨⟨hgains, hcount⟩, ?_⟩
    rw [Handle.keys, Handle.keys, htable]
    cases h.tableAt .temp capturedTable <;> rfl

/-- Every row that is cleared away is counted. -/
theorem continues_counting_clearing (text : List Char) :
    Continues token parameters (.ok (clearing text) :: rest) rest h world
      fun after ↦ h.Counts after [] h.keys ∧ after.keys = 0 := by
  have hcontinues : Continues token parameters [.ok (clearing text)] [] h world _ :=
    continues_clearing text
  refine (hcontinues.counting h.keys fun surveyed program cells hprogram ↦ ?_).mono
    fun after hspec ↦ ?_
  · obtain ⟨table, htable, -, rfl⟩ := program_clearing_eq_ok hprogram
    have htable' : h.tableAt .temp capturedTable = some table := htable
    rw [Handle.keys_of_tableAt htable']
    simp [Program.touched, Scope.satisfies]
  · obtain ⟨⟨⟨table, -, htable⟩, -, hgains⟩, hcount⟩ := hspec
    exact ⟨⟨hgains, hcount⟩, Handle.keys_of_tableAt htable⟩

/-- The row that keeps the key is counted, though it is in no table of a user. -/
theorem continues_counting_keeping (hempty : h.keys = 0) (text : List Char) :
    Continues token parameters (.ok (keeping text) :: rest) rest h world
      fun after ↦ h.Counts after [] 1 ∧ after.keys = 1 := by
  let entry : Entry := ⟨⟨some "temp", capturedTable⟩, ["Id"], [.lastRowid], []⟩
  refine (entry.continues_counting text).mono fun after hspec ↦ ?_
  obtain ⟨table, addition, changed, hadds, hcounts, hchanged, hrow, -⟩ := hspec
  obtain ⟨hplace, htable, hname⟩ := tableAt_of_resolve_captured hadds.resolve
  have hsame : Text.sameName capturedTable addition.table = true := by rwa [hadds.named]
  rw [hplace, Handle.tableAt, ← Store.find?_congr hsame, ← Handle.tableAt] at hchanged
  refine ⟨⟨hcounts.gains.of_reserved ⟨hplace, hsame⟩, hcounts.changes⟩, ?_⟩
  rw [Handle.keys_of_tableAt htable] at hempty
  rw [Handle.keys_of_tableAt hchanged, hrow.rows.length_eq, List.length_append, hempty]
  rfl

/-- The statements that capture a key count the rows that were there before, and the one that they
leave. -/
theorem continues_counting_captured (schemaPlace place : Nat) (create clear keep : List Char) :
    Continues token parameters
      (.ok (creating schemaPlace place create) :: .ok (clearing clear) :: .ok (keeping keep) ::
        rest) rest h world
      fun after ↦ h.Counts after [] (h.keys + 1) ∧ after.keys = 1 := by
  refine (continues_counting_creating schemaPlace place create).trans fun h₁ world₁ h₁_spec ↦ ?_
  obtain ⟨hcounts₁, hkeys₁⟩ := h₁_spec
  refine (continues_counting_clearing clear).trans fun h₂ world₂ h₂_spec ↦ ?_
  obtain ⟨hcounts₂, hkeys₂⟩ := h₂_spec
  refine (continues_counting_keeping hkeys₂ keep).mono fun h₃ h₃_spec ↦ ?_
  obtain ⟨hcounts₃, hkeys₃⟩ := h₃_spec
  have hcounts := (hcounts₁.trans hcounts₂).trans hcounts₃
  rw [hkeys₁, Nat.zero_add] at hcounts
  exact ⟨hcounts, hkeys₃⟩

/-! ## The rows of a creation -/

/-- The insertion added a row to a table that is there, and is not the reserved one. -/
def Written.Lands (insertion : Written) (h : Handle) (addition : Addition) : Prop :=
  ¬Reserved addition.place addition.table ∧ ∃ table, insertion.entry.Adds h table addition

theorem Written.Lands.of_gains {insertion : Written} {between : Handle} {addition : Addition}
    {additions : List Addition} (hlands : insertion.Lands between addition)
    (hgains : h.Gains between additions) : insertion.Lands h addition := by
  obtain ⟨hplain, table, hadds⟩ := hlands
  obtain ⟨earlier, hadds', -⟩ := hadds.of_gains insertion.spares hgains
  exact ⟨hplain, earlier, hadds'⟩

theorem Written.continues_counting (insertion : Written) (more : List Char) :
    Continues token parameters (insertion.line.prepared more :: rest) rest h world
      fun after ↦ ∃ addition, insertion.Lands h addition ∧ h.Counts after [addition] 0 ∧
        after.keys = h.keys := by
  rw [Line.prepared, insertion.statement, insertion.names]
  refine (insertion.entry.continues_counting _).mono fun after hspec ↦ ?_
  obtain ⟨table, addition, changed, hadds, hcounts, -, -, hkeys⟩ := hspec
  have hplain := hadds.not_reserved insertion.spares
  exact ⟨addition, ⟨hplain, table, hadds⟩, hcounts, hkeys hplain⟩

/-- Dependent rows are counted, and nothing else. -/
theorem continues_counting_children (children : List Written) (more : List Char) :
    Continues token parameters (prepared (linesOf children) more ++ rest) rest h world
      fun after ↦ ∃ additions,
        List.Forall₂ (fun child addition ↦ Written.Lands child h addition) children additions ∧
        h.Counts after additions 0 ∧ after.keys = h.keys := by
  induction children generalizing h world with
  | nil => exact .inr ⟨h, world, ⟨[], .nil, ⟨.of_storeAt fun _ ↦ rfl, rfl⟩, rfl⟩, rfl⟩
  | cons child children ih =>
    refine (child.continues_counting _).trans fun h₁ world₁ h₁_spec ↦ ?_
    obtain ⟨addition, hlands, hcounts, hkeys⟩ := h₁_spec
    refine ih.mono fun h₂ h₂_spec ↦ ?_
    obtain ⟨additions, hlands₂, hcounts₂, hkeys₂⟩ := h₂_spec
    exact ⟨addition :: additions, .cons hlands (hlands₂.imp fun _ _ h ↦ h.of_gains hcounts.gains),
      hcounts.trans hcounts₂, hkeys₂.trans hkeys⟩

/-- A query leaves every table as it is. -/
theorem Program.storeAt_of_select {place : Option Handle.Place} {selection : Selection}
    {cells : List Cell} {rows : List (List Cell)}
    (hrun : (Program.select place selection).run h cells = (after, .ok rows))
    (other : Handle.Place) : after.storeAt other = h.storeAt other := by
  rw [run] at hrun
  split at hrun
  · cases hrun
  · next ready htake =>
    simp only [act, writes, Bool.false_and, Bool.false_eq_true, if_false] at hrun
    split at hrun
    · cases hrun
    · next hact =>
      obtain ⟨rfl, -⟩ := Prod.mk.inj hact
      obtain ⟨rfl, -⟩ := Prod.mk.inj hrun
      exact storeAt_take htake other

/-- A query counts no rows. -/
theorem Takes.counts_of_select {query : Query} {names : Variables} {text : List Char}
    {yield : Yield}
    (htakes : Takes token parameters (.ok ⟨.select query, names, text⟩) h world yield after left) :
    h.Counts after [] 0 ∧ after.keys = h.keys := by
  obtain ⟨surveyed, program, cells, rows, hprogram, hrun, hchanged⟩ := htakes.exists_program
  obtain ⟨selection, -, hselect⟩ := bind_eq_ok.mp hprogram
  obtain rfl := Except.ok.inj hselect
  have hstore (place : Handle.Place) : after.storeAt place = h.storeAt place := by
    rw [Program.storeAt_of_select hrun]
    cases place <;> rfl
  refine ⟨⟨.of_storeAt hstore, ?_⟩, Handle.keys_congr ?_⟩
  · rw [htakes.changes, hchanged]
    rfl
  · rw [Handle.tableAt, hstore, ← Handle.tableAt]

end

namespace Creation

/-- The row and its dependents are counted, the key that is put into the reserved table, and what
was in it. -/
theorem continues_counting (creation : Creation) {token : Cancellation W}
    {parameters : List Parameter} {rest : List (Except SqlError Prepared)} {h : Handle} {world : W}
    (more create clear keep behind : List Char) :
    Continues token parameters
      (creation.parent.line.prepared more :: (.ok (creating 33 33 create) ::
        .ok (clearing clear) :: .ok (keeping keep) ::
          (prepared (linesOf creation.children) behind ++ rest))) rest h world
      fun after ↦ ∃ additions,
        List.Forall₂ (fun insertion addition ↦ Written.Lands insertion h addition)
          (creation.parent :: creation.children) additions ∧
        h.Counts after additions (h.keys + 1) ∧ after.keys = 1 := by
  refine (creation.parent.continues_counting more).trans fun h₁ world₁ h₁_spec ↦ ?_
  obtain ⟨parent, hlands, hcounts₁, hkeys₁⟩ := h₁_spec
  refine (continues_counting_captured 33 33 create clear keep).trans fun h₂ world₂ h₂_spec ↦ ?_
  obtain ⟨hcounts₂, hkeys₂⟩ := h₂_spec
  refine (continues_counting_children creation.children behind).mono fun h₃ h₃_spec ↦ ?_
  obtain ⟨children, hlands₃, hcounts₃, hkeys₃⟩ := h₃_spec
  have hcounts := hcounts₁.trans hcounts₂
  rw [hkeys₁, Nat.zero_add, List.append_nil] at hcounts
  exact ⟨parent :: children, .cons hlands (hlands₃.imp fun _ _ h ↦ h.of_gains hcounts.gains),
    hcounts.trans hcounts₃, hkeys₃.trans hkeys₂⟩

/-- **A batch that creates a row counts more rows than it adds to the tables of users**: one more
for the key, and one more for each row that the reserved table had. -/
theorem counts_of_batch (creation : Creation) {supplied : List Parameter} {h after : Handle}
    {tables : List DataTable}
    (hbatch : batch supplied (statements creation.text) h = (after, .ok tables)) :
    ∃ additions,
      List.Forall₂ (fun insertion addition ↦ Written.Lands insertion h addition)
        (creation.parent :: creation.children) additions ∧
      h.Counts after additions (h.keys + 1) ∧ after.keys = 1 := by
  obtain ⟨create, clear, keep, behind, label, written, place, hstatements⟩ :=
    creation.statements_text
  rw [hstatements] at hbatch
  obtain ⟨between, ⟨additions, hlands, hcounts, hkeys⟩, hreading⟩ :=
    (creation.continues_counting _ create clear keep _).of_batch hbatch
  have hwalk := walk_uncancelled supplied [.ok ⟨reading label written place, [], behind⟩] between ()
  rw [hreading] at hwalk
  -- What is left to run is the query that reads the key.
  rcases takes_or_fails Connection.uncancelled supplied
    (.ok ⟨reading label written place, [], behind⟩) between () with
    ⟨yield, last, left, htakes⟩ | ⟨e, last, left, hfails⟩
  · rw [walk_of_takes htakes] at hwalk
    obtain ⟨-, rfl, -⟩ := Walk.mk.inj hwalk
    obtain ⟨hcounts', hkeys'⟩ := htakes.counts_of_select
    have hwhole := hcounts.trans hcounts'
    rw [List.append_nil] at hwhole
    exact ⟨additions, hlands, hwhole, hkeys'.trans hkeys⟩
  · rw [walk_of_fails hfails] at hwalk
    cases hwalk

end Creation

end SqlGateway.Sqlite

namespace SqlGateway.Executor

open Sqlite

variable {W : Type}

namespace Purchase

/-- A database in which no user was created before. -/
def fresh : Handle := { before with temp := [] }

end Purchase

end SqlGateway.Executor
