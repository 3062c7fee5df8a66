import SqlGateway.Proofs.Inference.Binding
import SqlGateway.Proofs.Sqlite.Preparation

/-!
# Inserting a row

A statement that inserts a single row puts it into the table that it names, under a key that no
other row has, and that key becomes the last one. What the row holds is decided by the places of the
values: a value goes to the column in its place, unless the column is named in another place, too.

## The captured key

While a key is captured, every value that is the reserved parameter is that key. The insertion does
not touch what is captured, and so the next one finds it there again, though the last key is another
one by then.
-/

namespace SqlGateway.Sqlite

variable {W : Type}

/-! ## Rows by field -/

/-- The cell of a field. -/
def Row.cell (row : Row) : Field → Cell
  | .key => .integer row.key
  | .column index => row.cells.getD index .null

/-- Only the key is declared as one, of however many columns. -/
def Table.Keyed (table : Table) : Prop :=
  ∀ index column, table.columns[index]? = some column → column.isKey = true →
    table.keyIndex? = some index

/-- A row holds a cell in the column of a name, as the column stores it. -/
def Table.Holds (table : Table) (row : Row) (name : String) (cell : Cell) : Prop :=
  ∃ field, table.field? name = some field ∧ row.cell field = (table.affinity field).store cell

/-- Only a text or a double is made of an integer. -/
theorem Affinity.store_integer {affinity : Affinity} (htext : affinity ≠ .text)
    (hreal : affinity ≠ .real) (i : Int64) : affinity.store (.integer i) = .integer i := by
  cases affinity with
  | text => exact absurd rfl htext
  | real => exact absurd rfl hreal
  | blob | numeric | integer => rfl

/-- A name for a column is the only one for it among others. -/
def Table.Once (table : Table) (columns : List String) (index : Nat) : Prop :=
  ∀ column other place, columns[index]? = some column → columns[place]? = some other →
    table.field? other = table.field? column → place = index

namespace Table

theorem columnIndex?_lt {table : Table} {name : String} {index : Nat}
    (h : table.columnIndex? name = some index) : index < table.columns.length :=
  (List.findIdx?_eq_some_iff_getElem.mp h).1

/-- A column that has a place of its own is not the key. -/
theorem field?_eq_column {table : Table} {name : String} {index : Nat}
    (h : table.field? name = some (.column index)) :
    index < table.columns.length ∧ table.keyIndex? ≠ some index := by
  rw [field?] at h
  split at h
  · next place hplace =>
    have hat := Option.some.inj h
    rw [fieldAt] at hat
    split at hat
    · cases hat
    · next hkey =>
      obtain rfl := Field.column.inj hat
      exact ⟨columnIndex?_lt hplace, hkey⟩
  · split at h
    · cases h
    · cases h

/-! ## Assigned cells -/

/-- The cell that some field is assigned, and no other one. -/
structure Assigns (values : List (Field × Cell)) (field : Field) (cell : Cell) : Prop where
  mem : (field, cell) ∈ values
  only : ∀ other, (field, other) ∈ values → other = cell

theorem Assigns.reverse {values : List (Field × Cell)} {field : Field} {cell : Cell}
    (h : Assigns values field cell) : Assigns values.reverse field cell where
  mem := List.mem_reverse.mpr h.mem
  only other hmem := h.only other (List.mem_reverse.mp hmem)

theorem Assigns.find? {values : List (Field × Cell)} {field : Field} {cell : Cell}
    (h : Assigns values field cell) :
    values.find? (·.1 == field) = some (field, cell) := by
  cases hfind : values.find? (·.1 == field) with
  | none =>
    have hnone := List.find?_eq_none.mp hfind (field, cell) h.mem
    exact absurd (beq_self_eq_true field) hnone
  | some found =>
    have hfield : found.1 = field := by
      have hequal := List.find?_some hfind
      exact beq_iff_eq.mp hequal
    obtain ⟨_, other⟩ := found
    obtain rfl := hfield
    rw [h.only other (List.mem_of_find?_eq_some hfind)]

theorem assignedKey?_of_assigns {values : List (Field × Cell)} {cell : Cell}
    (h : Assigns values .key cell) : assignedKey? values = some cell := by
  rw [assignedKey?, h.reverse.find?]
  rfl

theorem assigned_concat (table : Table) (cells : List Cell) (value : Field × Cell)
    (values : List (Field × Cell)) :
    assigned table cells (values ++ [value]) =
      assigned table (assigned table cells values) [value] :=
  List.foldl_append

theorem length_assigned (table : Table) (cells : List Cell) (values : List (Field × Cell)) :
    (assigned table cells values).length = cells.length := by
  induction values generalizing cells with
  | nil => rfl
  | cons value rest ih =>
    obtain ⟨field, cell⟩ := value
    rw [assigned, List.foldl_cons, ← assigned, ih]
    cases field with
    | key => cases table.keyIndex? <;> simp
    | column index => simp

/-- Of a column that is assigned more than once the last value counts. -/
theorem getElem?_assigned (table : Table) {cells : List Cell} {index : Nat}
    (hindex : index < cells.length) (hkey : table.keyIndex? ≠ some index)
    (values : List (Field × Cell)) :
    (assigned table cells values)[index]? =
      (((values.reverse.find? (·.1 == .column index)).map Prod.snd).or cells[index]?) := by
  -- The values are assigned one after the other, so the induction is from the right.
  induction values using List.reverseRecOn with
  | nil => rfl
  | append_singleton values value ih =>
    rw [assigned_concat, List.reverse_append, List.reverse_singleton, List.singleton_append,
      List.find?_cons]
    obtain ⟨field, cell⟩ := value
    have hlength := length_assigned table cells values
    by_cases hfield : field = .column index
    · subst hfield
      rw [beq_self_eq_true]
      exact List.getElem?_set_self (hlength ▸ hindex)
    · rw [beq_eq_false_iff_ne.mpr hfield, ← ih]
      cases field with
      | key =>
        cases hplace : table.keyIndex? with
        | none =>
          simp only [assigned, List.foldl_cons, List.foldl_nil, hplace]
          rfl
        | some place =>
          have hne : place ≠ index := fun heq ↦ hkey (heq ▸ hplace)
          simp only [assigned, List.foldl_cons, List.foldl_nil, hplace]
          exact List.getElem?_set_ne hne
      | column place =>
        have hne : place ≠ index := fun heq ↦ hfield (congrArg Field.column heq)
        exact List.getElem?_set_ne hne

/-! ## Rows of a table -/

/-- A column that is not the key stores the cell in its place. -/
theorem cell_rowOf {table : Table} (hkeyed : table.Keyed) {index : Nat}
    (hindex : index < table.columns.length) (hkey : table.keyIndex? ≠ some index)
    {cells : List Cell} {cell : Cell} (hcell : cells[index]? = some cell) (key : Int64) :
    (table.rowOf key cells).cell (.column index) =
      (table.affinity (.column index)).store cell := by
  have hcolumn := List.getElem?_eq_getElem hindex
  have hzip : (table.columns.zip cells)[index]? = some (table.columns[index], cell) :=
    List.getElem?_zip_eq_some.mpr ⟨hcolumn, hcell⟩
  have hplain : table.columns[index].isKey = false :=
    Bool.eq_false_iff.mpr fun hdeclared ↦ hkey (hkeyed index _ hcolumn hdeclared)
  simp only [Row.cell, rowOf, List.getD_eq_getElem?_getD, List.getElem?_map, hzip, affinity,
    hcolumn, Option.map_some, Option.getD_some, hplain]
  rfl

theorem place_perm (row : Row) (rows : List Row) : (place row rows).Perm (row :: rows) := by
  induction rows with
  | nil => exact .refl _
  | cons first rest ih =>
    rw [place]
    split
    · exact .refl _
    · exact (ih.cons first).trans (.swap row first rest)

theorem add_eq_ok {table changed : Table} {row : Row} (h : table.add row = .ok changed) :
    table.Gains changed [row] ∧ ∀ other ∈ table.rows, other.key ≠ row.key := by
  rw [add] at h
  split at h
  · cases h
  split at h
  · cases h
  · next hfresh =>
    split at h
    · cases h
    · obtain rfl := Except.ok.inj h
      refine ⟨⟨rfl, rfl, place_perm row table.rows⟩, fun other hmem hkey ↦ hfresh ?_⟩
      exact List.any_eq_true.mpr ⟨other, hmem, beq_iff_eq.mpr hkey⟩

/-- The key that a row is put in under. -/
def keyFor (table : Table) : (given : Option Cell) → Except SqlError Int64
  | none => .ok table.nextKey
  | some .null => .ok table.nextKey
  | some cell => keyOf cell

theorem insert_eq (table : Table) (given : Option Cell) (cells : List Cell) :
    table.insert given cells = do
      let key ← table.keyFor given
      return (key, ← table.add (table.rowOf key cells)) := by
  rcases given with _ | cell
  · rfl
  · cases cell <;> rfl

/-- A key that is given is taken. -/
theorem insert_eq_ok {table changed : Table} {given : Option Cell} {cells : List Cell}
    {key : Int64} (h : table.insert given cells = .ok (key, changed)) :
    table.add (table.rowOf key cells) = .ok changed ∧
      ∀ i, given = some (.integer i) → key = i := by
  rw [insert_eq] at h
  obtain ⟨taken, htaken, h⟩ := bind_eq_ok.mp h
  obtain ⟨added, hadded, h⟩ := bind_eq_ok.mp h
  obtain ⟨rfl, rfl⟩ := Prod.mk.inj (Except.ok.inj h)
  refine ⟨hadded, ?_⟩
  rintro i rfl
  exact (Except.ok.inj htaken).symm

end Table

/-! ## A row that was put in -/

/-- A row that was put into a table under a key of its own, for some values. -/
structure Inserted (table : Table) (values : List (Field × Cell)) (row : Row) : Prop where
  fresh : ∀ other ∈ table.rows, other.key ≠ row.key
  holds : table.Keyed → ∀ {name field key}, table.field? name = some field →
    Table.Assigns values field (.integer key) → table.Holds row name (.integer key)

theorem insertRows_eq_ok {fields : List Field} {cells : List Cell} {table changed : Table}
    {last key : Int64} (h : insertRows fields [cells] table last = (key, .ok changed)) :
    ∃ row, row.key = key ∧ table.Gains changed [row] ∧ Inserted table (fields.zip cells) row := by
  rw [insertRows] at h
  let values := fields.zip cells
  let empty := List.replicate table.columns.length Cell.null
  cases hinsert : table.insert (assignedKey? values) (assigned table empty values.reverse) with
  | error e =>
    simp only [values, empty] at hinsert
    rw [hinsert] at h
    cases h
  | ok inserted =>
    obtain ⟨taken, put⟩ := inserted
    obtain ⟨hadd, hgiven⟩ := Table.insert_eq_ok hinsert
    obtain ⟨hgains, hfresh⟩ := Table.add_eq_ok hadd
    simp only [values, empty] at hinsert
    rw [hinsert] at h
    obtain ⟨rfl, hput⟩ := Prod.mk.inj h
    obtain rfl := Except.ok.inj hput
    refine ⟨_, rfl, hgains, hfresh, fun hkeyed name field key hfield hassigns ↦ ?_⟩
    refine ⟨field, hfield, ?_⟩
    -- The key that is given is taken; any other field stores what it is assigned.
    cases field with
    | key =>
      obtain rfl := hgiven key (Table.assignedKey?_of_assigns hassigns)
      rfl
    | column index =>
      obtain ⟨hindex, hkey⟩ := Table.field?_eq_column hfield
      have hlength : index < empty.length := by
        rw [List.length_replicate]
        exact hindex
      have hcell := Table.getElem?_assigned table hlength hkey values.reverse
      rw [hassigns.reverse.reverse.find?] at hcell
      exact Table.cell_rowOf hkeyed hindex hkey hcell taken

/-- A program that inserts one row, if it goes well. -/
theorem Program.run_insert_eq_ok {place : Handle.Place} {table : Table} {fields : List Field}
    {values : List (Expr Field)} {h after : Handle} {cells : List Cell} {rows : List (List Cell)}
    (hfound : h.tableAt place table.name = some table)
    (hrun : (Program.insert place table fields [values]).run h cells = (after, .ok rows)) :
    ∃ row scope, scope.parameters = cells ∧ rows = [] ∧
      Inserted table (fields.zip (values.map (Expr.eval scope))) row ∧
      h.Gains after [⟨place, table.name, row⟩] ∧ after.lastRowid = row.key ∧
      (∃ changed, after.tableAt place table.name = some changed ∧ table.Gains changed [row]) ∧
      (¬Reserved place table.name →
        after.tableAt .temp capturedTable = h.tableAt .temp capturedTable) := by
  rw [run] at hrun
  cases htake : (Program.insert place table fields [values]).take h with
  | error e =>
    rw [htake] at hrun
    cases hrun
  | ok ready =>
    have hstore := Program.storeAt_take htake
    rw [htake] at hrun
    let scope : Scope := ⟨none, cells, ready.lastRowid, 0⟩
    rcases hinsert : insertRows fields [values.map (Expr.eval scope)] table ready.lastRowid with
      ⟨last, e | changed⟩
    · simp only [act, Handle.insert, List.map_cons, List.map_nil, scope] at hrun hinsert
      rw [hinsert] at hrun
      cases hrun
    · obtain ⟨row, rfl, hgains, hinserted⟩ := insertRows_eq_ok hinsert
      let put : Handle := { ready with lastRowid := row.key }
      simp only [act, Handle.insert, List.map_cons, List.map_nil, scope] at hrun hinsert
      rw [hinsert] at hrun
      simp only [Except.map] at hrun
      split at hrun
      · cases hrun
      · obtain ⟨rfl, hrows⟩ := Prod.mk.inj hrun
        obtain rfl := Except.ok.inj hrows
        -- The lock and the last key leave every table as it was.
        have hput (place : Handle.Place) (name : String) :
            put.tableAt place name = h.tableAt place name := by
          rw [Handle.tableAt, Handle.tableAt, ← hstore]
          cases place <;> rfl
        have hready : h.Gains put [] := .of_storeAt fun place ↦ by
          rw [← hstore]
          cases place <;> rfl
        refine ⟨row, scope, rfl, rfl, hinserted, ?_, Handle.lastRowid_withTable put _ _ _,
          ⟨changed, ?_, hgains⟩, fun hname ↦ ?_⟩
        · exact hready.trans (.of_withTable ((hput _ _).trans hfound) hgains _)
        · rw [← hgains.name] at hfound ⊢
          exact Handle.tableAt_withTable ((hput _ _).trans hfound) (Text.sameName_self _)
        · refine (Handle.tableAt_withTable_of_other put fun hplace ↦ ?_).trans (hput _ _)
          rw [hgains.name, Text.sameName_comm]
          exact Bool.eq_false_iff.mpr fun hsame ↦ hname ⟨hplace.symm, hsame⟩

/-! ## Statements that insert a row -/

/-- An insertion of one row, with the names of its parameters. -/
structure Entry where
  table : TableName
  columns : List String
  values : List (Expr ColumnName)
  names : Variables

namespace Entry

/-- What the insertion is as a statement. -/
def statement (entry : Entry) : Statement := .insert entry.table (some entry.columns) [entry.values]

/-- The insertion is into no table that is reserved. -/
def Spares (entry : Entry) : Prop :=
  ∀ place ∈ Handle.placesOf entry.table, ¬Reserved place entry.table.name

instance (entry : Entry) : Decidable entry.Spares :=
  inferInstanceAs (Decidable (∀ place ∈ Handle.placesOf entry.table, _))

/-- The value in a place is the parameter that the captured key is bound to. -/
def Refers (entry : Entry) (index : Nat) : Prop :=
  ∃ number written, entry.values[index]? = some (.parameter number) ∧
    entry.names[number - 1]? = some (some written) ∧
    Text.sameName (Parameter.bareName written) masterId = true

/-- A row that the insertion added to a table. -/
structure Adds (entry : Entry) (h : Handle) (table : Table) (addition : Addition) : Prop where
  resolve : h.resolve entry.table = .ok (addition.place, table)
  named : addition.table = table.name
  fresh : ∀ other ∈ table.rows, other.key ≠ addition.row.key

/-- A row holds a key in every column for which the insertion refers to the captured one. -/
def Keeps (entry : Entry) (table : Table) (row : Row) (key : Int64) : Prop :=
  table.Keyed → ∀ index column, entry.Refers index → entry.columns[index]? = some column →
    table.Once entry.columns index → table.Holds row column (.integer key)

/-- The table that a row is added to is called as it is written, up to the case of letters. -/
theorem Adds.not_reserved {entry : Entry} {h : Handle} {table : Table} {addition : Addition}
    (hadds : entry.Adds h table addition) (hspares : entry.Spares) :
    ¬Reserved addition.place addition.table := by
  obtain ⟨-, hsame, hplace⟩ := Handle.tableAt_of_resolve hadds.resolve
  rw [hadds.named]
  exact fun hreserved ↦
    hspares addition.place hplace ⟨hreserved.1, Text.sameName_trans hreserved.2 hsame⟩

end Entry

theorem exists_getElem?_of_forall₂ {α β : Type} {related : α → β → Prop} {items : List α}
    {others : List β} (h : List.Forall₂ related items others) {index : Nat} {item : α}
    (hitem : items[index]? = some item) :
    ∃ other, others[index]? = some other ∧ related item other := by
  obtain ⟨hindex, rfl⟩ := List.getElem?_eq_some_iff.mp hitem
  have hother : index < others.length := h.length_eq ▸ hindex
  exact ⟨others[index], List.getElem?_eq_getElem hother, h.get hindex hother⟩

/-- The value of a parameter goes to the field of the column in its place, and to no other one. -/
theorem assigns_of_once {name : TableName} {table : Table} {columns : List String}
    {fields : List Field} (hfields : insertedFields name table (some columns) = .ok fields)
    {cells : List Cell} {index : Nat} {column : String} (hcolumn : columns[index]? = some column)
    (honce : table.Once columns index) {cell : Cell} (hcell : cells[index]? = some cell) :
    ∃ field, table.field? column = some field ∧ Table.Assigns (fields.zip cells) field cell := by
  have hfields : List.Forall₂ (fun column field ↦ table.field? column = some field) columns
      fields := by
    refine (forall₂_of_mapM_eq_ok hfields).imp fun column field hfield ↦ ?_
    cases hfound : table.field? column with
    | none =>
      rw [hfound] at hfield
      cases hfield
    | some found =>
      rw [hfound] at hfield
      rw [Except.ok.inj hfield]
  obtain ⟨field, hat, hfield⟩ := exists_getElem?_of_forall₂ hfields hcolumn
  refine ⟨field, hfield, ?_, fun other hmem ↦ ?_⟩
  · exact List.mem_of_getElem? (List.getElem?_zip_eq_some.mpr ⟨hat, hcell⟩)
  · -- Another value for the field would stand in the place of the column.
    obtain ⟨place, hplace⟩ := List.getElem?_of_mem hmem
    obtain ⟨hfield', hother⟩ := List.getElem?_zip_eq_some.mp hplace
    obtain ⟨again, hagain, hsame⟩ := exists_getElem?_of_forall₂ hfields.flip hfield'
    obtain rfl := honce column again place hcolumn hagain (hsame.trans hfield.symm)
    exact Option.some.inj (hother.symm.trans hcell)

/-- The reserved parameter is the captured key, if it was not supplied. -/
theorem bindVariable_of_captures {h : Handle} {rowid key : Int64}
    (hcaptures : h.Captures [⟨rowid, [.integer key]⟩]) {parameters : List Parameter}
    (hfree : ∀ p ∈ parameters, p.isNamed masterId = false) {written : String}
    (hname : Text.sameName (Parameter.bareName written) masterId = true) :
    bindVariable h parameters (some written) = .ok (.integer key) := by
  have hnone : parameters.find? (·.isNamed (Parameter.bareName written)) = none := by
    refine List.find?_eq_none.mpr fun p hmem hnamed ↦ ?_
    have hbare : Parameter.bareName masterId = masterId := by decide
    have hother := hfree p hmem
    rw [Parameter.isNamed, hbare] at hother
    rw [Parameter.isNamed, Parameter.bareName_bareName] at hnamed
    rw [Text.sameName_trans hnamed hname] at hother
    cases hother
  rw [bindVariable_masterId h parameters hname, hnone, capturedKey_of_captures hcaptures]
  rfl

/-- A row that was inserted while a key was captured holds it. -/
theorem Entry.keeps_of_inserted {entry : Entry} {h : Handle} {rowid key : Int64}
    (hcaptures : h.Captures [⟨rowid, [.integer key]⟩]) {parameters : List Parameter}
    (hfree : ∀ p ∈ parameters, p.isNamed masterId = false) {table : Table} {fields : List Field}
    (hfields : insertedFields entry.table table (some entry.columns) = .ok fields)
    {names : Names} {values : List (Expr Field)}
    (hresolved : List.Forall₂ (fun value resolved ↦ names.resolve value = .ok resolved)
      entry.values values)
    {scope : Scope} (hbind : bind h parameters entry.names = .ok scope.parameters) {row : Row}
    (hinserted : Inserted table (fields.zip (values.map (Expr.eval scope))) row) :
    entry.Keeps table row key := by
  intro hkeyed index column hrefers hcolumn honce
  obtain ⟨number, written, hvalue, hname, hmaster⟩ := hrefers
  -- The parameter has the captured key, and the value in its place is that parameter.
  obtain ⟨cell, hcell, hbound⟩ :=
    exists_getElem?_of_forall₂ (forall₂_of_mapM_eq_ok hbind) hname
  have hkey : bindVariable h parameters (some written) = .ok (.integer key) :=
    bindVariable_of_captures hcaptures hfree hmaster
  obtain rfl := Except.ok.inj (hbound.symm.trans hkey)
  obtain ⟨value, hat, hparameter⟩ := exists_getElem?_of_forall₂ hresolved hvalue
  obtain rfl := Except.ok.inj hparameter
  have hvalue : (values.map (Expr.eval scope))[index]? = some (.integer key) := by
    rw [List.getElem?_map, hat, Option.map_some, Expr.eval, List.getD_eq_getElem?_getD, hcell,
      Option.getD_some]
  obtain ⟨field, hfield, hassigns⟩ := assigns_of_once hfields hcolumn honce hvalue
  exact hinserted.holds hkeyed hfield hassigns

section

variable {token : Cancellation W} {parameters : List Parameter}
  {rest : List (Except SqlError Prepared)} {h : Handle} {world : W}

/-- **An insertion adds one row, whose key becomes the last one**, unless the batch fails. What is
captured stays if the row goes into another table, and is what the row refers to. -/
theorem Entry.continues (entry : Entry) (text : List Char) :
    Continues token parameters (.ok ⟨entry.statement, entry.names, text⟩ :: rest) rest h world
      fun after ↦ ∃ table addition, entry.Adds h table addition ∧ h.Gains after [addition] ∧
        after.lastRowid = addition.row.key ∧
        (∃ changed, after.tableAt addition.place addition.table = some changed ∧
          table.Gains changed [addition.row]) ∧
        (¬Reserved addition.place addition.table →
          after.tableAt .temp capturedTable = h.tableAt .temp capturedTable) ∧
        ∀ rowid key, h.Captures [⟨rowid, [.integer key]⟩] →
          (∀ p ∈ parameters, p.isNamed masterId = false) →
            entry.Keeps table addition.row key := by
  refine .ofSuccess fun surveyed program after tables hprogram hstep ↦ ?_
  let ready : Handle := { h with surveyed := surveyed }
  have hready : h.Gains ready [] := .of_surveyed surveyed
  have hprepare : prepareInsert ready text entry.table (some entry.columns) [entry.values] =
      .ok program := hprogram
  obtain ⟨place, table, fields, rows, hresolve, hfields, hvalues, -, rfl⟩ :=
    prepareInsert_eq_ok hprepare
  obtain ⟨values, rfl, hresolved⟩ : ∃ values, rows = [values] ∧
      List.Forall₂ (fun value resolved ↦ Names.resolve ⟨text, none, []⟩ value = .ok resolved)
        entry.values values := by
    cases forall₂_of_mapM_eq_ok hvalues with
    | cons hfirst hnil =>
      cases hnil
      exact ⟨_, rfl, forall₂_of_mapM_eq_ok hfirst⟩
  obtain ⟨hfound, -, -⟩ := Handle.tableAt_of_resolve hresolve
  rw [step] at hstep
  cases hbind : bind ready parameters entry.names with
  | error e =>
    simp only [ready] at hbind
    simp only [hbind] at hstep
    cases hstep
  | ok cells =>
    rcases hrun : (Program.insert place table fields [values]).run ready cells with
      ⟨left, e | results⟩
    · simp only [ready] at hbind hrun
      simp only [hbind, hrun] at hstep
      cases hstep
    · obtain ⟨row, scope, rfl, rfl, hinserted, hgains, hrowid, hchanged, hcaptured⟩ :=
        Program.run_insert_eq_ok hfound hrun
      simp only [ready] at hbind hrun
      simp only [hbind, hrun] at hstep
      obtain ⟨rfl, htables⟩ := Prod.mk.inj hstep
      refine ⟨(Except.ok.inj htables).symm, table, ⟨place, table.name, row⟩,
        ⟨hresolve, rfl, hinserted.fresh⟩, hready.trans hgains, hrowid, hchanged, hcaptured, ?_⟩
      intro rowid key hcaptures hfree
      have hcaptures : ready.Captures [⟨rowid, [.integer key]⟩] := hcaptures
      exact Entry.keeps_of_inserted hcaptures hfree hfields hresolved hbind hinserted

end

end SqlGateway.Sqlite
