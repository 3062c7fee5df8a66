import SqlGateway.Proofs.Inference.Recognition
import SqlGateway.Proofs.Sqlite.Call
import SqlGateway.Proofs.Sqlite.Insertion
import SqlGateway.Proofs.Sqlite.References

/-!
# Looking references up

A query of references reads what is bound to them. Every spelling of a name has a number of its own,
and the binder fills in the values by number; but it looks a number up by its name, in any case and
without the sign, so that the row has in each place the value of the parameter that is meant there.

## The reserved name

A reference to the captured key that nothing was supplied for reads the reserved temporary table. A
connection may have such a table that was not made for keys. What is read then is said only as far
as it does not depend on how the table is visited, and nothing is said if it has no column for keys,
which is an error.

## Main definitions

* `Value.stored`: what becomes of a value when it is stored and read back.
* `Reference.meant?`: the parameter that a reference means.
* `Handle.Recalls`: what a connection has for the captured key.

## Main results

* `Connection.reader_query`: the row of a query of references.
-/

namespace SqlGateway

/-- The value that is read back after it was stored. -/
def Value.stored : Value → Value
  | .bool b => .int (if b then 1 else 0)
  | .float x => if x.isNaN then .null else .float x
  | value => value

namespace Sqlite

variable {W : Type}

theorem Cell.toValue_ofValue (value : Value) : (Cell.ofValue value).toValue = value.stored := by
  cases value with
  | float x =>
    rw [ofValue, Value.stored]
    cases x.isNaN <;> rfl
  | _ => rfl

/-! ## The captured key -/

/-- The table that is read for the captured key. -/
def Handle.capturing? (h : Handle) : Option Table :=
  List.find? (fun table ↦ table.name == capturedTable) h.temp

/-- What the connection has for the captured key: `NULL` without the table or without rows in it,
and otherwise the key of one of its rows; of a table as creations make it, that of the first. -/
structure Handle.Recalls (h : Handle) (key : Value) : Prop where
  absent : h.capturing? = none → key = .null
  empty : ∀ table, h.capturing? = some table → table.rows = [] → key = .null
  present : ∀ table field, h.capturing? = some table → table.field? "Id" = some field →
    table.rows ≠ [] → ∃ row ∈ table.rows, key = (row.cell field).toValue
  captured : ∀ row rows, h.Captures (row :: rows) → key = (row.cell (.column 0)).toValue

theorem Scope.cell_within (scope : Scope) (table : Table) (row : Row) (field : Field) :
    (scope.within table row).cell field = row.cell field := by
  cases field <;> rfl

theorem Survey.Visit.mem_rows {visit : Survey.Visit} {table : Table} {row : Row} :
    row ∈ visit.rows table ↔ row ∈ table.rows := by
  obtain ⟨index, backwards⟩ := visit
  cases index <;> cases backwards <;> simp [rows]

/-- The table of captured keys is read from its first row on. -/
theorem rows_choose_capturing (rows : List Row) :
    (Survey.choose ⟨capturingTable rows, [.column 0], 1, [], [], some 1⟩).rows
      (capturingTable rows) = rows := by
  have hvisit : Survey.choose ⟨capturingTable rows, [.column 0], 1, [], [], some 1⟩ =
      ⟨none, false⟩ := rfl
  rw [hvisit]
  rfl

theorem capturing?_of_captures {h : Handle} {rows : List Row} (hcaptures : h.Captures rows) :
    h.capturing? = some (capturingTable rows) :=
  Store.find?_of_spelled hcaptures rfl

/-- What is read from a table with a column for keys. -/
theorem recalls_of_field {h : Handle} {table : Table} {field : Field}
    (htable : h.capturing? = some table) (hfield : table.field? "Id" = some field) :
    ∃ key : Cell, h.Recalls key.toValue ∧ (capturedKey h).map (·.getD .null) = .ok key := by
  let survey : Survey := ⟨table, [field], 1, [], [], some 1⟩
  let found : Option Cell := (survey.choose.rows table).head?.map (·.cell field)
  have hkey : capturedKey h = .ok found := by
    rw [Handle.capturing?] at htable
    simp only [capturedKey, htable, hfield, Scope.cell_within, found, survey]
  refine ⟨found.getD .null, ⟨?_, ?_, ?_, ?_⟩, by rw [hkey]; rfl⟩
  · intro habsent
    rw [habsent] at htable
    cases htable
  · intro other hother hempty
    obtain rfl := Option.some.inj (htable.symm.trans hother)
    have hnone : survey.choose.rows table = [] := by
      refine List.eq_nil_iff_forall_not_mem.mpr fun row hrow ↦ ?_
      rw [Survey.Visit.mem_rows, hempty] at hrow
      cases hrow
    simp only [found, hnone]
    rfl
  · intro other otherField hother hotherField hrows
    obtain rfl := Option.some.inj (htable.symm.trans hother)
    obtain rfl := Option.some.inj (hfield.symm.trans hotherField)
    obtain ⟨first, hfirst⟩ := List.exists_mem_of_ne_nil _ hrows
    cases hvisited : survey.choose.rows table with
    | nil =>
      have hmem : first ∈ survey.choose.rows table := Survey.Visit.mem_rows.mpr hfirst
      rw [hvisited] at hmem
      cases hmem
    | cons row rest =>
      have hmem : row ∈ survey.choose.rows table := hvisited ▸ List.mem_cons_self
      refine ⟨row, Survey.Visit.mem_rows.mp hmem, ?_⟩
      simp only [found, hvisited]
      rfl
  · intro row rows hcaptures
    obtain rfl := Option.some.inj (htable.symm.trans (capturing?_of_captures hcaptures))
    obtain rfl : field = .column 0 := Option.some.inj (hfield.symm.trans rfl)
    have hrows := rows_choose_capturing (row :: rows)
    simp only [found, survey, hrows]
    rfl

/-- A connection has something for the captured key, and it is what is bound, unless there is a
table without a column for keys. -/
theorem exists_recalls (h : Handle) : ∃ key : Cell, h.Recalls key.toValue ∧
    ((∀ table, h.capturing? = some table → (table.field? "Id").isSome) →
      (capturedKey h).map (·.getD .null) = .ok key) := by
  cases htable : h.capturing? with
  | none =>
    have hkey : capturedKey h = .ok none := by
      rw [Handle.capturing?] at htable
      simp only [capturedKey, htable]
    refine ⟨.null, ⟨fun _ ↦ rfl, fun _ _ _ ↦ rfl, ?_, ?_⟩, fun _ ↦ by rw [hkey]; rfl⟩
    · intro table field hother
      rw [htable] at hother
      cases hother
    · intro row rows hcaptures
      rw [capturing?_of_captures hcaptures] at htable
      cases htable
  | some table =>
    cases hfield : table.field? "Id" with
    | some field =>
      obtain ⟨key, hrecalls, hkey⟩ := recalls_of_field htable hfield
      exact ⟨key, hrecalls, fun _ ↦ hkey⟩
    | none =>
      refine ⟨.null, ⟨fun _ ↦ rfl, fun _ _ _ ↦ rfl, ?_, ?_⟩, fun hfields ↦ ?_⟩
      · intro other field hother hotherField
        obtain rfl := Option.some.inj (htable.symm.trans hother)
        rw [hfield] at hotherField
        cases hotherField
      · intro row rows hcaptures
        obtain rfl := Option.some.inj (htable.symm.trans (capturing?_of_captures hcaptures))
        cases hfield
      · have hsome := hfields table rfl
        rw [hfield] at hsome
        cases hsome

/-! ## Binding -/

namespace Reference

variable (parameters : List Parameter) (reference : Reference)

/-- The parameter that a reference means: the first one of its name, in any case and without
signs. -/
def meant? : Option Parameter :=
  parameters.find? fun p ↦ Text.sameName (Parameter.bareName p.name) reference.name

/-- The reference is to the captured key. -/
def AsksKey : Prop :=
  reference.meant? parameters = none ∧ Text.sameName reference.name masterId = true

/-- The value that a reference stands for, where there is some value for the captured key. -/
def answer (parameters : List Parameter) (key : Value) (reference : Reference) : Value :=
  match reference.meant? parameters with
  | some p => p.value.stored
  | none => if Text.sameName reference.name masterId then key else .null

variable {parameters reference}

/-- The binder finds the parameter that is meant, if names are kept without signs. -/
theorem find?_isNamed (hbare : ∀ p ∈ parameters, p.Bare) :
    parameters.find? (·.isNamed (Parameter.bareName reference.text)) =
      reference.meant? parameters := by
  rw [meant?]
  refine List.find?_congr fun p hp ↦ ?_
  rw [Parameter.isNamed, Parameter.bareName_bareName, bareName_text, (hbare p hp).bareName_name]

theorem bindVariable_text {h : Handle} {key : Cell} (hbare : ∀ p ∈ parameters, p.Bare)
    (hkey : reference.AsksKey parameters → (capturedKey h).map (·.getD .null) = .ok key) :
    ∃ cell, bindVariable h parameters (some reference.text) = .ok cell ∧
      cell.toValue = reference.answer parameters key.toValue := by
  simp only [bindVariable, find?_isNamed hbare, answer]
  cases hmeant : reference.meant? parameters with
  | some p => exact ⟨_, rfl, Cell.toValue_ofValue p.value⟩
  | none =>
    rw [bareName_text]
    cases hmaster : Text.sameName reference.name masterId with
    | true => exact ⟨key, hkey ⟨hmeant, hmaster⟩, rfl⟩
    | false => exact ⟨.null, rfl, rfl⟩

end Reference

/-- The cells that are bound to the numbers of references are what these stand for. -/
theorem bind_gathered {h : Handle} {key : Cell} {parameters : List Parameter}
    {references : List Reference} {names : Variables} {numbers : List Nat}
    (hgathers : Gathers [] names references numbers) (hbare : ∀ p ∈ parameters, p.Bare)
    (hkey : ∀ reference ∈ references, reference.AsksKey parameters →
      (capturedKey h).map (·.getD .null) = .ok key) :
    ∃ cells, bind h parameters names = .ok cells ∧
      numbers.map (fun number ↦ (cells.getD (number - 1) .null).toValue) =
        references.map (Reference.answer parameters key.toValue) := by
  have hbound : ∀ reference ∈ references, ∃ cell,
      bindVariable h parameters (some reference.text) = .ok cell ∧
        cell.toValue = reference.answer parameters key.toValue :=
    fun reference hmem ↦ reference.bindVariable_text hbare (hkey reference hmem)
  obtain ⟨cells, hcells⟩ : ∃ cells, bind h parameters names = .ok cells := by
    refine exists_mapM_eq_ok fun written hwritten ↦ ?_
    rcases hgathers.mem_cases written hwritten with hnil | ⟨reference, hmem, rfl⟩
    · cases hnil
    · obtain ⟨cell, hcell, -⟩ := hbound reference hmem
      exact ⟨cell, hcell⟩
  refine ⟨cells, hcells, ?_⟩
  have hat : ∀ reference ∈ references, ∀ number, Numbered names reference number →
      (cells.getD (number - 1) .null).toValue = reference.answer parameters key.toValue := by
    intro reference hmem number hnumbered
    obtain ⟨cell, hcell, hvalue⟩ := hbound reference hmem
    obtain ⟨found, hfound, hbind⟩ :=
      exists_getElem?_of_forall₂ (forall₂_of_mapM_eq_ok hcells) hnumbered.names_at
    obtain rfl := Except.ok.inj (hbind.symm.trans hcell)
    rw [List.getD_eq_getElem?_getD, hfound]
    exact hvalue
  have hnumbered := hgathers.forall_numbered
  clear hgathers hkey hbound
  induction hnumbered with
  | nil => rfl
  | @cons reference number references numbers hfirst _ ih =>
    rw [List.map_cons, List.map_cons, hat reference List.mem_cons_self number hfirst,
      ih fun other hmem ↦ hat other (List.mem_cons_of_mem _ hmem)]

/-! ## Running -/

/-- Columns that each stand for one parameter are prepared as they are. -/
theorem resolve_shown (text : List Char) {numbers : List Nat} {columns : List ResultColumn}
    (hshown : List.Forall₂ Parser.Shows numbers columns) :
    (∀ column ∈ columns, column.isAll = false) ∧ labelsOf ⟨text, none, []⟩ columns = .ok [] ∧
      ∃ results, columns.mapM (·.resolve ⟨text, none, []⟩) = .ok results ∧
        results.flatten.map Prod.snd = numbers.map Expr.parameter := by
  induction hshown with
  | nil => exact ⟨nofun, rfl, [], rfl, rfl⟩
  | @cons number column numbers columns hcolumn _ ih =>
    obtain ⟨written, rfl⟩ := hcolumn
    obtain ⟨hall, hlabels, results, hresults, hnumbers⟩ := ih
    refine ⟨?_, ?_, [(written, .parameter number)] :: results, ?_, ?_⟩
    · intro column hmem
      rcases List.mem_cons.mp hmem with rfl | hmem
      · rfl
      · exact hall column hmem
    · rw [labelsOf] at hlabels ⊢
      rw [List.filterMapM_cons, hlabels]
      rfl
    · rw [List.mapM_cons, hresults]
      rfl
    · rw [List.flatten_cons, List.map_append, hnumbers]
      rfl

theorem prepare_shown (h : Handle) (text : List Char) {numbers : List Nat}
    {columns : List ResultColumn} (hshown : List.Forall₂ Parser.Shows numbers columns) :
    ∃ results, (Parser.plainQuery columns).prepare h text =
        .ok ⟨none, results, none, [], none, none⟩ ∧
      results.map Prod.snd = numbers.map Expr.parameter := by
  obtain ⟨hall, hlabels, results, hresults, hnumbers⟩ := resolve_shown text hshown
  refine ⟨results.flatten, ?_, hnumbers⟩
  have hloop := forIn_guard (SqlError.general "no tables specified") hall
  have hbind {α β : Type} (a : α) (f : α → Except SqlError β) : Except.ok a >>= f = f a := rfl
  simp only [Query.prepare, Parser.plainQuery, Option.mapM_none, pure_bind, Option.isNone_none,
    if_true, hloop, hresults, hlabels, hbind]
  rfl

/-- The row of a selection of parameters. -/
theorem run_shown {results : List (String × Expr Field)} {numbers : List Nat}
    (hresults : results.map Prod.snd = numbers.map Expr.parameter) (scope : Scope) :
    Selection.run ⟨none, results, none, [], none, none⟩ scope =
      .ok [numbers.map fun number ↦ scope.parameters.getD (number - 1) .null] := by
  have hcounts : Selection.counts ⟨none, results, none, [], none, none⟩ = false := by
    rw [Selection.counts, List.any_eq_false]
    intro result hresult
    have hmem := List.mem_map_of_mem (f := Prod.snd) hresult
    rw [hresults] at hmem
    obtain ⟨number, -, heq⟩ := List.mem_map.mp hmem
    rw [← heq]
    exact Bool.false_ne_true
  have hrow : results.map (·.2.eval scope) =
      numbers.map fun number ↦ scope.parameters.getD (number - 1) .null := by
    have heval := congrArg (List.map (Expr.eval scope)) hresults
    rw [List.map_map, List.map_map] at heval
    exact heval
  have hlimit : ((none : Option Int64) == some 0) = false := rfl
  have hscopes : Selection.scopes ⟨none, results, none, [], none, none⟩ scope = [scope] := rfl
  rw [Selection.run, hscopes, hcounts]
  simp only [Option.mapM_none, pure_bind, hlimit, Bool.false_eq_true, if_false,
    List.mergeSort_singleton, List.map_cons, List.map_nil, hrow]
  rfl

theorem step_shown {h : Handle} {parameters : List Parameter} {names : Variables}
    {cells : List Cell} {results : List (String × Expr Field)} {numbers : List Nat}
    (hcells : bind h parameters names = .ok cells) (hne : numbers ≠ [])
    (hresults : results.map Prod.snd = numbers.map Expr.parameter) :
    step parameters names (.select none ⟨none, results, none, [], none, none⟩) h =
      (h, .ok [⟨"", results.map Prod.fst,
        [numbers.map fun number ↦ (cells.getD (number - 1) .null).toValue]⟩]) := by
  let selection : Selection := ⟨none, results, none, [], none, none⟩
  have hrun : (Program.select none selection).run h cells =
      (h, .ok [numbers.map fun number ↦ cells.getD (number - 1) .null]) := by
    rw [Program.run_of_lockless rfl fun _ ↦ rfl, Program.act]
    simp only [selection, run_shown hresults]
  have hcolumns : (results.map Prod.fst).isEmpty = false := by
    rw [List.isEmpty_eq_false_iff]
    intro hnil
    rw [List.map_eq_nil_iff] at hnil
    rw [hnil, List.map_nil, eq_comm, List.map_eq_nil_iff] at hresults
    exact hne hresults
  simp only [selection] at hrun
  rw [step, hcells]
  simp only [hrun, Program.columns, Except.map, resultTables, hcolumns, Bool.false_eq_true,
    if_false, List.map_cons, List.map_nil, List.map_map]
  rfl

/-- A query of references gives a single row, which has in each place what the reference stands
for. -/
theorem batch_query {h : Handle} {parameters : List Parameter} {references : List Reference}
    {key : Cell} (hne : references ≠ []) (hbare : ∀ p ∈ parameters, p.Bare)
    (hkey : ∀ reference ∈ references, reference.AsksKey parameters →
      (capturedKey h).map (·.getD .null) = .ok key) :
    ∃ columns, batch parameters (statements (Reference.query references)) h =
      (h, .ok [⟨"", columns, [references.map (Reference.answer parameters key.toValue)]⟩]) := by
  obtain ⟨reference, others, rfl⟩ := List.exists_cons_of_ne_nil hne
  obtain ⟨names, numbers, columns, hgathers, hshown, hstatements⟩ :=
    statements_query reference others
  obtain ⟨cells, hcells, hrow⟩ := bind_gathered hgathers hbare hkey
  obtain ⟨results, hprepared, hresults⟩ :=
    prepare_shown h (Reference.query (reference :: others)).toList hshown
  have hnumbers : numbers ≠ [] := by
    rintro rfl
    cases hgathers.forall_numbered
  have hready : Prepared.ready ⟨.select (Parser.plainQuery columns), names,
      (Reference.query (reference :: others)).toList⟩ h =
        (h, .ok (.select none ⟨none, results, none, [], none, none⟩)) := by
    rw [Prepared.ready]
    simp only [Prepared.survey, Statement.namesTable, Parser.plainQuery, Option.isSome_none,
      Bool.false_and, Bool.false_eq_true, if_false, Prepared.program]
    simp only [Parser.plainQuery] at hprepared
    rw [hprepared]
    rfl
  have hstep := step_shown hcells hnumbers hresults
  rw [hrow] at hstep
  refine ⟨results.map Prod.fst, ?_⟩
  rw [hstatements, batch]
  simp only [walk, hready, hstep]
  rfl

namespace Connection

namespace Asking

/-- A connection to a database in memory that has just been opened. -/
def start : Connection × Disk := (establish.run (ofPath ":memory:", default)).2

/-- What a statement leaves of the connection. -/
def behind (sql : String) (there : Connection × Disk) : Connection × Disk :=
  (((backend Site.whole).nonQuery ⟨sql, "Sqlite", [], none⟩).perform there).2

/-- What a query gives. -/
def ask (sql : String) (parameters : List Parameter) (there : Connection × Disk) :
    Except Panic (BackendResult DataTable) :=
  (((backend Site.whole).reader ⟨sql, "Sqlite", parameters, none⟩).perform there).1

/-- The references `$AGE`, `@masterid` and `:none`. -/
def references : List Reference :=
  [⟨'$', 'A', ['G', 'E'], rfl, rfl, List.all_eq_true.mp rfl⟩,
    ⟨'@', 'm', ['a', 's', 't', 'e', 'r', 'i', 'd'], rfl, rfl, List.all_eq_true.mp rfl⟩,
    ⟨':', 'n', ['o', 'n', 'e'], rfl, rfl, List.all_eq_true.mp rfl⟩]

/-- A truth value in front of another value of the same name. -/
def parameters : List Parameter :=
  [.named "@age" .bit (.bool true), .named "Age" .int (.int 3)]

/-- The table of captured keys with a key in it. -/
def keeper : Handle :=
  { Handle.ofStore [] with
    temp := [capturingTable [⟨1, [.integer 7]⟩]], lastRowid := 1, changes := 1, surveyed := true }

end Asking

end Connection

end Sqlite

end SqlGateway
