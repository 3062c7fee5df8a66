import SqlGateway.Proofs.Sqlite.Call
import SqlGateway.Proofs.Sqlite.Insertion
import SqlGateway.Proofs.Sqlite.Parsing
import SqlGateway.Proofs.Template.Filling

/-!
# Creating a row with its dependents

The template for creating a row inserts it, captures its key, inserts the rows that depend on it,
and reads the captured key. Every insertion of a dependent row changes what the last key is; what is
captured stays, and so all of them get the key of the first row, and it is read at the end.

That holds whatever earlier creations captured, for the temporary table is emptied before the key is
put into it. It needs that this table is the work of the template, and that none of the rows goes
into it.
-/

namespace SqlGateway.Sqlite

variable {W : Type}

/-! ## The texts -/

/-- The text of an insertion of a row that depends on another one. -/
def insertionText (target columns values : String) : String :=
  Template.fill Dialect.Sqlite.createSub
    [("TargetTable", target), ("Columns", columns), ("Values", values)]

/-- The text of a creation. -/
def creationText (target columns values subQueries pkName : String) : String :=
  Template.fill Dialect.Sqlite.create
    [("TargetTable", target), ("Columns", columns), ("Values", values), ("SubQueries", subQueries),
      ("PkName", pkName)]

theorem toList_insertionText (target columns values : String) :
    (insertionText target columns values).toList =
      "INSERT INTO ".toList ++ (target.toList ++ (" (".toList ++ (columns.toList ++
        (") VALUES (".toList ++ (values.toList ++ ");".toList))))) := by
  let pieces : List Template.Piece :=
    ["INSERT INTO ", Slot.targetTable, " (", Slot.columns, ") VALUES (", Slot.values, ");"]
  have hplain : ∀ piece ∈ pieces, piece.Plain := by decide
  have hfill := Template.toList_fill_valued hplain
    [(.targetTable, target), (.columns, columns), (.values, values)]
  refine hfill.trans ?_
  simp only [pieces, List.flatMap_cons, List.flatMap_nil, Template.Piece.worth, List.append_nil]
  rfl

/-- Create the temporary table unless it is there. -/
def creatingLine : Line where
  text := "\nCREATE TEMP TABLE IF NOT EXISTS InsertedTable (Id);".toList
  statement := .createTable true true ⟨none, capturedTable⟩ 33 33 [keyColumn]
  names := []
  terminated := rfl
  plain := by decide
  closed := rfl
  rest := rfl
  parsed := rfl

/-- Empty the temporary table. -/
def clearingLine : Line where
  text := "\nDELETE FROM temp.InsertedTable;".toList
  statement := .delete ⟨some "temp", capturedTable⟩ none
  names := []
  terminated := rfl
  plain := by decide
  closed := rfl
  rest := rfl
  parsed := rfl

/-- Put the last key into the temporary table. -/
def keepingLine : Line where
  text := "\nINSERT INTO temp.InsertedTable (Id) VALUES (last_insert_rowid());".toList
  statement := .insert ⟨some "temp", capturedTable⟩ (some ["Id"]) [[.lastRowid]]
  names := []
  terminated := rfl
  plain := by decide
  closed := rfl
  rest := rfl
  parsed := rfl

/-- What is in a creation behind the insertion, up to the dependent rows. -/
def capturing : List Line := [creatingLine, clearingLine, keepingLine]

/-- What is in a creation behind the dependent rows. -/
def readingText (pkName : String) : List Char :=
  "\nSELECT Id AS ".toList ++ (pkName.toList ++ " FROM temp.InsertedTable;".toList)

set_option maxRecDepth 4000 in
theorem toList_creationText (target columns values subQueries pkName : String) :
    (creationText target columns values subQueries pkName).toList =
      (insertionText target columns values).toList ++ (script capturing ++
        ('\n' :: (subQueries.toList ++ readingText pkName))) := by
  let pieces : List Template.Piece :=
    ["INSERT INTO ", Slot.targetTable, " (", Slot.columns, ") VALUES (", Slot.values,
     ");\n",
     "CREATE TEMP TABLE IF NOT EXISTS InsertedTable (Id);\n",
     "DELETE FROM temp.InsertedTable;\n",
     "INSERT INTO temp.InsertedTable (Id) VALUES (last_insert_rowid());\n",
     Slot.subQueries, "\n",
     "SELECT Id AS ", Slot.pkName, " FROM temp.InsertedTable;"]
  have hplain : ∀ piece ∈ pieces, piece.Plain := by decide
  have hfill := Template.toList_fill_valued hplain
    [(.targetTable, target), (.columns, columns), (.values, values), (.subQueries, subQueries),
      (.pkName, pkName)]
  refine hfill.trans ?_
  rw [toList_insertionText]
  simp only [pieces, List.flatMap_cons, List.flatMap_nil, Template.Piece.worth, List.append_nil,
    List.append_assoc]
  rfl

/-! ## Creations -/

/-- An insertion of one row by the template, behind some white space. -/
structure Written where
  gap : List Char
  target : String
  columns : String
  values : String
  entry : Entry
  line : Line
  blank : ∀ c ∈ gap, c.isWhitespace = true
  text : line.text = gap ++ (insertionText target columns values).toList
  statement : line.statement = entry.statement
  names : line.names = entry.names
  spares : entry.Spares

/-- The lines of insertions. -/
def linesOf (insertions : List Written) : List Line := insertions.map Written.line

/-- Read the captured key under a label. -/
def reading (label written : String) (place : Nat) : Statement :=
  .select ⟨[.expression (.name ⟨none, "Id", place, none⟩) (some label) written],
    some ⟨some "temp", capturedTable⟩, none, [], none, none⟩

/-- A creation of a row with its dependents. A statement starts behind the semicolon of the one
before it. -/
structure Creation where
  subQueries : String
  pkName : String
  parent : Written
  parent_gap : parent.gap = []
  children : List Written
  last : Line
  rest_text : '\n' :: (subQueries.toList ++ readingText pkName) =
    script (linesOf children) ++ last.text
  last_statement : ∃ label written place, last.statement = reading label written place
  last_names : last.names = []

namespace Creation

/-- The text of the creation. -/
def text (creation : Creation) : String :=
  creationText creation.parent.target creation.parent.columns creation.parent.values
    creation.subQueries creation.pkName

theorem text_eq (creation : Creation) :
    creation.text.toList = script (creation.parent.line :: capturing ++
      (linesOf creation.children ++ [creation.last])) := by
  have hparent := creation.parent.text
  rw [creation.parent_gap, List.nil_append] at hparent
  rw [text, toList_creationText, creation.rest_text, ← hparent, List.cons_append, script_cons,
    script_append, script_append, script_singleton]

end Creation

/-! ## Dependent rows -/

/-- A dependent row was added to a table, and holds the key. -/
def Written.Depends (child : Written) (h : Handle) (key : Int64) (addition : Addition) : Prop :=
  ∃ table, child.entry.Adds h table addition ∧ child.entry.Keeps table addition.row key

/-- What a row holds depends on the columns of its table. -/
theorem Entry.keeps_congr (entry : Entry) {table other : Table}
    (hcolumns : other.columns = table.columns) (row : Row) (key : Int64) :
    entry.Keeps other row key ↔ entry.Keeps table row key := by
  obtain ⟨name, columns, rows⟩ := table
  obtain ⟨name', columns', rows'⟩ := other
  obtain rfl := hcolumns
  exact Iff.rfl

/-- A row that was added to a table that had gained others was added to the table as it was
before. -/
theorem Entry.Adds.of_gains {entry : Entry} (hspares : entry.Spares) {h between : Handle}
    {table : Table} {addition : Addition} {additions : List Addition}
    (hadds : entry.Adds between table addition) (hgains : h.Gains between additions) :
    ∃ earlier, entry.Adds h earlier addition ∧ table.columns = earlier.columns := by
  obtain ⟨earlier, rows, hresolve, htable⟩ := hgains.resolve hspares hadds.resolve
  refine ⟨earlier, ⟨hresolve, hadds.named.trans htable.name, fun other hmem ↦ ?_⟩, htable.columns⟩
  exact hadds.fresh other (htable.rows.mem_iff.mpr (List.mem_append_right rows hmem))

theorem Written.Depends.of_gains {child : Written} {h between : Handle} {key : Int64}
    {addition : Addition} {additions : List Addition}
    (hdepends : child.Depends between key addition) (hgains : h.Gains between additions) :
    child.Depends h key addition := by
  obtain ⟨table, hadds, hkeeps⟩ := hdepends
  obtain ⟨earlier, hadds', hcolumns⟩ := hadds.of_gains child.spares hgains
  exact ⟨earlier, hadds', (child.entry.keeps_congr hcolumns addition.row key).mp hkeeps⟩

section

variable {token : Cancellation W} {parameters : List Parameter}
  {rest : List (Except SqlError Prepared)} {h : Handle} {world : W}

theorem Written.continues (insertion : Written) (more : List Char) :
    Continues token parameters (insertion.line.prepared more :: rest) rest h world
      fun after ↦ ∃ table addition, insertion.entry.Adds h table addition ∧
        h.Gains after [addition] ∧ after.lastRowid = addition.row.key ∧
        after.tableAt .temp capturedTable = h.tableAt .temp capturedTable ∧
        ∀ rowid key, h.Captures [⟨rowid, [.integer key]⟩] →
          (∀ p ∈ parameters, p.isNamed masterId = false) →
            insertion.entry.Keeps table addition.row key := by
  rw [Line.prepared, insertion.statement, insertion.names]
  refine (insertion.entry.continues _).mono fun after hspec ↦ ?_
  obtain ⟨table, addition, hadds, hgains, hrowid, -, hkept, hkeeps⟩ := hspec
  exact ⟨table, addition, hadds, hgains, hrowid, hkept (hadds.not_reserved insertion.spares),
    hkeeps⟩

/-- **Every dependent row gets the captured key**, which stays captured. -/
theorem continues_children {rowid key : Int64} (hcaptures : h.Captures [⟨rowid, [.integer key]⟩])
    (hfree : ∀ p ∈ parameters, p.isNamed masterId = false) (children : List Written)
    (more : List Char) :
    Continues token parameters (prepared (linesOf children) more ++ rest) rest h world
      fun after ↦ after.Captures [⟨rowid, [.integer key]⟩] ∧ ∃ additions,
        h.Gains after additions ∧
          List.Forall₂ (fun child addition ↦ Written.Depends child h key addition) children
            additions := by
  -- The last key is another one after every row, so the induction is carried by what is captured.
  induction children generalizing h world with
  | nil => exact .inr ⟨h, world, ⟨hcaptures, [], .of_storeAt fun _ ↦ rfl, .nil⟩, rfl⟩
  | cons child children ih =>
    refine (child.continues _).trans fun h₁ world₁ h₁_spec ↦ ?_
    obtain ⟨table, addition, hadds, hgains, -, hkept, hkeeps⟩ := h₁_spec
    refine (ih (hkept.trans hcaptures)).mono fun h₂ h₂_spec ↦ ?_
    obtain ⟨hcaptures₂, additions, hgains₂, hdepend⟩ := h₂_spec
    refine ⟨hcaptures₂, addition :: additions, hgains.trans hgains₂, .cons ?_ ?_⟩
    · exact ⟨table, hadds, hkeeps rowid key hcaptures hfree⟩
    · exact hdepend.imp fun _ _ hdepends ↦ hdepends.of_gains hgains

/-! ## Reading the key -/

/-- The name of the captured key. -/
theorem resolve_keyColumn (rows : List Row) (place : Nat) (text : List Char) :
    Names.resolve ⟨text, some (capturingTable rows), []⟩ (.name ⟨none, "Id", place, none⟩) =
      .ok (.name (.column 0)) := by
  have hfield : (capturingTable rows).field? "Id" = some (.column 0) := rfl
  rw [Names.resolve, Expr.bindM, Names.find]
  simp only [Names.field?, Option.bind_some, Option.all_none, if_true, hfield]

/-- The query that reads the captured key. -/
def selectionOf (label : String) (rows : List Row) : Selection :=
  ⟨some (capturingTable rows), [(label, .name (.column 0))], none, [], none, none⟩

theorem prepare_reading {rows : List Row} (hcaptures : h.Captures rows) (label written : String)
    (place : Nat) (text : List Char) :
    Query.prepare h text ⟨[.expression (.name ⟨none, "Id", place, none⟩) (some label) written],
      some ⟨some "temp", capturedTable⟩, none, [], none, none⟩ =
        .ok (selectionOf label rows) := by
  let names : Names := ⟨text, some (capturingTable rows), []⟩
  let column : ResultColumn :=
    .expression (.name ⟨none, "Id", place, none⟩) (some label) written
  have hkey := resolve_keyColumn rows place text
  have hcolumn : column.resolve names = .ok [(label, .name (.column 0))] := by
    rw [ResultColumn.resolve, hkey]
    rfl
  have hlabels : labelsOf names [column] = .ok [(label, .name (.column 0))] := by
    simp only [labelsOf, List.filterMapM_cons, names, column, hkey]
    rfl
  have hbind {α β : Type} (a : α) (f : α → Except SqlError β) : Except.ok a >>= f = f a := rfl
  simp only [names, column] at hcolumn hlabels
  simp only [Query.prepare, Option.mapM_some, resolve_captured hcaptures, hbind, map_pure,
    pure_bind, Option.isNone_some, Bool.false_eq_true, if_false, Option.mapM_none, List.mapM_cons,
    List.mapM_nil, hcolumn, hlabels]
  rfl

theorem program_reading {rows : List Row} (hcaptures : h.Captures rows) (label written : String)
    (place : Nat) (text : List Char) :
    (Prepared.mk (reading label written place) [] text).program h =
      .ok (.select (some .temp) (selectionOf label rows)) := by
  have hfind : h.find? ⟨some "temp", capturedTable⟩ = some (.temp, capturingTable rows) := by
    have hresolve := resolve_captured hcaptures
    rw [Handle.resolve] at hresolve
    split at hresolve
    · next hfound => rw [hfound, Except.ok.inj hresolve]
    · cases hresolve
  simp only [Prepared.program, reading, prepare_reading hcaptures, Option.bind_some, hfind,
    Option.map_some, Except.map]

theorem run_selectionOf (label : String) (rowid key : Int64) (scope : Scope) :
    (selectionOf label [⟨rowid, [.integer key]⟩]).run scope = .ok [[.integer key]] := by
  let row : Row := ⟨rowid, [.integer key]⟩
  have hscopes : (selectionOf label [row]).scopes scope =
      [scope.within (capturingTable [row]) row] := by
    rw [Selection.scopes]
    simp only [selectionOf]
    rw [Survey.Visit.rows_of_single _ rfl]
    rfl
  have hlimit : ((none : Option Int64) == some 0) = false := rfl
  have hcounts : (selectionOf label [row]).counts = false := rfl
  simp only [row] at hscopes hcounts
  rw [Selection.run, hscopes, hcounts]
  simp only [selectionOf, Option.mapM_none, pure_bind, hlimit, Bool.false_eq_true, if_false,
    List.mergeSort_singleton]
  rfl

/-- The captured key is read, and nothing changes, unless the batch fails. -/
theorem walk_reading (token : Cancellation W) (parameters : List Parameter) {rowid key : Int64}
    (hcaptures : h.Captures [⟨rowid, [.integer key]⟩]) (label written : String) (place : Nat)
    (text : List Char) (world : W) :
    let walked := walk token parameters [.ok ⟨reading label written place, [], text⟩] h world
    (∃ e, walked.result = .error e) ∨ ∃ surveyed world',
      walked = ⟨.ok [⟨"", [label], [[.int key]]⟩], { h with surveyed := surveyed }, world'⟩ := by
  intro walked
  let program : Program := .select (some .temp) (selectionOf label [⟨rowid, [.integer key]⟩])
  have hrun (ready : Handle) : program.run ready [] = (ready, .ok [[.integer key]]) := by
    rw [Program.run_of_lockless rfl fun _ ↦ rfl, Program.act]
    simp only [run_selectionOf]
  have hstep (ready : Handle) :
      step parameters [] program ready = (ready, .ok [⟨"", [label], [[.int key]]⟩]) := by
    have hbind : bind ready parameters [] = .ok [] := rfl
    rw [step, hbind]
    simp only [hrun]
    rfl
  simp only [walked, walk, Prepared.ready]
  cases hsurvey : Prepared.survey ⟨reading label written place, [], text⟩ h with
  | error e => exact .inl ⟨e, rfl⟩
  | ok ready =>
    obtain ⟨surveyed, rfl⟩ := Prepared.survey_frame hsurvey
    have hready : Handle.Captures { h with surveyed := surveyed } [⟨rowid, [.integer key]⟩] :=
      hcaptures
    simp only [program_reading hready]
    rcases token.run world with ⟨fired, world'⟩
    cases fired with
    | true => exact .inl ⟨.interrupted, rfl⟩
    | false =>
      simp only [Bool.false_eq_true, if_false]
      rw [hstep]
      exact .inr ⟨surveyed, world', rfl⟩

end

/-! ## Whole creations -/

/-- What a creation added: its row, and a row for each of its dependents that holds the key, which
is captured. -/
structure Creation.Adds (creation : Creation) (before after : Handle) (parent : Addition)
    (children : List Addition) : Prop where
  gains : before.Gains after (parent :: children)
  parent_adds : ∃ table, creation.parent.entry.Adds before table parent
  children_depend : List.Forall₂ (fun child addition ↦ child.Depends before parent.row.key addition)
    creation.children children
  captures : after.Captures [⟨1, [.integer parent.row.key]⟩]

namespace Creation

/-- The statements of a creation. -/
theorem statements_text (creation : Creation) : ∃ create clear keep behind label written place,
    statements creation.text =
      creation.parent.line.prepared (script (capturing ++ (linesOf creation.children ++
        [creation.last]))) ::
      (.ok (creating 33 33 create) :: .ok (clearing clear) :: .ok (keeping keep) ::
        (prepared (linesOf creation.children) creation.last.text ++
          [.ok ⟨reading label written place, [], behind⟩])) := by
  obtain ⟨label, written, place, hlast⟩ := creation.last_statement
  obtain ⟨behind, hrest⟩ : ∃ behind, prepared (linesOf creation.children ++ [creation.last]) [] =
      prepared (linesOf creation.children) creation.last.text ++
        [.ok ⟨reading label written place, [], behind⟩] := by
    rw [prepared_append, script_singleton, List.append_nil, ← hlast, ← creation.last_names]
    exact ⟨_, rfl⟩
  rw [statements_of_script creation.text_eq, List.cons_append, prepared, List.append_nil, capturing,
    List.cons_append, prepared, List.cons_append, prepared, List.cons_append, prepared,
    List.nil_append, hrest]
  exact ⟨_, _, _, behind, label, written, place, rfl⟩

/-- The row is inserted, its key is captured, and its dependents get that key. -/
theorem continues (creation : Creation) {token : Cancellation W}
    {parameters : List Parameter} {rest : List (Except SqlError Prepared)} {h : Handle} {world : W}
    (hcapturable : h.Capturable) (hfree : ∀ p ∈ parameters, p.isNamed masterId = false)
    (more create clear keep behind : List Char) :
    Continues token parameters
      (creation.parent.line.prepared more :: (.ok (creating 33 33 create) ::
        .ok (clearing clear) :: .ok (keeping keep) ::
          (prepared (linesOf creation.children) behind ++ rest))) rest h world
      fun after ↦ ∃ parent children, creation.Adds h after parent children := by
  refine (creation.parent.continues more).trans fun h₁ world₁ h₁_spec ↦ ?_
  obtain ⟨table, parent, hadds, hgains₁, hrowid, hkept, -⟩ := h₁_spec
  -- The row goes into no reserved table, and so what earlier creations captured is still there.
  have hcapturable₁ : h₁.Capturable :=
    hcapturable.imp hkept.trans fun ⟨rows, hrows⟩ ↦ ⟨rows, hkept.trans hrows⟩
  refine (continues_captured hcapturable₁ 33 33 create clear keep).trans
    fun h₂ world₂ h₂_spec ↦ ?_
  obtain ⟨hcaptures, hgains₂⟩ := h₂_spec
  rw [hrowid] at hcaptures
  refine (continues_children hcaptures hfree creation.children behind).mono fun h₃ h₃_spec ↦ ?_
  obtain ⟨hcaptures₃, children, hgains₃, hdepend⟩ := h₃_spec
  have hgains : h.Gains h₂ [parent] := hgains₁.trans hgains₂
  exact ⟨parent, children, hgains.trans hgains₃, ⟨table, hadds⟩,
    hdepend.imp fun _ _ hdepends ↦ hdepends.of_gains hgains, hcaptures₃⟩

/-- **A batch that creates a row and goes well gives its key**, and adds the row and its
dependents. -/
theorem batch_eq_ok (creation : Creation) {supplied : List Parameter}
    (hfree : ∀ p ∈ supplied, p.isNamed masterId = false) {h after : Handle}
    (hcapturable : h.Capturable) {tables : List DataTable}
    (hbatch : batch supplied (statements creation.text) h = (after, .ok tables)) :
    ∃ parent children label, tables = [⟨"", [label], [[.int parent.row.key]]⟩] ∧
      creation.Adds h after parent children := by
  obtain ⟨create, clear, keep, behind, label, written, place, hstatements⟩ :=
    creation.statements_text
  rw [hstatements] at hbatch
  obtain ⟨between, ⟨parent, children, hadds⟩, hreading⟩ :=
    (creation.continues hcapturable hfree _ create clear keep _).of_batch hbatch
  have hread := walk_reading Connection.uncancelled supplied hadds.captures label written place
    behind ()
  rw [walk_uncancelled, hreading] at hread
  rcases hread with ⟨e, herror⟩ | ⟨surveyed, world, hread⟩
  · cases herror
  · obtain ⟨htables, hafter, -⟩ := Walk.mk.inj hread
    obtain rfl := Except.ok.inj htables
    subst hafter
    have hgains := hadds.gains.trans (.of_surveyed surveyed)
    rw [List.append_nil] at hgains
    exact ⟨parent, children, label, rfl, hgains, hadds.parent_adds, hadds.children_depend,
      hadds.captures⟩

end Creation

end SqlGateway.Sqlite

namespace SqlGateway.Executor

open Sqlite

variable {W : Type}

namespace Purchase

/-- Users, and what they order. -/
def users : Table := ⟨"users", [⟨"id", "INTEGER", true, false, false⟩,
  ⟨"age", "INTEGER", false, false, false⟩], [⟨4, [.integer 4, .integer 36]⟩]⟩

def orders : Table := ⟨"orders", [⟨"id", "INTEGER", true, false, false⟩,
  ⟨"user_id", "INTEGER", false, false, false⟩, ⟨"pieces", "INTEGER", false, false, false⟩],
  [⟨8, [.integer 8, .integer 4, .integer 1]⟩]⟩

/-- A database in which a user was created before. -/
def before : Handle :=
  { Handle.ofStore [users, orders] with
    temp := [capturingTable [⟨1, [.integer 4]⟩]], lastRowid := 8 }

/-- A connection to a database. -/
def connection (h : Handle) : Connection :=
  (Connection.ofPath ":memory:").holding ⟨.alone, 0, h⟩

/-- An executor of such a connection. -/
def scene (h : Handle) : Scene (Connection × Disk) :=
  ⟨{ serverType := .sqlite, dialect := .sqlite, backend := Connection.backend .whole },
    (connection h, .ofDirectories [])⟩

/-- A text gives a key and leaves a database. -/
def Gives (h : Handle) (sql : String) (key : Int64) (after : Handle) : Prop :=
  ((scalar sql []).perform (scene h)).1 = .ok (.ok (.int key)) ∧
    Site.whole.get ((scalar sql []).perform (scene h)).2.world =
      (connection h).keep (.ofDirectories []) ⟨.alone, 0, after⟩

theorem serves (h : Handle) : Site.whole.Serves (scene h).executor :=
  ⟨fun _ _ ↦ rfl, rfl, fun _ h ↦ (by cases h), fun _ h ↦ (by cases h)⟩

theorem not_hookPanics (h : Handle) (panic : Panic) : ¬HookPanics (scene h).executor panic := by
  rintro ⟨hook, command, world, hhook | hhook, -⟩
  · cases hhook
  · cases hhook

def userLine : Line where
  text := "INSERT INTO users (age) VALUES (45);".toList
  statement := .insert ⟨none, "users"⟩ (some ["age"]) [[.literal (.integer 45)]]
  names := []
  terminated := rfl
  plain := by decide
  closed := rfl
  rest := rfl
  parsed := rfl

/-- The insertion of a user. -/
def user : Written where
  gap := []
  target := "users"
  columns := "age"
  values := "45"
  entry := ⟨⟨none, "users"⟩, ["age"], [.literal (.integer 45)], []⟩
  line := userLine
  blank := List.all_eq_true.mp rfl
  text := by
    rw [toList_insertionText]
    rfl
  statement := rfl
  names := rfl
  spares := by decide

def orderLine : Line where
  text := "\nINSERT INTO orders (user_id, pieces) VALUES (@MasterId, 3);".toList
  statement := .insert ⟨none, "orders"⟩ (some ["user_id", "pieces"])
    [[.parameter 1, .literal (.integer 3)]]
  names := [some "@MasterId"]
  terminated := rfl
  plain := by decide
  closed := rfl
  rest := rfl
  parsed := rfl

/-- The insertion of an order. -/
def order : Written where
  gap := ['\n']
  target := "orders"
  columns := "user_id, pieces"
  values := "@MasterId, 3"
  entry := ⟨⟨none, "orders"⟩, ["user_id", "pieces"], [.parameter 1, .literal (.integer 3)],
    [some "@MasterId"]⟩
  line := orderLine
  blank := List.all_eq_true.mp rfl
  text := by
    rw [toList_insertionText]
    rfl
  statement := rfl
  names := rfl
  spares := by decide

def lastLine : Line where
  text := "\nSELECT Id AS id FROM temp.InsertedTable;".toList
  statement := reading "id" "Id" 8
  names := []
  terminated := rfl
  plain := by decide
  closed := rfl
  rest := rfl
  parsed := rfl

/-- A user with an order. -/
def creation : Creation where
  subQueries := "INSERT INTO orders (user_id, pieces) VALUES (@MasterId, 3);"
  pkName := "id"
  parent := user
  parent_gap := rfl
  children := [order]
  last := lastLine
  rest_text := rfl
  last_statement := ⟨_, _, _, rfl⟩
  last_names := rfl

theorem gives_of_batch {h : Handle} {sql : String} {lines : List Line}
    (htext : sql.toList = script lines) {key : Int64}
    (hbatch : (batch [] (prepared lines []) h).2 = .ok [⟨"", ["id"], [[.int key]]⟩]) :
    Gives h sql key (batch [] (prepared lines []) h).1 := by
  rw [← statements_of_script htext] at hbatch ⊢
  have hopened : (Site.whole.ensured (scene h).world).1.database = some ⟨.alone, 0, h⟩ := rfl
  have hvalue := scalar_of_batch (serves h) rfl (not_hookPanics h) (fun _ ↦ rfl) hopened hbatch
  obtain ⟨opened, after, tables, hopened', hbatch', -, hthere⟩ :=
    scalar_eq_ok (serves h) rfl hvalue
  obtain rfl := Option.some.inj hopened'
  have hafter : (batch [] (statements sql) h).1 = after := congrArg Prod.fst hbatch'
  rw [hafter]
  exact ⟨hvalue, hthere⟩

/-- The users who ordered something. -/
def buyers (h : Handle) : Option (List Cell) :=
  (h.tableAt .main "orders").map fun table ↦ table.rows.map (·.cell (.column 1))

/-- A user's table is called like the reserved one. -/
def shadowed : Handle :=
  { Handle.ofStore [⟨capturedTable, [⟨"Id", "INTEGER", true, false, false⟩],
      [⟨7, [.integer 7]⟩]⟩, orders] with
    temp := [capturingTable [⟨1, [.integer 7]⟩]], lastRowid := 1 }

def shadowedLine : Line where
  text := "INSERT INTO InsertedTable (Id) VALUES (8);".toList
  statement := .insert ⟨none, "InsertedTable"⟩ (some ["Id"]) [[.literal (.integer 8)]]
  names := []
  terminated := rfl
  plain := by decide
  closed := rfl
  rest := rfl
  parsed := rfl

/-- The reserved table is spelled in another way. -/
def respelled : Handle := { before with temp := [⟨"insertedtable", [keyColumn], []⟩] }

/-- Users are texts. -/
def textual : Handle := Handle.ofStore [users, { orders with
  columns := [⟨"id", "INTEGER", true, false, false⟩, ⟨"user_id", "TEXT", false, false, false⟩,
    ⟨"pieces", "INTEGER", false, false, false⟩], rows := [] }]

/-- A column is named twice. -/
def repeatedLine : Line where
  text := "\nINSERT INTO orders (user_id, user_id) VALUES (3, @MasterId);".toList
  statement := .insert ⟨none, "orders"⟩ (some ["user_id", "user_id"])
    [[.literal (.integer 3), .parameter 1]]
  names := [some "@MasterId"]
  terminated := rfl
  plain := by decide
  closed := rfl
  rest := rfl
  parsed := rfl

/-- The text of a creation is that of its lines. -/
theorem toList_creationText_eq {target columns values subQueries : String} {first child : Line}
    (hfirst : first.text = (insertionText target columns values).toList)
    (hchild : child.text = '\n' :: subQueries.toList) :
    (creationText target columns values subQueries "id").toList =
      script (first :: capturing ++ [child, lastLine]) := by
  have hlast : lastLine.text = readingText "id" := rfl
  rw [toList_creationText, List.cons_append, script_cons, script_append, script_cons,
    script_singleton, hfirst, hchild, hlast, List.cons_append]

end Purchase

end SqlGateway.Executor
