import SqlGateway.Sqlite.Plan

/-!
# Running programs

A prepared program is run with a cell for each of its parameters. First it takes the lock that it
needs. A program that fails leaves the tables as they were; but of the rows that it put in before it
failed, the last one's key stays the last key, and in a transaction it keeps its lock.

A test of `NULL` gives neither truth nor falsehood, and a row is taken only if its condition is
true.
-/

namespace SqlGateway.Sqlite

/-! ## Evaluation -/

/-- What an expression is evaluated with. -/
structure Scope where
  /-- The table that the row is from, and the row. -/
  row : Option (Table × Row)
  parameters : List Cell
  lastRowid : Int64
  count : Nat
deriving Inhabited

/-- The scope within a row of a table. -/
def Scope.within (scope : Scope) (table : Table) (row : Row) : Scope :=
  { scope with row := some (table, row) }

/-- The cell of a field; without a row it is `NULL`. -/
def Scope.cell (scope : Scope) (field : Field) : Cell :=
  match scope.row, field with
  | some (_, row), .key => .integer row.key
  | some (_, row), .column index => row.cells.getD index .null
  | none, _ => .null

/-- The affinity of an expression, which only a field has. -/
def Scope.affinity? (scope : Scope) (value : Expr Field) : Option Affinity :=
  match scope.row, value with
  | some (table, _), .name field => some (table.affinity field)
  | _, _ => none

/-- The truth of a cell; `NULL` has none. -/
def truth? (cell : Cell) : Option Bool := cell.number?.map (· != 0)

/-- The cell of a truth value. -/
def truthCell : Option Bool → Cell
  | some true => .integer 1
  | some false => .integer 0
  | none => .null

/-- Whether an ordering is what a comparison asks for. -/
def Comparison.holds : Comparison → Ordering → Bool
  | .equal, o => o == .eq
  | .notEqual, o => o != .eq
  | .less, o => o == .lt
  | .lessOrEqual, o => o != .gt
  | .greater, o => o == .gt
  | .greaterOrEqual, o => o != .lt

/-- Both are true. Falsehood of one decides. -/
def both : Option Bool → Option Bool → Option Bool
  | some false, _ => some false
  | _, some false => some false
  | some true, some true => some true
  | _, _ => none

/-- Either is true. Truth of one decides. -/
def either (a b : Option Bool) : Option Bool := (both (a.map not) (b.map not)).map not

/-- The cell that an expression stands for. -/
def Expr.eval (scope : Scope) : Expr Field → Cell
  | literal cell => cell
  | parameter number => scope.parameters.getD (number - 1) .null
  | name field => scope.cell field
  | lastRowid => .integer scope.lastRowid
  | count => .integer (Int64.ofNat scope.count)
  | upper operand => (operand.eval scope).upper
  | isNull operand => truthCell (some (operand.eval scope).isNull)
  | not operand => truthCell ((truth? (operand.eval scope)).map Bool.not)
  | compare comparison left right =>
    let affinity := Affinity.ofComparison (scope.affinity? left) (scope.affinity? right)
    let (a, b) := affinity.compared (left.eval scope, right.eval scope)
    truthCell (if a.isNull || b.isNull then none else some (comparison.holds (a.order b)))
  | and left right => truthCell (both (truth? (left.eval scope)) (truth? (right.eval scope)))
  | or left right => truthCell (either (truth? (left.eval scope)) (truth? (right.eval scope)))

/-- Whether a condition, if there is one, takes a row. -/
def Scope.satisfies (scope : Scope) (condition : Option (Expr Field)) : Bool :=
  condition.all fun condition ↦ truth? (condition.eval scope) == some true

/-! ## Queries -/

/-- The whole number that bounds a result. -/
def boundOf (cell : Cell) : Except SqlError Int64 :=
  match cell.asInteger? with
  | some n => .ok n
  | none => .error (.general "datatype mismatch")

namespace Selection

/-- Whether a row comes before another or is as good. -/
def before (selection : Selection) (a b : Scope) : Bool :=
  let decided := selection.order.findSome? fun (value, descending) ↦
    match Cell.order (value.eval a) (value.eval b) with
    | .eq => none
    | .lt => some !descending
    | .gt => some descending
  decided.getD true

/-- What the rows of the result are evaluated with, one scope a row of the table, in the order in
which they are visited. -/
def scopes (selection : Selection) (scope : Scope) : List Scope :=
  let all := match selection.table with
    | some table =>
      let visit := (Survey.ofSelection table selection).choose
      (visit.rows table).map (scope.within table)
    | none => [scope]
  all.filter (·.satisfies selection.condition)

/-- The rows of the result. In a row that counts, fields are those of the first row visited. Where
no row is asked for, it does not matter from where on. -/
def run (selection : Selection) (scope : Scope) : Except SqlError (List (List Cell)) := do
  let limit ← selection.limit.mapM fun limit ↦ boundOf (limit.eval scope)
  if limit == some 0 then return []
  let offset ← selection.offset.mapM fun offset ↦ boundOf (offset.eval scope)
  let scopes := selection.scopes scope
  let ordered :=
    if selection.counts then [{ scopes.headD scope with count := scopes.length }]
    else scopes.mergeSort selection.before
  let behind := match offset with
    | some n => ordered.drop n.toInt.toNat
    | none => ordered
  let kept := match limit with
    | some n => if n < 0 then behind else behind.take n.toInt.toNat
    | none => behind
  pure (kept.map fun scope ↦ selection.results.map (·.2.eval scope))

end Selection

/-! ## Changes -/

/-- The cells of a row after assignments to fields, one after the other. -/
def assigned (table : Table) (cells : List Cell) (values : List (Field × Cell)) : List Cell :=
  values.foldl (fun cells (field, cell) ↦ match field with
    | .key => (table.keyIndex?.map fun index ↦ cells.set index cell).getD cells
    | .column index => cells.set index cell) cells

/-- The last cell that is assigned to the key. -/
def assignedKey? (values : List (Field × Cell)) : Option Cell :=
  (values.reverse.find? (·.1 == .key)).map Prod.snd

/-- Put rows into a table one after the other. Of a column that is named twice the first value
counts, and columns that are not named get `NULL`. The first row that fails ends it. Gives the key
of the last row that was put in, too, or `last` if none was. -/
def insertRows (fields : List Field) :
    List (List Cell) → Table → (last : Int64) → Int64 × Except SqlError Table
  | [], table, last => (last, .ok table)
  | cells :: others, table, last =>
    let values := fields.zip cells
    let empty := List.replicate table.columns.length Cell.null
    match table.insert (assignedKey? values) (assigned table empty values.reverse) with
    | .ok (key, table) => insertRows fields others table key
    | .error e => (last, .error e)

/-- Change rows of a table one after the other. All values see the row as it was. -/
def updateRows (scope : Scope) (assignments : List (Field × Expr Field)) :
    List Row → Table → Except SqlError Table
  | [], table => .ok table
  | row :: others, table => do
    let values := assignments.map fun (field, value) ↦
      (field, value.eval (scope.within table row))
    updateRows scope assignments others
      (← table.change row (assignedKey? values) (assigned table row.cells values))

/-- Put a changed table into the database and count the changed rows. -/
def Handle.withTable (h : Handle) (place : Handle.Place) (table : Table) (changed : Nat) :
    Handle :=
  { h.withStoreAt ((h.storeAt place).replace table) place with changes := h.changes + changed }

/-- Insert rows into a table. -/
def Handle.insert (h : Handle) (place : Handle.Place) (table : Table) (fields : List Field)
    (rows : List (List Cell)) : Handle × Except SqlError Unit :=
  let (last, inserted) := insertRows fields rows table h.lastRowid
  let h := { h with lastRowid := last }
  match inserted with
  | .ok table => (h.withTable place table rows.length, .ok ())
  | .error e => (h, .error e)

/-- The database that something led to, or the one before it. -/
def Handle.after (h : Handle) : Except SqlError Handle → Handle × Except SqlError Unit
  | .ok h => (h, .ok ())
  | .error e => (h, .error e)

/-- Run a program that has its locks. -/
def Program.act (program : Program) (h : Handle) (parameters : List Cell) :
    Handle × Except SqlError (List (List Cell)) :=
  let scope : Scope := ⟨none, parameters, h.lastRowid, 0⟩
  let changed (done : Handle × Except SqlError Unit) :=
    (done.1, done.2.map fun _ ↦ ([] : List (List Cell)))
  match program with
  | .select _ selection => (h, selection.run scope)
  | .create place name columns =>
    (h.withStoreAt (h.storeAt place ++ [⟨name, columns, []⟩]) place, .ok [])
  | .skip _ => (h, .ok [])
  | .insert place table fields rows =>
    changed (h.insert place table fields (rows.map fun row ↦ row.map (Expr.eval scope)))
  | .update place table assignments condition =>
    let taken := table.rows.filter fun row ↦ (scope.within table row).satisfies condition
    changed <| h.after <| (updateRows scope assignments taken table).map fun table ↦
      h.withTable place table taken.length
  | .delete place table condition =>
    let (taken, left) := table.rows.partition fun row ↦
      (scope.within table row).satisfies condition
    (h.withTable place { table with rows := left } taken.length, .ok [])
  | .begin _ => changed (h.after (h.begin (program.lock? h.readOnly)))
  | .commit => changed h.commit
  | .rollback => changed (h.after h.rollback)
  | .savepoint name => (h.savepoint name, .ok [])
  | .release name => changed (h.release name)
  | .rollbackTo name => changed (h.after (h.rollbackTo name))

/-- Take the lock of a program. -/
def Program.take (program : Program) (h : Handle) : Except SqlError Handle :=
  if program.writes && h.readOnly then .error .readOnly
  else match program.lock? h.readOnly with
    | some lock => h.acquire lock
    | none => .ok h

/-- Run a program. What it writes outside of a transaction is committed by itself, which needs that
no others hold locks. Gives the database after it, even if it fails, and the rows of its result. -/
def Program.run (program : Program) (h : Handle) (parameters : List Cell) :
    Handle × Except SqlError (List (List Cell)) :=
  match program.take h with
  | .error e => (h, .error e)
  | .ok h =>
    match program.act h parameters with
    | (after, .error e) => (after, .error e)
    | (after, .ok rows) =>
      if program.writes && !h.inTransaction && h.rival.isSome then
        ({ h with lastRowid := after.lastRowid }, .error .locked)
      else (after, .ok rows)

end SqlGateway.Sqlite
