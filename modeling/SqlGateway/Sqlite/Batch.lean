import SqlGateway.Effect
import SqlGateway.Parameter
import SqlGateway.Sqlite.Engine
import SqlGateway.Table

/-!
# Batches

A text of several statements is run one statement after the other: it is prepared against the
database as the statements before it left it, its parameters are bound, and it is run. The first
failure ends the batch; what was done before stays done. Before a prepared statement is run the
caller's token is read, and if it has fired the batch ends there.

A parameter takes the value of the first one of its name, in any case and without its prefix. One
that has no value is `NULL`, except `MasterId`, which is then the key that was captured when a row
was created.
-/

namespace SqlGateway.Sqlite

/-! ## Binding -/

/-- The parameter that is bound to the captured key. -/
def masterId : String := "MasterId"

/-- The temporary table that a key is captured in. -/
def capturedTable : String := "InsertedTable"

/-- The captured key, if there is one. -/
def capturedKey (h : Handle) : Except SqlError (Option Cell) :=
  match List.find? (fun table ↦ table.name == capturedTable) h.temp with
  | none => .ok none
  | some table =>
    match table.field? "Id" with
    | some field =>
      let survey : Survey := ⟨table, [field], 1, [], [], some 1⟩
      let scope : Scope := ⟨none, [], h.lastRowid, 0⟩
      .ok ((survey.choose.rows table).head?.map fun row ↦ (scope.within table row).cell field)
    | none =>
      .error (.located "no such column: Id" "SELECT Id FROM temp.InsertedTable LIMIT 1" 7)

/-- The cell that is bound to a parameter of the statement. -/
def bindVariable (h : Handle) (parameters : List Parameter) :
    Option String → Except SqlError Cell
  | none => .ok .null
  | some written =>
    let name := Parameter.bareName written
    match parameters.find? (·.isNamed name) with
    | some parameter => .ok (.ofValue parameter.value)
    | none =>
      if Text.sameName name masterId then (capturedKey h).map fun key ↦ key.getD .null
      else .ok .null

/-- The cells that are bound to the parameters of a statement. -/
def bind (h : Handle) (parameters : List Parameter) (names : Variables) :
    Except SqlError (List Cell) :=
  names.mapM (bindVariable h parameters)

/-! ## Running -/

/-- The result of a query as a table. A statement without columns has none. -/
def resultTables (columns : List String) (rows : List (List Cell)) : List DataTable :=
  if columns.isEmpty then [] else [⟨"", columns, rows.map fun row ↦ row.map Cell.toValue⟩]

/-- Bind and run a prepared statement. Gives the database after it, even if it fails. -/
def step (parameters : List Parameter) (names : Variables) (program : Program) (h : Handle) :
    Handle × Except SqlError (List DataTable) :=
  match bind h parameters names with
  | .error e => (h, .error e)
  | .ok cells =>
    let (after, rows) := program.run h cells
    (after, rows.map (resultTables program.columns))

/-- How far a batch came: its tables or its failure, the database after it, and the world. -/
structure Walk (W : Type) where
  result : Except SqlError (List DataTable)
  handle : Handle
  world : W

/-- Run statements one after the other. -/
def walk {W : Type} (token : Cancellation W) (parameters : List Parameter) :
    List (Except SqlError Prepared) → Handle → W → Walk W
  | [], h, world => ⟨.ok [], h, world⟩
  | .error e :: _, h, world => ⟨.error e, h, world⟩
  | .ok p :: rest, h, world =>
    match p.ready h with
    | (h, .error e) => ⟨.error e, h, world⟩
    | (h, .ok program) =>
      let (fired, world) := token.run world
      if fired then ⟨.error .interrupted, h, world⟩
      else match step parameters p.names program h with
        | (h, .error e) => ⟨.error e, h, world⟩
        | (h, .ok tables) =>
          let behind := walk token parameters rest h world
          { behind with result := behind.result.map (tables ++ ·) }

end SqlGateway.Sqlite
