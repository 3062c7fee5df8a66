import SqlGateway.Proofs.Sqlite.Call
import SqlGateway.Proofs.Sqlite.Parsing
import SqlGateway.Proofs.Sqlite.Savepoint
import SqlGateway.Proofs.Template.Filling

/-!
# Blocks of statements

The template for a block of statements puts them between a savepoint and its release. If all goes
well the block is committed as a whole. But the walk through a batch stops at the first failure, so
that nothing releases the savepoint any more, and nothing goes back to it: the transaction that it
began stays in progress, though the executor knows of none. What the statements before the failure
did is neither committed nor undone, no other transaction can begin, and the executor neither
commits nor rolls back, for it has nothing to end.

This is what `nonQuery_transactionBlock` says: of the two halves of atomicity the first holds, and
of the second only that nothing was committed.
-/

namespace SqlGateway.Sqlite

variable {W : Type}

/-! ## The text of a block -/

/-- The text of a block. -/
def blockText (name body : String) : String :=
  Template.fill Dialect.Sqlite.auxiliary.transactionBlock [("TranName", name), ("SqlBody", body)]

theorem toList_blockText (name body : String) :
    (blockText name body).toList =
      "SAVEPOINT ".toList ++ (name.toList ++ (";\n".toList ++ (body.toList ++ ("\n".toList ++
        ("RELEASE ".toList ++ (name.toList ++ ";".toList)))))) := by
  let pieces : List Template.Piece :=
    ["SAVEPOINT ", Slot.tranName, ";\n", Slot.sqlBody, "\n", "RELEASE ", Slot.tranName, ";"]
  have hplain : ∀ piece ∈ pieces, piece.Plain := by decide
  have hfill := Template.toList_fill_valued hplain [(.tranName, name), (.sqlBody, body)]
  refine hfill.trans ?_
  simp only [pieces, List.flatMap_cons, List.flatMap_nil, Template.Piece.worth, List.append_nil]
  rfl

/-- The statements of a block: a savepoint, statements that begin and end no transactions, and the
release of the savepoint. A statement starts behind the semicolon of the one before it. -/
structure Block (name body : String) where
  /-- What the name means, which may be written between quotes. -/
  point : String
  opening : Line
  inner : List Line
  closing : Line
  opening_text : opening.text = "SAVEPOINT ".toList ++ (name.toList ++ [';'])
  rest_text : '\n' :: (body.toList ++ ('\n' :: ("RELEASE ".toList ++ (name.toList ++ [';'])))) =
    script inner ++ closing.text
  opening_statement : opening.statement = .savepoint point ∧ opening.names = []
  closing_statement : closing.statement = .release point ∧ closing.names = []
  calm : ∀ line ∈ inner, line.statement.controls = false

namespace Block

variable {name body : String}

/-- What is run within the transaction. -/
def statements (block : Block name body) : List (Except SqlError Prepared) :=
  prepared block.inner block.closing.text

theorem text_eq (block : Block name body) :
    (blockText name body).toList = script (block.opening :: block.inner ++ [block.closing]) := by
  rw [List.cons_append, script_cons, script_append, script_singleton, ← block.rest_text,
    block.opening_text, toList_blockText]
  simp

theorem controls_of_mem (block : Block name body) {p : Prepared} (h : .ok p ∈ block.statements) :
    p.statement.controls = false := by
  obtain ⟨line, hline, hstatement⟩ := mem_prepared h
  rw [hstatement]
  exact block.calm line hline

/-- The batch of a block. -/
theorem batch_eq (block : Block name body) (supplied : List Parameter) (h : Handle) :
    batch supplied (Sqlite.statements (blockText name body)) h =
      let (after, result) := batch supplied block.statements (h.savepoint block.point)
      match result with
      | .error e => (after, .error e)
      | .ok tables => ((after.release block.point).1,
          (after.release block.point).2.map fun _ ↦ tables) := by
  have hprepared : prepared (block.opening :: block.inner ++ [block.closing]) [] =
      block.opening.prepared (script (block.inner ++ [block.closing])) :: block.statements ++
        [block.closing.prepared []] := by
    rw [List.cons_append, prepared, prepared_append, statements, List.append_nil]
    simp [prepared, script]
  rw [statements_of_script block.text_eq, hprepared]
  simp only [batch, Line.prepared]
  rw [walk_block block.opening_statement.1 block.opening_statement.2 block.closing_statement.1
    block.closing_statement.2]
  rcases walk Connection.uncancelled supplied block.statements (h.savepoint block.point) () with
    ⟨e | tables, after, world⟩
  · rfl
  · rfl

/-- **The batch of a block goes well and commits what its statements did, or it fails within the
transaction.** -/
theorem batch_cases (block : Block name body) (supplied : List Parameter) {h left : Handle}
    {outcome : Except SqlError (List DataTable)} (hidle : h.transaction = none)
    (hbatch : batch supplied (Sqlite.statements (blockText name body)) h = (left, outcome)) :
    let (after, result) := batch supplied block.statements (h.savepoint block.point)
    (∃ tables, outcome = .ok tables ∧ result = .ok tables ∧
        left = { after with committed := after.main, transaction := none }) ∨
      (∃ e, outcome = .error e) ∧ Handle.Inside h block.point left ∧
        ((∃ e, result = .error e) → left = after) := by
  have hinside := (Handle.Inside.savepoint hidle block.point).walk
    (fun p ↦ block.controls_of_mem) Connection.uncancelled supplied ()
  rw [block.batch_eq] at hbatch
  rcases hinner : batch supplied block.statements (h.savepoint block.point) with ⟨after, result⟩
  -- The invariant holds wherever the statements stop.
  have hafter : Handle.Inside h block.point after := by
    rw [walk_uncancelled, hinner] at hinside
    exact hinside
  rw [hinner] at hbatch
  cases result with
  | error e =>
    obtain ⟨rfl, rfl⟩ := Prod.mk.inj hbatch
    exact .inr ⟨⟨e, rfl⟩, hafter, fun _ ↦ rfl⟩
  | ok tables =>
    rcases hafter.release with hreleased | ⟨stuck, hlocked, hstuck⟩
    · simp only [hreleased] at hbatch
      obtain ⟨rfl, rfl⟩ := Prod.mk.inj hbatch
      exact .inl ⟨tables, rfl, rfl, rfl⟩
    · simp only [hlocked] at hbatch
      obtain ⟨rfl, rfl⟩ := Prod.mk.inj hbatch
      refine .inr ⟨⟨_, rfl⟩, hstuck, ?_⟩
      rintro ⟨e, herror⟩
      cases herror

end Block

end SqlGateway.Sqlite

namespace SqlGateway.Executor

open Sqlite

variable {W : Type}

/-- A transaction is in progress in the database of an executor that knows of none. Nothing of what
was `before` is lost, but a rollback is not what the executor does. -/
structure Stranded [IdSource W] (before stuck : Handle) (scene : Scene W) : Prop where
  inTransaction : stuck.inTransaction = true
  committed : stuck.committed = before.committed
  restorable : stuck.rollback = .ok { stuck with
    committed := before.committed, temp := before.temp, transaction := none }
  begin_refused : ∀ isolation, ∃ e, ((begin isolation).run scene).1 = .error (.transaction e)
  begin_none : ((begin none).run scene).1 = .error (.transaction (.transaction
    "cannot start a transaction within a transaction"))
  commit_idle : (commit.run scene).2.world = scene.world
  rollback_idle : (rollback.run scene).2.world = scene.world

theorem endTransaction_idle {scene : Scene W} (hactive : scene.executor.transaction = none)
    (finish : Backend W → StateM W (BackendResult Unit)) :
    ((endTransaction finish).run scene).2.world = scene.world := by
  rw [endTransaction, run_bind, run_get, run_bind, run_takeTransaction, hactive]
  rfl

theorem Stranded.ofInside [IdSource W] {site : Site W} {scene : Scene W} {c : Connection}
    {disk : Disk} {opened : OpenDatabase} {before : Handle} {point : String}
    (hserves : site.Serves scene.executor) (hactive : scene.executor.transaction = none)
    (hsound : c.Sound) (hthere : site.get scene.world = (c, disk))
    (hopened : c.database = some opened) (hinside : Handle.Inside before point opened.handle) :
    Stranded before opened.handle scene := by
  have hload : (disk.load opened).inTransaction = true := by
    rw [Handle.inTransaction, load_transaction]
    exact hinside.inTransaction
  have hbegin (isolation : Option IsolationLevel) : ∃ e : SqlError,
      ((begin isolation).run scene).1 = .error (.transaction (.transaction e.display)) ∧
        (Connection.lockOf isolation = none →
          e = .general "cannot start a transaction within a transaction") := by
    obtain ⟨e, hrun, he⟩ := run_begin_of_inTransaction hload (Connection.lockOf isolation) []
    exact ⟨e, begin_of_refused hserves hactive hthere hsound hopened isolation hrun, he⟩
  refine ⟨hinside.inTransaction, hinside.committed, hinside.rollback, fun isolation ↦ ?_, ?_,
    endTransaction_idle hactive _, endTransaction_idle hactive _⟩
  · obtain ⟨e, hrefused, -⟩ := hbegin isolation
    exact ⟨_, hrefused⟩
  · obtain ⟨e, hrefused, he⟩ := hbegin none
    rw [hrefused, he rfl]
    rfl

namespace Halfway

instance : IdSource (Connection × Disk) := ⟨pure default⟩

/-- A table that holds every number once. -/
def table : Table := ⟨"t", [⟨"n", "INTEGER", false, false, true⟩], []⟩

def connection : Connection :=
  (Connection.ofPath ":memory:").holding ⟨.alone, 0, Handle.ofStore [table]⟩

def scene : Scene (Connection × Disk) :=
  ⟨{ serverType := .sqlite, dialect := .sqlite, backend := Connection.backend .whole },
    (connection, .ofDirectories [])⟩

/-- An insertion of one, on a line of its own. -/
def inserting : Line where
  text := "\nINSERT INTO t (n) VALUES (1);".toList
  statement := .insert ⟨none, "t"⟩ (some ["n"]) [[.literal (.integer 1)]]
  names := []
  terminated := rfl
  plain := by decide
  closed := rfl
  rest := rfl
  parsed := rfl

/-- One is inserted twice. -/
def block : Block "s" "INSERT INTO t (n) VALUES (1);\nINSERT INTO t (n) VALUES (1);" where
  point := "s"
  opening :=
    { text := "SAVEPOINT s;".toList, statement := .savepoint "s", names := [], terminated := rfl,
      plain := by decide, closed := rfl, rest := rfl, parsed := rfl }
  inner := [inserting, inserting]
  closing :=
    { text := "\nRELEASE s;".toList, statement := .release "s", names := [], terminated := rfl,
      plain := by decide, closed := rfl, rest := rfl, parsed := rfl }
  opening_text := rfl
  rest_text := rfl
  opening_statement := ⟨rfl, rfl⟩
  closing_statement := ⟨rfl, rfl⟩
  calm := by decide

/-- Whether a call was answered with a failure. -/
def isRefused : Except Panic (Result UInt64) → Bool
  | .ok (.error _) => true
  | _ => false

end Halfway

end SqlGateway.Executor
