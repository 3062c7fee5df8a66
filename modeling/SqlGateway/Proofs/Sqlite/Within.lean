import SqlGateway.Proofs.Execution.Abreast
import SqlGateway.Proofs.Sqlite.Savepoint

/-!
# Statements within a transaction and without one

Two databases are taken side by side that were one when a transaction began in the first of them.
The same statements are run in both, and as long as none of them controls transactions, both look
the same to every statement: they give the same results and fail alike, also half-way through a
batch.

## The invariant

`Handle.Within` says what the first database is, given the second one: all of it but the committed
tables, which are those at the beginning; what has changed since is in the transaction. The second
one commits each statement by itself. That nobody else holds a lock is part of it, as a statement in
a transaction keeps its lock, and one without a transaction has none.

## The end

To commit turns the first database into the second one, and to roll back turns it into the one at
the beginning, but for the last key, the number of changes and the knowledge of which tables there
are.
-/

namespace SqlGateway.Sqlite

variable {W : Type}

namespace Handle

/-- A database in which a transaction is in progress that began in `base`, beside one in which the
same was done without a transaction. -/
structure Within (base plain inside : Handle) : Prop where
  idle : plain.transaction = none
  rival : plain.rival = none
  readOnly : plain.readOnly = base.readOnly
  journaled : plain.journaled = base.journaled
  inside : ∃ working lock, working.getD base.committed = plain.committed ∧
    inside = { plain with
      committed := base.committed
      transaction := some ⟨working, base.temp, lock, false, []⟩ }

/-- To begin puts the databases side by side. It goes well only where no transaction is in
progress. -/
theorem within_of_begin {base after : Handle} {lock : Option Lock} {rows : List (List Cell)}
    (hrival : base.rival = none) (hrun : (Program.begin lock).run base [] = (after, .ok rows)) :
    base.transaction = none ∧ Within base base after := by
  rw [Program.run] at hrun
  cases htake : (Program.begin lock).take base with
  | error e =>
    rw [htake] at hrun
    cases hrun
  | ok ready =>
    obtain ⟨held, rfl⟩ := Program.take_frame htake
    rw [htake] at hrun
    cases hidle : base.transaction with
    | some transaction =>
      rw [hidle] at hrun
      cases hrun
    | none =>
      rw [hidle] at hrun
      obtain ⟨rfl, -⟩ := Prod.mk.inj hrun
      exact ⟨rfl, hidle, hrival, rfl, rfl, none, _, rfl, rfl⟩

namespace Within

variable {base plain inside : Handle}

/-! ### What statements see -/

theorem temp (h : Within base plain inside) : inside.temp = plain.temp := by
  obtain ⟨working, lock, -, hinside⟩ := h.inside
  rw [hinside]

theorem lastRowid (h : Within base plain inside) : inside.lastRowid = plain.lastRowid := by
  obtain ⟨working, lock, -, hinside⟩ := h.inside
  rw [hinside]

theorem changes (h : Within base plain inside) : inside.changes = plain.changes := by
  obtain ⟨working, lock, -, hinside⟩ := h.inside
  rw [hinside]

theorem rival_inside (h : Within base plain inside) : inside.rival = none := by
  obtain ⟨working, lock, -, hinside⟩ := h.inside
  rw [hinside]
  exact h.rival

theorem storeAt (h : Within base plain inside) : inside.storeAt = plain.storeAt := by
  obtain ⟨working, lock, htables, hinside⟩ := h.inside
  funext place
  cases place with
  | main =>
    rw [Handle.storeAt, Handle.storeAt, Handle.main, Handle.main, h.idle, hinside]
    exact htables
  | temp => exact h.temp

theorem find? (h : Within base plain inside) : inside.find? = plain.find? := by
  funext table
  rw [Handle.find?, Handle.find?, h.storeAt]

theorem resolve (h : Within base plain inside) : inside.resolve = plain.resolve := by
  funext table
  rw [Handle.resolve, Handle.resolve, h.find?]

/-- A statement is prepared alike in both. -/
theorem program (h : Within base plain inside) (p : Prepared) :
    p.program inside = p.program plain := by
  rw [Prepared.program, Prepared.program]
  simp only [Query.prepare, prepareCreate, prepareInsert, prepareUpdate, h.find?, h.resolve,
    h.storeAt]

theorem capturedKey (h : Within base plain inside) :
    Sqlite.capturedKey inside = Sqlite.capturedKey plain := by
  rw [Sqlite.capturedKey, Sqlite.capturedKey, h.temp, h.lastRowid]

theorem bind (h : Within base plain inside) (parameters : List Parameter) (names : Variables) :
    Sqlite.bind inside parameters names = Sqlite.bind plain parameters names := by
  rw [Sqlite.bind, Sqlite.bind]
  refine congrArg names.mapM (funext fun written ↦ ?_)
  cases written with
  | none => rfl
  | some written =>
    rw [bindVariable, bindVariable, h.capturedKey]

/-! ### What statements do -/

theorem withStoreAt (h : Within base plain inside) (store : Store) (place : Place) :
    Within base (plain.withStoreAt store place) (inside.withStoreAt store place) := by
  obtain ⟨hidle, hrival, hreadOnly, hjournaled, working, lock, htables, rfl⟩ := h
  cases place with
  | main =>
    rw [Handle.withStoreAt, Handle.withStoreAt, Handle.withMain, Handle.withMain]
    simp only [hidle]
    exact ⟨rfl, hrival, hreadOnly, hjournaled, some store, lock, rfl, rfl⟩
  | temp => exact ⟨hidle, hrival, hreadOnly, hjournaled, working, lock, htables, rfl⟩

theorem withLastRowid (h : Within base plain inside) (lastRowid : Int64) :
    Within base { plain with lastRowid := lastRowid } { inside with lastRowid := lastRowid } := by
  obtain ⟨hidle, hrival, hreadOnly, hjournaled, working, lock, htables, rfl⟩ := h
  exact ⟨hidle, hrival, hreadOnly, hjournaled, working, lock, htables, rfl⟩

theorem withTable (h : Within base plain inside) (place : Place) (table : Table) (changed : Nat) :
    Within base (plain.withTable place table changed) (inside.withTable place table changed) := by
  have hstored := h.withStoreAt ((plain.storeAt place).replace table) place
  obtain ⟨hidle, hrival, hreadOnly, hjournaled, working, lock, htables, hinside⟩ := hstored
  rw [Handle.withTable, Handle.withTable, h.storeAt, h.changes, hinside]
  exact ⟨hidle, hrival, hreadOnly, hjournaled, working, lock, htables, rfl⟩

/-- Nobody else is in the way of a survey. -/
theorem survey (h : Within base plain inside) (p : Prepared) :
    ∃ plain' inside', p.survey plain = .ok plain' ∧ p.survey inside = .ok inside' ∧
      Within base plain' inside' := by
  obtain ⟨hidle, hrival, hreadOnly, hjournaled, working, lock, htables, rfl⟩ := h
  have hgranted (held : Option Lock) : Lock.granted .shared held plain.rival = true := by
    rw [hrival, Lock.granted_none]
  simp only [Prepared.survey, hgranted, if_true]
  split
  · refine ⟨_, _, rfl, rfl, ?_⟩
    exact ⟨hidle, hrival, hreadOnly, hjournaled, working, lock, htables, rfl⟩
  · refine ⟨_, _, rfl, rfl, ?_⟩
    exact ⟨hidle, hrival, hreadOnly, hjournaled, working, lock, htables, rfl⟩

theorem ready (h : Within base plain inside) (p : Prepared) :
    (p.ready inside).2 = (p.ready plain).2 ∧
      Within base (p.ready plain).1 (p.ready inside).1 := by
  obtain ⟨plain', inside', hplain, hinside, hwithin⟩ := h.survey p
  rw [Prepared.ready, Prepared.ready, hplain, hinside]
  exact ⟨hwithin.program p, hwithin⟩

theorem insert (h : Within base plain inside) (place : Place) (table : Table)
    (fields : List Field) (rows : List (List Cell)) :
    (inside.insert place table fields rows).2 = (plain.insert place table fields rows).2 ∧
      Within base (plain.insert place table fields rows).1
        (inside.insert place table fields rows).1 := by
  rw [Handle.insert, Handle.insert, h.lastRowid]
  rcases insertRows fields rows table plain.lastRowid with ⟨last, e | table'⟩
  · exact ⟨rfl, h.withLastRowid last⟩
  · exact ⟨rfl, (h.withLastRowid last).withTable place table' rows.length⟩

/-! ### Programs -/

theorem act {program : Program} (h : Within base plain inside) (hcalm : program.controls = false)
    (cells : List Cell) :
    (program.act inside cells).2 = (program.act plain cells).2 ∧
      Within base (program.act plain cells).1 (program.act inside cells).1 := by
  cases program with
  | select place selection =>
    rw [Program.act, Program.act, h.lastRowid]
    exact ⟨rfl, h⟩
  | create place table columns =>
    rw [Program.act, Program.act, h.storeAt]
    exact ⟨rfl, h.withStoreAt _ place⟩
  | skip place => exact ⟨rfl, h⟩
  | insert place table fields rows =>
    rw [Program.act, Program.act, h.lastRowid]
    obtain ⟨hresult, hwithin⟩ := h.insert place table fields
      (rows.map fun row ↦ row.map (Expr.eval ⟨none, cells, plain.lastRowid, 0⟩))
    exact ⟨congrArg (Except.map fun _ ↦ []) hresult, hwithin⟩
  | update place table assignments condition =>
    rw [Program.act, Program.act, h.lastRowid]
    cases updateRows ⟨none, cells, plain.lastRowid, 0⟩ assignments
        (table.rows.filter fun row ↦
          (Scope.within ⟨none, cells, plain.lastRowid, 0⟩ table row).satisfies condition) table with
    | error e => exact ⟨rfl, h⟩
    | ok changed => exact ⟨rfl, h.withTable place changed _⟩
  | delete place table condition =>
    rw [Program.act, Program.act, h.lastRowid]
    exact ⟨rfl, h.withTable place _ _⟩
  | _ => cases hcalm

/-- Locks are granted to both; only the one in a transaction keeps them. -/
theorem take (h : Within base plain inside) (program : Program) :
    (∃ e, program.take plain = .error e ∧ program.take inside = .error e) ∨
      ∃ plain' inside', program.take plain = .ok plain' ∧ program.take inside = .ok inside' ∧
        Within base plain' inside' := by
  obtain ⟨hidle, hrival, hreadOnly, hjournaled, working, lock, htables, rfl⟩ := h
  have hgranted (wanted : Lock) (held : Option Lock) :
      wanted.granted held plain.rival = true := by
    rw [hrival, Lock.granted_none]
  simp only [Program.take, Handle.acquire, hgranted, Bool.not_true, Bool.false_eq_true, if_false]
  split
  · exact .inl ⟨_, rfl, rfl⟩
  split
  · next wanted hwanted =>
    split
    · exact .inl ⟨_, rfl, rfl⟩
    · rw [hidle]
      refine .inr ⟨_, _, rfl, rfl, ?_⟩
      exact ⟨hidle, hrival, hreadOnly, hjournaled, working, _, htables, rfl⟩
  · refine .inr ⟨_, _, rfl, rfl, ?_⟩
    exact ⟨hidle, hrival, hreadOnly, hjournaled, working, lock, htables, rfl⟩

theorem run {program : Program} (h : Within base plain inside) (hcalm : program.controls = false)
    (cells : List Cell) :
    (program.run inside cells).2 = (program.run plain cells).2 ∧
      Within base (program.run plain cells).1 (program.run inside cells).1 := by
  rw [Program.run, Program.run]
  rcases h.take program with ⟨e, hplain, hinside⟩ | ⟨plain', inside', hplain, hinside, hready⟩
  · rw [hplain, hinside]
    exact ⟨rfl, h⟩
  · rw [hplain, hinside]
    obtain ⟨hresult, hwithin⟩ := hready.act hcalm cells
    have hrival := hready.rival_inside
    -- What is written without a transaction is committed at once, as nobody holds a lock.
    simp only [hready.rival, hrival, Option.isSome_none, Bool.and_false, Bool.false_eq_true,
      if_false]
    rcases hplainAct : program.act plain' cells with ⟨plainAfter, result⟩
    rcases hinsideAct : program.act inside' cells with ⟨insideAfter, result'⟩
    rw [hplainAct, hinsideAct] at hresult hwithin
    obtain rfl : result' = result := hresult
    cases result' with
    | error e => exact ⟨rfl, hwithin⟩
    | ok rows => exact ⟨rfl, hwithin⟩

theorem step {program : Program} (h : Within base plain inside) (hcalm : program.controls = false)
    (parameters : List Parameter) (names : Variables) :
    (step parameters names program inside).2 = (step parameters names program plain).2 ∧
      Within base (Sqlite.step parameters names program plain).1
        (Sqlite.step parameters names program inside).1 := by
  rw [Sqlite.step, Sqlite.step, h.bind]
  cases Sqlite.bind plain parameters names with
  | error e => exact ⟨rfl, h⟩
  | ok cells =>
    obtain ⟨hresult, hwithin⟩ := h.run hcalm cells
    exact ⟨congrArg (Except.map _) hresult, hwithin⟩

/-! ### Batches -/

/-- **A batch comes as far in a transaction as without one**, and gives the same, whether it fails,
is cancelled or goes well. -/
theorem walk {statements : List (Except SqlError Prepared)} (h : Within base plain inside)
    (hcalm : ∀ p, .ok p ∈ statements → p.statement.controls = false) {R : W → W → Prop}
    {token : Cancellation W} (htoken : Abreast.Steps R token token) (parameters : List Parameter)
    {v w : W} (hworld : R v w) :
    (walk token parameters statements inside w).result =
        (Sqlite.walk token parameters statements plain v).result ∧
      Within base (Sqlite.walk token parameters statements plain v).handle
        (Sqlite.walk token parameters statements inside w).handle ∧
      R (Sqlite.walk token parameters statements plain v).world
        (Sqlite.walk token parameters statements inside w).world := by
  induction statements generalizing plain inside v w with
  | nil => exact ⟨rfl, h, hworld⟩
  | cons statement rest ih =>
    cases statement with
    | error e => exact ⟨rfl, h, hworld⟩
    | ok p =>
      obtain ⟨hprogram, hready⟩ := h.ready p
      rw [Sqlite.walk, Sqlite.walk]
      rcases hplain : p.ready plain with ⟨plain', result⟩
      rcases hinside : p.ready inside with ⟨inside', result'⟩
      rw [hplain, hinside] at hprogram hready
      obtain rfl : result' = result := hprogram
      cases result' with
      | error e => exact ⟨rfl, hready, hworld⟩
      | ok program =>
        have hquiet : program.controls = false :=
          p.not_controls_of_program (p.program_of_ready hplain) (hcalm p List.mem_cons_self)
        obtain ⟨fired, left, left', hread, hread', hleft⟩ := htoken.exists_run hworld
        rw [hread, hread']
        cases fired with
        | true => exact ⟨rfl, hready, hleft⟩
        | false =>
          obtain ⟨hresult, hstepped⟩ := hready.step hquiet parameters p.names
          rcases hplainStep : Sqlite.step parameters p.names program plain' with ⟨after, result⟩
          rcases hinsideStep : Sqlite.step parameters p.names program inside' with ⟨after', result'⟩
          rw [hplainStep, hinsideStep] at hresult hstepped
          obtain rfl : result' = result := hresult
          simp only [Bool.false_eq_true, if_false, hplainStep, hinsideStep]
          cases result' with
          | error e => exact ⟨rfl, hstepped, hleft⟩
          | ok tables =>
            obtain ⟨hbehind, hafter, hlast⟩ :=
              ih hstepped (fun p hmem ↦ hcalm p (List.mem_cons_of_mem _ hmem)) hleft
            exact ⟨congrArg (Except.map (tables ++ ·)) hbehind, hafter, hlast⟩

/-! ### The end of the transaction -/

/-- **To commit makes of it what there is without a transaction.** -/
theorem commit (h : Within base plain inside) : inside.commit = (plain, .ok ()) := by
  obtain ⟨hidle, hrival, hreadOnly, hjournaled, working, lock, htables, rfl⟩ := h
  have hfree : plain.rival.isSome = false := by rw [hrival, Option.isSome_none]
  simp only [Handle.commit, Handle.finish, hfree, Bool.and_false, Bool.false_eq_true, if_false,
    htables]
  rw [← hidle]

theorem run_commit (h : Within base plain inside) :
    Program.commit.run inside [] = (plain, .ok []) := by
  have htake : Program.commit.take inside = .ok inside := rfl
  rw [Program.run, htake]
  simp only [Program.act, h.commit]
  rfl

/-- **To roll back makes of it what there was at the beginning.** -/
theorem rollback (h : Within base plain inside) (hbase : base.transaction = none)
    (hrival : base.rival = none) :
    inside.rollback = .ok { base with
      lastRowid := plain.lastRowid
      changes := plain.changes
      surveyed := plain.surveyed } := by
  obtain ⟨hidle, hplain, hreadOnly, hjournaled, working, lock, htables, rfl⟩ := h
  rw [Handle.rollback, hbase, hrival, hreadOnly, hjournaled, hplain]

theorem run_rollback (h : Within base plain inside) (hbase : base.transaction = none)
    (hrival : base.rival = none) :
    Program.rollback.run inside [] = ({ base with
      lastRowid := plain.lastRowid
      changes := plain.changes
      surveyed := plain.surveyed }, .ok []) := by
  have htake : Program.rollback.take inside = .ok inside := rfl
  rw [Program.run, htake]
  simp only [Program.act, h.rollback hbase hrival]
  rfl

end Within

end Handle

end SqlGateway.Sqlite
