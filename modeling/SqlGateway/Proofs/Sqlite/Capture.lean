import SqlGateway.Proofs.Sqlite.Preparation
import SqlGateway.Proofs.Sqlite.Tables

/-!
# Capturing a key

A batch that creates a row has three statements behind the insertion: one creates the temporary
table of captured keys unless it is there, one empties it, and one puts the key of the row into it.
Whatever was captured before, and whatever transaction is in progress, the table then holds that key
and nothing else, until the next row is created. No other table is touched.

## What may be in the way

A temporary table that is called like this one in another case, or that has other columns, is not
the work of these statements. It is emptied like the other one, but nothing is said of what is
captured on a connection that has such a table. Otherwise there is only one obstacle: the first
statement of a connection that names a table may find the database locked.
-/

namespace SqlGateway.Sqlite

variable {W : Type}

/-! ## The temporary table -/

/-- The column that keys are captured in. -/
def keyColumn : ColumnDef := ⟨"Id", "", false, false, false⟩

/-- The table of captured keys. -/
def capturingTable (rows : List Row) : Table := ⟨capturedTable, [keyColumn], rows⟩

/-- The connection has the table of captured keys, with these rows. -/
def Handle.Captures (h : Handle) (rows : List Row) : Prop :=
  h.temp.find? capturedTable = some (capturingTable rows)

/-- The connection has no temporary table of this name but the table of captured keys. -/
def Handle.Capturable (h : Handle) : Prop :=
  h.temp.find? capturedTable = none ∨ ∃ rows, h.Captures rows

/-- A table with a single row has no other order to visit it in. -/
theorem Survey.Visit.rows_of_single (visit : Survey.Visit) {table : Table} {row : Row}
    (h : table.rows = [row]) : visit.rows table = [row] := by
  obtain ⟨index, backwards⟩ := visit
  cases index with
  | none => simp only [rows, h, List.reverse_singleton, ite_self]
  | some index => simp only [rows, h, List.mergeSort_singleton, List.reverse_singleton, ite_self]

theorem capturedKey_of_captures {h : Handle} {rowid : Int64} {key : Cell}
    (hcaptures : h.Captures [⟨rowid, [key]⟩]) : capturedKey h = .ok (some key) := by
  have hfield : (capturingTable [⟨rowid, [key]⟩]).field? "Id" = some (.column 0) := rfl
  rw [capturedKey, Store.find?_of_spelled hcaptures rfl]
  simp only [hfield]
  rw [Survey.Visit.rows_of_single _ rfl]
  rfl

/-! ## Statements about temporary tables -/

theorem Program.run_of_lockless {program : Program} (hwrites : program.writes = false)
    (hlock : ∀ readOnly, program.lock? readOnly = none) (h : Handle) (cells : List Cell) :
    program.run h cells = program.act h cells := by
  rw [run, take, hwrites, hlock]
  simp only [Bool.false_and, Bool.false_eq_true, if_false]
  rcases program.act h cells with ⟨after, e | rows⟩ <;> rfl

/-- A statement without parameters, about temporary tables. -/
theorem step_of_lockless {program : Program} (hwrites : program.writes = false)
    (hlock : ∀ readOnly, program.lock? readOnly = none) (hcolumns : program.columns = [])
    (parameters : List Parameter) {h after : Handle}
    (hact : program.act h [] = (after, .ok [])) :
    step parameters [] program h = (after, .ok []) := by
  have hbind : bind h parameters [] = .ok [] := rfl
  rw [step, hbind]
  simp only [Program.run_of_lockless hwrites hlock, hact, hcolumns]
  rfl

/-! ## Batches that go on -/

section

variable (token : Cancellation W) (parameters : List Parameter)

/-- A batch fails, or it goes on with the rest of its statements on a database of some kind. -/
def Continues (statements rest : List (Except SqlError Prepared)) (h : Handle) (world : W)
    (property : Handle → Prop) : Prop :=
  (∃ e, (walk token parameters statements h world).result = .error e) ∨
    ∃ after world', property after ∧
      walk token parameters statements h world = walk token parameters rest after world'

variable {token : Cancellation W} {parameters : List Parameter}
  {statements rest last : List (Except SqlError Prepared)} {h : Handle} {world : W}
  {property property' : Handle → Prop}

theorem Continues.trans (hfirst : Continues token parameters statements rest h world property)
    (hsecond : ∀ after world', property after →
      Continues token parameters rest last after world' property') :
    Continues token parameters statements last h world property' := by
  rcases hfirst with herror | ⟨after, world', hafter, hwalk⟩
  · exact .inl herror
  · have hrest := hsecond after world' hafter
    rw [Continues] at hrest ⊢
    rw [hwalk]
    exact hrest

theorem Continues.mono (hcontinues : Continues token parameters statements rest h world property)
    (himp : ∀ after, property after → property' after) :
    Continues token parameters statements rest h world property' := by
  rcases hcontinues with herror | ⟨after, world', hafter, hwalk⟩
  · exact .inl herror
  · exact .inr ⟨after, world', himp after hafter, hwalk⟩

/-- A statement without a result, which may fail, and may be the first one with a table. -/
theorem Continues.ofSuccess {p : Prepared}
    (hsuccess : ∀ surveyed program after tables,
      p.program { h with surveyed := surveyed } = .ok program →
        step parameters p.names program { h with surveyed := surveyed } = (after, .ok tables) →
          tables = [] ∧ property after) :
    Continues token parameters (.ok p :: rest) rest h world property := by
  rw [Continues, walk, Prepared.ready]
  cases hsurvey : p.survey h with
  | error e => exact .inl ⟨e, rfl⟩
  | ok ready =>
    -- What the survey found out is all that can differ from the database before.
    obtain ⟨surveyed, rfl⟩ := Prepared.survey_frame hsurvey
    cases hprogram : p.program { h with surveyed := surveyed } with
    | error e => exact .inl ⟨e, by simp only [hprogram]⟩
    | ok program =>
      simp only [hprogram]
      rcases token.run world with ⟨fired, world'⟩
      cases fired with
      | true => exact .inl ⟨.interrupted, rfl⟩
      | false =>
        simp only [Bool.false_eq_true, if_false]
        rcases hstep : step parameters p.names program { h with surveyed := surveyed } with
          ⟨after, e | tables⟩
        · exact .inl ⟨e, rfl⟩
        · obtain ⟨rfl, hafter⟩ := hsuccess surveyed program after tables hprogram hstep
          refine .inr ⟨after, world', hafter, ?_⟩
          simp only [List.nil_append]
          rcases walk token parameters rest after world' with ⟨e | tables, left, last⟩ <;> rfl

/-- A statement without a result that does not fail once it is known which tables there are. -/
theorem Continues.ofStatement {p : Prepared}
    (hprogram : ∀ surveyed, ∃ program after,
      p.program { h with surveyed := surveyed } = .ok program ∧
        step parameters p.names program { h with surveyed := surveyed } = (after, .ok []) ∧
          property after) :
    Continues token parameters (.ok p :: rest) rest h world property := by
  refine .ofSuccess fun surveyed program after tables hprepared hstep ↦ ?_
  obtain ⟨program', after', hprepared', hstep', hafter⟩ := hprogram surveyed
  obtain rfl := Except.ok.inj (hprepared.symm.trans hprepared')
  obtain ⟨rfl, htables⟩ := Prod.mk.inj (hstep.symm.trans hstep')
  exact ⟨Except.ok.inj htables, hafter⟩

end

/-! ## The statements that capture a key -/

/-- Create the temporary table unless it is there. -/
def creating (schemaPlace place : Nat) (text : List Char) : Prepared :=
  ⟨.createTable true true ⟨none, capturedTable⟩ schemaPlace place [keyColumn], [], text⟩

/-- Empty the temporary table. -/
def clearing (text : List Char) : Prepared :=
  ⟨.delete ⟨some "temp", capturedTable⟩ none, [], text⟩

/-- Put the key that was inserted last into the temporary table. -/
def keeping (text : List Char) : Prepared :=
  ⟨.insert ⟨some "temp", capturedTable⟩ (some ["Id"]) [[.lastRowid]], [], text⟩

theorem program_creating (h : Handle) (schemaPlace place : Nat) (text : List Char) :
    (creating schemaPlace place text).program h =
      .ok (if (h.temp.find? capturedTable).isSome then .skip .temp
        else .create .temp capturedTable [keyColumn]) := by
  have hreserved : ((Text.folded capturedTable).take 7 == "sqlite_".toList) = false := by decide
  have hdistinct : repeatedName? [] ([keyColumn].map (·.name)) = none := rfl
  simp only [creating, Prepared.program, prepareCreate, hreserved, hdistinct, Handle.storeAt,
    Option.isSome_none, Option.any_none, Bool.false_and, Bool.and_false, Bool.true_or,
    Bool.false_eq_true, if_false, if_true]
  cases h.temp.find? capturedTable <;> rfl

theorem resolve_captured {h : Handle} {rows : List Row} (hcaptures : h.Captures rows) :
    h.resolve ⟨some "temp", capturedTable⟩ = .ok (.temp, capturingTable rows) := by
  have hplaces : Handle.placesOf ⟨some "temp", capturedTable⟩ = [.temp] := rfl
  have hfind : h.find? ⟨some "temp", capturedTable⟩ = some (.temp, capturingTable rows) := by
    rw [Handle.find?, hplaces, List.findSome?_singleton, Handle.storeAt, hcaptures]
    rfl
  rw [Handle.resolve, hfind]

/-- Only a temporary table is found by the name that the statements have for the reserved one. -/
theorem tableAt_of_resolve_captured {h : Handle} {place : Handle.Place} {table : Table}
    (hresolve : h.resolve ⟨some "temp", capturedTable⟩ = .ok (place, table)) :
    place = .temp ∧ h.tableAt .temp capturedTable = some table ∧
      Text.sameName capturedTable table.name = true := by
  obtain ⟨hfound, hsame, hplace⟩ := Handle.tableAt_of_resolve hresolve
  have hplaces : Handle.placesOf ⟨some "temp", capturedTable⟩ = [.temp] := rfl
  rw [hplaces, List.mem_singleton] at hplace
  subst hplace
  rw [Handle.tableAt, Store.find?_congr hsame, ← Handle.tableAt] at hfound
  exact ⟨rfl, hfound, Text.sameName_comm _ _ ▸ hsame⟩

theorem program_clearing_eq_ok {h : Handle} {text : List Char} {program : Program}
    (hprogram : (clearing text).program h = .ok program) :
    ∃ table, h.tableAt .temp capturedTable = some table ∧
      Text.sameName capturedTable table.name = true ∧ program = .delete .temp table none := by
  simp only [clearing, Prepared.program] at hprogram
  obtain ⟨⟨place, table⟩, hresolve, hprogram⟩ := bind_eq_ok.mp hprogram
  obtain ⟨rfl, htable, hname⟩ := tableAt_of_resolve_captured hresolve
  exact ⟨table, htable, hname, (Except.ok.inj hprogram).symm⟩

theorem program_keeping {h : Handle} {rows : List Row} (hcaptures : h.Captures rows)
    (text : List Char) :
    (keeping text).program h =
      .ok (.insert .temp (capturingTable rows) [.column 0] [[.lastRowid]]) := by
  simp only [keeping, Prepared.program, prepareInsert, resolve_captured hcaptures]
  rfl

/-! ## What they do -/

theorem Handle.Captures.withTable {h : Handle} {rows : List Row} (hcaptures : h.Captures rows)
    (left : List Row) (changed : Nat) :
    (h.withTable .temp (capturingTable left) changed).Captures left :=
  Store.find?_replace (capturingTable left) hcaptures

/-- Without a condition every row goes. -/
theorem act_clearing (h : Handle) (table : Table) :
    (Program.delete .temp table none).act h [] =
      (h.withTable .temp { table with rows := [] } table.rows.length, .ok []) := by
  have hall : table.rows.partition (fun row ↦
      (Scope.within ⟨none, [], h.lastRowid, 0⟩ table row).satisfies none) = (table.rows, []) := by
    rw [List.partition_eq_filter_filter]
    simp [Scope.satisfies]
  simp only [Program.act, hall]

theorem act_keeping (h : Handle) :
    (Program.insert .temp (capturingTable []) [.column 0] [[.lastRowid]]).act h [] =
      (Handle.withTable { h with lastRowid := 1 } .temp
        (capturingTable [⟨1, [.integer h.lastRowid]⟩]) 1, .ok []) := rfl

section

variable {token : Cancellation W} {parameters : List Parameter}
  {rest : List (Except SqlError Prepared)} {h : Handle} {world : W}

theorem Handle.Gains.of_surveyed (surveyed : Bool) :
    h.Gains { h with surveyed := surveyed } [] := by
  refine .of_storeAt fun place ↦ ?_
  cases place <;> rfl

/-- The reserved table is none of those that are compared. -/
theorem Handle.Gains.of_capturing {ready after : Handle} {additions : List Addition}
    (hgains : h.Gains ready additions) (hmain : after.main = ready.main)
    (htemp : ∀ name, Text.sameName capturedTable name = false →
      after.temp.find? name = ready.temp.find? name) : h.Gains after additions := by
  intro place name hname
  have htable : after.tableAt place name = ready.tableAt place name := by
    cases place with
    | main =>
      rw [Handle.tableAt, Handle.tableAt, Handle.storeAt, hmain]
      rfl
    | temp => exact htemp name (Bool.eq_false_iff.mpr fun hsame ↦ hname ⟨rfl, hsame⟩)
  rw [htable]
  exact hgains place name hname

/-- Whatever becomes of the reserved table, the others stay as they are. -/
theorem Handle.Gains.withCapturing (surveyed : Bool) (lastRowid : Int64) (table : Table)
    (hname : Text.sameName capturedTable table.name = true) (changed : Nat) :
    h.Gains (Handle.withTable { h with surveyed := surveyed, lastRowid := lastRowid } .temp
      table changed) [] := by
  refine (Handle.Gains.of_storeAt fun _ ↦ rfl).of_capturing rfl fun name hother ↦ ?_
  refine Store.find?_replace_of_other h.temp (Bool.eq_false_iff.mpr fun hsame ↦ ?_)
  rw [Text.sameName_trans hname hsame] at hother
  cases hother

/-- The table is created empty, or left with whatever it has. -/
theorem continues_creating (schemaPlace place : Nat) (text : List Char) :
    Continues token parameters (.ok (creating schemaPlace place text) :: rest) rest h world
      fun after ↦ after.tableAt .temp capturedTable =
          (h.tableAt .temp capturedTable).or (some (capturingTable [])) ∧
        after.lastRowid = h.lastRowid ∧ h.Gains after [] := by
  refine .ofStatement fun surveyed ↦ ?_
  have hprogram := program_creating { h with surveyed := surveyed } schemaPlace place text
  cases htable : h.tableAt .temp capturedTable with
  | none =>
    have habsent : ¬(h.temp.find? capturedTable).isSome := by
      rw [Option.not_isSome_iff_eq_none]
      exact htable
    rw [if_neg habsent] at hprogram
    exact ⟨_, _, hprogram, step_of_lockless rfl (fun _ ↦ rfl) rfl parameters rfl,
      Store.find?_append_of_none (capturingTable []) htable, rfl,
      (Handle.Gains.of_surveyed surveyed).of_capturing rfl fun _ hother ↦
        Store.find?_append_of_other h.temp hother⟩
  | some table =>
    have hpresent : (h.temp.find? capturedTable).isSome := Option.isSome_iff_exists.mpr ⟨_, htable⟩
    rw [if_pos hpresent] at hprogram
    exact ⟨_, _, hprogram, step_of_lockless rfl (fun _ ↦ rfl) rfl parameters rfl, htable, rfl,
      .of_surveyed surveyed⟩

theorem continues_clearing (text : List Char) :
    Continues token parameters (.ok (clearing text) :: rest) rest h world
      fun after ↦ (∃ table, h.tableAt .temp capturedTable = some table ∧
          after.tableAt .temp capturedTable = some { table with rows := [] }) ∧
        after.lastRowid = h.lastRowid ∧ h.Gains after [] := by
  refine .ofSuccess fun surveyed program after tables hprogram hstep ↦ ?_
  let ready : Handle := { h with surveyed := surveyed }
  obtain ⟨table, htable, hname, rfl⟩ := program_clearing_eq_ok hprogram
  have hcleared := step_of_lockless rfl (fun _ ↦ rfl) rfl parameters (act_clearing ready table)
  obtain ⟨rfl, htables⟩ := Prod.mk.inj (hstep.symm.trans hcleared)
  have hsame : Text.sameName table.name capturedTable = true := Text.sameName_comm _ _ ▸ hname
  have hfound : ready.tableAt .temp table.name = some table := by
    rw [Handle.tableAt, Store.find?_congr hsame]
    exact htable
  exact ⟨Except.ok.inj htables, ⟨table, htable, Handle.tableAt_withTable hfound hsame⟩, rfl,
    .withCapturing surveyed h.lastRowid { table with rows := [] } hname table.rows.length⟩

/-- The table is empty, so that the row in it gets the first key there is. -/
theorem continues_keeping (hcaptures : h.Captures []) (text : List Char) :
    Continues token parameters (.ok (keeping text) :: rest) rest h world
      fun after ↦ after.Captures [⟨1, [.integer h.lastRowid]⟩] ∧ h.Gains after [] := by
  refine .ofStatement fun surveyed ↦ ?_
  let ready : Handle := { h with surveyed := surveyed }
  have hready : Handle.Captures { ready with lastRowid := 1 } [] := hcaptures
  exact ⟨_, _, program_keeping hcaptures text,
    step_of_lockless rfl (fun _ ↦ rfl) rfl parameters (act_keeping ready), hready.withTable _ 1,
    .withCapturing surveyed 1 (capturingTable _) (Text.sameName_self _) 1⟩

/-- **The key of the row inserted last is captured**, and nothing else changes, unless the batch
fails. -/
theorem continues_captured (hcapturable : h.Capturable) (schemaPlace place : Nat)
    (create clear keep : List Char) :
    Continues token parameters
      (.ok (creating schemaPlace place create) :: .ok (clearing clear) :: .ok (keeping keep) ::
        rest) rest h world
      fun after ↦ after.Captures [⟨1, [.integer h.lastRowid]⟩] ∧ h.Gains after [] := by
  refine (continues_creating schemaPlace place create).trans fun h₁ world₁ h₁_spec ↦ ?_
  obtain ⟨htable₁, hrowid₁, hgains₁⟩ := h₁_spec
  obtain ⟨rows, hrows⟩ : ∃ rows, h₁.Captures rows := by
    rcases hcapturable with hnone | ⟨rows, hcaptures⟩
    · exact ⟨[], htable₁.trans (congrArg (Option.or · _) hnone)⟩
    · exact ⟨rows, htable₁.trans (congrArg (Option.or · _) hcaptures)⟩
  refine (continues_clearing clear).trans fun h₂ world₂ h₂_spec ↦ ?_
  obtain ⟨⟨table, htable, hcleared⟩, hrowid₂, hgains₂⟩ := h₂_spec
  obtain rfl : capturingTable rows = table := Option.some.inj (hrows.symm.trans htable)
  have hempty : h₂.Captures [] := hcleared
  refine (continues_keeping hempty keep).mono fun h₃ h₃_spec ↦ ?_
  obtain ⟨hkept, hgains₃⟩ := h₃_spec
  rw [hrowid₂, hrowid₁] at hkept
  exact ⟨hkept, (hgains₁.trans hgains₂).trans hgains₃⟩

theorem continues_capturing (hcapturable : h.Capturable) (schemaPlace place : Nat)
    (create clear keep : List Char) :
    Continues token parameters
      (.ok (creating schemaPlace place create) :: .ok (clearing clear) :: .ok (keeping keep) ::
        rest) rest h world
      fun after ↦ capturedKey after = .ok (some (.integer h.lastRowid)) :=
  (continues_captured hcapturable schemaPlace place create clear keep).mono fun _ hspec ↦
    capturedKey_of_captures hspec.1

end

end SqlGateway.Sqlite
