import SqlGateway.Sqlite.Batch

/-!
# What a database gains

A database is looked at through the names of its tables. What an insertion leaves differs from what
it found by rows in the tables that it names, and by nothing else: every table keeps its columns,
and no table comes or goes. That is a relation between two databases and the rows that were added,
`Handle.Gains`, and it composes as statements run one after the other.

## The reserved table

The temporary table of captured keys is emptied and filled as rows are created. The relation says
nothing of it, so that it holds of these statements as well.
-/

namespace SqlGateway.Sqlite

/-! ## Tables by name -/

namespace Store

theorem find?_congr {name other : String} (h : Text.sameName name other = true) (store : Store) :
    store.find? name = store.find? other := by
  have hpred : (fun table : Table ↦ Text.sameName table.name name) =
      fun table ↦ Text.sameName table.name other := by
    funext table
    rw [Text.sameName, Text.sameName, Text.sameName_iff.mp h]
  rw [find?, find?, hpred]

theorem sameName_of_find? {store : Store} {name : String} {table : Table}
    (h : store.find? name = some table) : Text.sameName table.name name = true := by
  rw [find?] at h
  have hsame := List.find?_some h
  exact hsame

/-- The table of a name that is spelled as the table spells it is found in any case or in this
one. -/
theorem find?_of_spelled {store : Store} {name : String} {table : Table}
    (h : store.find? name = some table) (hname : table.name = name) :
    List.find? (fun table ↦ table.name == name) store = some table := by
  induction store with
  | nil => cases h
  | cons first rest ih =>
    rw [find?, List.find?_cons] at h
    rw [List.find?_cons]
    cases hsame : Text.sameName first.name name with
    | true =>
      rw [hsame] at h
      cases h
      rw [beq_iff_eq.mpr hname]
    | false =>
      -- A table that is spelled like it would have been found before.
      have hother : (first.name == name) = false := by
        rw [beq_eq_false_iff_ne]
        rintro rfl
        rw [Text.sameName_self] at hsame
        cases hsame
      rw [hsame] at h
      rw [hother]
      exact ih h

/-- A table that is replaced is found in its place. -/
theorem find?_replace {store : Store} {table : Table} (changed : Table)
    (h : store.find? changed.name = some table) :
    (store.replace changed).find? changed.name = some changed := by
  induction store with
  | nil => cases h
  | cons first rest ih =>
    rw [find?, List.find?_cons] at h
    rw [replace, List.map_cons, find?, List.find?_cons]
    cases hsame : Text.sameName first.name changed.name with
    | true => simp only [if_true, Text.sameName_self]
    | false =>
      rw [hsame] at h
      rw [if_neg (by simp), hsame]
      exact ih h

theorem find?_replace_of_other (store : Store) {changed : Table} {name : String}
    (h : Text.sameName changed.name name = false) :
    (store.replace changed).find? name = store.find? name := by
  induction store with
  | nil => rfl
  | cons first rest ih =>
    rw [replace, List.map_cons, find?, List.find?_cons, find?, List.find?_cons]
    cases hsame : Text.sameName first.name changed.name with
    | true =>
      have hfirst : Text.sameName first.name name = false := by
        rw [Text.sameName, Text.sameName_iff.mp hsame]
        exact h
      rw [if_pos rfl, h, hfirst]
      exact ih
    | false =>
      rw [if_neg Bool.false_ne_true]
      cases Text.sameName first.name name with
      | true => rfl
      | false => exact ih

theorem find?_append_of_none {store : Store} (table : Table) (h : store.find? table.name = none) :
    Store.find? (store ++ [table]) table.name = some table := by
  rw [find?, List.find?_append]
  rw [find?] at h
  rw [h, Option.none_or, List.find?_singleton, Text.sameName_self, if_pos rfl]

theorem find?_append_of_other (store : Store) {table : Table} {name : String}
    (h : Text.sameName table.name name = false) :
    Store.find? (store ++ [table]) name = store.find? name := by
  rw [find?, List.find?_append, List.find?_singleton, h, if_neg Bool.false_ne_true, Option.or_none,
    find?]

end Store

namespace Handle

/-- The table of a name in a place. -/
def tableAt (h : Handle) (place : Place) (name : String) : Option Table :=
  (h.storeAt place).find? name

@[simp] theorem storeAt_withStoreAt (h : Handle) (store : Store) (place : Place) :
    (h.withStoreAt store place).storeAt place = store := by
  cases place with
  | main =>
    rw [withStoreAt, withMain, storeAt]
    cases htransaction : h.transaction with
    | none => simp only [main]
    | some transaction => simp only [main, Option.getD_some]
  | temp => rfl

theorem storeAt_withStoreAt_of_ne (h : Handle) (store : Store) {place other : Place}
    (hne : other ≠ place) : (h.withStoreAt store place).storeAt other = h.storeAt other := by
  cases place with
  | main =>
    cases other with
    | main => exact absurd rfl hne
    | temp =>
      rw [withStoreAt, withMain]
      cases h.transaction with
      | none => rfl
      | some transaction => rfl
  | temp =>
    cases other with
    | main => rfl
    | temp => exact absurd rfl hne

theorem storeAt_withTable (h : Handle) (place : Place) (table : Table) (changed : Nat)
    (other : Place) : (h.withTable place table changed).storeAt other =
      (h.withStoreAt ((h.storeAt place).replace table) place).storeAt other := by
  cases other <;> rfl

@[simp] theorem lastRowid_withTable (h : Handle) (place : Place) (table : Table) (changed : Nat) :
    (h.withTable place table changed).lastRowid = h.lastRowid := by
  cases place with
  | main =>
    rw [withTable, withStoreAt, withMain]
    cases h.transaction with
    | none => rfl
    | some transaction => rfl
  | temp => rfl

theorem tableAt_withTable {h : Handle} {place : Place} {table changed : Table} {name : String}
    {count : Nat} (hfound : h.tableAt place changed.name = some table)
    (hsame : Text.sameName changed.name name = true) :
    (h.withTable place changed count).tableAt place name = some changed := by
  rw [tableAt, storeAt_withTable, storeAt_withStoreAt, ← Store.find?_congr hsame]
  exact Store.find?_replace changed hfound

theorem tableAt_withTable_of_other (h : Handle) {place other : Place} {changed : Table}
    {name : String} {count : Nat}
    (hother : other = place → Text.sameName changed.name name = false) :
    (h.withTable place changed count).tableAt other name = h.tableAt other name := by
  rw [tableAt, storeAt_withTable]
  by_cases hplace : other = place
  · subst hplace
    rw [storeAt_withStoreAt, Store.find?_replace_of_other _ (hother rfl), tableAt]
  · rw [storeAt_withStoreAt_of_ne _ _ hplace, tableAt]

theorem tableAt_of_resolve {h : Handle} {name : TableName} {place : Place} {table : Table}
    (hresolve : h.resolve name = .ok (place, table)) :
    h.tableAt place table.name = some table ∧ Text.sameName table.name name.name = true ∧
      place ∈ placesOf name := by
  rw [resolve] at hresolve
  split at hresolve
  · next hfind =>
    obtain rfl := Except.ok.inj hresolve
    obtain ⟨visited, hmem, hvisited⟩ := List.exists_of_findSome?_eq_some hfind
    obtain ⟨found, hfound, hpair⟩ := Option.map_eq_some_iff.mp hvisited
    obtain ⟨rfl, rfl⟩ := Prod.mk.inj hpair
    have hsame := Store.sameName_of_find? hfound
    refine ⟨?_, hsame, hmem⟩
    rw [tableAt, Store.find?_congr hsame]
    exact hfound
  · cases hresolve

end Handle

/-! ## Before a program is run -/

/-- A survey finds out which tables there are, and does nothing else. -/
theorem Prepared.survey_frame {p : Prepared} {h after : Handle} (hok : p.survey h = .ok after) :
    ∃ surveyed, after = { h with surveyed := surveyed } := by
  rw [survey] at hok
  split at hok
  · split at hok
    · exact ⟨true, (Except.ok.inj hok).symm⟩
    · cases hok
  · exact ⟨h.surveyed, (Except.ok.inj hok).symm⟩

/-- A lock that is taken is kept by the transaction in progress, if there is one. -/
theorem Program.take_frame {program : Program} {h ready : Handle}
    (hok : program.take h = .ok ready) : ∃ lock : Transaction → Option Lock,
      ready = { h with transaction := h.transaction.map fun transaction ↦
        { transaction with lock := lock transaction } } := by
  -- Where no lock is taken, the transaction keeps the one it has.
  have hsame : h = { h with transaction := h.transaction.map fun transaction ↦
      { transaction with lock := transaction.lock } } := by
    rw [Option.map_id']
  rw [take] at hok
  split at hok
  · cases hok
  split at hok
  · next wanted hwanted =>
    rw [Handle.acquire] at hok
    split at hok
    · cases hok
    split at hok
    · cases hok
    split at hok
    · next transaction htransaction =>
      refine ⟨fun transaction ↦ some (wanted.joined transaction.lock), ?_⟩
      rw [htransaction]
      exact (Except.ok.inj hok).symm
    · exact ⟨Transaction.lock, (Except.ok.inj hok).symm.trans hsame⟩
  · exact ⟨Transaction.lock, (Except.ok.inj hok).symm.trans hsame⟩

theorem Program.storeAt_take {program : Program} {h ready : Handle}
    (hok : program.take h = .ok ready) (place : Handle.Place) :
    ready.storeAt place = h.storeAt place := by
  obtain ⟨lock, rfl⟩ := take_frame hok
  cases place with
  | main =>
    simp only [Handle.storeAt, Handle.main]
    cases h.transaction with
    | none => rfl
    | some transaction => rfl
  | temp => rfl

/-! ## Rows that are gained -/

/-- The table that came of another one by rows that were added. -/
structure Table.Gains (before after : Table) (rows : List Row) : Prop where
  name : after.name = before.name
  columns : after.columns = before.columns
  rows : after.rows.Perm (rows ++ before.rows)

/-- A row that was added to a table. -/
structure Addition where
  place : Handle.Place
  table : String
  row : Row
deriving Repr, BEq, Inhabited

/-- Whether a row was added to the table of a name. -/
def Addition.isTo (addition : Addition) (place : Handle.Place) (name : String) : Bool :=
  addition.place == place && Text.sameName addition.table name

/-- The rows that were added to a table. -/
def added (additions : List Addition) (place : Handle.Place) (name : String) : List Row :=
  (additions.filter (·.isTo place name)).map Addition.row

theorem added_append (additions others : List Addition) (place : Handle.Place) (name : String) :
    added (additions ++ others) place name =
      added additions place name ++ added others place name := by
  rw [added, List.filter_append, List.map_append, added, added]

/-- The temporary table of captured keys has this name. -/
def Reserved (place : Handle.Place) (name : String) : Prop :=
  place = .temp ∧ Text.sameName capturedTable name = true

instance (place : Handle.Place) (name : String) : Decidable (Reserved place name) :=
  inferInstanceAs (Decidable (_ ∧ _))

/-- The database that came of another one by rows that were added, as far as its tables are not
reserved. -/
def Handle.Gains (before after : Handle) (additions : List Addition) : Prop :=
  ∀ place name, ¬Reserved place name →
    Option.Rel (fun before after ↦ Table.Gains before after (added additions place name))
      (before.tableAt place name) (after.tableAt place name)

namespace Table.Gains

variable {before between after : Table}

theorem refl (table : Table) : table.Gains table [] := ⟨rfl, rfl, .refl _⟩

theorem trans {rows others : List Row} (hfirst : before.Gains between rows)
    (hsecond : between.Gains after others) : before.Gains after (rows ++ others) where
  name := hsecond.name.trans hfirst.name
  columns := hsecond.columns.trans hfirst.columns
  rows := by
    refine (hsecond.rows.trans (hfirst.rows.append_left others)).trans ?_
    rw [← List.append_assoc]
    exact List.perm_append_comm.append_right before.rows

end Table.Gains

namespace Handle.Gains

variable {before between after : Handle}

theorem of_storeAt (h : ∀ place, after.storeAt place = before.storeAt place) :
    before.Gains after [] := by
  intro place name _
  rw [tableAt, tableAt, h place]
  cases Store.find? (before.storeAt place) name with
  | none => exact .none
  | some table => exact .some (.refl table)

theorem trans {additions others : List Addition} (hfirst : before.Gains between additions)
    (hsecond : between.Gains after others) : before.Gains after (additions ++ others) := by
  intro place name hname
  have hfirst := hfirst place name hname
  have hsecond := hsecond place name hname
  rw [added_append]
  -- Either there is a table of this name in all three of them, or in none.
  generalize before.tableAt place name = table, between.tableAt place name = table',
    after.tableAt place name = table'' at hfirst hsecond ⊢
  cases hfirst with
  | none =>
    cases hsecond
    exact .none
  | some hfirst =>
    cases hsecond with
    | some hsecond => exact .some (hfirst.trans hsecond)

/-- A changed table is put in its place. -/
theorem of_withTable {h : Handle} {place : Place} {table changed : Table} {row : Row}
    (hfound : h.tableAt place table.name = some table) (hgains : table.Gains changed [row])
    (count : Nat) : h.Gains (h.withTable place changed count) [⟨place, table.name, row⟩] := by
  intro other name _
  rw [added, List.filter_cons, List.filter_nil]
  cases hto : Addition.isTo ⟨place, table.name, row⟩ other name with
  | true =>
    obtain ⟨hplace, hsame⟩ := Bool.and_eq_true_iff.mp hto
    obtain rfl := beq_iff_eq.mp hplace
    rw [← hgains.name] at hfound hsame
    rw [tableAt_withTable hfound hsame, tableAt, ← Store.find?_congr hsame, ← tableAt, hfound]
    exact .some hgains
  | false =>
    have hother : other = place → Text.sameName changed.name name = false := by
      rintro rfl
      rw [Addition.isTo, beq_self_eq_true, Bool.true_and] at hto
      rwa [hgains.name]
    rw [tableAt_withTable_of_other h hother]
    cases h.tableAt other name with
    | none => exact .none
    | some table => exact .some (.refl table)

/-- A name that may not stand for the reserved table stands for the same table as before. -/
theorem resolve {additions : List Addition} (hgains : before.Gains after additions)
    {name : TableName} (hname : ∀ place ∈ placesOf name, ¬Reserved place name.name) {place : Place}
    {table : Table} (hresolve : after.resolve name = .ok (place, table)) :
    ∃ earlier rows, before.resolve name = .ok (place, earlier) ∧ earlier.Gains table rows := by
  have hfind {places : List Place} (hplaces : ∀ place ∈ places, ¬Reserved place name.name)
      (hsome : places.findSome? (fun place ↦
        ((after.storeAt place).find? name.name).map fun found ↦ (place, found)) =
          some (place, table)) :
      ∃ earlier rows, places.findSome? (fun place ↦
        ((before.storeAt place).find? name.name).map fun found ↦ (place, found)) =
          some (place, earlier) ∧ earlier.Gains table rows := by
    -- The name is looked for in one place after the other, and is found or not in both databases.
    induction places with
    | nil => cases hsome
    | cons first rest ih =>
      have hfirst := hgains first name.name (hplaces first List.mem_cons_self)
      rw [List.findSome?_cons] at hsome ⊢
      rw [tableAt, tableAt] at hfirst
      generalize (before.storeAt first).find? name.name = found,
        (after.storeAt first).find? name.name = found' at hfirst hsome ⊢
      cases hfirst with
      | none => exact ih (fun place hmem ↦ hplaces place (List.mem_cons_of_mem _ hmem)) hsome
      | some hfound =>
        obtain ⟨rfl, rfl⟩ := Prod.mk.inj (Option.some.inj hsome)
        exact ⟨_, _, rfl, hfound⟩
  rw [Handle.resolve] at hresolve
  split at hresolve
  · next hsome =>
    obtain rfl := Except.ok.inj hresolve
    obtain ⟨earlier, rows, hearlier, htable⟩ := hfind hname hsome
    have hbefore : before.find? name = some (place, earlier) := hearlier
    exact ⟨earlier, rows, by rw [Handle.resolve, hbefore], htable⟩
  · cases hresolve

end Handle.Gains

end SqlGateway.Sqlite
