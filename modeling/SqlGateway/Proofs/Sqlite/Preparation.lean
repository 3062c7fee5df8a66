import Mathlib.Data.List.Forall2
import SqlGateway.Sqlite.Program

/-!
# Preparing changes

What can be said of a program once it is known that a statement could be prepared: the checks that
went well on the way, and of which form the program is. Later proofs about what programs do start
from here and never look at how a statement is prepared.
-/

namespace SqlGateway.Sqlite

theorem bind_eq_ok {ε α β : Type} {x : Except ε α} {f : α → Except ε β} {b : β} :
    (x >>= f) = .ok b ↔ ∃ a, x = .ok a ∧ f a = .ok b := by
  cases x with
  | error e =>
    constructor
    · rintro ⟨⟩
    · rintro ⟨a, ⟨⟩, -⟩
  | ok a =>
    refine ⟨fun h ↦ ⟨a, rfl, h⟩, ?_⟩
    rintro ⟨a, heq, h⟩
    obtain rfl := Except.ok.inj heq
    exact h

theorem forall₂_of_mapM_eq_ok {ε α β : Type} {f : α → Except ε β} {items : List α}
    {results : List β} (h : items.mapM f = .ok results) :
    List.Forall₂ (fun item result ↦ f item = .ok result) items results := by
  induction items generalizing results with
  | nil =>
    obtain rfl := Except.ok.inj h
    exact .nil
  | cons first rest ih =>
    rw [List.mapM_cons] at h
    obtain ⟨result, hfirst, h⟩ := bind_eq_ok.mp h
    obtain ⟨others, hrest, h⟩ := bind_eq_ok.mp h
    obtain rfl := Except.ok.inj h
    exact .cons hfirst (ih hrest)

theorem exists_mapM_eq_ok {ε α β : Type} {f : α → Except ε β} {items : List α}
    (h : ∀ item ∈ items, ∃ b, f item = .ok b) : ∃ bs, items.mapM f = .ok bs := by
  induction items with
  | nil => exact ⟨[], rfl⟩
  | cons item items ih =>
    obtain ⟨b, hb⟩ := h item List.mem_cons_self
    obtain ⟨bs, hbs⟩ := ih fun other hother ↦ h other (List.mem_cons_of_mem _ hother)
    exact ⟨b :: bs, by rw [List.mapM_cons, hb, hbs]; rfl⟩

theorem throw_bind {ε α β : Type} (e : ε) (f : α → Except ε β) :
    (throw e : Except ε α) >>= f = .error e := rfl

theorem checkWidth_eq_ok {name : TableName} {listed : Bool} {width : Nat} {row : List (Expr Field)}
    (h : checkWidth name listed width row = .ok ()) : row.length = width := by
  rw [checkWidth] at h
  split at h
  · assumption
  · split at h <;> cases h

/-- A check of every item. -/
theorem forIn_check_eq_ok {ε α : Type} {check : α → Except ε Unit} {items : List α} {done : PUnit}
    (h : (forIn items PUnit.unit fun item _ ↦ do
      check item
      pure (ForInStep.yield PUnit.unit)) = .ok done) : ∀ item ∈ items, check item = .ok () := by
  induction items with
  | nil => exact fun _ hmem ↦ absurd hmem List.not_mem_nil
  | cons first rest ih =>
    rw [List.forIn_cons] at h
    obtain ⟨stepped, hstepped, hrest⟩ := bind_eq_ok.mp h
    obtain ⟨⟨⟩, hfirst, hyield⟩ := bind_eq_ok.mp hstepped
    obtain rfl := Except.ok.inj hyield
    rintro item hmem
    rcases List.mem_cons.mp hmem with rfl | hmem
    · exact hfirst
    · exact ih hrest item hmem

/-- A loop that refuses some items goes through the others. -/
theorem forIn_guard {ε α : Type} {refused : α → Bool} {items : List α} (e : ε)
    (h : ∀ item ∈ items, refused item = false) :
    (forIn items PUnit.unit fun item _ ↦
      if refused item = true then do
        (throw e : Except ε Unit)
        pure (ForInStep.yield PUnit.unit)
      else pure (ForInStep.yield PUnit.unit)) = .ok PUnit.unit := by
  induction items with
  | nil => rfl
  | cons item items ih =>
    rw [List.forIn_cons, h item List.mem_cons_self, if_neg Bool.false_ne_true, pure_bind]
    exact ih fun other hmem ↦ h other (List.mem_cons_of_mem _ hmem)

theorem prepareInsert_eq_ok {h : Handle} {text : List Char} {name : TableName}
    {columns : Option (List String)} {rows : List (List (Expr ColumnName))} {program : Program}
    (hok : prepareInsert h text name columns rows = .ok program) :
    ∃ place table fields values, h.resolve name = .ok (place, table) ∧
      insertedFields name table columns = .ok fields ∧
      rows.mapM (fun row ↦ row.mapM (Names.resolve ⟨text, none, []⟩)) = .ok values ∧
      (∀ row ∈ values, row.length = fields.length) ∧
      program = .insert place table fields values := by
  rw [prepareInsert] at hok
  split at hok
  · cases hok
  · obtain ⟨⟨place, table⟩, hresolve, hok⟩ := bind_eq_ok.mp hok
    obtain ⟨fields, hfields, hok⟩ := bind_eq_ok.mp hok
    obtain ⟨values, hvalues, hok⟩ := bind_eq_ok.mp hok
    obtain ⟨done, hdone, hok⟩ := bind_eq_ok.mp hok
    refine ⟨place, table, fields, values, hresolve, hfields, hvalues, fun row hmem ↦ ?_,
      (Except.ok.inj hok).symm⟩
    exact checkWidth_eq_ok (forIn_check_eq_ok hdone row hmem)

theorem prepareUpdate_eq_ok {h : Handle} {text : List Char} {name : TableName}
    {assignments : List (String × Expr ColumnName)} {condition : Option (Expr ColumnName)}
    {program : Program} (hok : prepareUpdate h text name assignments condition = .ok program) :
    ∃ place table prepared taken, program = .update place table prepared taken := by
  rw [prepareUpdate] at hok
  obtain ⟨⟨place, table⟩, -, hok⟩ := bind_eq_ok.mp hok
  obtain ⟨prepared, -, hok⟩ := bind_eq_ok.mp hok
  obtain ⟨taken, -, hok⟩ := bind_eq_ok.mp hok
  exact ⟨place, table, prepared, taken, (Except.ok.inj hok).symm⟩

theorem prepareCreate_eq_ok {h : Handle} {text : List Char} {temporary ifNotExists : Bool}
    {table : TableName} {schemaPlace place : Nat} {columns : List ColumnDef} {program : Program}
    (hok : prepareCreate h text temporary ifNotExists table schemaPlace place columns =
      .ok program) :
    ∃ target, program = .skip target ∨ program = .create target table.name columns := by
  simp only [prepareCreate, throw_bind] at hok
  -- The checks are the same wherever the table goes.
  generalize (if (temporary || Option.any (Text.sameName "temp") table.schema) = true then
    Handle.Place.temp else Handle.Place.main) = target at hok
  split at hok
  · cases hok
  split at hok
  · cases hok
  split at hok
  · cases hok
  split at hok
  · split at hok
    · exact ⟨target, .inl (Except.ok.inj hok).symm⟩
    · cases hok
  split at hok
  · cases hok
  · exact ⟨target, .inr (Except.ok.inj hok).symm⟩

end SqlGateway.Sqlite
