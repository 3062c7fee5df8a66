import Mathlib.Data.List.Pairwise
import SqlGateway.Output
import SqlGateway.Proofs.Json.Numerals

/-!
# Every result under its own name

The tables of a set are looked up by name, and the first match counts. So a set keeps every table
reachable if no two of its names are the same up to case. The names that the caller gives may be
expected to differ, and the names made up from places do; what is left is that a name of the caller
is the name of a place, `T2` for instance. It then hides the table of that place, but only if that
table has no name of the caller's.

The law is about places in the set and not about contents: two results may well be equal, and a
look-up that gives the one for the other has still gone wrong.
-/

namespace SqlGateway

/-! ## Looking tables up -/

namespace DataSet

/-- The place of the table that is found under a name. -/
def place? (set : DataSet) (name : String) : Option Nat :=
  set.tables.findIdx? fun t ↦ Text.sameName t.name name

theorem table?_eq_place? (set : DataSet) (name : String) :
    set.table? name = (set.place? name).bind fun i ↦ set.tables[i]? :=
  List.find?_eq_bind_findIdx?_getElem?

theorem place?_eq_names (set : DataSet) (name : String) :
    set.place? name = set.names.findIdx? (Text.sameName · name) := by
  rw [names, List.findIdx?_map]
  rfl

theorem place?_eq_some_iff {set : DataSet} {name : String} {i : Nat} :
    set.place? name = some i ↔ ∃ h : i < set.names.length,
      Text.sameName set.names[i] name = true ∧
        ∀ k, (hk : k < i) → Text.sameName (set.names.get ⟨k, hk.trans h⟩) name = false := by
  rw [place?_eq_names, List.findIdx?_eq_some_iff_getElem]
  simp only [Bool.not_eq_true, List.get_eq_getElem]

/-- **Every table is found under its own name** if no two of the names are the same, and only
then. -/
theorem forall_place?_iff (set : DataSet) :
    (∀ i t, set.tables[i]? = some t → set.place? t.name = some i) ↔
      set.names.Pairwise fun a b ↦ Text.sameName a b = false := by
  rw [List.pairwise_iff_getElem]
  constructor
  · intro hfound i j hi hj hlt
    have hj' : j < set.tables.length := by rwa [names, List.length_map] at hj
    have hplace := hfound j set.tables[j] (List.getElem?_eq_getElem hj')
    obtain ⟨_, -, hbefore⟩ := place?_eq_some_iff.mp hplace
    simpa only [names, List.get_eq_getElem, List.getElem_map] using hbefore i hlt
  · intro hdiffer i t ht
    obtain ⟨hi, rfl⟩ := List.getElem?_eq_some_iff.mp ht
    have hi' : i < set.names.length := by rwa [names, List.length_map]
    have hname : set.names[i] = set.tables[i].name := by simp only [names, List.getElem_map]
    rw [← hname]
    exact place?_eq_some_iff.mpr ⟨hi', Text.sameName_self _, fun k hk ↦ hdiffer k i _ hi' hk⟩

end DataSet

/-! ## Names of places -/

/-- Digits have no case. -/
theorem Text.toLower_of_isDigit {c : Char} (h : c.isDigit = true) : c.toLower = c := by
  have hdigit : c.toNat ≤ 57 := (Char.isDigit_iff_toNat.mp h).2
  rcases toLower_cases c with hsame | ⟨hletter, -⟩
  · exact hsame
  · omega

theorem folded_defaultTableName (i : Nat) :
    Text.folded (defaultTableName i) = 't' :: Nat.toDigits 10 i := by
  have hdigits : (Nat.toDigits 10 i).map Char.toLower = Nat.toDigits 10 i := by
    refine (List.map_congr_left fun c hc ↦ ?_).trans (List.map_id _)
    exact Text.toLower_of_isDigit (Text.isDigit_of_mem_toDigits hc)
  have htext : (defaultTableName i).toList = 'T' :: Nat.toDigits 10 i := by
    rw [defaultTableName, String.toList_append]
    exact congrArg ('T' :: ·) Nat.toList_repr
  rw [Text.folded, htext, List.map_cons, hdigits]
  rfl

/-- Different places have different names. -/
theorem sameName_defaultTableName {i j : Nat} (hne : i ≠ j) :
    Text.sameName (defaultTableName i) (defaultTableName j) = false := by
  refine eq_false_of_ne_true fun hsame ↦ hne ?_
  have hfolded := Text.sameName_iff.mp hsame
  rw [folded_defaultTableName, folded_defaultTableName] at hfolded
  rw [← Text.natural_toDigits i, (List.cons.inj hfolded).2, Text.natural_toDigits]

/-! ## Naming -/

section nameTables

variable (tables : List DataTable) (names : List String)

theorem getElem?_nameTables (i : Nat) : (nameTables tables names).tables[i]? =
    tables[i]?.map fun t ↦ t.renamed (tableName names i) :=
  List.getElem?_mapIdx

theorem tableName_of_lt {names : List String} {i : Nat} (h : i < names.length) :
    tableName names i = names[i] := by
  rw [tableName, List.getElem?_eq_getElem h, Option.getD_some]

theorem tableName_of_le {names : List String} {i : Nat} (h : names.length ≤ i) :
    tableName names i = defaultTableName i := by
  rw [tableName, List.getElem?_eq_none h, Option.getD_none]

/-- The names of the caller come first, and names of places where they run out. -/
theorem names_nameTables : (nameTables tables names).names = names.take tables.length ++
    (List.range' names.length (tables.length - names.length)).map defaultTableName := by
  refine List.ext_getElem? fun i ↦ ?_
  rw [DataSet.names, List.getElem?_map, getElem?_nameTables, Option.map_map]
  rcases Nat.lt_or_ge i tables.length with hi | hi
  · rw [List.getElem?_eq_getElem hi, Option.map_some]
    rcases Nat.lt_or_ge i names.length with hcaller | hplace
    · have htake : i < (names.take tables.length).length := by
        rw [List.length_take]
        omega
      rw [List.getElem?_append_left htake, List.getElem?_take_of_lt hi,
        List.getElem?_eq_getElem hcaller]
      exact congrArg some (tableName_of_lt hcaller)
    · have htake : (names.take tables.length).length = names.length := by
        rw [List.length_take]
        omega
      rw [List.getElem?_append_right (by omega), htake, List.getElem?_map,
        List.getElem?_range' (by omega), Option.map_some, Nat.one_mul, Nat.add_sub_cancel' hplace]
      exact congrArg some (tableName_of_le hplace)
  · have hlength : (names.take tables.length ++ (List.range' names.length
        (tables.length - names.length)).map defaultTableName).length ≤ i := by
      rw [List.length_append, List.length_take, List.length_map, List.length_range']
      omega
    rw [List.getElem?_eq_none hi, List.getElem?_eq_none hlength]
    rfl

variable {tables names}

/-- Names that differ stay different beside the names of places, unless one of them is such a
name. -/
theorem pairwise_names_nameTables (h : names.Pairwise fun a b ↦ Text.sameName a b = false) :
    ((nameTables tables names).names.Pairwise fun a b ↦ Text.sameName a b = false) ↔
      ∀ name ∈ names.take tables.length, ∀ j, names.length ≤ j → j < tables.length →
        Text.sameName name (defaultTableName j) = false := by
  have hplaces : ((List.range' names.length (tables.length - names.length)).map
      defaultTableName).Pairwise fun a b ↦ Text.sameName a b = false :=
    List.pairwise_map.mpr ((List.nodup_range').imp sameName_defaultTableName)
  rw [names_nameTables, List.pairwise_append]
  constructor
  · rintro ⟨-, -, hcross⟩ name hname j hle hlt
    exact hcross name hname _ (List.mem_map_of_mem (List.mem_range'_1.mpr (by omega)))
  · intro hcross
    refine ⟨h.sublist (List.take_sublist _ _), hplaces, fun name hname other hother ↦ ?_⟩
    obtain ⟨j, hj, rfl⟩ := List.mem_map.mp hother
    have hrange := List.mem_range'_1.mp hj
    exact hcross name hname j hrange.1 (by omega)

/-- A caller's name that is the name of a place behind it hides the table of that place. -/
theorem place?_nameTables_of_sameName (h : names.Pairwise fun a b ↦ Text.sameName a b = false)
    {i j : Nat} {name : String} (hname : names[i]? = some name) (hle : names.length ≤ j)
    (hlt : j < tables.length) (hsame : Text.sameName name (defaultTableName j) = true) :
    (nameTables tables names).place? (defaultTableName j) = some i := by
  obtain ⟨hi, rfl⟩ := List.getElem?_eq_some_iff.mp hname
  have hall : (nameTables tables names).names = names ++
      (List.range' names.length (tables.length - names.length)).map defaultTableName := by
    rw [names_nameTables, List.take_of_length_le (by omega)]
  rw [DataSet.place?_eq_names, hall, List.findIdx?_append,
    List.findIdx?_eq_some_iff_getElem.mpr ⟨hi, hsame, fun k hk ↦ ?_⟩]
  · rfl
  · -- An earlier name of the caller that is the same would be the same as this one.
    intro hearlier
    have hdiffer := List.pairwise_iff_getElem.mp h k i (hk.trans hi) hi hk
    rw [Text.sameName_comm] at hsame
    rw [Text.sameName_trans hearlier hsame] at hdiffer
    cases hdiffer

end nameTables

/-- **Tables keep their contents and get their names in order**; a name that is left over is not
used. If the caller's names differ, then every table is found under its own name, unless the caller
uses the name of a place that has none of its names: the look-up under that name then gives the
caller's table. -/
theorem nameTables_found (tables : List DataTable) (names : List String) :
    let set := nameTables tables names
    (set.tables.length = tables.length ∧
      (∀ i (hi : i < tables.length), set.tables[i]? = some
        ⟨if h : i < names.length then names[i] else "T" ++ toString i, tables[i].columns,
          tables[i].rows⟩) ∧
      nameTables tables (names.take tables.length) = set) ∧
    (∀ name, set.table? name = (set.place? name).bind fun i ↦ set.tables[i]?) ∧
    (names.Pairwise (fun a b ↦ Text.sameName a b = false) →
      ((∀ i t, set.tables[i]? = some t → set.place? t.name = some i) ↔
        ∀ name ∈ names.take tables.length, ∀ j, names.length ≤ j → j < tables.length →
          Text.sameName name ("T" ++ toString j) = false) ∧
      ∀ i j name, names[i]? = some name → names.length ≤ j → j < tables.length →
        Text.sameName name ("T" ++ toString j) = true →
        set.place? ("T" ++ toString j) = some i) := by
  intro set
  refine ⟨⟨List.length_mapIdx, fun i hi ↦ ?_, ?_⟩, set.table?_eq_place?, fun hdiffer ↦ ⟨?_, ?_⟩⟩
  · have htable : set.tables[i]? = some (tables[i].renamed (tableName names i)) := by
      rw [getElem?_nameTables, List.getElem?_eq_getElem hi]
      rfl
    rw [htable]
    split
    · next hcaller => rw [tableName_of_lt hcaller, DataTable.renamed]
    · next hplace =>
      rw [tableName_of_le (Nat.le_of_not_lt hplace), DataTable.renamed, defaultTableName]
  · refine congrArg DataSet.mk (List.mapIdx_eq_mapIdx_iff.mpr fun i hi ↦ ?_)
    rw [tableName, List.getElem?_take_of_lt hi, tableName]
  · rw [DataSet.forall_place?_iff]
    exact pairwise_names_nameTables hdiffer
  · intro i j name hname hle hlt hsame
    exact place?_nameTables_of_sameName hdiffer hname hle hlt hsame

/-- The second of two names is that of the third place, in another case. -/
theorem nameTables_found_hidden :
    let names := ["users", "t2"]
    let set := nameTables [.empty, .empty, .empty] names
    names.Pairwise (fun a b ↦ Text.sameName a b = false) ∧ set.place? "T2" = some 1 ∧
      ¬∀ i t, set.tables[i]? = some t → set.place? t.name = some i := by
  intro names set
  have hdiffer : names.Pairwise fun a b ↦ Text.sameName a b = false := by decide
  obtain ⟨hiff, hhidden⟩ := (nameTables_found [.empty, .empty, .empty] names).2.2 hdiffer
  refine ⟨hdiffer, hhidden 1 2 "t2" rfl (by decide) (by decide) (by decide), fun hall ↦ ?_⟩
  have hother := hiff.mp hall "t2" (by decide) 2 (by decide) (by decide)
  exact absurd hother (by decide)

end SqlGateway
