import SqlGateway.Error

/-!
# Settings

The databases that executors can be built for, by name. They are kept in the order of their names,
each name once, which the type `Settings` records; so settings that hold the same are equal.
-/

namespace SqlGateway

/-- How a database is reached. -/
structure DbConfig where
  serverType : String
  connectionString : String
deriving Repr, DecidableEq, Inhabited

/-- Named databases in the order of their names. -/
structure Settings where
  databases : List (String × DbConfig)
  ordered : databases.Pairwise fun a b ↦ a.1 < b.1
deriving DecidableEq

namespace Settings

/-- The file that settings are kept in. -/
def fileName : String := "sqlforge.toml"

/-- Settings without a database. -/
def empty : Settings := ⟨[], .nil⟩

instance : Inhabited Settings := ⟨empty⟩

/-! ## Looking up -/

/-- The database of that name. -/
def find? (settings : Settings) (name : String) : Option DbConfig :=
  (settings.databases.find? fun entry ↦ entry.1 == name).map Prod.snd

/-- The database of that name; the refusal names the file. -/
def get (settings : Settings) (name : String) : Except Error DbConfig :=
  match settings.find? name with
  | some config => .ok config
  | none => .error (.config ("No database named '" ++ name ++ "' in " ++ fileName))

/-! ## Inserting -/

/-- Put an entry in its place; it takes the place of one of the same name. -/
def insertEntry (name : String) (config : DbConfig) :
    List (String × DbConfig) → List (String × DbConfig)
  | [] => [(name, config)]
  | entry :: entries =>
    if name < entry.1 then (name, config) :: entry :: entries
    else if entry.1 < name then entry :: insertEntry name config entries
    else (name, config) :: entries

theorem mem_insertEntry {name : String} {config : DbConfig} {entries : List (String × DbConfig)}
    {entry : String × DbConfig} (h : entry ∈ insertEntry name config entries) :
    entry = (name, config) ∨ entry ∈ entries := by
  induction entries with
  | nil => simpa [insertEntry] using h
  | cons first rest ih =>
    simp only [insertEntry] at h
    split at h
    · simpa using h
    · split at h
      · rcases List.mem_cons.mp h with h | h
        · simp [h]
        · rcases ih h with h | h <;> simp [h]
      · rcases List.mem_cons.mp h with h | h <;> simp [h]

theorem insertEntry_ordered (name : String) (config : DbConfig)
    {entries : List (String × DbConfig)} (h : entries.Pairwise fun a b ↦ a.1 < b.1) :
    (insertEntry name config entries).Pairwise fun a b ↦ a.1 < b.1 := by
  induction entries with
  | nil => simp [insertEntry]
  | cons first rest ih =>
    obtain ⟨hfirst, hrest⟩ := List.pairwise_cons.mp h
    simp only [insertEntry]
    split
    · rename_i hlt
      refine List.pairwise_cons.mpr ⟨fun entry hentry ↦ ?_, h⟩
      rcases List.mem_cons.mp hentry with rfl | hentry
      · exact hlt
      · exact String.lt_trans hlt (hfirst entry hentry)
    · rename_i hge
      split
      · rename_i hlt
        refine List.pairwise_cons.mpr ⟨fun entry hentry ↦ ?_, ih hrest⟩
        rcases mem_insertEntry hentry with rfl | hentry
        · exact hlt
        · exact hfirst entry hentry
      · rename_i hle
        have heq : name = first.1 :=
          String.le_antisymm (String.not_lt.mp hle) (String.not_lt.mp hge)
        subst heq
        exact List.pairwise_cons.mpr ⟨hfirst, hrest⟩

/-- Name a database; a database that had the name before is forgotten. -/
def insert (settings : Settings) (name : String) (config : DbConfig) : Settings :=
  ⟨insertEntry name config settings.databases, insertEntry_ordered name config settings.ordered⟩

/-- Settings from entries in any order, where the last of a name counts. -/
def ofList (entries : List (String × DbConfig)) : Settings :=
  entries.foldl (fun settings entry ↦ settings.insert entry.1 entry.2) empty

/-- A name that comes last is put at the end. -/
theorem insertEntry_of_forall_lt {name : String} {config : DbConfig}
    {entries : List (String × DbConfig)} (h : ∀ entry ∈ entries, entry.1 < name) :
    insertEntry name config entries = entries ++ [(name, config)] := by
  induction entries with
  | nil => rfl
  | cons first rest ih =>
    have hfirst : first.1 < name := h first List.mem_cons_self
    rw [insertEntry, if_neg (String.lt_asymm hfirst), if_pos hfirst,
      ih fun entry hentry ↦ h entry (List.mem_cons_of_mem _ hentry)]
    rfl

theorem databases_foldl_insert {settings : Settings} {entries : List (String × DbConfig)}
    (h : (settings.databases ++ entries).Pairwise fun a b ↦ a.1 < b.1) :
    (entries.foldl (fun settings entry ↦ settings.insert entry.1 entry.2) settings).databases =
      settings.databases ++ entries := by
  induction entries generalizing settings with
  | nil => exact (List.append_nil _).symm
  | cons entry entries ih =>
    have hlast : (settings.insert entry.1 entry.2).databases = settings.databases ++ [entry] :=
      insertEntry_of_forall_lt fun earlier hearlier ↦
        (List.pairwise_append.mp h).2.2 earlier hearlier entry List.mem_cons_self
    rw [List.append_cons, ← hlast] at h
    rw [List.foldl_cons, ih h, hlast, List.append_assoc, List.singleton_append]

/-- Settings that hold the same databases are equal. -/
theorem eq_of_databases {a b : Settings} (h : a.databases = b.databases) : a = b := by
  cases a
  cases b
  cases h
  rfl

/-- Settings are made up by their own entries. -/
theorem ofList_databases (settings : Settings) : ofList settings.databases = settings :=
  eq_of_databases (@databases_foldl_insert empty settings.databases settings.ordered)

end Settings

end SqlGateway
