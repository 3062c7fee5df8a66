import SqlGateway.Proofs.Toml.Lines
import SqlGateway.Settings.Text

/-!
# Settings that are read back

The document of settings is read line by line. Each entry has three lines, which put one more table
below `databases`; that table stands at the end, as the names of settings come in order and each of
them once. A document without entries has a header of its own.

Every line takes one unit of fuel, and there is one for each character of the document.
-/

namespace SqlGateway.Settings

open Toml

/-! ## The document of settings -/

/-- An entry as an item of a document. -/
def itemOf (entry : String × DbConfig) : String × Item :=
  (entry.1, .table .header
    [("server_type", .text entry.2.serverType),
      ("connection_string", .text entry.2.connectionString)])

/-- The root table that entries make up. -/
def rootOf (entries : List (String × DbConfig)) : Entries :=
  if entries.isEmpty then [] else [("databases", .table .implied (entries.map itemOf))]

theorem mapM_itemOf (entries : List (String × DbConfig)) :
    (entries.map itemOf).mapM
      (fun (name, item) ↦ (config? item).map fun config ↦ (name, config)) = some entries := by
  have hread : (fun (name, item) ↦ (config? item).map fun config ↦ (name, config)) ∘ itemOf =
      fun entry ↦ pure entry := rfl
  rw [List.mapM_map, hread, List.mapM_pure, List.map_id']
  rfl

theorem ofToml?_rootOf {settings : Settings} (h : settings.databases ≠ []) :
    ofToml? (rootOf settings.databases) = some settings := by
  have hitem : item? (rootOf settings.databases) "databases" =
      some (.table .implied (settings.databases.map itemOf)) := by
    rw [rootOf, if_neg (mt List.isEmpty_iff.mp h)]
    rfl
  rw [ofToml?, hitem]
  simp only [tableEntries?, Option.bind_eq_bind, Option.bind_some, mapM_itemOf, ofList_databases]
  rfl

/-- The table of an entry goes behind those of the entries before it. -/
theorem rootOf_concat (done : List (String × DbConfig)) (entry : String × DbConfig) :
    rootOf (done ++ [entry]) =
      [("databases", .table .implied (done.map itemOf ++ [itemOf entry]))] := by
  have hne : ¬(done ++ [entry]).isEmpty = true := by
    rw [List.isEmpty_iff]
    exact List.append_ne_nil_of_right_ne_nil done (List.cons_ne_nil entry [])
  rw [rootOf, if_neg hne, List.map_append]
  rfl

theorem openTable_rootOf {done : List (String × DbConfig)} {name : String}
    (hnew : ∀ entry ∈ done.map itemOf, entry.1 ≠ name) :
    openTable ["databases"] name (rootOf done) =
      some [("databases", .table .implied (done.map itemOf ++ [(name, .table .header [])]))] := by
  rw [rootOf]
  by_cases hdone : done = []
  · subst hdone
    rfl
  · rw [if_neg (mt List.isEmpty_iff.mp hdone)]
    exact openTable_of_new hnew "databases"

/-! ## Lines -/

/-- The pieces that an entry is written in, with the names in them apart. -/
theorem pieces_append {header first second outer server connection : List Char}
    (hheader : header = '[' :: (outer ++ ['.']))
    (hfirst : first = ']' :: '\n' :: (server ++ [' ', '=', ' ']))
    (hsecond : second = '\n' :: (connection ++ [' ', '=', ' ']))
    (inner content content' rest : List Char) :
    header ++ inner ++ first ++ content ++ second ++ content' ++ ['\n'] ++ rest =
      '[' :: (outer ++ '.' :: (inner ++ ']' :: '\n' ::
        (server ++ ' ' :: '=' :: ' ' :: (content ++ '\n' ::
          (connection ++ ' ' :: '=' :: ' ' :: (content' ++ '\n' :: rest)))))) := by
  subst hheader hfirst hsecond
  simp only [List.append_assoc, List.cons_append, List.nil_append]

theorem entryText_append (entry : String × DbConfig) (rest : List Char) :
    entryText entry ++ rest =
      '[' :: ("databases".toList ++ '.' :: (writeKey entry.1.toList ++ ']' :: '\n' ::
        ("server_type".toList ++ ' ' :: '=' :: ' ' ::
          (writeText entry.2.serverType.toList ++ '\n' ::
            ("connection_string".toList ++ ' ' :: '=' :: ' ' ::
              (writeText entry.2.connectionString.toList ++ '\n' :: rest)))))) :=
  pieces_append (by decide +kernel) (by decide +kernel) (by decide +kernel) _ _ _ rest

/-- **The lines of an entry put its table at the end.** -/
theorem readLines_entryText (fuel : Nat) {done : List (String × DbConfig)}
    {entry : String × DbConfig} (hnew : ∀ earlier ∈ done, earlier.1 ≠ entry.1)
    (current : List String) (rest : List Char) :
    readLines (fuel + 3) ⟨rootOf done, current⟩ (entryText entry ++ rest) =
      readLines fuel ⟨rootOf (done ++ [entry]), ["databases", entry.1]⟩ rest := by
  have htables : ∀ item ∈ done.map itemOf, item.1 ≠ entry.1 := by
    intro item hitem
    obtain ⟨earlier, hearlier, rfl⟩ := List.mem_map.mp hitem
    exact hnew earlier hearlier
  have hnone : ∀ item ∈ ([] : Entries), item.1 ≠ "server_type" :=
    fun item hitem ↦ (List.not_mem_nil hitem).elim
  have hone : ∀ item ∈ [("server_type", Item.text entry.2.serverType)],
      item.1 ≠ "connection_string" := by
    have hkeys : "server_type" ≠ "connection_string" := by decide
    intro item hitem
    rwa [List.mem_singleton.mp hitem]
  have hput := assignIn_of_new htables hnone "databases" (.text entry.2.serverType)
  have hlast := assignIn_of_new htables hone "databases" (.text entry.2.connectionString)
  have hdatabases : Spells "databases".toList "databases" := spells_bare (by decide +kernel)
  have hserver : Spells "server_type".toList "server_type" := spells_bare (by decide +kernel)
  have hconnection : Spells "connection_string".toList "connection_string" :=
    spells_bare (by decide +kernel)
  rw [rootOf_concat]
  exact (congrArg (readLines (fuel + 3) ⟨rootOf done, current⟩)
    (entryText_append entry rest)).trans
    (readLines_pair hdatabases (spells_writeKey entry.1) hserver hconnection
      (openTable_rootOf htables) hput hlast fuel rest)

/-- **The lines of entries put their tables at the end**, one after the other. -/
theorem readLines_entriesText {fuel : Nat} {done entries : List (String × DbConfig)}
    (hfuel : 4 * entries.length ≤ fuel)
    (hordered : (done ++ entries).Pairwise fun a b ↦ a.1 < b.1) (current : List String) :
    readLines (fuel + 1) ⟨rootOf done, current⟩ (entriesText entries) =
      some (rootOf (done ++ entries)) := by
  induction entries generalizing done current fuel with
  | nil =>
    rw [List.append_nil]
    exact readLines_nil fuel _
  | cons entry entries ih =>
    have hnew : ∀ earlier ∈ done, earlier.1 ≠ entry.1 := by
      intro earlier hearlier heq
      have hlt := (List.pairwise_append.mp hordered).2.2 earlier hearlier entry List.mem_cons_self
      rw [heq] at hlt
      exact String.lt_irrefl _ hlt
    rw [List.append_cons] at hordered ⊢
    rw [List.length_cons] at hfuel
    -- Three lines of the entry, and a blank one if there are others behind it.
    cases entries with
    | nil =>
      obtain ⟨fuel, rfl⟩ := Nat.exists_eq_add_of_le' (by omega : 3 ≤ fuel)
      have hlines := readLines_entryText (fuel + 1) hnew current []
      rw [List.append_nil] at hlines ⊢
      exact hlines
    | cons next others =>
      obtain ⟨fuel, rfl⟩ := Nat.exists_eq_add_of_le' (by omega : 4 ≤ fuel)
      have hlines := readLines_entryText (fuel + 2) hnew current
        ('\n' :: entriesText (next :: others))
      refine hlines.trans ((readLines_blank (fuel + 1) _ _).trans ?_)
      exact ih (by omega) hordered _

theorem length_line (outer inner rest : List Char) :
    4 ≤ ('[' :: (outer ++ '.' :: (inner ++ ']' :: '\n' :: rest))).length := by
  simp only [List.length_cons, List.length_append]
  omega

theorem length_entryText (entry : String × DbConfig) : 4 ≤ (entryText entry).length := by
  have hlines := entryText_append entry []
  rw [List.append_nil] at hlines
  rw [hlines]
  exact length_line _ _ _

theorem length_entriesText (entries : List (String × DbConfig)) :
    4 * entries.length ≤ (entriesText entries).length := by
  induction entries with
  | nil => exact Nat.le_refl 0
  | cons entry entries ih =>
    have hentry := length_entryText entry
    cases entries with
    | nil => exact hentry
    | cons next others =>
      have hlength : (entriesText (entry :: next :: others)).length =
          (entryText entry).length + ((entriesText (next :: others)).length + 1) :=
        List.length_append
      rw [hlength, List.length_cons]
      omega

/-- A document of settings begins with a bracket, and so with no mark. -/
theorem skipMark_entriesText (entries : List (String × DbConfig)) :
    skipMark (entriesText entries) = entriesText entries := by
  cases entries with
  | nil => rfl
  | cons entry entries =>
    obtain ⟨rest, hrest⟩ : ∃ rest, entriesText (entry :: entries) = entryText entry ++ rest := by
      cases entries with
      | nil => exact ⟨[], (List.append_nil _).symm⟩
      | cons next others => exact ⟨_, rfl⟩
    rw [hrest, entryText_append]
    rfl

theorem ofText?_empty : ofText? empty.toText = some empty := by decide +kernel

/-- **Settings are read back from their text.** -/
theorem ofText?_toText (settings : Settings) : ofText? settings.toText = some settings := by
  by_cases hempty : settings.databases = []
  · have hsettings : settings = empty := eq_of_databases hempty
    rw [hsettings]
    exact ofText?_empty
  · have hlines : readLines ((entriesText settings.databases).length + 1) ⟨rootOf [], []⟩
        (entriesText settings.databases) = some (rootOf ([] ++ settings.databases)) := by
      apply readLines_entriesText (length_entriesText settings.databases)
      exact settings.ordered
    rw [ofText?, toText, if_neg (mt List.isEmpty_iff.mp hempty), read?, String.toList_ofList,
      String.length_ofList, skipMark_entriesText]
    exact (congrArg (·.bind ofToml?) hlines).trans (ofToml?_rootOf hempty)

end SqlGateway.Settings
