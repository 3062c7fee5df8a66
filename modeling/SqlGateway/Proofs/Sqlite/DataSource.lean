import SqlGateway.Proofs.Text.Pieces
import SqlGateway.Proofs.Text.Trimming
import SqlGateway.Sqlite.DataSource

/-!
# What a connection string names

Two readings are told apart by one character. A text without an equals sign is a path as a whole;
in any other one, the first piece with a key for the database gives the path. Whitespace is trimmed
off the text, off each key and off each value, but as neither separator is whitespace, trimming the
text as a whole first makes no difference.
-/

namespace SqlGateway.Sqlite

variable {key piece value front back : List Char}

/-! ## Keys -/

/-- A key names the database: it is one of three names, in any case, between whitespace. -/
def NamesDatabase (key : List Char) : Prop :=
  ∃ front name back, key = front ++ (name ++ back) ∧ (∀ c ∈ front, Text.isBlank c = true) ∧
    (∀ c ∈ back, Text.isBlank c = true) ∧
    ∃ spelling ∈ ["data source", "datasource", "filename"], name.map Char.toLower = spelling.toList

theorem dataSourceKeys_plain : ∀ name ∈ dataSourceKeys, name.toList ≠ [] ∧
    (name.toList.head?.all fun c ↦ Text.isBlank c = false) ∧
    (name.toList.getLast?.all fun c ↦ Text.isBlank c = false) ∧
    '=' ∉ name.toList ∧ ';' ∉ name.toList := by
  decide

theorem isDataSourceKey_iff_exists : isDataSourceKey key = true ↔
    ∃ name ∈ dataSourceKeys, (Text.trimBlank key).map Char.toLower = name.toList := by
  simp only [isDataSourceKey, List.any_eq_true, beq_iff_eq, @eq_comm _ _ (List.map _ _)]

theorem isDataSourceKey_iff : isDataSourceKey key = true ↔ NamesDatabase key := by
  rw [isDataSourceKey_iff_exists]
  constructor
  · intro hname
    obtain ⟨front, back, hkey, hfront, hback⟩ := Text.exists_eq_append_trimBlank key
    exact ⟨front, _, back, hkey, hfront, hback, hname⟩
  · rintro ⟨front, name, back, hkey, hfront, hback, spelling, hspelling, hname⟩
    obtain ⟨hne, hfirst, hlast, -⟩ := dataSourceKeys_plain spelling hspelling
    rw [← hname] at hne hfirst hlast
    have htrimmed : Text.trimBlank key = name := by
      refine (Text.trimBlank_eq_iff (fun hnil ↦ hne (by rw [hnil]; rfl)) ?_ ?_ key).mpr
        ⟨front, back, hkey, hfront, hback⟩
      · intro c hc
        rw [← Text.isBlank_toLower]
        refine of_decide_eq_true ((Option.all_eq_true _ _).mp hfirst _ ?_)
        rw [List.head?_map]
        exact Option.mem_map_of_mem _ hc
      · intro c hc
        rw [← Text.isBlank_toLower]
        refine of_decide_eq_true ((Option.all_eq_true _ _).mp hlast _ ?_)
        rw [List.getLast?_map]
        exact Option.mem_map_of_mem _ hc
    exact ⟨spelling, hspelling, by rw [htrimmed, hname]⟩

theorem isDataSourceKey_front (hfront : ∀ c ∈ front, Text.isBlank c = true) (key : List Char) :
    isDataSourceKey (front ++ key) = isDataSourceKey key := by
  rw [isDataSourceKey, Text.trimBlank_front hfront, isDataSourceKey]

/-- A key that names the database has neither separator in it. -/
theorem NamesDatabase.not_mem (h : NamesDatabase key) : '=' ∉ key ∧ ';' ∉ key := by
  obtain ⟨name, hname, hspelling⟩ := isDataSourceKey_iff_exists.mp (isDataSourceKey_iff.mpr h)
  obtain ⟨-, -, -, hequals, hsemicolon⟩ := dataSourceKeys_plain name hname
  have hlower {c : Char} (hc : Text.isBlank c = false) (hmem : c ∈ key) :
      c.toLower ∈ name.toList :=
    hspelling ▸ List.mem_map_of_mem ((Text.mem_trimBlank hc key).mpr hmem)
  exact ⟨fun hmem ↦ hequals (hlower (by decide) hmem),
    fun hmem ↦ hsemicolon (hlower (by decide) hmem)⟩

/-! ## Pieces -/

theorem pieceDataSource?_of_names (h : NamesDatabase key) (value : List Char) :
    pieceDataSource? (key ++ '=' :: value) = some (Text.trimBlank value) := by
  rw [pieceDataSource?, Text.cut?_append_cons h.not_mem.1]
  exact if_pos (isDataSourceKey_iff.mpr h)

/-- A piece has a key for the database. -/
def IsKeyed (piece : List Char) : Prop :=
  ∃ key value, piece = key ++ '=' :: value ∧ NamesDatabase key

theorem not_isKeyed_iff : ¬IsKeyed piece ↔ pieceDataSource? piece = none := by
  constructor
  · intro h
    rw [pieceDataSource?]
    split
    · next key value hcut =>
      refine if_neg fun hkey ↦ h ⟨key, value, ?_, isDataSourceKey_iff.mp hkey⟩
      exact (Text.cut?_eq_some_iff.mp hcut).1
    · rfl
  · rintro hnone ⟨key, value, rfl, hkey⟩
    rw [pieceDataSource?_of_names hkey] at hnone
    cases hnone

theorem pieceDataSource?_front (hfront : ∀ c ∈ front, Text.isBlank c = true) (piece : List Char) :
    pieceDataSource? (front ++ piece) = pieceDataSource? piece := by
  have hequals : '=' ∉ front := Text.not_mem_of_blank (by decide) hfront
  by_cases hmem : '=' ∈ piece
  · obtain ⟨key, value, rfl, hkey⟩ := List.eq_append_cons_of_mem hmem
    have hboth : '=' ∉ front ++ key := fun h ↦ (List.mem_append.mp h).elim hequals hkey
    rw [← List.append_assoc, pieceDataSource?, Text.cut?_append_cons hboth, pieceDataSource?,
      Text.cut?_append_cons hkey]
    simp only [isDataSourceKey_front hfront]
  · have hboth : '=' ∉ front ++ piece := fun h ↦ (List.mem_append.mp h).elim hequals hmem
    rw [pieceDataSource?, Text.cut?_eq_none_iff.mpr hboth, pieceDataSource?,
      Text.cut?_eq_none_iff.mpr hmem]

theorem pieceDataSource?_back (hback : ∀ c ∈ back, Text.isBlank c = true) (piece : List Char) :
    pieceDataSource? (piece ++ back) = pieceDataSource? piece := by
  by_cases hmem : '=' ∈ piece
  · obtain ⟨key, value, rfl, hkey⟩ := List.eq_append_cons_of_mem hmem
    rw [List.append_assoc, List.cons_append, pieceDataSource?, Text.cut?_append_cons hkey,
      pieceDataSource?, Text.cut?_append_cons hkey]
    simp only [Text.trimBlank_back hback]
  · have hboth : '=' ∉ piece ++ back := fun h ↦
      (List.mem_append.mp h).elim hmem (Text.not_mem_of_blank (by decide) hback)
    rw [pieceDataSource?, Text.cut?_eq_none_iff.mpr hboth, pieceDataSource?,
      Text.cut?_eq_none_iff.mpr hmem]

/-! ## Texts -/

/-- **Trimming the text first makes no difference.** -/
theorem dataSource_eq (text : String) : dataSource text =
    if '=' ∈ text.toList then
      orMemory (((Text.pieces ';' text.toList).findSome? pieceDataSource?).getD [])
    else orMemory (Text.trimBlank text.toList) := by
  have hequals : '=' ∈ Text.trimBlank text.toList ↔ '=' ∈ text.toList :=
    Text.mem_trimBlank (by decide) _
  have hsearch : (Text.pieces ';' (Text.trimBlank text.toList)).findSome? pieceDataSource? =
      (Text.pieces ';' text.toList).findSome? pieceDataSource? := by
    obtain ⟨front, back, htext, hfront, hback⟩ := Text.exists_eq_append_trimBlank text.toList
    conv => rhs; rw [htext]
    rw [Text.findSome?_pieces_front (Text.not_mem_of_blank (by decide) hfront)
        (pieceDataSource?_front hfront),
      Text.findSome?_pieces_back (Text.not_mem_of_blank (by decide) hback)
        (pieceDataSource?_back hback)]
  simp only [dataSource, List.contains_iff_mem, hequals, hsearch]

theorem orMemory_trimBlank {path : String} (h : ∃ c ∈ path.toList, Text.isBlank c = false) :
    orMemory (Text.trimBlank path.toList) = Text.trim path :=
  if_neg fun hempty ↦ Text.trimBlank_ne_nil h (List.isEmpty_iff.mp hempty)

/-- A text without an equals sign is a path. -/
theorem dataSource_of_path {path : String} (hequals : '=' ∉ path.toList)
    (hblank : ∃ c ∈ path.toList, Text.isBlank c = false) : dataSource path = Text.trim path := by
  rw [dataSource_eq, if_neg hequals, orMemory_trimBlank hblank]

/-- The search ends at the first piece with a key for the database. -/
theorem findSome?_pieces_keyed {earlier : List (List Char)}
    (hearlier : ∀ piece ∈ earlier, ';' ∉ piece ∧ ¬IsKeyed piece) (hkey : NamesDatabase key)
    (hvalue : ';' ∉ value) (later : List (List Char)) :
    (Text.pieces ';' ([';'].intercalate (earlier ++ (key ++ '=' :: value) :: later))).findSome?
      pieceDataSource? = some (Text.trimBlank value) := by
  have hpiece : ';' ∉ key ++ '=' :: value := by
    rw [List.mem_append, List.mem_cons, not_or, not_or]
    exact ⟨hkey.not_mem.2, by decide, hvalue⟩
  have hplain : ∀ piece ∈ earlier ++ [key ++ '=' :: value], ';' ∉ piece := by
    intro piece hmem
    rcases List.mem_append.mp hmem with hmem | hmem
    · exact (hearlier piece hmem).1
    · rwa [List.mem_singleton.mp hmem]
  have hnone : earlier.findSome? pieceDataSource? = none :=
    List.findSome?_eq_none_iff.mpr fun piece hmem ↦
      not_isKeyed_iff.mp (hearlier piece hmem).2
  obtain ⟨rest, hrest⟩ := Text.pieces_intercalate
    (List.append_ne_nil_of_right_ne_nil _ (List.cons_ne_nil _ _)) hplain later
  rw [List.append_assoc, List.singleton_append] at hrest
  rw [hrest, List.findSome?_append, List.findSome?_append, hnone, Option.none_or,
    List.findSome?_cons, pieceDataSource?_of_names hkey, Option.some_or]

/-- **The first piece with a key for the database gives the path**, trimmed and otherwise as it is
written: there may be whitespace and equals signs in it. Nothing that comes later counts. -/
theorem dataSource_of_keyed {earlier : List String} {key path : String}
    (hearlier : ∀ piece ∈ earlier, ';' ∉ piece.toList ∧ ¬IsKeyed piece.toList)
    (hkey : NamesDatabase key.toList) (hpath : ';' ∉ path.toList)
    (hblank : ∃ c ∈ path.toList, Text.isBlank c = false) (later : List String) :
    dataSource (";".intercalate (earlier ++ (key ++ "=" ++ path) :: later)) = Text.trim path := by
  have htext : (";".intercalate (earlier ++ (key ++ "=" ++ path) :: later)).toList =
      [';'].intercalate (earlier.map String.toList ++ (key.toList ++ '=' :: path.toList) ::
        later.map String.toList) := by
    rw [String.toList_intercalate, List.map_append, List.map_cons, String.toList_append,
      String.toList_append, List.append_assoc]
    rfl
  have hearlier' : ∀ piece ∈ earlier.map String.toList, ';' ∉ piece ∧ ¬IsKeyed piece := by
    intro piece hmem
    obtain ⟨text, htext, rfl⟩ := List.mem_map.mp hmem
    exact hearlier text htext
  have hequals : '=' ∈ (";".intercalate (earlier ++ (key ++ "=" ++ path) :: later)).toList := by
    rw [htext]
    exact Text.mem_intercalate (List.mem_append_right _ List.mem_cons_self)
      (List.mem_append_right _ List.mem_cons_self) _
  rw [dataSource_eq, if_pos hequals, htext, findSome?_pieces_keyed hearlier' hkey hpath,
    Option.getD_some, orMemory_trimBlank hblank]

/-- A key in mixed case between whitespace, a path with an equals sign and a space in it, and
another key behind it. -/
theorem dataSource_of_keyed_mixed :
    dataSource "Mode=rw;\tDATA Source = /tmp/a=b c.db ;filename=other" = "/tmp/a=b c.db" := by
  have hearlier : ∀ piece ∈ ["Mode=rw"], ';' ∉ piece.toList ∧ ¬IsKeyed piece.toList := by
    intro piece hmem
    obtain rfl := List.mem_singleton.mp hmem
    exact ⟨by decide, not_isKeyed_iff.mpr (by decide +kernel)⟩
  have hkey : NamesDatabase "\tDATA Source ".toList := isDataSourceKey_iff.mp (by decide +kernel)
  have hpath : ';' ∉ " /tmp/a=b c.db ".toList := by decide
  have hfound := dataSource_of_keyed hearlier hkey hpath ⟨'/', by decide, by decide⟩
    ["filename=other"]
  have htext : ";".intercalate (["Mode=rw"] ++
      ("\tDATA Source " ++ "=" ++ " /tmp/a=b c.db ") :: ["filename=other"]) =
        "Mode=rw;\tDATA Source = /tmp/a=b c.db ;filename=other" := by decide +kernel
  have htrimmed : Text.trim " /tmp/a=b c.db " = "/tmp/a=b c.db" := by decide +kernel
  rwa [htext, htrimmed] at hfound

end SqlGateway.Sqlite
