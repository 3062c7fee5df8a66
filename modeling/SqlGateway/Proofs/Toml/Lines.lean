import SqlGateway.Proofs.Toml.Strings

/-!
# Lines that are read

What the reader makes of the lines that settings are written in: a header of a table below another
one, an assignment of a text, and blank lines between them. A name is known by what it spells, so
that these lemmas are about bare keys and quoted ones alike.

The second half is about the tables that the lines make up. Entries are added at the end, where the
reader looks for them last: `alter` finds no entry of a new key and the last entry by its own.
-/

namespace SqlGateway.Toml

/-! ## Names -/

/-- The first character of a name: one that may stand without quotes, or a quote. -/
def Begins (c : Char) : Prop := isBare c = true ∨ c = '"' ∨ c = '\''

theorem Begins.ne {c other : Char} (h : Begins c) (hother : ¬Begins other) : c ≠ other := by
  rintro rfl
  exact hother h

instance (c : Char) : Decidable (Begins c) := inferInstanceAs (Decidable (_ ∨ _))

theorem Begins.not_isSpace {c : Char} (h : Begins c) : isSpace c = false := by
  rw [isSpace, Bool.or_eq_false_iff]
  exact ⟨beq_false_of_ne (h.ne (by decide)), beq_false_of_ne (h.ne (by decide))⟩

/-- What is written of a name is read as it. -/
structure Spells (written : List Char) (name : String) : Prop where
  begins : ∃ first tail, written = first :: tail ∧ Begins first
  reads {rest : List Char} (h : ∀ c ∈ rest.head?, isBare c = false) :
    readName (written ++ rest) = some (name, rest)

/-- A name that may stand without quotes spells itself. -/
theorem spells_bare {name : String}
    (h : (!name.toList.isEmpty && name.toList.all isBare) = true) : Spells name.toList name := by
  rw [Bool.and_eq_true, Bool.not_eq_true', List.isEmpty_eq_false_iff, List.all_eq_true] at h
  obtain ⟨hne, hbare⟩ := h
  constructor
  · obtain ⟨first, tail, heq⟩ := List.exists_cons_of_ne_nil hne
    exact ⟨first, tail, heq, .inl (hbare first (by rw [heq]; exact List.mem_cons_self))⟩
  · intro rest hrest
    rw [readName_bare hne hbare hrest, String.ofList_toList]

theorem spells_writeKey (name : String) : Spells (writeKey name.toList) name where
  begins := by
    have hbasic : ∃ first tail, writeStyled name.toList .basic = first :: tail ∧ Begins first :=
      ⟨_, _, rfl, .inr (.inl rfl)⟩
    rw [writeKey]
    split
    next h => exact (spells_bare h).begins
    dsimp only
    split
    · exact hbasic
    split
    · exact ⟨_, _, rfl, .inr (.inr rfl)⟩
    · exact hbasic
  reads h := by rw [readName_writeKey _ h, String.ofList_toList]

theorem skipSpace_cons {c : Char} (h : isSpace c = false) (rest : List Char) :
    skipSpace (c :: rest) = c :: rest := by
  rw [skipSpace, List.dropWhile_cons_of_neg (Bool.eq_false_iff.mp h)]

namespace Spells

variable {written : List Char} {name : String}

theorem skipSpace_append (h : Spells written name) (rest : List Char) :
    skipSpace (written ++ rest) = written ++ rest := by
  obtain ⟨first, tail, rfl, hfirst⟩ := h.begins
  exact skipSpace_cons hfirst.not_isSpace _

/-- A name with a dot behind it is the first part of a key. -/
theorem readKey_dot (h : Spells written name) (limit : Nat) (rest : List Char) :
    readKey (limit + 1) (written ++ '.' :: rest) =
      (readKey limit rest).map fun (place, rest) ↦ ((name :: place.1, place.2), rest) := by
  rw [readKey, h.skipSpace_append, h.reads (Text.forall_head?_cons (by decide))]
  have hdot : isSpace '.' = false := by decide
  simp only [Option.bind_eq_bind, Option.bind_some, skipSpace_cons hdot]
  cases readKey limit rest with
  | none => rfl
  | some found => rfl

/-- A name without a dot behind it is a key, or the last part of one. -/
theorem readKey_last (h : Spells written name) (limit : Nat) {rest : List Char}
    (hrest : ∀ c ∈ rest.head?, isBare c = false) (hdot : ∀ tail, skipSpace rest ≠ '.' :: tail) :
    readKey (limit + 1) (written ++ rest) = some (([], name), skipSpace rest) := by
  rw [readKey, h.skipSpace_append, h.reads hrest]
  simp only [Option.bind_eq_bind, Option.bind_some]
  rfl

end Spells

/-! ## Lines -/

theorem nextLine?_cons (rest : List Char) : nextLine? ('\n' :: rest) = some rest := rfl

/-- The first character of a line that is not blank. -/
def Starts (c : Char) : Prop := c = '[' ∨ Begins c

theorem Starts.ne {c other : Char} (h : Starts c) (hbracket : '[' ≠ other)
    (hother : ¬Begins other) : c ≠ other := by
  rcases h with rfl | h
  · exact hbracket
  · exact h.ne hother

theorem Starts.not_isSpace {c : Char} (h : Starts c) : isSpace c = false := by
  rcases h with rfl | h
  · decide
  · exact h.not_isSpace

theorem nextLine?_eq_none {first : Char} (hfirst : Starts first) (rest : List Char) :
    nextLine? (first :: rest) = none := by
  have hcomment : skipComment (first :: rest) = first :: rest := by
    rw [skipComment]
    rintro tail heq
    exact hfirst.ne (by decide) (by decide) (List.cons.inj heq).1
  have hbreak : readBreak? (first :: rest) = none := by
    rw [readBreak?]
    · rintro tail heq
      exact hfirst.ne (by decide) (by decide) (List.cons.inj heq).1
    · rintro tail heq
      exact hfirst.ne (by decide) (by decide) (List.cons.inj heq).1
  rw [nextLine?, skipSpace_cons hfirst.not_isSpace, hcomment]
  exact hbreak

/-- A text is known by its quote. -/
theorem writeText_begins (cs : List Char) :
    ∃ tail, writeText cs = '"' :: tail ∨ writeText cs = '\'' :: tail := by
  rw [writeText]
  cases textStyle cs with
  | basic => exact ⟨_, .inl rfl⟩
  | literal => exact ⟨_, .inr rfl⟩
  | block => exact ⟨_, .inl rfl⟩
  | literalBlock => exact ⟨_, .inr rfl⟩

theorem skipSpace_writeText (cs rest : List Char) :
    skipSpace (' ' :: (writeText cs ++ rest)) = writeText cs ++ rest := by
  have hspace : skipSpace (' ' :: (writeText cs ++ rest)) = skipSpace (writeText cs ++ rest) := by
    rw [skipSpace, List.dropWhile_cons_of_pos (by decide), skipSpace]
  rw [hspace]
  obtain ⟨tail, hquote | hquote⟩ := writeText_begins cs
  · rw [hquote]
    exact skipSpace_cons (by decide) _
  · rw [hquote]
    exact skipSpace_cons (by decide) _

theorem readValue_writeText (fuel depth : Nat) (content : String) {rest : List Char}
    (hrest : ∀ c ∈ rest.head?, c ≠ '"' ∧ c ≠ '\'') :
    readValue (fuel + 1) depth (writeText content.toList ++ rest) = some (.text content, rest) := by
  have hread := readText_writeText content.toList hrest
  obtain ⟨tail, hquote | hquote⟩ := writeText_begins content.toList
  · rw [hquote, List.cons_append] at hread ⊢
    rw [readValue, hread]
    simp only [Option.bind_eq_bind, Option.bind_some, String.ofList_toList]
    rfl
  · rw [hquote, List.cons_append] at hread ⊢
    rw [readValue, hread]
    simp only [Option.bind_eq_bind, Option.bind_some, String.ofList_toList]
    rfl

variable {outer inner written : List Char} {path key : String} {draft : Draft}

/-- A header of a table below another one. -/
theorem readLine_header (houter : Spells outer path) (hinner : Spells inner key)
    (rest : List Char) :
    readLine draft ('[' :: (outer ++ '.' :: (inner ++ ']' :: '\n' :: rest))) =
      (openTable [path] key draft.root).map fun root ↦ (⟨root, [path, key]⟩, rest) := by
  have hkey : readKey nestingLimit (outer ++ '.' :: (inner ++ ']' :: '\n' :: rest)) =
      some (([path], key), ']' :: '\n' :: rest) := by
    rw [nestingLimit, houter.readKey_dot,
      hinner.readKey_last _ (Text.forall_head?_cons (by decide))]
    · rfl
    · intro tail heq
      cases heq
  rw [readLine, readTableHeader, hkey]
  · simp only [Option.bind_eq_bind, Option.bind_some, readChar, if_true, nextLine?_cons]
    cases openTable [path] key draft.root <;> rfl
  · -- A second bracket would begin the header of an array.
    intro tail heq
    obtain ⟨first, others, rfl, hfirst⟩ := houter.begins
    exact hfirst.ne (by decide) (List.cons.inj heq).1

theorem readLine_append (hkey : Spells written key) (rest : List Char) :
    readLine draft (written ++ rest) = readAssignment draft (written ++ rest) := by
  obtain ⟨first, tail, rfl, hfirst⟩ := hkey.begins
  rw [readLine]
  · intro others heq
    exact hfirst.ne (by decide) (List.cons.inj heq).1
  · intro others heq
    exact hfirst.ne (by decide) (List.cons.inj heq).1

/-- An assignment of a text. -/
theorem readLine_assignment (hkey : Spells written key) (content : String) (rest : List Char) :
    readLine draft (written ++ ' ' :: '=' :: ' ' :: (writeText content.toList ++ '\n' :: rest)) =
      (assignIn draft.current [] key (.text content) draft.root).map fun root ↦
        (⟨root, draft.current⟩, rest) := by
  have hplace (value : List Char) : readKey nestingLimit (written ++ ' ' :: '=' :: ' ' :: value) =
      some (([], key), '=' :: ' ' :: value) := by
    rw [nestingLimit, hkey.readKey_last _ (Text.forall_head?_cons (by decide))]
    · rfl
    · intro tail heq
      cases heq
  have hfeed : ∀ c ∈ ('\n' :: rest).head?, c ≠ '"' ∧ c ≠ '\'' := Text.forall_head?_cons (by decide)
  rw [readLine_append hkey, readAssignment, hplace]
  simp only [Option.bind_eq_bind, Option.bind_some, readChar, if_true, skipSpace_writeText,
    readValue_writeText _ _ content hfeed, nextLine?_cons]
  cases assignIn draft.current [] key (.text content) draft.root <;> rfl

theorem readLines_blank (fuel : Nat) (draft : Draft) (rest : List Char) :
    readLines (fuel + 1) draft ('\n' :: rest) = readLines fuel draft rest := rfl

theorem readLines_nil (fuel : Nat) (draft : Draft) :
    readLines (fuel + 1) draft [] = some draft.root := rfl

/-- **A line is read and the lines behind it go on from there.** -/
theorem readLines_line (fuel : Nat) {cs rest : List Char} {after : Draft}
    (hstarts : ∃ first tail, cs = first :: tail ∧ Starts first)
    (hline : readLine draft cs = some (after, rest)) :
    readLines (fuel + 1) draft cs = readLines fuel after rest := by
  obtain ⟨first, tail, rfl, hfirst⟩ := hstarts
  rw [readLines, skipSpace_cons hfirst.not_isSpace]
  simp only [nextLine?_eq_none hfirst, hline]
  rfl

theorem Spells.starts (h : Spells written key) (rest : List Char) :
    ∃ first tail, written ++ rest = first :: tail ∧ Starts first := by
  obtain ⟨first, tail, rfl, hfirst⟩ := h.begins
  exact ⟨first, tail ++ rest, rfl, .inr hfirst⟩

/-- The lines of a table with two texts, below another table. -/
theorem readLines_pair {first second : List Char} {name other : String}
    (houter : Spells outer path) (hinner : Spells inner name) (hfirst : Spells first key)
    (hsecond : Spells second other) {content content' : String} {opened between after : Entries}
    (hopen : openTable [path] name draft.root = some opened)
    (hput : assignIn [path, name] [] key (.text content) opened = some between)
    (hlast : assignIn [path, name] [] other (.text content') between = some after)
    (fuel : Nat) (rest : List Char) :
    readLines (fuel + 3) draft ('[' :: (outer ++ '.' :: (inner ++ ']' :: '\n' ::
      (first ++ ' ' :: '=' :: ' ' :: (writeText content.toList ++ '\n' ::
        (second ++ ' ' :: '=' :: ' ' :: (writeText content'.toList ++ '\n' :: rest))))))) =
      readLines fuel ⟨after, [path, name]⟩ rest := by
  have hheader (rest : List Char) :
      readLine draft ('[' :: (outer ++ '.' :: (inner ++ ']' :: '\n' :: rest))) =
        some (⟨opened, [path, name]⟩, rest) := by
    rw [readLine_header houter hinner, hopen]
    rfl
  have hone (rest : List Char) : readLine ⟨opened, [path, name]⟩
      (first ++ ' ' :: '=' :: ' ' :: (writeText content.toList ++ '\n' :: rest)) =
        some (⟨between, [path, name]⟩, rest) := by
    rw [readLine_assignment hfirst, hput]
    rfl
  have htwo : readLine ⟨between, [path, name]⟩
      (second ++ ' ' :: '=' :: ' ' :: (writeText content'.toList ++ '\n' :: rest)) =
        some (⟨after, [path, name]⟩, rest) := by
    rw [readLine_assignment hsecond, hlast]
    rfl
  rw [readLines_line (fuel + 2) ⟨_, _, rfl, .inl rfl⟩ (hheader _),
    readLines_line (fuel + 1) (hfirst.starts _) (hone _),
    readLines_line fuel (hsecond.starts _) htwo]

/-! ## Tables -/

/-- An entry of a new key is put at the end. -/
theorem alter_of_new {key : String} {entries : Entries} (hnew : ∀ entry ∈ entries, entry.1 ≠ key)
    (change : Option Item → Option Item) :
    alter key change entries = (change none).map fun item ↦ entries ++ [(key, item)] := by
  induction entries with
  | nil => rfl
  | cons entry entries ih =>
    obtain ⟨hentry, hentries⟩ := List.forall_mem_cons.mp hnew
    rw [alter, if_neg hentry, ih hentries]
    cases change none <;> rfl

/-- The last entry is changed in its place. -/
theorem alter_concat {key : String} {entries : Entries} (hnew : ∀ entry ∈ entries, entry.1 ≠ key)
    (item : Item) (change : Option Item → Option Item) :
    alter key change (entries ++ [(key, item)]) =
      (change (some item)).map fun changed ↦ entries ++ [(key, changed)] := by
  induction entries with
  | nil =>
    rw [List.nil_append, alter, if_pos rfl]
    rfl
  | cons entry entries ih =>
    obtain ⟨hentry, hentries⟩ := List.forall_mem_cons.mp hnew
    rw [List.cons_append, alter, if_neg hentry, ih hentries]
    cases change (some item) <;> rfl

variable {tables : Entries} {name : String}

/-- A header below a table that has no header of its own opens a new table at its end. -/
theorem openTable_of_new (hnew : ∀ entry ∈ tables, entry.1 ≠ name) (path : String) :
    openTable [path] name [(path, .table .implied tables)] =
      some [(path, .table .implied (tables ++ [(name, .table .header [])]))] := by
  rw [openTable, within, alter, if_pos rfl]
  simp only [within, alter_of_new hnew, reduceCtorEq, false_and, if_false, Option.map_some]

/-- An assignment puts its item at the end of the table that was opened last. -/
theorem assignIn_of_new (hnew : ∀ entry ∈ tables, entry.1 ≠ name) {entries : Entries}
    {key : String} (hkey : ∀ entry ∈ entries, entry.1 ≠ key) (path : String) (item : Item) :
    assignIn [path, name] [] key item
        [(path, .table .implied (tables ++ [(name, .table .header entries)]))] =
      some [(path, .table .implied
        (tables ++ [(name, .table .header (entries ++ [(key, item)]))]))] := by
  have hassign : assign [] key item .header entries = some (entries ++ [(key, item)]) := by
    rw [assign, within, if_neg (by decide), define, alter_of_new hkey]
    rfl
  rw [assignIn, within, alter, if_pos rfl]
  simp only [within, alter_concat hnew, hassign, reduceCtorEq, false_and, if_false,
    Option.map_some]

end SqlGateway.Toml
