import Mathlib.Data.List.Pairwise
import SqlGateway.Proofs.Encoding.Lossless
import SqlGateway.Proofs.Inference.Binding
import SqlGateway.Proofs.Inference.Naming

/-!
# Names kept without markers

A parameter answers to a name only if its own name is kept without markers. Making a parameter drops
them, and so every parameter that was made answers to its name. Reading a parameter from a document
does not: the name is taken as it stands, whatever it begins with.

What follows for a placeholder is decided by the supplied parameters whose names are kept bare. The
first of them with the name is what inference, look-up and binding all go by. If there is none, then
`NULL` is made up and bound, though a parameter may have been supplied under the name with a marker
in front of it.
-/

namespace SqlGateway

namespace Parameter

/-- The name is kept without markers. -/
def Bare (p : Parameter) : Prop := ∀ c ∈ p.name.toList.head?, c ≠ '@' ∧ c ≠ ':' ∧ c ≠ '$'

instance (p : Parameter) : Decidable p.Bare :=
  decidable_of_iff
    (p.name.toList.head?.all fun c ↦ decide (c ≠ '@' ∧ c ≠ ':' ∧ c ≠ '$')) <| by
    rw [Bare, Option.all_eq_true]
    simp only [decide_eq_true_eq, Option.mem_def]

/-- A bare name does not begin with a marker. -/
theorem isMarker_of_mem_bareName {name : String} {c : Char}
    (h : c ∈ (bareName name).toList.head?) : isMarker c = false := by
  rw [bareName, String.toList_ofList] at h
  have hfirst := List.head?_dropWhile_not isMarker name.toList
  rwa [h] at hfirst

theorem Bare.bareName_name {p : Parameter} (h : p.Bare) : bareName p.name = p.name :=
  bareName_eq_self fun c hc ↦ isMarker_eq_false_iff.mpr (h c hc)

theorem Made.bare {p : Parameter} (h : p.Made) : p.Bare := by
  intro c hc
  rw [← h.bareName_name] at hc
  exact isMarker_eq_false_iff.mp (isMarker_of_mem_bareName hc)

/-- Case hides no marker: what is called like a bare name is bare. -/
theorem bare_of_isNamed {p : Parameter} {name : String} (h : p.isNamed name = true) : p.Bare := by
  intro c hc
  have hfirst : (bareName name).toList.head?.map Char.toLower = some c.toLower := by
    have hfolded := congrArg List.head? (Text.sameName_iff.mp h)
    rw [Text.folded, Text.folded, List.head?_map, List.head?_map, hc] at hfolded
    exact hfolded.symm
  obtain ⟨d, hd, hlower⟩ := Option.map_eq_some_iff.mp hfirst
  rw [← isMarker_eq_false_iff, ← isMarker_toLower, ← hlower, isMarker_toLower]
  exact isMarker_of_mem_bareName hd

/-- **A parameter answers to a name** if its own name is kept without markers and is the same. -/
theorem isNamed_iff (p : Parameter) (name : String) :
    p.isNamed name = true ↔ p.Bare ∧ Text.sameName p.name (bareName name) = true :=
  ⟨fun h ↦ ⟨bare_of_isNamed h, h⟩, fun h ↦ h.2⟩

theorem isNamed_self_iff (p : Parameter) : p.isNamed p.name = true ↔ p.Bare := by
  refine ⟨bare_of_isNamed, fun h ↦ ?_⟩
  rw [isNamed, h.bareName_name, Text.sameName_self]

/-! ## Parameters in documents -/

/-- **Any name may be read from a document**, and it is taken as it stands. -/
theorem ofJsonText?_toJsonText (name value : String) :
    ofJsonText? Parameter (toJsonText (⟨name, .nVarChar, none, .string value⟩ : Parameter)) =
      some ⟨name, .nVarChar, none, .string value⟩ :=
  (kept_parameter (p := ⟨name, .nVarChar, none, .string value⟩) trivial).ofJsonText?

end Parameter

namespace Inference

open Parameter (bareName)

/-! ## What a placeholder stands for -/

/-- The first of the supplied parameters that is kept under a name in some case. -/
def bearer? (supplied : List Parameter) (name : String) : Option Parameter :=
  supplied.find? fun p ↦ p.Bare ∧ Text.sameName p.name name = true

section bearer

variable {sql name written : String} {supplied : List Parameter}

theorem find?_isNamed (supplied : List Parameter) (written : String) :
    supplied.find? (·.isNamed written) = bearer? supplied (bareName written) := by
  refine congrArg supplied.find? (funext fun p ↦ ?_)
  rw [Bool.eq_iff_iff, decide_eq_true_iff]
  exact Parameter.isNamed_iff p written

theorem bearer?_congr (h : Text.sameName written name = true) :
    bearer? supplied written = bearer? supplied name := by
  refine congrArg supplied.find? (funext fun p ↦ ?_)
  rw [Text.sameName, Text.sameName, Text.sameName_iff.mp h]

theorem find?_of_bearer? (hwritten : Text.sameName (bareName written) name = true) :
    supplied.find? (·.isNamed written) = bearer? supplied name := by
  rw [find?_isNamed, bearer?_congr hwritten]

/-- A scanned name is spelled like itself. -/
theorem sameName_scanned (hscan : name ∈ Placeholder.scan sql) :
    Text.sameName (bareName name) name = true := by
  rw [Placeholder.bareName_of_mem_scan hscan, Text.sameName_self]

theorem isMissing_iff_bearer? (hscan : name ∈ Placeholder.scan sql) :
    isMissing supplied name = true ↔ isReserved name = false ∧ bearer? supplied name = none := by
  rw [isMissing, Bool.and_eq_true, Bool.not_eq_true', Bool.not_eq_true',
    ← find?_of_bearer? (sameName_scanned hscan), List.any_eq_false, List.find?_eq_none]

/-- Nothing is made up for a name that has a bearer. -/
theorem sameName_of_mem_inferred {p made : Parameter} (hbearer : bearer? supplied name = some p)
    (hmade : made ∈ inferred sql supplied) : Text.sameName made.name name = false := by
  obtain ⟨scanned, hscanned, rfl⟩ := List.mem_map.mp hmade
  obtain ⟨hscan, hmissing⟩ := List.mem_filter.mp hscanned
  obtain ⟨-, hnone⟩ := (isMissing_iff_bearer? hscan).mp hmissing
  refine eq_false_of_ne_true fun hsame ↦ ?_
  rw [placeholderParameter_eq (Placeholder.bareName_of_mem_scan hscan)] at hsame
  rw [bearer?_congr hsame, hbearer] at hnone
  cases hnone

/-- One parameter is made up for a name without a bearer. -/
theorem find?_inferred (hscan : name ∈ Placeholder.scan sql)
    (hwritten : Text.sameName (bareName written) name = true)
    (hmissing : isMissing supplied name = true) :
    (inferred sql supplied).find? (·.isNamed written) =
      some ⟨name, .nVarChar, some 4000, .null⟩ := by
  have hmem : placeholderParameter name ∈ inferred sql supplied :=
    List.mem_map.mpr ⟨name, List.mem_filter.mpr ⟨hscan, hmissing⟩, rfl⟩
  have hnamed : (placeholderParameter name).isNamed written = true := by
    rw [placeholderParameter_eq (Placeholder.bareName_of_mem_scan hscan), Parameter.isNamed,
      Text.sameName_comm]
    exact hwritten
  obtain ⟨found, hfound⟩ : ∃ found,
      (inferred sql supplied).find? (·.isNamed written) = some found :=
    Option.isSome_iff_exists.mp (List.find?_isSome.mpr ⟨_, hmem, hnamed⟩)
  obtain ⟨other, hother, rfl⟩ := List.mem_map.mp (List.mem_of_find?_eq_some hfound)
  have hotherScan := (List.mem_filter.mp hother).1
  have hotherNamed := List.find?_some hfound
  rw [placeholderParameter_eq (Placeholder.bareName_of_mem_scan hotherScan)] at hfound hotherNamed
  have hsame : Text.sameName other name = true := Text.sameName_trans hotherNamed hwritten
  -- The scanner keeps one spelling of a name, so the one found is this one.
  have heq : other = name := by
    by_contra hne
    have hsymm : Std.Symm fun a b ↦ Text.sameName a b = false :=
      ⟨fun a b hab ↦ (Text.sameName_comm b a).trans hab⟩
    have hdiffers := (Placeholder.dedupe_pairwise _).forall hotherScan hscan hne
    rw [hsame] at hdiffers
    cases hdiffers
  rw [hfound, heq]

theorem masterId_of_not_reserved (h : isReserved name = false)
    (hwritten : Text.sameName (bareName written) name = true) :
    Text.sameName (bareName written) Sqlite.masterId = false := by
  rw [isReserved_eq_false_iff] at h
  refine eq_false_of_ne_true fun hmaster ↦ ?_
  rw [Text.sameName_comm] at hmaster
  have hreserved := Text.sameName_trans hmaster hwritten
  rw [h Sqlite.masterId (by decide)] at hreserved
  cases hreserved

end bearer

/-- **A parameter is recognised if its name is kept bare, and only then.** A parameter that was made
keeps its name bare; one that was read from a document keeps the name of the document. Inference,
look-up and binding all take a placeholder to stand for the first supplied parameter that is kept
under its name, however it is written; if there is none, it stands for `NULL`. -/
theorem recognition (p : Parameter) (sql : String) (supplied : List Parameter) :
    ((p.Made → p.Bare) ∧ (p.isNamed p.name = true ↔ p.Bare) ∧
      ∀ markers name other, (∀ c ∈ markers, c = '@' ∨ c = ':' ∨ c = '$') →
        Text.sameName name other = true →
        p.isNamed (String.ofList markers ++ name) = p.isNamed other) ∧
    (∀ name value, ∃ text,
      ofJsonText? Parameter text = some ⟨name, .nVarChar, none, .string value⟩) ∧
    ∀ name written label transaction, name ∈ Placeholder.scan sql →
      Text.sameName (bareName written) name = true →
      let command : Command := ⟨sql, label, infer sql supplied, transaction⟩
      (bearer? supplied name = some p →
        (∀ made ∈ inferred sql supplied, Text.sameName made.name name = false) ∧
        command.parameter? written = some p ∧
        ∀ h, Sqlite.bindVariable h command.parameters (some written) = .ok (.ofValue p.value)) ∧
      (bearer? supplied name = none → isReserved name = false →
        command.parameter? written = some ⟨name, .nVarChar, some 4000, .null⟩ ∧
        ∀ h, Sqlite.bindVariable h command.parameters (some written) = .ok .null) := by
  refine ⟨⟨fun hmade ↦ hmade.bare, p.isNamed_self_iff, ?_⟩, ?_, ?_⟩
  · intro markers name other hmarkers hsame
    have hismarker : ∀ c ∈ markers, Parameter.isMarker c = true :=
      fun c hc ↦ Parameter.isMarker_iff.mpr (hmarkers c hc)
    exact p.isNamed_congr (Parameter.sameName_append hismarker hsame)
  · intro name value
    exact ⟨_, Parameter.ofJsonText?_toJsonText name value⟩
  intro name written label transaction hscan hwritten command
  have hfound : supplied.find? (·.isNamed written) = bearer? supplied name :=
    find?_of_bearer? hwritten
  have hbound : supplied.find? (·.isNamed (bareName written)) = bearer? supplied name :=
    find?_of_bearer? (by rw [Parameter.bareName_bareName, hwritten])
  constructor
  · intro hbearer
    refine ⟨fun made hmade ↦ sameName_of_mem_inferred hbearer hmade, ?_, fun h ↦ ?_⟩
    · rw [Command.parameter?, find?_infer, hfound, hbearer, Option.some_or]
    · rw [Sqlite.bindVariable_infer]
      simp only [Sqlite.bindVariable, hbound, hbearer]
  · intro hnone hreserved
    have hmissing : isMissing supplied name = true :=
      (isMissing_iff_bearer? hscan).mpr ⟨hreserved, hnone⟩
    have hmaster := masterId_of_not_reserved hreserved hwritten
    refine ⟨?_, fun h ↦ ?_⟩
    · rw [Command.parameter?, find?_infer, hfound, hnone, Option.none_or,
        find?_inferred hscan hwritten hmissing]
    · rw [Sqlite.bindVariable_infer]
      simp only [Sqlite.bindVariable, hbound, hnone, hmaster]
      rfl

/-- A document whose parameter is named `@Id`. Nothing asks for it successfully, and a statement
that refers to `@Id` is bound to `NULL` in its place; a parameter made under the same name is found.
-/
theorem recognition_marked :
    let text := "\x7b\"name\":\"@Id\",\"db_type\":\"NVarChar\",\"size\":null," ++
      "\"value\":\x7b\"String\":\"x\"\x7d\x7d"
    let stored : Parameter := ⟨"@Id", .nVarChar, none, .string "x"⟩
    let made := Parameter.named "@Id" .nVarChar (.string "x")
    ofJsonText? Parameter text = some stored ∧
      stored.isNamed "@Id" = false ∧ stored.isNamed "Id" = false ∧
      (Command.ofSql "SELECT @Id" (infer "SELECT @Id" [stored])).parameter? "@Id" =
        some ⟨"Id", .nVarChar, some 4000, .null⟩ ∧
      Sqlite.bindVariable (.ofStore []) (infer "SELECT @Id" [stored]) (some "@Id") = .ok .null ∧
      Sqlite.bindVariable (.ofStore []) (infer "SELECT @Id" [made]) (some "@Id") =
        .ok (.ofValue (.string "x")) := by
  intro text stored made
  have htext : toJsonText stored = text := by decide +kernel
  have hread : ofJsonText? Parameter text = some stored :=
    htext ▸ Parameter.ofJsonText?_toJsonText "@Id" "x"
  have hscan : "Id" ∈ Placeholder.scan "SELECT @Id" := by
    rw [Placeholder.scan, Placeholder.occurrences_eq_lookBehind,
      Placeholder.lookBehind_stripLiterals]
    decide
  have hall (p : Parameter) :=
    (recognition p "SELECT @Id" [p]).2.2 "Id" "@Id" "" none hscan (by decide)
  have hnone : bearer? [stored] "Id" = none :=
    Option.isNone_iff_eq_none.mp (by decide)
  have hmade : bearer? [made] "Id" = some made := List.find?_cons_of_pos (by decide)
  obtain ⟨hfound, hbound⟩ := (hall stored).2 hnone (by decide)
  obtain ⟨-, -, hvalue⟩ := (hall made).1 hmade
  exact ⟨hread, by decide, by decide, hfound, hbound _, hvalue _⟩

end Inference

end SqlGateway
