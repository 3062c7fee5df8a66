import SqlGateway.Dialect.SqlServer
import SqlGateway.Dialect.Sqlite
import SqlGateway.Proofs.Filter.Collapsing
import SqlGateway.Proofs.Inference.Missing
import SqlGateway.Proofs.Inference.Naming
import SqlGateway.Proofs.Text.Runs

/-!
# Filters and the scanner

A filter writes the name of its parameter into a fragment of SQL, and the scanner has to read the
same name back from it. In between stand the column, wildcards in quotes, their wide prefixes and
the operators that join strings.

## What is passed over

The scanner forgets what it went over as soon as that ends with a character behind which a
placeholder may begin. All that a filter writes in front of its parameter ends with a space or a
parenthesis, and each of its wildcards closes the quote that it opens.

## The name

Collapsing underscores neither adds a character nor loses one altogether, and the first one stays.
So a bound name still reads as a name, and the underscore between the source and the parameter is
still there. No reserved name has one.
-/

namespace SqlGateway

namespace Placeholder

/-! ## Text around a placeholder -/

/-- Text that the scanner goes over without a trace: it finds nothing in it, and what comes behind
is read as if the text began there. -/
def PassedOver (before : List Char) : Prop :=
  ∀ free cs, lookOutside free false (before ++ cs) = lookOutside true false cs

/-- A character that is no quote and introduces nothing. -/
def Inert (c : Char) : Prop := c ≠ '@' ∧ c ≠ '\''

instance (c : Char) : Decidable (Inert c) := inferInstanceAs (Decidable (_ ∧ _))

theorem inert_of_all {cs : List Char} (h : cs.all (fun c ↦ decide (Inert c)) = true) :
    ∀ c ∈ cs, Inert c :=
  fun c hc ↦ of_decide_eq_true (List.all_eq_true.mp h c hc)

theorem lookOutside_of_inert {c : Char} (h : Inert c) (free : Bool) (cs : List Char) :
    lookOutside free false (c :: cs) = lookOutside (admits c) false cs := by
  have hat : (c == '@') = false := beq_false_of_ne h.1
  have hquote : (c == '\'') = false := beq_false_of_ne h.2
  rw [lookOutside, insideBehind, hat, hquote]
  simp only [Bool.and_false, Bool.false_and, Bool.false_eq_true, if_false]

namespace PassedOver

variable {before after : List Char}

theorem append (hbefore : PassedOver before) (hafter : PassedOver after) :
    PassedOver (before ++ after) := by
  intro free cs
  rw [List.append_assoc, hbefore, hafter]

theorem singleton {c : Char} (h : Inert c) (hadmits : admits c = true) : PassedOver [c] := by
  intro free cs
  rw [List.singleton_append, lookOutside_of_inert h, hadmits]

theorem inert_append (h : ∀ c ∈ before, Inert c) (hafter : PassedOver after) :
    PassedOver (before ++ after) := by
  induction before with
  | nil => exact hafter
  | cons c before ih =>
    intro free cs
    rw [List.cons_append, List.cons_append, lookOutside_of_inert (h c List.mem_cons_self)]
    exact ih (fun d hd ↦ h d (List.mem_cons_of_mem c hd)) _ cs

theorem of_inert {cs : List Char} (h : ∀ c ∈ cs, Inert c)
    (hlast : ∃ c ∈ cs.getLast?, admits c = true) : PassedOver cs := by
  obtain ⟨last, hmem, hadmits⟩ := hlast
  obtain ⟨init, rfl⟩ := List.getLast?_eq_some_iff.mp hmem
  have hend : PassedOver [last] := singleton (h last (by simp)) hadmits
  exact inert_append (fun c hc ↦ h c (List.mem_append_left _ hc)) hend

/-- A wildcard opens a literal and closes it again. -/
theorem wildcard : PassedOver ['\'', '%', '\''] := by
  intro free cs
  have hcloses : ('%' :: '\'' :: cs).contains '\'' = true := by simp
  rw [List.cons_append, List.cons_append, List.cons_append, List.nil_append, lookOutside_quote,
    hcloses, Bool.not_false, Bool.true_and, lookOutside_of_inside (by decide), lookOutside_quote,
    Bool.not_true, Bool.false_and]

end PassedOver

theorem lookOutside_eq_nil {cs : List Char} (h : '@' ∉ cs) (free inside : Bool) :
    lookOutside free inside cs = [] := by
  induction cs generalizing free inside with
  | nil => rfl
  | cons c cs ih =>
    have hat : (c == '@') = false := beq_false_of_ne fun heq ↦ h (heq ▸ List.mem_cons_self)
    rw [lookOutside, hat, ih fun hmem ↦ h (List.mem_cons_of_mem c hmem)]
    simp only [Bool.and_false, Bool.false_and, Bool.false_eq_true, if_false]

/-- What reads as a name: a letter or an underscore, then letters, digits and underscores. -/
structure IsName (name : List Char) : Prop where
  first : ∃ c, name.head? = some c ∧ Text.isNameStart c = true
  rest : ∀ c ∈ name, Text.isNameRest c = true

/-- A text with a single placeholder: what is in front of it is passed over, and behind it the name
ends and no other `@` comes. -/
def Marks (text name : List Char) : Prop :=
  ∃ before after, text = before ++ '@' :: (name ++ after) ∧ PassedOver before ∧ '@' ∉ after ∧
    ∀ c ∈ after.head?, Text.isNameRest c = false

theorem IsName.not_mem {name : List Char} (h : IsName name) : '@' ∉ name :=
  fun hmem ↦ absurd (h.rest '@' hmem) (by decide)

theorem Marks.lookOutside {text name : List Char} (h : Marks text name) (hname : IsName name) :
    lookOutside true false text = [name] := by
  obtain ⟨before, after, rfl, hbefore, hafter, hends⟩ := h
  have hnamed : named (name ++ after) = true := by
    obtain ⟨c, hfirst, hstart⟩ := hname.first
    rw [named, List.head?_append, hfirst]
    exact hstart
  have hnone : '@' ∉ name ++ after := by
    rw [List.mem_append, not_or]
    exact ⟨hname.not_mem, hafter⟩
  rw [hbefore, Placeholder.lookOutside, lookOutside_eq_nil hnone, hnamed,
    Text.takeWhile_run hname.rest hends]
  rfl

theorem scan_eq (sql : String) :
    scan sql = dedupe ((lookOutside true false sql.toList).map String.ofList) := by
  rw [scan, occurrences_eq_lookBehind, lookBehind_stripLiterals]

theorem scan_of_marks {sql name : String} (h : Marks sql.toList name.toList)
    (hname : IsName name.toList) : scan sql = [name] := by
  rw [scan_eq, h.lookOutside hname, List.map_singleton, String.ofList_toList]
  rfl

theorem scan_eq_nil {sql : String} (h : '@' ∉ sql.toList) : scan sql = [] := by
  rw [scan_eq, lookOutside_eq_nil h]
  rfl

end Placeholder

namespace Filter

open Placeholder (Inert IsName Marks PassedOver inert_of_all)

/-! ## Names of bound parameters -/

section boundName

variable {source param : String}

/-- A bound name reads as a name if its parts do, but for the first character of the parameter. -/
theorem isName_boundName (hstart : ∀ c ∈ source.toList.head?, Text.isNameStart c = true)
    (hsource : ∀ c ∈ source.toList, Text.isNameRest c = true)
    (hparam : ∀ c ∈ param.toList, Text.isNameRest c = true) :
    IsName (boundName source param).toList where
  first := by
    rw [boundName, String.toList_ofList, head?_collapse]
    cases hchars : source.toList with
    | nil => exact ⟨'_', rfl, by decide⟩
    | cons c cs => exact ⟨c, rfl, hstart c (by rw [hchars]; rfl)⟩
  rest := by
    intro c hmem
    rcases mem_boundName.mp hmem with hmem | rfl | hmem
    · exact hsource c hmem
    · decide
    · exact hparam c hmem

/-- No reserved name has an underscore. -/
theorem sameName_boundName {reserved : String} (h : reserved ∈ ["InsertedTable", "MasterId"]) :
    Text.sameName reserved (boundName source param) = false := by
  refine eq_false_of_ne_true fun hsame ↦ ?_
  have hmem : '_' ∈ Text.folded (boundName source param) :=
    List.mem_map.mpr ⟨'_', mem_boundName.mpr (.inr (.inl rfl)), by decide⟩
  rw [← Text.sameName_iff.mp hsame] at hmem
  have hnone : ∀ reserved ∈ ["InsertedTable", "MasterId"], '_' ∉ Text.folded reserved := by decide
  exact hnone reserved h hmem

end boundName

/-! ## Fragments -/

/-- A dialect that marks parameters with `@` and whose other pieces hold neither `@` nor a quote. -/
structure Marking (dialect : Dialect) : Prop where
  marker : dialect.marker = '@'
  wideLiteral : ∀ c ∈ dialect.wideLiteral.toList, Inert c
  concatOperator : ∀ c ∈ dialect.concatOperator.toList, Inert c

theorem marking_sqlServer : Marking .sqlServer where
  marker := rfl
  wideLiteral := inert_of_all (by decide)
  concatOperator := inert_of_all (by decide)

theorem marking_sqlite : Marking .sqlite where
  marker := rfl
  wideLiteral := inert_of_all (by decide)
  concatOperator := inert_of_all (by decide)

section compile

variable {dialect : Dialect} {column : String} (hdialect : Marking dialect)
  (hcolumn : ∀ c ∈ column.toList, Inert c)

include hdialect in
/-- The wildcard of a pattern is passed over, be it wide or not. -/
theorem passedOver_wildcard (ty : DbType) :
    PassedOver ((if ty.isWideString then dialect.wideLiteral else "") ++ "'%'").toList := by
  rw [String.toList_append]
  refine .inert_append (fun c hc ↦ ?_) .wildcard
  split at hc
  next => exact hdialect.wideLiteral c hc
  next => exact absurd hc (by simp)

include hdialect in
/-- So is the operator that joins a wildcard to a value. -/
theorem passedOver_joined : PassedOver (" " ++ dialect.concatOperator ++ " ").toList := by
  rw [String.toList_append, String.toList_append, List.append_assoc]
  refine .inert_append (inert_of_all (by decide)) (.inert_append hdialect.concatOperator ?_)
  exact .singleton (by decide) (by decide)

include hdialect in
theorem not_mem_joined_wildcard (ty : DbType) :
    '@' ∉ (" " ++ dialect.concatOperator ++ " " ++
      ((if ty.isWideString then dialect.wideLiteral else "") ++ "'%'")).toList := by
  have hwide : '@' ∉ (if ty.isWideString then dialect.wideLiteral else "").toList := by
    split
    next => exact fun hmem ↦ (hdialect.wideLiteral '@' hmem).1 rfl
    next => simp
  have hconcat : '@' ∉ dialect.concatOperator.toList :=
    fun hmem ↦ (hdialect.concatOperator '@' hmem).1 rfl
  simp [hwide, hconcat]

include hdialect hcolumn in
/-- What stands in front of the parameter and behind it decides. -/
theorem marks_fragment (symbol name after : String) (hsymbol : PassedOver symbol.toList)
    (hafter : '@' ∉ after.toList) (hends : ∀ c ∈ after.toList.head?, Text.isNameRest c = false) :
    Marks (column ++ symbol ++ (dialect.marker.toString ++ name) ++ after).toList name.toList := by
  have hbefore : PassedOver (column.toList ++ symbol.toList) := .inert_append hcolumn hsymbol
  refine ⟨_, _, ?_, hbefore, hafter, hends⟩
  rw [hdialect.marker]
  simp [String.toList_append]

include hdialect hcolumn in
/-- **A fragment with a parameter holds its bound name, and no other.** -/
theorem marks_compile {operator : CompareOperator} (h : operator.takesParameter = true)
    (source param : String) (ty : DbType) :
    Marks (compile dialect operator source column param ty).toList
      (boundName source param).toList := by
  have hwildcard := passedOver_wildcard hdialect ty
  have hjoined := passedOver_joined hdialect
  have hbehind := not_mem_joined_wildcard hdialect ty
  have hspace (symbol : String) (hinert : symbol.toList.all (fun c ↦ decide (Inert c)) = true)
      (hends : ' ' ∈ symbol.toList.getLast?) : PassedOver symbol.toList :=
    .of_inert (inert_of_all hinert) ⟨' ', hends, by decide⟩
  have hlike : PassedOver " LIKE ".toList := hspace " LIKE " (by decide) (by decide)
  have hpattern := hlike.append (hwildcard.append hjoined)
  simp only [← String.toList_append] at hpattern
  have hmarks (symbol after : String) :=
    marks_fragment hdialect hcolumn symbol (boundName source param) after
  have hcompare (symbol : String) (hsymbol : PassedOver symbol.toList) :=
    hmarks symbol "" hsymbol (by decide) (by simp)
  simp only [String.append_empty] at hcompare
  have hclosing : ∀ c ∈ ")".toList.head?, Text.isNameRest c = false := by
    simp
    decide
  cases operator with
  | isNull | isNotNull | unknown => cases h
  | startsWith =>
    have hwritten := hmarks " LIKE " _ hlike hbehind (by simp; decide)
    simpa only [compile, String.append_assoc] using hwritten
  | endsWith =>
    have hwritten := hcompare _ hpattern
    simpa only [compile, String.append_assoc] using hwritten
  | contains =>
    have hwritten := hmarks _ _ hpattern hbehind (by simp; decide)
    simpa only [compile, String.append_assoc] using hwritten
  | equal => exact hcompare " = " (hspace " = " (by decide) (by decide))
  | notEqual => exact hcompare " != " (hspace " != " (by decide) (by decide))
  | lessThan => exact hcompare " < " (hspace " < " (by decide) (by decide))
  | lessThanOrEqual => exact hcompare " <= " (hspace " <= " (by decide) (by decide))
  | moreThan => exact hcompare " > " (hspace " > " (by decide) (by decide))
  | moreThanOrEqual => exact hcompare " >= " (hspace " >= " (by decide) (by decide))
  | isIn =>
    have hlist : PassedOver " IN (".toList :=
      .of_inert (inert_of_all (by decide)) ⟨'(', by decide, by decide⟩
    exact hmarks " IN (" ")" hlist (by decide) hclosing
  | isNotIn =>
    have hlist : PassedOver " NOT IN (".toList :=
      .of_inert (inert_of_all (by decide)) ⟨'(', by decide, by decide⟩
    exact hmarks " NOT IN (" ")" hlist (by decide) hclosing

include hcolumn in
/-- A fragment without a parameter has no `@` that the column did not bring. -/
theorem not_mem_compile {operator : CompareOperator} (h : operator.takesParameter = false)
    (dialect : Dialect) (source param : String) (ty : DbType) :
    '@' ∉ (compile dialect operator source column param ty).toList := by
  have hnone : '@' ∉ column.toList := fun hmem ↦ (hcolumn '@' hmem).1 rfl
  cases operator with
  | isNull => simp [compile, hnone]
  | isNotNull => simp [compile, hnone]
  | unknown => simp [compile]
  | _ => cases h

end compile

/-! ## Agreement -/

/-- A parameter that was made under some spelling of a name leaves nothing to make up for it. -/
theorem infer_eq_supplied {sql name : String} (hscan : Placeholder.scan sql = [name])
    {supplied : List Parameter} {p : Parameter} (hmem : p ∈ supplied)
    (hnamed : p.isNamed name = true) : Inference.infer sql supplied = supplied := by
  have hfound : supplied.any (·.isNamed name) = true := List.any_eq_true.mpr ⟨p, hmem, hnamed⟩
  have hmissing : ¬Inference.isMissing supplied name = true := by
    rw [Inference.isMissing, hfound, Bool.not_true, Bool.and_false]
    exact Bool.false_ne_true
  rw [Inference.infer, hscan, List.filter_cons_of_neg hmissing, List.filter_nil, List.map_nil,
    List.append_nil]

/-- **Filters and inference agree on names.** The scanner finds the bound name in a fragment and
nothing else; one parameter is made up for it, unless one is supplied under the name in some case
and with some markers. Where the operator takes no parameter, nothing is found or made up. -/
theorem infer_compile {dialect : Dialect} (hdialect : dialect = .sqlServer ∨ dialect = .sqlite)
    (operator : CompareOperator) (ty : DbType) {source column param : String}
    (hstart : ∀ c ∈ source.toList.head?, Text.isNameStart c = true)
    (hsource : ∀ c ∈ source.toList, Text.isNameRest c = true)
    (hparam : ∀ c ∈ param.toList, Text.isNameRest c = true)
    (hcolumn : '@' ∉ column.toList ∧ '\'' ∉ column.toList) :
    let sql := compile dialect operator source column param ty
    let name := boundName source param
    (operator.takesParameter = true →
      Placeholder.scan sql = [name] ∧
      Inference.infer sql [] = [⟨name, .nVarChar, some 4000, .null⟩] ∧
      (∀ reserved ∈ ["InsertedTable", "MasterId"], Text.sameName reserved name = false) ∧
      ∀ markers other, (∀ c ∈ markers, c = '@' ∨ c = ':' ∨ c = '$') →
        Text.sameName other name = true →
        ∀ supplied, (∃ p ∈ supplied, p.name = Parameter.bareName (String.ofList markers ++ other)) →
          Inference.infer sql supplied = supplied) ∧
    (operator.takesParameter = false →
      Placeholder.scan sql = [] ∧ Inference.infer sql [] = []) := by
  intro sql name
  have hmarking : Marking dialect := by
    rcases hdialect with rfl | rfl
    · exact marking_sqlServer
    · exact marking_sqlite
  have hinert : ∀ c ∈ column.toList, Inert c := fun c hc ↦
    ⟨fun heq ↦ hcolumn.1 (heq ▸ hc), fun heq ↦ hcolumn.2 (heq ▸ hc)⟩
  constructor
  · intro htakes
    have hname : IsName name.toList := isName_boundName hstart hsource hparam
    have hscan : Placeholder.scan sql = [name] :=
      Placeholder.scan_of_marks (marks_compile hmarking hinert htakes source param ty) hname
    have hreserved : ∀ reserved ∈ ["InsertedTable", "MasterId"],
        Text.sameName reserved name = false := fun reserved hmem ↦ sameName_boundName hmem
    have hbare : Parameter.bareName name = name := by
      obtain ⟨c, hfirst, hletter⟩ := hname.first
      exact Parameter.bareName_of_isNameStart hfirst hletter
    refine ⟨hscan, ?_, hreserved, ?_⟩
    · have hmissing : Inference.isMissing [] name = true := by
        rw [Inference.isMissing, (Inference.isReserved_eq_false_iff name).mpr hreserved]
        rfl
      rw [Inference.infer, hscan, List.nil_append, List.filter_cons_of_pos hmissing,
        List.filter_nil, List.map_singleton, Inference.placeholderParameter_eq hbare]
    · rintro markers other hmarkers hsame supplied ⟨p, hmem, hmade⟩
      have hismarker : ∀ c ∈ markers, Parameter.isMarker c = true :=
        fun c hc ↦ Parameter.isMarker_iff.mpr (hmarkers c hc)
      have hnamed : p.isNamed name = true := by
        rw [Parameter.isNamed, hmade]
        exact Parameter.sameName_append hismarker hsame
      exact infer_eq_supplied hscan hmem hnamed
  · intro htakes
    have hscan : Placeholder.scan sql = [] :=
      Placeholder.scan_eq_nil (not_mem_compile hinert htakes dialect source param ty)
    rw [Inference.infer, hscan]
    exact ⟨rfl, rfl⟩

/-- A pattern of wide characters whose name is collapsed, and a parameter in another spelling. -/
theorem infer_compile_contains :
    let sql := compile .sqlServer .contains "Users_" "[u].[Name]" "_Name" .nVarChar
    sql = "[u].[Name] LIKE N'%' + @Users_Name + N'%'" ∧
      Placeholder.scan sql = ["Users_Name"] ∧
      Inference.infer sql [] = [⟨"Users_Name", .nVarChar, some 4000, .null⟩] ∧
      Inference.infer sql [.named ":@USERS_name" .int .null] =
        [⟨"USERS_name", .int, none, .null⟩] := by
  intro sql
  have hbound : boundName "Users_" "_Name" = "Users_Name" := by
    rw [boundName, collapse, if_pos (by decide), collapse, if_pos (by decide), collapse,
      if_neg (by decide)]
    decide
  have hstart : ∀ c ∈ "Users_".toList.head?, Text.isNameStart c = true := by
    simp
    decide
  have hsource : ∀ c ∈ "Users_".toList, Text.isNameRest c = true :=
    List.all_eq_true.mp (by decide)
  have hparam : ∀ c ∈ "_Name".toList, Text.isNameRest c = true := List.all_eq_true.mp (by decide)
  obtain ⟨hscan, hinfer, -, hsupplied⟩ := (@infer_compile .sqlServer (.inl rfl) .contains .nVarChar
    "Users_" "[u].[Name]" "_Name" hstart hsource hparam (by decide)).1 rfl
  rw [hbound] at hscan hinfer hsupplied
  refine ⟨?_, hscan, hinfer, ?_⟩
  · simp only [sql, compile, hbound]
    decide
  · refine hsupplied [':', '@'] "USERS_name" (by simp) (by decide) _ ?_
    exact ⟨_, List.mem_singleton_self _, rfl⟩

end Filter

end SqlGateway
