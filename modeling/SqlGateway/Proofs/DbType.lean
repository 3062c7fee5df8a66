import SqlGateway.FieldType
import SqlGateway.Proofs.Text.Trimming

/-!
# What a declaration declares

A declaration is taken apart in an order that shows: first the size is cut off at the first
parenthesis, then whitespace, and then brackets. So there may be whitespace around the brackets, but
none between them and the name. Taking a text apart always succeeds, and the one question is what is
left for a name.

Every type has a canonical name, and a few have others. No two types share a name, so a text that
declares a type declares no other one.
-/

namespace SqlGateway

namespace DbType

/-! ## Names -/

/-- The names of a type besides the canonical one. -/
def otherNames : DbType → List String
  | bigInt => ["integer"]
  | bit => ["bool", "boolean"]
  | decimal => ["numeric"]
  | float => ["double"]
  | varBinary => ["blob"]
  | _ => []

/-- A text is the canonical name of a type or another one of its names, in any case. -/
def HasName (ty : DbType) (name : String) : Prop :=
  ∃ spelling ∈ ty.sqlName :: ty.otherNames, Text.sameName name spelling = true

theorem mem_all (ty : DbType) : ty ∈ (Enumeration.all : List DbType) := by
  cases ty <;> decide

theorem aliases_eq : aliases =
    (Enumeration.all : List DbType).flatMap fun ty ↦ ty.otherNames.map fun other ↦ (other, ty) := by
  decide

theorem mem_names {name : String} {ty : DbType} :
    (name, ty) ∈ names ↔ name ∈ ty.sqlName :: ty.otherNames := by
  rw [names, List.mem_append, aliases_eq, List.mem_cons, List.mem_map, List.mem_flatMap]
  constructor
  · rintro (⟨ty', -, heq⟩ | ⟨ty', -, hother⟩)
    · obtain ⟨rfl, rfl⟩ := Prod.mk.inj heq
      exact .inl rfl
    · obtain ⟨other, hmem, heq⟩ := List.mem_map.mp hother
      obtain ⟨rfl, rfl⟩ := Prod.mk.inj heq
      exact .inr hmem
  · rintro (rfl | hother)
    · exact .inl ⟨ty, mem_all ty, rfl⟩
    · exact .inr ⟨ty, mem_all ty, List.mem_map_of_mem hother⟩

/-- Every name is the first one of its spelling, and is written in lower case with characters that
are neither cut off nor trimmed. -/
theorem names_distinct : ∀ entry ∈ names,
    names.find? (fun other ↦ other.1.toList == entry.1.toList) = some entry ∧
      Text.folded entry.1 = entry.1.toList ∧ entry.1.toList ≠ [] ∧
      entry.1.toList.all fun c ↦ Text.isBlank c = false ∧ c ∉ ['(', '[', ']'] := by
  decide +kernel

theorem hasName_iff {ty : DbType} {name : String} : ty.HasName name ↔
    (names.find? fun entry ↦ entry.1.toList == Text.folded name).map Prod.snd = some ty := by
  constructor
  · rintro ⟨spelling, hspelling, hsame⟩
    obtain ⟨hfind, hfolded, -⟩ := names_distinct (spelling, ty) (mem_names.mpr hspelling)
    rw [Text.sameName_iff.mp hsame, hfolded, hfind]
    rfl
  · intro h
    obtain ⟨⟨spelling, ty'⟩, hfind, rfl⟩ := Option.map_eq_some_iff.mp h
    have hmem := List.mem_of_find?_eq_some hfind
    have hspelling : spelling.toList = Text.folded name := by
      simpa only [beq_iff_eq] using List.find?_some hfind
    refine ⟨spelling, mem_names.mp hmem, Text.sameName_iff.mpr ?_⟩
    rw [(names_distinct _ hmem).2.1, hspelling]

theorem hasName_sqlName {ty : DbType} {name : String}
    (h : Text.sameName name ty.sqlName = true) : ty.HasName name :=
  ⟨ty.sqlName, List.mem_cons_self, h⟩

/-- **No two types share a name.** -/
theorem HasName.unique {ty ty' : DbType} {name : String} (h : ty.HasName name)
    (h' : ty'.HasName name) : ty = ty' :=
  Option.some.inj ((hasName_iff.mp h).symm.trans (hasName_iff.mp h'))

/-- Characters that are neither cut off nor trimmed. -/
structure IsPlain (name : List Char) : Prop where
  ne_nil : name ≠ []
  not_blank : ∀ c ∈ name, Text.isBlank c = false
  not_mem : ∀ c ∈ name, c ∉ ['(', '[', ']']

theorem HasName.isPlain {ty : DbType} {name : String} (h : ty.HasName name) :
    IsPlain name.toList := by
  obtain ⟨spelling, hspelling, hsame⟩ := h
  obtain ⟨-, hfolded, hne, hplain⟩ := names_distinct (spelling, ty) (mem_names.mpr hspelling)
  rw [← hfolded, ← Text.sameName_iff.mp hsame, Text.folded] at hne hplain
  have hlower {c : Char} (hc : c ∈ name.toList) :=
    of_decide_eq_true (List.all_eq_true.mp hplain c.toLower (List.mem_map_of_mem hc))
  have hkept : ['(', '[', ']'].map Char.toLower = ['(', '[', ']'] := by decide
  refine ⟨fun hnil ↦ hne (by rw [hnil]; rfl), fun c hc ↦ ?_, fun c hc hmem ↦ ?_⟩
  · rw [← Text.isBlank_toLower]
    exact (hlower hc).1
  · refine (hlower hc).2 ?_
    rw [← hkept]
    exact List.mem_map_of_mem hmem

/-! ## Declarations -/

/-- A declaration in its parts: a name in brackets, with whitespace around it, and a size behind a
parenthesis. -/
structure Declaration where
  before : List Char
  opening : Nat
  name : String
  closing : Nat
  behind : List Char
  /-- What stands behind the first parenthesis, if there is one. -/
  size : Option (List Char)
  before_blank : ∀ c ∈ before, Text.isBlank c = true
  behind_blank : ∀ c ∈ behind, Text.isBlank c = true

/-- What stands from the first parenthesis on. -/
def sizeText : Option (List Char) → List Char
  | none => []
  | some size => '(' :: size

namespace Declaration

/-- The name with its brackets. -/
def bracketed (d : Declaration) : List Char :=
  List.replicate d.opening '[' ++ (d.name.toList ++ List.replicate d.closing ']')

/-- The declaration as it is written. -/
def text (d : Declaration) : String :=
  String.ofList (d.before ++ (d.bracketed ++ d.behind) ++ sizeText d.size)

variable (d : Declaration) (h : IsPlain d.name.toList)

include h

theorem bracketed_ne_nil : d.bracketed ≠ [] := by
  intro hnil
  obtain ⟨-, hrest⟩ := List.append_eq_nil_iff.mp hnil
  exact h.ne_nil (List.append_eq_nil_iff.mp hrest).1

/-- Nothing between the outer brackets is whitespace. -/
theorem not_blank_of_mem_bracketed {c : Char} (hc : c ∈ d.bracketed) : Text.isBlank c = false := by
  rw [bracketed, List.mem_append, List.mem_append] at hc
  rcases hc with hopening | hname | hclosing
  · rw [List.eq_of_mem_replicate hopening]
    decide
  · exact h.not_blank c hname
  · rw [List.eq_of_mem_replicate hclosing]
    decide

theorem bracketed_ends : (∀ c ∈ d.bracketed.head?, Text.isBlank c = false) ∧
    ∀ c ∈ d.bracketed.getLast?, Text.isBlank c = false := by
  constructor
  · intro c hc
    exact d.not_blank_of_mem_bracketed h (List.mem_of_mem_head? hc)
  · intro c hc
    exact d.not_blank_of_mem_bracketed h (List.mem_of_mem_getLast? hc)

/-- The first parenthesis is that of the size. -/
theorem not_paren_mem : '(' ∉ d.before ++ (d.bracketed ++ d.behind) := by
  have hblank : Text.isBlank '(' = false := by decide
  intro hc
  rw [bracketed] at hc
  simp only [List.mem_append] at hc
  rcases hc with hbefore | (hopening | hname | hclosing) | hbehind
  · exact Bool.false_ne_true (hblank.symm.trans (d.before_blank _ hbefore))
  · exact absurd (List.eq_of_mem_replicate hopening) (by decide)
  · exact h.not_mem _ hname (by decide)
  · exact absurd (List.eq_of_mem_replicate hclosing) (by decide)
  · exact Bool.false_ne_true (hblank.symm.trans (d.behind_blank _ hbehind))

end Declaration

theorem head?_sizeText {size : Option (List Char)} :
    ∀ c ∈ (sizeText size).head?, decide (c ≠ '(') = false := by
  cases size with
  | none => exact fun c hc ↦ nomatch hc
  | some size => exact Text.forall_head?_cons (by decide)

theorem exists_sizeText (cs : List Char) :
    ∃ size, cs.dropWhile (· ≠ '(') = sizeText size := by
  cases hrest : cs.dropWhile (· ≠ '(') with
  | nil => exact ⟨none, rfl⟩
  | cons c size =>
    have hc : decide (c ≠ '(') = false := Text.not_of_mem_head?_dropWhile (by rw [hrest]; rfl)
    obtain rfl : c = '(' := by simpa using hc
    exact ⟨some size, rfl⟩

/-- **Every text can be taken apart**, whether it declares a type or not. -/
theorem exists_declaration (text : String) :
    ∃ d : Declaration, d.text = text ∧ d.name.toList = baseName text.toList := by
  obtain ⟨size, hsize⟩ := exists_sizeText text.toList
  obtain ⟨before, behind, hfront, hbefore, hbehind⟩ :=
    Text.exists_eq_append_trimBlank (text.toList.takeWhile (· ≠ '('))
  obtain ⟨opening, closing, hbase⟩ := Text.exists_eq_replicate_append '[' ']'
    (Text.trimBlank (text.toList.takeWhile (· ≠ '(')))
  refine ⟨⟨before, opening, String.ofList (baseName text.toList), closing, behind, size, hbefore,
    hbehind⟩, String.toList_inj.mp ?_, String.toList_ofList⟩
  rw [Declaration.text, Declaration.bracketed, String.toList_ofList, String.toList_ofList, baseName,
    ← hbase, ← hfront, ← hsize, List.takeWhile_append_dropWhile]

/-- A name is found between what is around it, if it is none of that itself. -/
theorem baseName_text {d : Declaration} (h : IsPlain d.name.toList) :
    baseName d.text.toList = d.name.toList := by
  have hcut : d.text.toList.takeWhile (· ≠ '(') = d.before ++ (d.bracketed ++ d.behind) := by
    rw [Declaration.text, String.toList_ofList]
    refine Text.takeWhile_run (fun c hc ↦ decide_eq_true ?_) head?_sizeText
    rintro rfl
    exact d.not_paren_mem h hc
  have htrimmed : Text.trimBlank (d.before ++ (d.bracketed ++ d.behind)) = d.bracketed := by
    obtain ⟨hfirst, hlast⟩ := d.bracketed_ends h
    refine (Text.trimBlank_eq_iff (d.bracketed_ne_nil h) hfirst hlast _).mpr ?_
    exact ⟨d.before, d.behind, rfl, d.before_blank, d.behind_blank⟩
  rw [baseName, hcut, htrimmed]
  exact Text.dropEndWhile_dropWhile_replicate h.ne_nil (fun hmem ↦ h.not_mem _ hmem (by decide))
    (fun hmem ↦ h.not_mem _ hmem (by decide)) d.opening d.closing

/-- A text declares a type: it can be taken apart so that a name of the type is left. -/
def Declares (text : String) (ty : DbType) : Prop :=
  ∃ d : Declaration, d.text = text ∧ ty.HasName d.name

variable {text : String} {ty ty' : DbType}

theorem parse?_eq_some_iff : parse? text = some ty ↔ Declares text ty := by
  have hname (d : Declaration) (hbase : d.name.toList = baseName text.toList) :
      parse? text = some ty ↔ ty.HasName d.name := by
    rw [hasName_iff, Text.folded, hbase]
    rfl
  constructor
  · intro hparse
    obtain ⟨d, htext, hbase⟩ := exists_declaration text
    exact ⟨d, htext, (hname d hbase).mp hparse⟩
  · rintro ⟨d, rfl, h⟩
    exact (hname d (baseName_text h.isPlain).symm).mpr h

theorem parse_eq_ok_iff : parse text = .ok ty ↔ Declares text ty := by
  rw [← parse?_eq_some_iff, parse]
  cases parse? text with
  | none => exact iff_of_false (fun h ↦ nomatch h) fun h ↦ nomatch h
  | some found => rw [Except.ok.injEq, Option.some.injEq]

theorem parse?_eq_none_iff : parse? text = none ↔ ∀ ty, ¬Declares text ty := by
  simp only [← parse?_eq_some_iff, Option.eq_none_iff_forall_ne_some]

theorem parse_eq_error_iff : parse text = .error ⟨text⟩ ↔ ∀ ty, ¬Declares text ty := by
  rw [← parse?_eq_none_iff, parse]
  cases parse? text with
  | none => exact iff_of_true rfl rfl
  | some found => exact iff_of_false (fun h ↦ nomatch h) fun h ↦ nomatch h

theorem Declares.unique (h : Declares text ty) (h' : Declares text ty') : ty = ty' :=
  Option.some.inj ((parse?_eq_some_iff.mpr h).symm.trans (parse?_eq_some_iff.mpr h'))

theorem ofDeclaration_of_declares (h : Declares text ty) :
    FieldType.ofDeclaration text = FieldType.ofDbType ty := by
  rw [FieldType.ofDeclaration, parse?_eq_some_iff.mpr h]
  rfl

theorem ofDeclaration_of_not_declares (h : ∀ ty, ¬Declares text ty) :
    FieldType.ofDeclaration text = "String" := by
  rw [FieldType.ofDeclaration, parse?_eq_none_iff.mpr h]
  rfl

/-- **A declaration is read as the type that it names**, and a text that names none is refused and
quoted as it is. No text names two types, the canonical name of a type may be decorated in any way,
and the field that a declaration makes is of the type that it names. -/
theorem parse_declares (text : String) :
    (∀ ty, parse text = .ok ty ↔ Declares text ty) ∧
    (parse text = .error ⟨text⟩ ↔ ∀ ty, ¬Declares text ty) ∧
    (∀ ty ty', Declares text ty → Declares text ty' → ty = ty') ∧
    (∀ ty (d : Declaration), d.text = text → Text.sameName d.name ty.sqlName = true →
      parse text = .ok ty) ∧
    (∀ ty, Declares text ty → FieldType.ofDeclaration text = FieldType.ofDbType ty) ∧
    ((∀ ty, ¬Declares text ty) → FieldType.ofDeclaration text = "String") := by
  refine ⟨fun ty ↦ parse_eq_ok_iff, parse_eq_error_iff, fun ty ty' ↦ Declares.unique, ?_,
    fun ty ↦ ofDeclaration_of_declares, ofDeclaration_of_not_declares⟩
  intro ty d htext hsame
  exact parse_eq_ok_iff.mpr ⟨d, htext, hasName_sqlName hsame⟩

/-- Whitespace, two brackets on either side, and whitespace before the size. -/
theorem parse_declares_decimal : parse "\t[[Numeric]] (18, 2)" = .ok .decimal ∧
    FieldType.ofDeclaration "\t[[Numeric]] (18, 2)" = "f64" ∧
    parse "[ numeric ]" = .error ⟨"[ numeric ]"⟩ ∧
    FieldType.ofDeclaration "[ numeric ]" = "String" := by
  have hdeclares : Declares "\t[[Numeric]] (18, 2)" .decimal :=
    ⟨⟨['\t'], 2, "Numeric", 2, [' '], some "18, 2)".toList,
      List.forall_mem_singleton.mpr (by decide), List.forall_mem_singleton.mpr (by decide)⟩,
      by decide, "numeric", by decide, by decide⟩
  obtain ⟨hparse, -, -, -, hfield, -⟩ := parse_declares "\t[[Numeric]] (18, 2)"
  obtain ⟨-, hrefused, -, -, -, hfallback⟩ := parse_declares "[ numeric ]"
  have hnone : parse "[ numeric ]" = .error ⟨"[ numeric ]"⟩ := by decide
  exact ⟨(hparse _).mpr hdeclares, hfield _ hdeclares, hnone, hfallback (hrefused.mp hnone)⟩

end DbType

end SqlGateway
