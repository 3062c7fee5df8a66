import Mathlib.Data.List.Basic
import SqlGateway.Proofs.Template.Splitting

/-!
# Filling in stages

A template may be filled in stages: some tokens first, the others later. The later stage takes apart
a text that the earlier one has written into, so the two agree with filling at once only if the
values of the earlier stage bring no braces. Then no token is made of a value and the text around
it, and the tokens that are left are those that had no replacement.

## Main definitions

* `Template.Whole`: every brace of the text belongs to a token.
* `Template.Braceless`: replacements whose values have no braces.

## Main results

* `Template.fill_in_stages`: two stages are one, what the first one leaves to the second, and that
  the order of the replacements does not matter.
-/

namespace SqlGateway.Template

/-! ## Texts whose braces all belong to tokens -/

namespace Segment

/-- The text of a segment. -/
def text : Segment → List Char
  | .char c => [c]
  | .token name => Template.token name

/-- A token, or a character that is no brace. -/
def Proper : Segment → Prop
  | .char c => c ≠ '\x7b' ∧ c ≠ '\x7d'
  | .token name => IsName name

instance (piece : Segment) : Decidable piece.Proper :=
  match piece with
  | .char c => inferInstanceAs (Decidable (c ≠ '\x7b' ∧ c ≠ '\x7d'))
  | .token name => inferInstanceAs (Decidable (IsName name))

/-- The token that a text with this segment is said to have. -/
def placeholder? : Segment → Option String
  | .char _ => none
  | .token name => some (String.ofList (Template.token name))

end Segment

/-- Every brace of the text belongs to a token. -/
def Whole (text : String) : Prop :=
  ∃ pieces : List Segment, (∀ piece ∈ pieces, piece.Proper) ∧
    text.toList = pieces.flatMap Segment.text

/-- The replacements bring no braces into a text. -/
def Braceless (replacements : List (String × String)) : Prop :=
  ∀ entry ∈ replacements, '\x7b' ∉ entry.2.toList ∧ '\x7d' ∉ entry.2.toList

instance (replacements : List (String × String)) : Decidable (Braceless replacements) :=
  inferInstanceAs (Decidable (∀ entry ∈ replacements, _))

/-- The token is left where it is: no replacement has a key with its name. -/
def isLeft (replacements : List (String × String)) (token : String) : Bool :=
  replacements.all fun entry ↦ keyName entry.1 != keyName token

variable {first second : List (String × String)} {piece : Segment} {pieces : List Segment}

theorem placeholders_eq_filterMap (text : String) :
    placeholders text = (segments text.toList).filterMap Segment.placeholder? := rfl

theorem Braceless.not_mem_of_replacement? {name : List Char} {value : String}
    (h : Braceless first) (hvalue : replacement? first name = some value) :
    '\x7b' ∉ value.toList := by
  obtain ⟨entry, hfound, rfl⟩ := Option.map_eq_some_iff.mp hvalue
  exact (h entry (List.mem_of_find?_eq_some hfound)).1

/-! ## What the first stage leaves -/

/-- The segments of what is written for a piece. -/
def written (replacements : List (String × String)) : Segment → List Segment
  | .char c => [.char c]
  | .token name =>
    match replacement? replacements name with
    | some value => value.toList.map .char
    | none => [.token name]

/-- What is written for a piece is taken apart by itself, whatever comes behind it. -/
theorem segments_fillSegment_append (hpiece : piece.Proper) (hfirst : Braceless first)
    (rest : List Char) :
    segments (fillSegment first piece ++ rest) = written first piece ++ segments rest := by
  cases piece with
  | char c => exact segments_of_ne hpiece.1 rest
  | token name =>
    rw [fillSegment, written]
    cases hvalue : replacement? first name with
    | none => exact segments_token hpiece.2 hpiece.1 rest
    | some value => exact segments_append (hfirst.not_mem_of_replacement? hvalue) rest

theorem segments_flatMap_fillSegment (hpieces : ∀ piece ∈ pieces, piece.Proper)
    (hfirst : Braceless first) :
    segments (pieces.flatMap (fillSegment first)) = pieces.flatMap (written first) := by
  induction pieces with
  | nil => rw [List.flatMap_nil, List.flatMap_nil, segments]
  | cons piece pieces ih =>
    rw [List.flatMap_cons, List.flatMap_cons,
      segments_fillSegment_append (hpieces piece List.mem_cons_self) hfirst,
      ih fun piece hmem ↦ hpieces piece (List.mem_cons_of_mem _ hmem)]

/-- A text is made of its pieces: filling with nothing leaves it. -/
theorem segments_flatMap_text (hpieces : ∀ piece ∈ pieces, piece.Proper) :
    segments (pieces.flatMap Segment.text) = pieces := by
  have htext : Segment.text = fillSegment [] := by
    funext piece
    cases piece <;> rfl
  have hwritten : written [] = fun piece ↦ [piece] := by
    funext piece
    cases piece <;> rfl
  rw [htext, segments_flatMap_fillSegment hpieces fun _ h ↦ absurd h List.not_mem_nil, hwritten,
    List.flatMap_singleton']

/-! ## One piece in two stages -/

theorem replacement?_append (name : List Char) :
    replacement? (first ++ second) name =
      (replacement? first name).or (replacement? second name) := by
  rw [replacement?, List.find?_append, Option.map_or]
  rfl

theorem flatMap_fillSegment_map_char (replacements : List (String × String)) (cs : List Char) :
    (cs.map Segment.char).flatMap (fillSegment replacements) = cs := by
  rw [List.flatMap_map]
  exact List.flatMap_singleton' cs

theorem flatMap_fillSegment_written (piece : Segment) :
    (written first piece).flatMap (fillSegment second) = fillSegment (first ++ second) piece := by
  cases piece with
  | char c => rfl
  | token name =>
    rw [written, fillSegment, replacement?_append]
    cases replacement? first name with
    | none => rw [Option.none_or, List.flatMap_singleton, fillSegment]
    | some value => exact flatMap_fillSegment_map_char second value.toList

theorem keyName_token {name : List Char} (hname : IsName name) :
    keyName (String.ofList (token name)) = name :=
  (keyName_eq_iff hname).mpr ⟨1, 1, String.toList_ofList⟩

theorem isLeft_token {name : List Char} (hname : IsName name) :
    isLeft first (String.ofList (token name)) = (replacement? first name).isNone := by
  rw [Bool.eq_iff_iff, isLeft, keyName_token hname, replacement?, Option.isNone_map,
    Option.isNone_iff_eq_none, List.find?_eq_none, List.all_eq_true]
  simp only [bne_iff_ne, beq_iff_eq]

theorem placeholders_written (hpiece : piece.Proper) :
    (written first piece).filterMap Segment.placeholder? =
      piece.placeholder?.toList.filter (isLeft first) := by
  cases piece with
  | char c => rfl
  | token name =>
    rw [written, Segment.placeholder?, Option.toList_some, List.filter_cons, isLeft_token hpiece]
    cases replacement? first name with
    | none => rfl
    | some value =>
      rw [List.filterMap_map]
      exact List.filterMap_eq_nil_iff.mpr fun _ _ ↦ rfl

theorem placeholders_flatMap_written (hpieces : ∀ piece ∈ pieces, piece.Proper) :
    (pieces.flatMap (written first)).filterMap Segment.placeholder? =
      (pieces.filterMap Segment.placeholder?).filter (isLeft first) := by
  rw [List.filterMap_flatMap, List.filterMap_eq_flatMap_toList, List.filter_flatMap]
  exact List.flatMap_congr fun piece hmem ↦ placeholders_written (hpieces piece hmem)

/-! ## The order of replacements -/

/-- Replacements for different tokens may be given in any order. -/
theorem replacement?_perm {replacements reordered : List (String × String)}
    (hperm : replacements.Perm reordered)
    (hkeys : replacements.Pairwise fun entry other ↦ keyName entry.1 ≠ keyName other.1)
    (name : List Char) : replacement? replacements name = replacement? reordered name := by
  induction hperm with
  | nil => rfl
  | cons entry _ ih =>
    have hrest := ih (List.pairwise_cons.mp hkeys).2
    rw [replacement?, replacement?] at hrest ⊢
    rw [List.find?_cons, List.find?_cons]
    cases keyName entry.1 == name with
    | true => rfl
    | false => exact hrest
  | swap entry other rest =>
    have hne : keyName other.1 ≠ keyName entry.1 :=
      (List.pairwise_cons.mp hkeys).1 entry List.mem_cons_self
    simp only [replacement?, List.find?_cons]
    -- Only one of the two is for the name.
    by_cases hentry : keyName entry.1 = name
    · have hother : keyName other.1 ≠ name := fun h ↦ hne (h.trans hentry.symm)
      rw [beq_iff_eq.mpr hentry, beq_eq_false_iff_ne.mpr hother]
    · rw [beq_eq_false_iff_ne.mpr hentry]
  | trans hleft _ ihLeft ihRight =>
    have hmiddle := hkeys.perm hleft fun h ↦ h.symm
    rw [ihLeft hkeys, ihRight hmiddle]

theorem fillSegment_congr {replacements reordered : List (String × String)}
    (h : ∀ name, replacement? replacements name = replacement? reordered name) :
    fillSegment replacements = fillSegment reordered := by
  funext piece
  cases piece with
  | char c => rfl
  | token name => rw [fillSegment, fillSegment, h]

/-! ## Two stages -/

/-- **Filling in stages.** In a text all of whose braces belong to tokens, the values of a first
stage being without braces, a second stage does what filling at once with the replacements of both
does, and the tokens between the stages are those that the first has no replacement for, in their
order and with their repeats. In any text, replacements for different tokens may be given in any
order. -/
theorem fill_in_stages :
    (∀ (text : String) (first second : List (String × String)), Whole text → Braceless first →
      fill (fill text first) second = fill text (first ++ second) ∧
      placeholders (fill text first) = (placeholders text).filter (isLeft first)) ∧
    ∀ (text : String) (replacements reordered : List (String × String)),
      replacements.Perm reordered →
      (replacements.Pairwise fun entry other ↦ keyName entry.1 ≠ keyName other.1) →
      fill text replacements = fill text reordered := by
  constructor
  · rintro text first second ⟨pieces, hpieces, htext⟩ hfirst
    have hsegments : segments text.toList = pieces := by
      rw [htext, segments_flatMap_text hpieces]
    have hbetween : segments (fill text first).toList = pieces.flatMap (written first) := by
      rw [fill, String.toList_ofList, hsegments, segments_flatMap_fillSegment hpieces hfirst]
    constructor
    · rw [fill, hbetween, fill, hsegments, List.flatMap_assoc]
      exact congrArg (fun f ↦ String.ofList (pieces.flatMap f))
        (funext fun piece ↦ flatMap_fillSegment_written piece)
    · rw [placeholders_eq_filterMap, placeholders_eq_filterMap, hbetween, hsegments,
        placeholders_flatMap_written hpieces]
  · intro text replacements reordered hperm hkeys
    rw [fill, fill, fillSegment_congr (replacement?_perm hperm hkeys)]

/-- The columns of a query in a second stage, with keys in both spellings. -/
theorem fill_in_stages_select :
    fill (fill "SELECT \x7bColumns\x7d FROM \x7bTable\x7d;"
        [("\x7bTable\x7d", "Users"), ("None", "")]) [("Columns", "Id")] =
      fill "SELECT \x7bColumns\x7d FROM \x7bTable\x7d;"
        [("\x7bTable\x7d", "Users"), ("None", ""), ("Columns", "Id")] ∧
    fill "SELECT \x7bColumns\x7d FROM \x7bTable\x7d;"
        [("\x7bTable\x7d", "Users"), ("None", ""), ("Columns", "Id")] =
      fill "SELECT \x7bColumns\x7d FROM \x7bTable\x7d;"
        [("Columns", "Id"), ("None", ""), ("\x7bTable\x7d", "Users")] := by
  have hwhole : Whole "SELECT \x7bColumns\x7d FROM \x7bTable\x7d;" :=
    ⟨"SELECT ".toList.map .char ++ .token "Columns".toList :: " FROM ".toList.map .char ++
      [.token "Table".toList, .char ';'], by decide, by decide⟩
  exact ⟨(fill_in_stages.1 _ _ _ hwhole (by decide)).1,
    fill_in_stages.2 _ _ _ (by decide) (by decide)⟩

end SqlGateway.Template
