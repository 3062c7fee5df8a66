import Mathlib.Data.List.Induction
import SqlGateway.Proofs.Placeholder.LookBehind

/-!
# The placeholders of a text by their places

Which placeholders a text has is said place by place, of the whole text and without a scanner: by
the quotes before the place, the characters around it, and the placeholders before it. The scanner
finds the names at these places, in the order of the places.

## Quotes

A place is outside literals if the quotes before it come in pairs. If the text has an odd number of
them, then the last quote has no partner and what comes behind it is outside, too.
-/

namespace SqlGateway.Placeholder

/-! ## Places -/

/-- The number of quotes before a place. -/
def quotesBefore (cs : List Char) (i : Nat) : Nat := (cs.take i).count '\''

/-- A place is outside literals: the quotes before it come in pairs, or there is no other quote. -/
def Outside (cs : List Char) (i : Nat) : Prop :=
  quotesBefore cs i % 2 = 0 ∨ quotesBefore cs i = cs.count '\''

instance (cs : List Char) (i : Nat) : Decidable (Outside cs i) :=
  inferInstanceAs (Decidable (_ ∨ _))

/-- A placeholder begins at a place: there is an `@`, in front of it nothing at all or a character
that is neither `@` nor part of a word, and behind it the first character of a name. -/
def Begins (cs : List Char) (i : Nat) : Prop :=
  cs[i]? = some '@' ∧ (i = 0 ∨ ∃ c ∈ cs[i - 1]?, c ≠ '@' ∧ Text.isWord c = false) ∧
    ∃ c ∈ cs[i + 1]?, Text.isNameStart c = true

-- Left to instance search, `∃ c` may be decided by running through all characters.
instance (cs : List Char) (i : Nat) : Decidable (Begins cs i) :=
  have : Decidable (∃ c ∈ cs[i - 1]?, c ≠ '@' ∧ Text.isWord c = false) :=
    Option.decidableExistsMem _
  have : Decidable (∃ c ∈ cs[i + 1]?, Text.isNameStart c = true) :=
    Option.decidableExistsMem _
  inferInstanceAs (Decidable (_ ∧ (_ ∨ _) ∧ _))

/-- The characters of the name behind an `@` at a place, as many as there are. -/
def nameBehind (cs : List Char) (i : Nat) : List Char :=
  (cs.drop (i + 1)).takeWhile Text.isNameRest

/-- The name of the placeholder at a place. -/
def nameAt (cs : List Char) (i : Nat) : String := String.ofList (nameBehind cs i)

/-- The places of placeholders outside literals. -/
def places (cs : List Char) : List Nat :=
  (List.range cs.length).filter fun i ↦ Outside cs i ∧ Begins cs i

/-- The places at which a name comes for the first time in any case. -/
def firstPlaces (cs : List Char) : List Nat :=
  (List.range cs.length).filter fun i ↦ (Outside cs i ∧ Begins cs i) ∧
    ∀ j < i, Outside cs j ∧ Begins cs j → Text.sameName (nameAt cs j) (nameAt cs i) = false

/-! ## The scanner stands at a place -/

theorem outside_length_append (before cs : List Char) :
    Outside (before ++ cs) before.length ↔ before.count '\'' % 2 = 0 ∨ '\'' ∉ cs := by
  rw [Outside, quotesBefore, List.take_left, List.count_append, ← List.count_eq_zero]
  refine or_congr_right ?_
  constructor
  · intro h
    omega
  · intro h
    omega

theorem outside_length_succ_append (before : List Char) (c : Char) (cs : List Char) :
    Outside (before ++ c :: cs) (before.length + 1) ↔
      (before.count '\'' + if c = '\'' then 1 else 0) % 2 = 0 ∨ '\'' ∉ cs := by
  have h := outside_length_append (before ++ [c]) cs
  rw [List.append_assoc, List.length_append, List.count_append, List.count_singleton] at h
  simpa using h

theorem insideBehind_eq (before : List Char) (c : Char) (cs : List Char) :
    insideBehind (!decide (Outside (before ++ c :: cs) before.length)) c cs =
      !decide (Outside (before ++ c :: cs) (before.length + 1)) := by
  rw [Bool.eq_iff_iff]
  simp only [outside_length_succ_append, outside_length_append, insideBehind]
  by_cases hc : c = '\''
  · subst hc
    have hparity := Nat.mod_two_eq_zero_or_one (before.count '\'')
    simp
    omega
  · simp [hc, Ne.symm hc]

theorem begins_length_append (before : List Char) (c : Char) (cs : List Char) :
    Begins (before ++ c :: cs) before.length ↔
      (before.getLast?.all admits = true ∧ (c == '@') = true) ∧ named cs = true := by
  have hhere : (before ++ c :: cs)[before.length]? = some c := by simp
  have hnext : (before ++ c :: cs)[before.length + 1]? = cs.head? := by
    rw [List.getElem?_append_right (by omega)]
    simp [List.head?_eq_getElem?]
  have hfront : (before.length = 0 ∨ ∃ d ∈ (before ++ c :: cs)[before.length - 1]?,
      d ≠ '@' ∧ Text.isWord d = false) ↔ before.getLast?.all admits = true := by
    rcases List.eq_nil_or_concat before with rfl | ⟨front, d, rfl⟩
    · simp
    · simp [admits]
  rw [Begins, hhere, hnext, hfront]
  simp only [named, Option.some.injEq, Option.mem_def, beq_iff_eq, Option.any_eq_true]
  rw [and_assoc, and_left_comm]

theorem lookOutside_eq_map (before cs : List Char) :
    lookOutside (before.getLast?.all admits) (!decide (Outside (before ++ cs) before.length)) cs =
      ((List.range' before.length cs.length).filter fun i ↦
        Outside (before ++ cs) i ∧ Begins (before ++ cs) i).map (nameBehind (before ++ cs)) := by
  induction cs generalizing before with
  | nil => rfl
  | cons c cs ih =>
    -- The scanner moves on: `c` is now the last character before it.
    have hnext := ih (before ++ [c])
    rw [List.append_assoc, List.length_append, List.getLast?_concat] at hnext
    have hname : nameBehind (before ++ c :: cs) before.length = cs.takeWhile Text.isNameRest := by
      rw [nameBehind, ← List.drop_drop, List.drop_left]
      rfl
    rw [lookOutside, insideBehind_eq, List.length_cons, List.range'_succ, List.filter_cons]
    simp only [Bool.not_not, decide_eq_true_eq, Bool.and_eq_true, List.singleton_append,
      List.length_singleton, Option.all_some] at hnext ⊢
    rw [hnext]
    simp only [← begins_length_append]
    by_cases hplace : Outside (before ++ c :: cs) before.length ∧
        Begins (before ++ c :: cs) before.length
    · rw [if_pos hplace, if_pos hplace, List.map_cons, hname]
    · rw [if_neg hplace, if_neg hplace]

/-- The names outside literals are those at the places. -/
theorem lookOutside_eq_places (cs : List Char) :
    lookOutside true false cs = (places cs).map (nameBehind cs) := by
  have h := lookOutside_eq_map [] cs
  have hstart : Outside ([] ++ cs) ([] : List Char).length := .inl rfl
  rw [decide_eq_true hstart] at h
  rw [places, List.range_eq_range']
  exact h

/-! ## Repeats -/

theorem dedupe_concat (names : List String) (name : String) :
    dedupe (names ++ [name]) =
      if (dedupe names).any (Text.sameName · name) then dedupe names
      else dedupe names ++ [name] := by
  rw [dedupe, List.foldl_append]
  rfl

/-- What is left out repeats what is kept. -/
theorem any_dedupe (names : List String) (name : String) :
    (dedupe names).any (Text.sameName · name) = names.any (Text.sameName · name) := by
  induction names using List.reverseRecOn generalizing name with
  | nil => rfl
  | append_singleton names last ih =>
    rw [dedupe_concat, ih, List.any_append, List.any_cons, List.any_nil, Bool.or_false]
    by_cases hseen : names.any (Text.sameName · last) = true
    · rw [if_pos hseen, ih]
      cases hsame : Text.sameName last name with
      | false => rw [Bool.or_false]
      | true =>
        obtain ⟨earlier, hmem, hearlier⟩ := List.any_eq_true.mp hseen
        rw [Bool.or_true]
        exact List.any_eq_true.mpr ⟨earlier, hmem, Text.sameName_trans hearlier hsame⟩
    · rw [if_neg hseen, List.any_append, ih, List.any_cons, List.any_nil, Bool.or_false]

/-- Of names at increasing places those are kept that did not come at an earlier place. -/
theorem dedupe_map {indices : List Nat} (h : indices.Pairwise (· < ·)) (f : Nat → String) :
    dedupe (indices.map f) =
      (indices.filter fun i ↦ ∀ j ∈ indices, j < i → Text.sameName (f j) (f i) = false).map f := by
  induction indices using List.reverseRecOn with
  | nil => rfl
  | append_singleton indices last ih =>
    obtain ⟨hindices, -, hlast⟩ := List.pairwise_append.mp h
    have hlt (j : Nat) (hj : j ∈ indices) : j < last :=
      hlast j hj last (List.mem_singleton_self last)
    -- What is decided of the earlier indices does not depend on the last one.
    have hkeep : ∀ i ∈ indices,
        decide (∀ j ∈ indices ++ [last], j < i → Text.sameName (f j) (f i) = false) =
          decide (∀ j ∈ indices, j < i → Text.sameName (f j) (f i) = false) := by
      intro i hi
      rw [decide_eq_decide, List.forall_mem_append, List.forall_mem_singleton]
      exact and_iff_left fun hbehind ↦ absurd hbehind (Nat.lt_asymm (hlt i hi))
    have hfresh : (∀ j ∈ indices ++ [last], j < last → Text.sameName (f j) (f last) = false) ↔
        ¬(indices.map f).any (Text.sameName · (f last)) = true := by
      rw [List.forall_mem_append, List.forall_mem_singleton, List.any_map, List.any_eq_true]
      constructor
      · rintro ⟨hall, -⟩ ⟨j, hj, hsame⟩
        exact Bool.false_ne_true ((hall j hj (hlt j hj)).symm.trans hsame)
      · intro hnone
        refine ⟨fun j hj _ ↦ ?_, fun hbehind ↦ absurd hbehind (Nat.lt_irrefl last)⟩
        exact eq_false_of_ne_true fun hsame ↦ hnone ⟨j, hj, hsame⟩
    rw [List.map_append, List.map_singleton, dedupe_concat, any_dedupe, ih hindices,
      List.filter_append, List.filter_congr hkeep, List.map_append]
    by_cases hseen : (indices.map f).any (Text.sameName · (f last)) = true
    · rw [if_pos hseen, List.filter_cons_of_neg, List.filter_nil, List.map_nil, List.append_nil]
      exact fun h ↦ hfresh.mp (of_decide_eq_true h) hseen
    · rw [if_neg hseen, List.filter_cons_of_pos, List.filter_nil, List.map_singleton]
      exact decide_eq_true (hfresh.mpr hseen)

/-- The first places are those among all places that no earlier one of the same name precedes. -/
theorem firstPlaces_eq_filter (cs : List Char) :
    firstPlaces cs = (places cs).filter fun i ↦
      ∀ j ∈ places cs, j < i → Text.sameName (nameAt cs j) (nameAt cs i) = false := by
  rw [firstPlaces, places, List.filter_filter]
  refine List.filter_congr fun i hi ↦ ?_
  rw [← Bool.decide_and, decide_eq_decide, and_comm]
  refine and_congr_left fun _ ↦ ⟨fun h j hj hlt ↦ ?_, fun h j hlt hplace ↦ ?_⟩
  · exact h j hlt (of_decide_eq_true (List.mem_filter.mp hj).2)
  · have hj : j ∈ List.range cs.length :=
      List.mem_range.mpr (Nat.lt_trans hlt (List.mem_range.mp hi))
    exact h j (List.mem_filter.mpr ⟨hj, decide_eq_true hplace⟩) hlt

/-- **The scanner finds the placeholders outside literals**, in the order of the places at which
their names come first. -/
theorem scan_eq_firstPlaces (sql : String) :
    scan sql = (firstPlaces sql.toList).map (nameAt sql.toList) := by
  have hplaces : (places sql.toList).Pairwise (· < ·) := List.pairwise_lt_range.filter _
  have hnames : (occurrences true (stripLiterals sql.toList)).map String.ofList =
      (places sql.toList).map (nameAt sql.toList) := by
    rw [occurrences_eq_lookBehind, lookBehind_stripLiterals, lookOutside_eq_places, List.map_map]
    rfl
  rw [scan, hnames, dedupe_map hplaces, firstPlaces_eq_filter]

end SqlGateway.Placeholder
