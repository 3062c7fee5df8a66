import SqlGateway.Placeholder

/-!
# Placeholders by looking behind

The scanner takes literals out of a text first and then uses up what it matches, the character in
front of an `@` included. Neither is needed to say which names it finds. Here it is shown equal to a
scanner that goes through the text as it stands, character by character, and decides at each `@` by
the character in front of it, the one behind it and whether it is inside a literal.

## Matches that use up characters

A match could hide the next one only if it used up the character in front of its `@`. What it uses
up last is a character of a name, behind which no placeholder begins anyway.

## Literals

Inside and outside change at every quote. A doubled quote leaves a literal and enters the next one
at once, between which nothing can stand; so it does not matter that the matcher of literals goes on
over it. Only the last quote may have no partner, and it opens nothing: the matcher gives back the
doubled quotes it went over until the literal closes, and these are never more than one.
-/

namespace SqlGateway

namespace Text

theorem val_lt_of_isAlpha {c : Char} (h : c.isAlpha = true) : c.val < 128 := by
  rcases (Bool.or_eq_true c.isUpper c.isLower).mp h with h | h
  · have hupper : 'A'.val ≤ c.val ∧ c.val ≤ 'Z'.val := of_decide_eq_true h
    exact UInt32.lt_of_le_of_lt hupper.2 (by decide)
  · have hlower : c.val ≤ 'z'.val := of_decide_eq_true ((Bool.and_eq_true _ _).mp h).2
    exact UInt32.lt_of_le_of_lt hlower (by decide)

theorem val_lt_of_isNameRest {c : Char} (h : isNameRest c = true) : c.val < 128 := by
  rw [isNameRest, Bool.or_eq_true] at h
  rcases h with h | h
  · rcases (Bool.or_eq_true c.isAlpha c.isDigit).mp h with h | h
    · exact val_lt_of_isAlpha h
    · have hdigit : c.val ≤ '9'.val := of_decide_eq_true ((Bool.and_eq_true _ _).mp h).2
      exact UInt32.lt_of_le_of_lt hdigit (by decide)
  · rw [beq_iff_eq.mp h]
    decide

theorem isWord_of_isNameRest {c : Char} (h : isNameRest c = true) : isWord c = true := by
  rw [isWord, if_pos (val_lt_of_isNameRest h)]
  exact h

end Text

namespace Placeholder

/-! ## Matches that use up characters -/

/-- Whether a name stands here. -/
def named (cs : List Char) : Bool := cs.head?.any Text.isNameStart

/-- The names in a text without literals. `free` says whether an `@` at the front begins one. -/
def lookBehind (free : Bool) : List Char → List (List Char)
  | [] => []
  | c :: cs =>
    let names := lookBehind (admits c) cs
    if free && c == '@' && named cs then cs.takeWhile Text.isNameRest :: names else names

theorem nameAt?_cons (c : Char) (cs : List Char) :
    nameAt? (c :: cs) = if c == '@' && named cs then
      some (cs.takeWhile Text.isNameRest, cs.dropWhile Text.isNameRest) else none := by
  by_cases hat : c = '@'
  · subst hat
    cases cs with
    | nil => rfl
    | cons d cs =>
      by_cases hstart : Text.isNameStart d
      · have hrest := Text.isNameRest_of_isNameStart hstart
        simp [nameAt?, named, hstart, hrest]
      · simp [nameAt?, named, hstart]
  · have hnone : nameAt? (c :: cs) = none := by
      unfold nameAt?
      split
      next h => exact absurd (List.cons.inj h).1 hat
      next => rfl
    simp [hnone, hat]

theorem not_admits_of_isNameRest {c : Char} (h : Text.isNameRest c = true) : admits c = false := by
  rw [admits, Text.isWord_of_isNameRest h, Bool.not_true, Bool.and_false]

/-- No placeholder begins within a name or right behind it. -/
theorem lookBehind_dropWhile (cs : List Char) :
    lookBehind false (cs.dropWhile Text.isNameRest) = lookBehind false cs := by
  induction cs with
  | nil => rfl
  | cons c cs ih =>
    by_cases hname : Text.isNameRest c
    · rw [List.dropWhile_cons_of_pos hname, ih, lookBehind, not_admits_of_isNameRest hname]
      rfl
    · rw [List.dropWhile_cons_of_neg hname]

theorem lookBehind_cons_of_named {free : Bool} {c : Char} {cs : List Char}
    (h : (free && c == '@' && named cs) = true) :
    lookBehind free (c :: cs) =
      cs.takeWhile Text.isNameRest :: lookBehind false (cs.dropWhile Text.isNameRest) := by
  have hat : c = '@' := by
    simp only [Bool.and_eq_true, beq_iff_eq] at h
    exact h.1.2
  have hadmits : admits c = false := by
    rw [hat]
    rfl
  rw [lookBehind, if_pos h, hadmits, lookBehind_dropWhile]

theorem lookBehind_cons_of_not_named {free : Bool} {c : Char} {cs : List Char}
    (h : ¬(free && c == '@' && named cs) = true) :
    lookBehind free (c :: cs) = lookBehind (admits c) cs := by
  rw [lookBehind, if_neg h]

theorem lookBehind_of_nameAt? {cs name rest : List Char} (h : nameAt? cs = some (name, rest)) :
    lookBehind true cs = name :: lookBehind false rest := by
  cases cs with
  | nil => cases h
  | cons c cs =>
    rw [nameAt?_cons] at h
    split at h
    next hnamed =>
      cases h
      exact lookBehind_cons_of_named hnamed
    next => cases h

theorem lookBehind_of_nameAt?_eq_none {cs : List Char} (h : nameAt? cs = none) (free : Bool) :
    lookBehind free cs = lookBehind false cs := by
  cases cs with
  | nil => rfl
  | cons c cs =>
    rw [nameAt?_cons] at h
    split at h
    next => cases h
    next hnamed =>
      have hnot (free : Bool) : ¬(free && c == '@' && named cs) = true := by
        rw [Bool.and_assoc, Bool.and_eq_true]
        exact fun hall ↦ hnamed hall.2
      rw [lookBehind_cons_of_not_named (hnot free), lookBehind_cons_of_not_named (hnot false)]

theorem matchFront?_cons (free : Bool) (c : Char) (cs : List Char) :
    matchFront? free (c :: cs) =
      if free && c == '@' && named cs then
        some (cs.takeWhile Text.isNameRest, cs.dropWhile Text.isNameRest)
      else if admits c then nameAt? cs else none := by
  rw [matchFront?, nameAt?_cons]
  cases free with
  | false => rfl
  | true =>
    by_cases hnamed : (c == '@' && named cs) = true
    · simp only [hnamed, Bool.true_and, if_true]
    · simp only [hnamed, Bool.true_and, if_true, Bool.false_eq_true, if_false]

/-- **Using up matches loses nothing.** -/
theorem occurrences_eq_lookBehind (free : Bool) (cs : List Char) :
    occurrences free cs = lookBehind free cs := by
  fun_induction occurrences free cs with
  | case1 => rfl
  | case2 free c tail name rest h ih =>
    rw [matchFront?_cons] at h
    split at h
    next hnamed =>
      cases h
      rw [ih, lookBehind_cons_of_named hnamed]
    next hnamed =>
      rw [lookBehind_cons_of_not_named hnamed]
      split at h
      -- The character in front was used up, and the name is behind the next one.
      next hadmits => rw [ih, hadmits, lookBehind_of_nameAt? h]
      next => cases h
  | case3 free c tail h ih =>
    rw [matchFront?_cons] at h
    split at h
    next => cases h
    next hnamed =>
      rw [ih, lookBehind_cons_of_not_named hnamed]
      split at h
      next => exact (lookBehind_of_nameAt?_eq_none h _).symm
      next hadmits => rw [eq_false_of_ne_true hadmits]

/-! ## Literals -/

/-- Whether the text behind `c` is inside a literal. A quote that has no partner opens none. -/
def insideBehind (inside : Bool) (c : Char) (cs : List Char) : Bool :=
  if c == '\'' then !inside && cs.contains '\'' else inside

/-- The names in a text that are outside literals. -/
def lookOutside (free inside : Bool) : List Char → List (List Char)
  | [] => []
  | c :: cs =>
    let names := lookOutside (admits c) (insideBehind inside c cs) cs
    if !inside && (free && c == '@' && named cs) then cs.takeWhile Text.isNameRest :: names
    else names

theorem lookOutside_quote (free inside : Bool) (cs : List Char) :
    lookOutside free inside ('\'' :: cs) = lookOutside true (!inside && cs.contains '\'') cs := by
  have hadmits : admits '\'' = true := by decide
  simp [lookOutside, insideBehind, hadmits]

theorem lookOutside_of_inside {c : Char} (hc : c ≠ '\'') (free : Bool) (cs : List Char) :
    lookOutside free true (c :: cs) = lookOutside (admits c) true cs := by
  simp [lookOutside, insideBehind, hc]

theorem behindLiteral?_isSome (cs : List Char) :
    (behindLiteral? cs).isSome = cs.contains '\'' := by
  fun_induction behindLiteral? cs with
  | case1 => rfl
  | case2 | case3 | case4 => simp
  | case5 c rest hne hne' ih =>
    have hc : c ≠ '\'' := fun h ↦ hne' h
    rw [ih, List.contains_cons, beq_false_of_ne hc.symm, Bool.false_or]

/-- A literal that closes is passed over. -/
theorem lookOutside_of_behindLiteral? {cs rest : List Char} (h : behindLiteral? cs = some rest)
    (free : Bool) : lookOutside free true cs = lookOutside true false rest := by
  fun_induction behindLiteral? cs generalizing rest free with
  | case1 => cases h
  | case2 tail behind hbehind ih =>
    cases h
    have hclosed : tail.contains '\'' = true := by rw [← behindLiteral?_isSome, hbehind]; rfl
    -- A doubled quote leaves the literal and, as there are more quotes, enters the next one.
    rw [lookOutside_quote, Bool.not_true, Bool.false_and, lookOutside_quote, hclosed]
    exact ih hbehind true
  | case3 tail hopen ih =>
    cases h
    rw [lookOutside_quote, Bool.not_true, Bool.false_and]
  | case4 tail hne =>
    cases h
    rw [lookOutside_quote, Bool.not_true, Bool.false_and]
  | case5 c tail hne hne' ih =>
    have hc : c ≠ '\'' := fun h ↦ hne' h
    rw [lookOutside_of_inside hc, ih h]

theorem takeWhile_stripLiterals {p : Char → Bool} (hp : p '\'' = false) (cs : List Char) :
    (stripLiterals cs).takeWhile p = cs.takeWhile p := by
  fun_induction stripLiterals cs with
  | case1 => rfl
  | case2 cs rest h ih => simp [hp]
  | case3 cs h ih => simp [hp]
  | case4 c cs hc ih => rw [List.takeWhile_cons, List.takeWhile_cons, ih]

theorem named_stripLiterals (cs : List Char) : named (stripLiterals cs) = named cs := by
  fun_induction stripLiterals cs <;> rfl

theorem lookBehind_quote (free : Bool) (cs : List Char) :
    lookBehind free ('\'' :: cs) = lookBehind true cs := by
  have hadmits : admits '\'' = true := by decide
  simp [lookBehind, hadmits]

/-- **Emptying literals only loses what is inside them.** -/
theorem lookBehind_stripLiterals (free : Bool) (cs : List Char) :
    lookBehind free (stripLiterals cs) = lookOutside free false cs := by
  fun_induction stripLiterals cs generalizing free with
  | case1 => rfl
  | case2 cs rest h ih =>
    have hclosed : cs.contains '\'' = true := by rw [← behindLiteral?_isSome, h]; rfl
    rw [lookBehind_quote, lookBehind_quote, ih, lookOutside_quote, hclosed]
    exact (lookOutside_of_behindLiteral? h true).symm
  | case3 cs h ih =>
    have hopen : cs.contains '\'' = false := by rw [← behindLiteral?_isSome, h]; rfl
    rw [lookBehind_quote, ih, lookOutside_quote, hopen, Bool.and_false]
  | case4 c cs hc ih =>
    have hinside : insideBehind false c cs = false := if_neg (by simpa using hc)
    rw [lookBehind, lookOutside, hinside, ih, named_stripLiterals,
      takeWhile_stripLiterals (by decide)]
    rfl

end Placeholder

end SqlGateway
