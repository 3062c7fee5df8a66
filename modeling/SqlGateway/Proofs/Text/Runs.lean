import Mathlib.Data.List.TakeWhile

/-!
# Runs of characters

Names, words and digits are read as the longest run of characters of a class. A run is read as it
was written if what comes behind it does not begin with a character of the class. What was read goes
on with a character that is not of the class, or not at all.
-/

namespace SqlGateway.Text

theorem forall_head?_cons {P : Char → Prop} {c : Char} {rest : List Char} (h : P c) :
    ∀ d ∈ (c :: rest).head?, P d := by
  intro d hd
  obtain rfl := Option.some.inj hd
  exact h

variable {p q : Char → Bool} {run rest : List Char}

theorem takeWhile_run (hrun : ∀ c ∈ run, p c = true) (hends : ∀ c ∈ rest.head?, p c = false) :
    (run ++ rest).takeWhile p = run := by
  rw [List.takeWhile_append_of_pos hrun]
  cases rest with
  | nil => rw [List.takeWhile_nil, List.append_nil]
  | cons c rest =>
    rw [List.takeWhile_cons_of_neg (Bool.eq_false_iff.mp (hends c rfl)), List.append_nil]

theorem dropWhile_run (hrun : ∀ c ∈ run, p c = true) (hends : ∀ c ∈ rest.head?, p c = false) :
    (run ++ rest).dropWhile p = rest := by
  rw [List.dropWhile_append_of_pos hrun]
  cases rest with
  | nil => rw [List.dropWhile_nil]
  | cons c rest => rw [List.dropWhile_cons_of_neg (Bool.eq_false_iff.mp (hends c rfl))]

/-- What is left behind a run does not go on with it. -/
theorem not_of_mem_head?_dropWhile {cs : List Char} {c : Char} (h : c ∈ (cs.dropWhile p).head?) :
    p c = false := by
  have hnot := List.head?_dropWhile_not p cs
  rw [Option.mem_def.mp h] at hnot
  exact hnot

theorem getElem?_length_takeWhile {cs : List Char} {c : Char}
    (h : c ∈ cs[(cs.takeWhile p).length]?) : p c = false := by
  induction cs with
  | nil => cases h
  | cons d cs ih =>
    by_cases hd : p d = true
    · rw [List.takeWhile_cons_of_pos hd, List.length_cons, List.getElem?_cons_succ] at h
      exact ih h
    · rw [List.takeWhile_cons_of_neg hd, List.length_nil, List.getElem?_cons_zero] at h
      rw [← Option.some.inj h]
      exact eq_false_of_ne_true hd

/-- A longer run of a larger class goes on with the character at which the shorter one ends. -/
theorem takeWhile_eq_takeWhile_iff (hpq : ∀ c, p c = true → q c = true) (cs : List Char) :
    cs.takeWhile q = cs.takeWhile p ↔ ∀ c ∈ cs[(cs.takeWhile p).length]?, q c = false := by
  induction cs with
  | nil => exact iff_of_true rfl fun c hc ↦ nomatch hc
  | cons d cs ih =>
    by_cases hd : p d = true
    · rw [List.takeWhile_cons_of_pos hd, List.takeWhile_cons_of_pos (hpq d hd), List.length_cons,
        List.getElem?_cons_succ, ← ih, List.cons_inj_right]
    · rw [List.takeWhile_cons_of_neg hd, List.length_nil, List.getElem?_cons_zero,
        List.takeWhile_cons]
      cases hq : q d with
      | false => exact iff_of_true rfl fun c hc ↦ Option.some.inj hc ▸ hq
      | true =>
        refine iff_of_false (List.cons_ne_nil _ _) fun h ↦ ?_
        exact Bool.false_ne_true ((h d rfl).symm.trans hq)

end SqlGateway.Text
