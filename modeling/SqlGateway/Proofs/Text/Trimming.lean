import SqlGateway.Proofs.Text.Runs
import SqlGateway.Text.Fold
import SqlGateway.Text.Trim

/-!
# What trimming leaves

A text is cut at both ends, each time as far as characters of a class go, which need not be the same
class at both ends: whitespace, but also brackets of either kind. What was cut off can be put back,
and what is left is the only middle of the text that begins and ends with other characters.
-/

namespace SqlGateway.Text

variable {p q : Char → Bool} {front core back : List Char}

/-! ## Cutting characters off -/

theorem exists_eq_append_dropWhile (p : Char → Bool) (cs : List Char) :
    ∃ front, cs = front ++ cs.dropWhile p ∧ ∀ c ∈ front, p c = true :=
  ⟨cs.takeWhile p, List.takeWhile_append_dropWhile.symm, fun _ hc ↦ List.mem_takeWhile_imp hc⟩

theorem exists_eq_dropEndWhile_append (p : Char → Bool) (cs : List Char) :
    ∃ back, cs = dropEndWhile p cs ++ back ∧ ∀ c ∈ back, p c = true := by
  obtain ⟨back, heq, hback⟩ := exists_eq_append_dropWhile p cs.reverse
  refine ⟨back.reverse, ?_, fun c hc ↦ hback c (List.mem_reverse.mp hc)⟩
  rw [dropEndWhile, ← List.reverse_append, ← heq, List.reverse_reverse]

/-- Characters of the class at the end make no difference. -/
theorem dropEndWhile_append (core : List Char) (hback : ∀ c ∈ back, p c = true) :
    dropEndWhile p (core ++ back) = dropEndWhile p core := by
  have hreverse : ∀ c ∈ back.reverse, p c = true := fun c hc ↦ hback c (List.mem_reverse.mp hc)
  rw [dropEndWhile, dropEndWhile, List.reverse_append, List.dropWhile_append_of_pos hreverse]

theorem dropEndWhile_eq_self (hlast : ∀ c ∈ core.getLast?, p c = false) :
    dropEndWhile p core = core := by
  rw [List.getLast?_eq_head?_reverse] at hlast
  have hrun : ([] ++ core.reverse).dropWhile p = core.reverse :=
    dropWhile_run (fun c hc ↦ absurd hc List.not_mem_nil) hlast
  rw [dropEndWhile, ← List.nil_append core.reverse, hrun, List.reverse_reverse]

/-- **A text is cut down to its middle**, if that begins and ends with characters that stay. -/
theorem dropEndWhile_dropWhile_eq_iff (hne : core ≠ []) (hfirst : ∀ c ∈ core.head?, p c = false)
    (hlast : ∀ c ∈ core.getLast?, q c = false) (cs : List Char) :
    dropEndWhile q (cs.dropWhile p) = core ↔ ∃ front back, cs = front ++ (core ++ back) ∧
      (∀ c ∈ front, p c = true) ∧ ∀ c ∈ back, q c = true := by
  constructor
  · rintro rfl
    obtain ⟨front, hcs, hfront⟩ := exists_eq_append_dropWhile p cs
    obtain ⟨back, hrest, hback⟩ := exists_eq_dropEndWhile_append q (cs.dropWhile p)
    exact ⟨front, back, by rw [← hrest, ← hcs], hfront, hback⟩
  · rintro ⟨front, back, rfl, hfront, hback⟩
    have hhead : ∀ c ∈ (core ++ back).head?, p c = false := by
      obtain ⟨first, rest, rfl⟩ := List.exists_cons_of_ne_nil hne
      exact hfirst
    rw [dropWhile_run hfront hhead, dropEndWhile_append core hback, dropEndWhile_eq_self hlast]

/-! ## Brackets -/

section brackets

variable (opening closing : Char)

/-- The brackets that are cut off can be put back. -/
theorem exists_eq_replicate_append (cs : List Char) : ∃ m n, cs = List.replicate m opening ++
    (dropEndWhile (· = closing) (cs.dropWhile (· = opening)) ++ List.replicate n closing) := by
  obtain ⟨front, hcs, hfront⟩ := exists_eq_append_dropWhile (· = opening) cs
  obtain ⟨back, hrest, hback⟩ :=
    exists_eq_dropEndWhile_append (· = closing) (cs.dropWhile (· = opening))
  have hfront' : front = List.replicate front.length opening :=
    List.eq_replicate_of_mem fun c hc ↦ of_decide_eq_true (hfront c hc)
  have hback' : back = List.replicate back.length closing :=
    List.eq_replicate_of_mem fun c hc ↦ of_decide_eq_true (hback c hc)
  exact ⟨front.length, back.length, by rw [← hfront', ← hback', ← hrest, ← hcs]⟩

variable {opening closing}

/-- What stands between brackets is found, if it has none of them. -/
theorem dropEndWhile_dropWhile_replicate (hne : core ≠ []) (hopening : opening ∉ core)
    (hclosing : closing ∉ core) (m n : Nat) :
    dropEndWhile (· = closing)
      ((List.replicate m opening ++ (core ++ List.replicate n closing)).dropWhile
        (· = opening)) = core := by
  refine (dropEndWhile_dropWhile_eq_iff hne (fun c hc ↦ decide_eq_false ?_)
    (fun c hc ↦ decide_eq_false ?_) _).mpr
    ⟨_, _, rfl, fun c hc ↦ decide_eq_true (List.eq_of_mem_replicate hc),
      fun c hc ↦ decide_eq_true (List.eq_of_mem_replicate hc)⟩
  · rintro rfl
    exact hopening (List.mem_of_mem_head? hc)
  · rintro rfl
    exact hclosing (List.mem_of_mem_getLast? hc)

end brackets

/-! ## Whitespace -/

theorem trimBlank_eq_iff (hne : core ≠ []) (hfirst : ∀ c ∈ core.head?, isBlank c = false)
    (hlast : ∀ c ∈ core.getLast?, isBlank c = false) (cs : List Char) :
    trimBlank cs = core ↔ ∃ front back, cs = front ++ (core ++ back) ∧
      (∀ c ∈ front, isBlank c = true) ∧ ∀ c ∈ back, isBlank c = true :=
  dropEndWhile_dropWhile_eq_iff hne hfirst hlast cs

/-- What is trimmed off can be put back. -/
theorem exists_eq_append_trimBlank (cs : List Char) : ∃ front back,
    cs = front ++ (trimBlank cs ++ back) ∧ (∀ c ∈ front, isBlank c = true) ∧
      ∀ c ∈ back, isBlank c = true := by
  obtain ⟨front, hcs, hfront⟩ := exists_eq_append_dropWhile isBlank cs
  obtain ⟨back, hrest, hback⟩ := exists_eq_dropEndWhile_append isBlank (cs.dropWhile isBlank)
  exact ⟨front, back, by rw [trimBlank, trimWhile, ← hrest, ← hcs], hfront, hback⟩

theorem trimBlank_front (hfront : ∀ c ∈ front, isBlank c = true) (cs : List Char) :
    trimBlank (front ++ cs) = trimBlank cs := by
  rw [trimBlank, trimWhile, List.dropWhile_append_of_pos hfront]
  rfl

theorem trimBlank_back (hback : ∀ c ∈ back, isBlank c = true) (cs : List Char) :
    trimBlank (cs ++ back) = trimBlank cs := by
  rw [trimBlank, trimWhile, trimBlank, trimWhile, List.dropWhile_append]
  split
  · next hnone =>
    rw [List.isEmpty_iff.mp hnone, List.dropWhile_eq_nil_iff.mpr hback]
  · exact dropEndWhile_append _ hback

theorem not_mem_of_blank {c : Char} (hc : isBlank c = false)
    (hfront : ∀ c ∈ front, isBlank c = true) : c ∉ front := by
  intro hmem
  exact Bool.false_ne_true (hc.symm.trans (hfront c hmem))

/-- A character other than whitespace is not trimmed off. -/
theorem mem_trimBlank {c : Char} (hc : isBlank c = false) (cs : List Char) :
    c ∈ trimBlank cs ↔ c ∈ cs := by
  obtain ⟨front, back, hcs, hfront, hback⟩ := exists_eq_append_trimBlank cs
  generalize trimBlank cs = core at hcs ⊢
  subst hcs
  rw [List.mem_append, List.mem_append, or_iff_right (not_mem_of_blank hc hfront),
    or_iff_left (not_mem_of_blank hc hback)]

theorem trimBlank_ne_nil {cs : List Char} (h : ∃ c ∈ cs, isBlank c = false) :
    trimBlank cs ≠ [] := by
  obtain ⟨c, hmem, hc⟩ := h
  exact List.ne_nil_of_mem ((mem_trimBlank hc cs).mpr hmem)

theorem trim_ne_empty {s : String} (h : ∃ c ∈ s.toList, isBlank c = false) : trim s ≠ "" :=
  fun hempty ↦ trimBlank_ne_nil h (String.ofList_eq_empty_iff.mp hempty)

/-- Letters are no whitespace, in either case. -/
theorem isBlank_toLower (c : Char) : isBlank c.toLower = isBlank c := by
  have hletter {d : Char} (hlow : 65 ≤ d.toNat) (hhigh : d.toNat ≤ 122) : isBlank d = false := by
    simp only [isBlank, Bool.or_eq_false_iff, Bool.and_eq_false_iff, decide_eq_false_iff_not,
      beq_eq_false_iff_ne]
    omega
  rcases toLower_cases c with hsame | ⟨hlow, hhigh, hlowered⟩
  · rw [hsame]
  · rw [hletter hlow (by omega), hletter (by omega) (by omega)]

end SqlGateway.Text
