import SqlGateway.Json.Number
import SqlGateway.Proofs.Json.Reading
import SqlGateway.Proofs.Text.Runs

/-!
# Whole numbers are read back

A whole number is written with its sign and its digits, the leading one of which is no zero unless
it is the only one. The reader of documents passes over such a text as over one number, and a place
for whole numbers reads the value back from it, as long as that fits into 64 bits.
-/

namespace SqlGateway

namespace Text

theorem natural_toDigits (n : Nat) : natural (Nat.toDigits 10 n) = n :=
  Nat.ofDigitChars_ten_toDigits

theorem isDigit_of_mem_toDigits {n : Nat} {c : Char} (h : c ∈ Nat.toDigits 10 n) :
    c.isDigit = true :=
  Nat.isDigit_of_mem_toDigits (by decide) (by decide) h

/-- The digits of a number that is not zero do not begin with one. -/
theorem head?_toDigits_ne_zero {n : Nat} (h : 0 < n) : (Nat.toDigits 10 n).head? ≠ some '0' := by
  induction n using Nat.strongRecOn with
  | ind n ih =>
    by_cases hlow : n < 10
    · rw [Nat.toDigits_of_lt_base hlow, List.head?_cons, ne_eq, Option.some.injEq,
        Nat.digitChar_eq_zero]
      omega
    · have hfirst : (Nat.toDigits 10 (n / 10)).head?.isSome = true := by
        rw [List.isSome_head?]
        exact Nat.toDigits_ne_nil
      rw [Nat.toDigits_of_base_le (by decide) (by omega), List.head?_append,
        Option.or_of_isSome hfirst]
      exact ih (n / 10) (by omega) (by omega)

end Text

namespace Json

/-! ## Digits in a document -/

theorem Ends.head_ne {c d : Char} {rest : List Char} (h : Ends (c :: rest)) (hcomma : d ≠ ',')
    (hbracket : d ≠ ']') (hbrace : d ≠ '\x7d') : c ≠ d := by
  rintro rfl
  rcases h c rfl with hc | hc | hc
  · exact hcomma hc
  · exact hbracket hc
  · exact hbrace hc

/-- Digits end where a value may end. -/
theorem Ends.readDigits {digits rest : List Char} (h : Ends rest) (hne : digits ≠ [])
    (hdigits : ∀ c ∈ digits, c.isDigit = true) :
    readDigits (digits ++ rest) = some (digits, rest) := by
  have hends : ∀ c ∈ rest.head?, c.isDigit = false := by
    intro c hc
    rcases h c hc with rfl | rfl | rfl <;> decide
  rw [Json.readDigits, Text.takeWhile_run hdigits hends, Text.dropWhile_run hdigits hends]
  cases digits with
  | nil => exact absurd rfl hne
  | cons => rfl

/-- Neither a fraction nor an exponent begins where a value may end. -/
theorem Ends.readFraction {rest : List Char} (h : Ends rest) :
    readFraction rest = some ([], rest) := by
  rw [Json.readFraction]
  rintro tail rfl
  exact h.head_ne (d := '.') (by decide) (by decide) (by decide) rfl

theorem Ends.readExponent {rest : List Char} (h : Ends rest) :
    readExponent rest = some ([], rest) := by
  cases rest with
  | nil => rfl
  | cons c rest =>
    have hlower : c ≠ 'e' := h.head_ne (by decide) (by decide) (by decide)
    have hupper : c ≠ 'E' := h.head_ne (by decide) (by decide) (by decide)
    simp only [Json.readExponent, hlower, hupper, or_self, if_false]

theorem readWhole_toDigits (n : Nat) {rest : List Char} (h : Ends rest) :
    readWhole (Nat.toDigits 10 n ++ rest) = some (Nat.toDigits 10 n, rest) := by
  rcases Nat.eq_zero_or_pos n with rfl | hpos
  · rw [Nat.toDigits_zero]
    rfl
  · have hdigits := h.readDigits Nat.toDigits_ne_nil
      (fun c hc ↦ Text.isDigit_of_mem_toDigits (n := n) hc)
    have hhead := Text.head?_toDigits_ne_zero hpos
    cases hcs : Nat.toDigits 10 n with
    | nil => exact absurd hcs Nat.toDigits_ne_nil
    | cons c cs =>
      rw [hcs] at hdigits hhead
      have hzero : c ≠ '0' := fun hc ↦ hhead (congrArg some hc)
      rw [List.cons_append] at hdigits ⊢
      rw [readWhole]
      · exact hdigits
      · exact fun tail heq ↦ hzero (List.cons.inj heq).1

/-! ## Whole numbers -/

theorem toList_toString_of_nonneg {i : Int} (h : 0 ≤ i) :
    (toString i).toList = Nat.toDigits 10 i.natAbs := by
  cases i with
  | ofNat n => exact Nat.toList_repr
  | negSucc n => exact absurd h (by omega)

theorem toList_toString_of_neg {i : Int} (h : i < 0) :
    (toString i).toList = '-' :: Nat.toDigits 10 i.natAbs := by
  cases i with
  | ofNat n => exact absurd (Int.natCast_nonneg n) (Int.not_le.mpr h)
  | negSucc n =>
    show ("-" ++ Nat.repr (n + 1)).toList = _
    rw [String.toList_append, Nat.toList_repr]
    rfl

theorem toDigits_eq_cons (n : Nat) :
    ∃ c cs, Nat.toDigits 10 n = c :: cs ∧ c.isDigit = true := by
  obtain ⟨c, cs, hcs⟩ := List.exists_cons_of_ne_nil (Nat.toDigits_ne_nil (n := n) (b := 10))
  have hc : c ∈ Nat.toDigits 10 n := by
    rw [hcs]
    exact List.mem_cons_self
  exact ⟨c, cs, hcs, Text.isDigit_of_mem_toDigits hc⟩

/-- Digits do not begin with a sign. -/
theorem toDigits_append_ne_minus (n : Nat) (rest tail : List Char) :
    Nat.toDigits 10 n ++ rest ≠ '-' :: tail := by
  obtain ⟨c, cs, hcs, hdigit⟩ := toDigits_eq_cons n
  rw [hcs, List.cons_append]
  intro heq
  rw [(List.cons.inj heq).1] at hdigit
  exact absurd hdigit (by decide)

theorem readNumber_toString (i : Int) {rest : List Char} (h : Ends rest) :
    readNumber ((toString i).toList ++ rest) = some ((toString i).toList, rest) := by
  have hwhole := readWhole_toDigits i.natAbs h
  rcases Int.lt_or_le i 0 with hneg | hnonneg
  · rw [toList_toString_of_neg hneg, List.cons_append, readNumber]
    simp only [hwhole, h.readFraction, h.readExponent, Option.bind_eq_bind, Option.bind_some,
      List.append_nil]
    rfl
  · rw [toList_toString_of_nonneg hnonneg, readNumber]
    · simp only [hwhole, h.readFraction, h.readExponent, Option.bind_eq_bind, Option.bind_some,
        List.append_nil]
      rfl
    · exact fun tail heq ↦ absurd heq (toDigits_append_ne_minus _ _ _)

theorem numeral_toString (i : Int) : Numeral (toString i).toList where
  first := by
    rcases Int.lt_or_le i 0 with hneg | hnonneg
    · exact ⟨'-', _, toList_toString_of_neg hneg, .inl rfl⟩
    · obtain ⟨c, cs, hcs, hdigit⟩ := toDigits_eq_cons i.natAbs
      exact ⟨c, cs, (toList_toString_of_nonneg hnonneg).trans hcs, .inr hdigit⟩
  reads _ h := readNumber_toString i h

/-- A whole number is written without a point and without an exponent. -/
theorem plain_toString (i : Int) :
    ((toString i).toList.any fun c ↦ c == '.' || c == 'e' || c == 'E') = false := by
  have hplain (c : Char) (hc : c = '-' ∨ c.isDigit = true) :
      (c == '.' || c == 'e' || c == 'E') = false := by
    have hpoint : c ≠ '.' := ne_of_digit hc (by decide) (by decide)
    have hlower : c ≠ 'e' := ne_of_digit hc (by decide) (by decide)
    have hupper : c ≠ 'E' := ne_of_digit hc (by decide) (by decide)
    rw [beq_false_of_ne hpoint, beq_false_of_ne hlower, beq_false_of_ne hupper]
    rfl
  rw [List.any_eq_false]
  intro c hc
  rw [Bool.not_eq_true]
  refine hplain c ?_
  rcases Int.lt_or_le i 0 with hneg | hnonneg
  · rw [toList_toString_of_neg hneg] at hc
    exact (List.mem_cons.mp hc).imp id Text.isDigit_of_mem_toDigits
  · rw [toList_toString_of_nonneg hnonneg] at hc
    exact .inr (Text.isDigit_of_mem_toDigits hc)

/-- **A whole number of 64 bits is read back**, with a sign or without one. -/
theorem integerOfText?_toString {i : Int} (hlow : -Text.signedBound ≤ i)
    (hhigh : i < UInt64.size) : integerOfText? (toString i).toList = some i := by
  have hplain := plain_toString i
  rcases Int.lt_or_le i 0 with hneg | hnonneg
  · rw [toList_toString_of_neg hneg] at hplain ⊢
    rw [integerOfText?, hplain, if_neg Bool.false_ne_true, Text.natural_toDigits, if_neg]
    · exact congrArg some (by omega)
    · omega
  · rw [toList_toString_of_nonneg hnonneg] at hplain ⊢
    rw [integerOfText?, hplain, if_neg Bool.false_ne_true, Text.natural_toDigits, if_neg]
    · exact congrArg some (by omega)
    · omega
    · intro tail heq
      rw [← List.append_nil (Nat.toDigits 10 i.natAbs)] at heq
      exact toDigits_append_ne_minus i.natAbs [] tail heq

end Json

end SqlGateway
