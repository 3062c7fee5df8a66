/-!
# ASCII case folding

Names — of parameters, columns, tables, types, server types — are compared without regard to the
case of ASCII letters and of no others. Folding works on characters, so `Text.sameName` is an
equality of folded lists and inherits its laws.
-/

namespace SqlGateway.Text

/-- Only the letters from `A` to `Z` are changed, and they are all changed alike. -/
theorem toLower_cases (c : Char) : c.toLower = c ∨
    65 ≤ c.toNat ∧ c.toNat ≤ 90 ∧ c.toLower.toNat = c.toNat + 32 := by
  unfold Char.toLower
  split
  · next h =>
    have hlow : 65 ≤ c.val.toNat := h.1
    have hhigh : c.val.toNat ≤ 90 := h.2
    have hshift : ('a'.val - 'A'.val).toNat = 32 := by decide
    refine .inr ⟨hlow, hhigh, ?_⟩
    change (c.val + ('a'.val - 'A'.val)).toNat = c.val.toNat + 32
    rw [UInt32.toNat_add, hshift]
    omega
  · exact .inl rfl

/-- The characters of `s` with every ASCII letter in lower case. -/
def folded (s : String) : List Char := s.toList.map Char.toLower

/-- `s` with every ASCII letter in lower case. -/
def lowered (s : String) : String := String.ofList (folded s)

/-- Equality of names up to ASCII case. -/
def sameName (a b : String) : Bool := folded a == folded b

theorem sameName_iff {a b : String} : sameName a b = true ↔ folded a = folded b := by
  simp [sameName]

@[simp] theorem sameName_self (a : String) : sameName a a = true := by simp [sameName]

theorem sameName_comm (a b : String) : sameName a b = sameName b a := by
  simp only [sameName]
  exact Bool.beq_comm

theorem sameName_trans {a b c : String} (hab : sameName a b = true) (hbc : sameName b c = true) :
    sameName a c = true :=
  sameName_iff.mpr ((sameName_iff.mp hab).trans (sameName_iff.mp hbc))

end SqlGateway.Text
