/-!
# Decimal digits
-/

namespace SqlGateway.Text

/-- The first whole number that is too large for 64 bits with a sign. -/
def signedBound : Nat := 0x8000000000000000

/-- The whole number that decimal digits write, leading digit first. -/
def natural (digits : List Char) : Nat := digits.foldl (fun n c ↦ 10 * n + (c.toNat - 48)) 0

@[simp] theorem natural_nil : natural [] = 0 := rfl

theorem natural_concat (digits : List Char) (c : Char) :
    natural (digits ++ [c]) = 10 * natural digits + (c.toNat - 48) := by
  simp [natural, List.foldl_append]

end SqlGateway.Text
