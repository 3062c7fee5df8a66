import Mathlib.Algebra.Group.Nat.Defs
import SqlGateway.Uuid

/-!
# Identifiers are read back

An identifier is written with as many digits as it has bits to write, so nothing is cut off in
front, and with its hyphens in the places in which the reader of this form looks for them.
-/

namespace SqlGateway.Uuid

/-! ## Digits -/

theorem hexValue?_hexDigit (n : Fin 16) : Text.hexValue? (Text.hexDigit n) = some n.val := by
  revert n
  decide

theorem length_digits (count n : Nat) : (digits count n).length = count := by
  induction count generalizing n with
  | zero => rfl
  | succ count ih => rw [digits, List.length_append, ih, List.length_singleton]

/-- Digits write as much of a number as there is room for. -/
theorem foldlM_digits (count n : Nat) :
    (digits count n).foldlM (fun n c ↦ (Text.hexValue? c).map (16 * n + ·)) 0 =
      some (n % 16 ^ count) := by
  induction count generalizing n with
  | zero => rw [Nat.pow_zero, Nat.mod_one]; rfl
  | succ count ih =>
    have hlast := hexValue?_hexDigit ⟨n % 16, Nat.mod_lt n (by decide)⟩
    rw [digits, List.foldlM_append, ih, Option.bind_eq_bind, Option.bind_some, List.foldlM_cons,
      hlast, Option.map_some, Option.bind_eq_bind, Option.bind_some, List.foldlM_nil,
      Nat.pow_succ, Nat.mul_comm (16 ^ count), Nat.mod_mul, Nat.add_comm]
    rfl

theorem hexNumber?_digits (u : Uuid) :
    Text.hexNumber? (digits 32 u.bits.toNat) = some u.bits.toNat := by
  have hne : (digits 32 u.bits.toNat).isEmpty = false := by
    rw [List.isEmpty_eq_false_iff_exists_mem, ← List.length_pos_iff_exists_mem, length_digits]
    decide
  have hlt : u.bits.toNat < 16 ^ 32 := u.bits.isLt
  rw [Text.hexNumber?, hne, if_neg Bool.false_ne_true, foldlM_digits, Nat.mod_eq_of_lt hlt]

/-! ## Hyphens -/

theorem length_hyphenated {ds : List Char} (h : ds.length = 32) : (hyphenated ds).length = 36 := by
  simp only [hyphenated, List.length_append, List.length_cons, List.length_take, List.length_drop]
  omega

/-- Without its hyphens a written form has the digits it was made of. -/
theorem unhyphenated?_hyphenated {ds : List Char} (h : ds.length = 32) :
    unhyphenated? (hyphenated ds) = some ds := by
  have hgroup (n : Nat) : (ds.drop n).take 4 ++ ds.drop (n + 4) = ds.drop n := by
    rw [← List.drop_drop, List.take_append_drop]
  have hds : (hyphenated ds).take 8 ++ ((hyphenated ds).drop 9).take 4 ++
      ((hyphenated ds).drop 14).take 4 ++ ((hyphenated ds).drop 19).take 4 ++
      (hyphenated ds).drop 24 = ds := by
    calc
      _ = ds.take 8 ++ ((ds.drop 8).take 4 ++ ((ds.drop 12).take 4 ++
            ((ds.drop 16).take 4 ++ ds.drop 20))) := by
        simp [hyphenated, List.drop_append, h, List.length_take, List.drop_take]
      _ = ds := by rw [hgroup, hgroup, hgroup, List.take_append_drop]
  rw [unhyphenated?, hds, if_pos ⟨length_hyphenated h, rfl⟩]

/-- **An identifier is read back from its text.** -/
theorem parse?_display (u : Uuid) : parse? u.display = some u := by
  have hlength := length_digits 32 u.bits.toNat
  rw [parse?, display, String.toList_ofList, digits?, length_hyphenated hlength,
    if_neg (by decide), if_pos rfl, unhyphenated?_hyphenated hlength]
  rw [Option.bind_eq_bind, Option.bind_some, hexNumber?_digits]
  show some (ofNat u.bits.toNat) = some u
  rw [ofNat, BitVec.ofNat_toNat, BitVec.setWidth_eq]

end SqlGateway.Uuid
