import SqlGateway.Parameter

/-!
# Spellings of a name

A name is asked for in some case and, perhaps, with markers in front of it. A parameter cannot tell
these spellings apart: markers are dropped from the name that is asked for, and case is folded.
The two go together because folding makes no marker of what is none, nor the other way round.
-/

namespace SqlGateway.Parameter

/-! ## Markers and case -/

theorem isMarker_iff {c : Char} : isMarker c = true ↔ c = '@' ∨ c = ':' ∨ c = '$' := by
  simp only [isMarker, Bool.or_eq_true, beq_iff_eq, or_assoc]

theorem isMarker_eq_false_iff {c : Char} : isMarker c = false ↔ c ≠ '@' ∧ c ≠ ':' ∧ c ≠ '$' := by
  simp only [isMarker, Bool.or_eq_false_iff, beq_eq_false_iff_ne, and_assoc]

theorem toNat_of_isMarker {c : Char} (h : isMarker c = true) : c.toNat ≤ 64 := by
  rcases isMarker_iff.mp h with rfl | rfl | rfl
  · decide
  · decide
  · decide

/-- Upper-case letters and lower-case ones come behind the markers. -/
theorem isMarker_toLower (c : Char) : isMarker c.toLower = isMarker c := by
  rcases Text.toLower_cases c with hsame | ⟨hlow, -, hlowered⟩
  · rw [hsame]
  · have hmarker {d : Char} (hd : 65 ≤ d.toNat) : isMarker d = false :=
      eq_false_of_ne_true fun h ↦ absurd (toNat_of_isMarker h) (by omega)
    rw [hmarker hlow, hmarker (by omega)]

theorem folded_bareName (name : String) :
    Text.folded (bareName name) = (Text.folded name).dropWhile isMarker := by
  have hlower : isMarker ∘ Char.toLower = isMarker := funext isMarker_toLower
  rw [Text.folded, bareName, String.toList_ofList, Text.folded, List.dropWhile_map, hlower]

theorem bareName_congr {name other : String} (h : Text.sameName name other = true) :
    Text.sameName (bareName name) (bareName other) = true := by
  rw [Text.sameName_iff, folded_bareName, folded_bareName, Text.sameName_iff.mp h]

/-- A name that does not begin with a marker has none to lose. -/
theorem bareName_eq_self {name : String} (h : ∀ c ∈ name.toList.head?, isMarker c = false) :
    bareName name = name := by
  rw [bareName]
  cases hchars : name.toList with
  | nil => rw [List.dropWhile_nil, ← hchars, String.ofList_toList]
  | cons c cs =>
    have hc : isMarker c = false := h c (by rw [hchars]; rfl)
    rw [List.dropWhile_cons_of_neg (by rw [hc]; exact Bool.false_ne_true), ← hchars,
      String.ofList_toList]

theorem bareName_append {markers : List Char} (h : ∀ c ∈ markers, isMarker c = true)
    (name : String) : bareName (String.ofList markers ++ name) = bareName name := by
  rw [bareName, String.toList_append, String.toList_ofList, List.dropWhile_append_of_pos h,
    bareName]

/-! ## Asking for a name -/

/-- **A parameter answers alike to all spellings of a name.** -/
theorem isNamed_congr (p : Parameter) {name other : String}
    (h : Text.sameName (bareName name) (bareName other) = true) :
    p.isNamed name = p.isNamed other := by
  rw [isNamed, Text.sameName, Text.sameName_iff.mp h]
  rfl

theorem sameName_append {markers : List Char} (h : ∀ c ∈ markers, isMarker c = true)
    {name other : String} (hsame : Text.sameName name other = true) :
    Text.sameName (bareName (String.ofList markers ++ name)) (bareName other) = true := by
  rw [bareName_append h]
  exact bareName_congr hsame

end SqlGateway.Parameter
