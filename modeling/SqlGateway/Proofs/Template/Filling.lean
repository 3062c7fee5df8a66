import SqlGateway.Proofs.Text.Runs
import SqlGateway.Template

/-!
# Filling templates

A template is built from pieces, and filling it fills the pieces: the literal ones stay as they are,
and a slot becomes what it is to be replaced with. It does not matter how the text of a template is
taken apart, as long as there is no opening brace in its literal pieces.
-/

namespace SqlGateway.Template

/-! ## Segments of pieces -/

theorem segments_of_ne {c : Char} (h : c ≠ '\x7b') (cs : List Char) :
    segments (c :: cs) = .char c :: segments cs := by
  rw [segments, if_neg h]

/-- Text without an opening brace is no part of a token. -/
theorem segments_append {cs : List Char} (h : '\x7b' ∉ cs) (rest : List Char) :
    segments (cs ++ rest) = cs.map Segment.char ++ segments rest := by
  induction cs with
  | nil => rfl
  | cons c cs ih =>
    rw [List.mem_cons, not_or] at h
    obtain ⟨hc, hcs⟩ := h
    rw [List.cons_append, segments_of_ne (Ne.symm hc), ih hcs, List.map_cons, List.cons_append]

theorem tokenAfterBrace?_of_alpha {name : List Char} (halpha : ∀ c ∈ name, c.isAlpha = true)
    (hne : name ≠ []) (rest : List Char) :
    tokenAfterBrace? (name ++ '\x7d' :: rest) = some (name, rest) := by
  have hbrace : ∀ c ∈ ('\x7d' :: rest).head?, c.isAlpha = false :=
    Text.forall_head?_cons (by decide)
  have htake := Text.takeWhile_run halpha hbrace
  have hdrop := Text.dropWhile_run halpha hbrace
  obtain ⟨c, cs, rfl⟩ := List.exists_cons_of_ne_nil hne
  simp only [tokenAfterBrace?, htake, hdrop]

theorem segments_token {name : List Char} (halpha : ∀ c ∈ name, c.isAlpha = true)
    (hne : name ≠ []) (rest : List Char) :
    segments (token name ++ rest) = .token name :: segments rest := by
  have htoken : token name ++ rest = '\x7b' :: (name ++ '\x7d' :: rest) := by simp [token]
  rw [htoken, segments, if_pos rfl]
  split
  · next heq =>
    rw [tokenAfterBrace?_of_alpha halpha hne] at heq
    obtain ⟨rfl, rfl⟩ := Prod.mk.inj (Option.some.inj heq)
    rfl
  · next heq =>
    rw [tokenAfterBrace?_of_alpha halpha hne] at heq
    cases heq

/-- The names of slots are words. -/
theorem isAlpha_tag (slot : Slot) :
    (Enumeration.tag slot).toList ≠ [] ∧ ∀ c ∈ (Enumeration.tag slot).toList, c.isAlpha = true := by
  rw [← List.all_eq_true]
  cases slot <;> exact ⟨List.cons_ne_nil _ _, rfl⟩

/-! ## Filling pieces -/

/-- A literal piece has no opening brace. -/
def Piece.Plain : Piece → Prop
  | .text s => '\x7b' ∉ s.toList
  | .slot _ => True

instance (piece : Piece) : Decidable piece.Plain :=
  match piece with
  | .text s => inferInstanceAs (Decidable ('\x7b' ∉ s.toList))
  | .slot _ => inferInstanceAs (Decidable True)

/-- What a piece becomes; a slot without replacement stays. -/
def Piece.fill (replacements : List (String × String)) : Piece → List Char
  | .text s => s.toList
  | .slot s => fillSegment replacements (.token (Enumeration.tag s).toList)

theorem fill_render_append {piece : Piece} (h : piece.Plain)
    (replacements : List (String × String)) (rest : List Char) :
    (segments (piece.render.toList ++ rest)).flatMap (fillSegment replacements) =
      piece.fill replacements ++ (segments rest).flatMap (fillSegment replacements) := by
  cases piece with
  | text s =>
    rw [Piece.render, segments_append h, List.flatMap_append, List.flatMap_map, Piece.fill]
    exact congrArg (· ++ _) (List.flatMap_singleton' s.toList)
  | slot slot =>
    rw [Piece.render, slotToken, String.toList_ofList,
      segments_token (isAlpha_tag slot).2 (isAlpha_tag slot).1, List.flatMap_cons, Piece.fill]

/-- **A template is filled piece by piece.** -/
theorem toList_fill_text {pieces : List Piece} (h : ∀ piece ∈ pieces, piece.Plain)
    (replacements : List (String × String)) :
    (fill (text pieces) replacements).toList = pieces.flatMap (Piece.fill replacements) := by
  rw [fill, String.toList_ofList, text, String.toList_join, List.flatMap_map]
  induction pieces with
  | nil => rw [List.flatMap_nil, segments, List.flatMap_nil, List.flatMap_nil]
  | cons piece rest ih =>
    have hrest : ∀ piece ∈ rest, piece.Plain := fun piece hmem ↦
      h piece (List.mem_cons_of_mem _ hmem)
    rw [List.flatMap_cons, fill_render_append (h piece List.mem_cons_self), ih hrest,
      List.flatMap_cons]

/-! ## Values by slot -/

/-- Replacements of slots, whose keys are the names of the slots. -/
def valued (values : List (Slot × String)) : List (String × String) :=
  values.map fun entry ↦ (Enumeration.tag entry.1, entry.2)

/-- A slot can be told by its name. -/
theorem ofTag?_tag (slot : Slot) : Enumeration.ofTag? (Enumeration.tag slot) = some slot := by
  cases slot <;> rfl

theorem keyName_tag (slot : Slot) :
    keyName (Enumeration.tag slot) = (Enumeration.tag slot).toList := by
  cases slot <;> rfl

theorem keyName_tag_eq_iff {slot other : Slot} :
    keyName (Enumeration.tag other) = (Enumeration.tag slot).toList ↔ other = slot := by
  rw [keyName_tag, String.toList_inj]
  refine ⟨fun h ↦ ?_, fun h ↦ h ▸ rfl⟩
  have hsome : some other = some slot := by rw [← ofTag?_tag, h, ofTag?_tag]
  exact Option.some.inj hsome

theorem replacement?_valued (values : List (Slot × String)) (slot : Slot) :
    replacement? (valued values) (Enumeration.tag slot).toList = values.lookup slot := by
  induction values with
  | nil => rfl
  | cons entry rest ih =>
    obtain ⟨other, value⟩ := entry
    rw [valued, List.map_cons, ← valued, replacement?, List.find?_cons, List.lookup_cons]
    by_cases hsame : other = slot
    · subst hsame
      rw [beq_iff_eq.mpr (keyName_tag other), beq_self_eq_true]
      rfl
    · have hkey : keyName (Enumeration.tag other) ≠ (Enumeration.tag slot).toList := fun h ↦
        hsame (keyName_tag_eq_iff.mp h)
      rw [replacement?] at ih
      rw [beq_eq_false_iff_ne.mpr hkey, beq_eq_false_iff_ne.mpr (Ne.symm hsame), ih]

/-- What a piece becomes if it is said for each slot. -/
def Piece.worth (values : List (Slot × String)) : Piece → List Char
  | .text s => s.toList
  | .slot s => ((values.lookup s).map String.toList).getD (slotToken s).toList

/-- **A template is filled by the values of its slots.** -/
theorem toList_fill_valued {pieces : List Piece} (h : ∀ piece ∈ pieces, piece.Plain)
    (values : List (Slot × String)) :
    (fill (text pieces) (valued values)).toList = pieces.flatMap (Piece.worth values) := by
  rw [toList_fill_text h]
  refine congrArg pieces.flatMap (funext fun piece ↦ ?_)
  cases piece with
  | text s => rfl
  | slot s =>
    rw [Piece.fill, fillSegment, replacement?_valued, Piece.worth, slotToken, String.toList_ofList]

end SqlGateway.Template
