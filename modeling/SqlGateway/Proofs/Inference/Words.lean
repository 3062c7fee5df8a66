import SqlGateway.Proofs.Inference.Missing
import SqlGateway.Proofs.Inference.Naming
import SqlGateway.Proofs.Text.Runs

/-!
# Names that are cut

In front of an `@` the scanner looks for word characters of every script, but a name it ends at the
first character that is no ASCII letter, digit or underscore. So the name of a placeholder need not
be the whole word that stands there: it is cut where the word goes on with a letter of another
script, or with a mark.

A caller who names parameters after the words then gets one too many, called by what is left of the
word. Nothing is made up exactly if the scanned names, cut or not, are all supplied or reserved.
-/

namespace SqlGateway

namespace Text

/-- Among ASCII characters, those of words are those of names. -/
theorem le_val_of_isWord {c : Char} (hword : isWord c = true) (hname : isNameRest c = false) :
    128 ≤ c.val := by
  rw [isWord] at hword
  split at hword
  next => exact absurd (hword.symm.trans hname) (by decide)
  next h => exact UInt32.not_lt.mp h

end Text

namespace Placeholder

/-! ## Words -/

/-- The word behind an `@` at a place: as many word characters as there are. -/
def wordAt (cs : List Char) (i : Nat) : String :=
  String.ofList ((cs.drop (i + 1)).takeWhile Text.isWord)

/-- The character behind the name at a place, if the text goes on. -/
def behindName? (cs : List Char) (i : Nat) : Option Char := cs[i + 1 + (nameBehind cs i).length]?

theorem behindName?_eq (cs : List Char) (i : Nat) :
    behindName? cs i = (cs.drop (i + 1))[(nameBehind cs i).length]? := by
  rw [behindName?, List.getElem?_drop]

/-- A name is the whole word if what comes behind it is no word character. -/
theorem wordAt_eq_nameAt_iff (cs : List Char) (i : Nat) :
    wordAt cs i = nameAt cs i ↔ ∀ c ∈ behindName? cs i, Text.isWord c = false := by
  rw [wordAt, nameAt, String.ofList_inj, behindName?_eq]
  exact Text.takeWhile_eq_takeWhile_iff (fun _ ↦ Text.isWord_of_isNameRest) _

/-- Only a character beyond ASCII cuts a name. -/
theorem le_val_of_mem_behindName? {cs : List Char} {i : Nat} {c : Char}
    (h : c ∈ behindName? cs i) (hword : Text.isWord c = true) : 128 ≤ c.val := by
  rw [behindName?_eq] at h
  exact Text.le_val_of_isWord hword (Text.getElem?_length_takeWhile h)

theorem scan_eq_dedupe (sql : String) :
    scan sql = dedupe ((places sql.toList).map (nameAt sql.toList)) := by
  rw [scan, occurrences_eq_lookBehind, lookBehind_stripLiterals, lookOutside_eq_places,
    List.map_map]
  rfl

end Placeholder

namespace Inference

open Placeholder

/-! ## Names that lack nothing -/

theorem isMissing_congr (supplied : List Parameter) {name other : String}
    (h : Text.sameName name other = true) : isMissing supplied name = isMissing supplied other := by
  have hreserved : isReserved name = isReserved other := by
    refine congrArg reservedNames.any (funext fun reserved ↦ ?_)
    rw [Text.sameName, Text.sameName_iff.mp h]
    rfl
  have hnamed (p : Parameter) : p.isNamed name = p.isNamed other :=
    p.isNamed_congr (Parameter.bareName_congr h)
  rw [isMissing, isMissing, hreserved]
  simp only [hnamed]

theorem isMissing_eq_false_iff (supplied : List Parameter) (name : String) :
    isMissing supplied name = false ↔
      isReserved name = true ∨ ∃ p ∈ supplied, p.isNamed name = true := by
  rw [isMissing, Bool.and_eq_false_iff, Bool.not_eq_false', Bool.not_eq_false', List.any_eq_true]

/-- Nothing is made up if no scanned name lacks a parameter. -/
theorem infer_eq_self_iff (sql : String) (supplied : List Parameter) :
    infer sql supplied = supplied ↔ ∀ name ∈ scan sql, isMissing supplied name = false := by
  rw [infer, List.append_right_eq_self, List.map_eq_nil_iff, List.filter_eq_nil_iff]
  simp only [Bool.not_eq_true]

/-- Repeats lack what the name that is kept lacks. -/
theorem forall_scan_iff (sql : String) (supplied : List Parameter) :
    (∀ name ∈ scan sql, isMissing supplied name = false) ↔
      ∀ i ∈ places sql.toList, isMissing supplied (nameAt sql.toList i) = false := by
  rw [scan_eq_dedupe]
  constructor
  · intro h i hi
    have hkept : (dedupe ((places sql.toList).map (nameAt sql.toList))).any
        (Text.sameName · (nameAt sql.toList i)) = true := by
      rw [any_dedupe]
      exact List.any_eq_true.mpr ⟨_, List.mem_map_of_mem hi, Text.sameName_self _⟩
    obtain ⟨kept, hmem, hsame⟩ := List.any_eq_true.mp hkept
    rw [← isMissing_congr supplied hsame]
    exact h kept hmem
  · intro h name hname
    obtain ⟨i, hi, rfl⟩ := List.mem_map.mp (mem_of_mem_dedupe hname)
    exact h i hi

/-- **Parameters named after the words leave nothing to infer, unless a name is cut.** Every
scanned name stands at a place. It is the whole word there if no word character comes behind it, and
one that does is beyond ASCII. What is supplied stays as it is exactly if each name, as it was
scanned, is supplied or reserved; so it does if a parameter is supplied for each word and no name is
cut. -/
theorem infer_words (sql : String) (supplied : List Parameter) :
    let cs := sql.toList
    (∀ name ∈ scan sql, ∃ i ∈ places cs, name = nameAt cs i) ∧
    (∀ i ∈ places cs,
      (wordAt cs i = nameAt cs i ↔ ∀ c ∈ behindName? cs i, Text.isWord c = false) ∧
      ∀ c ∈ behindName? cs i, Text.isWord c = true → 128 ≤ c.val) ∧
    (infer sql supplied = supplied ↔ ∀ i ∈ places cs,
      isReserved (nameAt cs i) = true ∨ ∃ p ∈ supplied, p.isNamed (nameAt cs i) = true) ∧
    ((∀ i ∈ places cs, ∃ p ∈ supplied, p.isNamed (wordAt cs i) = true) →
      (∀ i ∈ places cs, wordAt cs i = nameAt cs i) → infer sql supplied = supplied) := by
  intro cs
  have hself : infer sql supplied = supplied ↔ ∀ i ∈ places cs,
      isReserved (nameAt cs i) = true ∨ ∃ p ∈ supplied, p.isNamed (nameAt cs i) = true := by
    rw [infer_eq_self_iff, forall_scan_iff]
    simp only [isMissing_eq_false_iff]
    rfl
  refine ⟨fun name hname ↦ ?_, fun i _ ↦ ?_, hself, fun hsupplied hwhole ↦ ?_⟩
  · rw [scan_eq_dedupe] at hname
    obtain ⟨i, hi, heq⟩ := List.mem_map.mp (mem_of_mem_dedupe hname)
    exact ⟨i, hi, heq.symm⟩
  · exact ⟨wordAt_eq_nameAt_iff cs i, fun c hc ↦ le_val_of_mem_behindName? hc⟩
  · refine hself.mpr fun i hi ↦ .inr ?_
    rw [← hwhole i hi]
    exact hsupplied i hi

/-- The word `naïve` is cut behind its second letter. A parameter of that name is supplied, and yet
one is made up for `na`. -/
theorem infer_words_naive :
    let sql := "SELECT @naïve"
    let supplied := [Parameter.named "naïve" .nVarChar .null]
    scan sql = ["na"] ∧ places sql.toList = [7] ∧ wordAt sql.toList 7 = "naïve" ∧
      infer sql supplied = supplied ++ [⟨"na", .nVarChar, some 4000, .null⟩] ∧
      infer sql supplied ≠ supplied := by
  intro sql supplied
  have hscan : scan sql = ["na"] := by
    rw [scan, occurrences_eq_lookBehind, lookBehind_stripLiterals]
    decide
  have hplaces : places sql.toList = [7] := by decide
  have hcut : ¬∀ i ∈ places sql.toList, isReserved (nameAt sql.toList i) = true ∨
      ∃ p ∈ supplied, p.isNamed (nameAt sql.toList i) = true := by
    rw [hplaces]
    decide
  have hmissing : ["na"].filter (isMissing supplied) = ["na"] := by decide
  refine ⟨hscan, hplaces, by decide, ?_, fun h ↦ hcut ((infer_words sql supplied).2.2.1.mp h)⟩
  rw [infer, hscan, hmissing, List.map_singleton, placeholderParameter_eq (by decide)]

end Inference

end SqlGateway
