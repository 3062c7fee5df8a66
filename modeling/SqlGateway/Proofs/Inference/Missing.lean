import SqlGateway.Inference
import SqlGateway.Proofs.Inference.Naming
import SqlGateway.Proofs.Placeholder.Places

/-!
# What is inferred

Which parameters are made up for a statement hangs on three comparisons of names: the scanner drops
repeats, the reserved names are left out, and so are the names that supplied parameters answer to.
They have to agree, or else a name would get two parameters or none, or one that hides the value
that the caller supplied.

## Why they agree

All three are equalities of folded names, and the markers in front of a name make no difference.
The name of a parameter that was made has lost them already, and a scanned name never had any, as it
begins with a letter or an underscore.
-/

namespace SqlGateway

/-! ## Parameters as they are made -/

namespace Parameter

/-- A parameter that was made under a name and then, perhaps, given a size. -/
inductive Made : Parameter → Prop where
  | named (name : String) (dbType : DbType) (value : Value) : Made (.named name dbType value)
  | withSize {p : Parameter} (h : Made p) (size : UInt32) : Made (p.withSize size)

theorem Made.bareName_name {p : Parameter} (h : p.Made) : bareName p.name = p.name := by
  induction h with
  | named name dbType value => exact bareName_bareName name
  | withSize h size ih => exact ih

theorem isMarker_of_isNameStart {c : Char} (h : Text.isNameStart c = true) :
    isMarker c = false := by
  refine eq_false_of_ne_true fun hmarker ↦ ?_
  rcases isMarker_iff.mp hmarker with rfl | rfl | rfl
  · exact absurd h (by decide)
  · exact absurd h (by decide)
  · exact absurd h (by decide)

/-- What begins like a name has no markers to lose. -/
theorem bareName_of_isNameStart {name : String} {c : Char} (hfirst : name.toList.head? = some c)
    (hstart : Text.isNameStart c = true) : bareName name = name := by
  refine bareName_eq_self fun d hd ↦ ?_
  obtain rfl := Option.some.inj (hfirst.symm.trans hd)
  exact isMarker_of_isNameStart hstart

end Parameter

/-! ## Scanned names -/

namespace Placeholder

theorem isNameStart_of_mem_lookOutside {free inside : Bool} {cs name : List Char}
    (h : name ∈ lookOutside free inside cs) :
    ∃ c, name.head? = some c ∧ Text.isNameStart c = true := by
  induction cs generalizing free inside with
  | nil => cases h
  | cons c cs ih =>
    rw [lookOutside] at h
    split at h
    next hfound =>
      rcases List.mem_cons.mp h with rfl | h
      · simp only [Bool.and_eq_true] at hfound
        obtain ⟨first, hfirst, hstart⟩ := (Option.any_eq_true _ _).mp hfound.2.2
        obtain ⟨rest, rfl⟩ := List.head?_eq_some_iff.mp hfirst
        rw [List.takeWhile_cons_of_pos (Text.isNameRest_of_isNameStart hstart)]
        exact ⟨first, rfl, hstart⟩
      · exact ih h
    next => exact ih h

theorem mem_of_mem_dedupe {names : List String} {name : String} (h : name ∈ dedupe names) :
    name ∈ names := by
  induction names using List.reverseRecOn with
  | nil => exact h
  | append_singleton names last ih =>
    rw [dedupe_concat] at h
    split at h
    next => exact List.mem_append_left _ (ih h)
    next =>
      rcases List.mem_append.mp h with h | h
      · exact List.mem_append_left _ (ih h)
      · exact List.mem_append_right _ h

/-- No name is kept twice, in whatever case. -/
theorem dedupe_pairwise (names : List String) :
    (dedupe names).Pairwise fun a b ↦ Text.sameName a b = false := by
  induction names using List.reverseRecOn with
  | nil => exact List.Pairwise.nil
  | append_singleton names last ih =>
    rw [dedupe_concat]
    split
    next => exact ih
    next hfresh =>
      refine List.pairwise_append.mpr ⟨ih, List.pairwise_singleton _ _, ?_⟩
      intro a ha b hb
      rw [List.mem_singleton.mp hb]
      exact eq_false_of_ne_true fun hsame ↦ hfresh (List.any_eq_true.mpr ⟨a, ha, hsame⟩)

/-- A scanned name has no markers in front of it. -/
theorem bareName_of_mem_scan {sql name : String} (h : name ∈ scan sql) :
    Parameter.bareName name = name := by
  have hmem : name ∈ (lookOutside true false sql.toList).map String.ofList := by
    rw [← lookBehind_stripLiterals, ← occurrences_eq_lookBehind]
    exact mem_of_mem_dedupe h
  obtain ⟨cs, hcs, rfl⟩ := List.mem_map.mp hmem
  obtain ⟨c, hfirst, hstart⟩ := isNameStart_of_mem_lookOutside hcs
  exact Parameter.bareName_of_isNameStart (by rw [String.toList_ofList, hfirst]) hstart

end Placeholder

namespace Inference

/-! ## Names without a parameter -/

/-- A name that a parameter has to be made up for: it is not reserved, and nothing is supplied under
it, in any case and with any markers. -/
def Lacking (supplied : List Parameter) (name : String) : Prop :=
  (∀ reserved ∈ ["InsertedTable", "MasterId"], Text.sameName reserved name = false) ∧
    ∀ p ∈ supplied, Text.sameName (Parameter.bareName p.name) (Parameter.bareName name) = false

instance (supplied : List Parameter) (name : String) : Decidable (Lacking supplied name) :=
  inferInstanceAs (Decidable (_ ∧ _))

theorem isReserved_eq_false_iff (name : String) :
    isReserved name = false ↔
      ∀ reserved ∈ ["InsertedTable", "MasterId"], Text.sameName reserved name = false := by
  rw [isReserved, List.any_eq_false]
  simp only [Bool.not_eq_true, reservedNames]

theorem isMissing_iff_lacking {supplied : List Parameter} (h : ∀ p ∈ supplied, p.Made)
    (name : String) : isMissing supplied name = true ↔ Lacking supplied name := by
  rw [isMissing, Bool.and_eq_true, Bool.not_eq_true', Bool.not_eq_true', isReserved_eq_false_iff,
    List.any_eq_false, Lacking]
  refine and_congr_right fun _ ↦ forall₂_congr fun p hp ↦ ?_
  rw [Bool.not_eq_true, Parameter.isNamed, (h p hp).bareName_name]

theorem placeholderParameter_eq {name : String} (h : Parameter.bareName name = name) :
    placeholderParameter name = ⟨name, .nVarChar, some 4000, .null⟩ := by
  rw [placeholderParameter, Parameter.named, h]
  rfl

/-- **Each placeholder that lacks a parameter gets one**, behind the supplied ones and in the order
of the scanner. -/
theorem infer_made (sql : String) (supplied : Option (List Parameter))
    (h : ∀ p ∈ supplied.getD [], p.Made) :
    let names := (Placeholder.scan sql).filter (Lacking (supplied.getD []))
    infer sql (supplied.getD []) = supplied.getD [] ++
        names.map (fun name ↦ ⟨name, .nVarChar, some 4000, .null⟩) ∧
      names.Pairwise (fun a b ↦ Text.sameName a b = false) ∧
      (∀ name ∈ names, ∀ p ∈ supplied.getD [], Text.sameName p.name name = false) ∧
      ∀ name ∈ names, Text.sameName "InsertedTable" name = false ∧
        Text.sameName "MasterId" name = false := by
  intro names
  have hscan (name : String) (hmem : name ∈ names) :
      name ∈ Placeholder.scan sql ∧ Lacking (supplied.getD []) name := by
    rw [List.mem_filter, decide_eq_true_iff] at hmem
    exact hmem
  have hmissing : (Placeholder.scan sql).filter (isMissing (supplied.getD [])) = names := by
    refine List.filter_congr fun name _ ↦ ?_
    rw [Bool.eq_iff_iff, decide_eq_true_iff, isMissing_iff_lacking h]
  refine ⟨?_, ?_, ?_, ?_⟩
  · rw [infer, hmissing]
    refine congrArg _ (List.map_congr_left fun name hmem ↦ ?_)
    exact placeholderParameter_eq (Placeholder.bareName_of_mem_scan (hscan name hmem).1)
  · exact (Placeholder.dedupe_pairwise _).filter _
  · intro name hmem p hp
    obtain ⟨hname, -, hsupplied⟩ := hscan name hmem
    have hdiffers := hsupplied p hp
    rwa [(h p hp).bareName_name, Placeholder.bareName_of_mem_scan hname] at hdiffers
  · intro name hmem
    obtain ⟨-, hreserved, -⟩ := hscan name hmem
    exact ⟨hreserved _ (by simp), hreserved _ (by simp)⟩

/-- A supplied parameter, a reserved name and a repeat, all in another case, and a literal. -/
theorem infer_made_update :
    (∀ p ∈ [Parameter.named "@Id" .int (.int 7)], p.Made) ∧
      infer "UPDATE t SET a = @Name, b = @MASTERID, c = '@x', d = @name WHERE id = @ID"
          [.named "@Id" .int (.int 7)] =
        [⟨"Id", .int, none, .int 7⟩, ⟨"Name", .nVarChar, some 4000, .null⟩] := by
  have hmade : ∀ p ∈ [Parameter.named "@Id" .int (.int 7)], p.Made := by
    intro p hp
    rw [List.mem_singleton.mp hp]
    exact .named "@Id" .int (.int 7)
  have hscan : Placeholder.scan
      "UPDATE t SET a = @Name, b = @MASTERID, c = '@x', d = @name WHERE id = @ID" =
        ["Name", "MASTERID", "ID"] := by
    rw [Placeholder.scan, Placeholder.occurrences_eq_lookBehind,
      Placeholder.lookBehind_stripLiterals]
    decide
  have hlacking : ["Name", "MASTERID", "ID"].filter
      (Lacking [Parameter.named "@Id" .int (.int 7)]) = ["Name"] := by
    decide
  obtain ⟨hinfer, -⟩ := infer_made
    "UPDATE t SET a = @Name, b = @MASTERID, c = '@x', d = @name WHERE id = @ID"
    (some [.named "@Id" .int (.int 7)]) hmade
  rw [Option.getD_some, hscan, hlacking] at hinfer
  exact ⟨hmade, hinfer⟩

end Inference

end SqlGateway
