import Mathlib.Data.List.Forall2
import SqlGateway.Command
import SqlGateway.Proofs.Json.Reading

/-!
# Snapshots are read back

Error messages carry the parameters of a command as the text of a JSON document. Names and values go
into it as they are, and whatever they hold, the document has one object for each parameter.

A value is cut before it is written, so the cut counts characters of the value and not of its
escapes, and it can split neither an escape nor a character.
-/

namespace SqlGateway.Command

/-- How a snapshot shows a value: the absent value as `null`, any other as its text, and if that is
too long its first characters followed by three points. -/
structure Shows (value : Value) (shown : Json) : Prop where
  null_iff : shown = .null ↔ value = .null
  whole : value ≠ .null → value.display.toList.length ≤ 256 → shown = .string value.display
  cut : value ≠ .null → 256 < value.display.toList.length →
    shown = .string (String.ofList (value.display.toList.take 256) ++ "...")

theorem truncate_of_le {text : String} (h : text.toList.length ≤ snapshotLimit) :
    truncate text = text := if_pos h

theorem truncate_of_lt {text : String} (h : snapshotLimit < text.toList.length) :
    truncate text = String.ofList (text.toList.take snapshotLimit) ++ "..." := by
  rw [truncate, if_neg (Nat.not_le.mpr h), ← String.toList_inj]
  simp

theorem isNull_iff (value : Value) : value.isNull = true ↔ value = .null := by
  cases value <;> simp [Value.isNull]

theorem shows_snapshot (value : Value) :
    Shows value (if value.isNull then .null else .string (truncate value.display)) := by
  by_cases hnull : value = .null
  · rw [if_pos ((isNull_iff value).mpr hnull)]
    exact ⟨iff_of_true rfl hnull, fun h ↦ absurd hnull h, fun h ↦ absurd hnull h⟩
  · rw [if_neg (mt (isNull_iff value).mp hnull)]
    refine ⟨iff_of_false (fun h ↦ by cases h) hnull, fun _ hshort ↦ ?_, fun _ hlong ↦ ?_⟩
    · rw [truncate_of_le hshort]
    · rw [truncate_of_lt hlong]
      rfl

theorem legible_snapshotEntry (p : Parameter) : (snapshotEntry p).Legible := by
  refine .field (.string p.name) (.field ?_ .empty)
  split
  · exact .null
  · exact .string _

/-- **A snapshot is faithful.** Its text is read as an array of one object for each parameter, in
order, with the name of the parameter and what is shown of its value, and nothing else. -/
theorem read?_parameterSnapshot (command : Command) :
    ∃ items, Json.read? command.parameterSnapshot = some (.array items) ∧
      List.Forall₂ (fun p item ↦ ∃ shown,
          item = .object [("name", .string p.name), ("value", shown)] ∧ Shows p.value shown)
        command.parameters items := by
  refine ⟨command.parameters.map snapshotEntry, ?_, ?_⟩
  · refine Json.read?_render (.array fun item hitem ↦ ?_)
    obtain ⟨p, -, rfl⟩ := List.mem_map.mp hitem
    exact legible_snapshotEntry p
  · rw [List.forall₂_map_right_iff]
    exact List.forall₂_same.mpr fun p _ ↦ ⟨_, rfl, shows_snapshot p.value⟩

end SqlGateway.Command
