import SqlGateway.Proofs.Inference.Recognition
import SqlGateway.Proofs.Inference.Words

/-!
# Inferring twice

What inference gives is complete: every placeholder has its parameter then, so that to infer again
adds nothing. This hangs on names once more. A parameter that was made up has to answer to the very
name that the scanner reports, or else a second inference would make it up again, and it has to
stand behind the supplied ones, or else it would hide the value that the caller gave.

Nothing is assumed of the supplied parameters. One whose name is kept with a marker in front of it
does not have the name of a placeholder, which never begins with one.
-/

namespace SqlGateway.Inference

variable {sql name : String} {supplied : List Parameter}

/-- After inference no scanned name lacks a parameter. -/
theorem isMissing_infer (hscan : name ∈ Placeholder.scan sql) :
    isMissing (infer sql supplied) name = false := by
  rw [isMissing_eq_false_iff]
  cases hmissing : isMissing supplied name with
  | false =>
    refine ((isMissing_eq_false_iff supplied name).mp hmissing).imp_right ?_
    rintro ⟨p, hp, hnamed⟩
    exact ⟨p, List.mem_append_left _ hp, hnamed⟩
  | true =>
    have hfound := find?_inferred hscan (sameName_scanned hscan) hmissing
    have hnamed := List.find?_some hfound
    exact .inr ⟨_, List.mem_append_right _ (List.mem_of_find?_eq_some hfound), hnamed⟩

/-- The parameter that a placeholder stands for is the first supplied one of its name, or else an
empty one. -/
theorem find?_infer_of_scanned (hscan : name ∈ Placeholder.scan sql)
    (hreserved : isReserved name = false) {written : String}
    (hwritten : Text.sameName (Parameter.bareName written) name = true) :
    (infer sql supplied).find? (·.isNamed written) =
      some ((supplied.find? fun p ↦ Text.sameName p.name name).getD
        ⟨name, .nVarChar, some 4000, .null⟩) := by
  have hnamed : (fun p : Parameter ↦ p.isNamed written) =
      fun p ↦ Text.sameName p.name name := by
    funext p
    rw [Parameter.isNamed, Text.sameName, Text.sameName, Text.sameName_iff.mp hwritten]
  rw [find?_infer, hnamed]
  cases hsupplied : supplied.find? fun p ↦ Text.sameName p.name name with
  | some p => rfl
  | none =>
    have hmissing : isMissing supplied name = true := by
      refine (isMissing_iff_bearer? hscan).mpr ⟨hreserved, ?_⟩
      rw [← find?_of_bearer? hwritten, hnamed, hsupplied]
    rw [← hnamed, find?_inferred hscan hwritten hmissing]
    rfl

/-- **Inference is idempotent, and complete**: every scanned name that is not reserved is found in a
command with the inferred parameters, in any case and with any markers in front of it. What is found
is the first supplied parameter of the name, or else the one that was made up. -/
theorem infer_idempotent (sql : String) (supplied : List Parameter) :
    infer sql (infer sql supplied) = infer sql supplied ∧
    ∀ name ∈ Placeholder.scan sql,
      (∀ reserved ∈ ["InsertedTable", "MasterId"], Text.sameName reserved name = false) →
      ∀ (command : Command) (markers : List Char) (spelled : String),
        command.parameters = infer sql supplied →
        (∀ c ∈ markers, c = '@' ∨ c = ':' ∨ c = '$') → Text.sameName spelled name = true →
        command.parameter? (String.ofList markers ++ spelled) =
          some ((supplied.find? fun p ↦ Text.sameName p.name name).getD
            ⟨name, .nVarChar, some 4000, .null⟩) := by
  refine ⟨(infer_eq_self_iff sql _).mpr fun name hscan ↦ isMissing_infer hscan, ?_⟩
  intro name hscan hreserved command markers spelled hparameters hmarkers hspelled
  have hwritten := Parameter.sameName_append
    (fun c hc ↦ Parameter.isMarker_iff.mpr (hmarkers c hc)) hspelled
  rw [Placeholder.bareName_of_mem_scan hscan] at hwritten
  rw [Command.parameter?, hparameters]
  exact find?_infer_of_scanned hscan ((isReserved_eq_false_iff name).mpr hreserved) hwritten

/-- Two parameters are supplied under one name, and none under another one. -/
theorem infer_idempotent_where :
    let sql := "SELECT @Name WHERE id = @Id"
    let supplied := [Parameter.named ":ID" .int (.int 7), .named "id" .int (.int 8)]
    let command := Command.ofSql sql (infer sql supplied)
    infer sql (infer sql supplied) = infer sql supplied ∧
      command.parameter? "$iD" = some ⟨"ID", .int, none, .int 7⟩ ∧
      command.parameter? "@@NAME" = some ⟨"Name", .nVarChar, some 4000, .null⟩ := by
  intro sql supplied command
  have hscan : Placeholder.scan sql = ["Name", "Id"] := by
    rw [Placeholder.scan, Placeholder.occurrences_eq_lookBehind,
      Placeholder.lookBehind_stripLiterals]
    decide
  obtain ⟨htwice, hfound⟩ := infer_idempotent sql supplied
  rw [hscan] at hfound
  refine ⟨htwice, ?_, ?_⟩
  · exact hfound "Id" (by decide) (by decide) command ['$'] "iD" rfl (by simp) (by decide)
  · exact hfound "Name" (by decide) (by decide) command ['@', '@'] "NAME" rfl (by simp) (by decide)

end SqlGateway.Inference
