import SqlGateway.Executor.Pipeline
import SqlGateway.Proofs.Inference.Missing
import SqlGateway.Proofs.Sqlite.Capture
import SqlGateway.Sqlite.Connection

/-!
# Inferred parameters bind nothing

SQLite takes a parameter without a value for `NULL`, and so it makes no difference to it whether
`NULL` was bound by an inferred parameter or nothing was. The binder of a batch walks the names that
SQLite found in a statement, and knows nothing of the scanner that made parameters up. Here the two
are brought together: a batch runs alike with the inferred parameters and without them.

## The captured key

There is one name for which a missing parameter does not mean `NULL`. It is reserved, in any case
and with any markers, so nothing that was made up ever stands in front of the captured key. As the
key is that of the row which was created last, a dependent row refers to it.

## Every statement, not only the batch

A statement may change the key that later ones bind. So the binder is compared for every state of
the database and every name that a statement may have, whether or not the scanner could find it, and
the walk follows by induction over the statements.
-/

namespace SqlGateway

namespace Inference

/-! ## Looking parameters up -/

/-- The parameters made up for a statement. -/
def inferred (sql : String) (supplied : List Parameter) : List Parameter :=
  ((Placeholder.scan sql).filter (isMissing supplied)).map placeholderParameter

/-- A parameter that was made up is empty, and is found only under a name that is not reserved. -/
theorem null_of_find?_inferred {sql name : String} {supplied : List Parameter} {p : Parameter}
    (h : (inferred sql supplied).find? (·.isNamed name) = some p) :
    p.value = .null ∧ isReserved (Parameter.bareName name) = false := by
  obtain ⟨scanned, hscanned, rfl⟩ := List.mem_map.mp (List.mem_of_find?_eq_some h)
  obtain ⟨hscan, hmissing⟩ := List.mem_filter.mp hscanned
  have hnamed := List.find?_some h
  simp only [placeholderParameter_eq (Placeholder.bareName_of_mem_scan hscan),
    Parameter.isNamed] at hnamed
  rw [isMissing, Bool.and_eq_true, Bool.not_eq_true', isReserved, List.any_eq_false] at hmissing
  refine ⟨rfl, List.any_eq_false.mpr fun reserved hmem hsame ↦ hmissing.1 reserved hmem ?_⟩
  rw [Text.sameName_comm] at hnamed
  exact Text.sameName_trans hsame hnamed

/-- Of the resolved parameters a supplied one is found first. -/
theorem find?_infer (sql name : String) (supplied : List Parameter) :
    (infer sql supplied).find? (·.isNamed name) =
      (supplied.find? (·.isNamed name)).or ((inferred sql supplied).find? (·.isNamed name)) :=
  List.find?_append

end Inference

namespace Sqlite

variable {W : Type}

/-! ## One statement -/

/-- What a parameter of a statement is bound to is not changed by the inferred ones. -/
theorem bindVariable_infer (h : Handle) (sql : String) (supplied : List Parameter)
    (written : Option String) :
    bindVariable h (Inference.infer sql supplied) written = bindVariable h supplied written := by
  cases written with
  | none => rfl
  | some written =>
    simp only [bindVariable]
    rw [Inference.find?_infer]
    cases hsupplied : supplied.find? (·.isNamed (Parameter.bareName written)) with
    | some p => rfl
    | none =>
      rw [Option.none_or]
      cases hinferred : (Inference.inferred sql supplied).find?
          (·.isNamed (Parameter.bareName written)) with
      | none => rfl
      | some p =>
        obtain ⟨hvalue, hreserved⟩ := Inference.null_of_find?_inferred hinferred
        rw [Parameter.bareName_bareName, Inference.isReserved_eq_false_iff] at hreserved
        have hmaster : Text.sameName (Parameter.bareName written) masterId = false := by
          rw [Text.sameName_comm]
          exact hreserved masterId (by simp [masterId])
        simp only [hvalue, hmaster]
        rfl

/-- A parameter of the reserved name is bound to the captured key, unless it was supplied. -/
theorem bindVariable_masterId (h : Handle) (supplied : List Parameter) {written : String}
    (hname : Text.sameName (Parameter.bareName written) masterId = true) :
    bindVariable h supplied (some written) =
      match supplied.find? (·.isNamed (Parameter.bareName written)) with
      | some p => .ok (.ofValue p.value)
      | none => (capturedKey h).map fun key ↦ key.getD .null := by
  cases hsupplied : supplied.find? (·.isNamed (Parameter.bareName written)) with
  | some p => simp only [bindVariable, hsupplied]
  | none => simp only [bindVariable, hsupplied, hname, if_true]

theorem bind_infer (h : Handle) (sql : String) (supplied : List Parameter) (names : Variables) :
    bind h (Inference.infer sql supplied) names = bind h supplied names := by
  rw [bind, bind]
  exact congrArg names.mapM (funext (bindVariable_infer h sql supplied))

theorem step_infer (sql : String) (supplied : List Parameter) (names : Variables)
    (program : Program) (h : Handle) :
    step (Inference.infer sql supplied) names program h = step supplied names program h := by
  rw [step, step, bind_infer]

/-! ## Batches -/

/-- Statements run alike, whatever text the parameters were inferred from. -/
theorem walk_infer (token : Cancellation W) (sql : String) (supplied : List Parameter)
    (statements : List (Except SqlError Prepared)) (h : Handle) (world : W) :
    walk token (Inference.infer sql supplied) statements h world =
      walk token supplied statements h world := by
  induction statements generalizing h world with
  | nil => rfl
  | cons statement rest ih =>
    cases statement with
    | error e => rfl
    | ok p => simp only [walk, step_infer, ih]

namespace Connection

variable (site : Site W) (token : Cancellation W) (sql label : String)
  (supplied : List Parameter) (transaction : Option Uuid)

theorem run_infer :
    run site token ⟨sql, label, Inference.infer sql supplied, transaction⟩ =
      run site token ⟨sql, label, supplied, transaction⟩ := by
  funext world
  simp only [run, walk_infer]

theorem runFor_infer {α : Type} (part : Outcome → α) :
    runFor site part token ⟨sql, label, Inference.infer sql supplied, transaction⟩ =
      runFor site part token ⟨sql, label, supplied, transaction⟩ := by
  rw [runFor, run_infer, runFor]

theorem dispatch_infer (operation : Operation) :
    Executor.dispatch (backend site) ⟨sql, label, Inference.infer sql supplied, transaction⟩
        operation =
      Executor.dispatch (backend site) ⟨sql, label, supplied, transaction⟩ operation := by
  cases operation <;> simp only [Executor.dispatch, backend, runFor_infer]

theorem dispatchAsync_infer (operation : Operation) :
    Executor.dispatchAsync (backend site) ⟨sql, label, Inference.infer sql supplied, transaction⟩
        token operation =
      Executor.dispatchAsync (backend site) ⟨sql, label, supplied, transaction⟩ token
        operation := by
  cases operation <;> simp only [Executor.dispatchAsync, backend, offload, runFor_infer]

/-- **Inference is transparent**: a command runs alike with the inferred parameters and without
them, and what is captured is still bound to the reserved name. -/
theorem infer_transparent :
    let resolved : Command := ⟨sql, label, Inference.infer sql supplied, transaction⟩
    let bare : Command := ⟨sql, label, supplied, transaction⟩
    run site token resolved = run site token bare ∧
    (∀ operation, Executor.dispatch (backend site) resolved operation =
        Executor.dispatch (backend site) bare operation ∧
      Executor.dispatchAsync (backend site) resolved token operation =
        Executor.dispatchAsync (backend site) bare token operation) ∧
    ∀ written, Text.sameName (Parameter.bareName written) masterId = true →
      (∀ h, bindVariable h resolved.parameters (some written) =
        match supplied.find? (·.isNamed (Parameter.bareName written)) with
        | some p => .ok (.ofValue p.value)
        | none => (capturedKey h).map fun key ↦ key.getD .null) ∧
      ∀ schemaPlace place create clear keep rest h world, h.Capturable →
        supplied.find? (·.isNamed (Parameter.bareName written)) = none →
        Continues token resolved.parameters
          (.ok (creating schemaPlace place create) :: .ok (clearing clear) ::
            .ok (keeping keep) :: rest) rest h world
          fun after ↦ bindVariable after resolved.parameters (some written) =
            .ok (.integer h.lastRowid) := by
  intro resolved bare
  have hbound (written : String)
      (hname : Text.sameName (Parameter.bareName written) masterId = true) (h : Handle) :
      bindVariable h resolved.parameters (some written) =
        match supplied.find? (·.isNamed (Parameter.bareName written)) with
        | some p => .ok (.ofValue p.value)
        | none => (capturedKey h).map fun key ↦ key.getD .null := by
    rw [← bindVariable_masterId h supplied hname]
    exact bindVariable_infer h sql supplied (some written)
  refine ⟨run_infer site token sql label supplied transaction, fun operation ↦ ⟨?_, ?_⟩,
    fun written hname ↦ ⟨hbound written hname, ?_⟩⟩
  · exact dispatch_infer site sql label supplied transaction operation
  · exact dispatchAsync_infer site token sql label supplied transaction operation
  · intro schemaPlace place create clear keep rest h world hcapturable habsent
    refine (continues_capturing hcapturable schemaPlace place create clear keep).trans
      fun after world' hkey ↦ ?_
    have hafter : bindVariable after resolved.parameters (some written) =
        .ok (.integer h.lastRowid) := by
      rw [hbound written hname after, habsent, hkey]
      rfl
    exact .inr ⟨after, world', hafter, rfl⟩

/-- The key in the table is bound in whatever case the name is written, and so is the key of the row
that a new connection inserted last. -/
theorem infer_transparent_masterId :
    let site : Site (Connection × Disk) := ⟨id, fun there _ ↦ there⟩
    let parameters := Inference.infer "SELECT @masterid" []
    bindVariable { Handle.ofStore [] with temp := [capturingTable [⟨1, [.integer 7]⟩]] } parameters
        (some "@masterid") = .ok (.integer 7) ∧
      Continues uncancelled parameters
        [.ok (creating 0 0 []), .ok (clearing []), .ok (keeping [])] []
        { Handle.ofStore [] with lastRowid := 9 } (site.get default)
        fun after ↦ bindVariable after parameters (some "@masterid") = .ok (.integer 9) := by
  intro site parameters
  let keeper : Handle := { Handle.ofStore [] with temp := [capturingTable [⟨1, [.integer 7]⟩]] }
  have hkeeper : keeper.Captures [⟨1, [.integer 7]⟩] := rfl
  have hname : Text.sameName (Parameter.bareName "@masterid") masterId = true := by decide
  have hall := (infer_transparent site uncancelled "SELECT @masterid" "Sqlite" [] none).2.2
    "@masterid" hname
  constructor
  · rw [hall.1 keeper, capturedKey_of_captures hkeeper]
    rfl
  · exact hall.2 0 0 [] [] [] [] _ _ (.inl rfl) rfl

end Connection

end Sqlite

end SqlGateway
