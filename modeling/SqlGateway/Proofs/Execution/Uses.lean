import SqlGateway.Proofs.Execution.Abreast
import SqlGateway.Proofs.Trace.Offer

/-!
# Uses of an executor

An executor does nothing to the world by itself. Whatever happens there is done by its backend, by
its hooks, or by whoever reads the token of a call. So if none of these tells related worlds apart,
no use of the executor does, and related worlds are left again.

An invariant is a relation like any other: worlds that have it are related to themselves. So what a
backend, its hooks and the tokens keep is kept by the executor, from its creation on and through
failures, cancellations and panics.

## Main results

* `Abreast.Together.leave`: a use of one executor in related worlds leaves related worlds.
* `Executor.kept_leaveAll`: an invariant is kept by any uses.
-/

namespace SqlGateway

open Abreast

variable {W : Type}

/-! ## What does not tell worlds apart -/

/-- A backend that does the same in related worlds, as far as its tokens do. -/
structure Backend.Respects (R : W → W → Prop) (backend : Backend W) : Prop where
  state : Steps R backend.state backend.state
  establish : Steps R backend.establish backend.establish
  close : Steps R backend.close backend.close
  begin (isolation : Option IsolationLevel) :
    Steps R (backend.begin isolation) (backend.begin isolation)
  commit : Steps R backend.commit backend.commit
  rollback : Steps R backend.rollback backend.rollback
  interrupt : Steps R backend.interrupt backend.interrupt
  scalar (command : Command) : Acts R Eq (backend.scalar command) (backend.scalar command)
  nonQuery (command : Command) : Acts R Eq (backend.nonQuery command) (backend.nonQuery command)
  reader (command : Command) : Acts R Eq (backend.reader command) (backend.reader command)
  fill (command : Command) : Acts R Eq (backend.fill command) (backend.fill command)
  fillCancellable (command : Command) {token : Cancellation W} (h : Steps R token token) :
    Works R (backend.fillCancellable command token) (backend.fillCancellable command token)
  scalarAsync (command : Command) {token : Cancellation W} (h : Steps R token token) :
    Works R (backend.scalarAsync command token) (backend.scalarAsync command token)
  nonQueryAsync (command : Command) {token : Cancellation W} (h : Steps R token token) :
    Works R (backend.nonQueryAsync command token) (backend.nonQueryAsync command token)
  readerAsync (command : Command) {token : Cancellation W} (h : Steps R token token) :
    Works R (backend.readerAsync command token) (backend.readerAsync command token)

/-- A hook that does the same in related worlds. -/
def Hook.Respects (R : W → W → Prop) (hook : Hook W) : Prop :=
  ∀ command, Acts R Eq (hook command) (hook command)

/-- An executor whose backend and hooks do the same in related worlds. -/
structure Executor.Respects (R : W → W → Prop) (executor : Executor W) : Prop where
  backend : executor.backend.Respects R
  before : ∀ hook, executor.before = some hook → Hook.Respects R hook
  after : ∀ hook, executor.after = some hook → Hook.Respects R hook

theorem Executor.respects_of_unhooked {R : W → W → Prop} {executor : Executor W}
    (hbackend : executor.backend.Respects R) (hbefore : executor.before = none)
    (hafter : executor.after = none) : executor.Respects R where
  backend := hbackend
  before := by simp [hbefore]
  after := by simp [hafter]

/-! ## Calls of the backend -/

namespace Backend.Respects

variable {R : W → W → Prop} {backend : Backend W} (h : backend.Respects R)

include h

theorem dispatch (command : Command) (operation : Operation) :
    Acts R Eq (Executor.dispatch backend command operation)
      (Executor.dispatch backend command operation) := by
  have hpart {α : Type} {call : Action W (BackendResult α)} (hcall : Acts R Eq call call)
      (give : α → Output) :
      Acts R Eq (do return (← call).map give : Action W (BackendResult Output))
        (do return (← call).map give) := by
    refine .bind hcall ?_
    rintro answer _ rfl
    exact .pure rfl
  cases operation with
  | scalar => exact hpart (h.scalar command) Output.scalar
  | nonQuery => exact hpart (h.nonQuery command) Output.rowsAffected
  | table => exact hpart (h.reader command) Executor.tableOutput
  | tableSet names => exact hpart (h.fill command) (Executor.tablesOutput names)

theorem dispatchAsync (command : Command) {token : Cancellation W} (htoken : Steps R token token)
    (operation : Operation) :
    Works R (Executor.dispatchAsync backend command token operation)
      (Executor.dispatchAsync backend command token operation) := by
  cases operation with
  | scalar => exact (h.scalarAsync command htoken).map _
  | nonQuery => exact (h.nonQueryAsync command htoken).map _
  | table => exact (h.readerAsync command htoken).map _
  | tableSet names => exact (((h.fillCancellable command htoken).later).recover _).map _

end Backend.Respects

namespace Abreast

variable {R : W → W → Prop}

/-- A call that the token may end comes out alike if its works do. -/
theorem acts_runUnlessCancelled {backend : Backend W}
    (hinterrupt : Steps R backend.interrupt backend.interrupt) {token : Cancellation W}
    (htoken : Steps R token token) {work work' : Work W (BackendResult Output)}
    (h : Works R work work') :
    Acts R Eq (Executor.runUnlessCancelled backend token work)
      (Executor.runUnlessCancelled backend token work') := by
  have hrun : Acts R Eq (Executor.runCancellable backend token work)
      (Executor.runCancellable backend token work') := by
    intro v w hworld
    obtain ⟨hraces, hleft⟩ := h.race htoken hworld
    rcases hrace : work.race token v with ⟨race, left⟩
    rcases hrace' : work'.race token w with ⟨race', left'⟩
    rw [hrace, hrace'] at hraces hleft
    cases hraces with
    | finished outcome =>
      rw [Executor.perform_runCancellable_of_finished hrace,
        Executor.perform_runCancellable_of_finished hrace']
      exact ⟨outcomes_eq_iff.mpr rfl, hleft⟩
    | fired hrest =>
      rw [Executor.perform_runCancellable_of_fired hrace,
        Executor.perform_runCancellable_of_fired hrace', ← Work.map_eq_conclude,
        ← Work.map_eq_conclude]
      exact (hrest.map _).await _ _ (hinterrupt left left' hleft).2
  refine .bind (.ofState htoken) ?_
  rintro fired _ rfl
  cases fired with
  | true => exact .pure rfl
  | false => exact hrun

/-! ## Calls of the executor -/

/-- Scenes with the same executor in related worlds, which it does not tell apart. -/
abbrev Together (R : W → W → Prop) : Scene W → Scene W → Prop :=
  Scenes (fun first second ↦ first = second ∧ first.Respects R) R

namespace Together

theorem revise {change : Executor W → Executor W}
    (h : ∀ executor : Executor W, executor.Respects R → (change executor).Respects R) :
    Steps (Together R) (Scene.revise change) (Scene.revise change) := by
  refine .revise ?_
  rintro executor _ ⟨rfl, hrespects⟩
  exact ⟨rfl, h executor hrespects⟩

theorem connectionState :
    Steps (Together R) Executor.connectionState Executor.connectionState := by
  refine .get_bind ?_
  rintro ⟨executor, v⟩ ⟨_, w⟩ ⟨⟨rfl, hrespects⟩, -⟩
  exact .act hrespects.backend.state

theorem ensureOpen : Steps (Together R) Executor.ensureOpen Executor.ensureOpen := by
  refine .get_bind ?_
  rintro ⟨executor, v⟩ ⟨_, w⟩ ⟨⟨rfl, hrespects⟩, -⟩
  refine .bind connectionState fun first ↦ .ite (fun _ ↦ .pure _) fun _ ↦ ?_
  refine .bind connectionState fun second ↦ .ite (fun _ ↦ .pure _) fun _ ↦ ?_
  refine .bind (.act hrespects.backend.establish) fun answer ↦ ?_
  cases answer with
  | error e => exact .pure _
  | ok _ => exact .bind (revise fun _ h ↦ ⟨h.backend, h.before, h.after⟩) fun _ ↦ .pure _

theorem closeConnection :
    Steps (Together R) Executor.closeConnection Executor.closeConnection := by
  refine .get_bind ?_
  rintro ⟨executor, v⟩ ⟨_, w⟩ ⟨⟨rfl, hrespects⟩, -⟩
  refine .ite (fun _ ↦ .pure _) fun _ ↦ ?_
  exact .bind (revise fun _ h ↦ ⟨h.backend, h.before, h.after⟩) fun _ ↦
    .act hrespects.backend.close

theorem takeTransaction :
    Steps (Together R) Executor.takeTransaction Executor.takeTransaction := by
  refine .get_bind ?_
  rintro ⟨executor, v⟩ ⟨_, w⟩ ⟨⟨rfl, -⟩, -⟩
  exact .bind (revise fun _ h ↦ ⟨h.backend, h.before, h.after⟩) fun _ ↦ .pure _

theorem endTransaction {finish : Backend W → StateM W (BackendResult Unit)}
    (hfinish : ∀ backend : Backend W, backend.Respects R →
      Steps R (finish backend) (finish backend)) :
    Steps (Together R) (Executor.endTransaction finish) (Executor.endTransaction finish) := by
  refine .get_bind ?_
  rintro ⟨executor, v⟩ ⟨_, w⟩ ⟨⟨rfl, hrespects⟩, -⟩
  refine .bind takeTransaction fun taken ↦ ?_
  cases taken with
  | none => exact .pure _
  | some _ => exact .bind (.act (hfinish _ hrespects.backend)) fun _ ↦ .pure _

theorem dispose : Steps (Together R) Executor.dispose Executor.dispose := by
  refine .get_bind ?_
  rintro ⟨executor, v⟩ ⟨_, w⟩ ⟨⟨rfl, hrespects⟩, -⟩
  refine .ite (fun _ ↦ .pure _) fun _ ↦ ?_
  refine .bind (revise fun _ h ↦ ⟨h.backend, h.before, h.after⟩) fun _ ↦ ?_
  refine .bind (endTransaction fun _ h ↦ h.rollback) fun _ ↦ ?_
  exact .bind closeConnection fun _ ↦ .pure _

theorem begin [IdSource W] (hdraw : Steps R IdSource.newId IdSource.newId)
    (isolation : Option IsolationLevel) :
    Steps (Together R) (Executor.begin isolation) (Executor.begin isolation) := by
  refine .get_bind ?_
  rintro ⟨executor, v⟩ ⟨_, w⟩ ⟨⟨rfl, hrespects⟩, -⟩
  refine .ite (fun _ ↦ .pure _) fun _ ↦ .bind ensureOpen fun ensured ↦ ?_
  cases ensured with
  | error e => exact .pure _
  | ok _ =>
    refine .bind (.act (hrespects.backend.begin isolation)) fun answer ↦ ?_
    cases answer with
    | error e => exact .pure _
    | ok _ =>
      refine .bind (.act hdraw) fun id ↦ ?_
      exact .bind (revise fun _ h ↦ ⟨h.backend, h.before, h.after⟩) fun _ ↦ .pure _

/-! ### Running commands -/

theorem consult {hook : Option (Hook W)}
    (h : ∀ found, hook = some found → Hook.Respects R found) (command : Command) :
    Acts (Together R) Eq (Executor.consult hook command) (Executor.consult hook command) := by
  cases hook with
  | none => exact .pure rfl
  | some found => exact (h found rfl command).perform

section execute

variable (sql : String) (parameters : List Parameter) (code : String)

theorem refuseIfLost : Steps (Together R) (Executor.refuseIfLost sql parameters code)
    (Executor.refuseIfLost sql parameters code) := by
  refine .get_bind ?_
  rintro ⟨executor, v⟩ ⟨_, w⟩ ⟨⟨rfl, -⟩, -⟩
  refine .ite (fun _ ↦ .pure _) fun _ ↦ ?_
  refine .bind connectionState fun state ↦ .ite (fun _ ↦ .pure _) fun _ ↦ ?_
  exact .bind takeTransaction fun _ ↦ .pure _

theorem ready : Steps (Together R) (Executor.ready sql parameters code)
    (Executor.ready sql parameters code) := by
  refine .bind (refuseIfLost sql parameters code) fun refused ↦ ?_
  cases refused with
  | error e => exact .pure _
  | ok _ => exact ensureOpen

theorem prepare : Acts (Together R) Eq (Executor.prepare sql parameters code)
    (Executor.prepare sql parameters code) := by
  refine .bind (.ofState (ready sql parameters code)) ?_
  rintro answer _ rfl
  cases answer with
  | error e => exact .pure rfl
  | ok _ =>
    refine .bind .get ?_
    rintro ⟨executor, v⟩ ⟨_, w⟩ ⟨⟨rfl, hrespects⟩, -⟩
    exact .bind (consult hrespects.before _) fun _ _ _ ↦ .pure rfl

theorem finish (command : Command) (answer : BackendResult Output) :
    Acts (Together R) Eq (Executor.finish command code answer)
      (Executor.finish command code answer) := by
  cases answer with
  | error e => exact .pure rfl
  | ok output =>
    refine .bind .get ?_
    rintro ⟨executor, v⟩ ⟨_, w⟩ ⟨⟨rfl, hrespects⟩, -⟩
    exact .bind (consult hrespects.after command) fun _ _ _ ↦ .pure rfl

variable (operation : Operation)

theorem execute : Acts (Together R) Eq (Executor.execute sql parameters code operation)
    (Executor.execute sql parameters code operation) := by
  refine .bind (prepare sql parameters code) ?_
  rintro prepared _ rfl
  cases prepared with
  | error e => exact .pure rfl
  | ok command =>
    refine .bind .get ?_
    rintro ⟨executor, v⟩ ⟨_, w⟩ ⟨⟨rfl, hrespects⟩, -⟩
    refine .bind (hrespects.backend.dispatch command operation).perform ?_
    rintro answer _ rfl
    exact finish code command answer

theorem executeCancellable {token : Cancellation W} (htoken : Steps R token token) :
    Acts (Together R) Eq (Executor.executeCancellable sql parameters code operation token)
      (Executor.executeCancellable sql parameters code operation token) := by
  refine .bind (prepare sql parameters code) ?_
  rintro prepared _ rfl
  cases prepared with
  | error e => exact .pure rfl
  | ok command =>
    refine .bind .get ?_
    rintro ⟨executor, v⟩ ⟨_, w⟩ ⟨⟨rfl, hrespects⟩, -⟩
    have hworks := hrespects.backend.dispatchAsync command htoken operation
    refine .bind (acts_runUnlessCancelled hrespects.backend.interrupt htoken hworks).perform ?_
    rintro answer _ rfl
    exact finish code command answer

end execute

end Together

end Abreast

/-! ## Uses -/

namespace Executor

/-- A use of an executor, or something that happens in the world meanwhile. -/
inductive Use (W : Type) where
  | begin (isolation : Option IsolationLevel)
  | commit
  | rollback
  | dispose
  | execute (sql : String) (parameters : List Parameter) (code : String) (operation : Operation)
  | executeAsync (sql : String) (parameters : List Parameter) (code : String)
    (operation : Operation) (token : Cancellation W)
  | setBefore (hook : Hook W)
  | setAfter (hook : Hook W)
  | clearHooks
  | elsewhere (step : StateM W Unit)

/-- What a use leaves, whatever it answers, and also if it panics. -/
def Use.leave [IdSource W] (scene : Scene W) : Use W → Scene W
  | .begin isolation => ((Executor.begin isolation).run scene).2
  | .commit => (Executor.commit.run scene).2
  | .rollback => (Executor.rollback.run scene).2
  | .dispose => (Executor.dispose.run scene).2
  | .execute sql parameters code operation =>
    ((Executor.execute sql parameters code operation).perform scene).2
  | .executeAsync sql parameters code operation token =>
    ((Executor.executeAsync sql parameters code operation token).await.perform scene).2
  | .setBefore hook => ((Scene.revise (Executor.setBefore hook)).run scene).2
  | .setAfter hook => ((Scene.revise (Executor.setAfter hook)).run scene).2
  | .clearHooks => ((Scene.revise Executor.clearHooks).run scene).2
  | .elsewhere step => ((Scene.act step).run scene).2

/-- What uses leave, one after the other. -/
def leaveAll [IdSource W] (scene : Scene W) (uses : List (Use W)) : Scene W :=
  uses.foldl Use.leave scene

/-- A use whose token or hook does the same in related worlds. -/
def Use.Respects (R : W → W → Prop) : Use W → Prop
  | .executeAsync _ _ _ _ token => Steps R token token
  | .setBefore hook | .setAfter hook => Hook.Respects R hook
  | .elsewhere step => Steps R step step
  | _ => True

end Executor

namespace Abreast

variable {R : W → W → Prop} [IdSource W] (hdraw : Steps R IdSource.newId IdSource.newId)

include hdraw

/-- **No use of an executor tells related worlds apart.** -/
theorem Together.leave {use : Executor.Use W} (h : use.Respects R) {s t : Scene W}
    (hscene : Together R s t) : Together R (use.leave s) (use.leave t) := by
  cases use with
  | begin isolation => exact (Together.begin hdraw isolation s t hscene).2
  | commit => exact (Together.endTransaction (fun _ h ↦ h.commit) s t hscene).2
  | rollback => exact (Together.endTransaction (fun _ h ↦ h.rollback) s t hscene).2
  | dispose => exact (Together.dispose s t hscene).2
  | execute sql parameters code operation =>
    exact (Together.execute sql parameters code operation s t hscene).2
  | executeAsync sql parameters code operation token =>
    rw [Executor.Use.leave, Executor.Use.leave, Executor.executeAsync, Work.perform_await_later,
      Work.perform_await_later, Work.perform_await_ofAction, Work.perform_await_ofAction]
    exact (Together.executeCancellable sql parameters code operation h s t hscene).2
  | setBefore hook =>
    have hrevise : Steps (Together R) (Scene.revise (Executor.setBefore hook))
        (Scene.revise (Executor.setBefore hook)) :=
      Together.revise fun _ hrespects ↦
        ⟨hrespects.backend, fun _ hsome ↦ Option.some.inj hsome ▸ h, hrespects.after⟩
    exact (hrevise s t hscene).2
  | setAfter hook =>
    have hrevise : Steps (Together R) (Scene.revise (Executor.setAfter hook))
        (Scene.revise (Executor.setAfter hook)) :=
      Together.revise fun _ hrespects ↦
        ⟨hrespects.backend, hrespects.before, fun _ hsome ↦ Option.some.inj hsome ▸ h⟩
    exact (hrevise s t hscene).2
  | clearHooks =>
    have hrevise : Steps (Together R) (Scene.revise Executor.clearHooks)
        (Scene.revise Executor.clearHooks) :=
      Together.revise fun _ hrespects ↦
        Executor.respects_of_unhooked hrespects.backend rfl rfl
    exact (hrevise s t hscene).2
  | elsewhere step => exact (Steps.act h s t hscene).2

theorem Together.leaveAll {uses : List (Executor.Use W)} (h : ∀ use ∈ uses, use.Respects R)
    {s t : Scene W} (hscene : Together R s t) :
    Together R (Executor.leaveAll s uses) (Executor.leaveAll t uses) := by
  induction uses generalizing s t with
  | nil => exact hscene
  | cons use uses ih =>
    have huse : use.Respects R := h use List.mem_cons_self
    exact ih (fun other hmem ↦ h other (List.mem_cons_of_mem _ hmem)) (.leave hdraw huse hscene)

end Abreast

/-! ## Invariants -/

/-- Worlds with a property, each related to itself. -/
def Having (P : W → Prop) (v w : W) : Prop := v = w ∧ P w

section having

variable {P : W → Prop} {α : Type}

theorem steps_having {step : StateM W α} (h : ∀ world, P world → P (step.run world).2) :
    Steps (Having P) step step := by
  rintro world _ ⟨rfl, hworld⟩
  exact ⟨rfl, rfl, h world hworld⟩

theorem acts_having {action : Action W α} (h : ∀ world, P world → P (action.perform world).2) :
    Acts (Having P) Eq action action := by
  rintro world _ ⟨rfl, hworld⟩
  exact ⟨outcomes_eq_iff.mpr rfl, rfl, h world hworld⟩

namespace Executor

theorem together_having {executor : Executor W} (h : executor.Respects (Having P)) {world : W}
    (hworld : P world) : Together (Having P) ⟨executor, world⟩ ⟨executor, world⟩ :=
  ⟨⟨rfl, h⟩, rfl, hworld⟩

/-- What a backend keeps is kept when an executor is created on it. -/
theorem create_having {serverType : ServerType} {dialect : Dialect} {backend : Backend W}
    (h : backend.Respects (Having P)) {world left : W} (hworld : P world) {executor : Executor W}
    (hcreate : (create serverType dialect backend).run world = (.ok executor, left)) :
    executor.Respects (Having P) ∧ P left := by
  let made := ensureOpen.run ⟨fresh serverType dialect backend, world⟩
  have hfresh : (fresh serverType dialect backend).Respects (Having P) :=
    respects_of_unhooked h rfl rfl
  obtain ⟨-, hleft⟩ := Together.ensureOpen _ _ (together_having hfresh hworld)
  have hrun : (create serverType dialect backend).run world =
      (made.1.map fun () ↦ made.2.executor, made.2.world) := rfl
  rw [hrun] at hcreate
  obtain ⟨hanswer, rfl⟩ := Prod.mk.inj hcreate
  refine ⟨?_, hleft.world.2⟩
  cases hensured : made.1 with
  | error e =>
    rw [hensured] at hanswer
    cases hanswer
  | ok _ =>
    rw [hensured] at hanswer
    obtain rfl := Except.ok.inj hanswer
    exact hleft.executor.2

/-- **What the backend, the hooks and the tokens keep is kept by any uses.** -/
theorem kept_leaveAll [IdSource W]
    (hdraw : ∀ world, P world → P ((IdSource.newId (W := W)).run world).2) {executor : Executor W}
    (h : executor.Respects (Having P)) {world : W} (hworld : P world) {uses : List (Use W)}
    (huses : ∀ use ∈ uses, use.Respects (Having P)) : P (leaveAll ⟨executor, world⟩ uses).world :=
  (Together.leaveAll (steps_having hdraw) huses (together_having h hworld)).world.2

end Executor

end having

end SqlGateway
