import SqlGateway.Proofs.Sqlite.Beside

/-!
# Requests in a transaction and without one

The same requests are made of an executor that has begun a transaction and of one that has not.
Where nobody else uses the database, and no text controls transactions by itself, all of them come
to the same, also those that fail half-way, are cancelled or panic in a hook.

The executors of the two runs differ in the transaction only, and their worlds in the connection and
in the ids that were drawn. So hooks and tokens, which belong to the rest of the world, may not look
at these: else they could tell the runs apart by themselves.
-/

namespace SqlGateway.Executor

open Abreast Sqlite

section

variable {W X : Type} {site : Site W} {outside : W → X} {start : Connection × Disk}
  {opened : OpenDatabase}

/-! ## Open connections -/

section ready

variable {scene : Scene W} (hserves : site.Serves scene.executor)
  (hopen : (site.get scene.world).1.state = .open)

include hserves hopen in
theorem ensureOpen_of_open : ensureOpen.run scene = (.ok (), scene) := by
  rw [ensureOpen, run_bind, run_get, run_bind, connectionState_run hserves, hopen]
  rfl

include hserves hopen in
theorem ready_of_open (sql : String) (supplied : List Parameter) (code : String) :
    (ready sql supplied code).run scene = (.ok (), scene) := by
  rw [ready, run_bind]
  rcases refuseIfLost_run hserves sql supplied code with hrefuse | ⟨-, hclosed, -⟩
  · rw [hrefuse]
    exact ensureOpen_of_open hserves hopen
  · exact absurd hopen hclosed

end ready

/-! ## The executors of the two runs -/

/-- An executor of a connection whose hooks belong to the rest of the world. -/
structure Discreet [IdSource W] (site : Site W) (outside : W → X) (executor : Executor W) :
    Prop where
  serves : site.Serves executor
  apart : site.Apart outside
  before : ∀ hook, executor.before = some hook → Overlooks outside hook
  after : ∀ hook, executor.after = some hook → Overlooks outside hook

/-- An executor without a transaction and the same one with it. -/
structure Twins (executor : Executor W) (active : ActiveTransaction) (plain tagged : Executor W) :
    Prop where
  plain : plain = executor
  tagged : tagged = { executor with transaction := some active }

theorem Discreet.tagged [IdSource W] {executor : Executor W}
    (h : Discreet site outside executor) (active : ActiveTransaction) :
    site.Serves { executor with transaction := some active } :=
  ⟨h.serves.get_set, h.serves.backend, h.serves.before, h.serves.after⟩

/-! ## One request -/

/-- To show a command to a hook comes to the same, whatever transaction it is tagged with. -/
theorem acts_consult {executor : Executor W} {active : ActiveTransaction} {hook : Option (Hook W)}
    (hoverlooks : ∀ found, hook = some found → Overlooks outside found)
    (hspares : ∀ found, hook = some found → site.Spares found) (command : Command)
    (transaction : Option Uuid) :
    Acts (Scenes (Twins executor active) (Beside site outside start opened)) Eq
      (consult hook command) (consult hook { command with transaction := transaction }) := by
  cases hook with
  | none => exact .pure rfl
  | some found =>
    exact (Beside.hook (hoverlooks found rfl) (hspares found rfl) command transaction).perform

section request

variable [IdSource W] {executor : Executor W} {active : ActiveTransaction}
  (hdiscreet : Discreet site outside executor)

include hdiscreet in
/-- The steps after the backend has answered. An error does not name the transaction. -/
theorem acts_finish (command : Command) (transaction : Option Uuid) (code : String)
    (answer : BackendResult Output) :
    Acts (Scenes (Twins executor active) (Beside site outside start opened)) Eq
      (finish command code answer)
      (finish { command with transaction := transaction } code answer) := by
  cases answer with
  | error e => exact .pure rfl
  | ok output =>
    refine .bind .get ?_
    rintro s t ⟨⟨hplain, htagged⟩, -⟩
    rw [hplain, htagged]
    refine .bind (acts_consult hdiscreet.after hdiscreet.serves.after command transaction) ?_
    intro shown shown' _
    exact .pure rfl

variable (hsound : start.1.Sound) (hopened : start.1.database = some opened)

include hdiscreet hsound hopened

/-- Neither of the two has to open its connection, or is refused because it was lost. -/
theorem acts_ready (sql : String) (supplied : List Parameter) (code : String) :
    Acts (Scenes (Twins executor active) (Beside site outside start opened))
      (fun answer answer' ↦ answer = .ok () ∧ answer' = .ok ())
      (Action.ofState (ready sql supplied code)) (Action.ofState (ready sql supplied code)) := by
  rintro ⟨plain, v⟩ ⟨tagged, w⟩ ⟨⟨rfl, rfl⟩, hworld⟩
  obtain ⟨hopen, hopen'⟩ := hworld.state_eq_open hsound hopened
  have hready : (ready sql supplied code).run ⟨plain, v⟩ = (.ok (), ⟨plain, v⟩) :=
    ready_of_open hdiscreet.serves hopen sql supplied code
  have hready' : (ready sql supplied code).run ⟨{ plain with transaction := some active }, w⟩ =
      (.ok (), ⟨{ plain with transaction := some active }, w⟩) :=
    ready_of_open (hdiscreet.tagged active) hopen' sql supplied code
  rw [Action.perform_ofState, Action.perform_ofState, hready, hready']
  exact ⟨.ok ⟨rfl, rfl⟩, ⟨rfl, rfl⟩, hworld⟩

/-- The steps before the backend is called make commands that differ in their tag. -/
theorem acts_prepare (sql : String) (supplied : List Parameter) (code : String) :
    Acts (Scenes (Twins executor active) (Beside site outside start opened))
      (fun answer answer' ↦ ∃ command, command.sql = sql ∧ answer = .ok command ∧
        answer' = .ok { command with transaction := some active.id })
      (prepare sql supplied code) (prepare sql supplied code) := by
  refine .bind (acts_ready hdiscreet hsound hopened sql supplied code) ?_
  rintro _ _ ⟨rfl, rfl⟩
  refine .bind .get ?_
  rintro s t ⟨⟨hplain, htagged⟩, -⟩
  rw [hplain, htagged]
  let command := executor.commandFor sql supplied (executor.transaction.map (·.id))
  refine .bind (acts_consult hdiscreet.before hdiscreet.serves.before command (some active.id)) ?_
  intro shown shown' _
  exact .pure ⟨command, rfl, rfl, rfl⟩

variable {sql : String} (hcalm : ∀ p, .ok p ∈ statements sql → p.statement.controls = false)
  (supplied : List Parameter) (code : String) (operation : Operation)

include hcalm

theorem acts_execute :
    Acts (Scenes (Twins executor active) (Beside site outside start opened)) Eq
      (execute sql supplied code operation) (execute sql supplied code operation) := by
  refine .bind (acts_prepare hdiscreet hsound hopened sql supplied code) ?_
  rintro _ _ ⟨command, rfl, rfl, rfl⟩
  refine .bind .get ?_
  rintro s t ⟨⟨hplain, htagged⟩, -⟩
  rw [hplain, htagged, hdiscreet.serves.backend]
  refine .bind (acts_dispatch hdiscreet.apart hdiscreet.serves.get_set hcalm (some active.id)
    operation).perform ?_
  rintro answer _ rfl
  exact acts_finish hdiscreet command (some active.id) code answer

theorem acts_executeCancellable {token : Cancellation W} (htoken : site.Outer outside token) :
    Acts (Scenes (Twins executor active) (Beside site outside start opened)) Eq
      (executeCancellable sql supplied code operation token)
      (executeCancellable sql supplied code operation token) := by
  refine .bind (acts_prepare hdiscreet hsound hopened sql supplied code) ?_
  rintro _ _ ⟨command, rfl, rfl, rfl⟩
  refine .bind .get ?_
  rintro s t ⟨⟨hplain, htagged⟩, -⟩
  rw [hplain, htagged, hdiscreet.serves.backend]
  refine .bind (acts_runUnlessCancelled (.pure ()) (Beside.token htoken) (works_dispatchAsync
    hdiscreet.apart hdiscreet.serves.get_set hcalm (some active.id) htoken operation)).perform ?_
  rintro answer _ rfl
  exact acts_finish hdiscreet command (some active.id) code answer

end request

/-! ## All requests -/

/-- A request to run a text. -/
structure Request (W : Type) where
  sql : String
  supplied : List Parameter
  code : String
  operation : Operation
  /-- What may end the call, if it is an asynchronous one. -/
  token : Option (Cancellation W) := none

/-- Make a request of an executor. An asynchronous call is awaited. -/
def Request.act (request : Request W) : Action (Scene W) (Result Output) :=
  match request.token with
  | none => execute request.sql request.supplied request.code request.operation
  | some token =>
    (executeAsync request.sql request.supplied request.code request.operation token).await

/-- A request whose text does not control transactions, and whose token belongs to the rest of the
world. -/
structure Request.Calm (site : Site W) (outside : W → X) (request : Request W) : Prop where
  statements : ∀ p, .ok p ∈ statements request.sql → p.statement.controls = false
  token : ∀ token, request.token = some token → site.Outer outside token

/-- What comes of one request after the other. -/
def serve : List (Request W) → StateM (Scene W) (List (Except Panic (Result Output)))
  | [] => return []
  | request :: requests => do
    let outcome ← request.act.perform
    return outcome :: (← serve requests)

section serve

variable [IdSource W] {executor : Executor W} {active : ActiveTransaction}
  (hdiscreet : Discreet site outside executor) (hsound : start.1.Sound)
  (hopened : start.1.database = some opened)

include hdiscreet hsound hopened

/-- A single request comes to the same in a transaction as without one. -/
theorem acts_request {request : Request W} (hcalm : request.Calm site outside) :
    Acts (Scenes (Twins executor active) (Beside site outside start opened)) Eq request.act
      request.act := by
  obtain ⟨sql, supplied, code, operation, token⟩ := request
  cases token with
  | none => exact acts_execute hdiscreet hsound hopened hcalm.statements supplied code operation
  | some token =>
    have hact (scene : Scene W) :
        (executeAsync sql supplied code operation token).await.perform scene =
          (executeCancellable sql supplied code operation token).perform scene := by
      rw [executeAsync, Work.perform_await_later, Work.perform_await_ofAction]
    intro s t hscene
    rw [Request.act, hact, hact]
    exact acts_executeCancellable hdiscreet hsound hopened hcalm.statements supplied code operation
      (hcalm.token token rfl) s t hscene

/-- **All requests come to the same in a transaction as without one**, and the databases stay side
by side. -/
theorem steps_serve {requests : List (Request W)}
    (hcalm : ∀ request ∈ requests, request.Calm site outside) :
    Steps (Scenes (Twins executor active) (Beside site outside start opened)) (serve requests)
      (serve requests) := by
  induction requests with
  | nil =>
    intro s t hscene
    exact ⟨rfl, hscene⟩
  | cons request requests ih =>
    intro s t hscene
    have hrequest : request.Calm site outside := hcalm request List.mem_cons_self
    obtain ⟨houtcome, hleft⟩ := acts_request hdiscreet hsound hopened hrequest s t hscene
    obtain ⟨houtcomes, hlast⟩ := ih (fun other hmem ↦ hcalm other (List.mem_cons_of_mem _ hmem))
      (request.act.perform s).2 (request.act.perform t).2 hleft
    refine ⟨?_, hlast⟩
    change (request.act.perform s).1 :: _ = (request.act.perform t).1 :: _
    rw [outcomes_eq_iff.mp houtcome]
    exact congrArg ((request.act.perform t).1 :: ·) houtcomes

end serve

end

end SqlGateway.Executor
