import SqlGateway.Proofs.Trace.Offer
import SqlGateway.Sqlite.Connection

/-!
# Both kinds of call

Every call comes in two kinds, and below the preparation of the command they share no code: an
asynchronous call asks other functions of the backend, races their work against the token, fills
tables on a thread of its own and names tables once more. As long as the token does not fire none of
this makes a difference.

## What the logs have in common

The readings of the token are in the log of the asynchronous call only, and the backend is asked
through other functions. `Event.direct?` leaves the readings out and names the synchronous functions
instead; then the logs are the same.

## Backends whose kinds agree

That a backend does the same either way is no law: what it does is up to it. It holds of a backend
that leaves the asynchronous functions out, as far as it does not panic over filling tables, and of
SQLite, where the token is asked between the statements of a batch.
-/

namespace SqlGateway

open Trace

variable {W α : Type}

namespace Trace

/-! ## The log of the other kind -/

/-- The synchronous function of a backend for the same operation. -/
def Service.direct : Service → Service
  | .scalarAsync => .scalar
  | .nonQueryAsync => .nonQuery
  | .readerAsync => .reader
  | .fillCancellable => .fill
  | service => service

/-- What stands for an event in a synchronous call. -/
def Event.direct? : Event → Option Event
  | .asked _ => none
  | .called service command => some (.called service.direct command)
  | event => some event

theorem filterMap_direct_of_quiet {events : List Event} (h : ∀ event ∈ events, event.Quiet) :
    events.filterMap Event.direct? = events := by
  induction events with
  | nil => rfl
  | cons event rest ih =>
    obtain ⟨hquiet, hrest⟩ := List.forall_mem_cons.mp h
    have hsame : event.direct? = some event := by
      cases event <;> first | rfl | cases hquiet
    rw [List.filterMap_cons_some hsame, ih hrest]

/-! ## A race that is won -/

/-- Against a token that never fires a recorded call is answered. -/
theorem races_serveLater_of_never {token : Cancellation W}
    (htoken : ∀ world, token.run world = (false, world)) (service : Service)
    (answer : BackendResult α → Answer) (command : Command) {work : Work W (BackendResult α)}
    {world left : W} {outcome : Except Panic (BackendResult α)}
    (h : work.await.perform world = (outcome, left)) : ∃ n k,
      Races work.polled (Recorded.serveLater service answer command work) token world
        (.finished outcome) (.finished outcome)
        (unfired (n + 1) ++ .called service command ::
          (unfired k ++ [.answered (outcome.map answer)])) left := by
  have hrace := Work.race_of_never htoken work.polled world
  rw [Work.perform_await_polled, h] at hrace
  cases (serves_serveLater service answer command work).raced token world with
  | @finished n k noted outcome' left' hserves hraces =>
    cases hraces.race_bare.symm.trans hrace
    cases hserves
    exact ⟨n, k, hraces⟩
  -- The race is the one that was awaited, and that one was not broken off.
  | idle n hraces => cases hraces.race_bare.symm.trans hrace
  | running n k hraces => cases hraces.race_bare.symm.trans hrace

/-- A synchronous action and an asynchronous one in a scene and in the same scene with a log: they
come to the same, and note the same. -/
def Alike (bare : Action (Scene W) α) (noted : Action (Scene (Recorded W)) α)
    (bareLater : Action (Scene W) α) (notedLater : Action (Scene (Recorded W)) α)
    (scene : Scene W) : Prop :=
  ∃ outcome events later left, later.filterMap Event.direct? = events ∧
    Records bare noted scene outcome events left ∧
      Records bareLater notedLater scene outcome later left

end Trace

/-! ## Backends -/

/-- With this token the asynchronous functions of a backend do what the synchronous ones do. -/
structure Backend.Agrees (backend : Backend W) (token : Cancellation W) : Prop where
  polled : backend.polled = backend
  scalar (command : Command) (world : W) :
    (backend.scalarAsync command token).await.perform world = (backend.scalar command).perform world
  nonQuery (command : Command) (world : W) :
    (backend.nonQueryAsync command token).await.perform world =
      (backend.nonQuery command).perform world
  reader (command : Command) (world : W) :
    (backend.readerAsync command token).await.perform world = (backend.reader command).perform world
  fill (command : Command) (world : W) :
    (backend.fillCancellable command token).await.perform world =
      (backend.fill command).perform world
  /-- Filling tables does not panic. -/
  fill_returns (command : Command) (world : W) :
    ∃ answer left, (backend.fill command).perform world = (.ok answer, left)

/-- A backend that leaves the asynchronous functions out and does not panic over filling tables. -/
structure Backend.Plain (backend : Backend W) : Prop where
  scalarAsync : backend.scalarAsync = fun command _ ↦ .ofAction (backend.scalar command)
  nonQueryAsync : backend.nonQueryAsync = fun command _ ↦ .ofAction (backend.nonQuery command)
  readerAsync : backend.readerAsync = fun command _ ↦ .ofAction (backend.reader command)
  fillCancellable : backend.fillCancellable = fun command _ ↦ .ofAction (backend.fill command)
  fill_returns (command : Command) (world : W) :
    ∃ answer left, (backend.fill command).perform world = (.ok answer, left)

theorem Backend.Plain.agrees {backend : Backend W} (h : backend.Plain) (token : Cancellation W) :
    backend.Agrees token where
  polled := by
    refine Backend.polled_eq_self ?_ ?_ ?_ ?_ <;> intro command token
    · rw [h.fillCancellable]
      rfl
    · rw [h.scalarAsync]
      rfl
    · rw [h.nonQueryAsync]
      rfl
    · rw [h.readerAsync]
      rfl
  scalar command world := by rw [h.scalarAsync, Work.perform_await_ofAction]
  nonQuery command world := by rw [h.nonQueryAsync, Work.perform_await_ofAction]
  reader command world := by rw [h.readerAsync, Work.perform_await_ofAction]
  fill command world := by rw [h.fillCancellable, Work.perform_await_ofAction]
  fill_returns := h.fill_returns

namespace Sqlite.Connection

theorem agrees_backend (site : Site W) {token : Cancellation W}
    (htoken : ∀ world, token.run world = (false, world)) : (backend site).Agrees token := by
  have hnever : token = uncancelled := funext htoken
  subst hnever
  exact
    { polled := Backend.polled_eq_self (fun _ _ ↦ rfl) (fun _ _ ↦ rfl) (fun _ _ ↦ rfl)
        fun _ _ ↦ rfl
      scalar := fun _ _ ↦ rfl
      nonQuery := fun _ _ ↦ rfl
      reader := fun _ _ ↦ rfl
      fill := fun _ _ ↦ rfl
      fill_returns := fun _ _ ↦ ⟨_, _, rfl⟩ }

end Sqlite.Connection

namespace Executor

variable {scene : Scene W} {token : Cancellation W}

/-! ## The backend's part -/

theorem alike_of_races {backend : Backend W} {sync : Action W (BackendResult Output)}
    {sync' : Action (Recorded W) (BackendResult Output)} {bare : Work W (BackendResult Output)}
    {noted : Work (Recorded W) (BackendResult Output)} {command : Command}
    {answer : Except Panic Answer} {reply : Except Panic (BackendResult Output)} {world : W}
    {n k : Nat} (service : Service) (hread : token.run scene.world = (false, scene.world))
    (hcall : Records (Scene.perform sync) (Scene.perform sync') scene reply
      [.called service.direct command, .answered answer] { scene with world := world })
    (hraces : Races bare noted token scene.world (.finished reply) (.finished reply)
      (unfired (n + 1) ++ .called service command :: (unfired k ++ [.answered answer])) world) :
    Alike (Scene.perform sync) (Scene.perform sync')
      (Scene.perform (runUnlessCancelled backend token bare))
      (Scene.perform (runUnlessCancelled backend.recorded (Recorded.token token) noted)) scene := by
  refine ⟨reply, _, _, _, ?_, hcall,
    runUnlessCancelled_of_read hread (runCancellable_of_finished backend hraces)⟩
  have hunfired := filterMap_unfired_append (f := Event.direct?) fun _ ↦ rfl
  have hcalled : (Event.called service command).direct? = some (.called service.direct command) :=
    rfl
  rw [List.filterMap_cons_none rfl, hunfired, List.filterMap_cons_some hcalled, hunfired]
  rfl

/-- The work of the backend is taken to start with a poll, as an agreeing one does. -/
theorem dispatch_alike (htoken : ∀ world, token.run world = (false, world))
    (h : scene.executor.backend.Agrees token) (command : Command) (operation : Operation) :
    Alike (Scene.perform (dispatch scene.executor.backend command operation))
      (Scene.perform (dispatch scene.executor.backend.recorded command operation))
      (Scene.perform (runUnlessCancelled scene.executor.backend token
        (dispatchAsync scene.executor.backend.polled command token operation)))
      (Scene.perform (runUnlessCancelled scene.executor.backend.recorded (Recorded.token token)
        (dispatchAsync scene.executor.backend.recorded command (Recorded.token token) operation)))
      scene := by
  have hread := htoken scene.world
  cases operation with
  | scalar =>
    rcases hcall : (scene.executor.backend.scalar command).perform scene.world with ⟨outcome, world⟩
    obtain ⟨n, k, hraces⟩ := races_serveLater_of_never htoken .scalarAsync .value command
      ((h.scalar command scene.world).trans hcall)
    rw [dispatchAsync, dispatchAsync, Work.map_eq_conclude, Work.map_eq_conclude]
    exact alike_of_races .scalarAsync hread (serve_records .scalar .value command _ hcall)
      (hraces.conclude _)
  | nonQuery =>
    rcases hcall : (scene.executor.backend.nonQuery command).perform scene.world with
      ⟨outcome, world⟩
    obtain ⟨n, k, hraces⟩ := races_serveLater_of_never htoken .nonQueryAsync .rows command
      ((h.nonQuery command scene.world).trans hcall)
    rw [dispatchAsync, dispatchAsync, Work.map_eq_conclude, Work.map_eq_conclude]
    exact alike_of_races .nonQueryAsync hread (serve_records .nonQuery .rows command _ hcall)
      (hraces.conclude _)
  | table =>
    rcases hcall : (scene.executor.backend.reader command).perform scene.world with ⟨outcome, world⟩
    obtain ⟨n, k, hraces⟩ := races_serveLater_of_never htoken .readerAsync .table command
      ((h.reader command scene.world).trans hcall)
    rw [dispatchAsync, dispatchAsync, Work.map_eq_conclude, Work.map_eq_conclude]
    exact alike_of_races .readerAsync hread (serve_records .reader .table command _ hcall)
      (hraces.conclude _)
  | tableSet names =>
    -- Only because it returns does it not matter that panics are caught here and not there.
    obtain ⟨answer, world, hcall⟩ := h.fill_returns command scene.world
    obtain ⟨n, k, hraces⟩ := races_serveLater_of_never htoken .fillCancellable .tables command
      ((h.fill command scene.world).trans hcall)
    rw [dispatchAsync, dispatchAsync, Work.map_eq_conclude, Work.map_eq_conclude,
      Work.recover_eq_conclude, Work.recover_eq_conclude]
    exact alike_of_races .fillCancellable hread (serve_records .fill .tables command _ hcall)
      (((hraces.later hread).conclude _).conclude _)

/-! ## Calls -/

theorem Readied.quiet {executor left : Executor W} {sql : String} {parameters : List Parameter}
    {code : String} {events : List Event} {answer : Result Unit}
    (h : Readied executor sql parameters code events answer left) :
    ∀ event ∈ events, event.Quiet := by
  intro event hmem
  cases h with
  | lost hactive =>
    rw [List.mem_singleton.mp hmem]
    trivial
  | passed hopen => exact (List.mem_append.mp hmem).elim quiet_of_mem_check (hopen.quiet event)

/-- Preparing a command has nothing to do with the token or with running it. -/
theorem Prepared.quiet {executor left : Executor W} {sql : String} {parameters : List Parameter}
    {code : String} {events : List Event} {outcome : Except Panic (Result Command)}
    (h : Prepared executor sql parameters code events outcome left) :
    ∀ event ∈ events, event.Quiet := by
  intro event hmem
  cases h with
  | unready hready => exact hready.quiet event hmem
  | panicked hready =>
    exact (List.mem_append.mp hmem).elim (hready.quiet event) quiet_of_mem_shownTo
  | prepared hready =>
    exact (List.mem_append.mp hmem).elim (hready.quiet event) quiet_of_mem_shownTo

theorem execute_alike (scene : Scene W) (htoken : ∀ world, token.run world = (false, world))
    (h : scene.executor.backend.Agrees token) (sql : String) (parameters : List Parameter)
    (code : String) (operation : Operation) :
    Alike (execute sql parameters code operation) (execute sql parameters code operation)
      (executeCancellable sql parameters code operation token)
      (executeCancellable sql parameters code operation (Recorded.token token)) scene := by
  obtain ⟨events, outcome, left, world, hprepare, hrecords⟩ :=
    prepare_records sql parameters code scene
  have hevents := filterMap_direct_of_quiet hprepare.quiet
  match outcome, hprepare, hrecords with
  | .error panic, _, hrecords =>
    exact ⟨_, _, _, _, hevents, .bindPanic hrecords, .bindPanic hrecords⟩
  | .ok (.error e), _, hrecords =>
    exact ⟨_, _, _, _, hevents, .thenPure hrecords rfl rfl, .thenPure hrecords rfl rfl⟩
  | .ok (.ok command), hprepare, hrecords =>
    obtain ⟨closed, rfl⟩ := hprepare.frame
    let prepared : Scene W := ⟨{ scene.executor with closed := closed }, world⟩
    have hprepared : prepared.executor.backend.Agrees token := h
    have halike := dispatch_alike htoken hprepared command operation
    rw [hprepared.polled] at halike
    obtain ⟨reply, calls, later, left, hcalls, hcall, hlater⟩ := halike
    obtain ⟨more, outcome, last, hfinish, hafter⟩ := finish_after command code reply left
    refine ⟨outcome, events ++ (calls ++ more), events ++ (later ++ more),
      { left with world := last }, ?_, ?_, ?_⟩
    · rw [List.filterMap_append, List.filterMap_append, hevents, hcalls,
        filterMap_direct_of_quiet hfinish.quiet]
    · exact .bind hrecords (.get (fun _ ↦ rfl) (hafter hcall))
    · exact .bind hrecords (.get (fun _ ↦ rfl) (hafter hlater))

/-- **Both kinds of call come to the same** while the token does not fire. -/
theorem executeAsync_alike (executor : Executor W) (sql : String) (parameters : List Parameter)
    (code : String) (operation : Operation) (token : Cancellation W) (world : W)
    (htoken : ∀ world, token.run world = (false, world))
    (hbackend : executor.backend.Plain ∨
      ∃ site, executor.backend = Sqlite.Connection.backend site) :
    ∃ outcome events later left, later.filterMap Event.direct? = events ∧
      Records (execute sql parameters code operation) (execute sql parameters code operation)
        ⟨executor, world⟩ outcome events left ∧
      Records (executeAsync sql parameters code operation token).await
        (executeAsync sql parameters code operation (Recorded.token token)).await
        ⟨executor, world⟩ outcome later left := by
  have hagrees : executor.backend.Agrees token := by
    rcases hbackend with hplain | ⟨site, hsite⟩
    · exact hplain.agrees token
    · rw [hsite]
      exact Sqlite.Connection.agrees_backend site htoken
  obtain ⟨outcome, events, later, left, hevents, hsync, hlater⟩ :=
    execute_alike ⟨executor, world⟩ htoken hagrees sql parameters code operation
  refine ⟨outcome, events, later, left, hevents, hsync, ?_, ?_⟩
  · rw [executeAsync, Work.perform_await_later, Work.perform_await_ofAction]
    exact hlater.perform_bare
  · intro log
    rw [executeAsync, Work.perform_await_later, Work.perform_await_ofAction]
    exact hlater.perform_noted log

/-- A connection that is open and has nothing to tell. -/
def still : Backend Unit where
  state := pure .open
  establish := pure (.ok ())
  close := pure (.ok ())
  begin _ := pure (.ok ())
  commit := pure (.ok ())
  rollback := pure (.ok ())
  scalar _ := pure (.ok .null)
  nonQuery _ := pure (.ok 0)
  reader _ := pure (.ok .empty)
  fill _ := pure (.ok [.empty])

theorem plain_still : still.Plain where
  scalarAsync := rfl
  nonQueryAsync := rfl
  readerAsync := rfl
  fillCancellable := rfl
  fill_returns _ _ := ⟨.ok [.empty], (), rfl⟩

/-- An executor over a plain backend, and one over an SQLite connection that is yet to be opened. -/
theorem executeAsync_alike_still :
    let executor : Executor Unit :=
      { serverType := .sqlite, dialect := .sqlite, backend := still }
    let site : Sqlite.Site (Sqlite.Connection × Sqlite.Disk) := ⟨id, fun there _ ↦ there⟩
    let unopened : Scene (Sqlite.Connection × Sqlite.Disk) :=
      ⟨{ serverType := .sqlite, dialect := .sqlite, backend := Sqlite.Connection.backend site },
        (.ofPath ":memory:", .ofDirectories [])⟩
    (executeAsync "SELECT @A" [] "E1" (.tableSet ["A"]) Sqlite.Connection.uncancelled).await.perform
        ⟨executor, ()⟩ = (.ok (.ok (.tableSet (nameTables [.empty] ["A"]))), ⟨executor, ()⟩) ∧
      (executeAsync "SELECT @A" [] "E1" .scalar Sqlite.Connection.uncancelled).await.perform
        unopened = (execute "SELECT @A" [] "E1" .scalar).perform unopened := by
  intro executor site unopened
  constructor
  · obtain ⟨outcome, events, later, left, -, hsync, hlater⟩ :=
      executeAsync_alike executor "SELECT @A" [] "E1" (.tableSet ["A"])
        Sqlite.Connection.uncancelled () (fun _ ↦ rfl) (.inl plain_still)
    rw [hlater.perform_bare, ← hsync.perform_bare]
    rfl
  · obtain ⟨outcome, events, later, left, -, hsync, hlater⟩ :=
      executeAsync_alike unopened.executor "SELECT @A" [] "E1" .scalar
        Sqlite.Connection.uncancelled unopened.world (fun _ ↦ rfl) (.inr ⟨site, rfl⟩)
    exact hlater.perform_bare.trans hsync.perform_bare.symm

end Executor

end SqlGateway
