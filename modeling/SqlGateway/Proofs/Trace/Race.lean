import SqlGateway.Proofs.Trace.Agreement

/-!
# Races in a recorded world

How often the token of a race is read depends on when it fires and on how many polls the work takes,
and so the log of a race has no fixed length. What can be said of it is where the readings stand:
before every poll, and so between the command and its answer, but never behind the answer.

## Beside the race of the work itself

Recorded work is followed beside the work under the record, poll by poll. Both races end alike and
in the same world, whatever the token reads and whatever the polls do, so that what is read off the
log is true of the race that nobody recorded.

## Work that takes no poll

A call is noted at its first poll, and work that is finished before it is polled has none. Recorded,
it takes one poll, as every call does that begins when it is polled first. `Work.polled` is what the
record shows of such work.
-/

namespace SqlGateway

open Trace

variable {W α β γ : Type}

namespace Work

/-! ## Outcomes -/

/-- The same work with another outcome. -/
def conclude (f : Except Panic α → Except Panic β) : Work W α → Work W β
  | done outcome => .done (f outcome)
  | poll effect rest => .poll effect fun world ↦ (rest world).conclude f

/-- A panic as an answer. -/
def recovered (f : Panic → α) : Except Panic α → Except Panic α
  | .ok a => .ok a
  | .error panic => .ok (f panic)

theorem map_eq_conclude (f : α → β) (work : Work W α) : work.map f = work.conclude (·.map f) := by
  induction work with
  | done outcome => rfl
  | poll effect rest ih => exact congrArg (poll effect) (funext ih)

theorem recover_eq_conclude (f : Panic → α) (work : Work W α) :
    work.recover f = work.conclude (recovered f) := by
  induction work with
  | done outcome => cases outcome <;> rfl
  | poll effect rest ih => exact congrArg (poll effect) (funext ih)

theorem conclude_conclude (f : Except Panic α → Except Panic β)
    (g : Except Panic β → Except Panic γ) (work : Work W α) :
    (work.conclude f).conclude g = work.conclude (g ∘ f) := by
  induction work with
  | done outcome => rfl
  | poll effect rest ih => exact congrArg (poll effect) (funext ih)

theorem perform_await_done (outcome : Except Panic α) (world : W) :
    (done outcome).await.perform world = (outcome, world) := Action.perform_ofOutcome outcome world

theorem perform_await_poll (effect : W → W) (rest : W → Work W α) (world : W) :
    (poll effect rest).await.perform world = (rest world).await.perform (effect world) := rfl

theorem perform_await_conclude (f : Except Panic α → Except Panic β) (work : Work W α)
    (world : W) : (work.conclude f).await.perform world =
      (f (work.await.perform world).1, (work.await.perform world).2) := by
  induction work generalizing world with
  | done outcome => rw [conclude, perform_await_done, perform_await_done]
  | poll effect rest ih => exact ih world (effect world)

/-! ## Races -/

/-- How a race of work with other outcomes ends. -/
def Race.conclude (f : Except Panic α → Except Panic β) : Race W α → Race W β
  | finished outcome => .finished (f outcome)
  | fired rest => .fired (rest.conclude f)

theorem race_conclude (f : Except Panic α → Except Panic β) (token : Cancellation W)
    (work : Work W α) (world : W) : (work.conclude f).race token world =
      ((work.race token world).1.conclude f, (work.race token world).2) := by
  induction work generalizing world with
  | done outcome => rfl
  | poll effect rest ih =>
    rw [conclude, race, race]
    rcases token.run world with ⟨fired, left⟩
    cases fired with
    | true => rfl
    | false => exact ih left (effect left)

theorem race_poll_of_fired {token : Cancellation W} {world left : W}
    (h : token.run world = (true, left)) (effect : W → W) (rest : W → Work W α) :
    (poll effect rest).race token world = (.fired (.poll effect rest), left) := by
  rw [race, h]
  rfl

theorem race_poll_of_unfired {token : Cancellation W} {world left : W}
    (h : token.run world = (false, left)) (effect : W → W) (rest : W → Work W α) :
    (poll effect rest).race token world = (rest left).race token (effect left) := by
  rw [race, h]
  rfl

/-- Against a token that never fires, work is awaited to its end. -/
theorem race_of_never {token : Cancellation W} (h : ∀ world, token.run world = (false, world))
    (work : Work W α) (world : W) : work.race token world =
      (.finished (work.await.perform world).1, (work.await.perform world).2) := by
  induction work generalizing world with
  | done outcome => rw [race, perform_await_done]
  | poll effect rest ih =>
    rw [race_poll_of_unfired (h world)]
    exact ih world (effect world)

/-! ## Work that takes a poll -/

/-- The same work, but it takes a poll at least. -/
def polled : Work W α → Work W α
  | done outcome => .poll id fun _ ↦ .done outcome
  | poll effect rest => .poll effect rest

theorem polled_of_isDone_eq_false {work : Work W α} (h : work.isDone = false) :
    work.polled = work := by
  cases work with
  | done outcome => cases h
  | poll effect rest => rfl

theorem perform_await_polled (work : Work W α) (world : W) :
    work.polled.await.perform world = work.await.perform world := by
  cases work <;> rfl

end Work

namespace Trace

/-! ## Readings -/

/-- Readings of a token that has not fired. -/
def unfired (n : Nat) : List Event := List.replicate n (.asked false)

/-- Readings do not count for those who look for other events. -/
theorem filterMap_unfired_append {f : Event → Option α} (hasked : ∀ fired, f (.asked fired) = none)
    (n : Nat) (rest : List Event) : (unfired n ++ rest).filterMap f = rest.filterMap f := by
  rw [List.filterMap_append, unfired, List.filterMap_replicate_of_none (hasked false),
    List.nil_append]

theorem Recorded.run_token {token : Cancellation W} {world left : W} {fired : Bool}
    (h : token.run world = (fired, left)) (log : List Event) :
    (Recorded.token token).run ⟨world, log⟩ = (fired, ⟨left, log ++ [.asked fired]⟩) := by
  change ((token.run world).1, (⟨(token.run world).2, log ++ [.asked (token.run world).1]⟩ :
    Recorded W)) = _
  rw [h]

/-! ## Races and awaited work with a log -/

/-- A race of work and of the same work recorded: how each ends, what is noted, and the world that
is left. -/
structure Races (bare : Work W α) (noted : Work (Recorded W) α) (token : Cancellation W)
    (world : W) (race : Work.Race W α) (race' : Work.Race (Recorded W) α) (events : List Event)
    (left : W) : Prop where
  race_bare : bare.race token world = (race, left)
  race_noted (log : List Event) :
    noted.race (Recorded.token token) ⟨world, log⟩ = (race', ⟨left, log ++ events⟩)

/-- An action on a world and the same action on the world with a log. -/
structure Performs (bare : Action W α) (noted : Action (Recorded W) α) (world : W)
    (outcome : Except Panic α) (events : List Event) (left : W) : Prop where
  perform_bare : bare.perform world = (outcome, left)
  perform_noted (log : List Event) :
    noted.perform ⟨world, log⟩ = (outcome, ⟨left, log ++ events⟩)

namespace Races

variable {bare : Work W α} {noted : Work (Recorded W) α} {token : Cancellation W}
  {world left : W} {race : Work.Race W α} {race' : Work.Race (Recorded W) α} {events : List Event}

theorem fired (h : token.run world = (true, left)) (hbare : bare.isDone = false)
    (hnoted : noted.isDone = false) :
    Races bare noted token world (.fired bare) (.fired noted) [.asked true] left := by
  cases bare with
  | done outcome => cases hbare
  | poll effect rest =>
    cases noted with
    | done outcome => cases hnoted
    | poll effect' rest' =>
      exact ⟨Work.race_poll_of_fired h effect rest, fun log ↦
        Work.race_poll_of_fired (Recorded.run_token h log) effect' rest'⟩

theorem later (h : token.run world = (false, left)) {last : W}
    (hraces : Races bare noted token left race race' events last) :
    Races bare.later noted.later token world race race' (.asked false :: events) last where
  race_bare := by
    rw [Work.later, Work.race_poll_of_unfired h]
    exact hraces.race_bare
  race_noted log := by
    rw [Work.later, Work.race_poll_of_unfired (Recorded.run_token h log), id_eq, hraces.race_noted,
      List.append_assoc, List.singleton_append]

/-- The token has not fired, and a poll that notes some events leaves the rest of the work. -/
theorem noting (effect : W → W) {rest : W → Work W α} (rest' : W → Work (Recorded W) α)
    (noted : W → List Event) {last : W} (h : token.run world = (false, left))
    (hraces : Races (rest left) (rest' left) token (effect left) race race' events last) :
    Races (.poll effect rest)
      (.poll (fun recorded ↦ ⟨effect recorded.world, recorded.log ++ noted recorded.world⟩)
        fun recorded ↦ rest' recorded.world)
      token world race race' (.asked false :: (noted left ++ events)) last where
  race_bare := by rw [Work.race_poll_of_unfired h, hraces.race_bare]
  race_noted log := by
    rw [Work.race_poll_of_unfired (Recorded.run_token h log), hraces.race_noted, List.append_assoc,
      List.append_assoc, List.singleton_append]

theorem conclude (f : Except Panic α → Except Panic β)
    (h : Races bare noted token world race race' events left) :
    Races (bare.conclude f) (noted.conclude f) token world (race.conclude f) (race'.conclude f)
      events left where
  race_bare := by rw [Work.race_conclude, h.race_bare]
  race_noted log := by rw [Work.race_conclude, h.race_noted]

end Races

namespace Performs

variable {world left : W} {outcome : Except Panic α} {events : List Event}

theorem pure (a : α) (world : W) : Performs (pure a) (pure a) world (.ok a) [] world :=
  ⟨rfl, fun log ↦ by rw [List.append_nil]; rfl⟩

/-- A poll that notes some events leaves the rest of the work. -/
theorem noting (effect : W → W) {rest : W → Work W α} (rest' : W → Work (Recorded W) α)
    (noted : W → List Event)
    (h : Performs (rest world).await (rest' world).await (effect world) outcome events left) :
    Performs (Work.poll effect rest).await
      (Work.poll (fun recorded ↦ ⟨effect recorded.world, recorded.log ++ noted recorded.world⟩)
        fun recorded ↦ rest' recorded.world).await
      world outcome (noted world ++ events) left where
  perform_bare := h.perform_bare
  perform_noted log := by rw [Work.perform_await_poll, h.perform_noted, List.append_assoc]

theorem conclude {bare : Work W α} {noted : Work (Recorded W) α}
    (f : Except Panic α → Except Panic β)
    (h : Performs bare.await noted.await world outcome events left) :
    Performs (bare.conclude f).await (noted.conclude f).await world (f outcome) events left where
  perform_bare := by rw [Work.perform_await_conclude, h.perform_bare]
  perform_noted log := by rw [Work.perform_await_conclude, h.perform_noted]

end Performs

namespace Recorded

/-! ## Work whose command was noted before

Together with what was noted when it was left, it notes its answer and nothing else. -/

theorem performs_follow (answer : BackendResult α → Answer) (work : Work W (BackendResult α))
    (world : W) : ∃ outcome events left,
      Performs work.await (follow answer work).await world outcome events left ∧
        ending answer work ++ events = [.answered (outcome.map answer)] := by
  induction work generalizing world with
  | done outcome =>
    refine ⟨outcome, [], world, ⟨Work.perform_await_done outcome world, fun log ↦ ?_⟩, rfl⟩
    rw [follow, Work.perform_await_done, List.append_nil]
  | poll effect rest ih =>
    obtain ⟨outcome, events, left, hrest, hevents⟩ := ih world (effect world)
    exact ⟨outcome, ending answer (rest world) ++ events, left,
      .noting effect (follow answer <| rest ·) (ending answer <| rest ·) hrest, hevents⟩

/-- The readings end with the answer, or else with the one that finds the token fired. -/
theorem races_follow (answer : BackendResult α → Answer) (token : Cancellation W)
    (work : Work W (BackendResult α)) (world : W) : ∃ n events left,
      (∃ outcome, Races work (follow answer work) token world (.finished outcome)
          (.finished outcome) events left ∧
        ending answer work ++ events = unfired n ++ [.answered (outcome.map answer)]) ∨
      ∃ rest, Races work (follow answer work) token world (.fired rest)
          (.fired (follow answer rest)) events left ∧
        ending answer rest = [] ∧ ending answer work ++ events = unfired n ++ [.asked true] := by
  induction work generalizing world with
  | done outcome =>
    refine ⟨0, [], world, .inl ⟨outcome, ⟨rfl, fun log ↦ ?_⟩, rfl⟩⟩
    rw [List.append_nil]
    rfl
  | poll effect rest ih =>
    rcases hread : token.run world with ⟨fired, left⟩
    cases fired with
    | true =>
      exact ⟨0, [.asked true], left, .inr ⟨.poll effect rest, .fired hread rfl rfl, rfl, rfl⟩⟩
    | false =>
      obtain ⟨n, events, last, hends⟩ := ih left (effect left)
      let noted (world : W) : List Event := ending answer (rest world)
      refine ⟨n + 1, .asked false :: (noted left ++ events), last, ?_⟩
      rcases hends with ⟨outcome, hraces, hevents⟩ | ⟨rest', hraces, hrest, hevents⟩
      · refine .inl ⟨outcome, .noting effect (follow answer <| rest ·) noted hread hraces, ?_⟩
        rw [hevents]
        rfl
      · refine .inr ⟨rest', .noting effect (follow answer <| rest ·) noted hread hraces, hrest, ?_⟩
        rw [hevents]
        rfl

end Recorded

/-! ## Calls

A call is followed from before its command is given. What it answers is compared with what is noted
of the answer by `serves`, which is kept open, as an outcome may be put into other forms. -/

section

variable {serves : Except Panic Answer → Except Panic β → Prop} {called : Event}
  {bare : Work W β} {noted : Work (Recorded W) β}

/-- Work that is awaited gives its command to the backend, which answers it. -/
def Serves.Awaited (serves : Except Panic Answer → Except Panic β → Prop) (events : List Event)
    (bare : Work W β) (noted : Work (Recorded W) β) : Prop :=
  ∀ world, ∃ answer outcome left, serves answer outcome ∧
    Performs bare.await noted.await world outcome (events ++ [.answered answer]) left

/-- How the race of a call can go: where the readings stand, and what is left of the call. -/
inductive Serves.Raced (serves : Except Panic Answer → Except Panic β → Prop) (called : Event)
    (bare : Work W β) (noted : Work (Recorded W) β) (token : Cancellation W) (world : W) :
    Prop where
  /-- The answer came first. -/
  | finished (n k : Nat) {answer : Except Panic Answer} {outcome : Except Panic β} {left : W}
      (hserves : serves answer outcome)
      (hraces : Races bare noted token world (.finished outcome) (.finished outcome)
        (unfired (n + 1) ++ called :: (unfired k ++ [.answered answer])) left)
  /-- The token was found fired before the command was given. -/
  | idle (n : Nat) {rest : Work W β} {rest' : Work (Recorded W) β} {left : W}
      (hraces : Races bare noted token world (.fired rest) (.fired rest')
        (unfired n ++ [.asked true]) left)
      (hrest : Serves.Awaited serves [called] rest rest')
  /-- The token was found fired before the command was answered. -/
  | running (n k : Nat) {rest : Work W β} {rest' : Work (Recorded W) β} {left : W}
      (hraces : Races bare noted token world (.fired rest) (.fired rest')
        (unfired (n + 1) ++ called :: (unfired k ++ [.asked true])) left)
      (hrest : Serves.Awaited serves [] rest rest')

/-- Work that gives one command to the backend, whether it is raced or awaited. -/
structure Serves (serves : Except Panic Answer → Except Panic β → Prop) (called : Event)
    (bare : Work W β) (noted : Work (Recorded W) β) : Prop where
  awaited : Serves.Awaited serves [called] bare noted
  raced (token : Cancellation W) (world : W) : Serves.Raced serves called bare noted token world

namespace Serves

theorem Awaited.conclude {serves' : Except Panic Answer → Except Panic γ → Prop}
    {events : List Event} {f : Except Panic β → Except Panic γ}
    (h : Awaited serves events bare noted)
    (hserves : ∀ answer outcome, serves answer outcome → serves' answer (f outcome)) :
    Awaited serves' events (bare.conclude f) (noted.conclude f) := by
  intro world
  obtain ⟨answer, outcome, left, hanswer, hperforms⟩ := h world
  exact ⟨answer, f outcome, left, hserves answer outcome hanswer, hperforms.conclude f⟩

theorem conclude {serves' : Except Panic Answer → Except Panic γ → Prop}
    {f : Except Panic β → Except Panic γ} (h : Serves serves called bare noted)
    (hserves : ∀ answer outcome, serves answer outcome → serves' answer (f outcome)) :
    Serves serves' called (bare.conclude f) (noted.conclude f) where
  awaited := h.awaited.conclude hserves
  raced token world := by
    cases h.raced token world with
    | finished n k hanswer hraces =>
      exact .finished n k (hserves _ _ hanswer) (hraces.conclude f)
    | idle n hraces hrest => exact .idle n (hraces.conclude f) (hrest.conclude hserves)
    | running n k hraces hrest => exact .running n k (hraces.conclude f) (hrest.conclude hserves)

/-- The call of another thread, which starts after the first poll. -/
theorem later (h : Serves serves called bare noted) :
    Serves serves called bare.later noted.later where
  awaited := h.awaited
  raced token world := by
    rcases hread : token.run world with ⟨fired, left⟩
    cases fired with
    | true => exact .idle 0 (.fired hread rfl rfl) h.awaited
    | false =>
      cases h.raced token left with
      | finished n k hanswer hraces => exact .finished (n + 1) k hanswer (.later hread hraces)
      | idle n hraces hrest => exact .idle (n + 1) (.later hread hraces) hrest
      | running n k hraces hrest => exact .running (n + 1) k (.later hread hraces) hrest

end Serves

end

theorem awaited_serveLater (service : Service) (answer : BackendResult α → Answer)
    (command : Command) (effect : W → W) (rest : W → Work W (BackendResult α)) :
    Serves.Awaited (fun noted outcome ↦ noted = outcome.map answer) [.called service command]
      (.poll effect rest) (Recorded.serveLater service answer command (.poll effect rest)) := by
  intro world
  obtain ⟨outcome, events, left, hrest, hevents⟩ :=
    Recorded.performs_follow answer (rest world) (effect world)
  have hperforms := Performs.noting effect (Recorded.follow answer <| rest ·)
    (fun world ↦ .called service command :: Recorded.ending answer (rest world)) hrest
  rw [List.cons_append, hevents] at hperforms
  exact ⟨_, outcome, left, rfl, hperforms⟩

/-- **A recorded call gives one command**, and its answer is noted last. -/
theorem serves_serveLater (service : Service) (answer : BackendResult α → Answer)
    (command : Command) (work : Work W (BackendResult α)) :
    Serves (fun noted outcome ↦ noted = outcome.map answer) (.called service command) work.polled
      (Recorded.serveLater service answer command work) := by
  -- Without a poll of its own the work is recorded as if it had one.
  have hpoll : ∃ effect rest, work.polled = .poll effect rest ∧
      Recorded.serveLater service answer command work =
        Recorded.serveLater service answer command (.poll effect rest) := by
    cases work with
    | done outcome => exact ⟨id, fun _ ↦ .done outcome, rfl, rfl⟩
    | poll effect rest => exact ⟨effect, rest, rfl, rfl⟩
  obtain ⟨effect, rest, hbare, hnoted⟩ := hpoll
  rw [hbare, hnoted]
  refine ⟨awaited_serveLater service answer command effect rest, fun token world ↦ ?_⟩
  rcases hread : token.run world with ⟨fired, left⟩
  cases fired with
  | true =>
    exact .idle 0 (.fired hread rfl rfl) (awaited_serveLater service answer command effect rest)
  | false =>
    obtain ⟨n, events, last, hends⟩ := Recorded.races_follow answer token (rest left) (effect left)
    rcases hends with ⟨outcome, hraces, hevents⟩ | ⟨rest', hraces, hrest, hevents⟩
    · have hnoting := Races.noting effect (Recorded.follow answer <| rest ·)
        (fun world ↦ .called service command :: Recorded.ending answer (rest world)) hread hraces
      rw [List.cons_append, hevents] at hnoting
      exact .finished 0 n rfl hnoting
    · have hnoting := Races.noting effect (Recorded.follow answer <| rest ·)
        (fun world ↦ .called service command :: Recorded.ending answer (rest world)) hread hraces
      rw [List.cons_append, hevents] at hnoting
      refine .running 0 n hnoting fun world ↦ ?_
      obtain ⟨outcome, more, left, hperforms, hmore⟩ := Recorded.performs_follow answer rest' world
      rw [hrest, List.nil_append] at hmore
      rw [hmore] at hperforms
      exact ⟨_, outcome, left, rfl, hperforms⟩

end Trace

end SqlGateway
