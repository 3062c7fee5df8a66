/-!
# Effects

What backends and hooks do is done to a world of type `W`, about which the library assumes nothing:
a test puts scripted connections there, a proof whatever an adversary may think of.

An `Action` changes the world and gives an answer, or panics; what it did to the world before it
panicked stays done. A `Work` is an action that is polled to its end: every poll changes the world
and either finishes the work or leaves the rest of it to later polls. A `Cancellation` is the
caller's token, which is read to learn whether the caller has cancelled; as a reading may depend on
the world and change it, the caller may cancel at any time.
-/

namespace SqlGateway

/-- The payload of a panic. -/
structure Panic where
  message : String
deriving Repr, DecidableEq, Inhabited

/-- An action on a world that may panic. -/
abbrev Action (W : Type) := EStateM Panic W

namespace Action

variable {W α : Type}

/-- The answer of an action, or its panic, with the world after it. -/
def perform (action : Action W α) (world : W) : Except Panic α × W :=
  match action.run world with
  | .ok a world => (.ok a, world)
  | .error panic world => (.error panic, world)

/-- The action of a given outcome. -/
def ofOutcome (outcome : Except Panic α) : Action W α := fun world ↦
  match outcome with
  | .ok a => .ok a world
  | .error panic => .error panic world

/-- An action that cannot panic. -/
def ofState (step : StateM W α) : Action W α := fun world ↦
  let (a, world) := step.run world
  .ok a world

variable {β : Type}

@[simp] theorem perform_ofState (step : StateM W α) (world : W) :
    (ofState step).perform world = (.ok (step.run world).1, (step.run world).2) := rfl

@[simp] theorem perform_ofOutcome (outcome : Except Panic α) (world : W) :
    (ofOutcome outcome).perform world = (outcome, world) := by
  cases outcome <;> rfl

theorem perform_bind_of_ok {action : Action W α} {world left : W} {a : α}
    (h : action.perform world = (.ok a, left)) (next : α → Action W β) :
    (action >>= next).perform world = (next a).perform left := by
  simp only [perform, EStateM.run, bind, EStateM.bind] at h ⊢
  cases hrun : action world with
  | ok a' world' => rw [hrun] at h; cases h; rfl
  | error panic world' => rw [hrun] at h; cases h

theorem perform_bind_of_error {action : Action W α} {world left : W} {panic : Panic}
    (h : action.perform world = (.error panic, left)) (next : α → Action W β) :
    (action >>= next).perform world = (.error panic, left) := by
  simp only [perform, EStateM.run, bind, EStateM.bind] at h ⊢
  cases hrun : action world with
  | ok a' world' => rw [hrun] at h; cases h
  | error panic' world' => rw [hrun] at h; cases h; rfl

end Action

/-- A reading of whether the caller has cancelled. -/
abbrev Cancellation (W : Type) := StateM W Bool

/-- Work that is polled to its end, which comes after finitely many polls. -/
inductive Work (W α : Type) : Type where
  /-- The work is finished. -/
  | done (outcome : Except Panic α)
  /-- A poll of the work changes the world by `effect` and leaves `rest`, which depends on the
  world as it was found. -/
  | poll (effect : W → W) (rest : W → Work W α)

namespace Work

variable {W α β : Type}

/-- The work that a single poll finishes. -/
def ofAction (action : Action W α) : Work W α :=
  .poll (fun world ↦ (action.perform world).2) fun world ↦ .done (action.perform world).1

/-- The work that a single poll finishes, and that cannot panic. -/
def ofState (step : StateM W α) : Work W α :=
  .poll (fun world ↦ (step.run world).2) fun world ↦ .done (.ok (step.run world).1)

/-- The same work after a first poll that does nothing. -/
def later (work : Work W α) : Work W α := .poll id fun _ ↦ work

/-- The same work with another answer. -/
def map (f : α → β) : Work W α → Work W β
  | done outcome => .done (outcome.map f)
  | poll effect rest => .poll effect fun world ↦ (rest world).map f

/-- The same work, but a panic becomes an answer. -/
def recover (f : Panic → α) : Work W α → Work W α
  | done (.ok a) => .done (.ok a)
  | done (.error panic) => .done (.ok (f panic))
  | poll effect rest => .poll effect fun world ↦ (rest world).recover f

/-- Whether the work is finished. -/
def isDone : Work W α → Bool
  | done _ => true
  | poll _ _ => false

/-- Poll the work once. -/
def resume (work : Work W α) (world : W) : Work W α × W :=
  match work with
  | done outcome => (.done outcome, world)
  | poll effect rest => (rest world, effect world)

/-- Poll the work to its end. -/
def await : Work W α → Action W α
  | done outcome => .ofOutcome outcome
  | poll effect rest => fun world ↦ (rest world).await (effect world)

@[simp] theorem perform_await_later (work : Work W α) (world : W) :
    work.later.await.perform world = work.await.perform world := rfl

@[simp] theorem perform_await_ofAction (action : Action W α) (world : W) :
    (ofAction action).await.perform world = action.perform world :=
  Action.perform_ofOutcome _ _

/-- How a race against a token ended. -/
inductive Race (W α : Type) : Type where
  /-- The work finished first. -/
  | finished (outcome : Except Panic α)
  /-- The token was read as fired before a poll, and this work was left. -/
  | fired (rest : Work W α)

/-- Poll the work until it ends, but read the token before every poll and stop when it has
fired. -/
def race (token : Cancellation W) : Work W α → W → Race W α × W
  | done outcome, world => (.finished outcome, world)
  | poll effect rest, world =>
    let (fired, world) := token.run world
    if fired then (.fired (.poll effect rest), world)
    else race token (rest world) (effect world)

end Work

end SqlGateway
