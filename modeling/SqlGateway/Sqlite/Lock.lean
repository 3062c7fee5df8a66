/-!
# Locks

Several connections may have one database open. One that has read in a transaction holds a shared
lock until the transaction ends: meanwhile no other commits. One that has written holds a reserved
lock: meanwhile no other writes. One that wants to be alone, or has failed to commit because others
read, holds a pending lock: meanwhile no other begins to read.

## Main definitions

* `Lock.granted`: whether a lock can be taken, by what is held already.
-/

namespace SqlGateway.Sqlite

/-- What a connection keeps the others from. -/
inductive Lock where
  | shared | reserved | pending
deriving Repr, DecidableEq, Inhabited

namespace Lock

/-- How much a lock keeps the others from. -/
def rank : Lock → Nat
  | shared => 0
  | reserved => 1
  | pending => 2

/-- Whether a lock keeps the others from all that another one does. -/
def covers (lock other : Lock) : Bool := decide (other.rank ≤ lock.rank)

/-- The stronger one of a lock and of one that may be held. -/
def stronger (lock : Lock) : Option Lock → Lock
  | some held => if held.covers lock then held else lock
  | none => lock

/-- The lock that is held after a lock was taken. One that may write stays what it is. -/
def joined (wanted : Lock) : Option Lock → Lock
  | some shared => wanted
  | some held => held
  | none => wanted

/-- The strongest of some locks. -/
def strongest (locks : List Lock) : Option Lock :=
  locks.foldr (fun lock behind ↦ some (lock.stronger behind)) none

/-- Whether a connection that holds `held` may take a lock while the strongest lock of the others is
`rival`. One that may write has no need to be alone. -/
def granted (wanted : Lock) (held rival : Option Lock) : Bool :=
  match wanted with
  | shared => held.isSome || rival != some pending
  | reserved => held.any (·.covers reserved) || !rival.any (·.covers reserved)
  | pending => held.any (·.covers reserved) || rival.isNone

@[simp] theorem granted_none (wanted : Lock) (held : Option Lock) :
    wanted.granted held none = true := by
  cases wanted <;> simp [granted]

theorem strongest_eq_none {locks : List Lock} : strongest locks = none ↔ locks = [] := by
  cases locks with
  | nil => exact ⟨fun _ ↦ rfl, fun _ ↦ rfl⟩
  | cons lock locks => exact ⟨fun h ↦ (by cases h), fun h ↦ (by cases h)⟩

/-- Beside a pending lock nobody else begins to hold one. -/
theorem not_granted_pending (wanted : Lock) : wanted.granted none (some pending) = false := by
  cases wanted <;> rfl

end Lock

end SqlGateway.Sqlite
