import SqlGateway.Enumeration

/-!
# Errors of a backend

What a connection reports when it fails: which of its operations failed, and in what words.
-/

namespace SqlGateway

/-- Which operation of a connection failed. -/
inductive BackendErrorKind where
  | opening | execute | transaction | cancelled | closed
deriving Repr, DecidableEq, Inhabited

instance : Enumeration BackendErrorKind where
  all := [.opening, .execute, .transaction, .cancelled, .closed]
  tag
    | .opening => "open"
    | .execute => "execute"
    | .transaction => "transaction"
    | .cancelled => "cancelled"
    | .closed => "closed"

/-- An error reported by a connection. -/
structure BackendError where
  kind : BackendErrorKind
  message : String
deriving Repr, DecidableEq, Inhabited

namespace BackendError

/-- The connection could not be opened. -/
def opening (message : String) : BackendError := ⟨.opening, message⟩

/-- A statement could not be prepared, bound or run. -/
def execute (message : String) : BackendError := ⟨.execute, message⟩

/-- A transaction could not be begun or ended. -/
def transaction (message : String) : BackendError := ⟨.transaction, message⟩

/-- The connection is closed. -/
def closed : BackendError := ⟨.closed, "connection is closed"⟩

/-- The caller cancelled the call. -/
def cancelled : BackendError := ⟨.cancelled, "operation was cancelled"⟩

def isCancelled (e : BackendError) : Bool := e.kind == .cancelled

/-- The error in one line. -/
def display (e : BackendError) : String := Enumeration.tag e.kind ++ " failed: " ++ e.message

end BackendError

/-- The answer of a connection. -/
abbrev BackendResult (α : Type) := Except BackendError α

end SqlGateway
