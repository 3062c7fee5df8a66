import SqlGateway.DbType
import SqlGateway.Value

/-!
# Parameters

A parameter is known by its name, compared up to ASCII case. Callers may write `@`, `:` or `$` in
front of a name; `Parameter.named` drops them when a parameter is made, and `Parameter.isNamed`
drops them from the name that is asked for.
-/

namespace SqlGateway

/-- A parameter bound to a command. -/
structure Parameter where
  name : String
  dbType : DbType
  /-- Characters of a string, bytes of a binary. -/
  size : Option UInt32
  value : Value
deriving Repr, BEq, Inhabited

namespace Parameter

/-- A character that introduces a parameter in SQL text. -/
def isMarker (c : Char) : Bool := c == '@' || c == ':' || c == '$'

/-- A name without the markers in front of it. -/
def bareName (name : String) : String := String.ofList (name.toList.dropWhile isMarker)

/-- A parameter without a declared size. -/
def named (name : String) (dbType : DbType) (value : Value) : Parameter :=
  ⟨bareName name, dbType, none, value⟩

def withSize (p : Parameter) (size : UInt32) : Parameter := { p with size := some size }

/-- Whether `p` is the parameter meant by `name`, in any case and with any markers. -/
def isNamed (p : Parameter) (name : String) : Bool := Text.sameName p.name (bareName name)

theorem bareName_bareName (name : String) : bareName (bareName name) = bareName name := by
  have h : ∀ cs : List Char,
      (cs.dropWhile isMarker).dropWhile isMarker = cs.dropWhile isMarker := by
    intro cs
    induction cs with
    | nil => rfl
    | cons c cs ih =>
      by_cases hc : isMarker c
      · simp [hc, ih]
      · simp [hc]
  simp [bareName, h]

/-- A parameter answers to the name it was made with. -/
theorem named_isNamed (name : String) (dbType : DbType) (value : Value) :
    (named name dbType value).isNamed name = true := by
  simp [named, isNamed]

end Parameter

end SqlGateway
