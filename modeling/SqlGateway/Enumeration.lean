/-!
# Enumerations with written names

A type of finitely many constants, each with a name under which it is written and read back. The
names are kept in one list, so that reading is a search for the constant of that name.
-/

namespace SqlGateway

/-- A finite type whose members are written by name. -/
class Enumeration (α : Type) where
  /-- Every member, in order of declaration. -/
  all : List α
  /-- The name a member is written with. -/
  tag : α → String

namespace Enumeration

variable {α : Type} [Enumeration α]

/-- The member written as `text`. -/
def ofTag? (text : String) : Option α := all.find? fun a ↦ tag a == text

theorem tag_of_ofTag? {text : String} {a : α} (h : ofTag? text = some a) : tag a = text := by
  have := List.find?_some h
  simpa using this

end Enumeration

end SqlGateway
