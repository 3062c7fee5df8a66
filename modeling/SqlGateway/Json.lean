/-!
# JSON documents

The values of JSON. A number is kept as the text that writes it, since it depends on the reader
of a document which numbers a place admits. `Json.unreadable` stands for a string, or an object
with a key, whose escapes name half of a surrogate pair: such a piece of a document may be passed
over but not read.
-/

namespace SqlGateway

/-- A value of a JSON document. -/
inductive Json where
  | null
  | bool (b : Bool)
  | number (text : List Char)
  | string (s : String)
  | unreadable
  | array (items : List Json)
  | object (entries : List (String × Json))
deriving Repr, Inhabited

namespace Json

/-- A whole number. -/
def ofInt (i : Int) : Json := .number (toString i).toList

/-- A constant of an enumeration or a variant without contents. -/
def tagged (name : String) : Json := .string name

/-- A variant with contents, under its name. -/
def variant (name : String) (contents : Json) : Json := .object [(name, contents)]

/-- The array of the encodings of a list. -/
def listOf {α : Type} (encode : α → Json) (items : List α) : Json := .array (items.map encode)

end Json

end SqlGateway
