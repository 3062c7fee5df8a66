import SqlGateway.Enumeration
import SqlGateway.Json.Number
import SqlGateway.Json.Reader
import SqlGateway.Json.Writer
import SqlGateway.Decimal.Layout

/-!
# Types with a JSON form

A `JsonCodec` writes the values of a type into documents and reads them back. Three conventions
cover every type of the library.

* A record is an object with its fields in order. It is read from an object with the fields in any
  order and others among them, each field once, and also from the array of its fields.
* A variant without contents is its name, and is also read from `name: null`; a variant with
  contents is an object of the one entry `name: contents`.
* An optional value is the value or `null`; an absent field is `null` too.
-/

namespace SqlGateway

/-- A type whose values are written into JSON documents and read from them. -/
class JsonCodec (α : Type) where
  encode : α → Json
  decode? : Json → Option α

export JsonCodec (encode decode?)

namespace Json

/-! ## Records -/

/-- The one entry of that key: `none` inside if there is none, and no answer if there are more. -/
def field? (entries : List (String × Json)) (name : String) : Option (Option Json) :=
  match entries.filter fun entry ↦ entry.1 == name with
  | [] => some none
  | [entry] => some (some entry.2)
  | _ => none

/-- The fields of a record in the order of `names`. An array holds the fields in order; the last
ones may be absent down to `least` of them. -/
def fields? (names : List String) (least : Nat) : Json → Option (List (Option Json))
  | .object entries => names.mapM (field? entries)
  | .array items =>
    if least ≤ items.length ∧ items.length ≤ names.length then
      some (items.map some ++ List.replicate (names.length - items.length) none)
    else none
  | _ => none

/-- A field that must be there. -/
def required {α : Type} [JsonCodec α] (field : Option Json) : Option α := field.bind decode?

/-- A field that may be absent or `null`. -/
def optional {α : Type} [JsonCodec α] : Option Json → Option (Option α)
  | none => some none
  | some .null => some none
  | some contents => (decode? contents).map some

/-! ## Variants -/

/-- The name and the contents of a variant. -/
def variant? : Json → Option (String × Option Json)
  | .string name => some (name, none)
  | .object [(name, contents)] => some (name, some contents)
  | _ => none

/-- Whether contents are those of a variant that has none. -/
def isEmptyContents : Option Json → Bool
  | none => true
  | some .null => true
  | _ => false

end Json

/-! ## The simple types -/

instance : JsonCodec String where
  encode := .string
  decode?
    | .string s => some s
    | _ => none

instance : JsonCodec Bool where
  encode := .bool
  decode?
    | .bool b => some b
    | _ => none

/-- Whole numbers of a range. -/
def Json.wholeIn? (low high : Int) : Json → Option Int
  | .number text =>
    match Json.integerOfText? text with
    | some i => if low ≤ i ∧ i ≤ high then some i else none
    | none => none
  | _ => none

instance : JsonCodec Int64 where
  encode i := .ofInt i.toInt
  decode? j := (Json.wholeIn? (-Text.signedBound) (Text.signedBound - 1) j).map Int64.ofInt

instance : JsonCodec UInt64 where
  encode n := .ofInt n.toNat
  decode? j := (Json.wholeIn? 0 (UInt64.size - 1) j).map fun i ↦ UInt64.ofNat i.toNat

instance : JsonCodec UInt32 where
  encode n := .ofInt n.toNat
  decode? j := (Json.wholeIn? 0 (UInt32.size - 1) j).map fun i ↦ UInt32.ofNat i.toNat

instance : JsonCodec UInt8 where
  encode n := .ofInt n.toNat
  decode? j := (Json.wholeIn? 0 (UInt8.size - 1) j).map fun i ↦ UInt8.ofNat i.toNat

instance : JsonCodec Float where
  encode x := .number (Decimal.json.write x).toList
  decode?
    | .number text => Json.floatOfText? text
    | _ => none

instance {α : Type} [JsonCodec α] : JsonCodec (List α) where
  encode items := .array (items.map encode)
  decode?
    | .array items => items.mapM decode?
    | _ => none

instance {α : Type} [JsonCodec α] : JsonCodec (Option α) where
  encode value := value.elim .null encode
  decode? j := Json.optional (some j)

instance {α : Type} [Enumeration α] : JsonCodec α where
  encode a := .tagged (Enumeration.tag a)
  decode? j := do
    let (name, contents) ← j.variant?
    if Json.isEmptyContents contents then Enumeration.ofTag? name else none

/-- The compact text of a value's JSON form. -/
def toJsonText {α : Type} [JsonCodec α] (a : α) : String := (encode a).render

/-- The value whose JSON form a text writes. -/
def ofJsonText? (α : Type) [JsonCodec α] (text : String) : Option α := do
  let document ← Json.read? text
  decode? document

end SqlGateway
