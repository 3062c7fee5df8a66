import SqlGateway.Sqlite.Cell
import SqlGateway.Text.Fold

/-!
# Affinities

The kind of cells that a column prefers. It follows from words in the type that the column is
declared with. A cell that is stored in a column is converted to the column's affinity if nothing
is lost by that, and so are the sides of a comparison with a column.
-/

namespace SqlGateway.Sqlite

/-- What a column prefers. -/
inductive Affinity where
  /-- Cells as they are. -/
  | blob
  | text
  | numeric
  | integer
  /-- Doubles. -/
  | real
deriving Repr, DecidableEq, Inhabited

namespace Affinity

/-- Whether some part of a text is `part`. -/
def occurs (part : List Char) : List Char → Bool
  | [] => part.isEmpty
  | c :: cs => part.isPrefixOf (c :: cs) || occurs part cs

/-- The affinity of a column of a declared type. -/
def ofType (declared : String) : Affinity :=
  let has (part : String) : Bool := occurs part.toList (Text.folded declared)
  if has "int" then integer
  else if has "char" || has "clob" || has "text" then text
  else if has "blob" || declared.isEmpty then blob
  else if has "real" || has "floa" || has "doub" then real
  else numeric

/-- Whether numbers are preferred. -/
def isNumeric : Affinity → Bool
  | blob => false
  | text => false
  | _ => true

end Affinity

namespace Cell

/-- A text as the number that it is: an integer if it has neither point nor exponent and fits 64
bits, and a double otherwise. -/
def ofNumber? (s : String) : Option Cell :=
  let reading := Reading.ofText s.toList
  if !reading.complete then none
  else match reading.toInt? with
    | some i =>
      if -(Text.signedBound : Int) ≤ i ∧ i < Text.signedBound then some (integer (Int64.ofInt i))
      else some (real reading.toFloat)
    | none => some (real reading.toFloat)

/-- The whole number that a cell is; a text counts as the number it writes. -/
def asInteger? : Cell → Option Int64
  | text s => (ofNumber? s).bind toInteger?
  | cell => cell.toInteger?

/-- A number as a text. Other cells stay as they are. -/
def numberToText : Cell → Cell
  | integer i => text (toString i.toInt)
  | real x => text (realText x)
  | cell => cell

/-- A text as the number that it is, if it is one. Other cells stay as they are. -/
def textToNumber : Cell → Cell
  | text s => (ofNumber? s).getD (text s)
  | cell => cell

/-- A double as the integer that it equals, if there is one. Other cells stay as they are. -/
def realToInteger : Cell → Cell
  | real x => ((real x).toInteger?.map integer).getD (real x)
  | cell => cell

/-- An integer as a double. Other cells stay as they are. -/
def integerToReal : Cell → Cell
  | integer i => real i.toFloat
  | cell => cell

/-- The number that a cell counts as: the one that a text or a blob starts with; `NULL` is none. -/
def number? : Cell → Option Float
  | null => none
  | integer i => some i.toFloat
  | real x => some x
  | text s => some (Reading.ofText s.toList).toFloat
  | blob bs => some (Reading.ofText (Text.ofBytes bs).toList).toFloat

end Cell

namespace Affinity

/-- The cell that is stored for a cell. -/
def store : Affinity → Cell → Cell
  | blob, cell => cell
  | text, cell => cell.numberToText
  | real, cell => cell.textToNumber.realToInteger.integerToReal
  | _, cell => cell.textToNumber.realToInteger

/-- The cells that are compared for two cells. -/
def compared : Affinity → Cell × Cell → Cell × Cell
  | blob, cells => cells
  | text, (.text s, b) => (.text s, b.numberToText)
  | text, (a, .text s) => (a.numberToText, .text s)
  | text, cells => cells
  | _, (a, b) => (a.textToNumber, b.textToNumber)

/-- The affinity of a comparison between sides that have one if they are columns. -/
def ofComparison : Option Affinity → Option Affinity → Affinity
  | some a, some b => if a.isNumeric || b.isNumeric then numeric else blob
  | some a, none => a
  | none, some b => b
  | none, none => blob

end Affinity

end SqlGateway.Sqlite
