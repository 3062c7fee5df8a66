import SqlGateway.Sqlite.Numeral
import SqlGateway.Text.Lossy
import SqlGateway.Value

/-!
# Cells

What SQLite stores: the five storage classes. A value of a caller is stored as the cell nearest to
it; a truth value becomes an integer, and a double that is no number becomes `NULL`.

Cells are ordered by class first — `NULL`, numbers, texts, blobs — and within a class by content.
-/

namespace SqlGateway.Sqlite

/-- A stored value. -/
inductive Cell where
  | null
  | integer (i : Int64)
  | real (x : Float)
  | text (s : String)
  | blob (bs : List UInt8)
deriving Repr, BEq, Inhabited

namespace Cell

/-- The cell that a value is stored as. -/
def ofValue : Value → Cell
  | .null => null
  | .bool b => integer (if b then 1 else 0)
  | .int i => integer i
  | .float x => if x.isNaN then null else real x
  | .string s => text s
  | .bytes bs => blob bs

/-- The value that a cell is read as. -/
def toValue : Cell → Value
  | null => .null
  | integer i => .int i
  | real x => .float x
  | text s => .string s
  | blob bs => .bytes bs

def isNull : Cell → Bool
  | null => true
  | _ => false

/-- The place of the cell's class in the order of classes. -/
def rank : Cell → Nat
  | null => 0
  | integer _ => 1
  | real _ => 1
  | text _ => 2
  | blob _ => 3

/-- The order of two doubles, both of which are numbers. -/
def compareReal (x y : Float) : Ordering :=
  if x < y then .lt else if y < x then .gt else .eq

/-- The order of an integer and a double. A double beyond the integers is decided by its sign;
otherwise its whole part is compared, and then what it has beyond that. -/
def compareMixed (i : Int64) (y : Float) : Ordering :=
  if y < -9223372036854775808.0 then .gt
  else if 9223372036854775808.0 ≤ y then .lt
  else
    let whole := y.toInt64
    if i < whole then .lt
    else if whole < i then .gt
    else compareReal whole.toFloat y

/-- The order of two cells. -/
def order : Cell → Cell → Ordering
  | integer i, integer j => compare i j
  | integer i, real y => compareMixed i y
  | real x, integer j => (compareMixed j x).swap
  | real x, real y => compareReal x y
  | text s, text t => compare s t
  | blob s, blob t => compareOfLessAndEq s t
  | a, b => compare a.rank b.rank

/-- The whole number that a cell holds. A double has to lie strictly between the least and the
greatest integer. -/
def toInteger? : Cell → Option Int64
  | integer i => some i
  | real x =>
    let i := x.toInt64
    if i.toFloat == x && i != Int64.minValue && i != Int64.maxValue then some i else none
  | _ => none

/-- The text that a cell is read as; the bytes of a blob are taken for one. -/
def toText? : Cell → Option String
  | null => none
  | integer i => some (toString i.toInt)
  | real x => some (realText x)
  | text s => some s
  | blob bs => some (Text.ofBytes bs)

/-- The text of a cell in upper case; only ASCII letters have case. -/
def upper (cell : Cell) : Cell :=
  match cell.toText? with
  | some s => text (String.ofList (s.toList.map Char.toUpper))
  | none => null

end Cell

end SqlGateway.Sqlite
