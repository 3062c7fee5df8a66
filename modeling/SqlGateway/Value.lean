import SqlGateway.Decimal.Layout
import SqlGateway.Text.Hex

/-!
# Values

The dynamic values that travel between a caller and a database: what parameters carry and what
cells of a result hold. Equality compares doubles as IEEE 754 does, so a value holding a number
that is none differs from itself, and values of different kinds are never equal.
-/

namespace SqlGateway

/-- A value of a parameter or of a cell. -/
inductive Value where
  | null
  | bool (b : Bool)
  | int (i : Int64)
  | float (x : Float)
  | string (s : String)
  | bytes (bs : List UInt8)
deriving Repr, BEq, Inhabited

namespace Value

/-- The name of the value's kind. -/
def typeName : Value → String
  | null => "Null"
  | bool _ => "Bool"
  | int _ => "Int"
  | float _ => "Float"
  | string _ => "String"
  | bytes _ => "Bytes"

def isNull : Value → Bool
  | null => true
  | _ => false

def asBool? : Value → Option Bool
  | bool b => some b
  | _ => none

def asInt? : Value → Option Int64
  | int i => some i
  | _ => none

def asFloat? : Value → Option Float
  | float x => some x
  | _ => none

def asString? : Value → Option String
  | string s => some s
  | _ => none

def asBytes? : Value → Option (List UInt8)
  | bytes bs => some bs
  | _ => none

/-- The text of a value as it stands in messages and snapshots. A string stands for itself. -/
def display : Value → String
  | null => "NULL"
  | bool b => if b then "true" else "false"
  | int i => toString i.toInt
  | float x => Decimal.display.write x
  | string s => s
  | bytes bs => "0x" ++ Text.hexUpper bs

end Value

end SqlGateway
