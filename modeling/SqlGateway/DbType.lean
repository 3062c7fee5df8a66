import SqlGateway.Enumeration
import SqlGateway.Text.Fold
import SqlGateway.Text.Trim

/-!
# Declared database types

The vocabulary of types a parameter or a column is declared with. A declaration such as
`NVARCHAR(50)` or ` [decimal] (18, 2)` is read without its size, its brackets, its surrounding
whitespace and its case.

## Main definitions

* `DbType`: the types, with `DbType.sqlName`, their canonical names.
* `DbType.aliases`: the further names that are read.
* `DbType.parse`: reading a declaration.
-/

namespace SqlGateway

/-- The declared type of a parameter or a column. -/
inductive DbType where
  | bigInt | binary | bit | char | date | dateTime | dateTime2 | dateTimeOffset | decimal | float
  | image | int | money | nChar | nText | nVarChar | real | smallDateTime | smallInt | smallMoney
  | text | time | tinyInt | uniqueIdentifier | varBinary | varChar | xml
deriving Repr, DecidableEq, Inhabited

namespace DbType

instance : Enumeration DbType where
  all := [bigInt, binary, bit, char, date, dateTime, dateTime2, dateTimeOffset, decimal, float,
    image, int, money, nChar, nText, nVarChar, real, smallDateTime, smallInt, smallMoney, text,
    time, tinyInt, uniqueIdentifier, varBinary, varChar, xml]
  tag
    | bigInt => "BigInt"
    | binary => "Binary"
    | bit => "Bit"
    | char => "Char"
    | date => "Date"
    | dateTime => "DateTime"
    | dateTime2 => "DateTime2"
    | dateTimeOffset => "DateTimeOffset"
    | decimal => "Decimal"
    | float => "Float"
    | image => "Image"
    | int => "Int"
    | money => "Money"
    | nChar => "NChar"
    | nText => "NText"
    | nVarChar => "NVarChar"
    | real => "Real"
    | smallDateTime => "SmallDateTime"
    | smallInt => "SmallInt"
    | smallMoney => "SmallMoney"
    | text => "Text"
    | time => "Time"
    | tinyInt => "TinyInt"
    | uniqueIdentifier => "UniqueIdentifier"
    | varBinary => "VarBinary"
    | varChar => "VarChar"
    | xml => "Xml"

/-- The canonical name in SQL: the tag in lower case. -/
def sqlName (ty : DbType) : String := Text.lowered (Enumeration.tag ty)

/-- Character types whose constants need the dialect's prefix for wide literals. -/
def isWideString : DbType → Bool
  | nChar | nVarChar | nText => true
  | _ => false

/-- Character types, wide or not. -/
def isString (ty : DbType) : Bool :=
  ty.isWideString || match ty with
    | char | varChar | text => true
    | _ => false

/-- Names that are read besides the canonical ones. -/
def aliases : List (String × DbType) :=
  [("integer", bigInt), ("bool", bit), ("boolean", bit), ("numeric", decimal), ("double", float),
    ("blob", varBinary)]

/-- Every name that is read, in lower case, with its type. -/
def names : List (String × DbType) := (Enumeration.all.map fun ty ↦ (sqlName ty, ty)) ++ aliases

/-- The name inside a declaration: what stands before the first parenthesis, without surrounding
whitespace, and then without opening brackets in front and closing brackets behind. -/
def baseName (declaration : List Char) : List Char :=
  let base := Text.trimBlank (declaration.takeWhile (· ≠ '('))
  Text.dropEndWhile (· = ']') (base.dropWhile (· = '['))

/-- The type a declaration names. -/
def parse? (declaration : String) : Option DbType :=
  let name := (baseName declaration.toList).map Char.toLower
  (names.find? fun entry ↦ entry.1.toList == name).map Prod.snd

/-- A declaration that names no type. -/
structure Unknown where
  declaration : String
deriving Repr, DecidableEq

/-- The wording of the refusal, which quotes the declaration unchanged. -/
def Unknown.message (e : Unknown) : String := "unknown database type: " ++ e.declaration

/-- Read a declaration. -/
def parse (declaration : String) : Except Unknown DbType :=
  match parse? declaration with
  | some ty => .ok ty
  | none => .error ⟨declaration⟩

end DbType

end SqlGateway
