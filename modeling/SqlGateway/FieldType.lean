import SqlGateway.DbType

/-!
# Field types

The Rust types that generated declarations give to parameters of the declared database types.
-/

namespace SqlGateway.FieldType

/-- The type of a field whose database type is unknown. -/
def fallback : String := "String"

/-- The type of a field of a database type. -/
def ofDbType : DbType → String
  | .bigInt => "i64"
  | .int => "i32"
  | .smallInt => "i16"
  | .tinyInt => "u8"
  | .bit => "bool"
  | .decimal | .money | .smallMoney | .float => "f64"
  | .real => "f32"
  | .char | .varChar | .text | .nChar | .nVarChar | .nText | .xml => "String"
  | .date => "chrono::NaiveDate"
  | .time => "chrono::NaiveTime"
  | .dateTime | .dateTime2 | .smallDateTime => "chrono::NaiveDateTime"
  | .dateTimeOffset => "chrono::DateTime<chrono::FixedOffset>"
  | .uniqueIdentifier => "uuid::Uuid"
  | .binary | .varBinary | .image => "Vec<u8>"

/-- The type of a field declared as `declaration`. -/
def ofDeclaration (declaration : String) : String :=
  ((DbType.parse? declaration).map ofDbType).getD fallback

/-- A field with its type, which is wrapped if the field may be absent. -/
def declare (name declaration : String) (nullable : Bool) : String :=
  let ty := ofDeclaration declaration
  name ++ ": " ++ if nullable then "Option<" ++ ty ++ ">" else ty

end SqlGateway.FieldType
