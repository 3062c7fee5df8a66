import SqlGateway.Parameter
import SqlGateway.Placeholder

/-!
# Inferred parameters

A statement may refer to placeholders that its caller did not bind. Each of them gets a parameter
of a default type that holds `NULL`, except the names that the templates for creating rows declare
themselves.
-/

namespace SqlGateway.Inference

/-- Names that templates declare; no parameter is made up for them. -/
def reservedNames : List String := ["InsertedTable", "MasterId"]

/-- The type of a parameter that is made up. -/
def defaultType : DbType := .nVarChar

/-- The size of a parameter that is made up. -/
def defaultSize : UInt32 := 4000

/-- Whether a name is reserved, in any case. -/
def isReserved (name : String) : Bool := reservedNames.any (Text.sameName · name)

/-- The parameter made up for a name. -/
def placeholderParameter (name : String) : Parameter :=
  (Parameter.named name defaultType .null).withSize defaultSize

/-- Whether a placeholder needs a parameter beside the supplied ones. -/
def isMissing (supplied : List Parameter) (name : String) : Bool :=
  !isReserved name && !supplied.any (·.isNamed name)

/-- The supplied parameters, followed by one for each placeholder that is missing. -/
def infer (sql : String) (supplied : List Parameter) : List Parameter :=
  supplied ++ ((Placeholder.scan sql).filter (isMissing supplied)).map placeholderParameter

end SqlGateway.Inference
