import SqlGateway.Enumeration

/-!
# Query shapes

The intent behind a statement, which selects its template. Some shapes are written differently
when they are nested inside a parent operation.
-/

namespace SqlGateway

/-- What a statement is for. -/
inductive QueryShape where
  | create | readList | aggregatedReadList | readByKey | updateByKey | delete | deleteByKey
  | procedure | tableFunction | scalarFunction
deriving Repr, DecidableEq, Inhabited

namespace QueryShape

instance : Enumeration QueryShape where
  all := [create, readList, aggregatedReadList, readByKey, updateByKey, delete, deleteByKey,
    procedure, tableFunction, scalarFunction]
  tag
    | create => "Create"
    | readList => "ReadList"
    | aggregatedReadList => "AggregatedReadList"
    | readByKey => "ReadByKey"
    | updateByKey => "UpdateByKey"
    | delete => "Delete"
    | deleteByKey => "DeleteByKey"
    | procedure => "Procedure"
    | tableFunction => "TableFunction"
    | scalarFunction => "ScalarFunction"

/-- The name of the shape, also in messages. -/
def name (shape : QueryShape) : String := Enumeration.tag shape

/-- The place of the shape in the list of all shapes. -/
def index (shape : QueryShape) : Nat := Enumeration.all.idxOf shape

/-- Shapes that have a template of their own when nested. -/
def hasSubQueryVariant : QueryShape → Bool
  | create | readList | updateByKey | deleteByKey => true
  | _ => false

end QueryShape

end SqlGateway
