import SqlGateway.Enumeration

/-!
# Comparison operators

What a filter may ask of a column.
-/

namespace SqlGateway

/-- The operator of a comparison. `unknown` compares nothing and is left out of a filter. -/
inductive CompareOperator where
  | startsWith | endsWith | contains | equal | notEqual | isNull | isNotNull | lessThan
  | lessThanOrEqual | moreThan | moreThanOrEqual | isIn | isNotIn | unknown
deriving Repr, DecidableEq, Inhabited

namespace CompareOperator

instance : Enumeration CompareOperator where
  all := [startsWith, endsWith, contains, equal, notEqual, isNull, isNotNull, lessThan,
    lessThanOrEqual, moreThan, moreThanOrEqual, isIn, isNotIn, unknown]
  tag
    | startsWith => "StartsWith"
    | endsWith => "EndsWith"
    | contains => "Contains"
    | equal => "Equal"
    | notEqual => "NotEqual"
    | isNull => "IsNull"
    | isNotNull => "IsNotNull"
    | lessThan => "LessThan"
    | lessThanOrEqual => "LessThanOrEqual"
    | moreThan => "MoreThan"
    | moreThanOrEqual => "MoreThanOrEqual"
    | isIn => "In"
    | isNotIn => "NotIn"
    | unknown => "Unknown"

/-- Whether the comparison refers to a bound parameter. -/
def takesParameter : CompareOperator → Bool
  | isNull | isNotNull | unknown => false
  | _ => true

end CompareOperator

/-- A comparison as a query builder hands it over. -/
structure CompareClause where
  operator : CompareOperator
deriving Repr, DecidableEq

end SqlGateway
