import SqlGateway.Compare
import SqlGateway.DbType
import SqlGateway.Dialect

/-!
# Filters

Lowering one comparison to a fragment of SQL. The parameter of the fragment is named after the
source and the parameter it stands for, joined by an underscore; doubled underscores are collapsed
by replacing pairs until there are none.

## Main definitions

* `Filter.boundName`: the name.
* `Filter.compile`: the fragment.
-/

namespace SqlGateway.Filter

/-! ## Names of bound parameters -/

/-- Whether two underscores stand side by side. -/
def hasPair : List Char → Bool
  | '_' :: '_' :: _ => true
  | _ :: cs => hasPair cs
  | [] => false

/-- Every pair of underscores replaced by one, from left to right. -/
def replacePairs : List Char → List Char
  | '_' :: '_' :: cs => '_' :: replacePairs cs
  | c :: cs => c :: replacePairs cs
  | [] => []

theorem length_replacePairs_le (cs : List Char) : (replacePairs cs).length ≤ cs.length := by
  fun_induction replacePairs cs <;> simp_all
  omega

theorem length_replacePairs_lt {cs : List Char} (h : hasPair cs = true) :
    (replacePairs cs).length < cs.length := by
  fun_induction replacePairs cs with
  | case1 cs ih =>
    have := length_replacePairs_le cs
    simp only [List.length_cons]
    omega
  | case2 c cs hne ih =>
    have hcs : hasPair cs = true := by
      rw [hasPair.eq_def] at h
      split at h
      · rename_i heq
        cases heq
        exact (hne _ rfl rfl).elim
      · rename_i heq
        cases heq
        exact h
      · cases h
    have := ih hcs
    simp only [List.length_cons]
    omega
  | case3 => cases h

/-- Replace pairs of underscores until there are none. -/
def collapse (cs : List Char) : List Char :=
  if hasPair cs then collapse (replacePairs cs) else cs
termination_by cs.length
decreasing_by exact length_replacePairs_lt ‹_›

/-- The name of the parameter bound for `param` of `source`. -/
def boundName (source param : String) : String :=
  String.ofList (collapse (source.toList ++ '_' :: param.toList))

/-! ## Fragments -/

/-- The fragment for a comparison of `column` with the parameter `param` of `source`. The wildcard
of a pattern is a wide literal if the type of the column is wide. -/
def compile (dialect : Dialect) (operator : CompareOperator) (source column param : String)
    (ty : DbType) : String :=
  let wildcard := (if ty.isWideString then dialect.wideLiteral else "") ++ "'%'"
  let joined := " " ++ dialect.concatOperator ++ " "
  let value := dialect.marker.toString ++ boundName source param
  match operator with
  | .startsWith => column ++ " LIKE " ++ value ++ joined ++ wildcard
  | .endsWith => column ++ " LIKE " ++ wildcard ++ joined ++ value
  | .contains => column ++ " LIKE " ++ wildcard ++ joined ++ value ++ joined ++ wildcard
  | .equal => column ++ " = " ++ value
  | .notEqual => column ++ " != " ++ value
  | .isNull => column ++ " IS NULL"
  | .isNotNull => column ++ " IS NOT NULL"
  | .lessThan => column ++ " < " ++ value
  | .lessThanOrEqual => column ++ " <= " ++ value
  | .moreThan => column ++ " > " ++ value
  | .moreThanOrEqual => column ++ " >= " ++ value
  | .isIn => column ++ " IN (" ++ value ++ ")"
  | .isNotIn => column ++ " NOT IN (" ++ value ++ ")"
  | .unknown => ""

end SqlGateway.Filter
