import SqlGateway.Shape
import SqlGateway.Template

/-!
# Dialects

A dialect is data: a table of templates by query shape, a few templates of clauses, and the
lexical facts that filters need. Compiling a shape is a search of the table.
-/

namespace SqlGateway

/-- A row of a dialect's table: a template, and another one for nested use if it differs. -/
structure TemplateEntry where
  shape : QueryShape
  topLevel : String
  subQuery : Option String
deriving Repr, DecidableEq

/-- Templates of clauses, which belong to no shape. -/
structure AuxiliaryTemplates where
  pagination : String
  groupBy : String
  orderBy : String
  leftJoin : String
  transactionBlock : String
deriving Repr, DecidableEq

/-- A dialect of SQL. -/
structure Dialect where
  name : String
  /-- The character in front of a parameter in SQL text. -/
  marker : Char
  /-- What stands in front of a literal of wide characters. -/
  wideLiteral : String
  /-- The operator that joins strings. -/
  concatOperator : String
  templates : List TemplateEntry
  auxiliary : AuxiliaryTemplates
deriving Repr

/-- A refusal of a dialect. -/
inductive DialectError where
  /-- The dialect has no template for the shape. -/
  | notImplementedYet (dialect : String) (shape : QueryShape)
deriving Repr, DecidableEq

/-- The wording of a refusal. -/
def DialectError.message : DialectError → String
  | notImplementedYet dialect shape =>
    "query shape not implemented yet for " ++ dialect ++ ": " ++ shape.name

namespace Dialect

/-- The template of a shape, of its nested form if that is asked for and there is one. -/
def compile (dialect : Dialect) (shape : QueryShape) (nested : Bool) :
    Except DialectError String :=
  match dialect.templates.find? fun entry ↦ entry.shape = shape with
  | none => .error (.notImplementedYet dialect.name shape)
  | some entry => .ok (if nested then entry.subQuery.getD entry.topLevel else entry.topLevel)

end Dialect

end SqlGateway
