import SqlGateway.Enumeration
import SqlGateway.Text.Trim

/-!
# Templates

A template is SQL text with tokens in it, a token being letters in braces. `Template.segments`
takes a text apart into characters and tokens, from left to right; filling a template and listing
its tokens are both read off the segments. A brace that belongs to no token is a character like
any other, and what is filled in is not looked at again.

## Main definitions

* `Template.segments`: the decomposition.
* `Template.fill`, `Template.placeholders`: filling and listing.
* `Slot`, `Template.Piece`, `Template.text`: templates built from named tokens.
-/

namespace SqlGateway

/-- The tokens that the templates of the dialects use. -/
inductive Slot where
  | targetTable | columns | aggregations | subQueries | lefts | filter | order | groupBy
  | pagination | sets | preQueries | pkName | pkTypeSize | values | storedProcedureName
  | functionName | inputParams | tranName | sqlBody | targetTableAs | targetColumn | mainTable
  | mainColumn
deriving Repr, DecidableEq

instance : Enumeration Slot where
  all := [.targetTable, .columns, .aggregations, .subQueries, .lefts, .filter, .order, .groupBy,
    .pagination, .sets, .preQueries, .pkName, .pkTypeSize, .values, .storedProcedureName,
    .functionName, .inputParams, .tranName, .sqlBody, .targetTableAs, .targetColumn, .mainTable,
    .mainColumn]
  tag
    | .targetTable => "TargetTable"
    | .columns => "Columns"
    | .aggregations => "Aggregations"
    | .subQueries => "SubQueries"
    | .lefts => "Lefts"
    | .filter => "Where"
    | .order => "Order"
    | .groupBy => "GroupBy"
    | .pagination => "Pagination"
    | .sets => "Sets"
    | .preQueries => "PreQueries"
    | .pkName => "PkName"
    | .pkTypeSize => "PkTypeSize"
    | .values => "Values"
    | .storedProcedureName => "StoredProcedureName"
    | .functionName => "FunctionName"
    | .inputParams => "InputParams"
    | .tranName => "TranName"
    | .sqlBody => "SqlBody"
    | .targetTableAs => "TargetTableAs"
    | .targetColumn => "TargetColumn"
    | .mainTable => "MainTable"
    | .mainColumn => "MainColumn"

namespace Template

/-- The token of a name. -/
def token (name : List Char) : List Char := '\x7b' :: name ++ ['\x7d']

/-- The token of a slot. -/
def slotToken (slot : Slot) : String := String.ofList (token (Enumeration.tag slot).toList)

/-! ## Taking a template apart -/

/-- A piece of a template text. -/
inductive Segment where
  | char (c : Char)
  | token (name : List Char)
deriving Repr, DecidableEq

/-- The name and the rest, if a token starts behind a brace. -/
def tokenAfterBrace? (cs : List Char) : Option (List Char × List Char) :=
  match cs.dropWhile Char.isAlpha with
  | '\x7d' :: rest =>
    match cs.takeWhile Char.isAlpha with
    | [] => none
    | name => some (name, rest)
  | _ => none

theorem tokenAfterBrace?_eq_some {cs name rest : List Char}
    (h : tokenAfterBrace? cs = some (name, rest)) :
    cs.takeWhile Char.isAlpha = name ∧ cs.dropWhile Char.isAlpha = '\x7d' :: rest := by
  unfold tokenAfterBrace? at h
  split at h
  · rename_i hdrop
    split at h
    · cases h
    · cases h
      exact ⟨rfl, hdrop⟩
  · cases h

theorem length_lt_of_tokenAfterBrace? {cs name rest : List Char}
    (h : tokenAfterBrace? cs = some (name, rest)) : rest.length < cs.length := by
  have hsplit : (cs.takeWhile Char.isAlpha).length + (cs.dropWhile Char.isAlpha).length
      = cs.length := by
    rw [← List.length_append, List.takeWhile_append_dropWhile]
  rw [(tokenAfterBrace?_eq_some h).2, List.length_cons] at hsplit
  omega

/-- The segments of a text, from left to right. -/
def segments : List Char → List Segment
  | [] => []
  | c :: cs =>
    if c = '\x7b' then
      match _h : tokenAfterBrace? cs with
      | some (name, rest) => .token name :: segments rest
      | none => .char c :: segments cs
    else .char c :: segments cs
termination_by cs => cs.length
decreasing_by
  · have := length_lt_of_tokenAfterBrace? _h
    simp only [List.length_cons]
    omega
  · simp
  · simp

/-! ## Filling and listing -/

/-- The name that a replacement is for; its key may be written with braces or without. -/
def keyName (key : String) : List Char :=
  dropEndBraces (key.toList.dropWhile (· = '\x7b'))
where
  /-- Without closing braces at the end. -/
  dropEndBraces (cs : List Char) : List Char := Text.dropEndWhile (· = '\x7d') cs

/-- The value of the first replacement for a name. -/
def replacement? (replacements : List (String × String)) (name : List Char) : Option String :=
  (replacements.find? fun entry ↦ keyName entry.1 == name).map Prod.snd

/-- What a segment becomes; a token without replacement stays. -/
def fillSegment (replacements : List (String × String)) : Segment → List Char
  | .char c => [c]
  | .token name => ((replacement? replacements name).map String.toList).getD (Template.token name)

/-- The text with every token replaced that has a replacement. -/
def fill (template : String) (replacements : List (String × String)) : String :=
  String.ofList ((segments template.toList).flatMap (fillSegment replacements))

/-- The tokens of a text, in order and with repeats. -/
def placeholders (template : String) : List String :=
  (segments template.toList).filterMap fun
    | .char _ => none
    | .token name => some (String.ofList (token name))

/-! ## Building a template -/

/-- Literal text or a slot. -/
inductive Piece where
  | text (s : String)
  | slot (slot : Slot)

instance : Coe String Piece := ⟨.text⟩

instance : Coe Slot Piece := ⟨.slot⟩

/-- The text of one piece. -/
def Piece.render : Piece → String
  | .text s => s
  | .slot s => slotToken s

/-- The text of a template that is built from pieces. -/
def text (pieces : List Piece) : String := String.join (pieces.map Piece.render)

end Template

end SqlGateway
