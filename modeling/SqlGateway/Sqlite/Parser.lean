import SqlGateway.Sqlite.SqlError
import SqlGateway.Sqlite.Statement
import SqlGateway.Text.Fold
import SqlGateway.Text.Trim

/-!
# Parsing statements

From tokens to statements. A parser either takes tokens off the front or stops at a token where
the grammar has no place for it, and that token is named in the error. The last token of a
statement is always there, so a parser never runs out.

Expressions nest; every level is parsed with one unit of fuel less, and there are fewer levels
than tokens.
-/

namespace SqlGateway.Sqlite

/-- Why a parser stops at a token. -/
inductive Refusal where
  /-- The grammar has no place for it. -/
  | unexpected (token : Token)
  /-- It has a place, but something is wrong with it; the error may tell where it is. -/
  | faulty (token : Token) (message : String) (located : Bool)
deriving Repr

/-- A parser of tokens, which may stop at one. -/
abbrev Parser (α : Type) := StateT (List Token) (Except Refusal) α

namespace Parser

/-- The next token. -/
def peek : Parser Token := fun tokens ↦ .ok (tokens.headD default, tokens)

/-- Take the next token off. -/
def advance : Parser Unit := fun tokens ↦ .ok ((), tokens.drop 1)

/-- Stop at the next token. -/
def refuse {α : Type} : Parser α := fun tokens ↦ .error (.unexpected (tokens.headD default))

/-- Whether a token is a keyword. -/
def isKeyword (keyword : String) (token : Token) : Bool :=
  match token.lexeme with
  | .word text => Text.sameName text keyword
  | _ => false

/-- Take off a keyword if it is next. -/
def keyword? (keyword : String) : Parser Bool := do
  if isKeyword keyword (← peek) then
    advance
    pure true
  else pure false

/-- Take off a keyword. -/
def keyword (keyword : String) : Parser Unit := do
  unless ← keyword? keyword do refuse

/-- Take off a symbol if it is next. -/
def symbol? (text : String) : Parser Bool := do
  if (← peek).lexeme = .symbol text then
    advance
    pure true
  else pure false

/-- Take off a symbol. -/
def symbol (text : String) : Parser Unit := do
  unless ← symbol? text do refuse

/-- Take off what a function finds in the next token. -/
def take {α : Type} (find : Lexeme → Option α) : Parser α := do
  match find (← peek).lexeme with
  | some a =>
    advance
    pure a
  | none => refuse

/-- Items with commas between them, at most `fuel` of them. -/
def commaList {α : Type} (item : Parser α) : (fuel : Nat) → Parser (List α)
  | 0 => refuse
  | fuel + 1 => do
    let first ← item
    if ← symbol? "," then
      let others ← commaList item fuel
      pure (first :: others)
    else pure [first]

/-- Something between parentheses. -/
def parenthesized {α : Type} (inner : Parser α) : Parser α := do
  symbol "("
  let a ← inner
  symbol ")"
  pure a

/-! ## Names -/

/-- The keywords that cannot be names. -/
def reserved : List String :=
  ["add", "all", "alter", "and", "as", "autoincrement", "between", "case", "check", "collate",
   "commit", "constraint", "create", "default", "deferrable", "delete", "distinct", "drop", "else",
   "escape", "exists", "foreign", "from", "group", "having", "in", "index", "insert", "into", "is",
   "isnull", "join", "limit", "not", "nothing", "notnull", "null", "on", "or", "order", "primary",
   "references", "returning", "select", "set", "table", "then", "to", "transaction", "union",
   "unique", "update", "using", "values", "when", "where"]

/-- The name that a lexeme stands for. -/
def nameOf? : Lexeme → Option String
  | .word text => if reserved.contains (Text.lowered text) then none else some text
  | .quoted name => some name
  | _ => none

/-- The name that a lexeme stands for where texts are names, too. -/
def aliasOf? : Lexeme → Option String
  | .string content => some content
  | lexeme => nameOf? lexeme

def name : Parser String := take nameOf?

/-- A table, with its schema before a dot. -/
def tableName : Parser TableName := do
  let first ← name
  if ← symbol? "." then
    let second ← name
    pure ⟨some first, second⟩
  else pure ⟨none, first⟩

/-! ## Expressions -/

/-- The cell that an integer literal is. Beyond 64 bits it is a double. -/
def integerCell (digits : List Char) (negative : Bool) : Cell :=
  let n := Text.natural digits
  if negative then
    if n ≤ Text.signedBound then .integer (Int64.ofInt (-(n : Int)))
    else .real (-(Numeral.ofDigits digits).toFloat)
  else if n < Text.signedBound then .integer (Int64.ofInt n)
  else .real (Numeral.ofDigits digits).toFloat

/-- The cell that hexadecimal digits are: 64 bits in two's complement, and behind a minus the
negative of that, if there is one. -/
def hexadecimalCell? (digits : List Char) (negative : Bool) : Option Cell :=
  match Text.hexNumber? digits with
  | none => none
  | some n =>
    let i := Int64.ofNat n
    if 2 * Text.signedBound ≤ n || (negative && n == Text.signedBound) then none
    else some (.integer (if negative then -i else i))

/-- Take off a number. -/
def number (negative : Bool) : Parser Cell := do
  let token ← peek
  match token.lexeme with
  | .integer digits =>
    advance
    pure (integerCell digits negative)
  | .hexadecimal digits =>
    match hexadecimalCell? digits negative with
    | some cell =>
      advance
      pure cell
    | none =>
      let written := String.ofList (token.written.filter (!isSeparator ·))
      let sign := if negative then "-" else ""
      throw (.faulty token ("hex literal too big: " ++ sign ++ written) true)
  | .decimal numeral =>
    advance
    pure (.real (if negative then -numeral.toFloat else numeral.toFloat))
  | .faulty message located => throw (.faulty token message located)
  | _ => refuse

/-- The cell that a literal other than a number is. -/
def cellOf? : Lexeme → Option Cell
  | .string content => some (.text content)
  | .blob content => some (.blob content)
  | _ => none

/-- The comparison that a lexeme stands for. -/
def comparisonOf? : Lexeme → Option Comparison
  | .symbol "=" => some .equal
  | .symbol "==" => some .equal
  | .symbol "!=" => some .notEqual
  | .symbol "<>" => some .notEqual
  | .symbol "<" => some .less
  | .symbol "<=" => some .lessOrEqual
  | .symbol ">" => some .greater
  | .symbol ">=" => some .greaterOrEqual
  | _ => none

/-- What a name stands for where there is no such column. -/
def fallbackOf (token : Token) : Option Cell :=
  match token.lexeme with
  | .quoted name => if token.written.head? = some '"' then some (.text name) else none
  | .word text =>
    if Text.sameName text "true" then some (.integer 1)
    else if Text.sameName text "false" then some (.integer 0)
    else none
  | _ => none

/-- What starts with a name: a call or a column. -/
def named (operand : Parser (Expr ColumnName)) : Parser (Expr ColumnName) := do
  let token ← peek
  let first ← name
  if ← symbol? "(" then
    if Text.sameName first "last_insert_rowid" then
      symbol ")"
      pure .lastRowid
    else if Text.sameName first "count" then
      symbol "*"
      symbol ")"
      pure .count
    else if Text.sameName first "upper" then
      let inner ← operand
      symbol ")"
      pure (.upper inner)
    else refuse
  else if ← symbol? "." then
    let second ← name
    pure (.name ⟨some first, second, token.start, none⟩)
  else pure (.name ⟨none, first, token.start, fallbackOf token⟩)

/-- An expression without operators, except inside parentheses. -/
def primary (inner : Parser (Expr ColumnName)) : Parser (Expr ColumnName) := do
  let token ← peek
  match cellOf? token.lexeme with
  | some cell =>
    advance
    pure (.literal cell)
  | none =>
    match token.lexeme with
    | .variable number =>
      advance
      pure (.parameter number)
    | .symbol "(" => parenthesized inner
    | .symbol "-" =>
      advance
      return .literal (← number true)
    | .word _ =>
      if ← keyword? "null" then pure (.literal .null)
      else named inner
    | .quoted _ => named inner
    | _ => return .literal (← number false)

/-- Comparisons and tests for `NULL` behind an operand. -/
def tests (inner : Parser (Expr ColumnName)) :
    (fuel : Nat) → Expr ColumnName → Parser (Expr ColumnName)
  | 0, _ => refuse
  | fuel + 1, left => do
    match comparisonOf? (← peek).lexeme with
    | some comparison =>
      advance
      let right ← primary inner
      tests inner fuel (.compare comparison left right)
    | none =>
      if ← keyword? "isnull" then tests inner fuel (.isNull left)
      else if ← keyword? "notnull" then tests inner fuel (.not (.isNull left))
      else if ← keyword? "is" then
        let negated ← keyword? "not"
        keyword "null"
        tests inner fuel (if negated then .not (.isNull left) else .isNull left)
      else pure left

/-- An expression that may be negated. -/
def negation (inner : Parser (Expr ColumnName)) : (fuel : Nat) → Parser (Expr ColumnName)
  | 0 => refuse
  | fuel + 1 => do
    if ← keyword? "not" then return .not (← negation inner fuel)
    else tests inner (fuel + 1) (← primary inner)

/-- Operands of a connective. -/
def connected (connective : String)
    (combine : Expr ColumnName → Expr ColumnName → Expr ColumnName)
    (operand : Parser (Expr ColumnName)) : (fuel : Nat) → Expr ColumnName → Parser (Expr ColumnName)
  | 0, _ => refuse
  | fuel + 1, left => do
    if ← keyword? connective then
      let right ← operand
      connected connective combine operand fuel (combine left right)
    else pure left

/-- An expression. -/
def expression : (fuel : Nat) → Parser (Expr ColumnName)
  | 0 => refuse
  | fuel + 1 => do
    let conjunction : Parser (Expr ColumnName) := do
      let operand := negation (expression fuel) (fuel + 1)
      connected "and" .and operand (fuel + 1) (← operand)
    connected "or" .or conjunction (fuel + 1) (← conjunction)

/-! ## Statements -/

/-- The text between two places without surrounding whitespace. -/
def between (text : List Char) (start finish : Nat) : String :=
  String.ofList (Text.trimWhile Text.isAsciiSpace ((text.drop start).take (finish - start)))

/-- A column of a result. -/
def resultColumn (text : List Char) (fuel : Nat) : Parser ResultColumn := do
  if ← symbol? "*" then return .all
  let start := (← peek).start
  let value ← expression fuel
  let written := between text start (← peek).start
  if ← keyword? "as" then return .expression value (some (← take aliasOf?)) written
  match aliasOf? (← peek).lexeme with
  | some label =>
    advance
    pure (.expression value (some label) written)
  | none => pure (.expression value none written)

/-- What stands behind a keyword, if it is next. -/
def clause {α : Type} (word : String) (body : Parser α) : Parser (Option α) := do
  if ← keyword? word then return some (← body)
  else pure none

/-- Whether a token is a number. -/
def isNumber (token : Token) : Bool :=
  match token.lexeme with
  | .integer _ => true
  | .hexadecimal _ => true
  | .decimal _ => true
  | _ => false

/-- A key to sort by. -/
def sortKey (fuel : Nat) : Parser SortKey := do
  let place := (((← get).find? isNumber).map (·.start)).getD 0
  let value ← expression fuel
  if ← keyword? "desc" then pure ⟨value, true, place⟩
  else
    let _ ← keyword? "asc"
    pure ⟨value, false, place⟩

/-- A query from behind its keyword. -/
def query (text : List Char) (fuel : Nat) : Parser Query := do
  let columns ← commaList (resultColumn text fuel) fuel
  let source ← clause "from" tableName
  let condition ← clause "where" (expression fuel)
  let order ← clause "order" do
    keyword "by"
    commaList (sortKey fuel) fuel
  let limit ← clause "limit" (expression fuel)
  let offset ← if limit.isSome then clause "offset" (expression fuel) else pure none
  pure ⟨columns, source, condition, order.getD [], limit, offset⟩

/-- The words of a type. -/
def typeWords : (fuel : Nat) → Parser (List Token)
  | 0 => pure []
  | fuel + 1 => do
    let token ← peek
    match aliasOf? token.lexeme with
    | some _ =>
      advance
      return token :: (← typeWords fuel)
    | none => pure []

/-- A size in a type, with its sign. -/
def typeSize : Parser (List Token) := do
  let sign ← peek
  let signed ← if ← symbol? "+" then pure true else symbol? "-"
  let token ← peek
  match token.lexeme with
  | .integer _ => advance
  | .decimal _ => advance
  | _ => refuse
  pure (if signed then [sign, token] else [token])

/-- The tokens of a type: words, and a size or two in parentheses. -/
def typeTokens (fuel : Nat) : Parser (List Token) := do
  let words ← typeWords fuel
  let opening ← peek
  if !words.isEmpty && (← symbol? "(") then
    let first ← typeSize
    let comma ← peek
    let second ← if ← symbol? "," then (comma :: ·) <$> typeSize else pure []
    let closing ← peek
    symbol ")"
    pure (words ++ opening :: first ++ second ++ [closing])
  else pure words

/-- The text of tokens, with a space where something stands between them. -/
def textOf : List Token → List Char
  | [] => []
  | [token] => token.written
  | token :: next :: rest =>
    let gap := if token.start + token.written.length = next.start then [] else [' ']
    token.written ++ gap ++ textOf (next :: rest)

/-- The type that tokens declare. A single quoted name is meant without its quotes. -/
def declaredType : List Token → String
  | [token] =>
    match aliasOf? token.lexeme with
    | some name => name
    | none => ""
  | tokens => String.ofList (textOf tokens)

/-- The constraints behind a type, put into a declaration. -/
def constraints : (fuel : Nat) → ColumnDef → Parser ColumnDef
  | 0, column => pure column
  | fuel + 1, column => do
    if ← keyword? "primary" then
      keyword "key"
      let isKey := Text.sameName column.type "integer"
      constraints fuel { column with isKey := isKey, unique := column.unique || !isKey }
    else if ← keyword? "not" then
      keyword "null"
      constraints fuel { column with notNull := true }
    else if ← keyword? "unique" then
      constraints fuel { column with unique := true }
    else pure column

/-- The declaration of a column. -/
def columnDef (fuel : Nat) : Parser ColumnDef := do
  let name ← take aliasOf?
  let type := declaredType (← typeTokens fuel)
  constraints fuel ⟨name, type, false, false, false⟩

/-- The creation of a table from behind its first keyword. -/
def createTable (fuel : Nat) : Parser Statement := do
  let short ← keyword? "temp"
  let temporary ← if short then pure true else keyword? "temporary"
  keyword "table"
  let ifNotExists ← keyword? "if"
  if ifNotExists then
    keyword "not"
    keyword "exists"
  let start := (← peek).start
  let first ← name
  let (table, place) : TableName × Nat ←
    if ← symbol? "." then do
      let place := (← peek).start
      pure (⟨some first, ← name⟩, place)
    else pure (⟨none, first⟩, start)
  let columns ← parenthesized (commaList (columnDef fuel) fuel)
  pure (.createTable temporary ifNotExists table start place columns)

/-- The insertion of rows from behind its first keyword. -/
def insert (fuel : Nat) : Parser Statement := do
  keyword "into"
  let table ← tableName
  let columns ←
    if (← peek).lexeme = .symbol "(" then some <$> parenthesized (commaList name fuel)
    else pure none
  keyword "values"
  let rows ← commaList (parenthesized (commaList (expression fuel) fuel)) fuel
  pure (.insert table columns rows)

/-- A change of rows from behind its first keyword. -/
def update (fuel : Nat) : Parser Statement := do
  let table ← tableName
  keyword "set"
  let assignments ← commaList (do
    let column ← name
    symbol "="
    return (column, ← expression fuel)) fuel
  pure (.update table assignments (← clause "where" (expression fuel)))

/-- A deletion of rows from behind its first keyword. -/
def delete (fuel : Nat) : Parser Statement := do
  keyword "from"
  let table ← tableName
  pure (.delete table (← clause "where" (expression fuel)))

/-- Take off the word for a transaction, if it is next, and the name behind it, if it has one. -/
def transactionWord : Parser Unit := do
  if ← keyword? "transaction" then
    if (aliasOf? (← peek).lexeme).isSome then advance

/-- Take off a word that commits a transaction, if it is next. -/
def commitWord? : Parser Bool := do
  if ← keyword? "commit" then pure true
  else keyword? "end"

/-- The lock that the beginning of a transaction asks for. -/
def beginLock : Parser (Option Lock) := do
  if ← keyword? "immediate" then pure (some .reserved)
  else if ← keyword? "exclusive" then pure (some .pending)
  else
    let _ ← keyword? "deferred"
    pure none

/-- The beginning of a transaction from behind its first keyword. -/
def begin_ : Parser Statement := do
  let lock ← beginLock
  transactionWord
  pure (.begin lock)

/-- A rollback from behind its first keyword. -/
def rollback : Parser Statement := do
  transactionWord
  if ← keyword? "to" then
    let _ ← keyword? "savepoint"
    return .rollbackTo (← take aliasOf?)
  else pure .rollback

/-- A statement of `text` from its first keyword on. -/
def command (text : List Char) (fuel : Nat) : Parser Statement := do
  if ← keyword? "select" then .select <$> query text fuel
  else if ← keyword? "create" then createTable fuel
  else if ← keyword? "insert" then insert fuel
  else if ← keyword? "update" then update fuel
  else if ← keyword? "delete" then delete fuel
  else if ← keyword? "begin" then begin_
  else if ← commitWord? then
    transactionWord
    pure .commit
  else if ← keyword? "rollback" then rollback
  else if ← keyword? "savepoint" then .savepoint <$> take aliasOf?
  else if ← keyword? "release" then
    let _ ← keyword? "savepoint"
    .release <$> take aliasOf?
  else refuse

/-- A statement of `text`, with nothing behind it. -/
def statement (text : List Char) (fuel : Nat) : Parser Statement := do
  let statement ← command text fuel
  if (← peek).lexeme = .finish then pure statement else refuse

end Parser

/-! ## Batches -/

/-- A statement that can be prepared: what it does, its parameters, and the text that was still to
be run when it was reached, which starts with it or with empty statements. -/
structure Prepared where
  statement : Statement
  names : Variables
  text : List Char
deriving Inhabited

/-- The error of a text that is refused. -/
def syntaxError (text : List Char) : Refusal → SqlError
  | .faulty token message located =>
    if located then .ofPlace message text token.start else .general message
  | .unexpected token =>
    let written := String.ofList token.written
    match token.lexeme with
    | .illegal => .ofPlace ("unrecognized token: \"" ++ written ++ "\"") text token.start
    | _ =>
      if token.written.isEmpty then .general "incomplete input"
      else .ofPlace ("near \"" ++ written ++ "\": syntax error") text token.start

/-- Parse the tokens of a statement. -/
def parseStatement (text : List Char) (scanned : Scanned) : Except SqlError Prepared :=
  match (Parser.statement text (scanned.tokens.length + 1)).run scanned.tokens with
  | .ok (statement, _) => .ok ⟨statement, scanned.names, text⟩
  | .error refusal => .error (syntaxError text refusal)

/-- Whether there is no statement left. -/
def Scanned.isBlank (scanned : Scanned) : Bool :=
  match scanned.tokens with
  | [token] => token.lexeme == .finish
  | _ => false

/-- The statements of a batch in order. The first that cannot be parsed is the last one. -/
def statementsFrom : (fuel : Nat) → List Char → List (Except SqlError Prepared)
  | 0, _ => []
  | fuel + 1, text =>
    let scanned := scanStatement text
    if scanned.isBlank then []
    else match parseStatement text scanned with
      | .ok prepared => .ok prepared :: statementsFrom fuel scanned.rest
      | .error e => [.error e]

/-- The statements of a batch. Every one takes a character at least. -/
def statements (sql : String) : List (Except SqlError Prepared) :=
  statementsFrom (sql.length + 1) sql.toList

end SqlGateway.Sqlite
