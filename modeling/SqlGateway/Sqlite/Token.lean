import SqlGateway.Sqlite.Numeral
import SqlGateway.Text.Hex
import SqlGateway.Text.Trim

/-!
# Tokens of SQL

A statement is cut into tokens up to its semicolon. Space and comments between tokens are dropped,
but every token knows where it starts, since a column without a name of its own is called by the
text that stands between two tokens, and errors tell how far into the text they are. A text ends at
the first NUL, too.

Parameters get their numbers here, from left to right: `?` the next one, `?N` the number it says,
and a named one the number it had before, if it is spelt as before, or else the next one.
-/

namespace SqlGateway.Sqlite

/-- What a token is. -/
inductive Lexeme where
  /-- A keyword or a name. -/
  | word (text : String)
  /-- A name between quotes. -/
  | quoted (name : String)
  | string (content : String)
  | blob (content : List UInt8)
  | integer (digits : List Char)
  /-- An integer in base sixteen. -/
  | hexadecimal (digits : List Char)
  /-- A number with a point or an exponent. -/
  | decimal (numeral : Numeral)
  /-- A token that no expression can have, although its kind could stand there: what is wrong with
  it, and whether the error tells its place. -/
  | faulty (message : String) (located : Bool)
  /-- A parameter with its number. -/
  | variable (number : Nat)
  | symbol (text : String)
  /-- The semicolon or the end of the text. -/
  | finish
  /-- Characters that are no token. -/
  | illegal
deriving Repr, DecidableEq, Inhabited

/-- A token, where it starts, and how it is written. -/
structure Token where
  lexeme : Lexeme
  start : Nat
  written : List Char
deriving Repr, DecidableEq, Inhabited

/-! ## Characters -/

/-- Whether space may start with the character: a byte order mark is space on its own, and a
vertical tab only behind other space. -/
def startsSpace (c : Char) : Bool := c == '\ufeff' || (Text.isAsciiSpace c && c != '\x0b')

/-- Whether a name may start with the character. -/
def startsWord (c : Char) : Bool := c.isAlpha || c == '_' || 128 ≤ c.toNat

/-- Whether a name may go on with the character. -/
def continuesWord (c : Char) : Bool := startsWord c || c.isDigit || c == '$'

/-! ## Between tokens -/

/-- The text from behind a block comment on. An open comment runs to the end. -/
def skipBlock : List Char → List Char
  | '*' :: '/' :: rest => rest
  | _ :: rest => skipBlock rest
  | [] => []

/-- The text from the next token on. -/
def skipFiller : (fuel : Nat) → List Char → List Char
  | 0, cs => cs
  | fuel + 1, cs =>
    match cs with
    | '-' :: '-' :: rest => skipFiller fuel (rest.dropWhile (· != '\n'))
    | '/' :: '*' :: c :: rest => skipFiller fuel (skipBlock (c :: rest))
    | c :: rest =>
      if c == '\ufeff' then skipFiller fuel rest
      else if startsSpace c then skipFiller fuel (rest.dropWhile Text.isAsciiSpace)
      else cs
    | [] => []

/-- The text from the first statement on, without the semicolons of empty ones. -/
def skipEmpty : (fuel : Nat) → List Char → List Char
  | 0, cs => cs
  | fuel + 1, cs =>
    match skipFiller (cs.length + 1) cs with
    | ';' :: rest => skipEmpty fuel rest
    | rest => rest

/-! ## Single tokens

Each reader gives what the token is and the text behind it. -/

/-- The content between quotes, where a doubled quote is one of the content; `none` if the closing
quote is missing. -/
def readQuoted (quote : Char) : List Char → Option (List Char × List Char)
  | [] => none
  | c :: rest =>
    if c = quote then
      match rest with
      | d :: more =>
        if d = quote then
          (readQuoted quote more).map fun (content, rest) ↦ (quote :: content, rest)
        else some ([], rest)
      | [] => some ([], [])
    else (readQuoted quote rest).map fun (content, rest) ↦ (c :: content, rest)

/-- A quoted token from behind its opening quote. -/
def readDelimited (quote : Char) (lexeme : String → Lexeme) (cs : List Char) :
    Lexeme × List Char :=
  match readQuoted quote cs with
  | some (content, rest) => (lexeme (String.ofList content), rest)
  | none => (.illegal, [])

/-- A blob from behind its opening quote. -/
def readBlob (cs : List Char) : Lexeme × List Char :=
  let content := cs.takeWhile (· != '\'')
  match cs.dropWhile (· != '\'') with
  | [] => (.illegal, [])
  | _ :: rest =>
    match Text.ofHex? content with
    | some bytes => (.blob bytes, rest)
    | none => (.illegal, rest)

/-- The digits of a number may have underscores between them. -/
def isSeparator (c : Char) : Bool := c == '_'

/-- The first characters of a text that are digits or separators, and those behind them. -/
def splitDigits (isDigit : Char → Bool) (cs : List Char) : List Char × List Char :=
  cs.span fun c ↦ isDigit c || isSeparator c

/-- The sign and the digits of an exponent, if one follows; it has a digit at least. -/
def splitExponent (cs : List Char) : Option (Bool × List Char) × List Char :=
  let exponent (negative : Bool) (behind : List Char) :=
    if (behind.head?.map Char.isDigit).getD false then
      let (digits, rest) := splitDigits Char.isDigit behind
      (some (negative, digits), rest)
    else (none, cs)
  match cs with
  | e :: behind =>
    if e != 'e' && e != 'E' then (none, cs)
    else match behind with
      | '-' :: behind => exponent true behind
      | '+' :: behind => exponent false behind
      | behind => exponent false behind
  | [] => (none, cs)

/-- What an error shows of a number with a separator that does not stand between two digits: the
number when the last such separator was found, with the digits in front of it moved up. -/
def misplacedSeparator? (isDigit : Char → Bool) (written : List Char) : Option (List Char) :=
  (List.range written.length).reverse.findSome? fun index ↦
    let isDigitAt (place : Nat) : Bool := ((written[place]?).map isDigit).getD false
    if (written[index]?).any isSeparator && !(isDigitAt (index - 1) && isDigitAt (index + 1)) then
      let moved := (written.take index).filter (!isSeparator ·)
      some (moved ++ written.drop moved.length)
    else none

/-- A number that is written as the characters of `cs` in front of `rest`. What goes on like a name
is no token, and separators have to stand between digits. -/
def finishNumber (isDigit : Char → Bool) (lexeme : Lexeme) (cs rest : List Char) :
    Lexeme × List Char :=
  if (rest.head?.map continuesWord).getD false then (.illegal, rest.dropWhile continuesWord)
  else match misplacedSeparator? isDigit (cs.take (cs.length - rest.length)) with
    | some shown =>
      (.faulty ("unrecognized token: \"" ++ String.ofList shown ++ "\"") false, rest)
    | none => (lexeme, rest)

/-- A number in base ten. -/
def readDecimal (cs : List Char) : Lexeme × List Char :=
  let digits (separated : List Char) := separated.filter (!isSeparator ·)
  let (whole, behindWhole) := splitDigits Char.isDigit cs
  let (fraction, behindFraction) := match behindWhole with
    | '.' :: behind => splitDigits Char.isDigit behind
    | behind => ([], behind)
  let (exponent, rest) := splitExponent behindFraction
  let power : Int := match exponent with
    | some (true, separated) => -(Numeral.exponentOf (digits separated))
    | some (false, separated) => Numeral.exponentOf (digits separated)
    | none => 0
  let lexeme : Lexeme :=
    if rest.length = behindWhole.length then .integer (digits whole)
    else .decimal ⟨digits whole, digits fraction, power⟩
  finishNumber Char.isDigit lexeme cs rest

/-- Whether a character is a hexadecimal digit. -/
def isHexDigit (c : Char) : Bool := (Text.hexValue? c).isSome

/-- A number. -/
def readNumber (cs : List Char) : Lexeme × List Char :=
  match cs with
  | '0' :: x :: digit :: behind =>
    if (x == 'x' || x == 'X') && isHexDigit digit then
      let (separated, rest) := splitDigits isHexDigit (digit :: behind)
      finishNumber isHexDigit (.hexadecimal (separated.filter (!isSeparator ·))) cs rest
    else readDecimal cs
  | _ => readDecimal cs

/-- The longest symbols first. -/
def symbols : List String :=
  ["->>", "->", "==", "<>", "!=", "<=", ">=", "<<", ">>", "||", "(", ")", ",", "*", "=", "<", ">",
    ".", "-", "+", "/", "%", "&", "|", "~"]

/-- An operator or a punctuation mark. -/
def readSymbol (cs : List Char) : Lexeme × List Char :=
  match symbols.find? fun symbol ↦ symbol.toList.isPrefixOf cs with
  | some symbol => (.symbol symbol, cs.drop symbol.length)
  | none => (.illegal, cs.drop 1)

/-- The token at the start of a text, except a parameter and the end. -/
def readToken (cs : List Char) : Lexeme × List Char :=
  match cs with
  | '\'' :: rest => readDelimited '\'' .string rest
  | '"' :: rest => readDelimited '"' .quoted rest
  | '\x60' :: rest => readDelimited '\x60' .quoted rest
  | '[' :: rest =>
    match rest.dropWhile (· != ']') with
    | [] => (.illegal, [])
    | _ :: behind => (.quoted (String.ofList (rest.takeWhile (· != ']'))), behind)
  | 'x' :: '\'' :: rest => readBlob rest
  | 'X' :: '\'' :: rest => readBlob rest
  | '.' :: d :: _ => if d.isDigit then readNumber cs else readSymbol cs
  | c :: _ =>
    if c.isDigit then readNumber cs
    else if startsWord c then
      (.word (String.ofList (cs.takeWhile continuesWord)), cs.dropWhile continuesWord)
    else readSymbol cs
  | [] => (.finish, [])

/-! ## Parameters -/

/-- The names of the parameters by number, the first of number one. A parameter written as a bare
question mark has no name. -/
abbrev Variables := List (Option String)

/-- The number of a parameter of that name, if there is one. -/
def numberOf? (names : Variables) (name : String) : Option Nat :=
  (names.findIdx? (· == some name)).map (· + 1)

/-- Name the parameter of a number, unless it has a name; the numbers up to it come to be. -/
def nameVariable (name : String) : (index : Nat) → Variables → Variables
  | 0, [] => [some name]
  | 0, none :: rest => some name :: rest
  | 0, some other :: rest => some other :: rest
  | index + 1, [] => none :: nameVariable name index []
  | index + 1, first :: rest => first :: nameVariable name index rest

/-- How many parameters a statement may have. -/
def variableLimit : Nat := 32766

/-- The fault of a parameter with another number. -/
def variableFault : String :=
  "variable number must be between ?1 and ?" ++ toString variableLimit

/-- The text behind a parameter, from behind its sign or from further on in its name, and whether
there is one: it has a letter at least (`named`), may have doubled colons, and may end in
parentheses without space. -/
def skipParameter (named : Bool) : List Char → List Char × Bool
  | ':' :: ':' :: rest => skipParameter named rest
  | c :: rest =>
    if continuesWord c then skipParameter true rest
    else if c == '(' && named then
      match rest.dropWhile fun c ↦ !Text.isAsciiSpace c && c != ')' with
      | ')' :: behind => (behind, true)
      | behind => (behind, false)
    else (c :: rest, named)
  | [] => ([], named)

/-- A parameter: its token, the text behind it, and the parameters with it. A number behind `#` is
no parameter, and an error names it. -/
def readVariable (names : Variables) (cs : List Char) : (Lexeme × List Char) × Variables :=
  match cs with
  | '?' :: rest =>
    match rest.takeWhile Char.isDigit with
    | [] => ((.variable (names.length + 1), rest), names ++ [none])
    | digits =>
      let number := Text.natural digits
      let rest := rest.dropWhile Char.isDigit
      if number = 0 ∨ variableLimit < number then ((.faulty variableFault true, rest), names)
      else
        ((.variable number, rest),
          nameVariable (String.ofList ('?' :: digits)) (number - 1) names)
  | sign :: behind =>
    let (rest, complete) := skipParameter false behind
    let name := String.ofList (cs.take (cs.length - rest.length))
    if !complete then ((.illegal, rest), names)
    else if sign == '#' && (behind.head?.map Char.isDigit).getD false then
      ((.symbol name, rest), names)
    else match numberOf? names name with
      | some number => ((.variable number, rest), names)
      | none => ((.variable (names.length + 1), rest), names ++ [some name])
  | [] => ((.finish, []), names)

/-- The characters that parameters start with. -/
def startsVariable (c : Char) : Bool := c == '?' || c == '@' || c == ':' || c == '$' || c == '#'

/-! ## The tokens of a statement -/

/-- The tokens of a statement, the text behind its semicolon, and its parameters. -/
structure Scanned where
  tokens : List Token
  rest : List Char
  names : Variables
deriving Inhabited

/-- Cut a text of `total` characters, of which `cs` is the end, into tokens up to a semicolon. -/
def scanFrom (total : Nat) : (fuel : Nat) → Variables → List Char → Scanned
  | 0, names, cs => ⟨[⟨.finish, total - cs.length, []⟩], [], names⟩
  | fuel + 1, names, cs =>
    let cs := skipFiller (cs.length + 1) cs
    let start := total - cs.length
    match cs with
    | [] => ⟨[⟨.finish, total, []⟩], [], names⟩
    | ';' :: rest => ⟨[⟨.finish, start, [';']⟩], rest, names⟩
    | c :: _ =>
      let ((lexeme, rest), names) :=
        if startsVariable c then readVariable names cs else (readToken cs, names)
      let token : Token := ⟨lexeme, start, cs.take (cs.length - rest.length)⟩
      let scanned := scanFrom total fuel names rest
      { scanned with tokens := token :: scanned.tokens }

/-- The tokens of the first statement of a text that is not empty. -/
def scanStatement (text : List Char) : Scanned :=
  let seen := text.takeWhile (· != '\x00')
  let scanned := scanFrom seen.length (seen.length + 1) [] (skipEmpty (seen.length + 1) seen)
  { scanned with rest := text.drop (seen.length - scanned.rest.length) }

end SqlGateway.Sqlite
