import SqlGateway.Text.Hex
import SqlGateway.Toml.Reader

/-!
# Writing TOML

The spelling of keys and texts. A text is written in the plainest of the four ways that shows it
unescaped: between double quotes, between single quotes, and between tripled quotes of either
kind. Only a text that none of them can show is escaped. A tabulator is no reason for another way,
though between double quotes it is escaped.
-/

namespace SqlGateway.Toml

/-! ## What a text holds -/

/-- Whether a character cannot be shown in any way. -/
def needsEscape (c : Char) : Bool := isControl c && c != '\n'

/-- The length of the longest run of a character, where `current` of it stand before the text. -/
def longestRun (c : Char) : (current : Nat) → List Char → Nat
  | current, [] => current
  | current, first :: rest =>
    if first = c then longestRun c (current + 1) rest else max current (longestRun c 0 rest)

/-! ## Escapes -/

/-- A character other than the double quote, between double quotes. -/
def escapeChar (block : Bool) (c : Char) : List Char :=
  if c = '\x08' then ['\\', 'b']
  else if c = '\t' then ['\\', 't']
  else if c = '\n' then if block then ['\n'] else ['\\', 'n']
  else if c = '\x0c' then ['\\', 'f']
  else if c = '\r' then ['\\', 'r']
  else if c = '\\' then ['\\', '\\']
  else if isControl c then
    ['\\', 'u', '0', '0', Text.hexDigitUpper (c.toNat / 16), Text.hexDigitUpper (c.toNat % 16)]
  else [c]

/-- How many double quotes in a row may stand unescaped. -/
def quotesAllowed (block : Bool) : Nat := if block then 2 else 0

/-- A text between double quotes, tripled ones in a block; `quotes` stand directly before it. -/
def escape (block : Bool) : (quotes : Nat) → List Char → List Char
  | _, [] => []
  | quotes, c :: cs =>
    if c = '"' then
      if quotes < quotesAllowed block then '"' :: escape block (quotes + 1) cs
      else '\\' :: '"' :: escape block 0 cs
    else escapeChar block c ++ escape block 0 cs

/-! ## Texts -/

/-- A way to write a text. -/
inductive Style where
  | basic | literal | block | literalBlock
deriving Repr, DecidableEq, Inhabited

/-- The way a text is written. -/
def textStyle (cs : List Char) : Style :=
  let coded := cs.any needsEscape
  let escaped := coded || cs.contains '\\'
  let broken := cs.contains '\n'
  if !escaped && !broken && !cs.contains '"' then .basic
  else if !coded && !broken && !cs.contains '\'' then .literal
  else if !escaped && longestRun '"' 0 cs ≤ 2 then .block
  else if !coded && longestRun '\'' 0 cs ≤ 2 then .literalBlock
  else if broken then .block
  else .basic

/-- A text in a given way. What stands between tripled quotes begins a line if it has lines. -/
def writeStyled (cs : List Char) : Style → List Char
  | .basic => '"' :: escape false 0 cs ++ ['"']
  | .literal => '\'' :: cs ++ ['\'']
  | .block => '"' :: '"' :: '"' :: firstLine ++ escape true 0 cs ++ ['"', '"', '"']
  | .literalBlock => '\'' :: '\'' :: '\'' :: firstLine ++ cs ++ ['\'', '\'', '\'']
where
  /-- The line break behind the opening quotes. -/
  firstLine : List Char := if cs.contains '\n' then ['\n'] else []

/-- A text. -/
def writeText (cs : List Char) : List Char := writeStyled cs (textStyle cs)

/-! ## Keys -/

/-- A key: bare if it can be, and otherwise as a text on one line. -/
def writeKey (cs : List Char) : List Char :=
  if !cs.isEmpty && cs.all isBare then cs
  else
    let coded := cs.any isControl
    if !coded && !cs.contains '\\' && !cs.contains '"' then writeStyled cs .basic
    else if !coded && !cs.contains '\'' then writeStyled cs .literal
    else writeStyled cs .basic

end SqlGateway.Toml
