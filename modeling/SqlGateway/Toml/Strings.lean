import SqlGateway.Text.Hex

/-!
# Strings of a TOML document

The four ways to write a text: between double quotes with escapes, between single quotes as it is,
and the same between tripled quotes, where line breaks may stand. Every reader starts behind the
opening quotes and gives the characters with what stands behind the closing quotes.

A line break inside tripled quotes reads as a line feed. A backslash at the end of a line swallows
the whitespace and the line breaks behind it. The text may end with one or two quotes of its own,
directly before the closing ones.
-/

namespace SqlGateway.Toml

/-- The whitespace within a line. -/
def isSpace (c : Char) : Bool := c == ' ' || c == '\t'

/-- The control characters, which may stand neither in strings nor in comments. -/
def isControl (c : Char) : Bool := (c.toNat < 32 && c != '\t') || c.toNat == 127

/-- The text from behind the whitespace of its line on. -/
def skipSpace (cs : List Char) : List Char := cs.dropWhile isSpace

/-- The text behind a line break. -/
def readBreak? : List Char → Option (List Char)
  | '\n' :: rest => some rest
  | '\r' :: '\n' :: rest => some rest
  | _ => none

/-- The text from behind a line break on, if it starts with one. -/
def skipBreak (cs : List Char) : List Char := (readBreak? cs).getD cs

/-- The character that an escape of one letter stands for. -/
def shortEscape? : Char → Option Char
  | 'b' => some '\x08'
  | 't' => some '\t'
  | 'n' => some '\n'
  | 'f' => some '\x0c'
  | 'r' => some '\r'
  | '"' => some '"'
  | '\\' => some '\\'
  | _ => none

/-- The character that hexadecimal digits name, if there is one of that number. -/
def namedChar? (digits : List Char) : Option Char := do
  let n ← Text.hexNumber? digits
  if n.isValidChar then some (Char.ofNat n) else none

/-- Put a character before the text that was read. -/
def before (c : Char) (read : Option (List Char × List Char)) : Option (List Char × List Char) :=
  read.map fun (text, rest) ↦ (c :: text, rest)

/-- A text between double quotes. -/
def readBasic : List Char → Option (List Char × List Char)
  | [] => none
  | '"' :: rest => some ([], rest)
  | '\\' :: 'u' :: a :: b :: c :: d :: rest => do
    before (← namedChar? [a, b, c, d]) (readBasic rest)
  | '\\' :: 'U' :: a :: b :: c :: d :: e :: f :: g :: h :: rest => do
    before (← namedChar? [a, b, c, d, e, f, g, h]) (readBasic rest)
  | '\\' :: c :: rest => do before (← shortEscape? c) (readBasic rest)
  | c :: rest => if isControl c ∨ c = '\\' then none else before c (readBasic rest)

/-- A text between single quotes. -/
def readLiteral : List Char → Option (List Char × List Char)
  | [] => none
  | '\'' :: rest => some ([], rest)
  | c :: rest => if isControl c then none else before c (readLiteral rest)

/-- The quotes of its own that a text may have before its closing ones, which `rest` is behind. -/
def ownQuotes (quote : Char) : List Char → List Char × List Char
  | a :: b :: rest =>
    if a = quote then if b = quote then ([quote, quote], rest) else ([quote], b :: rest)
    else ([], a :: b :: rest)
  | [a] => if a = quote then ([quote], []) else ([], [a])
  | [] => ([], [])

/-- A text between tripled double quotes. While `folding`, whitespace and line breaks are
swallowed. -/
def readBlock : (folding : Bool) → List Char → Option (List Char × List Char)
  | _, [] => none
  | folding, '\n' :: rest =>
    if folding then readBlock true rest else before '\n' (readBlock false rest)
  | folding, '\r' :: '\n' :: rest =>
    if folding then readBlock true rest else before '\n' (readBlock false rest)
  | _, '"' :: '"' :: '"' :: rest => some (ownQuotes '"' rest)
  | _, '\\' :: 'u' :: a :: b :: c :: d :: rest => do
    before (← namedChar? [a, b, c, d]) (readBlock false rest)
  | _, '\\' :: 'U' :: a :: b :: c :: d :: e :: f :: g :: h :: rest => do
    before (← namedChar? [a, b, c, d, e, f, g, h]) (readBlock false rest)
  | _, '\\' :: c :: rest =>
    match shortEscape? c with
    | some escaped => before escaped (readBlock false rest)
    | none =>
      if (readBreak? (skipSpace (c :: rest))).isSome then readBlock true (c :: rest) else none
  | folding, c :: rest =>
    if folding && isSpace c then readBlock true rest
    else if isControl c ∨ c = '\\' then none
    else before c (readBlock false rest)

/-- A text between tripled single quotes. -/
def readLiteralBlock : List Char → Option (List Char × List Char)
  | [] => none
  | '\n' :: rest => before '\n' (readLiteralBlock rest)
  | '\r' :: '\n' :: rest => before '\n' (readLiteralBlock rest)
  | '\'' :: '\'' :: '\'' :: rest => some (ownQuotes '\'' rest)
  | c :: rest => if isControl c then none else before c (readLiteralBlock rest)

/-- A text written in any of the four ways. -/
def readText : List Char → Option (List Char × List Char)
  | '"' :: '"' :: '"' :: rest => readBlock false (skipBreak rest)
  | '"' :: rest => readBasic rest
  | '\'' :: '\'' :: '\'' :: rest => readLiteralBlock (skipBreak rest)
  | '\'' :: rest => readLiteral rest
  | _ => none

end SqlGateway.Toml
