import SqlGateway.Toml.Assembly
import SqlGateway.Toml.Scalars

/-!
# Reading TOML

The grammar of TOML 1.0. A document is read line by line; every line is blank, a header or an
assignment, and changes the tables that the lines before it made up. There is no more than one way
to refuse a document.

Every call below a value is made with one unit of fuel less; a text has fewer values and items
than characters, so `Toml.read?` starts with enough. Apart from that, neither values nor keys nest
deeper than `nestingLimit`.
-/

namespace SqlGateway.Toml

/-- How deep values may nest, and how many parts a key may have. -/
def nestingLimit : Nat := 79

/-! ## Blanks -/

/-- The text from behind a comment on, if it starts with one. -/
def skipComment : List Char → List Char
  | '#' :: rest => rest.dropWhile fun c ↦ !isControl c
  | cs => cs

/-- The next line, if nothing but whitespace and a comment stands before it. -/
def nextLine? (cs : List Char) : Option (List Char) :=
  match skipComment (skipSpace cs) with
  | [] => some []
  | rest => readBreak? rest

/-- The text from behind whitespace, line breaks and comments on. A comment that is not followed
by a line break is left where it ends, where no value can be read. -/
def skipBlanks : (inComment : Bool) → List Char → List Char
  | _, [] => []
  | _, '\n' :: rest => skipBlanks false rest
  | _, '\r' :: '\n' :: rest => skipBlanks false rest
  | true, c :: rest => if isControl c then c :: rest else skipBlanks true rest
  | false, c :: rest =>
    if c = '#' then skipBlanks true rest
    else if isSpace c then skipBlanks false rest
    else c :: rest

/-! ## Keys -/

/-- The characters of a key without quotes. -/
def isBare (c : Char) : Bool := c.isAlphanum || c == '-' || c == '_'

/-- A key without dots. -/
def readName : List Char → Option (String × List Char)
  | '"' :: rest => (readBasic rest).map fun (text, rest) ↦ (String.ofList text, rest)
  | '\'' :: rest => (readLiteral rest).map fun (text, rest) ↦ (String.ofList text, rest)
  | cs =>
    match cs.takeWhile isBare with
    | [] => none
    | name => some (String.ofList name, cs.dropWhile isBare)

/-- A key of at most that many parts: the parts before its last dot, and the last part. -/
def readKey : Nat → List Char → Option ((List String × String) × List Char)
  | 0, _ => none
  | limit + 1, cs => do
    let (name, rest) ← readName (skipSpace cs)
    match skipSpace rest with
    | '.' :: rest =>
      let ((path, last), rest) ← readKey limit rest
      pure ((name :: path, last), rest)
    | rest => pure (([], name), rest)

/-! ## Values -/

mutual

/-- A value that nests at most `depth` deep, with the text behind it. -/
def readValue : (fuel depth : Nat) → List Char → Option (Item × List Char)
  | 0, _, _ => none
  | fuel + 1, depth, cs =>
    match cs with
    | '[' :: rest =>
      if depth = 0 then none
      else do
        let (items, rest) ← readItems fuel (depth - 1) rest
        pure (.array items, rest)
    | '\x7b' :: rest =>
      if depth = 0 then none
      else match skipSpace rest with
        | '\x7d' :: rest => pure (.closed [], rest)
        | rest => do
          let (pairs, rest) ← readPairs fuel (depth - 1) rest
          pure (.closed (← closedEntries pairs), rest)
    | '"' :: _ | '\'' :: _ => do
      let (text, rest) ← readText cs
      pure (.text (String.ofList text), rest)
    | _ => (readScalar cs).map fun (written, rest) ↦ (.scalar written, rest)

/-- The items of an array, with the text behind its bracket. A comma may stand behind the last. -/
def readItems : (fuel depth : Nat) → List Char → Option (List Item × List Char)
  | 0, _, _ => none
  | fuel + 1, depth, cs =>
    match skipBlanks false cs with
    | ']' :: rest => some ([], rest)
    | cs => do
      let (item, rest) ← readValue fuel depth cs
      match skipBlanks false rest with
      | ']' :: rest => pure ([item], rest)
      | ',' :: rest => do
        let (items, rest) ← readItems fuel depth rest
        pure (item :: items, rest)
      | _ => none

/-- The assignments of a table between braces that has some, with the text behind its brace. -/
def readPairs : (fuel depth : Nat) → List Char →
    Option (List ((List String × String) × Item) × List Char)
  | 0, _, _ => none
  | fuel + 1, depth, cs => do
    let (place, rest) ← readKey nestingLimit cs
    let (item, rest) ← readValue fuel depth (skipSpace (← readChar '=' rest))
    match skipSpace rest with
    | '\x7d' :: rest => pure ([(place, item)], rest)
    | ',' :: rest => do
      let (pairs, rest) ← readPairs fuel depth rest
      pure ((place, item) :: pairs, rest)
    | _ => none

end

/-! ## Documents -/

/-- What the lines so far have made up: the root table and the place of the last header. -/
structure Draft where
  root : Entries
  current : List String
deriving Inhabited

/-- Read the header of an array of tables from behind its brackets; gives the next line. -/
def readMemberHeader (draft : Draft) (cs : List Char) : Option (Draft × List Char) := do
  let ((path, key), rest) ← readKey nestingLimit cs
  let rest ← nextLine? (← readChar ']' (← readChar ']' rest))
  pure (⟨← openMember path key draft.root, path ++ [key]⟩, rest)

/-- Read the header of a table from behind its bracket; gives the next line. -/
def readTableHeader (draft : Draft) (cs : List Char) : Option (Draft × List Char) := do
  let ((path, key), rest) ← readKey nestingLimit cs
  let rest ← nextLine? (← readChar ']' rest)
  pure (⟨← openTable path key draft.root, path ++ [key]⟩, rest)

/-- Read an assignment; gives the next line. -/
def readAssignment (draft : Draft) (cs : List Char) : Option (Draft × List Char) := do
  let ((path, key), rest) ← readKey nestingLimit cs
  let (item, rest) ← readValue (cs.length + 1) nestingLimit (skipSpace (← readChar '=' rest))
  let rest ← nextLine? rest
  pure (⟨← assignIn draft.current path key item draft.root, draft.current⟩, rest)

/-- Read a line that is not blank; gives the next line. -/
def readLine (draft : Draft) : List Char → Option (Draft × List Char)
  | '[' :: '[' :: rest => readMemberHeader draft rest
  | '[' :: rest => readTableHeader draft rest
  | cs => readAssignment draft cs

/-- Read the lines of a document. Every line takes a character at least. -/
def readLines : (fuel : Nat) → Draft → List Char → Option Entries
  | 0, _, _ => none
  | fuel + 1, draft, cs =>
    match skipSpace cs with
    | [] => some draft.root
    | cs =>
      match nextLine? cs with
      | some rest => readLines fuel draft rest
      | none => do
        let (draft, rest) ← readLine draft cs
        readLines fuel draft rest

/-- The text without a byte order mark. -/
def skipMark : List Char → List Char
  | '\ufeff' :: rest => rest
  | cs => cs

/-- The root table of a document. -/
def read? (text : String) : Option Entries :=
  readLines (text.length + 1) ⟨[], []⟩ (skipMark text.toList)

end SqlGateway.Toml
