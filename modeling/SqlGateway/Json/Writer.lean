import SqlGateway.Json
import SqlGateway.Text.Hex

/-!
# Writing JSON

The compact form: no space anywhere, and in a string an escape for the quote, the backslash and
the control characters below space, the short one where there is one.
-/

namespace SqlGateway.Json

/-- One character of a string. -/
def escape (c : Char) : List Char :=
  if c = '"' then ['\\', '"']
  else if c = '\\' then ['\\', '\\']
  else if c = '\x08' then ['\\', 'b']
  else if c = '\x0c' then ['\\', 'f']
  else if c = '\n' then ['\\', 'n']
  else if c = '\r' then ['\\', 'r']
  else if c = '\t' then ['\\', 't']
  else if c.toNat < 32 then
    ['\\', 'u', '0', '0', Text.hexDigit (c.toNat / 16), Text.hexDigit (c.toNat % 16)]
  else [c]

/-- A string in its quotes. -/
def quote (s : String) : List Char := '"' :: s.toList.flatMap escape ++ ['"']

mutual

/-- The compact text of a document. What cannot be read is written as `null`. -/
def write : Json → List Char
  | null => "null".toList
  | bool b => if b then "true".toList else "false".toList
  | number text => text
  | string s => quote s
  | unreadable => "null".toList
  | array items => '[' :: writeItems items ++ [']']
  | object entries => '\x7b' :: writeEntries entries ++ ['\x7d']

/-- The items of an array, between commas. -/
def writeItems : List Json → List Char
  | [] => []
  | [item] => write item
  | item :: items => write item ++ ',' :: writeItems items

/-- The entries of an object, between commas. -/
def writeEntries : List (String × Json) → List Char
  | [] => []
  | [(key, value)] => quote key ++ ':' :: write value
  | (key, value) :: entries => quote key ++ ':' :: write value ++ ',' :: writeEntries entries

end

/-- The compact text of a document, as a string. -/
def render (document : Json) : String := String.ofList (write document)

end SqlGateway.Json
