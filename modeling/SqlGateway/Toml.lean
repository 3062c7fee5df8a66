/-!
# TOML documents

The shape of a document once it has been read. Settings hold texts only, so a number, a truth
value or a date is kept as it was written.

A table remembers how it came to be, because that decides what may still be added to it. A table
that is written between braces is complete and is an item of its own kind.
-/

namespace SqlGateway.Toml

/-- How a table came to be. -/
inductive Origin where
  /-- By a header of its own. -/
  | header
  /-- By a header of a table below it. -/
  | implied
  /-- By a key with dots. -/
  | dotted
deriving Repr, DecidableEq, Inhabited

/-- An item of a document. -/
inductive Item where
  /-- A text. -/
  | text (content : String)
  /-- A number, a truth value or a date, as it is written. -/
  | scalar (written : String)
  /-- An array of values. -/
  | array (items : List Item)
  /-- A table between braces. -/
  | closed (entries : List (String × Item))
  /-- A table that headers and keys make up. -/
  | table (origin : Origin) (entries : List (String × Item))
  /-- An array of tables, each begun by a header. -/
  | tables (members : List (List (String × Item)))
deriving Repr, Inhabited

/-- The entries of a table. -/
abbrev Entries := List (String × Item)

end SqlGateway.Toml
