import SqlGateway.Settings
import SqlGateway.Toml.Writer

/-!
# Settings as text

Settings are kept as a TOML document with a table for each database below `databases`. Reading
ignores every other key, and a document without `databases` holds no database.
-/

namespace SqlGateway.Settings

/-! ## Reading -/

/-- The item of a key. -/
def item? (entries : Toml.Entries) (key : String) : Option Toml.Item :=
  (entries.find? fun entry ↦ entry.1 == key).map Prod.snd

/-- The text of a key. -/
def text? (entries : Toml.Entries) (key : String) : Option String :=
  match item? entries key with
  | some (.text content) => some content
  | _ => none

/-- The entries of a table, however it is written. -/
def tableEntries? : Toml.Item → Option Toml.Entries
  | .closed entries => some entries
  | .table _ entries => some entries
  | _ => none

/-- A database: a table with both texts, or an array that starts with them. -/
def config? (item : Toml.Item) : Option DbConfig :=
  match item with
  | .array (.text serverType :: .text connectionString :: _) => some ⟨serverType, connectionString⟩
  | _ => do
    let entries ← tableEntries? item
    pure ⟨← text? entries "server_type", ← text? entries "connection_string"⟩

/-- The settings that a document holds. -/
def ofToml? (document : Toml.Entries) : Option Settings :=
  match item? document "databases" with
  | none => some empty
  | some item => do
    let entries ← tableEntries? item
    let databases ← entries.mapM fun (name, item) ↦ (config? item).map fun config ↦ (name, config)
    pure (ofList databases)

/-- The settings that a text holds. -/
def ofText? (text : String) : Option Settings := (Toml.read? text).bind ofToml?

/-- Read settings from a text. -/
def parse (text : String) : Except Error Settings :=
  match ofText? text with
  | some settings => .ok settings
  | none => .error (.config "Failed to parse settings")

/-! ## Writing -/

/-- The table of a database. -/
def entryText (entry : String × DbConfig) : List Char :=
  "[databases.".toList ++ Toml.writeKey entry.1.toList ++ "]\nserver_type = ".toList ++
    Toml.writeText entry.2.serverType.toList ++ "\nconnection_string = ".toList ++
    Toml.writeText entry.2.connectionString.toList ++ ['\n']

/-- The tables of databases, with a blank line between two of them. -/
def entriesText : List (String × DbConfig) → List Char
  | [] => []
  | [entry] => entryText entry
  | entry :: entries => entryText entry ++ '\n' :: entriesText entries

/-- Settings as a document. -/
def toText (settings : Settings) : String :=
  String.ofList <|
    if settings.databases.isEmpty then "[databases]\n".toList
    else entriesText settings.databases

end SqlGateway.Settings
