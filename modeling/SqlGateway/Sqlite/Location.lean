import SqlGateway.Sqlite.DataSource
import SqlGateway.Text.Fold
import SqlGateway.Text.Hex
import SqlGateway.Text.Lossy

/-!
# Where databases are

A database is named by the path of a file, by `:memory:` if it is in memory, or by a URI of the
scheme `file`. Such a URI has no authority other than `localhost`. Behind a question mark it has
options, which stand between ampersands:

* `mode` is what the database is opened for, and may not ask for more than an earlier one;
* `cache` tells whether a database in memory is shared by all connections that give it this name;
* `vfs` is the driver that keeps the database;
* `immutable` tells that nothing will change the file.

In a URI a percent sign with two hexadecimal digits stands for a byte, and a byte of zero ends the
part it is in. What is behind a number sign is not read.
-/

namespace SqlGateway.Sqlite

/-- What a database is opened for. -/
inductive OpenMode where
  | readOnly
  /-- To be read and written, if it is there. -/
  | readWrite
  /-- To be read and written, and made if it is not there. -/
  | create
  /-- To be kept in memory. -/
  | memory
deriving Repr, DecidableEq, Inhabited

/-- What a database is kept in. -/
inductive Medium where
  /-- Memory, which is shared by the connections that give it the same name. -/
  | memory (name : Option String)
  | file (path : String)
deriving Repr, DecidableEq, Inhabited

/-- Where a database is, and what it is opened for. -/
structure Location where
  medium : Medium
  mode : OpenMode
  /-- Whether nothing may be written to a file, though it may be made. -/
  immutable : Bool
deriving Repr, DecidableEq, Inhabited

/-- Why a database cannot be opened by its name. -/
inductive LocationFault where
  /-- There is a zero so many bytes into the name. -/
  | nulInName (place : Nat)
  | foreignAuthority (authority : String)
  | unknownMode (option mode : String)
  | excessiveMode (mode : String)
  | unknownDriver (driver : String)
  /-- There is no file, or it cannot be opened. -/
  | unopened
  /-- What was opened cannot be read. -/
  | unread
deriving Repr, DecidableEq, Inhabited

/-- The wording of the reason why the database of a name cannot be opened. -/
def LocationFault.message (name : String) : LocationFault → String
  | nulInName place => "nul byte found in provided data at position: " ++ toString place
  | foreignAuthority authority => "invalid uri authority: " ++ authority
  | unknownMode option mode => "no such " ++ option ++ " mode: " ++ mode
  | excessiveMode mode => "access mode not allowed: " ++ mode
  | unknownDriver driver => "no such vfs: " ++ driver
  | unopened => "unable to open database file: " ++ name
  | unread => "disk I/O error"

namespace OpenMode

/-- The mode of a name. -/
def ofName? : String → Option OpenMode
  | "ro" => some readOnly
  | "rw" => some readWrite
  | "rwc" => some create
  | "memory" => some memory
  | _ => none

/-- Whether a mode may be replaced by another one, which asks for no more. -/
def admits : OpenMode → OpenMode → Bool
  | readOnly, readWrite => false
  | readOnly, create => false
  | readWrite, create => false
  | _, _ => true

end OpenMode

/-! ## URIs -/

/-- The bytes that a part of a URI stands for. -/
def uriBytes : List Char → List UInt8
  | [] => []
  | '%' :: a :: b :: rest =>
    match Text.hexValue? a, Text.hexValue? b with
    | some 0, some 0 => []
    | some high, some low => UInt8.ofNat (16 * high + low) :: uriBytes rest
    | _, _ => 37 :: uriBytes (a :: b :: rest)
  | c :: rest => String.utf8EncodeChar c ++ uriBytes rest

/-- The text that a part of a URI stands for. -/
def uriText (part : List Char) : String := Text.ofBytes (uriBytes part)

/-- The option that a part of a URI gives, unless its name is empty. -/
def uriOption? (part : List Char) : Option (String × String) :=
  let (name, value) := (Text.cut? '=' part).getD (part, [])
  if (uriText name).isEmpty then none else some (uriText name, uriText value)

/-- Behind a URI's scheme: what is behind its authority, if that may be there. -/
def behindAuthority : List Char → Except LocationFault (List Char)
  | '/' :: '/' :: rest =>
    let authority := String.ofList (rest.takeWhile (· != '/'))
    if authority = "" ∨ authority = "localhost" then .ok (rest.dropWhile (· != '/'))
    else .error (.foreignAuthority authority)
  | rest => .ok rest

/-- What the options of a URI tell. -/
structure UriOptions where
  driver : String := "unix"
  mode : OpenMode := .create
  shared : Bool := false
deriving Repr, DecidableEq, Inhabited

/-- Take account of one option. -/
def UriOptions.add (options : UriOptions) : String × String → Except LocationFault UriOptions
  | (name, value) =>
    if name = "vfs" then .ok { options with driver := value }
    else if name = "cache" then
      if value = "shared" then .ok { options with shared := true }
      else if value = "private" then .ok { options with shared := false }
      else .error (.unknownMode "cache" value)
    else if name = "mode" then
      match OpenMode.ofName? value with
      | none => .error (.unknownMode "access" value)
      | some mode =>
        if options.mode.admits mode then .ok { options with mode }
        else .error (.excessiveMode value)
    else .ok options

/-- The drivers that keep a database in a file. -/
def fileDrivers : List String := ["unix", "unix-none", "unix-dotfile", "unix-excl"]

/-- The driver that keeps a database in memory. -/
def memoryDriver : String := "memdb"

/-- Whether the value of an option is an affirmation: a word for it, or a number but zero. -/
def isAffirmation (value : String) : Bool :=
  if value.toList.head?.any Char.isDigit then
    (value.toList.takeWhile Char.isDigit).any (· != '0')
  else ["on", "yes", "true"].any (Text.sameName value)

/-- What the options say that a database of a name is kept in. -/
def UriOptions.medium (options : UriOptions) (name : String) : Medium :=
  if name = memoryDataSource ∨ options.mode = .memory then
    .memory (if options.shared && !name.isEmpty then some name else none)
  else if name.isEmpty then .memory none
  else if options.driver = memoryDriver then
    .memory (if name.startsWith '/' && name != "/" then some name else none)
  else .file name

/-- The location behind a URI's scheme. -/
def Location.ofUri (rest : List Char) : Except LocationFault Location := do
  let text := (← behindAuthority rest).takeWhile (· != '#')
  let (path, query) := (Text.cut? '?' text).getD (text, [])
  let given := (Text.pieces '&' query).filterMap uriOption?
  let options ← given.foldlM UriOptions.add {}
  if options.driver ∉ memoryDriver :: fileDrivers then throw (.unknownDriver options.driver)
  let immutable := (given.find? (·.1 == "immutable")).any fun entry ↦ isAffirmation entry.2
  return ⟨options.medium (uriText path), options.mode, immutable⟩

/-! ## Names -/

/-- How many bytes stand before the first zero. -/
def nulPlace? (name : List Char) : Option Nat :=
  (Text.cut? '\x00' name).map fun (before, _) ↦ (String.ofList before).utf8ByteSize

/-- The location of a database by its name. -/
def Location.ofName (name : String) : Except LocationFault Location := do
  if let some place := nulPlace? name.toList then throw (.nulInName place)
  match name.toList with
  | 'f' :: 'i' :: 'l' :: 'e' :: ':' :: rest => Location.ofUri rest
  | _ =>
    let medium := if name = memoryDataSource then .memory none else .file name
    .ok ⟨medium, .create, false⟩

/-- Whether nothing may be written there. -/
def Location.isReadOnly (location : Location) : Bool :=
  match location.medium with
  | .memory _ => location.mode == .readOnly
  | .file _ => location.mode == .readOnly || location.immutable

end SqlGateway.Sqlite
