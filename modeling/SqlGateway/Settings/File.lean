import SqlGateway.FileSystem
import SqlGateway.Settings.Text

/-!
# Settings in a file

Settings are kept in a file of text in UTF-8. Whatever goes wrong is a fault of the configuration
whose reason names the file.
-/

namespace SqlGateway.Settings

/-- The failure to do something with a file. -/
def fileError (doing path reason : String) : Error :=
  .config ("Failed to " ++ doing ++ " config file '" ++ path ++ "'" ++ reason)

/-- The text of a file. -/
def readText (files : FileSystem ByteArray) (path : String) : Except FileError String := do
  match String.fromUTF8? (← files.read path) with
  | some text => pure text
  | none => .error .notText

/-- Read settings from a file. -/
def fromFile (files : FileSystem ByteArray) (path : String) : Except Error Settings :=
  match readText files path with
  | .error e => .error (fileError "read" path (": " ++ e.message))
  | .ok text =>
    match ofText? text with
    | some settings => .ok settings
    | none => .error (fileError "parse" path "")

/-- Write settings to a file; gives the files after that. -/
def writeToFile (settings : Settings) (files : FileSystem ByteArray) (path : String) :
    Except Error (FileSystem ByteArray) :=
  match files.write path settings.toText.toUTF8 with
  | .error e => .error (fileError "write" path (": " ++ e.message))
  | .ok files => .ok files

end SqlGateway.Settings
