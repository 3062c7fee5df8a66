import SqlGateway.Proofs.FileSystem
import SqlGateway.Proofs.Settings.Documents
import SqlGateway.Settings.File

/-!
# Settings that are kept in a file

Settings that are written to a file are read back from it, whatever texts they hold. The file need
not have been there before, and nothing is asked of it but that it can be written.
-/

namespace SqlGateway.Settings

theorem fromUTF8?_toUTF8 (text : String) : String.fromUTF8? text.toUTF8 = some text := by
  rw [String.fromUTF8?, String.toUTF8_eq_toByteArray, dif_pos text.isValidUTF8]
  rfl

/-- **Settings survive their file**: they can be written to every path at which a file can be
written, and are read back from there as they were. -/
theorem fromFile_writeToFile (settings : Settings) {files : FileSystem ByteArray} {path : String}
    {place : Place} (hpath : files.Writable path place) :
    ∃ left, writeToFile settings files path = .ok left ∧ fromFile left path = .ok settings := by
  let contents := settings.toText.toUTF8
  have hwrite : files.write path contents = .ok (files.store place contents) :=
    FileSystem.write_eq hpath contents
  have hread : readText (files.store place contents) path = .ok settings.toText := by
    rw [readText, FileSystem.read_store hpath]
    simp only [contents, bind, Except.bind, fromUTF8?_toUTF8]
    rfl
  refine ⟨files.store place contents, ?_, ?_⟩
  · rw [writeToFile, hwrite]
  · rw [fromFile, hread]
    simp only [ofText?_toText]

/-- Two databases whose names and texts are hard to write. -/
def hard : Settings := ofList
  [("", ⟨"'''", "a\r\n\\\"\"\"\"'"⟩), ("a.b \"\\", ⟨"\t\u0001", "\n\"'''\\"⟩)]

theorem fromFile_writeToFile_hard :
    let files : FileSystem ByteArray := ⟨[], [[]]⟩
    files.Writable fileName [fileName] ∧ ∃ left, writeToFile hard files fileName = .ok left ∧
      fromFile left fileName = .ok hard := by
  intro files
  have hpath : files.Writable fileName [fileName] := by
    constructor
    · rw [FileSystem.checkPath, String.contains_char_eq]
      rfl
    · rw [String.endsWith_char_eq_getLast?]
      decide +kernel
    · have hstart : pathStart fileName = [] := by
        rw [pathStart, String.startsWith_char_eq_head?]
        rfl
      rw [FileSystem.walk, hstart]
      rfl
    · decide +kernel
  exact ⟨hpath, fromFile_writeToFile hard hpath⟩

end SqlGateway.Settings
