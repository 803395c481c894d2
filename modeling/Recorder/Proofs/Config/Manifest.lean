/-
# When a manifest is loaded

`SPEC_FULL.md` §9, `load_manifest`: the manifest, falling back to `BASE_MANIFEST` when it is
missing or unreadable.

Loading finds the file of the manifest and reads it (`Manifest.load_eq_ok_iff`):

| at the place of the manifest | loading gives |
| --- | --- |
| no file | what stands in for a manifest |
| the text of an object | the object |
| any other text that is within the limits of the reader | what stands in |
| a text beyond the limits, or bytes that are no text | an error |

A name that is too long, or one with a null character, is an error too.
-/

import Recorder.Config.Manifest
import Recorder.Proofs.Json.Limits
import Recorder.Proofs.Outcome

namespace Recorder
namespace Manifest

/-- **What stands in for a manifest** that is missing or is none: a copy of the standard one,
or nothing where the caller does without (`use_default` of `load_manifest`). -/
def fallback (useDefault : Bool) : Option Json := if useDefault then some standard else none

/-- **The object that bytes are the text of,** if they are the text of one.  Text that is no
JSON has none, and neither has JSON that is a list, a text, a number or a word. -/
def objectIn? (content : ByteArray) : Option Json := do
  let s ← String.fromUTF8? content
  match Json.read s with
  | .ok (.obj fs) => some (.obj fs)
  | _ => none

/-- **Bytes that can be read:** they are a text, and it is within the limits of the reader. -/
def IsReadable (content : ByteArray) : Prop :=
  ∃ s, String.fromUTF8? content = some s ∧ Json.exceeded? s = none

/-- A file that can be read is text first and a document then, and a failure of either step is
an error of its own kind. -/
theorem readJson_of_readBytes {files : FileTree} {file : FilePath} {content : ByteArray}
    (h : files.readBytes file = .ok content) :
    files.readJson file = match String.fromUTF8? content with
      | none => .error .notText
      | some s => (Json.read s).mapError .json := by
  rw [FileTree.readJson, h]
  rfl

/-- A file that cannot be read gives the error of the file tree, whatever it is. -/
theorem readJson_of_error {files : FileTree} {file : FilePath} {e : FileError}
    (h : files.readBytes file = .error e) : files.readJson file = .error (.file e) := by
  rw [FileTree.readJson, h]
  rfl

/-- **A file that is not there** or cannot be opened leads to what stands in for it.  A path
with a null character in it is an error instead, since no file can be asked for by it. -/
theorem ofReading_error_iff {e : FileError} {useDefault : Bool} {m : Option Json} :
    ofReading (fallback useDefault) (.error (.file e)) = .ok m ↔
      e ≠ .nullCharacter ∧ m = fallback useDefault := by
  cases e <;> simp [ofReading, eq_comm (b := m)]

/-- **A file that is there** and can be opened leads to its object, or to what stands in if it
has none, provided that its bytes can be read.  Otherwise an error is all that comes of it. -/
theorem ofReading_content_iff {content : ByteArray} {useDefault : Bool} {m : Option Json} :
    ofReading (fallback useDefault) (match String.fromUTF8? content with
      | none => .error .notText
      | some s => (Json.read s).mapError .json) = .ok m ↔
        IsReadable content ∧ m = (objectIn? content).or (fallback useDefault) := by
  cases htext : String.fromUTF8? content with
  | none =>
    refine iff_of_false (fun h => by cases h) ?_
    rintro ⟨⟨s, hs, -⟩, -⟩
    rw [htext] at hs
    cases hs
  | some s =>
    have hreadable : IsReadable content ↔ ∀ limit, Json.read s ≠ .error (.beyond limit) := by
      simp [IsReadable, htext, Json.exceeded?_eq_none]
    rw [hreadable, objectIn?, htext]
    cases hread : Json.read s with
    | ok v => cases v <;> simp [ofReading, Except.mapError, eq_comm (b := m), hread]
    | error e => cases e <;> simp [ofReading, Except.mapError, eq_comm (b := m), hread]

/-- **When a manifest is loaded.**  Its place can be looked at, and either there is no file,
and what stands in is given; or there is one that can be read, and its object is given, or
what stands in if it has none. -/
theorem load_eq_ok_iff (files : FileTree) (path : Option FilePath) (useDefault : Bool)
    (m : Option Json) :
    load files path useDefault = .ok m ↔ ∃ file, candidate files path = .ok file ∧
      ((∃ e, files.readBytes file = .error e ∧ e ≠ .nullCharacter ∧ m = fallback useDefault) ∨
        ∃ content, files.readBytes file = .ok content ∧ IsReadable content ∧
          m = (objectIn? content).or (fallback useDefault)) := by
  have hload : load files path useDefault = .ok m ↔ ∃ file, candidate files path = .ok file ∧
      ofReading (fallback useDefault) (files.readJson file) = .ok m := by
    rw [load, Outcome.bind_eq_ok]
    cases candidate files path <;> simp [Except.mapError, fallback]
  rw [hload]
  refine exists_congr fun file => and_congr_right fun _ => ?_
  cases hbytes : files.readBytes file with
  | error e => simp [readJson_of_error hbytes, ofReading_error_iff]
  | ok content => simp [readJson_of_readBytes hbytes, ofReading_content_iff]

/-- A project whose manifest is a single byte that is no text. -/
def garbled : FileTree := ⟨[(["src", "manifest.json"], .file ⟨#[0xff]⟩)]⟩

/-- **Loading fails** on a file that is there and can be opened: its single byte is no text,
and that is neither an error of the file nor one of the JSON in it, the two that are caught. -/
theorem exists_load_error :
    ∃ files file content, candidate files none = .ok file ∧ files.readBytes file = .ok content ∧
      load files none true = .error .notText := by
  refine ⟨garbled, (FilePath.current.child "src").child "manifest.json", ⟨#[0xff]⟩, ?_, ?_, ?_⟩
  · rfl
  · rfl
  · rfl

end Manifest
end Recorder
