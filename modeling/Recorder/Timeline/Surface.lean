/-
# Events on the recorder's own windows

`SPEC_FULL.md` §2, `RECORDER_SURFACE_PATTERN` and `ignore_locators`.

The editor window that hosts the recorder is never part of a recording.  Other
surfaces are named by search patterns over locators.  Patterns are read one
after the other, and only as far as needed: a malformed one after a match does
no harm.
-/

import Recorder.Text.Pattern.Matching
import Recorder.Text.Pattern.Reading

namespace Recorder

namespace Surface

/-- What the locator of the hosting editor window says. -/
def hostTitle : List Char := "Extension Development Host".toList

/-- Whether one of several patterns matches a locator. -/
def matchesAny (locator : String) : List String → Except PatternError Bool
  | [] => .ok false
  | p :: ps =>
    match Pattern.read p with
    | .error e => .error e
    | .ok pattern => if pattern.search locator then .ok true else matchesAny locator ps

/-- **Whether a locator lies on a recorder's surface.**
Source: `is_recorder_surface`. -/
def isRecorder (patterns : List String) (locator : String) : Except PatternError Bool :=
  if Text.occursFolded hostTitle locator.toList then .ok true else matchesAny locator patterns

end Surface
end Recorder
