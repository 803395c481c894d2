/-
# Replaying saved buffers

`SPEC_FULL.md` §12, the replay of the sub-command `compile`.

A saved recording is compiled again in a session of its own: one connection for
each base URL, under the settings saved first, which takes in the messages of
all entries with that base URL.  The mode of all connections may be replaced.
-/

import Recorder.Session.Basic
import Recorder.Storage.Buffers

namespace Recorder

/-- A saved connection in another mode, if one is given. -/
def SavedConnection.inMode (mode : Option CaptureMode) (c : SavedConnection) : SavedConnection :=
  match mode with
  | some mode => { c with endpoint := { c.endpoint with mode } }
  | none => c

namespace Session

/-- Takes in the messages of a saved connection. -/
def replayOne (s : Session) (c : SavedConnection) : Session :=
  s.update c.endpoint.baseUrl (·.ingestAll c.events)

/-- **The session of a saved recording.**
Source: the sub-command `compile`. -/
def replay (saved : List SavedConnection) (manifest : Json) : Session :=
  saved.foldl replayOne (ofEndpoints (saved.map SavedConnection.endpoint) manifest)

end Session
end Recorder
