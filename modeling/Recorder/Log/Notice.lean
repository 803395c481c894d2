/-
# Notices

`SPEC_FULL.md` §3, §7 and §11: what is logged, and how seriously.

What a session and its connections report while they work, from the level of
information upwards.  A notice is the thing that happened; `Notice.level` and
`Notice.message` say how it is logged.
-/

import Recorder.Log.Level

namespace Recorder

/-- Something worth logging.  Delays are given by their text. -/
inductive Notice where
  | unresolvedButton (event : String) (timestamp : Int)
  | duplicateEndpoint (url : String)
  | starting (url : String)
  | startFailed (url reason : String)
  | nothingConnected
  | nothingRecorded
  | compiled (groups connections rules : Nat)
  | compileFailed (urls : List String)
  | disconnectFailed (url reason : String)
  | hubClosed (url reason : String)
  | alreadyRunning (url : String)
  | connected (url : String)
  | disconnected (url : String)
  | dropped (url delay : String)
  | connectFailed (url reason delay : String)
  | captureFailed (url delay : String)
  | manifestNotObject (path : String)
  | manifestUnreadable (path : String)
  | entrySkipped (entry : String)
  | workflowWritten (path : String)
deriving DecidableEq, Repr

namespace Notice

/-- The part of the program that reports a notice. -/
def channel : Notice → String
  | .unresolvedButton .. => "compiler"
  | .manifestNotObject .. | .manifestUnreadable .. | .entrySkipped .. => "config"
  | .workflowWritten .. => "viewer"
  | .hubClosed .. | .alreadyRunning .. | .connected .. | .disconnected .. | .dropped ..
  | .connectFailed .. | .captureFailed .. => "connection"
  | .duplicateEndpoint .. | .starting .. | .startFailed .. | .nothingConnected | .nothingRecorded
  | .compiled .. | .compileFailed .. | .disconnectFailed .. => "session"

def level : Notice → Level
  | .unresolvedButton .. | .duplicateEndpoint .. | .nothingConnected | .alreadyRunning ..
  | .dropped .. | .connectFailed .. | .manifestNotObject .. | .manifestUnreadable .. => .warning
  | .startFailed .. | .compileFailed .. | .disconnectFailed .. | .captureFailed ..
  | .entrySkipped .. => .error
  | .starting .. | .nothingRecorded | .compiled .. | .hubClosed .. | .connected ..
  | .disconnected .. | .workflowWritten .. => .info

def message : Notice → String
  | .unresolvedButton event timestamp =>
    "Unresolved mouse button in event " ++ Text.quoted event ++ " at " ++ toString timestamp ++
      "; emitting no-op"
  | .duplicateEndpoint url => "Duplicate recorder endpoint " ++ url ++ " ignored"
  | .starting url => "Starting recorder for endpoint: " ++ url
  | .startFailed url reason => "Failed to start recorder for endpoint " ++ url ++ ": " ++ reason
  | .nothingConnected => "No active capture connections to compile"
  | .nothingRecorded => "No recorded events found in the buffers"
  | .compiled groups connections rules =>
    "Compiled " ++ toString groups ++ " group(s) from " ++ toString connections ++
      " connection(s) into " ++ toString rules ++ " rule(s)"
  | .compileFailed urls =>
    "Failed to compile recording from " ++ toString urls.length ++ " connection(s): " ++
      ", ".intercalate urls
  | .disconnectFailed url reason => "Error disconnecting from " ++ url ++ ": " ++ reason
  | .hubClosed url reason => "Hub at " ++ url ++ " closed the connection: " ++ reason
  | .alreadyRunning url => "Connection to " ++ url ++ " already running"
  | .connected url => "Connected to recorder hub at " ++ url
  | .disconnected url => "Disconnected from recorder hub at " ++ url
  | .dropped url delay => "Connection to " ++ url ++ " dropped; reconnecting in " ++ delay ++ "s"
  | .connectFailed url reason delay =>
    "Failed to connect to recorder hub at " ++ url ++ ": " ++ reason ++ "; retrying in " ++ delay ++
      "s"
  | .captureFailed url delay =>
    "Capture from " ++ url ++ " failed; reconnecting in " ++ delay ++ "s"
  | .manifestNotObject path => "Manifest " ++ path ++ " is not a JSON object; ignoring it"
  | .manifestUnreadable path => "Could not read manifest " ++ path
  | .entrySkipped entry => "Skipping invalid recorder endpoint " ++ entry
  | .workflowWritten path => "Wrote workflow: " ++ path

end Notice
end Recorder
