/-
# Stopping a session

`SPEC_FULL.md` §7, `RecordingSession.stop`.

Stopping compiles, shows the document to a viewer, forgets the events and
disconnects.  A call that fails keeps the events, also when the document is too
deep to be shown.  A call has to wait twice,
while the viewer shows the document and while the connections disconnect;
messages and other calls may come in between.

| stage of a call | waits for | goes on to |
| --- | --- | --- |
| `showing` | the viewer | `leaving`; accepted: events forgotten, refused: events kept |
| `leaving` | the connections | `finished` |
| `finished` | nothing | |

A session is locked from the first step of a call until its last; a call that
finds it locked is refused at once and changes nothing.
-/

import Recorder.Session.Basic

namespace Recorder

/-- Why a call fails. -/
inductive StopError where
  /-- Another call is in progress. -/
  | inProgress
  | compile (e : CompileError)
  /-- The document cannot be handed to the viewer. -/
  | tooDeep (e : TooDeep)
  | viewer (reason : String)
deriving DecidableEq, Repr

def StopError.inProgressMessage : String :=
  "a compile pass is already running for this session"

/-- How far a call has come. -/
inductive StopStage where
  | showing (recording : Recording)
  | leaving (result : Except StopError Recording)
  | finished (result : Except StopError Recording)

/-- A session that is being stopped, maybe by several calls. -/
structure Stopping where
  session : Session
  faults : Session.Faults := {}
  locked : Bool := false
  /-- Every call so far, in order of beginning. -/
  calls : List StopStage := []
  /-- The recordings that a viewer accepted, in order. -/
  accepted : List Recording := []

/-- One thing that happens to a session that is being stopped. -/
inductive StopStep where
  /-- A new call, with or without a viewer. -/
  | begin (viewer : Bool)
  /-- An endpoint sends a message. -/
  | ingest (url : String) (payload : Json)
  /-- The viewer of a call has shown the document. -/
  | shown (call : Nat)
  /-- The viewer of a call has failed. -/
  | refused (call : Nat) (reason : String)
  /-- The connections have disconnected for a call. -/
  | left (call : Nat)

namespace Stopping

/-- Adds a call. -/
def addCall (w : Stopping) (stage : StopStage) : Stopping := { w with calls := w.calls ++ [stage] }

/-- Moves a call to another stage. -/
def setCall (w : Stopping) (call : Nat) (stage : StopStage) : Stopping :=
  { w with calls := w.calls.set call stage }

def stage? (w : Stopping) (call : Nat) : Option StopStage := w.calls[call]?

/-- The notice of a call that failed. -/
def failureNotice (w : Stopping) : Notice := .compileFailed w.session.urls

/-- The first part of a call, up to where it waits.  Source: `RecordingSession.stop`, up to its
first wait. -/
def begin (w : Stopping) (viewer : Bool) : Stopping × List Notice :=
  if w.locked then (w.addCall (.finished (.error .inProgress)), [])
  else
    let w := { w with locked := true }
    let reported := w.session.compileNotices
    match w.session.compile with
    | .error e => (w.addCall (.leaving (.error (.compile e))), reported ++ [w.failureNotice])
    | .ok recording =>
      if viewer && recording.automation?.isSome then
        if recording.isShallow then (w.addCall (.showing recording), reported)
        else (w.addCall (.leaving (.error (.tooDeep {}))), reported ++ [w.failureNotice])
      else ({ w with session := w.session.clear }.addCall (.leaving (.ok recording)), reported)

/-- **One step.**  A step of a call that does not wait for it changes nothing.
Source: `RecordingSession.stop`, from one wait to the next. -/
def step (w : Stopping) : StopStep → Stopping × List Notice
  | .begin viewer => w.begin viewer
  | .ingest url payload => ({ w with session := w.session.ingest url payload }, [])
  | .shown call =>
    match w.stage? call with
    | some (.showing recording) =>
      ({ w with session := w.session.clear, accepted := w.accepted ++ [recording] }.setCall call
        (.leaving (.ok recording)), [])
    | _ => (w, [])
  | .refused call reason =>
    match w.stage? call with
    | some (.showing _) =>
      (w.setCall call (.leaving (.error (.viewer reason))), [w.failureNotice])
    | _ => (w, [])
  | .left call =>
    match w.stage? call with
    | some (.leaving result) =>
      let (session, notices) := w.session.disconnect w.faults
      ({ w with session, locked := false }.setCall call (.finished result), notices)
    | _ => (w, [])

/-- **A schedule:** steps in a row, with all their notices. -/
def run (w : Stopping) : List StopStep → Stopping × List Notice
  | [] => (w, [])
  | s :: rest =>
    let (w', here) := w.step s
    let (w'', there) := run w' rest
    (w'', here ++ there)

/-- The result of a call that is finished. -/
def result? (w : Stopping) (call : Nat) : Option (Except StopError Recording) :=
  match w.stage? call with
  | some (.finished result) => some result
  | _ => none

end Stopping

/-- What a viewer does with a document. -/
inductive Viewer where
  | absent
  | accepts
  | fails (reason : String)
deriving DecidableEq, Repr

namespace Session

/-- The steps of one call without anything in between. -/
def stopSteps : Viewer → List StopStep
  | .absent => [.begin false, .left 0]
  | .accepts => [.begin true, .shown 0, .left 0]
  | .fails reason => [.begin true, .refused 0 reason, .left 0]

/-- **Stopping a session** with nothing else going on. -/
def stop (s : Session) (faults : Faults) (viewer : Viewer) : Stopping × List Notice :=
  Stopping.run { session := s, faults } (stopSteps viewer)

/-- Two calls without a viewer that begin together.  The first has to wait for its
connections, if it has any, before the second begins. -/
def stopTwice (s : Session) (faults : Faults) : Stopping × List Notice :=
  Stopping.run { session := s, faults }
    (if s.connections.isEmpty then [.begin false, .left 0, .begin false, .left 1]
      else [.begin false, .begin false, .left 0])

end Session
end Recorder
