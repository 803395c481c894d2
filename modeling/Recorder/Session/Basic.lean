/-
# Recording sessions

`SPEC_FULL.md` §7, `RecordingSession`: `start`, `compile` and `disconnect`.

A session listens to several endpoints at once, one connection for each base
URL; an endpoint whose base URL is already there is ignored.  A compile pass
takes a snapshot of all buffers and turns it into a document, or finds nothing
to compile.
-/

import Recorder.Automation.Assembly
import Recorder.Automation.RuleCompiler
import Recorder.Connection.Basic
import Recorder.Timeline.Merge

namespace Recorder

/-- A recording session. -/
structure Session where
  /-- One connection for each base URL, in order of configuration. -/
  connections : List Connection := []
  /-- The project's manifest. -/
  manifest : Json := .obj []
  keyNames : KeyNames := .standard
  /-- Search patterns of locators that are not recorded. -/
  ignored : List String := []

/-- Why a compile pass fails. -/
inductive CompileError where
  | pattern (e : PatternError)
  | overflow (e : PauseError)
  | assembly (e : AssemblyError)
deriving DecidableEq, Repr

/-- Why there is nothing to compile. -/
inductive EmptyReason where
  | noConnections
  | noEvents
deriving DecidableEq, Repr

def EmptyReason.text : EmptyReason → String
  | .noConnections => "no active connections"
  | .noEvents => "no recorded events"

/-- What a compile pass gives: nothing, or a document with the groups it was made
of; with the snapshot it was made from. -/
inductive Recording where
  | empty (reason : EmptyReason) (buffers : Snapshots)
  | document (automation : Automation) (groups : List Group) (buffers : Snapshots)
deriving Repr

namespace Recording

def buffers : Recording → Snapshots
  | .empty _ b => b
  | .document _ _ b => b

def groups : Recording → List Group
  | .empty _ _ => []
  | .document _ gs _ => gs

def automation? : Recording → Option Automation
  | .empty _ _ => none
  | .document a _ _ => some a

/-- Whether a viewer can be handed the document, if there is one. -/
def isShallow (r : Recording) : Bool := r.automation?.all Automation.isShallow

end Recording

/-! ## Connections by base URL -/

namespace Connection

/-- The connection to a base URL. -/
def find? (cs : List Connection) (url : String) : Option Connection := cs.find? (·.url == url)

/-- Changes the connection to a base URL. -/
def update (cs : List Connection) (url : String) (f : Connection → Connection) : List Connection :=
  cs.map fun c => if c.url = url then f c else c

/-- The connections to endpoints; of endpoints with one base URL the first counts. -/
def ofEndpoints (es : List Endpoint) : List Connection :=
  es.foldl (fun cs e => if cs.any (·.url == e.baseUrl) then cs else cs ++ [{ endpoint := e }]) []

end Connection

namespace Session

/-- A session for endpoints. -/
def ofEndpoints (es : List Endpoint) (manifest : Json) : Session :=
  { connections := Connection.ofEndpoints es
    manifest := if manifest.isTruthy then manifest else .obj [] }

/-- A notice for every endpoint that is ignored. -/
def duplicateNotices (known : List String) : List Endpoint → List Notice
  | [] => []
  | e :: es =>
    if known.contains e.baseUrl then .duplicateEndpoint e.baseUrl :: duplicateNotices known es
    else duplicateNotices (known ++ [e.baseUrl]) es

def urls (s : Session) : List String := s.connections.map Connection.url

def connection? (s : Session) (url : String) : Option Connection := Connection.find? s.connections url

/-- A copy of every buffer.  Source: `take_snapshots`. -/
def snapshots (s : Session) : Snapshots := s.connections.map fun c => (c.url, c.buffer)

/-- Changes the connection to a base URL. -/
def update (s : Session) (url : String) (f : Connection → Connection) : Session :=
  { s with connections := Connection.update s.connections url f }

/-- Takes in one message of an endpoint. -/
def ingest (s : Session) (url : String) (payload : Json) : Session :=
  s.update url (·.ingest payload)

/-- Forgets all events. -/
def clear (s : Session) : Session := { s with connections := s.connections.map Connection.clear }

/-! ## Compiling -/

/-- The connection that recorded the first interaction of a group. -/
def sourceOf (s : Session) (g : Group) : Option Connection := s.connection? (g.origin.getD "")

/-- A group with the think-time settings of its connection. -/
def settled (s : Session) (g : Group) : Group :=
  { g with thinkTime := some (((s.sourceOf g).map (·.endpoint.thinkTime)).getD {}) }

/-- The mode of the connection of a group. -/
def modeOf (s : Session) (g : Group) : CaptureMode :=
  ((s.sourceOf g).map (·.endpoint.mode)).getD .standard

/-- **The job of a group.**  The first job runs with the parameters of the document,
every later one with those of its own connection. -/
def jobOf (s : Session) (isFirst : Bool) (g : Group) : Except PauseError Job := do
  let job ← RuleCompiler.compile s.keyNames (s.modeOf g) (s.settled g)
  if isFirst then .ok job
  else .ok { job with
    driverParameters := ((s.sourceOf g).map (·.endpoint.driverParameters)).getD [] }

/-- The jobs of groups in a row. -/
def jobsOf (s : Session) (isFirst : Bool) : List Group → Except PauseError (List Job)
  | [] => .ok []
  | g :: gs => do
    let job ← s.jobOf isFirst g
    let jobs ← jobsOf s false gs
    .ok (job :: jobs)

/-- The notices of the groups that are compiled, up to one that fails. -/
def groupNotices (s : Session) (isFirst : Bool) : List Group → List Notice
  | [] => []
  | g :: gs => RuleCompiler.notices g ++
    match s.jobOf isFirst g with
    | .ok _ => groupNotices s false gs
    | .error _ => []

/-- The groups that the buffers hold now. -/
def currentGroups (s : Session) : Except PatternError (List Group) :=
  (s.snapshots.merge s.ignored).map Group.segment

/-- The driver parameters of the connection that holds the earliest event. -/
def primaryParameters (s : Session) : Fields :=
  ((s.snapshots.earliestSource.bind s.connection?).map (·.endpoint.driverParameters)).getD []

/-- The base of the document. -/
def documentBase (s : Session) : Except AssemblyError DocumentBase :=
  DocumentBase.ofManifest s.manifest (some (.obj s.primaryParameters))

/-- The document of groups. -/
def assembleGroups (s : Session) (gs : List Group) : Except CompileError Automation := do
  let base ← s.documentBase.mapError .assembly
  let jobs ← (s.jobsOf true gs).mapError .overflow
  (Automation.assemble jobs base).mapError .assembly

/-- **A compile pass.**
Source: `RecordingSession.compile`. -/
def compile (s : Session) : Except CompileError Recording :=
  if s.connections.isEmpty then .ok (.empty .noConnections [])
  else do
    let gs ← s.currentGroups.mapError .pattern
    if gs.isEmpty then .ok (.empty .noEvents s.snapshots)
    else
      let automation ← s.assembleGroups gs
      .ok (.document automation (gs.map s.settled) s.snapshots)

/-- What a compile pass reports. -/
def compileNotices (s : Session) : List Notice :=
  if s.connections.isEmpty then [.nothingConnected]
  else match s.currentGroups with
    | .error _ => []
    | .ok gs =>
      if gs.isEmpty then [.nothingRecorded]
      else match s.documentBase with
        | .error _ => []
        | .ok _ => s.groupNotices true gs ++
          match s.assembleGroups gs with
          | .ok a => [.compiled gs.length s.connections.length (Automation.ruleCount a.jobs)]
          | .error _ => []

/-! ## Starting and disconnecting -/

/-- Reasons why connections cannot start or disconnect, by base URL. -/
structure Faults where
  start : Entries String := []
  disconnect : Entries String := []

/-- Every connection in a new state, but for those at fault. -/
def moveTo (s : Session) (state : ConnectionState) (faults : Entries String) : Session :=
  { s with connections := s.connections.map fun c =>
      if faults.has c.url then c else { c with state } }

/-- **Starting every connection.**  A connection that cannot start stays as it is.
Source: `RecordingSession.start`. -/
def start (s : Session) (faults : Faults) : Session × List Notice :=
  (s.moveTo .connected faults.start,
    s.urls.map .starting ++
      s.urls.filterMap fun u => (faults.start.get? u).map (.startFailed u))

/-- **Disconnecting every connection.**  A connection that cannot stays as it is.
Source: `RecordingSession.disconnect`. -/
def disconnect (s : Session) (faults : Faults) : Session × List Notice :=
  (s.moveTo .disconnected faults.disconnect,
    s.urls.filterMap fun u => (faults.disconnect.get? u).map (.disconnectFailed u))

end Session
end Recorder
