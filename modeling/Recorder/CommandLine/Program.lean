/-
# The program

`SPEC_FULL.md` §12, `record`, `compile` and `status`, with the
`FileWorkflowViewer` of §8.

One run of the program, as a function of what it finds: its arguments, the
environment, the files, the time, and what the endpoints send while it records.
It gives what is printed, the files afterwards, and whether the run succeeded.
A run that fails keeps what it has printed and written until then.

| command | does |
| --- | --- |
| `record` | listens to the configured endpoints and writes the document of what they sent |
| `compile` | writes the document of saved buffers |
| `status` | lists the configured endpoints |
-/

import Recorder.CommandLine.Arguments
import Recorder.Config.Endpoints
import Recorder.Config.Settings
import Recorder.Json.Printer
import Recorder.Log.Basic
import Recorder.Session.Replay
import Recorder.Session.Stop

namespace Recorder

/-- What the endpoints do while a recording runs. -/
structure Feed where
  /-- The messages of every endpoint, by base URL. -/
  messages : Entries (List Json) := []
  faults : Session.Faults := {}

/-- Adds a line of the form `[base URL, message]` to what endpoints send; any other
line adds nothing. -/
def Feed.addLine (feed : Feed) (line : String) : Feed :=
  match Json.read line with
  | .ok (.arr [.str url, message]) =>
    { feed with messages := feed.messages.put url ((feed.messages.get? url).getD [] ++ [message]) }
  | _ => feed

/-- What a run of the program finds. -/
structure Surroundings where
  environment : Entries String := []
  files : FileTree := {}
  /-- The time as log lines have it. -/
  logTime : String
  /-- The time as saved buffers have it. -/
  savedAt : String
  feed : Feed := {}

/-- Why a run fails. -/
inductive ProgramError where
  | settings (e : IntegerError)
  | usage (e : UsageError)
  | log (e : LogError)
  | manifest (e : Manifest.LoadError)
  | endpoints (e : EndpointsError)
  | noEndpoints
  /-- A recording cannot last that many seconds. -/
  | duration (seconds : Int)
  | buffersMissing (path : FilePath)
  | buffersUnreadable (e : ReadError)
  | buffers (e : BuffersError)
  | stop (e : StopError)
  | write (e : FileError)
  | save (e : SaveError)

namespace ProgramError

def noEndpointsMessage : String :=
  "No recorder endpoints configured (see G4_RECORDERS / manifest g4Server)."

def buffersMissingMessage (path : FilePath) : String := "Missing " ++ path.text

/-- What a run that fails says, in a word or two. -/
def message : ProgramError → String
  | .settings e => e.message
  | .usage _ => "usage: [--manifest PATH] [--log-level LEVEL] record | compile | status ..."
  | .log _ => "the log cannot be set up"
  | .manifest _ => "the manifest cannot be read"
  | .endpoints _ => "the recorder endpoints cannot be read"
  | .noEndpoints => noEndpointsMessage
  | .duration _ => PauseError.rangeMessage
  | .buffersMissing path => buffersMissingMessage path
  | .buffersUnreadable _ => "the buffers cannot be read"
  | .buffers _ => "the buffers are malformed"
  | .stop _ => "the recording cannot be compiled"
  | .write _ => "the result cannot be written"
  | .save e => e.message

/-- The exit status of a run that fails. -/
def status : ProgramError → UInt32
  | .usage .help => 0
  | .usage _ => 2
  | _ => 1

end ProgramError

/-- How far a run has come. -/
structure RunState where
  files : FileTree
  log : Log := {}
  output : String := ""

/-- A part of a run. -/
abbrev Run (α : Type) := ExceptT ProgramError (StateM RunState) α

namespace Program

/-- The place in the program that a file line tells. -/
def placeOf (n : Notice) : String := n.channel ++ ".notice"

/-- Logs a notice. -/
def report (s : Surroundings) (n : Notice) : Run Unit :=
  modify fun st => { st with files := st.log.writeFile s.logTime (placeOf n) n.toRecord st.files }

def reportAll (s : Surroundings) (ns : List Notice) : Run Unit := ns.forM (report s)

/-- Prints a line. -/
def printLine (line : String) : Run Unit :=
  modify fun st => { st with output := st.output ++ line ++ "\n" }

/-- Goes on with a value, or fails for a reason. -/
def orFail {ε α : Type} (reason : ε → ProgramError) : Except ε α → Run α
  | .ok a => pure a
  | .error e => throw (reason e)

/-! ## Configuration -/

/-- The project's manifest. -/
def loadManifest (s : Surroundings) (path : Option FilePath) : Run Json := do
  let files := (← get).files
  reportAll s (Manifest.loadNotices files path)
  let manifest ← orFail .manifest (Manifest.load files path true)
  pure (manifest.getD Manifest.standard)

/-- The configured endpoints. -/
def loadEndpoints (s : Surroundings) (path : Option FilePath) (manifest : Json) :
    Run (List Endpoint) := do
  let found ← orFail .endpoints (Endpoints.load (← get).files path manifest)
  reportAll s found.notices
  pure found.endpoints

/-- Sets the log up. -/
def setupLog (settings : Settings) (level : Option String) : Run Unit := do
  let st ← get
  let level := match level with
    | some name => if name.isEmpty then settings.logLevel else name
    | none => settings.logLevel
  let (log, files, result) := st.log.setup
    { level, file := settings.logFile, limit := .str settings.logMaxSize } st.files
  set { st with log, files }
  orFail .log result

/-! ## Sessions -/

/-- Writes a document. -/
def writeDocument (path : FilePath) (document : Json) : Run Unit := do
  let st ← get
  let files ← orFail .write (st.files.writeText path document.pretty)
  set { st with files }

/-- One step of stopping a session. -/
def stopStep (s : Surroundings) (w : Stopping) (step : StopStep) : Run Stopping := do
  let (w, notices) := w.step step
  reportAll s notices
  pure w

/-- **Stopping a session,** its document being written to a file.  A document that
cannot be written fails the run once the connections have disconnected. -/
def stopSession (s : Surroundings) (session : Session) (path : FilePath) : Run Recording := do
  let w : Stopping := { session, faults := s.feed.faults }
  let w ← stopStep s w (.begin true)
  match w.stage? 0 with
  | some (.showing recording) =>
    let document := (recording.automation?.map Automation.payload).getD .null
    match (← get).files.writeText path document.pretty with
    | .ok files =>
      modify fun st => { st with files }
      report s (.workflowWritten path.text)
      let w ← stopStep s w (.shown 0)
      discard <| stopStep s w (.left 0)
      pure recording
    | .error e =>
      let w ← stopStep s w (.refused 0 path.text)
      discard <| stopStep s w (.left 0)
      throw (.write e)
  | some (.leaving result) =>
    discard <| stopStep s w (.left 0)
    orFail .stop result
  | some (.finished result) => orFail .stop result
  | none => throw (.stop .inProgress)

/-- Prints what became of a recording. -/
def summarize (recording : Recording) (path : FilePath) : Run Unit :=
  match recording with
  | .empty reason _ => printLine ("Nothing to compile: " ++ reason.text ++ ".")
  | .document automation _ _ =>
    let jobs := automation.jobs
    printLine ("Wrote workflow: " ++ path.text ++ " (" ++ toString jobs.length ++ " job(s), " ++
      toString (Automation.ruleCount jobs) ++ " rule(s))")

/-! ## Commands -/

/-- The messages of the endpoints that could start, taken in. -/
def deliver (feed : Feed) (session : Session) : Session :=
  { session with connections := session.connections.map fun c =>
      if feed.faults.start.has c.url then c
      else c.ingestAll ((feed.messages.get? c.url).getD []) }

/-- How long a recording lasts: the seconds that were asked for, unless they are
none or zero. -/
def duration (settings : Settings) (r : RecordRequest) : Int :=
  match r.seconds with
  | some n => if n = 0 then settings.seconds else n
  | none => settings.seconds

/-- A recording that ends at once, or after a time that a clock can tell. -/
def checkDuration (seconds : Int) : Run Unit :=
  if 0 < seconds && (Double.ofInt? seconds).isNone then throw (.duration seconds) else pure ()

/-- **Recording.**
Source: the sub-command `record`. -/
def record (s : Surroundings) (settings : Settings) (manifestPath : Option FilePath)
    (r : RecordRequest) : Run Unit := do
  let manifest ← loadManifest s manifestPath
  let endpoints ← loadEndpoints s ((FilePath.given? r.recorders).or settings.endpointsPath) manifest
  if endpoints.isEmpty then throw .noEndpoints
  let out := (FilePath.given? r.out).getD settings.outDirectory
  let path := out.child "workflow.json"
  reportAll s (Session.duplicateNotices [] endpoints)
  let (session, notices) := (Session.ofEndpoints endpoints manifest).start s.feed.faults
  reportAll s notices
  let session := deliver s.feed session
  printLine ("Recording from " ++ toString session.connections.length ++
    " endpoint(s)... press Ctrl-C to stop.")
  checkDuration (duration settings r)
  let recording ← stopSession s session path
  if r.saveBuffers then
    let saved := out.child "buffers.json"
    let byUrl := session.connections.map fun c => (c.url, c.endpoint)
    let document ← orFail .save (Buffers.dump s.savedAt recording.buffers byUrl)
    writeDocument saved document
    printLine ("Saved: " ++ saved.text)
  summarize recording path

/-- **Compiling saved buffers.**
Source: the sub-command `compile`. -/
def compile (s : Surroundings) (manifestPath : Option FilePath) (r : CompileRequest) :
    Run Unit := do
  let source := FilePath.ofString r.buffers
  let found ← orFail (.buffersUnreadable <| .file ·) ((← get).files.isThere source)
  if !found then throw (.buffersMissing source)
  let manifest ← loadManifest s manifestPath
  let document ← orFail .buffersUnreadable ((← get).files.readJson source)
  let loaded ← orFail .buffers (Buffers.load document)
  let saved := loaded.map (SavedConnection.inMode r.mode)
  reportAll s (Session.duplicateNotices [] (saved.map SavedConnection.endpoint))
  let path := (FilePath.given? r.out).getD (source.sibling "workflow.json")
  let recording ← stopSession s (Session.replay saved manifest) path
  summarize recording path

/-- The line of an endpoint. -/
def statusLine (e : Endpoint) : String :=
  let think :=
    if e.thinkTime.enabled then
      "think time " ++ toString e.thinkTime.least ++ "-" ++ toString e.thinkTime.most ++ "ms"
    else "no think time"
  e.baseUrl ++ "  mode=" ++ e.mode.name ++ "  " ++ think

/-- **Listing the endpoints.**
Source: the sub-command `status`. -/
def status (s : Surroundings) (settings : Settings) (manifestPath : Option FilePath)
    (recorders : Option String) : Run Unit := do
  let manifest ← loadManifest s manifestPath
  let endpoints ← loadEndpoints s ((FilePath.given? recorders).or settings.endpointsPath) manifest
  if endpoints.isEmpty then printLine "No recorder endpoints configured."
  else endpoints.forM fun e => printLine (statusLine e)

/-- The whole run. -/
def dispatch (s : Surroundings) (args : List String) : Run Unit := do
  let settings ← orFail .settings (Settings.ofEnvironment s.environment)
  let invocation ← orFail .usage (Arguments.read args)
  setupLog settings invocation.logLevel
  let manifestPath := (FilePath.given? invocation.manifest).or settings.manifestPath
  match invocation.command with
  | .record r => record s settings manifestPath r
  | .compile r => compile s manifestPath r
  | .status recorders => status s settings manifestPath recorders

/-! ## Outcome -/

/-- The paths that a run may look at, besides those that lead to them. -/
def pathsOf (settings : Settings) (invocation : Invocation) : List FilePath :=
  let manifest := ((FilePath.given? invocation.manifest).or settings.manifestPath).getD .current
  let own := match invocation.command with
    | .record r =>
      let out := (FilePath.given? r.out).getD settings.outDirectory
      (FilePath.given? r.recorders).toList ++ [out.child "workflow.json", out.child "buffers.json"]
    | .compile r =>
      let source := FilePath.ofString r.buffers
      [source, (FilePath.given? r.out).getD (source.sibling "workflow.json")]
    | .status recorders => (FilePath.given? recorders).toList
  [manifest, manifest.child "manifest.json", (manifest.child "src").child "manifest.json"] ++
    settings.endpointsPath.toList ++ settings.logFile.toList ++ own

/-- The paths that a run with the given environment and arguments may look at. -/
def paths (environment : Entries String) (args : List String) : List FilePath :=
  match Settings.ofEnvironment environment, Arguments.read args with
  | .ok settings, .ok invocation => pathsOf settings invocation
  | _, _ => []

/-- Whether a run records. -/
def records (args : List String) : Bool :=
  match Arguments.read args with
  | .ok { command := .record _, .. } => true
  | _ => false

/-- What a run leaves. -/
structure Outcome where
  output : String
  files : FileTree
  result : Except ProgramError Unit

/-- **Running the program.** -/
def run (s : Surroundings) (args : List String) : Outcome :=
  let (result, st) := (dispatch s args).run.run { files := s.files }
  { output := st.output, files := st.files, result }

end Program
end Recorder
