/-
# The log

`SPEC_FULL.md` §10: `setup_logging` and `get_logger`.

All records of the program are under one name, `g4recorder`.  The log writes
them to the console and, if it is set up to, to a log file.

Setting up again replaces the console and the file.  It goes step by step, and a
step that fails leaves what the steps before it did: the threshold, then the
console, then the directory of the file, its limit, and the file itself.
-/

import Recorder.Log.LogFile
import Recorder.Log.Notice

namespace Recorder

/-- Where records go, and from which severity on. -/
structure Log where
  threshold : Nat := 0
  console : Bool := false
  file : Option LogFile := none
deriving DecidableEq, Repr

/-- Why a log cannot be set up. -/
inductive LogError where
  | threshold (e : ThresholdError)
  | size (e : SizeError)
  | file (e : FileError)
deriving DecidableEq, Repr

/-- How a log is to be set up. -/
structure LogSettings where
  level : String := "INFO"
  file : Option FilePath := none
  limit : Json := .str "10MB"
  backups : Int := 5

/-- What is written to the log. -/
structure LogRecord where
  /-- The name it is logged under. -/
  name : String
  level : Level
  message : String
deriving DecidableEq, Repr

namespace Log

/-- The name above all names. -/
def rootName : String := "g4recorder"

/-- **The full name** of a part: its own name, if that is one under the root.
Source: `get_logger`. -/
def fullName (name : String) : String :=
  if name = rootName ∨ (Text.dropLead? (rootName ++ ".").toList name.toList).isSome then name
  else rootName ++ "." ++ name

/-- Opens the log file of the settings, if they have one. -/
def openFile (s : LogSettings) (files : FileTree) :
    FileTree × Except LogError (Option LogFile) :=
  match s.file with
  | none => (files, .ok none)
  | some path =>
    match files.makeDirectory path.parent with
    | .error e => (files, .error (.file e))
    | .ok files =>
      match SizeLimit.read s.limit with
      | .error e => (files, .error (.size e))
      | .ok limit =>
        match LogFile.create files path with
        | .error e => (files, .error (.file e))
        | .ok (files, names) => (files, .ok (some ⟨names, limit, s.backups⟩))

/-- **Setting up the log.**
Source: `setup_logging`. -/
def setup (log : Log) (s : LogSettings) (files : FileTree) :
    Log × FileTree × Except LogError Unit :=
  match Threshold.ofName s.level with
  | .error e => (log, files, .error (.threshold e))
  | .ok threshold =>
    let log : Log := { threshold, console := true }
    match openFile s files with
    | (files, .ok file) => ({ log with file }, files, .ok ())
    | (files, .error e) => (log, files, .error e)

/-- Whether records of a level are written. -/
def enabled (log : Log) (level : Level) : Bool :=
  Threshold.effective log.threshold ≤ level.severity

/-- A record on the console. -/
def consoleLine (time : String) (r : LogRecord) : String :=
  " - ".intercalate [time, r.name, r.level.name, r.message] ++ "\n"

/-- A record in a file, which also tells the place in the program. -/
def fileLine (time place : String) (r : LogRecord) : String :=
  " - ".intercalate [time, r.name, r.level.name, place, r.message] ++ "\n"

/-- **What the console shows** of a record. -/
def consoleText (log : Log) (time : String) (r : LogRecord) : String :=
  if log.console && log.enabled r.level then consoleLine time r else ""

/-- **What a record does to the log file.** -/
def writeFile (log : Log) (time place : String) (r : LogRecord) (files : FileTree) : FileTree :=
  match log.file with
  | some f => if log.enabled r.level then f.write files (fileLine time place r) else files
  | none => files

end Log

/-- The record of a notice. -/
def Notice.toRecord (n : Notice) : LogRecord :=
  ⟨Log.fullName n.channel, n.level, n.message⟩

end Recorder
