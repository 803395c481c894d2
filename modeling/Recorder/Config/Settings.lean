/-
# Settings

`SPEC_FULL.md` §9, `RecorderConfig.from_env`.

The settings of the program come from environment variables.

| variable | setting | when absent |
| --- | --- | --- |
| `G4_MANIFEST` | manifest, or project directory | none |
| `G4_RECORDERS` | list of recorder endpoints | none |
| `G4_OUT_DIR` | where results are written | `recordings` |
| `G4_LOG_LEVEL` | least level that is logged | `INFO` |
| `G4_LOG_FILE` | log file | none |
| `G4_LOG_MAX_SIZE` | size at which the log file is rotated | `10MB` |
| `G4_RECORD_SECONDS` | length of a recording | 300 |

A path that is set to nothing counts as absent, but for the output directory,
which is then the current one.
-/

import Recorder.Entries
import Recorder.Storage.Path
import Recorder.Text.Integer

namespace Recorder

/-- The settings of the program. -/
structure Settings where
  manifestPath : Option FilePath := none
  endpointsPath : Option FilePath := none
  outDirectory : FilePath := .ofString "./recordings"
  logLevel : String := "INFO"
  logFile : Option FilePath := none
  logMaxSize : String := "10MB"
  seconds : Int := 300
deriving DecidableEq, Repr

namespace Settings

/-- The variables that hold settings. -/
def variableNames : List String :=
  ["G4_MANIFEST", "G4_RECORDERS", "G4_OUT_DIR", "G4_LOG_LEVEL", "G4_LOG_FILE", "G4_LOG_MAX_SIZE",
    "G4_RECORD_SECONDS"]

/-- A path that is set to something. -/
def path? (environment : Entries String) (name : String) : Option FilePath :=
  FilePath.given? (environment.get? name)

/-- **The settings of an environment.**
Source: `RecorderConfig.from_env`. -/
def ofEnvironment (environment : Entries String) : Except IntegerError Settings := do
  let seconds ← Text.readInteger ((environment.get? "G4_RECORD_SECONDS").getD "300")
  .ok {
    manifestPath := path? environment "G4_MANIFEST"
    endpointsPath := path? environment "G4_RECORDERS"
    outDirectory := .ofString ((environment.get? "G4_OUT_DIR").getD "./recordings")
    logLevel := (environment.get? "G4_LOG_LEVEL").getD "INFO"
    logFile := path? environment "G4_LOG_FILE"
    logMaxSize := (environment.get? "G4_LOG_MAX_SIZE").getD "10MB"
    seconds }

end Settings
end Recorder
