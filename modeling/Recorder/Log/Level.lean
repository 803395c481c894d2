/-
# Levels

`SPEC_FULL.md` §10, the level that `setup_logging` is given.

| level | severity | other names |
| --- | ---: | --- |
| critical | 50 | `FATAL` |
| error | 40 | |
| warning | 30 | `WARN` |
| info | 20 | any name that means nothing else |
| debug | 10 | |

A log has a threshold, which is set by a name in any case.  The threshold zero,
`NOTSET`, leaves the decision to the surroundings, which want warnings.  Two
names belong to the layout of the log and are refused.
-/

import Recorder.Text.LetterCase
import Recorder.Text.Quoted

namespace Recorder

/-- How serious a record is. -/
inductive Level where
  | debug
  | info
  | warning
  | error
  | critical
deriving DecidableEq, Repr

namespace Level

def name : Level → String
  | .debug => "DEBUG"
  | .info => "INFO"
  | .warning => "WARNING"
  | .error => "ERROR"
  | .critical => "CRITICAL"

def severity : Level → Nat
  | .debug => 10
  | .info => 20
  | .warning => 30
  | .error => 40
  | .critical => 50

end Level

/-- A name that belongs to the layout of the log. -/
inductive ThresholdError where
  /-- It stands for a text that is no level. -/
  | layoutText (text : String)
  /-- It stands for a table of layouts. -/
  | layoutTable
deriving DecidableEq, Repr

namespace Threshold

/-- The complaint about a text that is no level. -/
def unknownMessage (text : String) : String := "Unknown level: " ++ Text.quoted text

/-- The names of thresholds. -/
def names : List (String × Nat) := [
    ("CRITICAL", 50), ("FATAL", 50), ("ERROR", 40), ("WARNING", 30), ("WARN", 30), ("INFO", 20),
    ("DEBUG", 10), ("NOTSET", 0)]

/-- The layout of a record where nothing else is set up. -/
def plainLayout : String := "%(levelname)s:%(name)s:%(message)s"

/-- **The threshold of a name.** -/
def ofName (s : String) : Except ThresholdError Nat :=
  let word := Text.upper s
  if word = "BASIC_FORMAT" then .error (.layoutText plainLayout)
  else if word = "_STYLES" then .error .layoutTable
  else .ok ((names.lookup word).getD Level.info.severity)

/-- The severity from which on records count. -/
def effective (threshold : Nat) : Nat :=
  if threshold = 0 then Level.warning.severity else threshold

end Threshold
end Recorder
