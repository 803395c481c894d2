/-
# Endpoints

`SPEC_FULL.md` §1: `ConnectionOptions`, `ThinkTimeSettings` and `CaptureMode`.

An endpoint is a recorder to listen to, with the settings of its recording.
Several spellings of a setting are understood; the first one that is present
counts, whatever its value.

| setting | spellings | when absent |
| --- | --- | --- |
| base URL | `baseUrl`, `url`, `base_url` | an error |
| mode | `mode` | `standard` |
| driver parameters | `driverParameters`, `driver_parameters` | none |
| think time | `thinkTimeSettings`, `think_time_settings` | off |
| hub path | `hubPath`, `hub_path` | `/hub/v4/g4/notifications` |
| event target | `eventTarget`, `event_target` | `ReceiveRecordingEvent` |
| reconnect delay | `reconnectDelay`, `reconnect_delay` | `5.0` seconds |
-/

import Recorder.Json.Basic
import Recorder.Schema.Scalar

namespace Recorder

/-- How interactions become actions. -/
inductive CaptureMode where
  /-- Elements are addressed by locator. -/
  | standard
  /-- Elements are addressed by locator, input goes through the operating system. -/
  | user32
  /-- Clicks are addressed by position. -/
  | coordinate
deriving DecidableEq, Repr

/-- Bounds in milliseconds for pauses put between actions.  Source: `ThinkTimeSettings`. -/
structure ThinkTime where
  enabled : Bool := false
  least : Nat := 0
  most : Nat := 0
deriving DecidableEq, Repr

/-- A recorder endpoint.  Source: `ConnectionOptions`. -/
structure Endpoint where
  baseUrl : String
  mode : CaptureMode := .standard
  driverParameters : Fields := []
  thinkTime : ThinkTime := {}
  hubPath : String := "/hub/v4/g4/notifications"
  eventTarget : String := "ReceiveRecordingEvent"
  /-- Seconds; above zero. -/
  reconnectDelay : Double := .ofDecimal false 5 0
deriving Repr

namespace CaptureMode

def name : CaptureMode → String
  | .standard => "standard"
  | .user32 => "user32"
  | .coordinate => "coordinate"

def ofName? (s : String) : Option CaptureMode :=
  if s = "standard" then some .standard
  else if s = "user32" then some .user32
  else if s = "coordinate" then some .coordinate
  else none

@[simp] theorem ofName?_name (m : CaptureMode) : ofName? m.name = some m := by
  cases m <;> rfl

def check : Json → Checked CaptureMode
  | .str s => match ofName? s with
    | some m => .ok m
    | none => .fail .literal
  | _ => .fail .literal

end CaptureMode

namespace ThinkTime

/-- A count of milliseconds: a whole number that is not negative. -/
def checkMilliseconds (v : Json) : Checked Nat :=
  ((Scalar.checked Scalar.int v).ensure (0 ≤ ·) .greaterThanEqual).map Int.toNat

/-- The name under which each setting was given. -/
def namesRead (fs : Fields) : List String :=
  [["enabled"], ["minThinkTime", "min_think_time"], ["maxThinkTime", "max_think_time"]].filterMap
    fun names => (fs.firstOf? names).map Prod.fst

/-- A violation for every name that was not read as a setting. -/
def checkExtras (fs : Fields) : Checked Unit :=
  let extras := (Entries.keys fs).filter fun k => !(namesRead fs).contains k
  if extras.isEmpty then .ok ()
  else .error (extras.map fun k => ⟨[.field k], .extraForbidden⟩)

/-- **Checking think-time settings.**  Unknown names are violations. -/
def check : Json → Checked ThinkTime
  | .obj fs =>
    ((Fields.read fs ["enabled"] (Scalar.checked Scalar.bool) (.ok false)).and <|
      (Fields.read fs ["minThinkTime", "min_think_time"] checkMilliseconds (.ok 0)).and <|
      (Fields.read fs ["maxThinkTime", "max_think_time"] checkMilliseconds (.ok 0)).and <|
      checkExtras fs).map
      fun (e, l, m, _) => ⟨e, l, m⟩
  | _ => .fail .modelType

def toJson (t : ThinkTime) : Json :=
  .obj [("enabled", .bool t.enabled), ("minThinkTime", .int t.least), ("maxThinkTime", .int t.most)]

end ThinkTime

namespace Endpoint

/-- The spellings of the base URL, in order of precedence. -/
def urlNames : List String := ["baseUrl", "url", "base_url"]

def checkText (v : Json) : Checked String := Scalar.checked Scalar.text v

def checkParameters : Json → Checked Fields
  | .obj fs => .ok fs
  | _ => .fail .dictType

/-- A delay: a number above zero. -/
def checkDelay (v : Json) : Checked Double :=
  (Scalar.checked Scalar.float v).ensure Double.isPositive .greaterThan

/-- The settings that an endpoint has when nothing but its address is given. -/
def ofUrl (url : String) : Endpoint := { baseUrl := url }

/-- **Checking an endpoint.**  Unknown names are ignored. -/
def check : Json → Checked Endpoint
  | .obj fs =>
    let absent := ofUrl ""
    ((Fields.read fs urlNames checkText (.missing "baseUrl")).and <|
      (Fields.read fs ["mode"] CaptureMode.check (.ok absent.mode)).and <|
      (Fields.read fs ["driverParameters", "driver_parameters"] checkParameters
        (.ok absent.driverParameters)).and <|
      (Fields.read fs ["thinkTimeSettings", "think_time_settings"] ThinkTime.check
        (.ok absent.thinkTime)).and <|
      (Fields.read fs ["hubPath", "hub_path"] checkText (.ok absent.hubPath)).and <|
      (Fields.read fs ["eventTarget", "event_target"] checkText (.ok absent.eventTarget)).and <|
      Fields.read fs ["reconnectDelay", "reconnect_delay"] checkDelay
        (.ok absent.reconnectDelay)).map
      fun (url, mode, params, think, hub, target, delay) =>
        ⟨url, mode, params, think, hub, target, delay⟩
  | _ => .fail .modelType

/-- **The saved form of an endpoint:** every setting under its first name.
Numbers that are not finite become null inside the driver parameters. -/
def toJson (e : Endpoint) : Json :=
  .obj [("baseUrl", .str e.baseUrl), ("mode", .str e.mode.name),
    ("driverParameters", .obj (Json.finiteFields e.driverParameters)),
    ("thinkTimeSettings", e.thinkTime.toJson), ("hubPath", .str e.hubPath),
    ("eventTarget", .str e.eventTarget), ("reconnectDelay", .float e.reconnectDelay)]

/-- **Saving an endpoint,** which takes driver parameters that are not too deep. -/
def save (e : Endpoint) : Except TooDeep Json :=
  if e.driverParameters.isShallow then .ok e.toJson else .error {}

end Endpoint
end Recorder
