/-
# Think time

`SPEC_FULL.md` §5: `apply_think_time` and `think_time_rule`.

Between two rules with timestamps more than a least gap apart stands a pause of
that gap, capped.  A rule without a timestamp has no pause on either side.
Timestamps are compared as whole numbers, but both must lie in the range of
binary64 numbers, and so must the seconds of the pause.
-/

import Recorder.Automation.Rule

namespace Recorder

/-- A number outside the range of binary64 numbers. -/
inductive PauseError where
  | timestamp (t : Int)
  /-- A pause of that many milliseconds. -/
  | duration (d : Int)
deriving DecidableEq, Repr

namespace PauseError

/-- The complaint about a whole number that is out of range. -/
def rangeMessage : String := "int too large to convert to float"

def message : PauseError → String
  | .timestamp _ => rangeMessage
  | .duration _ => "integer division result too large for a float"

end PauseError

namespace Pause

/-- Milliseconds in seconds. -/
def seconds (duration : Int) : Double := Double.ofRatio (duration < 0) duration.natAbs 1000

/-- **A pause** of a number of milliseconds.
Source: `think_time_rule`. -/
def rule (duration : Int) : Rule :=
  { plugin := .wait
    parameters := some [("Timeout", .int duration)]
    displayName := some ("Think Time (" ++ (seconds duration).twoPlaces ++ " seconds)") }

/-- A timestamp that has a binary64 number nearby. -/
def inRange (t : Int) : Except PauseError Unit :=
  if (Double.ofInt? t).isSome then .ok () else .error (.timestamp t)

/-- The pause of a number of milliseconds, if it can be shown. -/
def ofDuration (duration : Int) : Except PauseError Rule :=
  if (seconds duration).isFinite then .ok (rule duration) else .error (.duration duration)

/-- The pause between two rules, if there is one. -/
def between (least most : Int) (r s : Rule) : Except PauseError (Option Rule) :=
  match r.timestamp, s.timestamp with
  | some t, some u => do
    inRange t
    inRange u
    if least < u - t then (ofDuration (min (u - t) most)).map some else .ok none
  | _, _ => .ok none

/-- **Putting pauses between rules.**
Source: `apply_think_time`. -/
def insert (least most : Int) : List Rule → Except PauseError (List Rule)
  | [] => .ok []
  | [r] => .ok [r]
  | r :: s :: rest => do
    let pause ← between least most r s
    let tail ← insert least most (s :: rest)
    .ok (r :: pause.toList ++ tail)

end Pause
end Recorder
