/-
# Machine runs

`SPEC_FULL.md` §4, `segment`.

The merged timeline is cut where the machine changes.  A machine that comes back
after another one opens a new group; groups are numbered from one.
-/

import Recorder.Endpoint.Options
import Recorder.Timeline.Interaction

namespace Recorder

/-- Interactions of one machine in a row. -/
structure Group where
  id : Nat
  machine : String
  /-- The endpoint that recorded the first interaction. -/
  origin : Option String
  events : List Interaction
  /-- The think-time settings it was compiled with, once it was. -/
  thinkTime : Option ThinkTime := none
deriving DecidableEq, Repr

namespace Group

/-- Two interactions of one machine. -/
def sameMachine (a b : Interaction) : Bool := a.machine == b.machine

/-- The runs of interactions of one machine. -/
def runs (timeline : List Interaction) : List (List Interaction) := timeline.splitBy sameMachine

/-- The group of a run. -/
def ofRun (id : Nat) : List Interaction → Option Group
  | [] => none
  | i :: is => some { id, machine := i.machine, origin := i.origin, events := i :: is }

/-- Groups numbered from `id` on. -/
def ofRunsFrom (id : Nat) : List (List Interaction) → List Group
  | [] => []
  | r :: rs => (ofRun id r).toList ++ ofRunsFrom (id + 1) rs

/-- **Cutting the timeline** into machine runs.
Source: `segment`. -/
def segment (timeline : List Interaction) : List Group := ofRunsFrom 1 (runs timeline)

/-- The timestamps of the interactions, in order. -/
def timestamps (g : Group) : List Int := g.events.map Interaction.timestamp

end Group
end Recorder
