/-
# The merged timeline

`SPEC_FULL.md` §4: `take_snapshots`, `merge` and `earliest_source`.

Snapshots are the buffers of all endpoints at one moment, in the order of the
endpoints.  `Snapshots.merge` makes one timeline of the interactions in them,
ordered by timestamp; equal timestamps keep the order of the endpoints, and of
arrival within one.
-/

import Recorder.Entries
import Recorder.Timeline.Interaction

namespace Recorder

/-- The buffered events of every endpoint, by base URL. -/
abbrev Snapshots := Entries (List Event)

namespace Snapshots

/-- The interactions among the events of one endpoint. -/
def interactions (patterns : List String) (url : String) :
    List Event → Except PatternError (List Interaction)
  | [] => .ok []
  | e :: es => do
    let kept ← Interaction.ofEvent? patterns e
    let rest ← interactions patterns url es
    match kept with
    | some i => .ok ({ i with origin := some url } :: rest)
    | none => .ok rest

/-- The interactions of all endpoints, one endpoint after the other. -/
def collect (patterns : List String) : Snapshots → Except PatternError (List Interaction)
  | [] => .ok []
  | (url, es) :: rest => do
    let here ← interactions patterns url es
    let there ← collect patterns rest
    .ok (here ++ there)

/-- Orders interactions by time. -/
def notLater (a b : Interaction) : Bool := a.timestamp ≤ b.timestamp

/-- **The merged timeline.**
Source: `merge`. -/
def merge (patterns : List String) (snapshots : Snapshots) :
    Except PatternError (List Interaction) :=
  (collect patterns snapshots).map (·.mergeSort notLater)

/-- Every raw event with the endpoint that buffered it, one endpoint after the other. -/
def tagged (snapshots : Snapshots) : List (String × Event) :=
  snapshots.flatMap fun (url, es) => es.map (url, ·)

/-- The earlier of the best event so far and the next one; the first wins a tie. -/
def earlier (best : Option (String × Int)) (next : String × Event) : Option (String × Int) :=
  match best with
  | none => some (next.1, next.2.timestamp)
  | some (url, t) => if next.2.timestamp < t then some (next.1, next.2.timestamp) else some (url, t)

/-- **The endpoint of the earliest raw event.**  A single endpoint needs no event.
Source: `earliest_source`. -/
def earliestSource (snapshots : Snapshots) : Option String :=
  match snapshots with
  | [(url, _)] => some url
  | _ => (snapshots.tagged.foldl earlier none).map Prod.fst

end Snapshots
end Recorder
