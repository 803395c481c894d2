/-
# The timeline without unknown elements

`SPEC_FULL.md` §4, `merge` and `segment`, for events that went through `encode_event`.

Elements of which nothing is known are lost when an event is written and read back.
The timeline does not depend on them as long as no path consists of nothing else
(`Event.HasKnownPath`): the same events survive, in the same order, from the same
endpoints, and they are cut into the same groups.
-/

import Recorder.Proofs.Event.RoundTrip
import Recorder.Proofs.Timeline.Segmentation
import Recorder.Proofs.Timeline.Survivors

namespace Recorder

/-- Something is known of an element of the path, if there is a path.  Without this a path can
be lost altogether, and with it the event. -/
def Event.HasKnownPath (e : Event) : Prop := e.chain.path = [] ∨ ∃ n ∈ e.chain.path, n ≠ {}

/-- **Whether an event survives** does not depend on elements of which nothing is known,
unless there are no others. -/
theorem Event.survives_known {e : Event} (h : e.HasKnownPath) (patterns : List String) :
    e.known.survives patterns = e.survives patterns := by
  have hp : (e.chain.path.filter (· ≠ {})).isEmpty = e.chain.path.isEmpty := by
    rcases h with h | ⟨n, hn, hne⟩
    · rw [h]
      rfl
    · rw [Bool.eq_iff_iff, List.isEmpty_iff, List.isEmpty_iff, List.filter_eq_nil_iff]
      refine ⟨fun hall => absurd (decide_eq_true hne) (hall n hn), fun hnil => ?_⟩
      rw [hnil] at hn
      cases hn
  unfold survives
  rw [← hp]
  rfl

/-- The interaction of the event that is read back, from the same endpoint. -/
def Interaction.known (i : Interaction) : Interaction :=
  { i with
    event := i.event.known
    bounds := (i.event.known.chain.trigger?.bind UiNode.bounds).getD {} }

namespace Snapshots

/-- Snapshots whose events have been written and read back. -/
def known (snapshots : Snapshots) : Snapshots := snapshots.map fun p => (p.1, p.2.map Event.known)

/-- The raw timeline of known events has the same events in the same places, each with its
known path. -/
theorem tagged_known (snapshots : Snapshots) :
    snapshots.known.tagged = snapshots.tagged.map fun p => (p.1, p.2.known) := by
  simp [tagged, known, List.flatMap_map, List.map_flatMap, Function.comp_def]

/-- **The merged timeline of events that have been read back** is the one of before, event by
event.  In particular the same events survive. -/
theorem merge_known {snapshots : Snapshots} (h : ∀ e ∈ snapshots.events, e.HasKnownPath)
    {timeline : List Interaction} (hm : merge [] snapshots = .ok timeline) :
    merge [] snapshots.known = .ok (timeline.map Interaction.known) := by
  have hf : (snapshots.known.tagged.filter fun p => p.2.survives []) =
      (snapshots.tagged.filter fun p => p.2.survives []).map fun p => (p.1, p.2.known) := by
    rw [tagged_known, List.filter_map]
    congr 1
    refine List.filter_congr fun p hp => ?_
    have he : p.2 ∈ snapshots.events := by
      rw [← map_snd_tagged]
      exact List.mem_map.2 ⟨p, hp, rfl⟩
    exact Event.survives_known (h p.2 he) []
  have hl : ∀ a b : Interaction, notLater a b = notLater a.known b.known := fun _ _ => rfl
  rw [merge_nil, hf, List.map_map, merge_eq_ok hm, List.map_mergeSort fun a _ b _ => hl a b,
    List.map_map]
  rfl

/-- **The earliest source is the same,** because writing and reading back keeps timestamps,
and no buffer loses an event or changes its place. -/
theorem earliestSource_known (snapshots : Snapshots) :
    snapshots.known.earliestSource = snapshots.earliestSource := by
  have ht : snapshots.known.tagged.foldl earlier none = snapshots.tagged.foldl earlier none := by
    rw [tagged_known, List.foldl_map]
    rfl
  match snapshots with
  | [] => rfl
  | [_] => rfl
  | _ :: _ :: _ => exact congrArg (Option.map Prod.fst) ht

end Snapshots

namespace Group

/-- A group whose interactions have been read back. -/
def known (g : Group) : Group := { g with events := g.events.map Interaction.known }

/-- **Cutting does not depend on what is lost,** because writing and reading back keeps
machines, and they alone tell where a group ends. -/
theorem segment_known (timeline : List Interaction) :
    segment (timeline.map Interaction.known) = (segment timeline).map known :=
  segment_map (f := Interaction.known) (fun _ => rfl) (fun _ => rfl) timeline

end Group
end Recorder
