/-
# Merging is a stable sort

`SPEC_FULL.md` §4, `merge`: each snapshot event is normalized, tagged with its base URL, and
sorted stably by timestamp.

The merged timeline holds the surviving events of all buffers, each with the endpoint
whose buffer it was in, and nothing else.  It is in order of time, and what happened at one
moment stays in the order of the endpoints and, within one, of arrival
(`Snapshots.merge_stable`).  An event whose text says `down` is a press whatever else it
says (`Phase.ofText_of_down`), so the timeline never has one that has been read.
-/

import Recorder.Proofs.Event.RoundTrip
import Recorder.Proofs.Text.Occurrence
import Recorder.Proofs.Timeline.Sources

namespace Recorder

/-- **Sorting by a key keeps the order** of what has the same key, which is what it means for
a sort to be stable.  It is stated for one key at a time, as a filter before and after. -/
theorem filter_mergeSort_key {α : Type} (key : α → Int) (l : List α) (t : Int) :
    (l.mergeSort fun a b => decide (key a ≤ key b)).filter (fun a => key a = t) =
      l.filter fun a => key a = t := by
  have hpair : (l.filter fun a => key a = t).Pairwise fun a b => decide (key a ≤ key b) = true := by
    refine List.pairwise_of_forall_mem_list fun a ha b hb => ?_
    have hat : key a = t := by simpa using (List.mem_filter.1 ha).2
    have hbt : key b = t := by simpa using (List.mem_filter.1 hb).2
    exact decide_eq_true (Int.le_of_eq (hat.trans hbt.symm))
  have hsub := (List.sublist_mergeSort (keyLe_trans key) (keyLe_total key) hpair
    List.filter_sublist).filter fun a => decide (key a = t)
  rw [List.filter_filter, funext fun a => Bool.and_self (decide (key a = t))] at hsub
  exact (hsub.eq_of_length ((List.mergeSort_perm l _).filter _).length_eq.symm).symm

/-! ## Presses -/

/-- **A text that says `down`,** in capitals or not, is that of a press, whatever else it
says. -/
theorem Phase.ofText_of_down {text : String} {word : List Char} (hword : word <:+: text.toList)
    (hdown : word.map Char.toLower = ['d', 'o', 'w', 'n']) : ofText text = some .down := by
  have hoccurs := Text.occursFolded_of_toLower hword
  rw [hdown] at hoccurs
  rw [ofText, if_pos hoccurs]

/-- **Whether an event survives,** in full: it is a release, there is an element in its path,
and its locator is off every recorder's surface (`SPEC_FULL.md` §2, `normalize`). -/
theorem Event.survives_iff {patterns : List String} {e : Event} :
    e.survives patterns = true ↔ e.phase = some .up ∧ e.chain.path ≠ [] ∧
      Surface.isRecorder patterns e.chain.locator = .ok false := by
  rw [survives]
  rcases Surface.isRecorder patterns e.chain.locator with _ | _ | _ <;> simp

namespace Snapshots

/-- **What is kept of the buffers,** in their order: the surviving events of one endpoint
after the other, each with its endpoint. -/
def kept (patterns : List String) (snapshots : Snapshots) : List Interaction :=
  snapshots.flatMap fun (url, es) =>
    (es.filter (·.survives patterns)).map fun e => .ofTagged (url, e)

/-- The interactions are those of the raw events that survive, endpoint by endpoint. -/
theorem map_ofTagged_filter_tagged (patterns : List String) (snapshots : Snapshots) :
    (snapshots.tagged.filter fun p => p.2.survives patterns).map Interaction.ofTagged =
      snapshots.kept patterns := by
  simp only [tagged, kept, List.filter_flatMap, List.map_flatMap, List.filter_map, List.map_map]
  rfl

/-- Every interaction comes from an event that survives. -/
theorem survives_of_mem_kept {patterns : List String} {snapshots : Snapshots} {i : Interaction}
    (h : i ∈ snapshots.kept patterns) : i.event.survives patterns = true := by
  rw [← map_ofTagged_filter_tagged] at h
  obtain ⟨p, hp, rfl⟩ := List.mem_map.1 h
  exact (List.mem_filter.1 hp).2

/-- **Merging is a stable sort of the surviving events.**  As long as all patterns can be
read there is a timeline.  It has what is kept of the buffers and nothing else, in order of
time, and what happened at one moment is in the order of the buffers.  No event that was
read with a text that says `down` is in it. -/
theorem merge_stable {patterns : List String} (h : Surface.Readable patterns)
    (snapshots : Snapshots) :
    ∃ timeline, merge patterns snapshots = .ok timeline ∧
      timeline.Perm (snapshots.kept patterns) ∧
      timeline.Pairwise (fun i j => i.timestamp ≤ j.timestamp) ∧
      (∀ t, timeline.filter (·.timestamp = t) =
        (snapshots.kept patterns).filter (·.timestamp = t)) ∧
      ∀ payload e word, Event.decode? payload = some e → word <:+: e.text.toList →
        word.map Char.toLower = ['d', 'o', 'w', 'n'] → ∀ i ∈ timeline, i.event ≠ e := by
  have hperm := List.mergeSort_perm (snapshots.kept patterns) notLater
  refine ⟨(snapshots.kept patterns).mergeSort notLater, ?_, hperm,
    pairwise_mergeSort_key Interaction.timestamp _,
    filter_mergeSort_key Interaction.timestamp _, ?_⟩
  · rw [merge_of_readable h, map_ofTagged_filter_tagged]
  · rintro payload e word hread hword hdown i hi rfl
    have hup := (Event.survives_iff.1 (survives_of_mem_kept (hperm.mem_iff.1 hi))).1
    rw [(Event.isRead_of_decode hread).phase, Phase.ofText_of_down hword hdown] at hup
    cases hup

/-- Two endpoints with events of one moment, a press, and an event on a tool bar. -/
def tied : Snapshots :=
  [("http://a", [.release 2 "A" (.key "b"), .release 1 "A" (.key "a"),
      { Event.release 2 "A" (.key "c") with text := "KeyDown", phase := some .down },
      .release 2 "A" (.key "d")]),
    ("http://b", [.release 2 "B" (.key "e"),
      { Event.release 2 "B" (.key "f") with chain := ⟨"//ToolBar", [{}]⟩ }])]

/-- The endpoint in front comes first, and each keeps the order of its buffer. -/
theorem merge_stable_tied : Surface.Readable ["toolbar"] ∧
    ∃ timeline, merge ["toolbar"] tied = .ok timeline ∧
      (timeline.filter (·.timestamp = 2)).map (fun i => (i.origin, i.event.gesture)) =
        [(some "http://a", .key "b"), (some "http://a", .key "d"),
          (some "http://b", .key "e")] := by
  have hread : Surface.Readable ["toolbar"] := by
    refine List.forall_mem_singleton.2 ?_
    have hok : (Pattern.read "toolbar").isOk = true := by decide +kernel
    cases hr : Pattern.read "toolbar" with
    | error e =>
      rw [hr] at hok
      cases hok
    | ok pattern => exact ⟨pattern, rfl⟩
  obtain ⟨timeline, hmerge, -, -, hstable, -⟩ := merge_stable hread tied
  have hkept : ((tied.kept ["toolbar"]).filter (·.timestamp = 2)).map
      (fun i => (i.origin, i.event.gesture)) =
        [(some "http://a", .key "b"), (some "http://a", .key "d"),
          (some "http://b", .key "e")] := by
    decide +kernel
  exact ⟨hread, timeline, hmerge, by rw [hstable, hkept]⟩

end Snapshots
end Recorder
