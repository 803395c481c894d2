/-
# The earliest source and the raw timeline

`SPEC_FULL.md` §4, `earliest_source`: ties resolve to the first snapshot in mapping order.

The endpoint of the earliest event is found by one scan over all buffers.  It is the
endpoint of the first event of the raw timeline, which has all events of all buffers in
order of time (`Snapshots.earliestSource_rawTimeline`):

| events | the earliest source |
| --- | --- |
| some | the first buffer, in the order of the endpoints, that attains the least timestamp |
| none, and a single endpoint | that endpoint |
| none otherwise | there is none |
-/

import Recorder.Proofs.Timeline.Sources

namespace Recorder
namespace Snapshots

variable {snapshots : Snapshots}

/-- **The raw timeline:** every buffered event with its endpoint, in order of time.  What
happened at one moment stays in the order of the endpoints and, within one, of arrival. -/
def rawTimeline (snapshots : Snapshots) : List (String × Event) :=
  snapshots.tagged.mergeSort fun p q => decide (time p ≤ time q)

/-- **The first buffer to attain the least timestamp** does so with an event that comes before
all events of the buffers in front, and after no event of its own buffer and those behind. -/
def Attains (snapshots : Snapshots) (p : String × Event) : Prop :=
  ∃ before es after, snapshots = before ++ (p.1, es) :: after ∧ p.2 ∈ es ∧
    (∀ d ∈ before, ∀ e ∈ d.2, p.2.timestamp < e.timestamp) ∧
    (∀ e ∈ es, p.2.timestamp ≤ e.timestamp) ∧
    ∀ d ∈ after, ∀ e ∈ d.2, p.2.timestamp ≤ e.timestamp

/-- There are no events just if all buffers are empty. -/
theorem tagged_eq_nil_iff : snapshots.tagged = [] ↔ ∀ d ∈ snapshots, d.2 = [] := by
  rw [tagged, List.flatMap_eq_nil_iff]
  exact forall₂_congr fun _ _ => List.map_eq_nil_iff

/-- Tagging one more buffer puts its events in front. -/
theorem tagged_cons (url : String) (es : List Event) (rest : Snapshots) :
    tagged ((url, es) :: rest) = es.map (url, ·) ++ rest.tagged := List.flatMap_cons

/-- **The first of all events** is in the first buffer to attain the least timestamp.  The
induction is on the buffers: an event is the first in a row of buffers if it is so in its own
and none before it is as early. -/
theorem attains_of_isFirst {p : String × Event} (h : IsFirst time snapshots.tagged p) :
    snapshots.Attains p := by
  induction snapshots with
  | nil => exact absurd h.mem List.not_mem_nil
  | cons d rest ih =>
    obtain ⟨url, es⟩ := d
    rw [tagged_cons, IsFirst.append_iff] at h
    rcases h with ⟨hown, hrest⟩ | ⟨hrest, hown⟩
    · -- It is an event of the buffer in front.
      obtain ⟨e, he, rfl⟩ := List.mem_map.1 hown.mem
      refine ⟨[], es, rest, rfl, he, List.forall_mem_nil _, fun e' he' => ?_, fun d hd e' he' => ?_⟩
      · exact hown.le (List.mem_map_of_mem he')
      · exact hrest (d.1, e') (mem_tagged.2 ⟨d, hd, rfl, he'⟩)
    · -- It is an event of a buffer behind, and earlier than all of this one.
      obtain ⟨before, es', after, rfl, hmem, hbefore, hsame, hafter⟩ := ih hrest
      refine ⟨(url, es) :: before, es', after, rfl, hmem, List.forall_mem_cons.2 ⟨?_, hbefore⟩,
        hsame, hafter⟩
      exact fun e he => hown (url, e) (List.mem_map_of_mem he)

/-- Without events only a single endpoint is a source. -/
theorem earliestSource_eq_some_iff_of_tagged (h : snapshots.tagged = []) (url : String) :
    snapshots.earliestSource = some url ↔ snapshots.keys = [url] := by
  unfold earliestSource
  split
  · rw [Entries.keys, List.map_singleton, List.singleton_inj, Option.some.injEq]
  · rename_i hmany
    rw [h]
    refine iff_of_false (fun hsome => by cases hsome) fun hkeys => ?_
    obtain ⟨⟨url', es⟩, rfl, -⟩ := List.map_eq_singleton_iff.1 hkeys
    exact hmany url' es rfl

/-- **The earliest source and the raw timeline.**  If an event is buffered, the earliest source
is the endpoint of the first event of the raw timeline, and its buffer is the first one that
attains the least timestamp.  If none is, a single endpoint is the earliest source, and there
is none if there are several endpoints or no endpoint. -/
theorem earliestSource_rawTimeline (snapshots : Snapshots) :
    ((∃ d ∈ snapshots, d.2 ≠ []) → ∃ p rest, snapshots.rawTimeline = p :: rest ∧
      snapshots.earliestSource = some p.1 ∧ snapshots.Attains p) ∧
    ((∀ d ∈ snapshots, d.2 = []) → ∀ url,
      snapshots.earliestSource = some url ↔ snapshots.keys = [url]) := by
  refine ⟨fun hsome => ?_, fun hnone =>
    earliestSource_eq_some_iff_of_tagged (tagged_eq_nil_iff.2 hnone)⟩
  cases hsorted : snapshots.rawTimeline with
  | nil =>
    -- Sorting loses no event.
    obtain ⟨d, hd, hne⟩ := hsome
    have hperm : snapshots.rawTimeline.Perm snapshots.tagged := List.mergeSort_perm _ _
    rw [hsorted] at hperm
    exact absurd (tagged_eq_nil_iff.1 hperm.nil_eq.symm d hd) hne
  | cons p rest =>
    have hfirst : IsFirst time snapshots.tagged p := IsFirst.of_mergeSort hsorted
    exact ⟨p, rest, rfl, earliestSource_of_isFirst hfirst, attains_of_isFirst hfirst⟩

/-- Buffers without events in front and between, and a least timestamp that is attained twice
in one buffer and once more behind it. -/
def scattered : Snapshots :=
  [("http://a", []), ("http://b", [.release 5 "B" (.key "x"), .release (-3) "B" (.key "y"),
      .release (-3) "B" (.key "z")]),
    ("http://c", []), ("http://d", [.release (-3) "D" (.key "w")])]

/-- The buffer in front is the source, by the first of its earliest events. -/
theorem earliestSource_rawTimeline_scattered : (∃ d ∈ scattered, d.2 ≠ []) ∧
    ∃ p rest, scattered.rawTimeline = p :: rest ∧ p.1 = "http://b" ∧ scattered.Attains p := by
  have hsome : ∃ d ∈ scattered, d.2 ≠ [] :=
    ⟨_, List.mem_cons_of_mem _ List.mem_cons_self, List.cons_ne_nil _ _⟩
  obtain ⟨p, rest, hsorted, hsource, hattains⟩ := (earliestSource_rawTimeline scattered).1 hsome
  have hurl : scattered.earliestSource = some "http://b" := by decide +kernel
  exact ⟨hsome, p, rest, hsorted, Option.some.inj (hsource.symm.trans hurl), hattains⟩

end Snapshots
end Recorder
