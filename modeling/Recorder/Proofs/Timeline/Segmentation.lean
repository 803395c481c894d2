/-
# Cutting the timeline

`SPEC_FULL.md` §4, `segment`: group ids are sequential from one, and each group records the
endpoint of its first event.

Cutting loses nothing: the groups of a timeline, one after the other, hold its
interactions in order (`Group.flatMap_events_segment`), and only an empty timeline
has no groups.

What is done to interactions one by one can be done before or after the timeline is cut, as
long as it keeps their machines and their endpoints (`Group.segment_map`).
-/

import Mathlib.Data.List.SplitBy
import Recorder.Timeline.Group

namespace Recorder
namespace Group

/-- Numbering runs keeps what is in them. -/
theorem flatMap_events_ofRunsFrom (id : Nat) (rs : List (List Interaction)) :
    (ofRunsFrom id rs).flatMap Group.events = rs.flatten := by
  induction rs generalizing id with
  | nil => rfl
  | cons r rs ih =>
    rw [ofRunsFrom, List.flatMap_append, ih, List.flatten_cons]
    cases r <;> simp [ofRun]

/-- **Cutting loses nothing** and changes no order: the groups, put together again, are the
timeline. -/
theorem flatMap_events_segment (timeline : List Interaction) :
    (segment timeline).flatMap Group.events = timeline := by
  rw [segment, flatMap_events_ofRunsFrom, runs, List.flatten_splitBy]

/-- **Only an empty timeline has no groups,** so a recording with an event that survives has
something to compile. -/
@[simp] theorem segment_eq_nil {timeline : List Interaction} :
    segment timeline = [] ↔ timeline = [] := by
  refine ⟨fun h => ?_, fun h => by subst h; rfl⟩
  rw [← flatMap_events_segment timeline, h, List.flatMap_nil]

/-- **A group begins with an interaction** and has its machine and its origin, whatever comes
later in the group. -/
theorem exists_first_of_mem_ofRunsFrom {id : Nat} {rs : List (List Interaction)} {g : Group}
    (h : g ∈ ofRunsFrom id rs) :
    ∃ i is, g.events = i :: is ∧ g.machine = i.machine ∧ g.origin = i.origin := by
  induction rs generalizing id with
  | nil => cases h
  | cons r rs ih =>
    rw [ofRunsFrom] at h
    rcases List.mem_append.1 h with h | h
    · cases r with
      | nil => cases h
      | cons i is =>
        obtain rfl := List.mem_singleton.1 h
        exact ⟨i, is, rfl, rfl, rfl⟩
    · exact ih h

/-- The first group begins where the timeline does. -/
theorem exists_segment_cons (i : Interaction) (is : List Interaction) :
    ∃ g gs, segment (i :: is) = g :: gs ∧ g.origin = i.origin := by
  have hflat := flatMap_events_segment (i :: is)
  cases hs : segment (i :: is) with
  | nil => exact absurd (segment_eq_nil.1 hs) (List.cons_ne_nil i is)
  | cons g gs =>
    have hg : g ∈ segment (i :: is) := hs ▸ List.mem_cons_self
    obtain ⟨j, js, hevents, -, horigin⟩ := exists_first_of_mem_ofRunsFrom hg
    rw [hs, List.flatMap_cons, hevents, List.cons_append] at hflat
    obtain ⟨rfl, -⟩ := List.cons.inj hflat
    exact ⟨g, gs, rfl, horigin⟩

/-! ## Changing interactions one by one -/

section Map

variable {f : Interaction → Interaction}

/-- The loop that cuts a list cuts a changed one at the same places, if the change keeps
machines. -/
theorem loop_map (hf : ∀ i, (f i).machine = i.machine) (l : List Interaction) (i : Interaction)
    (run : List Interaction) (done : List (List Interaction)) :
    List.splitBy.loop sameMachine (l.map f) (f i) (run.map f) (done.map (List.map f)) =
      (List.splitBy.loop sameMachine l i run done).map (List.map f) := by
  induction l generalizing i run done with
  | nil => simp [List.splitBy.loop]
  | cons j l ih =>
    have hs : sameMachine (f i) (f j) = sameMachine i j := by
      rw [sameMachine, sameMachine, hf, hf]
    rw [List.map_cons, List.splitBy.loop, List.splitBy.loop, hs]
    cases sameMachine i j with
    | true => exact ih j (i :: run) done
    | false =>
      have hd : ((f i :: run.map f).reverse :: done.map (List.map f)) =
          ((i :: run).reverse :: done).map (List.map f) := by simp
      rw [hd]
      exact ih j [] _

/-- A change that keeps the machines of interactions keeps where the timeline is cut. -/
theorem runs_map (hf : ∀ i, (f i).machine = i.machine) (timeline : List Interaction) :
    runs (timeline.map f) = (runs timeline).map (List.map f) := by
  cases timeline with
  | nil => rfl
  | cons i is => exact loop_map hf is i [] []

/-- **Changing interactions** changes the groups they are in and nothing else, as long as
it keeps machines and origins. -/
theorem segment_map (hm : ∀ i, (f i).machine = i.machine) (ho : ∀ i, (f i).origin = i.origin)
    (timeline : List Interaction) :
    segment (timeline.map f) =
      (segment timeline).map fun g => { g with events := g.events.map f } := by
  have hr (id : Nat) (rs : List (List Interaction)) : ofRunsFrom id (rs.map (List.map f)) =
      (ofRunsFrom id rs).map fun g => { g with events := g.events.map f } := by
    induction rs generalizing id with
    | nil => rfl
    | cons r rs ih =>
      rw [List.map_cons, ofRunsFrom, ofRunsFrom, ih, List.map_append]
      cases r with
      | nil => rfl
      | cons i is => simp [ofRun, hm, ho]
  rw [segment, segment, runs_map hm, hr]

end Map

end Group
end Recorder
