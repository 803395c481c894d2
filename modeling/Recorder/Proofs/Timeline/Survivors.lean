/-
# The events that make the timeline

`SPEC_FULL.md` §2, `normalize`: presses, untargeted events and the recorder's own surface
are rejected.

An event survives if it is a release off every recorder's surface, on an element
that was hit.  The merged timeline is made of the surviving events of all
endpoints and of nothing else: `Snapshots.collect_eq_ok` says so before the
events are ordered, `Snapshots.merge_eq_ok` after.
-/

import Recorder.Proofs.Outcome
import Recorder.Timeline.Merge

namespace Recorder

/-- **Whether an event confirms an interaction:** a release, off every recorder's
surface, on an element that was hit. -/
def Event.survives (patterns : List String) (e : Event) : Bool :=
  decide (e.phase = some .up) && !e.chain.path.isEmpty &&
    match Surface.isRecorder patterns e.chain.locator with
    | .ok onSurface => !onSurface
    | .error _ => false

/-- A release on a named element, with everything else as simple as it can be; examples are
made of these. -/
def Event.release (timestamp : Int) (machine : String) (gesture : Gesture) : Event :=
  { timestamp, machine, text := "up", phase := some .up
    chain := { locator := "//Edit", path := [{ name := some "Edit" }] }, gesture }

/-- A release on an element that was hit survives if no pattern is ignored. -/
@[simp] theorem Event.survives_release (timestamp : Int) (machine : String) (gesture : Gesture) :
    (release timestamp machine gesture).survives [] = true := by
  have hs : Surface.isRecorder [] "//Edit" = .ok false := by
    have : Text.occursFolded Surface.hostTitle "//Edit".toList = false := by decide +kernel
    rw [Surface.isRecorder, this]
    rfl
  simp [survives, release, hs]

/-- Orders events by time, as the timeline orders interactions. -/
def Event.notLater (a b : Event) : Bool := a.timestamp ≤ b.timestamp

/-- The interaction of a surviving event, recorded by an endpoint.  It is made of any event,
but means something for survivors only. -/
def Interaction.ofTagged (p : String × Event) : Interaction :=
  { event := p.2
    bounds := (p.2.chain.trigger?.bind UiNode.bounds).getD {}
    origin := some p.1 }

/-- An interaction keeps the event that it was made of. -/
@[simp] theorem Interaction.event_ofTagged (p : String × Event) : (ofTagged p).event = p.2 := rfl

/-- A release on an element gives its interaction, one on nothing gives none. -/
theorem Interaction.ofRelease?_eq (url : String) (e : Event) :
    (ofRelease? e).map (fun i => { i with origin := some url }) =
      if e.chain.path.isEmpty then none else some (ofTagged (url, e)) := by
  unfold ofRelease? UiChain.trigger?
  cases hp : e.chain.path with
  | nil => rfl
  | cons n ns =>
    obtain ⟨m, hm⟩ : ∃ m, (n :: ns).getLast? = some m :=
      ⟨_, List.getLast?_eq_some_getLast (List.cons_ne_nil n ns)⟩
    simp [ofTagged, UiChain.trigger?, hp, hm]

/-- **An event is kept just if it survives,** and then its interaction is that of the event
with its base URL.  A pattern that cannot be read is the only way to fail. -/
theorem Interaction.ofEvent?_eq_ok {patterns : List String} {e : Event} {kept : Option Interaction}
    (h : ofEvent? patterns e = .ok kept) (url : String) :
    kept.map (fun i => { i with origin := some url }) =
      if e.survives patterns then some (ofTagged (url, e)) else none := by
  unfold ofEvent? at h
  split at h
  · rename_i hup
    obtain ⟨onSurface, hs, hk⟩ := Outcome.bind_eq_ok.1 h
    cases onSurface with
    | true =>
      obtain rfl : none = kept := by simpa using hk
      simp [Event.survives, hs]
    | false =>
      obtain rfl : ofRelease? e = kept := by simpa using hk
      rw [ofRelease?_eq]
      by_cases hp : e.chain.path.isEmpty <;> simp [Event.survives, hup, hs, hp]
  · rename_i hup
    obtain rfl := Except.ok.inj h
    simp [Event.survives, hup]

/-! ## Patterns that can be read -/

/-- None of the patterns is malformed, so every locator can be compared with all of them. -/
def Surface.Readable (patterns : List String) : Prop :=
  ∀ p ∈ patterns, ∃ pattern, Pattern.read p = .ok pattern

theorem Surface.readable_nil : Readable [] := List.forall_mem_nil _

/-- Patterns that can be read decide every locator. -/
theorem Surface.exists_matchesAny {patterns : List String} (h : Readable patterns)
    (locator : String) : ∃ b, matchesAny locator patterns = .ok b := by
  induction patterns with
  | nil => exact ⟨false, rfl⟩
  | cons p ps ih =>
    obtain ⟨⟨pattern, hp⟩, hps⟩ := List.forall_mem_cons.1 h
    simp only [matchesAny, hp]
    split
    · exact ⟨true, rfl⟩
    · exact ih hps

/-- **No event fails** as long as all patterns can be read: whether a pattern is found in a
locator is then always known. -/
theorem Interaction.exists_ofEvent? {patterns : List String} (h : Surface.Readable patterns)
    (e : Event) : ∃ kept, ofEvent? patterns e = .ok kept := by
  obtain ⟨b, hb⟩ : ∃ b, Surface.isRecorder patterns e.chain.locator = .ok b := by
    unfold Surface.isRecorder
    split
    · exact ⟨true, rfl⟩
    · exact Surface.exists_matchesAny h e.chain.locator
  unfold ofEvent?
  split
  · cases b with
    | true => exact ⟨none, by simp [hb]⟩
    | false => exact ⟨ofRelease? e, by simp [hb]⟩
  · exact ⟨none, rfl⟩

namespace Snapshots

variable {patterns : List String}

/-- **The interactions of an endpoint** are its events that survive, in their order, each with
the base URL. -/
theorem interactions_eq_ok {url : String} {es : List Event} {is : List Interaction}
    (h : interactions patterns url es = .ok is) :
    is = ((es.map (url, ·)).filter fun p => p.2.survives patterns).map Interaction.ofTagged := by
  induction es generalizing is with
  | nil => obtain rfl := Except.ok.inj h; rfl
  | cons e es ih =>
    obtain ⟨kept, hk, h⟩ := Outcome.bind_eq_ok.1 h
    obtain ⟨rest, hr, h⟩ := Outcome.bind_eq_ok.1 h
    have hkept := Interaction.ofEvent?_eq_ok hk url
    have hrest := ih hr
    cases kept with
    | none =>
      obtain rfl := Except.ok.inj h
      by_cases hs : e.survives patterns
      · simp [hs] at hkept
      · simpa [hs] using hrest
    | some i =>
      obtain rfl := Except.ok.inj h
      by_cases hs : e.survives patterns
      · simp only [Option.map_some, hs, ↓reduceIte, Option.some.injEq] at hkept
        simp [hs, hkept, hrest]
      · simp [hs] at hkept

/-- **What is collected:** the surviving events of all endpoints, each with the
endpoint that recorded it, one endpoint after the other. -/
theorem collect_eq_ok {snapshots : Snapshots} {is : List Interaction}
    (h : collect patterns snapshots = .ok is) :
    is = (snapshots.tagged.filter fun p => p.2.survives patterns).map Interaction.ofTagged := by
  induction snapshots generalizing is with
  | nil => obtain rfl := Except.ok.inj h; rfl
  | cons s rest ih =>
    obtain ⟨url, es⟩ := s
    obtain ⟨here, hh, h⟩ := Outcome.bind_eq_ok.1 h
    obtain ⟨there, ht, h⟩ := Outcome.bind_eq_ok.1 h
    obtain rfl := Except.ok.inj h
    simp [tagged, interactions_eq_ok hh, ih ht]

/-- **The merged timeline** is what is collected, ordered by time in a stable way; whoever has
a timeline at hand starts from here. -/
theorem merge_eq_ok {snapshots : Snapshots} {timeline : List Interaction}
    (h : merge patterns snapshots = .ok timeline) :
    timeline = ((snapshots.tagged.filter fun p => p.2.survives patterns).map
      Interaction.ofTagged).mergeSort notLater := by
  obtain ⟨is, hc, rfl⟩ := Outcome.map_eq_ok.1 h
  rw [collect_eq_ok hc]

/-- Patterns that can be read never stop the collecting, whatever locators were recorded. -/
theorem exists_interactions (h : Surface.Readable patterns) (url : String) (es : List Event) :
    ∃ is, interactions patterns url es = .ok is := by
  induction es with
  | nil => exact ⟨[], rfl⟩
  | cons e es ih =>
    obtain ⟨rest, hr⟩ := ih
    obtain ⟨kept, hk⟩ := Interaction.exists_ofEvent? h e
    cases kept with
    | none => exact ⟨rest, by simp [interactions, hk, hr]⟩
    | some i => exact ⟨{ i with origin := some url } :: rest, by simp [interactions, hk, hr]⟩

/-- Patterns that can be read give the interactions of all endpoints, whatever was recorded. -/
theorem exists_collect (h : Surface.Readable patterns) (snapshots : Snapshots) :
    ∃ is, collect patterns snapshots = .ok is := by
  induction snapshots with
  | nil => exact ⟨[], rfl⟩
  | cons s rest ih =>
    obtain ⟨there, ht⟩ := ih
    obtain ⟨here, hh⟩ := exists_interactions h s.1 s.2
    exact ⟨here ++ there, by simp [collect, hh, ht]⟩

/-- **Merging never fails** as long as all patterns can be read, and then the timeline is the
surviving events of all buffers in a row, sorted by their timestamps and otherwise left in
order. -/
theorem merge_of_readable (h : Surface.Readable patterns) (snapshots : Snapshots) :
    merge patterns snapshots = .ok (((snapshots.tagged.filter fun p => p.2.survives patterns).map
      Interaction.ofTagged).mergeSort notLater) := by
  obtain ⟨is, hc⟩ := exists_collect h snapshots
  have hm : merge patterns snapshots = .ok (is.mergeSort notLater) := by
    simp [merge, hc, Except.map]
  rw [hm, merge_eq_ok hm]

/-- **Without patterns merging never fails,** as the recorder's own surface is told by a fixed
title, and there is no pattern that could be none. -/
theorem merge_nil (snapshots : Snapshots) :
    merge [] snapshots = .ok (((snapshots.tagged.filter fun p => p.2.survives []).map
      Interaction.ofTagged).mergeSort notLater) :=
  merge_of_readable Surface.readable_nil snapshots

/-- All buffered events, one endpoint after the other. -/
def events (snapshots : Snapshots) : List Event := snapshots.flatMap Prod.snd

theorem map_snd_tagged (snapshots : Snapshots) :
    snapshots.tagged.map Prod.snd = snapshots.events := by
  simp [tagged, events, List.map_flatMap, Function.comp_def]

/-- The surviving events of all endpoints, in a stable order of time: the specification of
what a document is about. -/
def survivors (patterns : List String) (snapshots : Snapshots) : List Event :=
  (snapshots.events.filter (·.survives patterns)).mergeSort Event.notLater

@[simp] theorem mem_survivors {snapshots : Snapshots} {e : Event} :
    e ∈ snapshots.survivors patterns ↔ e ∈ snapshots.events ∧ e.survives patterns := by
  rw [survivors, List.mem_mergeSort, List.mem_filter]

/-- **The events of the merged timeline are the survivors,** each of them once and in the same
order. -/
theorem map_event_merge {snapshots : Snapshots} {timeline : List Interaction}
    (h : merge patterns snapshots = .ok timeline) :
    timeline.map Interaction.event = snapshots.survivors patterns := by
  have horder : ∀ a b, notLater a b = Event.notLater a.event b.event := fun _ _ => rfl
  rw [merge_eq_ok h, List.map_mergeSort fun a _ b _ => horder a b, survivors, ← map_snd_tagged,
    List.filter_map, List.map_map]
  rfl

end Snapshots
end Recorder
