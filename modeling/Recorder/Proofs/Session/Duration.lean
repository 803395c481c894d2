/-
# A replay waits no longer than the recording lasted

`SPEC_FULL.md` §5, `apply_think_time`, over all jobs of a document (§7).

The jobs of a document follow each other in time: their rules belong to moments of the
surviving events, in order.  The pauses of one job fit between the first and the last
moment of its group, and the groups do not overlap, so all pauses together fit between the
first and the last surviving event (`Session.waits_within_recording`).
-/

import Recorder.Proofs.Automation.Waits
import Recorder.Proofs.Session.Resolution

namespace Recorder

/-- The moments that the rules of a job belong to. -/
def Job.times (j : Job) : List Int := Rule.timesOf j.rules

/-- The milliseconds that the rules of a job wait for. -/
def Job.waits (j : Job) : List Int := Rule.waitsOf j.rules

/-- The moments of a timeline are sorted. -/
theorem Snapshots.pairwise_timestamps {patterns : List String} {snapshots : Snapshots}
    {timeline : List Interaction} (h : merge patterns snapshots = .ok timeline) :
    (timeline.map Interaction.timestamp).Pairwise (· ≤ ·) := by
  rw [merge_eq_ok h, List.pairwise_map]
  exact pairwise_mergeSort_key Interaction.timestamp _

namespace Session

variable {s : Session}

/-- **The jobs of groups follow the groups in time:** their rules belong to moments of the
timeline, in its order and over the borders between jobs. -/
theorem times_jobsOf_sublist {isFirst : Bool} {gs : List Group} {jobs : List Job}
    (h : s.jobsOf isFirst gs = .ok jobs) :
    (jobs.flatMap Job.times).Sublist (gs.flatMap Group.timestamps) := by
  induction gs generalizing isFirst jobs with
  | nil =>
    obtain rfl := Except.ok.inj h
    exact List.Sublist.refl []
  | cons g gs ih =>
    obtain ⟨job, rest, hjob, hrest, rfl⟩ := jobsOf_cons_eq_ok.1 h
    obtain ⟨compiled, hcompiled, hrules⟩ := rules_jobOf hjob
    rw [List.flatMap_cons, List.flatMap_cons, Job.times, hrules]
    exact (RuleCompiler.timesOf_compile_sublist hcompiled).append (ih hrest)

/-- **Jobs wait no longer in all** than their groups took, one after the other.  The time
between two groups is waited for by none of the jobs, so the sum stays below the time from the
first moment to the last. -/
theorem sum_waits_jobsOf {isFirst : Bool} {gs : List Group} {jobs : List Job}
    (h : s.jobsOf isFirst gs = .ok jobs) {first last : Int}
    (ho : InOrder first (gs.flatMap Group.timestamps) last) :
    (jobs.flatMap Job.waits).sum ≤ last - first := by
  induction gs generalizing isFirst jobs first with
  | nil =>
    obtain rfl := Except.ok.inj h
    exact Int.sub_nonneg_of_le ho.le
  | cons g gs ih =>
    obtain ⟨job, rest, hjob, hrest, rfl⟩ := jobsOf_cons_eq_ok.1 h
    obtain ⟨compiled, hcompiled, hrules⟩ := rules_jobOf hjob
    -- The group ends where the next one may begin.
    obtain ⟨middle, hgroup, hlater⟩ := InOrder.exists_of_append ho
    have hhere : job.waits.sum ≤ middle - first := by
      rw [Job.waits, hrules]
      exact RuleCompiler.sum_waits_compile hcompiled hgroup
    have hthere := ih hrest hlater
    rw [List.flatMap_cons, List.sum_append]
    omega

/-- **Every wait of a job** lies between zero and what the connection of its group allows,
whatever the other connections allow. -/
theorem waitsUpTo_jobOf {isFirst : Bool} {g : Group} {job : Job} {c : Connection}
    (hc : s.sourceOf g = some c) (h : s.jobOf isFirst g = .ok job) :
    ∀ r ∈ job.rules, r.WaitsUpTo c.endpoint.thinkTime.most := by
  have hsettings : (s.settled g).thinkTime = some c.endpoint.thinkTime := by
    rw [settled, hc]
    rfl
  obtain ⟨compiled, hcompiled, hrules⟩ := rules_jobOf h
  rw [hrules]
  exact RuleCompiler.waitsUpTo_compile hcompiled hsettings

/-- **A replay waits no longer than the recording lasted.**  The rules of a document belong
to moments in order of time.  Every wait of the job of a group lies between zero and what
the connection of the group allows.  All waits together are no longer than the time from
the first surviving event to the last one. -/
theorem waits_within_recording {a : Automation} {gs : List Group} {bs : Snapshots}
    (h : s.compile = .ok (.document a gs bs)) :
    (a.jobs.flatMap Job.times).Pairwise (· ≤ ·) ∧
    a.jobs.length = gs.length ∧
    (∀ (i : Nat) (g : Group), gs[i]? = some g → ∃ (job : Job) (c : Connection),
      a.jobs[i]? = some job ∧ s.sourceOf g = some c ∧ g.origin = some c.url ∧
        ∀ r ∈ job.rules, r.WaitsUpTo c.endpoint.thinkTime.most) ∧
    ∃ first last, (s.snapshots.survivors s.ignored).head? = some first ∧
      (s.snapshots.survivors s.ignored).getLast? = some last ∧
      (a.jobs.flatMap Job.waits).sum ≤ last.timestamp - first.timestamp := by
  obtain ⟨timeline, base, jobs, ht, hne, -, hjobs, ha, rfl, -⟩ := compile_eq_document h
  have hsorted := Snapshots.pairwise_timestamps ht
  have htimes : (Group.segment timeline).flatMap Group.timestamps =
      timeline.map Interaction.timestamp := by
    rw [← Group.flatMap_events_segment timeline, List.map_flatMap, Group.flatMap_events_segment]
    rfl
  obtain ⟨hlength, hget⟩ := getElem?_jobsOf hjobs
  rw [Automation.jobs_assemble ha]
  refine ⟨?_, by rw [hlength, List.length_map], fun i g hg => ?_, ?_⟩
  · exact hsorted.sublist (htimes ▸ times_jobsOf_sublist hjobs)
  · rw [List.getElem?_map] at hg
    obtain ⟨g, hi, rfl⟩ := Option.map_eq_some_iff.1 hg
    obtain ⟨c, -, hc, horigin⟩ := exists_sourceOf ht (List.mem_of_getElem? hi)
    obtain ⟨job, hjob, hjobOf⟩ := hget i g hi
    exact ⟨job, c, hjob, hc, horigin, waitsUpTo_jobOf hc hjobOf⟩
  -- The timeline has the moments of the survivors, so it begins and ends with theirs.
  · have hsurvivors := Snapshots.map_event_merge ht
    have hmoments : timeline.map Interaction.timestamp =
        (s.snapshots.survivors s.ignored).map Event.timestamp := by
      rw [← hsurvivors, List.map_map]
      rfl
    have hne' : s.snapshots.survivors s.ignored ≠ [] := by
      rw [← hsurvivors]
      exact fun hnil => hne (List.map_eq_nil_iff.1 hnil)
    have hfirst := List.head?_eq_some_head hne'
    have hlast := List.getLast?_eq_some_getLast hne'
    refine ⟨_, _, hfirst, hlast, sum_waits_jobsOf hjobs ?_⟩
    rw [htimes, hmoments]
    rw [hmoments] at hsorted
    exact InOrder.of_pairwise hsorted (by rw [List.head?_map, hfirst]; rfl)
      (by rw [List.getLast?_map, hlast]; rfl)

/-! ## Clicks with think time on two machines -/

/-- Where all events have timestamps in range, no pauses are out of it. -/
theorem not_overflows_of_inRange
    (hrange : ∀ c ∈ s.connections, ∀ e ∈ c.buffer, e.timestamp.natAbs < Double.rangeEnd)
    {timeline : List Interaction} (ht : s.snapshots.merge s.ignored = .ok timeline) {g : Group}
    (hg : g ∈ Group.segment timeline) : ¬ s.Overflows g := by
  intro hover
  obtain ⟨r, hr, hbeyond⟩ := hover.beyond
  refine hbeyond fun t hrt => ?_
  have htime : t ∈ Rule.timesOf (s.rulesOf g) := List.mem_filterMap.2 ⟨r, hr, hrt⟩
  obtain ⟨i, hi, rfl⟩ := List.mem_map.1
    ((RuleCompiler.timesOf_rulesAfter_sublist none g.events).subset htime)
  have hevent : i.event ∈ s.snapshots.survivors s.ignored := by
    rw [← Snapshots.map_event_merge ht, ← Group.flatMap_events_segment timeline]
    exact List.mem_map_of_mem (List.mem_flatMap.2 ⟨g, hg, hi⟩)
  obtain ⟨p, hp, he⟩ := List.mem_flatMap.1 (Snapshots.mem_survivors.1 hevent).1
  obtain ⟨c, hc, rfl⟩ := List.mem_map.1 hp
  exact hrange c hc i.event he

/-- An endpoint that asks for pauses of at most 300 milliseconds. -/
def paced : Endpoint :=
  { Endpoint.ofUrl "http://a" with thinkTime := { enabled := true, least := 50, most := 300 } }

/-- Clicks on a machine that comes back after a click on another one. -/
def pacedClicks : Session where
  connections := [
    { endpoint := paced, buffer := [clickAt 1000, clickAt 1650, clickAt 1800, clickAt 1900] },
    { endpoint := other, buffer := [clickOther 1700] }]
  ignored := ["Taskbar"]

/-- The events span less than a second. -/
theorem mem_events_pacedClicks : ∀ e ∈ pacedClicks.snapshots.events,
    1000 ≤ e.timestamp ∧ e.timestamp ≤ 1900 := by
  decide

theorem readable_pacedClicks : Surface.Readable pacedClicks.ignored := by
  have hread : (Pattern.read "Taskbar").toOption.isSome = true := by decide +kernel
  refine List.forall_mem_singleton.2 ?_
  cases hpattern : Pattern.read "Taskbar" with
  | error e =>
    rw [hpattern] at hread
    cases hread
  | ok pattern => exact ⟨pattern, rfl⟩

/-- The recording is compiled to a document. -/
theorem exists_document_pacedClicks :
    ∃ a gs bs, pacedClicks.compile = .ok (.document a gs bs) := by
  have hrange : ∀ c ∈ pacedClicks.connections, ∀ e ∈ c.buffer,
      e.timestamp.natAbs < Double.rangeEnd := by
    intro c hc e he
    obtain ⟨hfirst, hlast⟩ := mem_events_pacedClicks e
      (List.mem_flatMap.2 ⟨(c.url, c.buffer), List.mem_map_of_mem hc, he⟩)
    exact (show e.timestamp.natAbs ≤ 1900 by omega).trans_lt (by decide +kernel)
  have hsurvives : (clickAt 1000).survives ["Taskbar"] = true := by decide +kernel
  refine exists_document_of_not_overflows readable_pacedClicks rfl usable_nil Fields.canCopy_nil
    Fields.canCopy_nil ⟨_, List.mem_cons_self, clickAt 1000, List.mem_cons_self, hsurvives⟩
    (fun c hc => ?_) fun timeline ht g hg => not_overflows_of_inRange hrange ht hg
  rcases List.mem_cons.1 hc with rfl | hc
  · exact Fields.canCopy_nil
  · obtain rfl := List.mem_singleton.1 hc
    exact canCopy_driver "B"

/-- The clicks last 900 milliseconds, and so the waits do at most. -/
theorem waits_within_recording_pacedClicks :
    ∃ a gs bs, pacedClicks.compile = .ok (.document a gs bs) ∧
      (a.jobs.flatMap Job.times).Pairwise (· ≤ ·) ∧ a.jobs.length = gs.length ∧
      (a.jobs.flatMap Job.waits).sum ≤ 900 := by
  obtain ⟨a, gs, bs, h⟩ := exists_document_pacedClicks
  obtain ⟨htimes, hlength, -, first, last, hfirst, hlast, hsum⟩ := waits_within_recording h
  have hmem {e : Event} (he : e ∈ pacedClicks.snapshots.survivors pacedClicks.ignored) :
      1000 ≤ e.timestamp ∧ e.timestamp ≤ 1900 :=
    mem_events_pacedClicks e (Snapshots.mem_survivors.1 he).1
  have hf := hmem (List.mem_of_head? hfirst)
  have hl := hmem (List.mem_of_getLast? hlast)
  exact ⟨a, gs, bs, h, htimes, hlength, by omega⟩

end Session
end Recorder
