/-
# When a compile pass gives a result

`SPEC_FULL.md` §7, `compile`, and §11: malformed events are dropped, and an empty recording
is a reason and no error.

Without ignored locators and with a manifest that can be used, a pass can fail in two
ways only (`Session.compile_reliable`).  A timestamp outside the range of binary64
numbers makes it fail if its endpoint asks for pauses and there is a pause to ask for.
Parameters or settings too deep to be copied make it fail; these are no events.

| the timeline | pauses | parameters and settings | the pass |
| --- | --- | --- | --- |
| empty | | | gives no document |
| not empty | some out of range | | fails |
| not empty | all in range | some too deep | fails |
| not empty | all in range | none too deep | gives a document |
-/

import Recorder.Proofs.Automation.Base
import Recorder.Proofs.Automation.Pauses
import Recorder.Proofs.Event.RoundTrip
import Recorder.Proofs.Session.Ingestion

namespace Recorder
namespace Session

variable {s : Session}

/-! ## The jobs of groups -/

/-- The driver parameters of the connection that recorded the start of a group. -/
def parametersOf (s : Session) (g : Group) : Fields :=
  ((s.sourceOf g).map (·.endpoint.driverParameters)).getD []

/-- The think-time settings of the connection that recorded the start of a group. -/
def thinkTimeOf (s : Session) (g : Group) : ThinkTime :=
  ((s.sourceOf g).map (·.endpoint.thinkTime)).getD {}

/-- The rules of a group but for the closing one, without pauses. -/
def rulesOf (s : Session) (g : Group) : List Rule :=
  RuleCompiler.rulesAfter s.keyNames (s.modeOf g) none g.events

/-- **Pauses out of range:** the group has several rules, pauses are asked for, and the
timestamp of some rule has no binary64 number nearby. -/
structure Overflows (s : Session) (g : Group) : Prop where
  enabled : (s.thinkTimeOf g).enabled = true
  several : 1 < (s.rulesOf g).length
  beyond : ∃ r ∈ s.rulesOf g, ¬ r.InRange

/-- **A group has a job** just if its pauses are in range.  The first job and a later one
differ in their parameters only, and those have no part in it. -/
theorem exists_jobOf_iff (isFirst : Bool) (g : Group) :
    (∃ job, s.jobOf isFirst g = .ok job) ↔ ¬ s.Overflows g := by
  have hcompile : (∃ job, s.jobOf isFirst g = .ok job) ↔
      ∃ job, RuleCompiler.compile s.keyNames (s.modeOf g) (s.settled g) = .ok job := by
    constructor
    · rintro ⟨job, h⟩
      obtain ⟨compiled, hc, -⟩ := jobOf_eq_ok h
      exact ⟨compiled, hc⟩
    · rintro ⟨compiled, hc⟩
      rw [jobOf, hc, Outcome.ok_bind]
      cases isFirst <;> exact ⟨_, rfl⟩
  have hsettled : (s.settled g).thinkTime = some (s.thinkTimeOf g) := rfl
  rw [hcompile, RuleCompiler.exists_compile_iff _ _ _ hsettled]
  constructor
  · intro h hover
    rcases h hover.enabled with hshort | hall
    · exact Nat.not_lt.2 hshort hover.several
    · obtain ⟨r, hr, hbeyond⟩ := hover.beyond
      exact hbeyond (hall r hr)
  · intro h henabled
    by_contra hno
    obtain ⟨hlong, hbeyond⟩ := not_or.1 hno
    refine h ⟨henabled, Nat.not_le.1 hlong, ?_⟩
    by_contra hnone
    exact hbeyond fun r hr => by
      by_contra hr'
      exact hnone ⟨r, hr, hr'⟩

/-- **All groups have jobs** just if their pauses are in range.  The jobs are compiled one
after the other, and one that fails ends it. -/
theorem exists_jobsOf_iff (isFirst : Bool) (gs : List Group) :
    (∃ jobs, s.jobsOf isFirst gs = .ok jobs) ↔ ∀ g ∈ gs, ¬ s.Overflows g := by
  induction gs generalizing isFirst with
  | nil => exact iff_of_true ⟨[], rfl⟩ (List.forall_mem_nil _)
  | cons g gs ih =>
    rw [List.forall_mem_cons, ← exists_jobOf_iff isFirst g, ← ih false]
    constructor
    · rintro ⟨jobs, h⟩
      obtain ⟨job, rest, hjob, hrest, -⟩ := jobsOf_cons_eq_ok.1 h
      exact ⟨⟨job, hjob⟩, rest, hrest⟩
    · rintro ⟨⟨job, hjob⟩, rest, hrest⟩
      exact ⟨job :: rest, jobsOf_cons_eq_ok.2 ⟨job, rest, hjob, hrest, rfl⟩⟩

/-- A job is compiled without parameters, and all but the first get those of their
connection. -/
theorem driverParameters_jobOf {isFirst : Bool} {g : Group} {job : Job}
    (h : s.jobOf isFirst g = .ok job) :
    job.driverParameters = if isFirst then [] else s.parametersOf g := by
  obtain ⟨compiled, hc, rfl⟩ := jobOf_eq_ok h
  obtain ⟨rs, -, hcompiled⟩ := Outcome.bind_eq_ok.1 hc
  obtain rfl := Except.ok.inj hcompiled
  cases isFirst <;> rfl

/-- Jobs after the first have the driver parameters of the connections that recorded their
groups. -/
theorem driverParameters_jobsOf_false {gs : List Group} {jobs : List Job}
    (h : s.jobsOf false gs = .ok jobs) :
    jobs.map Job.driverParameters = gs.map s.parametersOf := by
  induction gs generalizing jobs with
  | nil =>
    obtain rfl := Except.ok.inj h
    rfl
  | cons g gs ih =>
    obtain ⟨job, rest, hjob, hrest, rfl⟩ := jobsOf_cons_eq_ok.1 h
    rw [List.map_cons, List.map_cons, ih hrest, driverParameters_jobOf hjob, if_neg Bool.false_ne_true]

/-- **Which parameters the jobs run with:** none for the first, and for every later one
those of its connection. -/
theorem driverParameters_jobsOf {g : Group} {gs : List Group} {jobs : List Job}
    (h : s.jobsOf true (g :: gs) = .ok jobs) :
    ∃ first later, jobs = first :: later ∧ first.driverParameters = [] ∧
      later.map Job.driverParameters = gs.map s.parametersOf := by
  obtain ⟨first, later, hfirst, hlater, rfl⟩ := jobsOf_cons_eq_ok.1 h
  refine ⟨first, later, rfl, ?_, driverParameters_jobsOf_false hlater⟩
  rw [driverParameters_jobOf hfirst, if_pos rfl]

/-! ## The outcome of a pass -/

/-- What is copied into a document is not too deep: its own parameters, its settings, and
the parameters of all jobs. -/
structure CanCopy (s : Session) (manifest : Fields) (gs : List Group) : Prop where
  parameters : (DocumentBase.parametersOr manifest s.primaryParameters).CanCopy
  settings : (Event.objectAt manifest "settings").CanCopy
  jobs : ∀ g ∈ gs.tail, (s.parametersOf g).CanCopy

/-- Depths of parameters are looked at when they are copied. -/
theorem canCopy_jobs_iff {gs : List Group} {jobs : List Job} (h : s.jobsOf true gs = .ok jobs)
    (hne : gs ≠ []) : (∀ job ∈ jobs, job.driverParameters.CanCopy) ↔
      ∀ g ∈ gs.tail, (s.parametersOf g).CanCopy := by
  obtain ⟨g, gs, rfl⟩ := List.exists_cons_of_ne_nil hne
  obtain ⟨first, later, rfl, hfirst, hlater⟩ := driverParameters_jobsOf h
  have hmem : (∀ ps ∈ later.map Job.driverParameters, ps.CanCopy) ↔
      ∀ ps ∈ gs.map s.parametersOf, ps.CanCopy := by rw [hlater]
  rw [List.forall_mem_map, List.forall_mem_map] at hmem
  rw [List.forall_mem_cons, hfirst, List.tail_cons]
  exact ⟨fun h => hmem.1 h.2, fun h => ⟨Fields.canCopy_nil, hmem.2 h⟩⟩

section Usable

variable {manifest : Fields} (hm : s.manifest = .obj manifest)
  (hu : DocumentBase.Usable manifest)

include hm hu

/-- **Groups out of range** have no document.  Jobs are compiled before they are assembled, so
the error is one of a timestamp even if something is too deep as well. -/
theorem assembleGroups_of_overflows {gs : List Group} (h : ∃ g ∈ gs, s.Overflows g) :
    ∃ e, s.assembleGroups gs = .error (.overflow e) := by
  obtain ⟨token, hbase⟩ := DocumentBase.exists_ofManifest hu s.primaryParameters
  obtain ⟨e, he⟩ : ∃ e, s.jobsOf true gs = .error e := by
    cases hj : s.jobsOf true gs with
    | error e => exact ⟨e, rfl⟩
    | ok jobs =>
      obtain ⟨g, hg, hover⟩ := h
      exact absurd hover ((exists_jobsOf_iff true gs).1 ⟨jobs, hj⟩ g hg)
  refine ⟨e, ?_⟩
  rw [assembleGroups, documentBase, hm, hbase, he]
  rfl

/-- **Groups in range** have a document unless something is too deep to be copied into it; no
other error is left once the manifest can be used. -/
theorem assembleGroups_of_not_overflows {gs : List Group} (hne : gs ≠ [])
    (h : ∀ g ∈ gs, ¬ s.Overflows g) :
    (s.CanCopy manifest gs → ∃ a, s.assembleGroups gs = .ok a) ∧
      (¬ s.CanCopy manifest gs → s.assembleGroups gs = .error (.assembly .tooDeep)) := by
  obtain ⟨token, hbase⟩ := DocumentBase.exists_ofManifest hu s.primaryParameters
  obtain ⟨jobs, hjobs⟩ := (exists_jobsOf_iff true gs).2 h
  have hjne : jobs ≠ [] := by
    obtain ⟨g, rest, rfl⟩ := List.exists_cons_of_ne_nil hne
    obtain ⟨first, later, rfl, -, -⟩ := driverParameters_jobsOf hjobs
    exact List.cons_ne_nil first later
  have hcopy := canCopy_jobs_iff hjobs hne
  obtain ⟨hok, hdeep⟩ := Automation.assemble_of_text hjne token
    (DocumentBase.parametersOr manifest s.primaryParameters) (Event.objectAt manifest "settings")
  have hassemble : s.assembleGroups gs = (Automation.assemble jobs ⟨.str token,
      (DocumentBase.parametersOr manifest s.primaryParameters).toTable,
      (Event.objectAt manifest "settings").toTable⟩).mapError .assembly := by
    rw [assembleGroups, documentBase, hm, hbase, hjobs]
    rfl
  rw [hassemble]
  constructor
  · rintro ⟨hparameters, hsettings, hlater⟩
    obtain ⟨a, ha⟩ := hok ⟨hparameters, hsettings, hcopy.2 hlater⟩
    exact ⟨a, by rw [ha, Outcome.mapError_ok]⟩
  · intro hnot
    have hnone : ¬ ((DocumentBase.parametersOr manifest s.primaryParameters).CanCopy ∧
        (Event.objectAt manifest "settings").CanCopy ∧
        ∀ job ∈ jobs, job.driverParameters.CanCopy) := by
      rintro ⟨hparameters, hsettings, hall⟩
      exact hnot ⟨hparameters, hsettings, hcopy.1 hall⟩
    rw [hdeep hnone, Outcome.mapError_error]

end Usable

/-- Whether a session has recorded something that makes a timeline. -/
def HasSurvivor (s : Session) : Prop :=
  ∃ c ∈ s.connections, ∃ e ∈ c.buffer, e.survives s.ignored = true

/-- A recording has something to compile just if one of its raw events survives. -/
theorem hasSurvivor_iff : s.HasSurvivor ↔ ∃ e ∈ s.snapshots.events, e.survives s.ignored = true := by
  have hmem (e : Event) : e ∈ s.snapshots.events ↔ ∃ c ∈ s.connections, e ∈ c.buffer := by
    simp [Snapshots.events, snapshots]
  constructor
  · rintro ⟨c, hc, e, he, hs⟩
    exact ⟨e, (hmem e).2 ⟨c, hc, he⟩, hs⟩
  · rintro ⟨e, he, hs⟩
    obtain ⟨c, hc, he⟩ := (hmem e).1 he
    exact ⟨c, hc, e, he, hs⟩

/-- **A merged timeline is empty** just if nothing survives, as every event that survives is
on it. -/
theorem timeline_eq_nil_iff {timeline : List Interaction}
    (h : s.snapshots.merge s.ignored = .ok timeline) : timeline = [] ↔ ¬ s.HasSurvivor := by
  rw [hasSurvivor_iff, ← List.map_eq_nil_iff (f := Interaction.event),
    Snapshots.map_event_merge h, List.eq_nil_iff_forall_not_mem]
  constructor
  · rintro hnone ⟨e, he, hs⟩
    exact hnone e (Snapshots.mem_survivors.2 ⟨he, hs⟩)
  · intro hnone e he
    exact hnone ⟨e, Snapshots.mem_survivors.1 he⟩

/-- A pass over an empty timeline gives no document. -/
theorem compile_of_timeline_nil (ht : s.snapshots.merge s.ignored = .ok []) :
    ∃ reason bs, s.compile = .ok (.empty reason bs) := by
  by_cases hc : s.connections = []
  · exact ⟨.noConnections, [], by rw [compile, hc]; rfl⟩
  · exact ⟨.noEvents, _, compile_of_merge_nil hc ht⟩

/-- **The outcome of a pass** over a timeline that is not empty, with a manifest that can be
used: an error for a timestamp, an error for a depth, or a document.  The three cases exclude
each other. -/
theorem compile_outcome {manifest : Fields} {timeline : List Interaction}
    (hm : s.manifest = .obj manifest) (hu : DocumentBase.Usable manifest)
    (ht : s.snapshots.merge s.ignored = .ok timeline) (hne : timeline ≠ []) :
    ((∃ g ∈ Group.segment timeline, s.Overflows g) ∧ ∃ e, s.compile = .error (.overflow e)) ∨
    (∀ g ∈ Group.segment timeline, ¬ s.Overflows g) ∧
      (¬ s.CanCopy manifest (Group.segment timeline) ∧
          s.compile = .error (.assembly .tooDeep) ∨
        s.CanCopy manifest (Group.segment timeline) ∧
          ∃ a gs bs, s.compile = .ok (.document a gs bs)) := by
  have hseg : Group.segment timeline ≠ [] := fun h => hne (Group.segment_eq_nil.1 h)
  rw [compile_of_merge ht hne]
  by_cases hover : ∃ g ∈ Group.segment timeline, s.Overflows g
  · obtain ⟨e, he⟩ := assembleGroups_of_overflows hm hu hover
    exact .inl ⟨hover, e, by rw [he]; rfl⟩
  · have hrange : ∀ g ∈ Group.segment timeline, ¬ s.Overflows g :=
      fun g hg ho => hover ⟨g, hg, ho⟩
    obtain ⟨hok, hdeep⟩ := assembleGroups_of_not_overflows hm hu hseg hrange
    by_cases hcopy : s.CanCopy manifest (Group.segment timeline)
    · obtain ⟨a, ha⟩ := hok hcopy
      exact .inr ⟨hrange, .inr ⟨hcopy, a, _, _, by rw [ha]; rfl⟩⟩
    · exact .inr ⟨hrange, .inl ⟨hcopy, by rw [hdeep hcopy]; rfl⟩⟩

/-- **A document is found** once an event survives, if no pauses are out of range and no
parameters or settings are too deep. -/
theorem exists_document_of_not_overflows {manifest : Fields}
    (hi : Surface.Readable s.ignored)
    (hm : s.manifest = .obj manifest) (hu : DocumentBase.Usable manifest)
    (hparameters : (Event.objectAt manifest "driverParameters").CanCopy)
    (hsettings : (Event.objectAt manifest "settings").CanCopy) (hs : s.HasSurvivor)
    (hc : ∀ c ∈ s.connections, c.endpoint.driverParameters.CanCopy)
    (hover : ∀ timeline, s.snapshots.merge s.ignored = .ok timeline →
      ∀ g ∈ Group.segment timeline, ¬ s.Overflows g) :
    ∃ a gs bs, s.compile = .ok (.document a gs bs) := by
  obtain ⟨timeline, ht⟩ : ∃ timeline, s.snapshots.merge s.ignored = .ok timeline :=
    ⟨_, Snapshots.merge_of_readable hi s.snapshots⟩
  have hne : timeline ≠ [] := fun h => (timeline_eq_nil_iff ht).1 h hs
  have hof (c : Option Connection) (h : ∀ d, c = some d → d ∈ s.connections) :
      Fields.CanCopy ((c.map (·.endpoint.driverParameters)).getD []) := by
    cases c with
    | none => exact Fields.canCopy_nil
    | some d => exact hc d (h d rfl)
  have hprimary : s.primaryParameters.CanCopy := hof _ fun d hd => by
    obtain ⟨url, -, hfound⟩ := Option.bind_eq_some_iff.1 hd
    exact List.mem_of_find?_eq_some hfound
  have hcopy : s.CanCopy manifest (Group.segment timeline) := by
    refine ⟨?_, hsettings, fun g _ => hof _ fun d hd => List.mem_of_find?_eq_some hd⟩
    rw [DocumentBase.parametersOr]
    split
    · exact hparameters
    · exact hprimary
  rcases compile_outcome hm hu ht hne with ⟨⟨g, hg, ho⟩, -⟩ | ⟨-, ⟨hdeep, -⟩ | ⟨-, hdocument⟩⟩
  · exact absurd ho (hover timeline ht g hg)
  · exact absurd hcopy hdeep
  · exact hdocument

/-- Where no endpoint asks for pauses, none are out of range. -/
theorem not_overflows_of_disabled
    (hc : ∀ c ∈ s.connections, c.endpoint.thinkTime.enabled = false) (g : Group) :
    ¬ s.Overflows g := by
  intro hover
  have henabled := hover.enabled
  rw [thinkTimeOf] at henabled
  cases hsource : s.sourceOf g with
  | none =>
    rw [hsource] at henabled
    cases henabled
  | some c =>
    rw [hsource] at henabled
    exact Bool.false_ne_true ((hc c (List.mem_of_find?_eq_some hsource)).symm.trans henabled)

/-- **A document is found** once an event survives, if no endpoint asks for pauses and no
parameters or settings are too deep. -/
theorem exists_document_of_canCopy {manifest : Fields} (hi : s.ignored = [])
    (hm : s.manifest = .obj manifest) (hu : DocumentBase.Usable manifest)
    (hparameters : (Event.objectAt manifest "driverParameters").CanCopy)
    (hsettings : (Event.objectAt manifest "settings").CanCopy) (hs : s.HasSurvivor)
    (hc : ∀ c ∈ s.connections, c.endpoint.thinkTime.enabled = false ∧
      c.endpoint.driverParameters.CanCopy) :
    ∃ a gs bs, s.compile = .ok (.document a gs bs) :=
  exists_document_of_not_overflows (hi ▸ Surface.readable_nil) hm hu hparameters hsettings hs (fun c h => (hc c h).2)
    fun _ _ g _ => not_overflows_of_disabled (fun c h => (hc c h).1) g

/-- **When a compile pass gives a result.**  Without ignored locators and with a manifest
that can be used, the buffers have groups.  A pass fails with an overflow just if the
pauses of a group are out of range, and gives a result just if there are no groups, or no
pauses out of range and nothing too deep to be copied.  A result has no document just if
there are no connections or no event survives. -/
theorem compile_reliable {manifest : Fields} (hi : s.ignored = [])
    (hm : s.manifest = .obj manifest) (hu : DocumentBase.Usable manifest) :
    ∃ gs, s.currentGroups = .ok gs ∧ (gs = [] ↔ ¬ s.HasSurvivor) ∧
      ((∃ e, s.compile = .error (.overflow e)) ↔ ∃ g ∈ gs, s.Overflows g) ∧
      ((∃ r, s.compile = .ok r) ↔
        gs = [] ∨ (∀ g ∈ gs, ¬ s.Overflows g) ∧ s.CanCopy manifest gs) ∧
      ∀ r, s.compile = .ok r → (r.automation? = none ↔ s.connections = [] ∨ ¬ s.HasSurvivor) := by
  obtain ⟨timeline, ht⟩ : ∃ timeline, s.snapshots.merge s.ignored = .ok timeline :=
    ⟨_, hi ▸ Snapshots.merge_nil s.snapshots⟩
  have hgroups : s.currentGroups = .ok (Group.segment timeline) := by
    rw [currentGroups, ht]
    rfl
  have hsurvivor := timeline_eq_nil_iff ht
  refine ⟨Group.segment timeline, hgroups, Group.segment_eq_nil.trans hsurvivor, ?_⟩
  -- Without survivors there are no groups, and nothing can go wrong with them.
  by_cases hnil : timeline = []
  · subst hnil
    obtain ⟨reason, bs, hc⟩ := compile_of_timeline_nil ht
    have hseg : Group.segment [] = [] := rfl
    rw [hc, hseg]
    refine ⟨by simp, by simp, fun r hr => ?_⟩
    obtain rfl := Except.ok.inj hr
    exact iff_of_true rfl (.inr (hsurvivor.1 rfl))
  · have hseg : Group.segment timeline ≠ [] := fun h => hnil (Group.segment_eq_nil.1 h)
    have hsome : s.HasSurvivor := not_not.1 fun h => hnil (hsurvivor.2 h)
    have hcs : s.connections ≠ [] := by
      obtain ⟨c, hc, -⟩ := hsome
      exact List.ne_nil_of_mem hc
    -- The three outcomes exclude each other, so each decides all three equivalences.
    rcases compile_outcome hm hu ht hnil with ⟨hover, e, hc⟩ | ⟨hrange, hcopied⟩
    · have hnot : ¬ ∀ g ∈ Group.segment timeline, ¬ s.Overflows g := by
        obtain ⟨g, hg, ho⟩ := hover
        exact fun h => h g hg ho
      rw [hc]
      exact ⟨iff_of_true ⟨e, rfl⟩ hover,
        iff_of_false (by rintro ⟨r, ⟨⟩⟩) (not_or.2 ⟨hseg, fun h => hnot h.1⟩), fun r hr => by cases hr⟩
    · have hover : ¬ ∃ g ∈ Group.segment timeline, s.Overflows g := by
        rintro ⟨g, hg, ho⟩
        exact hrange g hg ho
      rcases hcopied with ⟨hdeep, hc⟩ | ⟨hcopy, a, gs, bs, hc⟩
      · rw [hc]
        exact ⟨iff_of_false (by rintro ⟨e, ⟨⟩⟩) hover,
          iff_of_false (by rintro ⟨r, ⟨⟩⟩) (not_or.2 ⟨hseg, fun h => hdeep h.2⟩),
          fun r hr => by cases hr⟩
      · rw [hc]
        refine ⟨iff_of_false (by rintro ⟨e, ⟨⟩⟩) hover,
          iff_of_true ⟨_, rfl⟩ (.inr ⟨hrange, hcopy⟩), fun r hr => ?_⟩
        obtain rfl := Except.ok.inj hr
        exact iff_of_false (Option.some_ne_none a) (not_or.2 ⟨hcs, not_not.2 hsome⟩)

/-! ## Two clicks with think time -/

/-- An endpoint that asks for pauses. -/
def pausing : Endpoint := { Endpoint.ofUrl "http://a" with thinkTime := { enabled := true } }

/-- The settings can be given in a configuration. -/
theorem exists_check_pausing : ∃ v, Endpoint.check v = .ok pausing :=
  ⟨.obj [("baseUrl", .str "http://a"), ("thinkTimeSettings", .obj [("enabled", .bool true)])], rfl⟩

/-- A click at some time. -/
def clickAt (timestamp : Int) : Event :=
  { Event.release timestamp "A" (.pointer .left none none) with text := "left up" }

theorem survives_clickAt (timestamp : Int) : (clickAt timestamp).survives [] = true :=
  Event.survives_release timestamp "A" (.pointer .left none none)

theorem isRead_clickAt (timestamp : Int) : (clickAt timestamp).IsRead := by
  have hup : some Phase.up = Phase.ofText "left up" := by decide +kernel
  have hleft : MouseButton.left = MouseButton.ofText "left up" := by decide +kernel
  refine ⟨hup, fun b x y hb => ?_⟩
  obtain ⟨rfl, -, -⟩ := Gesture.pointer.inj hb
  exact hleft

/-- It is the event of the message that it is written as. -/
theorem decode?_clickAt (timestamp : Int) :
    Event.decode? (clickAt timestamp).encode = some (clickAt timestamp) :=
  Event.decode?_encode (isRead_clickAt timestamp)

/-- The messages of two clicks. -/
def clicks (t u : Int) : Messages :=
  [("http://a", (clickAt t).encode), ("http://a", (clickAt u).encode)]

/-- Two clicks on an endpoint that asks for pauses. -/
def twoClicks (t u : Int) : Session := (ofEndpoints [pausing] (.obj [])).ingestAll (clicks t u)

/-- The two clicks are taken in by one connection, in order. -/
theorem twoClicks_eq (t u : Int) : twoClicks t u =
    { connections := [{ endpoint := pausing, buffer := [clickAt t, clickAt u] }] } := by
  have hevents : Messages.eventsFor pausing.baseUrl (clicks t u) = [clickAt t, clickAt u] := by
    simp [Messages.eventsFor, clicks, pausing, Endpoint.ofUrl, decode?_clickAt]
  have hnew : ofEndpoints [pausing] (.obj []) = { connections := [{ endpoint := pausing }] } := rfl
  rw [twoClicks, ingestAll_eq, hnew, List.map_singleton, Connection.url, hevents]
  rfl

/-- The timeline of two clicks. -/
def clickTimeline (t u : Int) : List Interaction :=
  [.ofTagged ("http://a", clickAt t), .ofTagged ("http://a", clickAt u)]

/-- They come out of the timeline in order if the first is not the later one. -/
theorem merge_twoClicks {t u : Int} (h : t ≤ u) :
    (twoClicks t u).snapshots.merge [] = .ok (clickTimeline t u) := by
  have htagged : (twoClicks t u).snapshots.tagged =
      [("http://a", clickAt t), ("http://a", clickAt u)] := by
    rw [twoClicks_eq]
    rfl
  have hfilter : [("http://a", clickAt t), ("http://a", clickAt u)].filter
      (fun p => p.2.survives []) = [("http://a", clickAt t), ("http://a", clickAt u)] := by
    simp [survives_clickAt]
  have hle : Snapshots.notLater (.ofTagged ("http://a", clickAt t))
      (.ofTagged ("http://a", clickAt u)) = true := decide_eq_true h
  have hsorted : (clickTimeline t u).Pairwise fun i j => Snapshots.notLater i j = true := by
    simpa [clickTimeline] using hle
  rw [Snapshots.merge_nil, htagged, hfilter]
  exact congrArg Except.ok (List.mergeSort_of_pairwise hsorted)

/-- The clicks are one group, with one rule each. -/
theorem segment_clickTimeline (t u : Int) : ∃ g, Group.segment (clickTimeline t u) = [g] ∧
    (twoClicks t u).thinkTimeOf g = { enabled := true } ∧
    ((twoClicks t u).rulesOf g).map Rule.timestamp = [some t, some u] := by
  refine ⟨⟨1, "A", some "http://a", clickTimeline t u, none⟩, rfl, ?_, ?_⟩
  · rw [twoClicks_eq]
    rfl
  · rw [twoClicks_eq]
    rfl

/-- The empty manifest can be used. -/
theorem usable_nil : DocumentBase.Usable [] where
  authentication _ h := by cases h
  token _ h := by cases h
  driverParameters _ h := by cases h
  settings _ h := by cases h

/-- Two clicks a moment apart have a document. -/
theorem compile_reliable_twoClicks :
    ∃ r, (twoClicks 1 2).compile = .ok r ∧ r.automation?.isSome = true := by
  have hs := twoClicks_eq 1 2
  have hi : (twoClicks 1 2).ignored = [] := by rw [hs]
  have hm : (twoClicks 1 2).manifest = .obj [] := by rw [hs]
  obtain ⟨gs, hgroups, hnil, -, hok, hdocument⟩ := compile_reliable hi hm usable_nil
  obtain ⟨g, hseg, -, htimes⟩ := segment_clickTimeline 1 2
  have hgs : gs = [g] := by
    have hmerge := merge_twoClicks (t := 1) (u := 2) (by decide)
    rw [currentGroups, hi, hmerge] at hgroups
    exact (Except.ok.inj hgroups).symm.trans hseg
  have hrange : ∀ r ∈ (twoClicks 1 2).rulesOf g, r.InRange := by
    intro r hr t ht
    have hmem : r.timestamp ∈ ((twoClicks 1 2).rulesOf g).map Rule.timestamp :=
      List.mem_map_of_mem hr
    rw [htimes, ht] at hmem
    have hsmall : ∀ t' : Int, some t' ∈ [some 1, some 2] → t'.natAbs ≤ 2 := by
      intro t' h'
      simp only [List.mem_cons, Option.some.injEq, List.not_mem_nil, or_false] at h'
      omega
    exact (hsmall t hmem).trans_lt (by decide +kernel)
  have hcopy : (twoClicks 1 2).CanCopy [] gs := by
    rw [hgs, hs]
    exact ⟨Fields.canCopy_nil, Fields.canCopy_nil, List.forall_mem_nil _⟩
  obtain ⟨r, hr⟩ := hok.2 (.inr ⟨fun g' hg' hover => by
    rw [hgs, List.mem_singleton] at hg'
    obtain ⟨r, hr, hbeyond⟩ := hover.beyond
    exact hbeyond (hrange r (hg' ▸ hr)), hcopy⟩)
  refine ⟨r, hr, ?_⟩
  have hsurvivor : (twoClicks 1 2).HasSurvivor := by
    rw [hs]
    exact ⟨_, List.mem_cons_self, clickAt 1, List.mem_cons_self, survives_clickAt 1⟩
  have hconnections : (twoClicks 1 2).connections ≠ [] := by
    rw [hs]
    exact List.cons_ne_nil _ _
  rw [← Option.not_isNone, Bool.not_eq_true', ← Bool.not_eq_true, Option.isNone_iff_eq_none,
    hdocument r hr]
  rintro (h | h)
  · exact hconnections h
  · exact h hsurvivor

/-- **A recorded event can make a pass fail:** a click at a time that has no binary64
number nearby, on an endpoint that asks for pauses. -/
theorem exists_compile_overflow : ∃ (es : List Endpoint) (ms : Messages),
    (∀ e ∈ es, ∃ v, Endpoint.check v = .ok e) ∧
      ∃ e, ((ofEndpoints es (.obj [])).ingestAll ms).compile = .error (.overflow e) := by
  refine ⟨[pausing], clicks 1 (tenTo 400), List.forall_mem_singleton.2 exists_check_pausing, ?_⟩
  have hs := twoClicks_eq 1 (tenTo 400)
  have hi : (twoClicks 1 (tenTo 400)).ignored = [] := by rw [hs]
  have hm : (twoClicks 1 (tenTo 400)).manifest = .obj [] := by rw [hs]
  have hmerge := merge_twoClicks (t := 1) (u := tenTo 400) (by decide +kernel)
  rw [← hi] at hmerge
  obtain ⟨g, hseg, hthink, htimes⟩ := segment_clickTimeline 1 (tenTo 400)
  have hover : (twoClicks 1 (tenTo 400)).Overflows g := by
    refine ⟨by rw [hthink], ?_, ?_⟩
    · rw [← List.length_map (f := Rule.timestamp), htimes]
      exact Nat.lt_succ_self 1
    · have hmem : some (tenTo 400 : Int) ∈
          ((twoClicks 1 (tenTo 400)).rulesOf g).map Rule.timestamp := by
        rw [htimes]
        exact List.mem_cons_of_mem _ List.mem_cons_self
      obtain ⟨r, hr, ht⟩ := List.mem_map.1 hmem
      refine ⟨r, hr, fun hrange => ?_⟩
      have hbeyond : ¬ (tenTo 400 : Int).natAbs < Double.rangeEnd := by decide +kernel
      exact hbeyond (hrange _ ht)
  have hne : clickTimeline 1 (tenTo 400) ≠ [] := List.cons_ne_nil _ _
  rcases compile_outcome hm usable_nil hmerge hne with ⟨-, herror⟩ | ⟨hrange, -⟩
  · exact herror
  · exact absurd hover (hrange g (hseg ▸ List.mem_singleton_self g))

end Session
end Recorder
