/-
# What a compile pass does

`SPEC_FULL.md` §7, `compile`: a pure pass over a snapshot.

A pass that gives a document has merged the buffers into a timeline that is not
empty, cut it into groups, looked up the base of the document, compiled one job for
each group and assembled them.  `Session.compile_eq_document` says all of this at
once; whoever has a document at hand starts from it and never opens the pass.
-/

import Recorder.Proofs.Outcome
import Recorder.Proofs.Timeline.Segmentation
import Recorder.Proofs.Timeline.Survivors
import Recorder.Session.Basic

namespace Recorder

/-- **What an assembled document holds:** the jobs it was given, in one stage, and
the base as far as it passes its checks. -/
theorem Automation.assemble_eq_ok {jobs : List Job} {base : DocumentBase} {a : Automation}
    (h : assemble jobs base = .ok a) :
    jobs ≠ [] ∧ canCopy jobs base ∧ checkToken base.token = .ok a.token ∧
      checkKeys base.driverParameters = .ok a.driverParameters ∧
      checkKeys base.settings = .ok a.settings ∧
      a.stages = [{ reference := stageReference, jobs }] := by
  unfold assemble at h
  split at h
  · cases h
  · rename_i hne
    split at h
    · cases h
    · rename_i token ht
      split at h
      · cases h
      · rename_i hc
        split at h
        · cases h
        · rename_i parameters settings hb
          obtain rfl := Except.ok.inj h
          rw [Checked.and_eq_ok, Checked.inside_eq_ok, Checked.inside_eq_ok] at hb
          exact ⟨by simpa using hne, by simpa using hc, ht, hb.1, hb.2, rfl⟩

/-- **Jobs can be assembled** if there are any, nothing is too deep to be copied, and the
token and all keys are text. -/
theorem Automation.exists_assemble {jobs : List Job} {base : DocumentBase} {token : String}
    {parameters settings : Fields} (hj : jobs ≠ []) (hc : canCopy jobs base)
    (ht : checkToken base.token = .ok token) (hp : checkKeys base.driverParameters = .ok parameters)
    (hs : checkKeys base.settings = .ok settings) : ∃ a, assemble jobs base = .ok a := by
  have hb : ((checkKeys base.driverParameters).inside (.field "driver_parameters")).and
      ((checkKeys base.settings).inside (.field "settings")) = .ok (parameters, settings) := by
    rw [Checked.and_eq_ok, Checked.inside_eq_ok, Checked.inside_eq_ok]
    exact ⟨hp, hs⟩
  have hne : jobs.isEmpty = false := by simpa using hj
  exact ⟨_, by simp only [assemble, hne, ht, hc, hb]; rfl⟩

/-- The jobs of a document are those it was assembled of, in their order. -/
theorem Automation.jobs_assemble {jobs : List Job} {base : DocumentBase} {a : Automation}
    (h : assemble jobs base = .ok a) : a.jobs = jobs := by
  obtain ⟨-, -, -, -, -, hs⟩ := assemble_eq_ok h
  simp [Automation.jobs, hs]

namespace Session

variable {s : Session}

/-- **A pass that gives a document,** step by step: the timeline is merged and not empty, the
base is found, every group has a job, and the jobs are assembled on the base.  Results about
documents are read off these steps. -/
theorem compile_eq_document {a : Automation} {gs : List Group} {bs : Snapshots}
    (h : s.compile = .ok (.document a gs bs)) :
    ∃ timeline base jobs, s.snapshots.merge s.ignored = .ok timeline ∧ timeline ≠ [] ∧
      s.documentBase = .ok base ∧ s.jobsOf true (Group.segment timeline) = .ok jobs ∧
      Automation.assemble jobs base = .ok a ∧ gs = (Group.segment timeline).map s.settled ∧
      bs = s.snapshots := by
  unfold compile at h
  split at h
  · cases h
  · obtain ⟨groups, hg, h⟩ := Outcome.bind_eq_ok.1 h
    obtain ⟨timeline, ht, rfl⟩ := Outcome.map_eq_ok.1 (Outcome.mapError_eq_ok.1 hg)
    split at h
    · cases h
    · rename_i hne
      obtain ⟨automation, ha, h⟩ := Outcome.bind_eq_ok.1 h
      obtain ⟨rfl, rfl, rfl⟩ := Recording.document.inj (Except.ok.inj h)
      obtain ⟨base, hb, ha⟩ := Outcome.bind_eq_ok.1 ha
      obtain ⟨jobs, hj, ha⟩ := Outcome.bind_eq_ok.1 ha
      exact ⟨timeline, base, jobs, ht, by simpa using hne, Outcome.mapError_eq_ok.1 hb,
        Outcome.mapError_eq_ok.1 hj, Outcome.mapError_eq_ok.1 ha, rfl, rfl⟩

/-- **Every result reports the buffers** the pass found, with or without a document, as they
were when the snapshots were taken (`SPEC_FULL.md` §7). -/
theorem buffers_compile {r : Recording} (h : s.compile = .ok r) : r.buffers = s.snapshots := by
  cases r with
  | document a gs bs =>
    obtain ⟨_, _, _, -, -, -, -, -, -, rfl⟩ := compile_eq_document h
    rfl
  | empty reason bs =>
    unfold compile at h
    split at h
    · rename_i hc
      obtain ⟨rfl, rfl⟩ := Recording.empty.inj (Except.ok.inj h)
      simp [Recording.buffers, snapshots, List.isEmpty_iff.1 hc]
    · obtain ⟨groups, -, h⟩ := Outcome.bind_eq_ok.1 h
      split at h
      · obtain ⟨rfl, rfl⟩ := Recording.empty.inj (Except.ok.inj h)
        rfl
      · obtain ⟨automation, -, h⟩ := Outcome.bind_eq_ok.1 h
        cases h

/-- **A pass over a timeline that is not empty** assembles its groups, and reports them with
the settings of their connections. -/
theorem compile_of_merge {timeline : List Interaction}
    (hm : s.snapshots.merge s.ignored = .ok timeline) (hne : timeline ≠ []) :
    s.compile = (s.assembleGroups (Group.segment timeline)).map fun a =>
      .document a ((Group.segment timeline).map s.settled) s.snapshots := by
  have hc : s.connections.isEmpty = false := by
    cases hs : s.connections with
    | nil =>
      have hnil := Snapshots.merge_eq_ok hm
      rw [snapshots, hs] at hnil
      exact absurd (by simpa [Snapshots.tagged] using hnil) hne
    | cons c cs => rfl
  have hge : (Group.segment timeline).isEmpty = false := by simpa using hne
  simp only [compile, hc, currentGroups, hm]
  simp [Except.map, bind, Except.bind, hge]

/-- **A pass over an empty timeline** finds no events, also if there are some that none of the
filters let through. -/
theorem compile_of_merge_nil (hc : s.connections ≠ []) (hm : s.snapshots.merge s.ignored = .ok []) :
    s.compile = .ok (.empty .noEvents s.snapshots) := by
  have hc : s.connections.isEmpty = false := by simpa using hc
  simp only [compile, hc, currentGroups, hm]
  rfl

/-- **A document is found** if no pattern can fail, an event survives, and its group and
any others have jobs that can be assembled. -/
theorem exists_document {base : DocumentBase} (hi : s.ignored = [])
    (he : ∃ e ∈ s.snapshots.events, e.survives []) (hb : s.documentBase = .ok base)
    (hj : ∀ gs, gs ≠ [] → ∃ jobs a, s.jobsOf true gs = .ok jobs ∧
      Automation.assemble jobs base = .ok a) :
    ∃ a gs bs, s.compile = .ok (.document a gs bs) := by
  obtain ⟨timeline, hm⟩ : ∃ timeline, s.snapshots.merge s.ignored = .ok timeline :=
    ⟨_, hi ▸ Snapshots.merge_nil s.snapshots⟩
  have hne : timeline ≠ [] := by
    obtain ⟨e, hmem, hsurv⟩ := he
    rintro rfl
    have hnil := Snapshots.map_event_merge hm
    have : e ∈ s.snapshots.survivors s.ignored := Snapshots.mem_survivors.2 ⟨hmem, hi ▸ hsurv⟩
    rw [← hnil] at this
    cases this
  obtain ⟨jobs, a, hjobs, ha⟩ := hj (Group.segment timeline) (by simpa using hne)
  have hag : s.assembleGroups (Group.segment timeline) = .ok a := by
    simp [assembleGroups, hb, hjobs, ha]
  rw [compile_of_merge hm hne, hag]
  exact ⟨a, _, _, rfl⟩

/-- The job of a group has the rules compiled from it, whichever parameters it runs with. -/
theorem jobOf_eq_ok {isFirst : Bool} {g : Group} {job : Job} (h : s.jobOf isFirst g = .ok job) :
    ∃ compiled, RuleCompiler.compile s.keyNames (s.modeOf g) (s.settled g) = .ok compiled ∧
      job = if isFirst then compiled else { compiled with
        driverParameters := ((s.sourceOf g).map (·.endpoint.driverParameters)).getD [] } := by
  obtain ⟨compiled, hc, h⟩ := Outcome.bind_eq_ok.1 h
  refine ⟨compiled, hc, ?_⟩
  cases isFirst <;> exact (Except.ok.inj h).symm

/-- A job has the rules compiled from its group. -/
theorem rules_jobOf {isFirst : Bool} {g : Group} {job : Job} (h : s.jobOf isFirst g = .ok job) :
    ∃ compiled, RuleCompiler.compile s.keyNames (s.modeOf g) (s.settled g) = .ok compiled ∧
      job.rules = compiled.rules := by
  obtain ⟨compiled, hc, rfl⟩ := jobOf_eq_ok h
  exact ⟨compiled, hc, by cases isFirst <;> rfl⟩

/-- **The jobs of groups:** that of the first one, and those of the others after it, all of
which are compiled as later ones.  One group without a job leaves the whole recording without
a document. -/
theorem jobsOf_cons_eq_ok {isFirst : Bool} {g : Group} {gs : List Group} {jobs : List Job} :
    s.jobsOf isFirst (g :: gs) = .ok jobs ↔ ∃ job rest, s.jobOf isFirst g = .ok job ∧
      s.jobsOf false gs = .ok rest ∧ job :: rest = jobs := by
  simp [jobsOf]

/-! ## Sessions without settings of their own -/

/-- Nothing is set but the addresses of the endpoints. -/
structure IsPlain (s : Session) : Prop where
  ignored : s.ignored = []
  manifest : s.manifest = .obj []
  endpoint : ∀ c ∈ s.connections, c.endpoint = .ofUrl c.url

namespace IsPlain

/-- The source of a group is a connection of the session, so its endpoint has the standard
settings like every other. -/
theorem eq_ofUrl_of_sourceOf (hs : s.IsPlain) {g : Group} {c : Connection}
    (h : s.sourceOf g = some c) : c.endpoint = .ofUrl c.url :=
  hs.endpoint c (List.mem_of_find?_eq_some h)

/-- Without think time a group always has a job, and it runs with no parameters. -/
theorem exists_jobOf (hs : s.IsPlain) (isFirst : Bool) (g : Group) :
    ∃ job, s.jobOf isFirst g = .ok job ∧ job.driverParameters = [] := by
  have ht : (s.settled g).thinkTime = some {} := by
    cases hc : s.sourceOf g with
    | none => simp [settled, hc]
    | some c => simp [settled, hc, hs.eq_ofUrl_of_sourceOf hc, Endpoint.ofUrl]
  have hd : ((s.sourceOf g).map (·.endpoint.driverParameters)).getD [] = [] := by
    cases hc : s.sourceOf g with
    | none => rfl
    | some c => simp [hs.eq_ofUrl_of_sourceOf hc, Endpoint.ofUrl]
  cases isFirst <;>
    simp [jobOf, RuleCompiler.compile, RuleCompiler.withPauses, ht, hd, bind, Except.bind]

/-- **Groups become jobs** without an error, one for each, and none of the jobs has parameters
of its own. -/
theorem exists_jobsOf (hs : s.IsPlain) (isFirst : Bool) (gs : List Group) :
    ∃ jobs, s.jobsOf isFirst gs = .ok jobs ∧ jobs.length = gs.length ∧
      ∀ job ∈ jobs, job.driverParameters = [] := by
  induction gs generalizing isFirst with
  | nil => exact ⟨[], rfl, rfl, by simp⟩
  | cons g gs ih =>
    obtain ⟨job, hj, hd⟩ := hs.exists_jobOf isFirst g
    obtain ⟨jobs, hjs, hl, hds⟩ := ih false
    refine ⟨job :: jobs, by simp [jobsOf, hj, hjs], by simp [hl], ?_⟩
    simpa [hd] using hds

/-- Endpoints with the standard settings give the document no parameters either. -/
theorem primaryParameters_eq_nil (hs : s.IsPlain) : s.primaryParameters = [] := by
  unfold primaryParameters
  cases hc : s.snapshots.earliestSource.bind s.connection? with
  | none => rfl
  | some c =>
    obtain ⟨url, -, hu⟩ := Option.bind_eq_some_iff.1 hc
    simp [hs.endpoint c (List.mem_of_find?_eq_some hu), Endpoint.ofUrl]

/-- The base of the document is empty. -/
theorem documentBase (hs : s.IsPlain) : s.documentBase = .ok ⟨.str "", [], []⟩ := by
  rw [Session.documentBase, hs.manifest, hs.primaryParameters_eq_nil]
  rfl

/-- **A recording without settings has a document** once an event survives: with no think time
nothing can overflow, and with no parameters and an empty manifest nothing is too deep. -/
theorem exists_document (hs : s.IsPlain) (he : ∃ e ∈ s.snapshots.events, e.survives []) :
    ∃ a gs bs, s.compile = .ok (.document a gs bs) := by
  refine Session.exists_document hs.ignored he hs.documentBase fun gs hgs => ?_
  obtain ⟨jobs, hj, hl, hd⟩ := hs.exists_jobsOf true gs
  have hne : jobs ≠ [] := by
    rintro rfl
    exact hgs (List.eq_nil_of_length_eq_zero hl.symm)
  have hc : Automation.canCopy jobs ⟨.str "", [], []⟩ := by
    simp only [Automation.canCopy, List.map_nil, Bool.and_eq_true, List.all_eq_true]
    exact ⟨by decide, fun job hjob => by rw [hd job hjob]; decide⟩
  obtain ⟨a, ha⟩ := Automation.exists_assemble hne hc rfl rfl rfl
  exact ⟨jobs, a, hj, ha⟩

/-- The document of a recording without settings holds no values of the user's own, so
it can be handed over. -/
theorem isShallow_document (hs : s.IsPlain) {a : Automation} {gs : List Group} {bs : Snapshots}
    (h : s.compile = .ok (.document a gs bs)) : a.isShallow := by
  obtain ⟨timeline, base, jobs, -, -, hb, hj, ha, -, -⟩ := compile_eq_document h
  obtain rfl := Except.ok.inj (hs.documentBase.symm.trans hb)
  obtain ⟨jobs', hj', -, hd⟩ := hs.exists_jobsOf true (Group.segment timeline)
  obtain rfl := Except.ok.inj (hj'.symm.trans hj)
  obtain ⟨-, -, -, hp, hst, -⟩ := Automation.assemble_eq_ok ha
  rw [Automation.isShallow, Automation.jobs_assemble ha, ← Except.ok.inj hp, ← Except.ok.inj hst]
  simp only [Bool.and_eq_true, List.all_eq_true]
  exact ⟨by decide, fun job hjob => by rw [hd job hjob]; decide⟩

end IsPlain

end Session
end Recorder
