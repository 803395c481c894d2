/-
# No interaction is lost

`SPEC_FULL.md` §0, the pipeline from buffers to rules, as `compile` (§7) runs it.

What a document does, rule after rule and job after job, is what the surviving
events did, in the order of the merged timeline: nothing is lost, nothing happens
twice and no order changes, whichever connections, modes, think times and key names
a session has (`Session.tokens_document`).

Each stage keeps the tokens of what it is given: merging keeps the surviving events, cutting
keeps their order, compiling a group keeps what its events do, and pauses do nothing.  The
theorem is these four in a row.
-/

import Recorder.Proofs.Automation.Tokens
import Recorder.Proofs.Session.Compilation
import Recorder.Proofs.Timeline.Survivors

namespace Recorder

/-- The tokens of all rules of a job. -/
def Job.tokens (j : Job) : List Token := j.rules.flatMap Rule.tokens

namespace Session

variable {s : Session}

/-- A job does what the interactions of its group did. -/
theorem tokens_jobOf {isFirst : Bool} {g : Group} {job : Job} (h : s.jobOf isFirst g = .ok job) :
    job.tokens = g.events.flatMap (·.event.tokens s.keyNames) := by
  obtain ⟨compiled, hc, hrules⟩ := rules_jobOf h
  have htokens := RuleCompiler.tokens_compile hc
  rw [Job.tokens, hrules, htokens]
  rfl

/-- **The jobs of groups do what the groups did,** one after the other, each with the key
names of the session and in the mode of its own connection. -/
theorem tokens_jobsOf {isFirst : Bool} {gs : List Group} {jobs : List Job}
    (h : s.jobsOf isFirst gs = .ok jobs) :
    jobs.flatMap Job.tokens =
      (gs.flatMap Group.events).flatMap (·.event.tokens s.keyNames) := by
  induction gs generalizing isFirst jobs with
  | nil => obtain rfl := Except.ok.inj h; rfl
  | cons g gs ih =>
    obtain ⟨job, rest, hj, hr, rfl⟩ := jobsOf_cons_eq_ok.1 h
    rw [List.flatMap_cons, List.flatMap_cons, List.flatMap_append, tokens_jobOf hj, ih hr]

/-- **No interaction is lost, repeated or moved.**  The tokens of a document are those
of the surviving events of all buffers, in a stable order of time. -/
theorem tokens_document {a : Automation} {gs : List Group} {bs : Snapshots}
    (h : s.compile = .ok (.document a gs bs)) :
    a.jobs.flatMap Job.tokens =
      (s.snapshots.survivors s.ignored).flatMap (Event.tokens s.keyNames) := by
  obtain ⟨timeline, base, jobs, hm, -, -, hj, ha, -, -⟩ := compile_eq_document h
  rw [Automation.jobs_assemble ha, tokens_jobsOf hj, Group.flatMap_events_segment,
    ← Snapshots.map_event_merge hm, List.flatMap_map]

/-- Two endpoints that share the typing on one machine; another machine has a click in
the middle.  Only the enter key has an action of its own. -/
def twoEndpoints : Session where
  connections := [
    { endpoint := .ofUrl "http://a", buffer := [.release 5 "A" (.key "h"),
        .release 20 "A" (.key "Enter"), .release 9 "A" (.key "Shift")] },
    { endpoint := .ofUrl "http://b", buffer := [.release 5 "A" (.key "Space"),
        .release 7 "B" (.pointer .left none none), .release 8 "A" (.key "i")] }]
  keyNames := ⟨[("enter", "Enter")]⟩

/-- The typing comes out in order, cut in two by the click. -/
theorem tokens_document_twoEndpoints :
    ∃ a gs bs, twoEndpoints.compile = .ok (.document a gs bs) ∧ a.jobs.flatMap Job.tokens =
      [.character 'h', .character ' ', .click 7 none none, .character 'i', .key "Enter"] := by
  obtain ⟨a, gs, bs, h⟩ : ∃ a gs bs, twoEndpoints.compile = .ok (.document a gs bs) :=
    IsPlain.exists_document ⟨rfl, rfl, by simp [twoEndpoints, Connection.url, Endpoint.ofUrl]⟩
      ⟨.release 5 "A" (.key "h"), by simp [twoEndpoints, snapshots, Snapshots.events],
        Event.survives_release _ _ _⟩
  refine ⟨a, gs, bs, h, (tokens_document h).trans ?_⟩
  have hs : twoEndpoints.snapshots.survivors [] = [.release 5 "A" (.key "h"),
      .release 5 "A" (.key "Space"), .release 7 "B" (.pointer .left none none),
      .release 8 "A" (.key "i"), .release 9 "A" (.key "Shift"),
      .release 20 "A" (.key "Enter")] := by
    simp only [Snapshots.survivors, Snapshots.events, twoEndpoints, snapshots, List.map_cons,
      List.map_nil, List.flatMap_cons, List.flatMap_nil, List.append_nil, List.cons_append,
      List.nil_append, List.filter_cons, Event.survives_release, List.filter_nil, if_true]
    simp [List.mergeSort, List.MergeSort.Internal.splitInTwo, Event.notLater, Event.release]
  rw [show twoEndpoints.ignored = [] from rfl, hs]
  decide +kernel

end Session
end Recorder
