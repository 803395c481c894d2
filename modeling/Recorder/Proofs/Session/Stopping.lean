/-
# Messages that arrive during a stop

`SPEC_FULL.md` §7, `stop`: the snapshot is taken, the document handed over, and the buffers
cleared, in this order.

A call of `stop` that finds the session free, with messages arriving while it waits:
some while the viewer shows the document, the others while the connections leave.
`Stopping.run_callSteps` says what such a call does, whatever the viewer answers.

| what the call gives | what stays in the buffers |
| --- | --- |
| an error | everything |
| no document, or one that no viewer is shown | the messages |
| a document that the viewer accepted | the messages that arrived after that |

So the events that arrive while a viewer shows a document are in no result and in no
buffer afterwards (`Stopping.reported_append_left_iff`).
-/

import Recorder.Proofs.Session.Compilation
import Recorder.Proofs.Session.Ingestion
import Recorder.Session.Stop

namespace Recorder

namespace Viewer

/-- Whether there is a viewer at all. -/
def isPresent : Viewer → Bool
  | .absent => false
  | _ => true

/-- What a viewer answers to a call. -/
def answer (call : Nat) : Viewer → List StopStep
  | .absent => []
  | .accepts => [.shown call]
  | .fails reason => [.refused call reason]

/-- Whether a viewer is asked to show what a pass has found. -/
def isAsked (viewer : Viewer) (r : Recording) : Bool := viewer.isPresent && r.automation?.isSome

/-- What becomes of a call whose viewer is asked. -/
def verdict (r : Recording) : Viewer → Except StopError Recording
  | .fails reason => .error (.viewer reason)
  | _ => .ok r

/-- A viewer that accepts a document changes nothing of it. -/
theorem verdict_eq_ok {viewer : Viewer} {r r' : Recording} (h : viewer.verdict r = .ok r') :
    r = r' := by
  cases viewer with
  | absent => exact Except.ok.inj h
  | accepts => exact Except.ok.inj h
  | fails reason => cases h

end Viewer

namespace Session

/-- **What a call gives** that finds the session free: the error of the pass, its recording
where nothing is shown, or what the viewer makes of the document. -/
def callResult (s : Session) (viewer : Viewer) : Except StopError Recording :=
  match s.compile with
  | .error e => .error (.compile e)
  | .ok r =>
    if viewer.isAsked r then
      if r.isShallow then viewer.verdict r else .error (.tooDeep {})
    else .ok r

/-- **What a call keeps:** everything if it fails; else what arrives once it has
forgotten the events it reports. -/
def keptBy (s : Session) (viewer : Viewer) (during after : Messages) : Session :=
  match s.callResult viewer with
  | .error _ => s.ingestAll (during ++ after)
  | .ok r =>
    if viewer.isAsked r then (s.ingestAll during).clear.ingestAll after
    else s.clear.ingestAll (during ++ after)

/-- The recording that a viewer accepts in a call, if any. -/
def acceptedBy (s : Session) (viewer : Viewer) : List Recording :=
  match s.callResult viewer with
  | .error _ => []
  | .ok r => if viewer.isAsked r then [r] else []

/-- The recording that a call gives is the one its pass has found. -/
theorem compile_of_callResult {s : Session} {viewer : Viewer} {r : Recording}
    (h : s.callResult viewer = .ok r) : s.compile = .ok r := by
  unfold callResult at h
  cases hc : s.compile with
  | error e => simp [hc] at h
  | ok r' =>
    simp only [hc] at h
    split at h
    · split at h
      · rw [Viewer.verdict_eq_ok h]
      · cases h
    · obtain rfl := Except.ok.inj h
      rfl

end Session

namespace Stopping

/-- Messages that arrive in a row. -/
def arrivals (ms : Messages) : List StopStep := ms.map fun m => .ingest m.1 m.2

/-- **A call,** with the messages that arrive before and after the viewer answers.  A
call that does not wait for a viewer lets the answer pass. -/
def callSteps (viewer : Viewer) (call : Nat) (during after : Messages) : List StopStep :=
  .begin viewer.isPresent ::
    (arrivals during ++ viewer.answer call ++ arrivals after ++ [.left call])

/-- A call without anything in between. -/
theorem stopSteps_eq (viewer : Viewer) : Session.stopSteps viewer = callSteps viewer 0 [] [] := by
  cases viewer <;> rfl

variable {w : Stopping}

/-- **Two schedules in a row** are one, the second of which starts from what the first has
left. -/
theorem run_append (w : Stopping) (xs ys : List StopStep) :
    (w.run (xs ++ ys)).1 = ((w.run xs).1.run ys).1 := by
  induction xs generalizing w with
  | nil => rfl
  | cons x xs ih => exact ih (w.step x).1

theorem run_cons (w : Stopping) (x : StopStep) (xs : List StopStep) :
    (w.run (x :: xs)).1 = ((w.step x).1.run xs).1 := rfl

/-- Messages change the session and nothing else. -/
theorem run_arrivals (w : Stopping) (ms : Messages) :
    (w.run (arrivals ms)).1 = { w with session := w.session.ingestAll ms } := by
  induction ms generalizing w with
  | nil => rfl
  | cons m ms ih => exact ih _

/-! ## The steps of the newest call -/

/-- The newest call leaves. -/
theorem step_left {calls : List StopStage} {result : Except StopError Recording}
    (h : w.calls = calls ++ [.leaving result]) :
    (w.step (.left calls.length)).1 = { w with
      session := (w.session.disconnect w.faults).1, locked := false
      calls := calls ++ [.finished result] } := by
  have hs : w.stage? calls.length = some (.leaving result) := by simp [stage?, h]
  simp [step, hs, setCall, h]

/-- A viewer that is asked answers. -/
theorem run_answer_of_showing {calls : List StopStage} {r : Recording} {viewer : Viewer}
    (hv : viewer.isPresent) (h : w.calls = calls ++ [.showing r]) :
    (w.run (viewer.answer calls.length)).1 = match viewer.verdict r with
      | .ok r => { w with
          session := w.session.clear, accepted := w.accepted ++ [r]
          calls := calls ++ [.leaving (.ok r)] }
      | .error e => { w with calls := calls ++ [.leaving (.error e)] } := by
  have hs : w.stage? calls.length = some (.showing r) := by simp [stage?, h]
  cases viewer with
  | absent => cases hv
  | accepts => simp [Viewer.answer, Viewer.verdict, run, step, hs, setCall, h]
  | fails reason => simp [Viewer.answer, Viewer.verdict, run, step, hs, setCall, h]

/-- A call that waits for no viewer lets an answer pass. -/
theorem run_answer_of_leaving {calls : List StopStage} {result : Except StopError Recording}
    (viewer : Viewer) (h : w.calls = calls ++ [.leaving result]) :
    (w.run (viewer.answer calls.length)).1 = w := by
  have hs : w.stage? calls.length = some (.leaving result) := by simp [stage?, h]
  cases viewer <;> simp [Viewer.answer, run, step, hs]

/-- **The rest of a call** that waits for no viewer: messages are taken in while the
connections leave, and then its result is final.  An answer of a viewer that it does not wait
for changes nothing. -/
theorem run_rest_of_leaving {calls : List StopStage} {result : Except StopError Recording}
    (viewer : Viewer) (during after : Messages) (h : w.calls = calls ++ [.leaving result]) :
    (w.run (arrivals during ++ viewer.answer calls.length ++ arrivals after ++
      [.left calls.length])).1 = { w with
        session := ((w.session.ingestAll (during ++ after)).disconnect w.faults).1
        locked := false, calls := calls ++ [.finished result] } := by
  have ha := run_answer_of_leaving (w := { w with session := w.session.ingestAll during }) viewer h
  have hl := step_left (w := { w with session := w.session.ingestAll (during ++ after) }) h
  rw [run_append, run_append, run_append, run_arrivals w, ha, run_arrivals, run_cons]
  dsimp only
  rw [← Session.ingestAll_append, hl]
  rfl

/-- The rest of a call that is over: only the messages count. -/
theorem run_rest_of_finished {calls : List StopStage} {result : Except StopError Recording}
    (viewer : Viewer) (during after : Messages) (h : w.calls = calls ++ [.finished result]) :
    (w.run (arrivals during ++ viewer.answer calls.length ++ arrivals after ++
      [.left calls.length])).1 = { w with session := w.session.ingestAll (during ++ after) } := by
  have hs (s : Session) :
      stage? { w with session := s } calls.length = some (.finished result) := by
    simp [stage?, h]
  have ha (s : Session) : (run { w with session := s } (viewer.answer calls.length)).1 =
      { w with session := s } := by
    cases viewer <;> simp [Viewer.answer, run, step, hs]
  rw [run_append, run_append, run_append, run_arrivals w, ha, run_arrivals,
    ← Session.ingestAll_append]
  simp [run, step, hs]

/-- **The rest of a call** that waits for a viewer, told by what the viewer does.  If the
document is accepted the events are forgotten at that moment, also those that came while it
was shown. -/
theorem run_rest_of_showing {calls : List StopStage} {r : Recording} {viewer : Viewer}
    (hv : viewer.isPresent) (during after : Messages) (h : w.calls = calls ++ [.showing r]) :
    (w.run (arrivals during ++ viewer.answer calls.length ++ arrivals after ++
      [.left calls.length])).1 = match viewer.verdict r with
      | .ok r => { w with
          session :=
            (((w.session.ingestAll during).clear.ingestAll after).disconnect w.faults).1
          locked := false, accepted := w.accepted ++ [r], calls := calls ++ [.finished (.ok r)] }
      | .error e => { w with
          session := ((w.session.ingestAll (during ++ after)).disconnect w.faults).1
          locked := false, calls := calls ++ [.finished (.error e)] } := by
  have ha := run_answer_of_showing (w := { w with session := w.session.ingestAll during }) hv h
  rw [run_append, run_append, run_append, run_arrivals w, ha]
  cases viewer.verdict r with
  | ok r =>
    rw [run_arrivals, run_cons, step_left rfl]
    rfl
  | error e =>
    rw [run_arrivals, run_cons, step_left rfl, Session.ingestAll_append]
    rfl

/-- **What a call does** that finds the session free, from its first step to its last, with
messages that come in while it waits. -/
theorem run_callSteps (h : w.locked = false) (viewer : Viewer) (during after : Messages) :
    (w.run (callSteps viewer w.calls.length during after)).1 = { w with
      session := ((w.session.keptBy viewer during after).disconnect w.faults).1
      calls := w.calls ++ [.finished (w.session.callResult viewer)]
      accepted := w.accepted ++ w.session.acceptedBy viewer } := by
  unfold callSteps
  rw [run_cons]
  cases hc : w.session.compile with
  | error e =>
    have hr : w.session.callResult viewer = .error (.compile e) := by simp [Session.callResult, hc]
    have hb : (w.step (.begin viewer.isPresent)).1 = { w with
        locked := true, calls := w.calls ++ [.leaving (.error (.compile e))] } := by
      simp [step, begin, h, hc, addCall]
    rw [hb, run_rest_of_leaving viewer during after rfl]
    simp [Session.keptBy, Session.acceptedBy, hr, h]
  | ok r =>
    by_cases ha : viewer.isAsked r
    · have ha' : viewer.isPresent ∧ r.automation?.isSome := by simpa [Viewer.isAsked] using ha
      by_cases hs : r.isShallow
      · have hr : w.session.callResult viewer = viewer.verdict r := by
          simp [Session.callResult, hc, ha, hs]
        have hb : (w.step (.begin viewer.isPresent)).1 = { w with
            locked := true, calls := w.calls ++ [.showing r] } := by
          simp [step, begin, h, hc, addCall, ha'.1, ha'.2, hs]
        rw [hb, run_rest_of_showing ha'.1 during after rfl]
        cases viewer <;>
          simp [Session.keptBy, Session.acceptedBy, hr, h, ha, Viewer.verdict]
      · have hr : w.session.callResult viewer = .error (.tooDeep {}) := by
          simp [Session.callResult, hc, ha, hs]
        have hb : (w.step (.begin viewer.isPresent)).1 = { w with
            locked := true, calls := w.calls ++ [.leaving (.error (.tooDeep {}))] } := by
          simp [step, begin, h, hc, addCall, ha'.1, ha'.2, hs]
        rw [hb, run_rest_of_leaving viewer during after rfl]
        simp [Session.keptBy, Session.acceptedBy, hr, h]
    · have hr : w.session.callResult viewer = .ok r := by simp [Session.callResult, hc, ha]
      have ha' : ¬ (viewer.isPresent ∧ r.automation?.isSome) := by simpa [Viewer.isAsked] using ha
      have hb : (w.step (.begin viewer.isPresent)).1 = { w with
          session := w.session.clear, locked := true
          calls := w.calls ++ [.leaving (.ok r)] } := by
        simp [step, begin, h, hc, addCall, ha']
      rw [hb, run_rest_of_leaving viewer during after rfl]
      simp [Session.keptBy, Session.acceptedBy, hr, h, ha]

/-- A call that finds the session locked is refused and leaves everything alone but for
what the messages add. -/
theorem run_callSteps_of_locked (h : w.locked) (viewer : Viewer) (during after : Messages) :
    (w.run (callSteps viewer w.calls.length during after)).1 = { w with
      session := w.session.ingestAll (during ++ after)
      calls := w.calls ++ [.finished (.error .inProgress)] } := by
  have hb : (w.step (.begin viewer.isPresent)).1 = { w with
      calls := w.calls ++ [.finished (.error .inProgress)] } := by
    simp [step, begin, h, addCall]
  unfold callSteps
  rw [run_cons, hb, run_rest_of_finished viewer during after rfl]

/-- The result of the newest call. -/
theorem result?_of_calls {calls : List StopStage} {result : Except StopError Recording}
    (h : w.calls = calls ++ [.finished result]) : w.result? calls.length = some result := by
  simp [result?, stage?, h]

/-- **A call that gives a recording** found the session free, and its viewer did not refuse.
There is no other way to come to one. -/
theorem callResult_of_result?_eq_ok {viewer : Viewer} {during after : Messages} {r : Recording}
    (h : (w.run (callSteps viewer w.calls.length during after)).1.result? w.calls.length =
      some (.ok r)) : w.locked = false ∧ w.session.callResult viewer = .ok r := by
  cases hl : w.locked with
  | true =>
    have hc := run_callSteps_of_locked hl viewer during after
    rw [hc, result?_of_calls rfl] at h
    cases h
  | false =>
    rw [run_callSteps hl, result?_of_calls rfl] at h
    exact ⟨rfl, Option.some.inj h⟩

/-- What an accepted call reports of a connection, and what it leaves there. -/
theorem reported_and_left {during after : Messages} {r : Recording} {url : String}
    {before : List Event}
    (hr : (w.run (callSteps .accepts w.calls.length during after)).1.result? w.calls.length =
      some (.ok r)) (hb : w.session.bufferOf? url = some before) :
    r.buffers.get? url = some before ∧
      (w.run (callSteps .accepts w.calls.length during after)).1.session.bufferOf? url =
        some ((if r.automation?.isSome then [] else during.eventsFor url) ++
          after.eventsFor url) := by
  obtain ⟨hl, hc⟩ := callResult_of_result?_eq_ok hr
  constructor
  · rw [Session.buffers_compile (Session.compile_of_callResult hc), Session.get?_snapshots, hb]
  · rw [run_callSteps hl]
    simp only [Session.bufferOf?_disconnect, Session.keptBy, hc]
    by_cases hd : r.automation?.isSome
    · simp [Viewer.isAsked, Viewer.isPresent, hd, Session.bufferOf?_ingestAll,
        Session.bufferOf?_clear, hb]
    · simp [Viewer.isAsked, hd, Session.bufferOf?_ingestAll, Session.bufferOf?_clear, hb,
        Messages.eventsFor_append]

/-- **What a stop loses.**  A call whose viewer accepts reports of every connection the
events it had when the call began.  It leaves those that arrive meanwhile, but for the
ones that arrive while the viewer shows a document; so what there was and what arrived is
what is reported and what is left just if no viewer was shown a document or no event
arrived meanwhile. -/
theorem reported_append_left_iff {during after : Messages} {r : Recording} {url : String}
    {before : List Event}
    (hr : (w.run (callSteps .accepts w.calls.length during after)).1.result? w.calls.length =
      some (.ok r)) (hb : w.session.bufferOf? url = some before) :
    ∃ reported left, r.buffers.get? url = some reported ∧
      (w.run (callSteps .accepts w.calls.length during after)).1.session.bufferOf? url =
        some left ∧
      reported = before ∧
      left = (if r.automation?.isSome then [] else during.eventsFor url) ++ after.eventsFor url ∧
      (before ++ Messages.eventsFor url (during ++ after) = reported ++ left ↔
        r.automation? = none ∨ during.eventsFor url = []) := by
  obtain ⟨hrep, hleft⟩ := reported_and_left hr hb
  refine ⟨before, _, hrep, hleft, rfl, rfl, ?_⟩
  rw [List.append_cancel_left_eq, Messages.eventsFor_append, List.append_cancel_right_eq]
  cases r.automation? <;> simp

/-- A session with a click. -/
def oneClick : Session where
  connections := [{
    endpoint := .ofUrl "http://a", buffer := [.release 1 "A" (.pointer .left none none)] }]

/-- A key that is typed on the same endpoint. -/
def oneKey : Messages :=
  [("http://a", .obj [("timestamp", .int 2), ("machineName", .str "A"), ("type", .str "keyboard"),
    ("event", .str "keyup"), ("chain", .obj [("path", .arr [.obj [("name", .str "Edit")]])]),
    ("value", .obj [("key", .str "a")])])]

theorem bufferOf?_oneClick :
    oneClick.bufferOf? "http://a" = some [.release 1 "A" (.pointer .left none none)] := rfl

/-- The click has a document that can be shown. -/
theorem exists_document_oneClick :
    ∃ r, oneClick.compile = .ok r ∧ r.automation?.isSome ∧ r.isShallow := by
  have hp : oneClick.IsPlain := ⟨rfl, rfl, by simp [oneClick, Connection.url, Endpoint.ofUrl]⟩
  obtain ⟨a, gs, bs, hc⟩ := hp.exists_document
    ⟨.release 1 "A" (.pointer .left none none),
      by simp [oneClick, Session.snapshots, Snapshots.events],
      Event.survives_release _ _ _⟩
  exact ⟨.document a gs bs, hc, rfl, hp.isShallow_document hc⟩

/-- The call succeeds with a document, whatever is sent while it waits. -/
theorem exists_result_oneClick (during after : Messages) :
    ∃ r, ((run { session := oneClick } (callSteps .accepts 0 during after)).1.result? 0 =
      some (.ok r)) ∧ r.automation?.isSome := by
  obtain ⟨r, hc, hd, hs⟩ := exists_document_oneClick
  have hr : oneClick.callResult .accepts = .ok r := by
    simp [Session.callResult, hc, hs, Viewer.verdict]
  refine ⟨r, ?_, hd⟩
  have hrun := run_callSteps (w := { session := oneClick }) rfl .accepts during after
  rw [hr] at hrun
  exact congrArg (fun w : Stopping => w.result? 0) hrun

/-- A key before the viewer has answered and one after: the first is gone, the second
stays. -/
theorem reported_append_left_oneClick :
    ∃ r e, (run { session := oneClick } (callSteps .accepts 0 oneKey oneKey)).1.result? 0 =
        some (.ok r) ∧ r.buffers.get? "http://a" = oneClick.bufferOf? "http://a" ∧
      (run { session := oneClick } (callSteps .accepts 0 oneKey oneKey)).1.session.bufferOf?
        "http://a" = some [e] ∧ oneKey.eventsFor "http://a" = [e] := by
  obtain ⟨r, hr, hd⟩ := exists_result_oneClick oneKey oneKey
  obtain ⟨reported, left, hrep, hleft, rfl, rfl, -⟩ :=
    reported_append_left_iff (w := { session := oneClick }) hr bufferOf?_oneClick
  obtain ⟨e, he⟩ : ∃ e, oneKey.eventsFor "http://a" = [e] :=
    List.length_eq_one_iff.1 (by decide +kernel)
  refine ⟨r, e, hr, hrep, hleft.trans ?_, he⟩
  rw [hd, he]
  rfl

/-- **A stop can lose an event:** the key typed while the viewer shows the click is in no
result and in no buffer. -/
theorem exists_reported_append_left_ne :
    ∃ r reported left, (run { session := oneClick } (callSteps .accepts 0 oneKey [])).1.result? 0 =
        some (.ok r) ∧ r.buffers.get? "http://a" = some reported ∧
      (run { session := oneClick } (callSteps .accepts 0 oneKey [])).1.session.bufferOf?
        "http://a" = some left ∧
      (oneClick.bufferOf? "http://a").getD [] ++ oneKey.eventsFor "http://a" ≠
        reported ++ left := by
  obtain ⟨r, hr, hd⟩ := exists_result_oneClick oneKey []
  obtain ⟨hrep, hleft⟩ := reported_and_left (w := { session := oneClick }) hr bufferOf?_oneClick
  refine ⟨r, _, _, hr, hrep, hleft, ?_⟩
  rw [hd]
  intro h
  have hlen := congrArg List.length h
  revert hlen
  decide +kernel

end Stopping
end Recorder
