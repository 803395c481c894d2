/-
# A stop that fails

`SPEC_FULL.md` §7, `stop`: exceptions are re-raised after cleanup, and no partial document
is handed to the viewer.

A call of `stop` that fails has lost nothing and can be made again
(`Stopping.retry_of_failed`).  This holds for whatever happens while it is underway:
messages, answers, and other calls, which are turned away.

| why the call failed | what a new call with an accepting viewer gives |
| --- | --- |
| no recording | the same error |
| its viewer refused | the document that was refused |
| its document cannot be shown | the same error |
-/

import Recorder.Proofs.Session.Flight
import Recorder.Proofs.Session.Visible

namespace Recorder

namespace Session

/-- **What a failed call leaves** of a session: the messages that came in meanwhile have
been kept, and the connections are disconnected but for those at fault. -/
theorem disconnect_ingestAll (s : Session) (ms : Messages) (faults : Faults) :
    ((s.ingestAll ms).disconnect faults).1 = { s with connections := s.connections.map fun c =>
      { c with
        buffer := c.buffer ++ ms.eventsFor c.url
        state := if faults.disconnect.has c.url then c.state else .disconnected } } := by
  rw [ingestAll_eq, disconnect, moveTo, List.map_map]
  refine congrArg (fun cs => { s with connections := cs }) (List.map_congr_left fun c _ => ?_)
  rw [Function.comp_apply]
  by_cases hf : faults.disconnect.has c.url = true
  · have hf' : faults.disconnect.has
        (Connection.url { c with buffer := c.buffer ++ ms.eventsFor c.url }) = true := hf
    rw [if_pos hf', if_pos hf]
  · have hf' : ¬ faults.disconnect.has
        (Connection.url { c with buffer := c.buffer ++ ms.eventsFor c.url }) = true := hf
    rw [if_neg hf', if_neg hf]

/-- **What an accepting viewer gets** from a session where a call has failed: the same error
again if the pass failed, and the document that the other viewer refused if that was the
reason. -/
theorem FailsWith.callResult_accepts {s : Session} {e : StopError} (h : s.FailsWith e) :
    (∃ c, e = .compile c ∧ s.compile = .error c ∧ s.callResult .accepts = .error (.compile c) ∧
      s.acceptedBy .accepts = []) ∨
    (∃ reason r, e = .viewer reason ∧ s.compile = .ok r ∧ r.automation?.isSome ∧
      s.callResult .accepts = .ok r ∧ s.acceptedBy .accepts = [r]) ∨
    (∃ r, e = .tooDeep {} ∧ s.compile = .ok r ∧ r.isShallow = false ∧
      s.callResult .accepts = .error (.tooDeep {}) ∧ s.acceptedBy .accepts = []) := by
  cases h with
  | @compile c hc =>
    have hr : s.callResult .accepts = .error (.compile c) := by rw [callResult, hc]
    exact .inl ⟨c, rfl, hc, hr, by rw [acceptedBy, hr]⟩
  | @viewer r reason hc hd hs =>
    have hask : Viewer.isAsked .accepts r = true := hd
    have hr : s.callResult .accepts = .ok r := by
      simp only [callResult, hc, hask, hs, if_true, Viewer.verdict]
    exact .inr (.inl ⟨reason, r, rfl, hc, hd, hr, by simp only [acceptedBy, hr, hask, if_true]⟩)
  | @tooDeep r hc hd hs =>
    have hask : Viewer.isAsked .accepts r = true := hd
    have hr : s.callResult .accepts = .error (.tooDeep {}) := by
      simp only [callResult, hc, hask, hs, if_true, Bool.false_eq_true, if_false]
    exact .inr (.inr ⟨r, rfl, hc, hs, hr, by rw [acceptedBy, hr]⟩)

end Session

namespace Stopping

variable {w : Stopping}

/-- **How a call fails.**  A call of an idle session that ends with an error has left the
session idle, with its buffers as they were but for the messages that came in. -/
theorem failed_of_result? (hw : w.IsIdle) {viewer : Bool} {steps : List StopStep} {x : StopStep}
    {e : StopError} (hn : (w.run (.begin viewer :: steps)).1.result? w.calls.length = none)
    (he : (w.run (.begin viewer :: (steps ++ [x]))).1.result? w.calls.length = some (.error e)) :
    w.session.FailsWith e ∧ (w.run (.begin viewer :: (steps ++ [x]))).1.IsIdle ∧
      (w.run (.begin viewer :: (steps ++ [x]))).1.session =
        ((w.session.ingestAll (messagesOf steps)).disconnect w.faults).1 ∧
      (w.run (.begin viewer :: (steps ++ [x]))).1.faults = w.faults ∧
      (w.run (.begin viewer :: (steps ++ [x]))).1.accepted = w.accepted := by
  obtain ⟨_, hbegin⟩ := hw.underway_begin viewer
  obtain ⟨stage, hrun⟩ := hbegin.run hn
  rw [List.nil_append] at hrun
  have hlast : (w.run (.begin viewer :: (steps ++ [x]))).1 =
      ((w.run (.begin viewer :: steps)).1.step x).1 := by
    rw [← List.cons_append, run_append]
    rfl
  rw [hlast] at he ⊢
  rw [run_cons] at he ⊢
  rcases hrun.step x with ⟨stage', hstep⟩ | ⟨result, rfl, -, hstep⟩
  · rw [hstep.result?_eq_none] at he
    cases he
  · rw [hstep, hrun.inFlight.result?_setCall] at he
    obtain rfl := Option.some.inj he
    obtain ⟨hs, ha⟩ := hrun.undone (by simp)
    have hfails : w.session.FailsWith e := by
      cases hrun.leads with
      | failing hfails => exact hfails
    rw [hstep, ← hs]
    refine ⟨hfails, hrun.inFlight.isIdle_setCall _ _, ?_, hrun.faults, ha⟩
    rw [← hrun.faults]
    rfl

/-- **A stop that fails loses nothing and can be made again.**  If a call of an idle
session is still underway after some steps and fails with the next one, every connection
is what it was, with the events that came in at the end of its buffer, and is
disconnected unless at fault.  The session is idle again, and no recording was accepted.
If no event came in, a new call whose viewer accepts fails with the same error or hands
over the document that the first call refused to. -/
theorem retry_of_failed (hw : w.IsIdle) {viewer : Bool} {steps : List StopStep} {x : StopStep}
    {e : StopError} (hn : (w.run (.begin viewer :: steps)).1.result? w.calls.length = none)
    (he : (w.run (.begin viewer :: (steps ++ [x]))).1.result? w.calls.length = some (.error e)) :
    ∃ w', (w.run (.begin viewer :: (steps ++ [x]))).1 = w' ∧
      w'.session = { w.session with connections := w.session.connections.map fun c =>
        { c with
          buffer := c.buffer ++ (messagesOf steps).eventsFor c.url
          state := if w.faults.disconnect.has c.url then c.state else .disconnected } } ∧
      w'.IsIdle ∧ w'.accepted = w.accepted ∧
      ((∀ c ∈ w.session.connections, (messagesOf steps).eventsFor c.url = []) →
        ∀ during after, ∃ w'', (w'.run (callSteps .accepts w'.calls.length during after)).1 = w'' ∧
          ((∃ c, e = .compile c ∧ w.session.compile = .error c ∧
              w''.result? w'.calls.length = some (.error (.compile c)) ∧
              w''.accepted = w.accepted) ∨
            (∃ reason r, e = .viewer reason ∧ w.session.compile = .ok r ∧ r.automation?.isSome ∧
              w''.result? w'.calls.length = some (.ok r) ∧ w''.accepted = w.accepted ++ [r]) ∨
            (∃ r, e = .tooDeep {} ∧ w.session.compile = .ok r ∧ r.isShallow = false ∧
              w''.result? w'.calls.length = some (.error (.tooDeep {})) ∧
              w''.accepted = w.accepted))) := by
  obtain ⟨hfails, hidle, hs, -, ha⟩ := failed_of_result? hw hn he
  generalize (w.run (.begin viewer :: (steps ++ [x]))).1 = w' at hidle hs ha
  refine ⟨w', rfl, hs.trans (Session.disconnect_ingestAll _ _ _), hidle, ha,
    fun hnone during after => ⟨_, rfl, ?_⟩⟩
  -- The retry finds the buffers of the first call, and disconnecting is not seen.
  have hsame (v : Viewer) : w'.session.callResult v = w.session.callResult v := by
    rw [hs, Session.ingestAll_of_nil hnone, Session.callResult_disconnect]
  have hacc (v : Viewer) : w'.session.acceptedBy v = w.session.acceptedBy v := by
    rw [Session.acceptedBy, Session.acceptedBy, hsame]
  rw [run_callSteps hidle.free, result?_of_calls rfl]
  dsimp only
  rw [hsame, hacc, ha]
  rcases hfails.callResult_accepts with ⟨c, rfl, hc, hr, hl⟩ | ⟨reason, r, rfl, hc, hd, hr, hl⟩ |
    ⟨r, rfl, hc, hd, hr, hl⟩
  · exact .inl ⟨c, rfl, hc, by rw [hr], by rw [hl, List.append_nil]⟩
  · exact .inr (.inl ⟨reason, r, rfl, hc, hd, by rw [hr], by rw [hl]⟩)
  · exact .inr (.inr ⟨r, rfl, hc, hd, by rw [hr], by rw [hl, List.append_nil]⟩)

/-- The viewer of a click fails, after a message that does not decode and another call.
A new call hands the click over. -/
theorem retry_of_failed_oneClick :
    ∃ r, oneClick.compile = .ok r ∧ ∃ w' : Stopping,
      (run { session := oneClick } [.begin true, .ingest "http://a" .null, .begin true,
        .refused 0 "no display", .left 0]).1 = w' ∧ w'.IsIdle ∧
      w'.session.bufferOf? "http://a" = oneClick.bufferOf? "http://a" ∧
      (w'.run (callSteps .accepts w'.calls.length [] [])).1.result? w'.calls.length =
        some (.ok r) ∧
      (w'.run (callSteps .accepts w'.calls.length [] [])).1.accepted = [r] := by
  obtain ⟨r, hc, hd, hs⟩ := exists_document_oneClick
  have hbegin : (step { session := oneClick } (.begin true)).1 =
      { session := oneClick, locked := true, calls := [.showing r] } := by
    simp [step, begin, hc, hd, hs, addCall]
  have hn : (run { session := oneClick } [.begin true, .ingest "http://a" .null, .begin true,
      .refused 0 "no display"]).1.result? 0 = none := by
    rw [run_cons, hbegin]
    rfl
  have he : (run { session := oneClick } [.begin true, .ingest "http://a" .null, .begin true,
      .refused 0 "no display", .left 0]).1.result? 0 = some (.error (.viewer "no display")) := by
    rw [run_cons, hbegin]
    rfl
  obtain ⟨w', hw', hsession, hidle, -, hretry⟩ :=
    retry_of_failed (w := { session := oneClick }) (isIdle_new oneClick {}) hn he
  have hnone : ∀ c ∈ oneClick.connections, Messages.eventsFor c.url
      (messagesOf [.ingest "http://a" .null, .begin true, .refused 0 "no display"]) = [] := by
    decide
  obtain ⟨w'', hw'', hresult⟩ := hretry hnone [] []
  refine ⟨r, hc, w', hw', hidle, ?_, ?_⟩
  · rw [hsession]
    rfl
  · rw [hw'']
    rcases hresult with ⟨c, he, -⟩ | ⟨reason, r', -, hc', -, hr, ha⟩ | ⟨r', he, -⟩
    · cases he
    · obtain rfl := Except.ok.inj (hc.symm.trans hc')
      exact ⟨hr, ha⟩
    · cases he

end Stopping
end Recorder
