/-
# One call at a time

`SPEC_FULL.md` §7, `stop`: the single in-flight guard, and what its lock protects.

A session that is being stopped is free or has one call in progress, whatever calls,
messages and answers come in (`Stopping.isIdle_or_inFlight`).

`Stopping.Does` says what a step can do, one case for each way it can go; everything
else about schedules is read off from it.  A call that has begun goes through its
stages by its own steps only.  Until it leaves with a recording it can still be taken
back: no event is forgotten and no recording accepted (`Stopping.Underway`), so a
call that fails has done nothing but add the messages that came in.
-/

import Recorder.Proofs.Session.Stopping

namespace Recorder

/-- Whether a call is over. -/
def StopStage.isFinished : StopStage → Bool
  | .finished _ => true
  | _ => false

namespace StopStep

/-- The call that a step is meant for.  A new call and a message are meant for none. -/
def call? : StopStep → Option Nat
  | .begin _ => none
  | .ingest .. => none
  | .shown call => some call
  | .refused call _ => some call
  | .left call => some call

/-- The messages of a step. -/
def messages : StopStep → Messages
  | .ingest url payload => [(url, payload)]
  | _ => []

end StopStep

namespace Session

/-- **Why a call fails that finds the session free:** its pass fails, or its document is too
deep to be shown.  A viewer that refuses is another matter, as it is asked later. -/
inductive FailsWith (s : Session) : StopError → Prop
  | compile {e : CompileError} (hc : s.compile = .error e) : FailsWith s (.compile e)
  | tooDeep {r : Recording} (hc : s.compile = .ok r) (hd : r.automation?.isSome)
      (hs : r.isShallow = false) : FailsWith s (.tooDeep {})
  | viewer {r : Recording} (reason : String) (hc : s.compile = .ok r) (hd : r.automation?.isSome)
      (hs : r.isShallow) : FailsWith s (.viewer reason)

/-- How far a call can come whose pass was made of a session.  It says what the stages of a
call remember of the session that it began with. -/
inductive Leads (s : Session) : StopStage → Prop
  | showing {r : Recording} (hc : s.compile = .ok r) (hd : r.automation?.isSome)
      (hs : r.isShallow) : Leads s (.showing r)
  | failing {e : StopError} (he : s.FailsWith e) : Leads s (.leaving (.error e))
  | reported {r : Recording} (hc : s.compile = .ok r) : Leads s (.leaving (.ok r))

/-- A session after a schedule. -/
def after (s : Session) (faults : Faults) (steps : List StopStep) : Stopping :=
  (Stopping.run { session := s, faults } steps).1

/-- A schedule in two parts leaves what the second part makes of what the first one leaves. -/
theorem after_append (s : Session) (faults : Faults) (xs ys : List StopStep) :
    s.after faults (xs ++ ys) = ((s.after faults xs).run ys).1 := Stopping.run_append _ xs ys

theorem after_concat (s : Session) (faults : Faults) (xs : List StopStep) (x : StopStep) :
    s.after faults (xs ++ [x]) = ((s.after faults xs).step x).1 := s.after_append faults xs [x]

end Session

namespace Stopping

variable {w : Stopping}

/-- The messages of a schedule, in order of arrival. -/
def messagesOf (steps : List StopStep) : Messages := steps.flatMap StopStep.messages

/-! ## The stages of the calls -/

/-- A new call is at the stage that it is added with, and no other call moves. -/
theorem stage?_addCall (w : Stopping) (stage : StopStage) (call : Nat) :
    (w.addCall stage).stage? call = if call = w.calls.length then some stage else w.stage? call := by
  rw [stage?, addCall, List.getElem?_append]
  split
  · rename_i hlt
    rw [if_neg (Nat.ne_of_lt hlt)]
    rfl
  · rename_i hge
    have hge : w.calls.length ≤ call := Nat.le_of_not_lt hge
    by_cases heq : call = w.calls.length
    · rw [if_pos heq, heq, Nat.sub_self]
      rfl
    · have hlt : w.calls.length < call := Nat.lt_of_le_of_ne hge (Ne.symm heq)
      rw [if_neg heq, stage?, List.getElem?_eq_none hge, List.getElem?_eq_none]
      exact Nat.sub_pos_of_lt hlt

/-- A call that moves is at its new stage, and no other call moves. -/
theorem stage?_setCall {call : Nat} {old : StopStage} (h : w.stage? call = some old)
    (new : StopStage) (other : Nat) :
    (w.setCall call new).stage? other = if other = call then some new else w.stage? other := by
  have hlt : call < w.calls.length := (List.getElem?_eq_some_iff.1 h).1
  rw [stage?, setCall]
  by_cases heq : other = call
  · rw [if_pos heq, heq, List.getElem?_set_self hlt]
  · rw [if_neg heq, List.getElem?_set_ne (Ne.symm heq)]
    rfl

/-- The next call has not begun yet. -/
theorem stage?_length (w : Stopping) : w.stage? w.calls.length = none :=
  List.getElem?_eq_none (Nat.le_refl _)

/-- A call has a result just when it is finished with it. -/
theorem result?_eq_some {call : Nat} {result : Except StopError Recording} :
    w.result? call = some result ↔ w.stage? call = some (.finished result) := by
  rw [result?]
  cases w.stage? call with
  | none => simp
  | some stage => cases stage <;> simp

/-! ## What a step can do -/

/-- **What a step does** to a session that is being stopped, case by case.  `does_step` says
that a step does one of these things, so nothing after it has to look into a step again. -/
inductive Does (w : Stopping) : StopStep → Stopping → Prop
  /-- A call finds the session locked. -/
  | turnedAway (viewer : Bool) (hl : w.locked) :
      Does w (.begin viewer) (w.addCall (.finished (.error .inProgress)))
  /-- A call has no recording. -/
  | failed (viewer : Bool) {e : CompileError} (hl : w.locked = false)
      (hc : w.session.compile = .error e) :
      Does w (.begin viewer) ({ w with locked := true }.addCall (.leaving (.error (.compile e))))
  /-- A call has a document that cannot be shown. -/
  | unshowable {r : Recording} (hl : w.locked = false) (hc : w.session.compile = .ok r)
      (hd : r.automation?.isSome) (hs : r.isShallow = false) :
      Does w (.begin true) ({ w with locked := true }.addCall (.leaving (.error (.tooDeep {}))))
  /-- A call asks its viewer. -/
  | asked {r : Recording} (hl : w.locked = false) (hc : w.session.compile = .ok r)
      (hd : r.automation?.isSome) (hs : r.isShallow) :
      Does w (.begin true) ({ w with locked := true }.addCall (.showing r))
  /-- A call has a recording and nobody to ask. -/
  | reported (viewer : Bool) {r : Recording} (hl : w.locked = false)
      (hc : w.session.compile = .ok r) (hv : (viewer && r.automation?.isSome) = false) :
      Does w (.begin viewer)
        ({ w with session := w.session.clear, locked := true }.addCall (.leaving (.ok r)))
  | arrived (url : String) (payload : Json) :
      Does w (.ingest url payload) { w with session := w.session.ingest url payload }
  | accepted {call : Nat} {r : Recording} (h : w.stage? call = some (.showing r)) :
      Does w (.shown call)
        ({ w with session := w.session.clear, accepted := w.accepted ++ [r] }.setCall call
          (.leaving (.ok r)))
  | refused {call : Nat} {r : Recording} (reason : String) (h : w.stage? call = some (.showing r)) :
      Does w (.refused call reason) (w.setCall call (.leaving (.error (.viewer reason))))
  | left {call : Nat} {result : Except StopError Recording}
      (h : w.stage? call = some (.leaving result)) :
      Does w (.left call)
        ({ w with session := (w.session.disconnect w.faults).1, locked := false }.setCall call
          (.finished result))
  /-- The call does not wait for this step. -/
  | ignored {x : StopStep} {call : Nat} (hx : x.call? = some call) : Does w x w

/-- A step does one of these things, and nothing else.  No later proof opens the definition of
a step. -/
theorem does_step (w : Stopping) (x : StopStep) : w.Does x (w.step x).1 := by
  cases x with
  | begin viewer =>
    cases hl : w.locked with
    | true =>
      rw [step, begin, if_pos hl]
      exact .turnedAway viewer hl
    | false =>
      have hl' : ¬ w.locked = true := by simp [hl]
      rw [step, begin, if_neg hl']
      cases hc : w.session.compile with
      | error e =>
        simp only [hc]
        exact .failed viewer hl hc
      | ok r =>
        simp only [hc]
        cases hv : viewer && r.automation?.isSome with
        | false =>
          rw [if_neg Bool.false_ne_true]
          exact .reported viewer hl hc hv
        | true =>
          obtain ⟨rfl, hd⟩ := Bool.and_eq_true_iff.1 hv
          rw [if_pos rfl]
          cases hs : r.isShallow with
          | true =>
            rw [if_pos rfl]
            exact .asked hl hc hd hs
          | false =>
            rw [if_neg Bool.false_ne_true]
            exact .unshowable hl hc hd hs
  | ingest url payload => exact .arrived url payload
  | shown call =>
    rw [step]
    split
    · rename_i r h
      exact .accepted h
    · exact .ignored rfl
  | refused call reason =>
    rw [step]
    split
    · rename_i r h
      exact .refused reason h
    · exact .ignored rfl
  | left call =>
    rw [step]
    split
    · rename_i result h
      exact .left h
    · exact .ignored rfl

/-- **A result stays** whatever comes after it, because a step moves only the call that it is
for, and a call that is over has no step. -/
theorem result?_step {call : Nat} {result : Except StopError Recording}
    (h : w.result? call = some result) (x : StopStep) :
    (w.step x).1.result? call = some result := by
  rw [result?_eq_some] at h ⊢
  -- A call that is over is not new, and none of the others.
  have hadd {w' : Stopping} (hc : w'.calls = w.calls) (stage : StopStage) :
      (w'.addCall stage).stage? call = some (.finished result) := by
    have hne : call ≠ w'.calls.length := by
      rintro rfl
      rw [hc, stage?_length] at h
      cases h
    rw [stage?_addCall, if_neg hne, stage?, hc]
    exact h
  have hset {w' : Stopping} (hc : w'.calls = w.calls) {other : Nat} {old : StopStage}
      (ho : w.stage? other = some old) (hr : old.isFinished = false) (new : StopStage) :
      (w'.setCall other new).stage? call = some (.finished result) := by
    have hne : call ≠ other := by
      rintro rfl
      obtain rfl := Option.some.inj (h.symm.trans ho)
      cases hr
    have ho' : w'.stage? other = some old := by rw [stage?, hc]; exact ho
    rw [stage?_setCall ho', if_neg hne, stage?, hc]
    exact h
  have hdoes := does_step w x
  generalize (w.step x).1 = w' at hdoes
  cases hdoes with
  | turnedAway viewer hl => exact hadd rfl _
  | failed viewer hl hc => exact hadd rfl _
  | unshowable hl hc hd hs => exact hadd rfl _
  | asked hl hc hd hs => exact hadd rfl _
  | reported viewer hl hc hv => exact hadd rfl _
  | arrived url payload => exact h
  | accepted ho => exact hset rfl ho rfl _
  | refused reason ho => exact hset rfl ho rfl _
  | left ho => exact hset rfl ho rfl _
  | ignored hx => exact h

/-- **A result is final:** whatever happens afterwards, the call keeps it.  No step moves a
call that is finished. -/
theorem result?_run {call : Nat} {result : Except StopError Recording}
    (h : w.result? call = some result) (steps : List StopStep) :
    (w.run steps).1.result? call = some result := by
  induction steps generalizing w with
  | nil => exact h
  | cons x steps ih => exact ih (result?_step h x)

/-! ## Idle, or one call in flight -/

/-- **No call is in progress:** the session is free and all calls are over.  Every session
begins so. -/
structure IsIdle (w : Stopping) : Prop where
  free : w.locked = false
  ended : ∀ call stage, w.stage? call = some stage → stage.isFinished = true

/-- **One call is in progress,** at some stage before its end: the session is locked,
and all other calls are over. -/
structure InFlight (w : Stopping) (call : Nat) (stage : StopStage) : Prop where
  locked : w.locked = true
  current : w.stage? call = some stage
  running : stage.isFinished = false
  others : ∀ other stage', w.stage? other = some stage' → other ≠ call →
    stage'.isFinished = true

/-- A session that nobody has stopped yet is idle. -/
theorem isIdle_new (s : Session) (faults : Session.Faults) : IsIdle { session := s, faults } :=
  ⟨rfl, fun _ _ h => by simp [stage?] at h⟩

/-- A call that is not over is the one in flight, at the same stage. -/
theorem InFlight.eq_of_running {call other : Nat} {stage stage' : StopStage}
    (h : w.InFlight call stage) (ho : w.stage? other = some stage')
    (hr : stage'.isFinished = false) : other = call ∧ stage' = stage := by
  have heq : other = call := by
    by_contra hne
    rw [h.others other stage' ho hne] at hr
    cases hr
  subst heq
  exact ⟨rfl, Option.some.inj (ho.symm.trans h.current)⟩

/-- In an idle session every call is finished. -/
theorem IsIdle.not_running (h : w.IsIdle) {call : Nat} {stage : StopStage}
    (hc : w.stage? call = some stage) (hr : stage.isFinished = false) : False := by
  rw [h.ended call stage hc] at hr
  cases hr

/-- A call that is turned away is over at once. -/
theorem InFlight.addCall {call : Nat} {stage : StopStage} (h : w.InFlight call stage)
    (result : Except StopError Recording) : (w.addCall (.finished result)).InFlight call stage := by
  have hne : call ≠ w.calls.length := by
    rintro rfl
    have hcurrent := h.current
    rw [stage?_length] at hcurrent
    cases hcurrent
  refine ⟨h.locked, ?_, h.running, fun other stage' ho hother => ?_⟩
  · rw [stage?_addCall, if_neg hne]
    exact h.current
  · rw [stage?_addCall] at ho
    split at ho
    · obtain rfl := Option.some.inj ho
      rfl
    · exact h.others other stage' ho hother

/-- A new call of an idle session is in flight, the only one. -/
theorem IsIdle.inFlight_addCall (h : w.IsIdle) (session : Session) {stage : StopStage}
    (hr : stage.isFinished = false) :
    ({ w with session, locked := true }.addCall stage).InFlight w.calls.length stage := by
  refine ⟨rfl, ?_, hr, fun other stage' ho hne => ?_⟩
  · rw [stage?_addCall, if_pos rfl]
  · rw [stage?_addCall, if_neg hne] at ho
    exact h.ended other stage' ho

/-- The call in flight goes on to another stage. -/
theorem InFlight.setCall {call : Nat} {stage stage' : StopStage} (h : w.InFlight call stage)
    (session : Session) (accepted : List Recording) (hr : stage'.isFinished = false) :
    ({ w with session, accepted }.setCall call stage').InFlight call stage' := by
  have hcur : stage? { w with session, accepted } call = some stage := h.current
  refine ⟨h.locked, ?_, hr, fun other old ho hne => ?_⟩
  · rw [stage?_setCall hcur, if_pos rfl]
  · rw [stage?_setCall hcur, if_neg hne] at ho
    exact h.others other old ho hne

/-- The call in flight is over. -/
theorem InFlight.isIdle_setCall {call : Nat} {stage : StopStage} (h : w.InFlight call stage)
    (session : Session) (result : Except StopError Recording) :
    ({ w with session, locked := false }.setCall call (.finished result)).IsIdle := by
  have hcur : stage? { w with session, locked := false } call = some stage := h.current
  refine ⟨rfl, fun other old ho => ?_⟩
  by_cases hne : other = call
  · rw [stage?_setCall hcur, if_pos hne] at ho
    obtain rfl := Option.some.inj ho
    rfl
  · rw [stage?_setCall hcur, if_neg hne] at ho
    exact h.others other old ho hne

/-- The call that was in flight has its result. -/
theorem InFlight.result?_setCall {call : Nat} {stage : StopStage} (h : w.InFlight call stage)
    (session : Session) (result : Except StopError Recording) :
    ({ w with session, locked := false }.setCall call (.finished result)).result? call =
      some result := by
  have hcur : stage? { w with session, locked := false } call = some stage := h.current
  rw [result?_eq_some, stage?_setCall hcur, if_pos rfl]

/-! ## A call from its beginning -/

/-- **A call in flight** that began when the session was `w₀`, with the messages that
have come in since.  Unless it leaves with a recording it can still be taken back. -/
structure Underway (w₀ : Stopping) (ms : Messages) (w : Stopping) (stage : StopStage) : Prop where
  inFlight : w.InFlight w₀.calls.length stage
  faults : w.faults = w₀.faults
  leads : w₀.session.Leads stage
  undone : (∀ r, stage ≠ .leaving (.ok r)) →
    w.session = w₀.session.ingestAll ms ∧ w.accepted = w₀.accepted

/-- A call that is in flight has no result. -/
theorem Underway.result?_eq_none {w₀ : Stopping} {ms : Messages} {stage : StopStage}
    (h : Underway w₀ ms w stage) : w.result? w₀.calls.length = none := by
  have hrun := h.inFlight.running
  rw [result?, h.inFlight.current]
  cases stage with
  | finished result => cases hrun
  | showing r => rfl
  | leaving result => rfl

/-- **A call of an idle session** is underway after its first step, with nothing taken in
since: it waits for its viewer, or for the connections to leave. -/
theorem IsIdle.underway_begin (h : w.IsIdle) (viewer : Bool) :
    ∃ stage, Underway w [] (w.step (.begin viewer)).1 stage := by
  have hdoes := does_step w (.begin viewer)
  generalize (w.step (.begin viewer)).1 = w' at hdoes
  cases hdoes with
  | turnedAway _ hl => exact absurd (hl.symm.trans h.free) (by simp)
  | failed _ hl hc =>
    exact ⟨_, h.inFlight_addCall _ rfl, rfl, .failing (.compile hc), fun _ => ⟨rfl, rfl⟩⟩
  | unshowable hl hc hd hs =>
    exact ⟨_, h.inFlight_addCall _ rfl, rfl, .failing (.tooDeep hc hd hs),
      fun _ => ⟨rfl, rfl⟩⟩
  | asked hl hc hd hs =>
    exact ⟨_, h.inFlight_addCall _ rfl, rfl, .showing hc hd hs, fun _ => ⟨rfl, rfl⟩⟩
  | reported _ hl hc hv =>
    exact ⟨_, h.inFlight_addCall _ rfl, rfl, .reported hc, fun hne => absurd rfl (hne _)⟩
  | ignored hx => cases hx

/-- **One step of a schedule while a call is underway:** it stays underway, or it ends with
the result it left with.  Messages come in, other calls are turned away, and answers meant for
other calls change nothing. -/
theorem Underway.step {w₀ : Stopping} {ms : Messages} {stage : StopStage}
    (h : Underway w₀ ms w stage) (x : StopStep) :
    (∃ stage', Underway w₀ (ms ++ x.messages) (w.step x).1 stage') ∨
      ∃ result, stage = .leaving result ∧ x.messages = [] ∧ (w.step x).1 =
        { w with session := (w.session.disconnect w.faults).1, locked := false }.setCall
          w₀.calls.length (.finished result) := by
  have hdoes := does_step w x
  generalize (w.step x).1 = w' at hdoes
  cases hdoes with
  | turnedAway viewer hl =>
    have hm : ms ++ (StopStep.begin viewer).messages = ms := List.append_nil ms
    rw [hm]
    exact .inl ⟨stage, h.inFlight.addCall _, h.faults, h.leads, h.undone⟩
  | failed viewer hl hc => exact absurd (h.inFlight.locked.symm.trans hl) (by simp)
  | unshowable hl hc hd hs => exact absurd (h.inFlight.locked.symm.trans hl) (by simp)
  | asked hl hc hd hs => exact absurd (h.inFlight.locked.symm.trans hl) (by simp)
  | reported viewer hl hc hv => exact absurd (h.inFlight.locked.symm.trans hl) (by simp)
  | arrived url payload =>
    refine .inl ⟨stage, ⟨h.inFlight.locked, h.inFlight.current, h.inFlight.running,
      h.inFlight.others⟩, h.faults, h.leads, fun hne => ?_⟩
    obtain ⟨hs, ha⟩ := h.undone hne
    refine ⟨?_, ha⟩
    rw [StopStep.messages, Session.ingestAll_append, ← hs]
    rfl
  | accepted hc =>
    obtain ⟨rfl, rfl⟩ := h.inFlight.eq_of_running hc rfl
    obtain ⟨hc, hd, hs⟩ := h.leads
    exact .inl ⟨_, h.inFlight.setCall _ _ rfl, h.faults, .reported hc,
      fun hne => absurd rfl (hne _)⟩
  | refused reason hc =>
    obtain ⟨rfl, rfl⟩ := h.inFlight.eq_of_running hc rfl
    obtain ⟨hs, ha⟩ := h.undone (by simp)
    obtain ⟨hc, hd, hsh⟩ := h.leads
    have hm : ms ++ (StopStep.refused w₀.calls.length reason).messages = ms := List.append_nil ms
    rw [hm]
    exact .inl ⟨_, h.inFlight.setCall _ _ rfl, h.faults, .failing (.viewer reason hc hd hsh),
      fun _ => ⟨hs, ha⟩⟩
  | left hc =>
    obtain ⟨rfl, rfl⟩ := h.inFlight.eq_of_running hc rfl
    exact .inr ⟨_, rfl, rfl, rfl⟩
  | ignored hx =>
    have hm : x.messages = [] := by cases x <;> first | rfl | cases hx
    rw [hm, List.append_nil]
    exact .inl ⟨stage, h⟩

/-- **A schedule while a call is underway:** as long as the call has no result it stays
underway, with all messages of the schedule taken in.  The induction is on the schedule, by
`Underway.step`. -/
theorem Underway.run {w₀ : Stopping} {ms : Messages} {stage : StopStage}
    (h : Underway w₀ ms w stage) {steps : List StopStep}
    (hn : (w.run steps).1.result? w₀.calls.length = none) :
    ∃ stage', Underway w₀ (ms ++ messagesOf steps) (w.run steps).1 stage' := by
  induction steps generalizing w ms stage with
  | nil => exact ⟨stage, by rw [messagesOf, List.flatMap_nil, List.append_nil]; exact h⟩
  | cons x steps ih =>
    rcases h.step x with ⟨stage', h'⟩ | ⟨result, hs, -, hw⟩
    · rw [messagesOf, List.flatMap_cons, ← List.append_assoc]
      exact ih h' hn
    · have hover : (w.step x).1.result? w₀.calls.length = some result := by
        rw [hw]
        exact h.inFlight.result?_setCall _ _
      rw [run_cons, result?_run hover] at hn
      cases hn

/-- **One step of an idle session** leaves it idle, or a call is underway since.  Only a call
that begins makes the difference. -/
theorem IsIdle.step (h : w.IsIdle) (x : StopStep) :
    (w.step x).1.IsIdle ∨ ∃ stage, Underway w x.messages (w.step x).1 stage := by
  have hbegin (viewer : Bool) (hx : x = .begin viewer) :
      ∃ stage, Underway w x.messages (w.step x).1 stage := by
    subst hx
    exact h.underway_begin viewer
  have hdoes := does_step w x
  generalize (w.step x).1 = w' at hdoes hbegin ⊢
  -- Only a new call ends the idleness; every other step needs a call that is in progress.
  cases hdoes with
  | turnedAway viewer hl => exact .inr (hbegin viewer rfl)
  | failed viewer hl hc => exact .inr (hbegin viewer rfl)
  | unshowable hl hc hd hs => exact .inr (hbegin true rfl)
  | asked hl hc hd hs => exact .inr (hbegin true rfl)
  | reported viewer hl hc hv => exact .inr (hbegin viewer rfl)
  | arrived url payload => exact .inl ⟨h.free, h.ended⟩
  | accepted hc => exact (h.not_running hc rfl).elim
  | refused reason hc => exact (h.not_running hc rfl).elim
  | left hc => exact (h.not_running hc rfl).elim
  | ignored hx => exact .inl h

/-! ## After any schedule -/

section Schedule

variable (s : Session) (faults : Session.Faults)

/-- **After any schedule** a session is idle, or a call is underway that began when it was.
Whatever is proved of calls that are underway therefore holds at every moment. -/
theorem isIdle_or_underway (xs : List StopStep) :
    (s.after faults xs).IsIdle ∨ ∃ before since stage, xs = before ++ since ∧
      (s.after faults before).IsIdle ∧
      Underway (s.after faults before) (messagesOf since) (s.after faults xs) stage := by
  induction xs using List.reverseRecOn with
  | nil => exact .inl (isIdle_new s faults)
  | append_singleton xs x ih =>
    rw [Session.after_concat]
    rcases ih with hidle | ⟨before, since, stage, rfl, hbefore, hunder⟩
    · rcases hidle.step x with h | ⟨stage, h⟩
      · exact .inl h
      · refine .inr ⟨xs, [x], stage, rfl, hidle, ?_⟩
        rwa [messagesOf, List.flatMap_singleton]
    · rcases hunder.step x with ⟨stage', h⟩ | ⟨result, rfl, -, h⟩
      · refine .inr ⟨before, since ++ [x], stage', List.append_assoc _ _ _, hbefore, ?_⟩
        rwa [messagesOf, List.flatMap_append, List.flatMap_singleton]
      · rw [h]
        exact .inl (hunder.inFlight.isIdle_setCall _ _)

/-- **A session is idle or has one call in flight,** at every place of every schedule.  This
is the invariant that the laws about calls are read off. -/
theorem isIdle_or_inFlight (xs : List StopStep) :
    (s.after faults xs).IsIdle ∨ ∃ call stage, (s.after faults xs).InFlight call stage := by
  rcases isIdle_or_underway s faults xs with hidle | ⟨_, _, stage, -, -, hunder⟩
  · exact .inl hidle
  · exact .inr ⟨_, stage, hunder.inFlight⟩

/-- **A call that finds the session free** finds it idle, with every call before it finished. -/
theorem isIdle_of_free {xs : List StopStep} (h : (s.after faults xs).locked = false) :
    (s.after faults xs).IsIdle := by
  rcases isIdle_or_inFlight s faults xs with hidle | ⟨call, stage, hflight⟩
  · exact hidle
  · exact absurd (hflight.locked.symm.trans h) (by simp)

end Schedule

end Stopping
end Recorder
