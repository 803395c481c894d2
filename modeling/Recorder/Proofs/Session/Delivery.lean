/-
# One call at a time, every event at most once

`SPEC_FULL.md` §7, `stop`: a single call in flight, a second one is refused, and buffers are
cleared only after successful assembly.

However calls, messages and viewers' answers are mixed, no two calls are past the lock at
once, a call that meets another one is turned away without touching anything, and no event
reaches two documents that viewers accepted (`Stopping.single_flight`).

| what happens | what viewers have accepted | the buffers |
| --- | --- | --- |
| a message | the same | its event comes last |
| a call with a viewer begins, or fails | the same | the same |
| a call without one reports | the same | empty |
| a viewer accepts | what its call has found | empty |

A viewer is shown what the buffers held when its call began, and they only grow until it
answers (`Stopping.reported_of_showing`).  So what is accepted in a step, followed by what is
buffered after it, is part of what was buffered before it and of what came in
(`Stopping.exists_accepted_step`), and the same holds of any number of steps.
-/

import Recorder.Proofs.Session.Flight

namespace Recorder

/-- The events of a base URL that a recording reports. -/
def Recording.reported (r : Recording) (url : String) : List Event := (r.buffers.get? url).getD []

namespace Session

/-- The events of a base URL that are buffered. -/
def buffered (s : Session) (url : String) : List Event := (s.bufferOf? url).getD []

/-- Nothing is buffered once the events are forgotten. -/
@[simp] theorem buffered_clear (s : Session) (url : String) : s.clear.buffered url = [] := by
  rw [buffered, bufferOf?_clear]
  cases s.bufferOf? url <;> rfl

/-- Disconnecting keeps what is buffered, also at connections that cannot disconnect. -/
@[simp] theorem buffered_disconnect (s : Session) (faults : Faults) (url : String) :
    (s.disconnect faults).1.buffered url = s.buffered url := by
  rw [buffered, buffered, bufferOf?_disconnect]

/-- **Messages add their own events** at the end, and nothing at all under a base URL that
has no connection. -/
theorem buffered_ingestAll (s : Session) (ms : Messages) (url : String) :
    (s.ingestAll ms).buffered url = s.buffered url ++ ms.eventsFor url ∨
      (s.ingestAll ms).buffered url = [] ∧ s.buffered url = [] := by
  rw [buffered, buffered, bufferOf?_ingestAll]
  cases s.bufferOf? url with
  | none => exact .inr ⟨rfl, rfl⟩
  | some b => exact .inl rfl

/-- What is buffered after messages is part of what was buffered and what they bring, in that
order; an unknown base URL brings nothing. -/
theorem buffered_ingestAll_sublist (s : Session) (ms : Messages) (url : String) :
    ((s.ingestAll ms).buffered url).Sublist (s.buffered url ++ ms.eventsFor url) := by
  rcases buffered_ingestAll s ms url with h | ⟨h, -⟩
  · rw [h]
  · rw [h]
    exact List.nil_sublist _

/-- What was buffered stays in front. -/
theorem buffered_prefix_ingestAll (s : Session) (ms : Messages) (url : String) :
    s.buffered url <+: (s.ingestAll ms).buffered url := by
  rcases buffered_ingestAll s ms url with h | ⟨-, h⟩
  · rw [h]
    exact List.prefix_append _ _
  · rw [h]
    exact List.nil_prefix

/-- A pass reports what is buffered. -/
theorem reported_compile {s : Session} {r : Recording} (h : s.compile = .ok r) (url : String) :
    r.reported url = s.buffered url := by
  rw [Recording.reported, buffers_compile h, get?_snapshots, buffered]

end Session

namespace Stopping

variable {w : Stopping}

/-- A call is past the lock and not over. -/
def Running (w : Stopping) (call : Nat) : Prop :=
  ∃ stage, w.stage? call = some stage ∧ stage.isFinished = false

/-- No call is underway in a session that is idle. -/
theorem IsIdle.not_exists_running (h : w.IsIdle) : ¬ ∃ call, w.Running call :=
  fun ⟨_, _, hc, hr⟩ => h.not_running hc hr

/-- While a call is underway it is the only one. -/
theorem InFlight.running_iff {call other : Nat} {stage : StopStage} (h : w.InFlight call stage) :
    w.Running other ↔ other = call := by
  constructor
  · rintro ⟨stage', ho, hr⟩
    exact (h.eq_of_running ho hr).1
  · rintro rfl
    exact ⟨stage, h.current, h.running⟩

section Schedule

variable (s : Session) (faults : Session.Faults)

/-- **At most one call is past the lock,** whatever the schedule: a second one could only have
passed it while the session was free. -/
theorem running_unique (xs : List StopStep) {c c' : Nat} (h : (s.after faults xs).Running c)
    (h' : (s.after faults xs).Running c') : c = c' := by
  rcases isIdle_or_inFlight s faults xs with hidle | ⟨call, stage, hflight⟩
  · exact absurd ⟨c, h⟩ (IsIdle.not_exists_running hidle)
  · exact ((hflight.running_iff).1 h).trans ((hflight.running_iff).1 h').symm

/-- **A session is locked** just while a call is past the lock, so the lock is given back by
every call that took it, also by one that failed. -/
theorem locked_iff (xs : List StopStep) :
    (s.after faults xs).locked = true ↔ ∃ c, (s.after faults xs).Running c := by
  rcases isIdle_or_inFlight s faults xs with hidle | ⟨call, stage, hflight⟩
  · refine iff_of_false ?_ (IsIdle.not_exists_running hidle)
    exact fun hl => Bool.false_ne_true (hidle.free.symm.trans hl)
  · exact iff_of_true hflight.locked ⟨call, stage, hflight.current, hflight.running⟩

/-- A call that begins while no other one is past the lock gets past it. -/
theorem running_begin (xs : List StopStep) (viewer : Bool)
    (h : ¬ ∃ c, (s.after faults xs).Running c) :
    ((s.after faults xs).step (.begin viewer)).1.Running (s.after faults xs).calls.length := by
  have hfree : (s.after faults xs).locked = false := by
    rwa [← locked_iff, Bool.not_eq_true] at h
  obtain ⟨stage, hunder⟩ := (isIdle_of_free s faults hfree).underway_begin viewer
  exact ⟨stage, hunder.inFlight.current, hunder.inFlight.running⟩

/-! ## What is reported and what is left -/

/-- **What a viewer is shown** was found by a pass, and its events are still in front of
everything in the buffers. -/
theorem reported_of_showing (xs : List StopStep) {call : Nat} {r : Recording}
    (h : (s.after faults xs).stage? call = some (.showing r)) :
    (∃ before, before <+: xs ∧ (s.after faults before).session.compile = .ok r) ∧
      ∀ url, r.reported url <+: (s.after faults xs).session.buffered url := by
  rcases isIdle_or_underway s faults xs with hidle | ⟨before, since, stage, rfl, -, hunder⟩
  · exact (hidle.not_running h rfl).elim
  · obtain ⟨-, rfl⟩ := hunder.inFlight.eq_of_running h rfl
    obtain ⟨hc, -, -⟩ := hunder.leads
    obtain ⟨hs, -⟩ := hunder.undone (by simp)
    refine ⟨⟨before, List.prefix_append before since, hc⟩, fun url => ?_⟩
    rw [hs, Session.reported_compile hc]
    exact Session.buffered_prefix_ingestAll _ _ _

end Schedule

/-- **What one step hands over:** nothing, or what a viewer was shown.  If the buffers
still begin with what viewers are shown, it is part, with what stays buffered, of what was
buffered and what came in. -/
theorem exists_accepted_step (w : Stopping) (x : StopStep)
    (hw : ∀ call r, w.stage? call = some (.showing r) →
      ∀ url, r.reported url <+: w.session.buffered url) :
    ∃ later, (w.step x).1.accepted = w.accepted ++ later ∧
      (∀ r ∈ later, ∃ call, w.stage? call = some (.showing r)) ∧
      ∀ url, (later.flatMap (·.reported url) ++ (w.step x).1.session.buffered url).Sublist
        (w.session.buffered url ++ Messages.eventsFor url x.messages) := by
  have hnone : w.accepted = w.accepted ++ [] := (List.append_nil _).symm
  have hkeep (url : String) (b : List Event) :
      (([] : List Recording).flatMap (·.reported url) ++ w.session.buffered url).Sublist
        (w.session.buffered url ++ b) := List.sublist_append_left _ b
  -- Of all that a step can do, only accepting a document hands something over.
  have hdoes := does_step w x
  generalize (w.step x).1 = w' at hdoes ⊢
  cases hdoes with
  | turnedAway viewer hl => exact ⟨[], hnone, List.forall_mem_nil _, fun url => hkeep url _⟩
  | failed viewer hl hc => exact ⟨[], hnone, List.forall_mem_nil _, fun url => hkeep url _⟩
  | unshowable hl hc hd hs => exact ⟨[], hnone, List.forall_mem_nil _, fun url => hkeep url _⟩
  | asked hl hc hd hs => exact ⟨[], hnone, List.forall_mem_nil _, fun url => hkeep url _⟩
  | reported viewer hl hc hv =>
    refine ⟨[], hnone, List.forall_mem_nil _, fun url => ?_⟩
    have hempty : w.session.clear.buffered url = [] := Session.buffered_clear _ url
    exact hempty ▸ List.nil_sublist _
  | arrived url payload =>
    refine ⟨[], hnone, List.forall_mem_nil _, fun other => ?_⟩
    exact Session.buffered_ingestAll_sublist w.session [(url, payload)] other
  | @accepted call r h =>
    refine ⟨[r], rfl, fun r' hr' => ⟨call, ?_⟩, fun url => ?_⟩
    · obtain rfl := List.mem_singleton.1 hr'
      exact h
    · have hempty : w.session.clear.buffered url = [] := Session.buffered_clear _ url
      have hprefix := (hw call r h url).sublist.trans (List.sublist_append_left _
        (Messages.eventsFor url (StopStep.shown call).messages))
      rw [List.flatMap_singleton]
      exact hempty ▸ (List.append_nil (r.reported url)).symm ▸ hprefix
  | refused reason h => exact ⟨[], hnone, List.forall_mem_nil _, fun url => hkeep url _⟩
  | left h =>
    refine ⟨[], hnone, List.forall_mem_nil _, fun url => ?_⟩
    have hsame : (w.session.disconnect w.faults).1.buffered url = w.session.buffered url :=
      Session.buffered_disconnect _ _ url
    exact hsame ▸ hkeep url _
  | ignored hx => exact ⟨[], hnone, List.forall_mem_nil _, fun url => hkeep url _⟩

/-- **What any number of steps hand over,** followed by what is buffered after them, is part
of what was buffered before them and of what came in meanwhile.  Each recording was found by
a pass at some moment of the schedule. -/
theorem exists_accepted_append (s : Session) (faults : Session.Faults) (xs ys : List StopStep) :
    ∃ later, (s.after faults (xs ++ ys)).accepted = (s.after faults xs).accepted ++ later ∧
      (∀ r ∈ later, ∃ before, before <+: xs ++ ys ∧
        (s.after faults before).session.compile = .ok r) ∧
      ∀ url, (later.flatMap (·.reported url) ++
          (s.after faults (xs ++ ys)).session.buffered url).Sublist
        ((s.after faults xs).session.buffered url ++ Messages.eventsFor url (messagesOf ys)) := by
  induction ys generalizing xs with
  | nil =>
    refine ⟨[], by rw [List.append_nil, List.append_nil], List.forall_mem_nil _, fun url => ?_⟩
    rw [List.append_nil]
    exact List.sublist_append_left _ _
  | cons y ys ih =>
    obtain ⟨here, hacc, hshown, hhere⟩ := exists_accepted_step (s.after faults xs) y
      fun call r h => (reported_of_showing s faults xs h).2
    obtain ⟨later, hacc', hfound, hlater⟩ := ih (xs ++ [y])
    have hsplit : xs ++ y :: ys = xs ++ [y] ++ ys := List.append_cons xs y ys
    rw [← Session.after_concat] at hacc hhere
    rw [hsplit]
    refine ⟨here ++ later, by rw [hacc', hacc, List.append_assoc], fun r hr => ?_, fun url => ?_⟩
    · rcases List.mem_append.1 hr with hr | hr
      · obtain ⟨call, hc⟩ := hshown r hr
        obtain ⟨before, hbefore, hcompile⟩ := (reported_of_showing s faults xs hc).1
        rw [List.append_assoc]
        exact ⟨before, hbefore.trans (List.prefix_append xs _), hcompile⟩
      · exact hfound r hr
    · -- What the first step hands over comes out of what was buffered, the rest out of what
      -- it leaves.
      have hms : Messages.eventsFor url (messagesOf (y :: ys)) =
          Messages.eventsFor url y.messages ++ Messages.eventsFor url (messagesOf ys) := by
        rw [messagesOf, List.flatMap_cons, Messages.eventsFor_append]
        rfl
      have hrest := (hlater url).append_left (here.flatMap (·.reported url))
      have hfirst := (hhere url).append_right (Messages.eventsFor url (messagesOf ys))
      rw [List.append_assoc, List.append_assoc] at hfirst
      rw [List.flatMap_append, List.append_assoc, hms]
      exact hrest.trans hfirst

/-- **A call that meets another one** is turned away at once and leaves everything as it is:
the session, the other calls, and what viewers have been shown.  It has its result from the
start. -/
theorem begin_of_running (s : Session) (faults : Session.Faults) (xs : List StopStep)
    (viewer : Bool) (h : ∃ c, (s.after faults xs).Running c) :
    (s.after faults xs).step (.begin viewer) =
      ((s.after faults xs).addCall (.finished (.error .inProgress)), []) := by
  rw [step, begin, if_pos ((locked_iff s faults xs).2 h)]

/-- **One call at a time, every event at most once.**  After any schedule at most one call is
past the lock.  A call that begins while there is one is turned away for good: it reports
nothing, leaves the session and what viewers have accepted as they are, and never asks its
viewer; a call that begins while there is none gets past.  When a viewer accepts, what it
was shown is handed over and no buffer keeps anything.  And whatever happens after that
schedule, the recordings that viewers accept from then on were found by passes, and what
they report of a base URL, one after the other, followed by what stays buffered, is part of
what was buffered and of what came in, in this order. -/
theorem single_flight (s : Session) (faults : Session.Faults) (xs : List StopStep) :
    ∃ w, s.after faults xs = w ∧
      (∀ c c', w.Running c → w.Running c' → c = c') ∧
      (∀ viewer, (∃ c, w.Running c) →
        w.step (.begin viewer) = (w.addCall (.finished (.error .inProgress)), []) ∧
        ∀ ys, (s.after faults (xs ++ .begin viewer :: ys)).result? w.calls.length =
          some (.error .inProgress)) ∧
      (∀ viewer, (¬ ∃ c, w.Running c) → (w.step (.begin viewer)).1.Running w.calls.length) ∧
      (∀ call r, w.stage? call = some (.showing r) → ∃ w', (w.step (.shown call)).1 = w' ∧
        w'.accepted = w.accepted ++ [r] ∧ ∀ url, w'.session.buffered url = []) ∧
      ∀ ys, ∃ later, (s.after faults (xs ++ ys)).accepted = w.accepted ++ later ∧
        (∀ r ∈ later, ∃ before, before <+: xs ++ ys ∧
          (s.after faults before).session.compile = .ok r) ∧
        ∀ url, (later.flatMap (·.reported url) ++
            (s.after faults (xs ++ ys)).session.buffered url).Sublist
          (w.session.buffered url ++ Messages.eventsFor url (messagesOf ys)) := by
  refine ⟨_, rfl, fun c c' => running_unique s faults xs, fun viewer hbusy => ?_,
    running_begin s faults xs, fun call r h => ?_, exists_accepted_append s faults xs⟩
  · have haway := begin_of_running s faults xs viewer hbusy
    refine ⟨haway, fun ys => ?_⟩
    have hover : ((s.after faults xs).step (.begin viewer)).1.result?
        (s.after faults xs).calls.length = some (.error .inProgress) := by
      rw [haway, result?_of_calls rfl]
    rw [Session.after_append, run_cons]
    exact result?_run hover ys
  · refine ⟨_, rfl, ?_, fun url => ?_⟩
    · rw [step, h]
      rfl
    · rw [step, h]
      exact Session.buffered_clear _ url

/-- A click is handed over while a second call is turned away; only the key that comes in
afterwards is left for any other document. -/
theorem single_flight_oneClick :
    ∃ r, oneClick.compile = .ok r ∧
      (oneClick.after {} [.begin true, .begin true]).result? 1 = some (.error .inProgress) ∧
      ∃ w : Stopping, oneClick.after {} [.begin true, .begin true, .shown 0] = w ∧
        w.accepted = [r] ∧ r.reported "http://a" = [.release 1 "A" (.pointer .left none none)] ∧
        ∀ ys, ∃ later, (oneClick.after {}
            ([.begin true, .begin true, .shown 0] ++ ys)).accepted = r :: later ∧
          (later.flatMap (·.reported "http://a")).Sublist
            (Messages.eventsFor "http://a" (messagesOf ys)) := by
  obtain ⟨r, hc, hd, hs⟩ := exists_document_oneClick
  have hbegin : oneClick.after {} [.begin true] =
      { session := oneClick, locked := true, calls := [.showing r] } := by
    simp [Session.after, run, step, begin, hc, hd, hs, addCall]
  have hrunning : (oneClick.after {} [.begin true]).Running 0 := by
    rw [hbegin]
    exact ⟨.showing r, rfl, rfl⟩
  obtain ⟨w₁, rfl, -, haway, -, -, -⟩ := single_flight oneClick {} [.begin true]
  obtain ⟨hstep, hover⟩ := haway true ⟨0, hrunning⟩
  have hlength : (oneClick.after {} [.begin true]).calls.length = 1 := by rw [hbegin]; rfl
  have htwice : oneClick.after {} [.begin true, .begin true] =
      { session := oneClick, locked := true
        calls := [.showing r, .finished (.error .inProgress)] } := by
    have hsplit := oneClick.after_concat {} [.begin true] (.begin true)
    rw [hstep, hbegin] at hsplit
    exact hsplit
  obtain ⟨w₂, rfl, -, -, -, haccept, -⟩ := single_flight oneClick {} [.begin true, .begin true]
  obtain ⟨w₃, hw₃, hacc, hempty⟩ := haccept 0 r (by rw [htwice]; rfl)
  rw [htwice] at hacc
  have hlast : oneClick.after {} [.begin true, .begin true, .shown 0] = w₃ :=
    (oneClick.after_concat {} [.begin true, .begin true] (.shown 0)).trans hw₃
  refine ⟨r, hc, hlength ▸ hover [], w₃, hlast, hacc, ?_, fun ys => ?_⟩
  · rw [Session.reported_compile hc, Session.buffered, bufferOf?_oneClick]
    rfl
  · obtain ⟨w₄, hw₄, -, -, -, -, hlater⟩ :=
      single_flight oneClick {} [.begin true, .begin true, .shown 0]
    obtain ⟨later, hall, -, hsub⟩ := hlater ys
    rw [← hw₄, hlast, hacc] at hall
    refine ⟨later, hall, ?_⟩
    have hurl := hsub "http://a"
    rw [← hw₄, hlast, hempty, List.nil_append] at hurl
    exact (List.sublist_append_left _ _).trans hurl

end Stopping
end Recorder
