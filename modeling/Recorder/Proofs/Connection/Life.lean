/-
# What a capture shows

`SPEC_FULL.md` §3: `start`, the reconnection loop and `disconnect`, call by call.

`Seen` says what is known of a capture from what was seen of it: its connection up to what it has
taken in since, how much of the script is left, and what its task goes on with.  A call shows only
what is permitted and is known of again (`Seen.step`), so all calls do (`Seen.life`).

| a call | by |
| --- | --- |
| starting | `Seen.start` |
| a turn of the task | `follows_turn`, from `follows_settle` and `isLawful_cycle` |
| disconnecting | `ends_cancel` and `goes_part` |
-/

import Recorder.Proofs.Connection.Watch

namespace Recorder
namespace Capture

open Connection Watch

variable {script : List Attempt} {w : Watch} {c : Connection}

/-! ## One turn -/

/-- What a task did before it had to wait again: it is permitted, the rest of the script is still
to come, and what the task goes on with is due. -/
structure Stopped.Follows (script : List Attempt) (w : Watch) (s : Stopped) : Prop where
  permits : w.Permits script (s.story.map .told)
  grows : Grows (w.hear s.story).connection s.connection
  attempts : s.attempts = script.drop (w.hear s.story).begun
  waiting : ∃ t, s.waiting = some t ∧ t.IsDue script (w.hear s.story)

/-- What a task does may follow on what was told before, if that was permitted itself, since a
story is watched from where the one before it ended. -/
theorem Stopped.Follows.after {told : Story} {s : Stopped}
    (htold : w.Permits script (told.map .told)) (h : Follows script (w.hear told) s) :
    Follows script w (s.after told) where
  permits := by
    rw [Stopped.after, List.map_append, permits_append]
    exact ⟨htold, h.permits⟩
  grows := by
    rw [Stopped.after, hear_append]
    exact h.grows
  attempts := by
    rw [Stopped.after, hear_append]
    exact h.attempts
  waiting := by
    rw [Stopped.after, hear_append]
    exact h.waiting

/-- Where the loop goes on, once the last attempt is settled, what it does is permitted.  This
is asked of every connection that has grown from the one last seen, and of the rest of the
script. -/
def IsLawful (script attempts : List Attempt) (next : Connection → List Delay → Stopped) : Prop :=
  ∀ w c delays, Grows w.connection c → attempts = script.drop w.begun → w.trying = false →
    Stopped.Follows script w (next c delays)

/-- **Reconnecting settles an attempt,** and it is permitted at any time; the connection is
neither connected nor trying afterwards. -/
theorem hear_reconnecting (script : List Attempt) (h : Grows w.connection c) (n : Notice)
    (delay : Double) :
    let story := c.tells [.noticed n] ++
      (c.enter .reconnecting).tells [.entered .reconnecting, .sleeping delay .reconnecting]
    w.Permits script (story.map .told) ∧ Grows (w.hear story).connection (c.enter .reconnecting) ∧
      (w.hear story).begun = w.begun ∧ (w.hear story).trying = false := by
  refine ⟨⟨?_, ?_, ?_, trivial⟩, Grows.refl _, rfl, ?_⟩
  · exact Allows.of_isQuiet h (isQuiet_noticed n)
  · exact allows_entered (by decide) (Grows.refl c)
  · exact Allows.of_isQuiet (Grows.refl _) ⟨rfl, rfl, rfl⟩
  · simp [hear, seeAll, see, tells, JournalEntry.begins, JournalEntry.entered?]

variable {attempts : List Attempt} {next : Connection → List Delay → Stopped}

/-- **After an attempt** a task that is not closing settles it before it goes on, so the next
attempt finds it settled. -/
theorem follows_retry (hnext : IsLawful script attempts next) (h : Grows w.connection c)
    (hattempts : attempts = script.drop w.begun) (failure : Option Failure) (delays : List Delay) :
    Stopped.Follows script w (retry false next c failure attempts delays) := by
  obtain ⟨hpermits, hgrows, hbegun, htrying⟩ :=
    hear_reconnecting script h (retryNotice c failure) c.endpoint.reconnectDelay
  rw [retry, if_neg Bool.false_ne_true]
  simp only
  split
  · exact .after hpermits (hnext _ _ _ hgrows (hbegun ▸ hattempts) htrying)
  · rename_i d ds _ _
    refine ⟨hpermits, hgrows, hbegun ▸ hattempts, during d, rfl, fun k hk => ?_⟩
    obtain ⟨-, hloop⟩ := Option.ite_none_right_eq_some.1 hk
    obtain rfl := Option.some.inj hloop
    exact htrying

/-- **Where a turn takes an attempt,** it is permitted: an attempt that ended or failed is
settled and the loop goes on, and one that waits keeps what is due until its next turn. -/
theorem follows_settle (hnext : IsLawful script attempts next) {r : Attempted}
    (hr : Attempted.Follows script w r) (hattempts : attempts = script.drop w.begun)
    (delays : List Delay) : Stopped.Follows script w (settle false next r attempts delays) := by
  have hrest : attempts = script.drop (w.hear r.story).begun := hr.goes.begun.symm ▸ hattempts
  refine .after hr.goes.permits ?_
  split
  · rename_i t ht
    refine ⟨trivial, hr.goes.grows, hrest, t, rfl, fun k hk => ?_⟩
    exact (hr.due t ht k hk).of_begun hr.goes.begun hr.goes.trying.trans
  · exact follows_retry hnext hr.goes.grows hrest none delays
  · exact follows_retry hnext hr.goes.grows hrest _ delays

/-- What was told before an attempt is told before what follows it, so a turn in the middle of
an attempt can be taken as its rest. -/
theorem settle_after (closing : Bool) (next : Connection → List Delay → Stopped) (told : Story)
    (r : Attempted) (attempts : List Attempt) (delays : List Delay) :
    settle closing next (r.after told) attempts delays =
      (settle closing next r attempts delays).after told := by
  simp only [settle, Stopped.after, Attempted.after, List.append_assoc]

/-- **Beginning an attempt** is permitted once the last one is settled, and only then.  One
attempt more has begun afterwards, which is how the place in the script is known. -/
theorem hear_connecting (script : List Attempt) (h : Grows w.connection c)
    (htrying : w.trying = false) :
    w.Permits script ((c.tells [c.connecting]).map .told) ∧
      (w.hear (c.tells [c.connecting])).begun = w.begun + 1 := by
  refine ⟨⟨⟨h.buffer, fun _ => htrying, nofun, nofun, ?_⟩, trivial⟩, rfl⟩
  exact fun hc hw => absurd (h.state.symm.trans hc) hw

/-- **The capture loop begins an attempt only when the last one is settled.**  The induction
is on the rest of the script: every attempt takes one off, and the loop goes on with those
that are left. -/
theorem isLawful_cycle (script attempts : List Attempt) :
    IsLawful script attempts fun c delays => cycle false c attempts delays := by
  -- What goes on after the first attempt is the loop over the others, which is lawful by
  -- induction; the attempt itself is the next one of the script.
  induction attempts with
  | nil =>
    intro w c delays h hattempts htrying
    obtain ⟨hpermits, hbegun⟩ := hear_connecting script h htrying
    refine ⟨hpermits, Grows.refl c, ?_, _, rfl, nofun⟩
    show [] = script.drop (w.hear (c.tells [c.connecting])).begun
    rw [hbegun, ← List.drop_drop, ← hattempts, List.drop_nil]
  | cons a attempts ih =>
    intro w c delays h hattempts htrying
    obtain ⟨hpermits, hbegun⟩ := hear_connecting script h htrying
    have hcurrent : script[w.begun]? = some a := by
      rw [← List.head?_drop, ← hattempts, List.head?_cons]
    have hrest : attempts = script.drop (w.hear (c.tells [c.connecting])).begun := by
      rw [hbegun, ← List.drop_drop, ← hattempts, List.drop_one, List.tail_cons]
    have hconnect : Attempted.Follows script (w.hear (c.tells [c.connecting])) (a.connect c) :=
      Attempt.follows_connect (Grows.refl c) fun r hr => ⟨w.begun, a, hbegun, hcurrent, hr⟩
    show Stopped.Follows script w
      (settle false (fun c ds => cycle false c attempts ds) (a.perform c) attempts delays)
    rw [Attempt.perform, settle_after]
    exact .after hpermits (follows_settle ih hconnect hrest delays)

/-- **A turn** that is due is permitted, be it the head of the loop, the rest of a connecting,
a reply that was waited for, or more of the receive loop. -/
theorem follows_turn (h : Grows w.connection c) (hattempts : attempts = script.drop w.begun)
    {next : Next} (hdue : next.IsDue script w) (delays : List Delay) :
    Stopped.Follows script w (turn false c attempts delays next) := by
  have hloop := isLawful_cycle script attempts
  cases next with
  | loop => exact hloop w c delays h hattempts hdue
  | connecting a => exact follows_settle hloop (Attempt.follows_connect h hdue) hattempts delays
  | reply r ds exception =>
    exact follows_settle hloop (Attempt.follows_answer h hdue ds exception) hattempts delays
  | receiving ds exception =>
    exact follows_settle hloop (Attempt.follows_receive exception h).close hattempts delays

/-! ## Cancelling -/

/-- A task that is closing ends at the head of its loop, without a look at the script. -/
theorem cycle_closing (c : Connection) (attempts : List Attempt) (delays : List Delay) :
    cycle true c attempts delays = finish c attempts delays := by
  cases attempts <;> rfl

/-- The end of the loop tells only the end of the connection, which is permitted at any time. -/
theorem goes_finish (h : Grows w.connection c) (attempts : List Attempt) (delays : List Delay) :
    Goes script w (finish c attempts delays).story (finish c attempts delays).connection :=
  Goes.single (allows_entered (by decide) h) rfl nofun

/-- What cancelling a task does: the task ends, begins no attempt and takes nothing of the
script. -/
structure Stopped.Ends (script : List Attempt) (w : Watch) (attempts : List Attempt)
    (s : Stopped) : Prop where
  goes : Goes script w s.story s.connection
  attempts : s.attempts = attempts
  waiting : s.waiting = none

/-- **A task that is closing ends,** wherever it is cancelled: while it connects, waits for a
reply, receives, or sleeps before the next attempt.  A capture is asked to close before its
task is cancelled, so the loop is never gone through again. -/
theorem ends_cancel {c : Capture} (hclosing : c.closing = true)
    (h : Grows w.connection c.connection) (t : Waiting) :
    Stopped.Ends script w c.attempts (c.cancel t).1 := by
  have hgone : Stopped.Ends script w c.attempts
      ⟨c.connection, none, c.attempts, c.delays, []⟩ := ⟨Goes.nil h, rfl, rfl⟩
  have hclosed : Goes script w (c.connection.tells [.closed]) c.connection := goes_closed h
  have hleft : Stopped.Ends script w c.attempts
      ((finish c.connection c.attempts c.delays).after (c.connection.tells [.closed])) :=
    ⟨hclosed.append (goes_finish hclosed.grows c.attempts c.delays), rfl, rfl⟩
  obtain ⟨awaited, next⟩ := t
  cases awaited with
  | turn => exact hgone
  | connecting => exact hgone
  | receiving k =>
    cases k with
    | cancelled => exact ⟨hclosed.append (Goes.nil hclosed.grows), rfl, rfl⟩
    | ends => simpa only [cancel, retry, hclosing, if_true] using hleft
    | fails f => simpa only [cancel, retry, hclosing, if_true] using hleft
  | sleeping d =>
    cases d with
    | swallows =>
      simp only [cancel, hclosing, cycle_closing]
      exact ⟨goes_finish h c.attempts c.delays, rfl, rfl⟩
    | _ => exact hgone

/-- **Parting** leaves a connection that is disconnected, with its buffer as it was; that
state may be entered at any time. -/
theorem goes_part (h : Grows w.connection c) : Goes script w (part c) (c.enter .disconnected) := by
  have hentered (w : Watch) (h : Grows w.connection c) :
      Goes script w ((c.enter .disconnected).tells [.entered .disconnected])
        (c.enter .disconnected) :=
    Goes.single (allows_entered (by decide) h) rfl nofun
  rw [part]
  split
  · exact hentered w h
  · exact (goes_notices script [.disconnected c.url] h).append_of_grows (hentered _)

/-! ## One call -/

/-- What is known of a capture from what was seen of it: the connection last seen has grown to
that of the capture, the attempts that have begun are gone from the script, and what its task
waits with is due. -/
structure Seen (script : List Attempt) (w : Watch) (c : Capture) : Prop where
  grows : Grows w.connection c.connection
  attempts : c.attempts = script.drop w.begun
  /-- A task that is alive is not closing. -/
  closing : ∀ t, c.task = some t → c.closing = false
  idle : c.task = none → w.trying = false
  due : ∀ t, c.task = some t → t.IsDue script w

/-- What is asked of a capture changes nothing of what is known. -/
theorem Seen.called {c : Capture} (h : Seen script w c) (call : Call) :
    Seen script (w.see (.called call)) c := by
  have htrying (hw : w.trying = false) : (w.see (.called call)).trying = false := by
    simp [see, hw]
  exact ⟨h.grows, h.attempts, h.closing, fun hidle => htrying (h.idle hidle),
    fun t ht next hnext => (h.due t ht next hnext).of_begun rfl htrying⟩

/-- What a call does is permitted, and the capture is known again after it, so that the next
call can be taken up from there. -/
def Shows (script : List Attempt) (w : Watch) (done : Capture × Story) : Prop :=
  w.Permits script (done.2.map .told) ∧ Seen script (w.hear done.2) done.1

/-- A story that begins no attempt leaves what was due. -/
theorem Seen.shows {c c' : Capture} {story : Story} (h : Seen script w c)
    (hgoes : Goes script w story c'.connection) (hattempts : c'.attempts = c.attempts)
    (hclosing : ∀ t, c'.task = some t → c'.closing = false)
    (hidle : c'.task = none → w.trying = false)
    (hdue : ∀ t, c'.task = some t → t.IsDue script w) : Shows script w (c', story) := by
  refine ⟨hgoes.permits, hgoes.grows, ?_, hclosing, fun ht => hgoes.trying.trans (hidle ht), ?_⟩
  · rw [hattempts, hgoes.begun, h.attempts]
  · exact fun t ht next hnext =>
      (hdue t ht next hnext).of_begun hgoes.begun hgoes.trying.trans

/-- A capture whose task has ended, and whose last attempt is settled. -/
theorem Seen.shows_idle {c c' : Capture} {story : Story} (h : Seen script w c)
    (hgoes : Goes script w story c'.connection) (hattempts : c'.attempts = c.attempts)
    (htask : c'.task = none) (htrying : w.trying = false) : Shows script w (c', story) := by
  have hno (t : Waiting) : c'.task ≠ some t := fun ht => by
    rw [htask] at ht
    cases ht
  exact h.shows hgoes hattempts (fun t ht => absurd ht (hno t)) (fun _ => htrying)
    fun t ht => absurd ht (hno t)

/-- **Starting** enters a state and gives the task its loop, unless a task is alive; then
there is a notice and nothing else.  No attempt begins before the task has its first turn. -/
theorem Seen.start {c : Capture} (h : Seen script w c) : Shows script w (c.step .start) := by
  cases ht : c.task with
  | some t =>
    simp only [Capture.step, ht]
    exact h.shows (goes_notices script [.alreadyRunning c.connection.url] h.grows) rfl h.closing
      h.idle h.due
  | none =>
    have hgoes : Goes script w ((c.connection.enter .connecting).tells [.entered .connecting])
        (c.connection.enter .connecting) :=
      Goes.single (allows_entered (by decide) h.grows) rfl nofun
    simp only [Capture.step, ht]
    refine h.shows hgoes rfl (fun _ _ => rfl) nofun ?_
    rintro t ⟨⟩ next ⟨⟩
    exact h.idle ht

/-- **Running** gives a task the turn that is due.  Without a task, or with one that hangs, no
turn is due and nothing happens. -/
theorem Seen.run {c : Capture} (h : Seen script w c) : Shows script w (c.step .run) := by
  rw [Capture.step]
  split
  · rename_i awaited next ht
    have hturn : Stopped.Follows script w
        (turn c.closing c.connection c.attempts c.delays next) := by
      rw [h.closing _ ht]
      exact follows_turn h.grows h.attempts (h.due _ ht next rfl) c.delays
    obtain ⟨t, hwaiting, hdue⟩ := hturn.waiting
    refine ⟨hturn.permits, hturn.grows, hturn.attempts, fun _ _ => h.closing _ ht, ?_, ?_⟩
    · intro hidle
      exact absurd (hwaiting.symm.trans hidle) (Option.some_ne_none t)
    · intro t' ht'
      obtain rfl := Option.some.inj (hwaiting.symm.trans ht')
      exact hdue
  · exact ⟨trivial, h⟩

/-- **Disconnecting** ends the task, and nothing is tried any more.  An attempt that was
current counts as settled by the call itself, before its task is cancelled. -/
theorem Seen.disconnect {c : Capture} (h : Seen script w c) (htrying : w.trying = false) :
    Shows script w (c.step .disconnect) := by
  cases ht : c.task with
  | some t =>
    have hends : Stopped.Ends script w c.attempts (cancel { c with closing := true } t).1 :=
      ends_cancel (c := { c with closing := true }) rfl h.grows t
    simp only [Capture.step, ht]
    refine h.shows_idle ?_ hends.attempts rfl htrying
    refine (hends.goes.append_of_grows (goes_tells fun e he => ?_)).append_of_grows goes_part
    obtain ⟨reason, -, rfl⟩ := List.mem_map.1 he
    exact isQuiet_noticed _
  | none =>
    simp only [Capture.step, ht]
    exact h.shows_idle (goes_part h.grows) rfl rfl htrying

/-- **One call** shows what is permitted, and what is known of the capture before it is known
of the capture after it.  This is the step of the induction over calls. -/
theorem Seen.step {c : Capture} (h : Seen script w c) (call : Call) :
    w.Permits script (.called call :: (c.step call).2.map .told) ∧
      Seen script (w.seeAll (.called call :: (c.step call).2.map .told)) (c.step call).1 := by
  cases call with
  | start => exact (h.called .start).start
  | run => exact (h.called .run).run
  | disconnect => exact (h.called .disconnect).disconnect (Bool.and_false _)

/-! ## A whole life -/

/-- The capture after some calls. -/
def after (c : Capture) : List Call → Capture
  | [] => c
  | call :: calls => (c.step call).1.after calls

/-- What is seen of a capture during some calls. -/
def life (c : Capture) : List Call → List Scene
  | [] => []
  | call :: calls => .called call :: (c.step call).2.map .told ++ (c.step call).1.life calls

/-- The capture of an endpoint that nothing has been asked of. -/
def ofScript (o : Endpoint) (attempts : List Attempt) (delays : List Delay) : Capture where
  connection := { endpoint := o }
  attempts := attempts
  delays := delays

/-- Calls in a row are made one part after the other, and the second part finds the capture as
the first one has left it. -/
theorem after_append (c : Capture) (xs ys : List Call) :
    c.after (xs ++ ys) = (c.after xs).after ys := by
  induction xs generalizing c with
  | nil => rfl
  | cons x xs ih => exact ih (c.step x).1

/-- **All calls** show what is permitted, by induction on them: what is known after one call
is all that the next one asks for. -/
theorem Seen.life {c : Capture} (h : Seen script w c) (calls : List Call) :
    w.Permits script (c.life calls) ∧ Seen script (w.seeAll (c.life calls)) (c.after calls) := by
  induction calls generalizing c w with
  | nil => exact ⟨trivial, h⟩
  | cons call calls ih =>
    obtain ⟨hpermits, hseen⟩ := h.step call
    obtain ⟨hpermits', hseen'⟩ := ih hseen
    rw [Capture.life, permits_append, seeAll_append]
    exact ⟨⟨hpermits, hpermits'⟩, hseen'⟩

/-- A capture that nothing was asked of yet has been seen for what it is: a fresh connection
with the whole script before it. -/
theorem seen_ofScript (o : Endpoint) (script : List Attempt) (delays : List Delay) :
    Seen script { connection := (ofScript o script delays).connection }
      (ofScript o script delays) := by
  refine ⟨Grows.refl _, rfl, ?_, fun _ => rfl, ?_⟩
  · rintro t ⟨⟩
  · rintro t ⟨⟩

end Capture
end Recorder
