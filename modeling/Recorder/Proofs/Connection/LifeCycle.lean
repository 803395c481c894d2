/-
# The life cycle of a connection

`SPEC_FULL.md` §3: on any failure the state becomes `reconnecting` and the loop retries
until `disconnect`, which is idempotent.

What a life that is permitted looks like, without a watch: `Capture.LifeCycle` says it of the
scenes themselves, and `Capture.lifeCycle_ofScript` that every capture lives by it.

| while | the connection |
| --- | --- |
| a reply was just accepted | gets connected, and at no other time |
| an attempt has ended, and the next has not begun | is reconnecting, or was disconnected |
| the task is alive | is not changed by starting it again |
| any time | keeps what is in its buffer |
| disconnected, and not started again | is not changed at all |
-/

import Recorder.Proofs.Connection.Life

namespace Recorder

namespace JournalEntry

/-- There is one entry only that accepts a reply. -/
theorem eq_accepted {e : JournalEntry} (h : e.accepts = true) : e = .accepted := by
  cases e with
  | accepted => rfl
  | _ => cases h

theorem eq_entered {e : JournalEntry} {state : ConnectionState} (h : e.entered? = some state) :
    e = .entered state := by
  cases e with
  | entered s => exact congrArg entered (Option.some.inj h)
  | _ => cases h

end JournalEntry

namespace Scene

/-- The connection at a moment. -/
def connection? : Scene → Option Connection
  | .called _ => none
  | .told m => some m.connection

/-- Whether the last attempt is settled: by reconnecting, or by disconnecting. -/
def settles : Scene → Bool
  | .called call => call == .disconnect
  | .told m => m.entry.entered? == some .reconnecting

end Scene

/-- The connections at the moments that were told, in order; what was asked for shows none. -/
def connectionsOf (scenes : List Scene) : List Connection := scenes.filterMap Scene.connection?

/-- The connection at the last moment that was told; the one given where nothing was told.
What was asked for shows no connection. -/
def lastSeen (c : Connection) (scenes : List Scene) : Connection :=
  scenes.foldl (fun c s => s.connection?.getD c) c

namespace Watch

open Connection

variable {script : List Attempt} {w : Watch} {scenes before after : List Scene}

/-- The attempts that have begun are counted: those before and those of the scenes. -/
theorem begun_seeAll (w : Watch) (scenes : List Scene) :
    (w.seeAll scenes).begun = w.begun + scenes.countP Scene.begins := by
  induction scenes generalizing w with
  | nil => rfl
  | cons s scenes ih =>
    have hone : (w.see s).begun = w.begun + if s.begins then 1 else 0 := by
      cases s with
      | called call => rfl
      | told m =>
        show (if m.entry.begins then w.begun + 1 else w.begun) = _
        rw [Scene.begins]
        split <;> rfl
    rw [List.countP_cons, seeAll, List.foldl_cons]
    show ((w.see s).seeAll scenes).begun = _
    rw [ih, hone]
    omega

/-- The connection that a watch keeps is the one last told of, or the one it started from. -/
theorem connection_seeAll (w : Watch) (scenes : List Scene) :
    (w.seeAll scenes).connection = lastSeen w.connection scenes := by
  induction scenes generalizing w with
  | nil => rfl
  | cons s scenes ih =>
    cases s with
    | called call => exact ih (w.see (.called call))
    | told m => exact ih (w.see (.told m))

/-- A reply that has just been accepted was accepted in the last scene: it counts for one
moment. -/
theorem exists_of_accepted (hw : w.accepted = false) (h : (w.seeAll scenes).accepted = true) :
    ∃ earlier m, scenes = earlier ++ [.told m] ∧ m.entry = .accepted := by
  rcases List.eq_nil_or_concat scenes with rfl | ⟨earlier, s, rfl⟩
  · exact absurd (hw.symm.trans h) Bool.false_ne_true
  · rw [List.concat_eq_append, seeAll_append] at h
    cases s with
    | called call => cases h
    | told m => exact ⟨earlier, m, List.concat_eq_append, JournalEntry.eq_accepted h⟩

/-- **An attempt that nothing settles stays the current one,** whatever else is told: notices,
replies, events and waits leave it alone. -/
theorem trying_seeAll (hw : w.trying = true) (h : ∀ s ∈ scenes, s.settles = false) :
    (w.seeAll scenes).trying = true := by
  induction scenes generalizing w with
  | nil => exact hw
  | cons s scenes ih =>
    obtain ⟨hs, hscenes⟩ := List.forall_mem_cons.1 h
    refine ih ?_ hscenes
    cases s with
    | called call => simpa [see, hw, Scene.settles] using hs
    | told m => simpa [see, hw, Scene.settles] using Or.inr hs

/-- **What is permitted at some moment** is allowed after all that was seen before.  So a law
about one moment holds at every place of a life, with what came before it summed up by the
watch. -/
theorem Permits.allows {m : Moment} (h : w.Permits script (before ++ .told m :: after)) :
    (w.seeAll before).Allows script m :=
  ((permits_append w before _).1 h).2.1

/-- **Between two attempts the first is settled.**  Otherwise it would still be the current
one, and no attempt is allowed to begin then. -/
theorem Permits.exists_settles {m m' : Moment} {between : List Scene}
    (h : w.Permits script (.told m :: (between ++ .told m' :: after)))
    (hm : m.entry.begins = true) (hm' : m'.entry.begins = true) :
    ∃ s ∈ between, s.settles = true := by
  by_contra hno
  have htrying : (w.see (.told m)).trying = true := by simp [see, hm]
  have hnone : ∀ s ∈ between, s.settles = false := fun s hs =>
    Bool.eq_false_iff.2 fun hsettles => hno ⟨s, hs, hsettles⟩
  have hsettled : ((w.see (.told m)).seeAll between).trying = false :=
    (Permits.allows h.2).begins hm'
  rw [trying_seeAll htrying hnone] at hsettled
  cases hsettled

/-- **What settles an attempt** is a disconnecting, or that the connection is reconnecting;
the second shows in the state of the connection at that moment. -/
theorem Permits.of_settles (h : w.Permits script scenes) {s : Scene} (hs : s ∈ scenes)
    (hsettles : s.settles = true) :
    s = .called .disconnect ∨ ∃ r, s = .told r ∧ r.entry = .entered .reconnecting ∧
      r.connection.state = .reconnecting := by
  cases s with
  | called call =>
    obtain rfl : call = .disconnect := beq_iff_eq.1 hsettles
    exact .inl rfl
  | told r =>
    have hentered : r.entry.entered? = some .reconnecting := beq_iff_eq.1 hsettles
    obtain ⟨before, after, rfl⟩ := List.append_of_mem hs
    exact .inr ⟨r, rfl, JournalEntry.eq_entered hentered, h.allows.entered _ hentered⟩

/-- **Buffers only grow:** of any two moments, the later one has the buffer of the earlier one
in front.  What was recorded once is neither lost nor changed by anything that happens to the
connection. -/
theorem Permits.pairwise_buffer (h : w.Permits script scenes) {c : Connection}
    (hc : Grows (w.seeAll scenes).connection c) :
    (w.connection :: connectionsOf scenes ++ [c]).Pairwise (·.buffer <+: ·.buffer) := by
  induction scenes generalizing w with
  | nil => exact List.pairwise_pair.2 hc.buffer
  | cons s scenes ih =>
    cases s with
    | called call => exact ih (w := w.see (.called call)) h hc
    | told m =>
      obtain ⟨hm, hscenes⟩ := h
      have hrest := ih (w := w.see (.told m)) hscenes hc
      refine List.pairwise_cons.2 ⟨fun c' hc' => ?_, hrest⟩
      rcases List.mem_cons.1 hc' with rfl | hlater
      · exact hm.buffer
      · exact hm.buffer.trans ((List.pairwise_cons.1 hrest).1 c' hlater)

end Watch

namespace Capture

open Connection Watch

/-! ## Starting twice, and after disconnecting -/

/-- **Starting a task that is alive changes nothing,** as there is one capture loop for each
connection.  That holds at any place of the loop, also while the connection waits before the
next attempt. -/
theorem step_start_of_alive {c : Capture} (h : c.task ≠ none) : (c.step .start).1 = c := by
  cases ht : c.task with
  | none => exact absurd ht h
  | some t => rw [step, ht]

/-- A capture whose task has ended, and which is disconnected. -/
structure IsParted (c : Capture) : Prop where
  task : c.task = none
  state : c.connection.state = .disconnected

/-- **Disconnecting parts,** whatever the task waits for, and also if there is none.  The
state is entered last, after the task has ended, so nothing of the task can undo it. -/
theorem isParted_disconnect (c : Capture) : IsParted (c.step .disconnect).1 := by
  cases ht : c.task with
  | none =>
    simp only [step, ht]
    exact ⟨rfl, rfl⟩
  | some t =>
    simp only [step, ht]
    exact ⟨rfl, rfl⟩

/-- A capture that has parted stays as it is until it is started. -/
theorem IsParted.step {c : Capture} (h : IsParted c) {call : Call} (hcall : call ≠ .start) :
    IsParted (c.step call).1 ∧ (c.step call).1.connection = c.connection ∧
      ∀ m ∈ (c.step call).2, m.connection = c.connection := by
  have hsame : c.connection.enter .disconnected = c.connection := by
    rw [← h.state]
    rfl
  cases call with
  | start => exact absurd rfl hcall
  | run =>
    rw [Capture.step, h.task]
    exact ⟨h, rfl, fun m hm => absurd hm List.not_mem_nil⟩
  | disconnect =>
    simp only [Capture.step, h.task, part, h.state, hsame]
    exact ⟨⟨rfl, h.state⟩, trivial, by simp [tells]⟩

/-- **Nothing happens to a capture that has parted** until it is started: whatever else it is
asked for, it stays parted and its connection stays the same, at the end and at every moment
that is told. -/
theorem IsParted.life {c : Capture} (h : IsParted c) {calls : List Call} (hcalls : .start ∉ calls) :
    IsParted (c.after calls) ∧ (c.after calls).connection = c.connection ∧
      ∀ m, .told m ∈ c.life calls → m.connection = c.connection := by
  induction calls generalizing c with
  | nil => exact ⟨h, rfl, fun m hm => absurd hm List.not_mem_nil⟩
  | cons call calls ih =>
    obtain ⟨hcall, hrest⟩ := List.ne_and_not_mem_of_not_mem_cons hcalls
    obtain ⟨hparted, hconnection, htold⟩ := h.step (Ne.symm hcall)
    obtain ⟨hparted', hconnection', htold'⟩ := ih hparted hrest
    refine ⟨hparted', hconnection'.trans hconnection, fun m hm => ?_⟩
    rw [Capture.life, List.cons_append, List.mem_cons, List.mem_append] at hm
    rcases hm with hm | hm | hm
    · cases hm
    · obtain ⟨m, hm', ⟨⟩⟩ := List.mem_map.1 hm
      exact htold m hm'
    · exact (htold' m hm).trans hconnection

/-- **The life cycle** of a capture that is asked for some calls, one after the other.  The
laws are stated at every cut of what is seen, so they hold at every moment and not only at the
end. -/
structure LifeCycle (c : Capture) (calls : List Call) : Prop where
  /-- The connection gets connected only right after the reply of the current attempt, the last
  that has begun, completed the handshake. -/
  connected : ∀ before m after, c.life calls = before ++ .told m :: after →
    m.connection.state = .connected → (lastSeen c.connection before).state ≠ .connected →
    m.entry = .entered .connected ∧
    ∃ (earlier : List Scene) (accepting : Moment) (n : Nat) (a : Attempt) (text : String)
      (k : Connection), before = earlier ++ [.told accepting] ∧ accepting.entry = .accepted ∧
      earlier.countP Scene.begins = n + 1 ∧ c.attempts[n]? = some a ∧
      a.reply? = some (.ok (.text text)) ∧ (k.completeHandshake text).result = .ok () ∧
      (k.completeHandshake text).connection = accepting.connection
  /-- Between two attempts the capture reconnects, unless it was disconnected. -/
  reconnecting : ∀ before m between m' after,
    c.life calls = before ++ .told m :: (between ++ .told m' :: after) →
    m.entry.begins = true → m'.entry.begins = true →
    .called .disconnect ∈ between ∨ ∃ r, .told r ∈ between ∧ r.entry = .entered .reconnecting ∧
      r.connection.state = .reconnecting
  /-- Starting a task that is alive changes nothing. -/
  started : (c.after calls).task ≠ none →
    ((c.after calls).step .start).1 = c.after calls
  /-- The buffer at any time is the beginning of the buffer at any later time. -/
  buffer : (c.connection :: connectionsOf (c.life calls) ++
    [(c.after calls).connection]).Pairwise (·.buffer <+: ·.buffer)
  /-- After a disconnecting the connection is disconnected, and nothing changes it until the
  capture is started again. -/
  disconnected : ∀ earlier later, calls = earlier ++ .disconnect :: later → .start ∉ later →
    (c.after calls).connection.state = .disconnected ∧
    (c.after calls).connection = (c.after (earlier ++ [.disconnect])).connection ∧
    ∀ m, .told m ∈ (c.after (earlier ++ [.disconnect])).life later →
      m.connection = (c.after calls).connection

/-- **Every capture lives by this life cycle,** whatever its script and whatever it is asked
for: the network may refuse, hang, fail or leave at any point, and the calls may come in any
order. -/
theorem lifeCycle_ofScript (o : Endpoint) (script : List Attempt) (delays : List Delay)
    (calls : List Call) : LifeCycle (ofScript o script delays) calls := by
  obtain ⟨hpermits, hseen⟩ := (seen_ofScript o script delays).life calls
  constructor
  case connected =>
    intro before m after hlife hconnected hbefore
    rw [hlife] at hpermits
    rw [← connection_seeAll { connection := _ }] at hbefore
    obtain ⟨haccepted, hentered⟩ := hpermits.allows.connected hconnected hbefore
    -- The scene before is the acceptance, which is allowed after the scenes before it.
    obtain ⟨earlier, accepting, rfl, haccepting⟩ := exists_of_accepted rfl haccepted
    rw [List.append_assoc] at hpermits
    obtain ⟨k, text, ⟨n, a, hn, ha, hreply⟩, hok, hconnection⟩ :=
      hpermits.allows.accepts (haccepting ▸ rfl)
    rw [begun_seeAll, Nat.zero_add] at hn
    exact ⟨JournalEntry.eq_entered hentered, earlier, accepting, n, a, text, k, rfl, haccepting,
      hn, ha, hreply, hok, hconnection⟩
  case reconnecting =>
    intro before m between m' after hlife hbegins hbegins'
    rw [hlife] at hpermits
    obtain ⟨s, hs, hsettles⟩ :=
      Permits.exists_settles ((permits_append _ before _).1 hpermits).2 hbegins hbegins'
    rcases hpermits.of_settles (s := s) (by simp [hs]) hsettles with rfl | ⟨r, rfl, hr⟩
    · exact .inl hs
    · exact .inr ⟨r, hs, hr⟩
  case started => exact step_start_of_alive
  case buffer => exact hpermits.pairwise_buffer hseen.grows
  case disconnected =>
    rintro earlier later rfl hlater
    have hsplit : earlier ++ .disconnect :: later = (earlier ++ [.disconnect]) ++ later := by simp
    have hparted : IsParted ((ofScript o script delays).after (earlier ++ [.disconnect])) := by
      rw [after_append]
      exact isParted_disconnect _
    obtain ⟨hlast, hconnection, htold⟩ := hparted.life hlater
    rw [← after_append, ← hsplit] at hlast hconnection
    exact ⟨hlast.state, hconnection, fun m hm => (htold m hm).trans hconnection.symm⟩

/-- A hub that accepts, is silent for a while, sends a key and ends the stream; then one that
never answers. -/
def oneKey : Capture :=
  ofScript (.ofUrl "http://a") [.opened (.ok (.text "\x7b\x7d"))
    [.pauses .cancelled, .frame (.text Connection.typingRecord)] none, .hangs] []

/-- The capture is started once more while it is connected, and goes on after the silence. -/
theorem lifeCycle_oneKey :
    LifeCycle oneKey [.start, .run, .start, .run, .disconnect, .run] ∧
    (connectionsOf (oneKey.life [.start, .run, .start, .run, .disconnect, .run])).map
        (fun c => (c.state, c.buffer.length)) =
      List.replicate 5 (.connecting, 0) ++ List.replicate 4 (.connected, 0) ++
        List.replicate 3 (.connected, 1) ++ List.replicate 4 (.reconnecting, 1) ++
        [(.disconnected, 1)] := by
  constructor
  · exact lifeCycle_ofScript _ _ _ _
  · decide +kernel

end Capture
end Recorder
