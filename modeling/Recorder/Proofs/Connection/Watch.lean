/-
# What can be seen of a capture

`SPEC_FULL.md` §3, the states of a connection and what may lead from one to another.

A capture is seen in scenes: something is asked of it, or a moment of its story is told.  A
`Watch` keeps of the scenes so far what the next moment depends on, and `Watch.Allows` says
which moments may come next:

| a moment | is allowed |
| --- | --- |
| any | with a buffer that the last one is a prefix of |
| an attempt begins | if the last one was settled: the capture reconnected or was disconnected |
| a reply is accepted | if it is that of the current attempt, and completes a handshake |
| the connection gets connected | as the next thing after an accepted reply |

What an attempt tells is allowed from every state of its connection (`Attempt.follows_connect`),
so what a turn of the task tells is (`Capture.follows_turn`).
-/

import Recorder.Proofs.Connection.Growth

namespace Recorder

/-- One thing that is seen of a capture: it is asked for something, or a moment of its story
is told. -/
inductive Scene where
  | called (call : Call)
  | told (m : Moment)

/-- The reply that an attempt gets to its handshake, once its waits have passed; there is none
if the attempt is refused or hangs. -/
def Attempt.reply? : Attempt → Option (Except Failure Frame)
  | .opened reply _ _ => some reply
  | .answered _ reply _ _ => some reply
  | .later a => a.reply?
  | .refused _ | .hangs | .unanswered _ => none

namespace JournalEntry

/-- Whether an attempt begins, which it does by connecting to its hub. -/
def begins : JournalEntry → Bool
  | .connecting .. => true
  | _ => false

/-- Whether a reply is accepted. -/
def accepts : JournalEntry → Bool
  | .accepted => true
  | _ => false

/-- The state that is entered. -/
def entered? : JournalEntry → Option ConnectionState
  | .entered state => some state
  | _ => none

/-- An entry that any connection may have at any time: it begins no attempt, accepts no reply
and enters no state. -/
structure IsQuiet (e : JournalEntry) : Prop where
  begins : e.begins = false
  accepts : e.accepts = false
  entered : e.entered? = none

end JournalEntry

/-- Whether an attempt begins. -/
def Scene.begins : Scene → Bool
  | .called _ => false
  | .told m => m.entry.begins

/-- What has been seen so far, as far as the next moment depends on it.  The whole story
before is forgotten but for these four. -/
structure Watch where
  /-- The connection at the last moment. -/
  connection : Connection
  /-- The number of attempts that have begun. -/
  begun : Nat := 0
  /-- Whether the last of them is not settled. -/
  trying : Bool := false
  /-- Whether a reply has just been accepted. -/
  accepted : Bool := false

namespace Watch

open Connection

/-- One more scene.  An attempt that has begun stays unsettled until the capture reconnects or
is disconnected, and an accepted reply counts for the next moment only. -/
def see (w : Watch) : Scene → Watch
  | .called call => { w with trying := w.trying && call != .disconnect, accepted := false }
  | .told m => {
      connection := m.connection
      begun := if m.entry.begins then w.begun + 1 else w.begun
      trying := m.entry.begins || (w.trying && m.entry.entered? != some .reconnecting)
      accepted := m.entry.accepts }

/-- Scenes in a row, the first one first. -/
def seeAll (w : Watch) (scenes : List Scene) : Watch := scenes.foldl see w

/-- A story, told moment by moment. -/
def hear (w : Watch) (story : Story) : Watch := w.seeAll (story.map .told)

/-- The current attempt gets this reply: the script has it at the place to which the attempts
that have begun have led. -/
def Expects (script : List Attempt) (w : Watch) (reply : Except Failure Frame) : Prop :=
  ∃ n a, w.begun = n + 1 ∧ script[n]? = some a ∧ a.reply? = some reply

/-- **A moment that may come next.**  No event gets lost; an attempt begins only when no other
is unsettled; a reply is accepted only if it is that of the current attempt; and the
connection gets connected only right after that. -/
structure Allows (script : List Attempt) (w : Watch) (m : Moment) : Prop where
  buffer : w.connection.buffer <+: m.connection.buffer
  begins : m.entry.begins = true → w.trying = false
  accepts : m.entry.accepts = true → ∃ (c : Connection) (text : String),
    w.Expects script (.ok (.text text)) ∧ (c.completeHandshake text).result = .ok () ∧
      (c.completeHandshake text).connection = m.connection
  entered : ∀ state, m.entry.entered? = some state → m.connection.state = state
  connected : m.connection.state = .connected → w.connection.state ≠ .connected →
    w.accepted = true ∧ m.entry.entered? = some .connected

/-- **Scenes in which every moment is allowed** after those before it.  What is asked of a
capture is always permitted, and only counts for what comes next. -/
def Permits (script : List Attempt) (w : Watch) : List Scene → Prop
  | [] => True
  | .called call :: scenes => (w.see (.called call)).Permits script scenes
  | .told m :: scenes => w.Allows script m ∧ (w.see (.told m)).Permits script scenes

variable {script : List Attempt} {w w' : Watch}

@[simp] theorem seeAll_append (w : Watch) (xs ys : List Scene) :
    w.seeAll (xs ++ ys) = (w.seeAll xs).seeAll ys := List.foldl_append

@[simp] theorem hear_append (w : Watch) (s t : Story) : w.hear (s ++ t) = (w.hear s).hear t := by
  rw [hear, List.map_append, seeAll_append, hear, hear]

/-- **Scenes in two parts are permitted** just if the first part is, and the second part is
from what the first one leaves.  By this lemma laws about whole lives come down to laws about
single turns. -/
theorem permits_append (w : Watch) (xs ys : List Scene) :
    w.Permits script (xs ++ ys) ↔ w.Permits script xs ∧ (w.seeAll xs).Permits script ys := by
  induction xs generalizing w with
  | nil => simp [Permits, seeAll]
  | cons x xs ih =>
    cases x with
    | called call => exact ih (w.see (.called call))
    | told m => exact (and_congr_right fun _ => ih (w.see (.told m))).trans and_assoc.symm

/-- What is expected depends on the number of attempts that have begun and on nothing else of
what was seen. -/
theorem Expects.of_begun {reply : Except Failure Frame} (h : w.Expects script reply)
    (hbegun : w'.begun = w.begun) : w'.Expects script reply := by
  obtain ⟨n, a, hn, ha⟩ := h
  exact ⟨n, a, hbegun.trans hn, ha⟩

/-! ## Stories that begin no attempt -/

/-- A story that is permitted, begins no attempt and settles none, and leads to a connection.
The parts of an attempt are such stories, and they can be put together. -/
structure Goes (script : List Attempt) (w : Watch) (story : Story) (c : Connection) : Prop where
  permits : w.Permits script (story.map .told)
  begun : (w.hear story).begun = w.begun
  trying : (w.hear story).trying = w.trying
  grows : Grows (w.hear story).connection c

namespace Goes

variable {s t : Story} {c c' : Connection}

theorem nil (h : Grows w.connection c) : Goes script w [] c := ⟨trivial, rfl, rfl, h⟩

/-- A story goes on from where another one ended.  By this the parts of an attempt, proved one
by one, make up the attempt. -/
theorem append (hs : Goes script w s c) (ht : Goes script (w.hear s) t c') :
    Goes script w (s ++ t) c' where
  permits := by
    rw [List.map_append, permits_append]
    exact ⟨hs.permits, ht.permits⟩
  begun := by rw [hear_append, ht.begun, hs.begun]
  trying := by rw [hear_append, ht.trying, hs.trying]
  grows := by
    rw [hear_append]
    exact ht.grows

/-- What can be told of whatever the connection has grown to can be told after any story. -/
theorem append_of_grows (hs : Goes script w s c)
    (ht : ∀ {w : Watch}, Grows w.connection c → Goes script w t c') : Goes script w (s ++ t) c' :=
  hs.append (ht hs.grows)

/-- **One moment** that is allowed and does not begin or settle an attempt is a story of its
own.  Longer stories are put together from such moments. -/
theorem single {m : Moment} (h : w.Allows script m) (hb : m.entry.begins = false)
    (hr : m.entry.entered? ≠ some .reconnecting) : Goes script w [m] m.connection where
  permits := ⟨h, trivial⟩
  begun := by simp [hear, seeAll, see, hb]
  trying := by
    have : (m.entry.entered? != some .reconnecting) = true := bne_iff_ne.2 hr
    simp [hear, seeAll, see, hb, this]
  grows := Grows.refl _

end Goes

/-- A quiet moment is allowed once the connection has grown, because it asks for nothing but
the buffer. -/
theorem Allows.of_isQuiet {m : Moment} (h : Grows w.connection m.connection)
    (hquiet : m.entry.IsQuiet) : w.Allows script m where
  buffer := h.buffer
  begins hb := absurd (hquiet.begins.symm.trans hb) Bool.false_ne_true
  accepts ha := absurd (hquiet.accepts.symm.trans ha) Bool.false_ne_true
  entered state hs := by
    rw [hquiet.entered] at hs
    cases hs
  connected hc hw := absurd (h.state.symm.trans hc) hw

/-- **Quiet entries** can be told of every connection, any number of them in a row, as long as
the connection has only grown since it was last seen. -/
theorem goes_tells {es : Journal} (hquiet : ∀ e ∈ es, e.IsQuiet) {c : Connection}
    (h : Grows w.connection c) : Goes script w (c.tells es) c := by
  induction es generalizing w with
  | nil => exact Goes.nil h
  | cons e es ih =>
    obtain ⟨he, hes⟩ := List.forall_mem_cons.1 hquiet
    have hm : w.Allows script ⟨e, c⟩ := Allows.of_isQuiet h he
    have hone : Goes script w [⟨e, c⟩] c := Goes.single hm he.begins (by simp [he.entered])
    exact hone.append (ih hes hone.grows)

/-- The reply of the current attempt may be accepted, and what comes with it may be taken in
at once. -/
theorem allows_accepted {c : Connection} {text : String}
    (hexpects : w.Expects script (.ok (.text text)))
    (hok : (c.completeHandshake text).result = .ok ())
    (h : Grows w.connection (c.completeHandshake text).connection) :
    w.Allows script ⟨.accepted, (c.completeHandshake text).connection⟩ where
  buffer := h.buffer
  begins := nofun
  accepts _ := ⟨c, text, hexpects, hok, rfl⟩
  entered := nofun
  connected hc hw := absurd (h.state.symm.trans hc) hw

/-- Once a reply has been accepted the connection may get connected, but only as the very next
thing. -/
theorem allows_connected {c : Connection} (h : Grows w.connection c)
    (haccepted : w.accepted = true) : w.Allows script ⟨.entered .connected, c.enter .connected⟩ where
  buffer := h.buffer
  begins := nofun
  accepts := nofun
  entered _ hs := Option.some.inj hs
  connected _ _ := ⟨haccepted, rfl⟩

/-- The other states may be entered at any time. -/
theorem allows_entered {state : ConnectionState} (hstate : state ≠ .connected) {c : Connection}
    (h : Grows w.connection c) : w.Allows script ⟨.entered state, c.enter state⟩ where
  buffer := h.buffer
  begins := nofun
  accepts := nofun
  entered _ hs := Option.some.inj hs
  connected hc _ := absurd hc hstate

/-- Whether a reply has just been accepted is told by the last moment alone. -/
theorem accepted_hear_concat (w : Watch) (s : Story) (m : Moment) :
    (w.hear (s ++ [m])).accepted = m.entry.accepts := by
  rw [hear_append]
  rfl

/-- A notice can be given at any time. -/
theorem isQuiet_noticed (n : Notice) : (JournalEntry.noticed n).IsQuiet := ⟨rfl, rfl, rfl⟩

/-- Leaving the socket can be told at any time, as it changes nothing of the connection. -/
theorem goes_closed {c : Connection} (h : Grows w.connection c) :
    Goes script w (c.tells [.closed]) c :=
  goes_tells (List.forall_mem_singleton.2 ⟨rfl, rfl, rfl⟩) h

theorem goes_asked {c : Connection} (h : Grows w.connection c) :
    Goes script w (c.tells [c.asked]) c :=
  goes_tells (List.forall_mem_singleton.2 ⟨rfl, rfl, rfl⟩) h

/-- Notices in a row can be told at any time, and they change nothing. -/
theorem goes_notices (script : List Attempt) (notices : List Notice) {c : Connection}
    (h : Grows w.connection c) :
    Goes script w (c.tells (notices.map .noticed)) c := by
  refine goes_tells (fun e he => ?_) h
  obtain ⟨n, -, rfl⟩ := List.mem_map.1 he
  exact isQuiet_noticed n

end Watch

open Connection Watch

/-- What a task goes on with is due: the head of the loop once the last attempt is settled, and
otherwise what is left of the current attempt. -/
def Next.IsDue (script : List Attempt) (w : Watch) : Next → Prop
  | .loop => w.trying = false
  | .connecting a => ∀ r, a.reply? = some r → w.Expects script r
  | .reply r _ _ => w.Expects script r
  | .receiving _ _ => True

/-- What is due stays due while no attempt begins and none becomes unsettled. -/
theorem Next.IsDue.of_begun {script : List Attempt} {w w' : Watch} {next : Next}
    (h : next.IsDue script w) (hbegun : w'.begun = w.begun)
    (htrying : w.trying = false → w'.trying = false) : next.IsDue script w' := by
  cases next with
  | loop => exact htrying h
  | connecting a => exact fun r ha => (h r ha).of_begun hbegun
  | reply r ds exception => exact Expects.of_begun h hbegun
  | receiving ds exception => trivial

/-- Where a task waits, what comes with its next turn is due. -/
def Waiting.IsDue (script : List Attempt) (w : Watch) (t : Waiting) : Prop :=
  ∀ next, t.next = some next → next.IsDue script w

/-- What an attempt does is permitted, and leaves nothing but what is due. -/
structure Attempted.Follows (script : List Attempt) (w : Watch) (r : Attempted) : Prop where
  goes : Goes script w r.story r.connection
  due : ∀ t, r.outcome = .waiting t → t.IsDue script w

namespace Attempted.Follows

variable {script : List Attempt} {w : Watch} {r : Attempted}

/-- An attempt that the hub ends follows on what goes on until then. -/
theorem of_left {story : Story} {c : Connection} (h : Goes script w story c) :
    Follows script w ⟨c, story, .left⟩ := by
  refine ⟨h, ?_⟩
  rintro t ⟨⟩

/-- An attempt that fails follows likewise, for whatever reason it fails; the reason shows
only in the notice that the loop gives afterwards. -/
theorem of_failed {story : Story} {c : Connection} (h : Goes script w story c) (f : Failure) :
    Follows script w ⟨c, story, .failed f⟩ := by
  refine ⟨h, ?_⟩
  rintro t ⟨⟩

/-- An attempt that waits follows likewise if its wait is due. -/
theorem of_waiting {story : Story} {c : Connection} (h : Goes script w story c) {t : Waiting}
    (ht : t.IsDue script w) : Follows script w ⟨c, story, .waiting t⟩ :=
  ⟨h, fun _ hw => AttemptEnd.waiting.inj hw ▸ ht⟩

/-- What an attempt does may follow on what was told before, as long as that begins no
attempt. -/
theorem after {told : Story} {c : Connection} (htold : Goes script w told c)
    (h : Follows script (w.hear told) r) : Follows script w (r.after told) where
  goes := htold.append h.goes
  due t ht next hnext :=
    (h.due t ht next hnext).of_begun htold.begun.symm htold.trying.symm.trans

/-- Leaving the socket at the end is permitted after everything. -/
theorem close (h : Follows script w r) : Follows script w r.close := by
  have hclosed : Goes script w (r.story ++ r.connection.tells [.closed]) r.connection :=
    h.goes.append_of_grows goes_closed
  unfold Attempted.close
  split
  · exact h
  · rename_i hno
    exact ⟨hclosed, fun t ht => absurd ht (hno t)⟩

end Attempted.Follows

namespace Attempt

variable {script : List Attempt} {w : Watch} {c : Connection}

/-- A frame that is neither text nor an error is passed over, and the next one is asked for. -/
theorem receive_other (exception : Option Failure) (c : Connection) {kind : FrameKind}
    (h : kind ≠ .error) (ds : List Delivery) :
    receive exception c (.frame (.other kind) :: ds) =
      (receive exception c ds).after (c.tells [c.asked]) := by
  cases kind with
  | error => exact absurd rfl h
  | _ => rfl

/-- **The receive loop only adds events,** whatever frames come, until the hub leaves, the
socket fails or nothing more comes for now. -/
theorem follows_receive (exception : Option Failure) {ds : List Delivery}
    (h : Grows w.connection c) : Attempted.Follows script w (receive exception c ds) := by
  induction ds generalizing w c with
  | nil => exact .of_left (Goes.nil h)
  | cons d ds ih =>
    cases d with
    | fails f => exact .of_failed (Goes.nil h) f
    | waits k => exact .of_waiting (Goes.nil h) nofun
    | pauses k => exact .of_waiting (Goes.nil h) fun next hnext => Option.some.inj hnext ▸ trivial
    | frame f =>
      cases f with
      | other kind =>
        by_cases hk : kind = .error
        · subst hk
          exact .of_failed (Goes.nil h) (socketFailure exception)
        · rw [receive_other exception c hk]
          have hasked : Goes script w (c.tells [c.asked]) c := goes_asked h
          exact .after hasked (ih hasked.grows)
      | text data =>
        have hframe : Grows c (c.handleFrame data).connection :=
          grows_handleRecords c (recordsOf data)
        have htaking := goes_notices script (c.handleFrame data).notices
          (h.trans hframe)
        rw [receive]
        split
        · exact .of_failed htaking _
        · exact .of_left htaking
        · have hasked := htaking.append_of_grows goes_asked
          exact .after hasked (ih hasked.grows)

/-- **A greeting is for the reply of the current attempt:** if it accepts, the acceptance and
the state `connected` are told one right after the other. -/
theorem goes_greet {reply : Except Failure Frame} (h : Grows w.connection c)
    (hexpects : w.Expects script reply) :
    Goes script w (greet c reply).2.1 (greet c reply).1 := by
  cases reply with
  | error f => exact Goes.nil h
  | ok f =>
    cases f with
    | other kind => exact Goes.nil h
    | text data =>
      have hnotices := goes_notices script (c.completeHandshake data).notices
        (h.trans (grows_completeHandshake c data))
      rw [greet]
      simp only
      split
      · exact hnotices
      · rename_i hok
        have haccepted := hnotices.append (Goes.single
          (allows_accepted (hexpects.of_begun hnotices.begun) hok hnotices.grows) rfl nofun)
        have hconnected := haccepted.append (Goes.single
          (allows_connected haccepted.grows (accepted_hear_concat _ _ _)) rfl nofun)
        have hnoticed := hconnected.append_of_grows (goes_notices script [.connected c.url])
        simpa [tells] using hnoticed

/-- **What follows the reply of the current attempt** is permitted: the greeting, and after an
accepted one the receive loop. -/
theorem follows_answer {reply : Except Failure Frame} (h : Grows w.connection c)
    (hexpects : w.Expects script reply) (ds : List Delivery) (exception : Option Failure) :
    Attempted.Follows script w (answer c reply ds exception) := by
  have hgreet := goes_greet h hexpects
  unfold answer
  split
  · rename_i c' greeting f hg
    rw [hg] at hgreet
    exact .of_failed (hgreet.append_of_grows goes_closed) f
  · rename_i c' greeting hg
    rw [hg] at hgreet
    have hasked := hgreet.append_of_grows goes_asked
    exact .after hasked (follows_receive exception hasked.grows).close

/-- **What connecting leads to** is permitted in the current attempt, whether it is refused,
hangs, or gets a reply at once or later.  All that is asked for is that the reply is that of
the attempt. -/
theorem follows_connect {a : Attempt} (h : Grows w.connection c)
    (hexpects : ∀ reply, a.reply? = some reply → w.Expects script reply) :
    Attempted.Follows script w (a.connect c) := by
  have hopening : Goes script w (c.tells [.sent handshakeText, .receiving]) c := by
    refine goes_tells (fun e he => ?_) h
    obtain rfl | rfl : e = .sent handshakeText ∨ e = .receiving := by simpa using he
    · exact ⟨rfl, rfl, rfl⟩
    · exact ⟨rfl, rfl, rfl⟩
  cases a with
  | refused f => exact .of_failed (Goes.nil h) f
  | hangs => exact .of_waiting (Goes.nil h) nofun
  | unanswered k => exact .of_waiting hopening nofun
  | later a => exact .of_waiting (Goes.nil h) fun next hnext => Option.some.inj hnext ▸ hexpects
  | answered k reply ds exception =>
    exact .of_waiting hopening fun next hnext => Option.some.inj hnext ▸ hexpects reply rfl
  | opened reply ds exception =>
    exact .after hopening (follows_answer hopening.grows
      ((hexpects reply rfl).of_begun hopening.begun) ds exception)

end Attempt
end Recorder
