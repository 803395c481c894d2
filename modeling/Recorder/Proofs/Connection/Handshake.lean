/-
# Records that come with the reply

`SPEC_FULL.md` §3, `complete_handshake` and the receive loop: a close frame (type 7) ends
the socket.

A hub may send records in the frame of its reply to the handshake.  They add what they add
in a frame of their own (`Connection.buffer_perform_sending`), but a close message among
them is not heeded: the attempt goes on to the frames after it.  So it is the same to send
records with the reply or right after it just if they do not close the connection, or a
later frame does before any event arrives (`Connection.perform_piggybacked_iff`).

| sent with the reply | the frames that are read | left for the hub |
| --- | --- | --- |
| no close message | up to the first that closes the connection | if one does |
| a close message | the same | if one does |
| a close message, in a frame of its own | that one | yes |
-/

import Recorder.Proofs.Connection.Growth

namespace Recorder

/-! ## Text frames -/

/-- Whether a text frame closes the connection, which it does if any of its records does, be
it the first or the last. -/
def closesFrame (text : String) : Bool := (recordsOf text).any closesConnection

/-- **The frames that are read:** those up to the first that closes the connection, which is
itself read to its end.  The frames after it are never received. -/
def framesRead : List String → List String
  | [] => []
  | f :: fs => if closesFrame f then [f] else f :: framesRead fs

/-- The events that text frames add, in order. -/
def eventsOfFrames (target : String) (frames : List String) : List Event :=
  frames.flatMap fun f => eventsOfRecords target (recordsOf f)

/-- An attempt whose hub replies, sends text frames, and then nothing any more. -/
def Attempt.sending (reply : String) (frames : List String) (k : OnCancel)
    (exception : Option Failure) : Attempt :=
  .opened (.ok (.text reply)) (frames.map (.frame <| .text ·) ++ [.waits k]) exception

namespace Attempted

/-- What was told before an attempt ends changes nothing of the connection at its end. -/
@[simp] theorem connection_after (told : Story) (r : Attempted) :
    (r.after told).connection = r.connection := rfl

@[simp] theorem outcome_after (told : Story) (r : Attempted) :
    (r.after told).outcome = r.outcome := rfl

/-- Leaving the socket keeps the connection as it is. -/
@[simp] theorem connection_close (r : Attempted) : r.close.connection = r.connection := by
  unfold close
  split <;> rfl

@[simp] theorem outcome_close (r : Attempted) : r.close.outcome = r.outcome := by
  unfold close
  split <;> rfl

end Attempted

/-- Whether the records of a frame are within the limits of the reader. -/
def IsReadable (text : String) : Prop := ∀ r ∈ recordsOf text, Json.exceeded? r = none

namespace Connection

/-- **A readable frame** adds the events of its records, and is the last one just if it closes
the connection.  This is all that the receive loop asks of a frame. -/
theorem handleFrame_of_isReadable {text : String} (h : IsReadable text) (c : Connection) :
    (c.handleFrame text).connection.buffer =
        c.buffer ++ eventsOfRecords c.endpoint.eventTarget (recordsOf text) ∧
      (c.handleFrame text).result = .ok (!closesFrame text) := by
  obtain ⟨hbuffer, isOpen, hok, hopen⟩ := handleRecords_of_within h c
  refine ⟨hbuffer, hok.trans (congrArg Except.ok ?_)⟩
  have hany : closesFrame text = true ↔ isOpen = false := by
    rw [closesFrame, List.any_eq_true, hopen]
  cases isOpen <;> simp_all

/-- **The receive loop over text frames** reads them up to the first that closes the
connection, and is left just if there is one.  The induction is on the frames; without one
that closes, the loop ends up waiting for more. -/
theorem receive_frames (exception : Option Failure) (k : OnCancel) {frames : List String}
    (h : ∀ f ∈ frames, IsReadable f) (c : Connection) :
    (Attempt.receive exception c
        (frames.map (.frame <| .text ·) ++ [.waits k])).connection.buffer =
      c.buffer ++ eventsOfFrames c.endpoint.eventTarget (framesRead frames) ∧
    (Attempt.receive exception c (frames.map (.frame <| .text ·) ++ [.waits k])).outcome =
      if frames.any closesFrame then .left else .waiting { awaited := .receiving k } := by
  induction frames generalizing c with
  | nil =>
    refine ⟨?_, rfl⟩
    rw [framesRead, eventsOfFrames, List.flatMap_nil, List.append_nil]
    rfl
  | cons f fs ih =>
    obtain ⟨hf, hfs⟩ := List.forall_mem_cons.1 h
    obtain ⟨hbuffer, hresult⟩ := handleFrame_of_isReadable hf c
    have hgrows : Grows c (c.handleFrame f).connection := grows_handleRecords c (recordsOf f)
    rw [List.map_cons, List.cons_append, Attempt.receive, framesRead, List.any_cons]
    simp only [hresult]
    cases hc : closesFrame f with
    | true => simp [hbuffer, eventsOfFrames]
    | false =>
      obtain ⟨hrest, houtcome⟩ := ih hfs (c.handleFrame f).connection
      simp only [Bool.not_false, Attempted.connection_after, Attempted.outcome_after, hrest,
        houtcome, hbuffer, hgrows.endpoint, Bool.false_or]
      simp [eventsOfFrames]

/-- The reply to a handshake, with what stands after its first record. -/
def replyWith (first rest : String) : String :=
  first ++ String.singleton recordSeparator ++ rest

/-- Nothing stands in an empty frame: its only record is empty, and an empty record is passed
over. -/
theorem handleFrame_empty (c : Connection) :
    (c.handleFrame "").connection = c ∧ (c.handleFrame "").result = .ok true := by
  have hrecords : recordsOf "" = [""] := recordsOf_of_notMem List.not_mem_nil
  rw [handleFrame, hrecords]
  exact ⟨rfl, rfl⟩

/-- **An accepted reply** handles what comes with it as a frame, and fails just if that does.
Whether a record of it closes the connection is not handed on to the one who receives the
frames. -/
theorem completeHandshake_replyWith {first : String} (hsep : recordSeparator ∉ first.toList)
    (haccepted : checkHandshake first = .ok ()) (rest : String) (c : Connection) :
    (c.completeHandshake (replyWith first rest)).connection = (c.handleFrame rest).connection ∧
      (c.completeHandshake (replyWith first rest)).result =
        match (c.handleFrame rest).result with
        | .ok _ => .ok ()
        | .error limit => .error (.beyond limit) := by
  have hrecords : recordsOf (replyWith first rest) = first :: recordsOf rest := by
    rw [replyWith, recordsOf_append, recordsOf_of_notMem hsep, List.singleton_append]
  rw [completeHandshake, hrecords]
  simp only [haccepted]
  exact ⟨rfl, rfl⟩

section Sending

variable {first : String} (hsep : recordSeparator ∉ first.toList)
  (haccepted : checkHandshake first = .ok ()) {c : Connection} (frames : List String)
  (k : OnCancel) (exception : Option Failure)
include hsep haccepted

/-- **What is sent with the reply** is handled, and the attempt goes on to the frames after it,
whether the connection stays open or not. -/
theorem perform_sending {rest : String} {isOpen : Bool}
    (hrest : (c.handleFrame rest).result = .ok isOpen) :
    ((Attempt.sending (replyWith first rest) frames k exception).perform c).connection =
        (Attempt.receive exception ((c.handleFrame rest).connection.enter .connected)
          (frames.map (.frame <| .text ·) ++ [.waits k])).connection ∧
      ((Attempt.sending (replyWith first rest) frames k exception).perform c).outcome =
        (Attempt.receive exception ((c.handleFrame rest).connection.enter .connected)
          (frames.map (.frame <| .text ·) ++ [.waits k])).outcome := by
  obtain ⟨hconnection, hresult⟩ := completeHandshake_replyWith hsep haccepted rest c
  rw [hrest] at hresult
  simp only [Attempt.sending, Attempt.perform, Attempt.connect, Attempt.answer, Attempt.greet,
    hresult, hconnection, Attempted.connection_after, Attempted.outcome_after,
    Attempted.connection_close, Attempted.outcome_close, and_self]

/-- **What is sent with the reply and after it:** all of it adds its events, up to the first
frame after the reply that closes the connection, and only such a frame makes the attempt
leave. -/
theorem buffer_perform_sending {rest : String} (hrest : IsReadable rest) {frames : List String}
    (hframes : ∀ f ∈ frames, IsReadable f) :
    ((Attempt.sending (replyWith first rest) frames k exception).perform c).connection.buffer =
      c.buffer ++ eventsOfFrames c.endpoint.eventTarget (rest :: framesRead frames) ∧
    ((Attempt.sending (replyWith first rest) frames k exception).perform c).outcome =
      if frames.any closesFrame then .left else .waiting { awaited := .receiving k } := by
  obtain ⟨hbuffer, hresult⟩ := handleFrame_of_isReadable hrest c
  have hgrows : Grows c (c.handleFrame rest).connection := grows_handleRecords c (recordsOf rest)
  obtain ⟨hconnection, houtcome⟩ := perform_sending hsep haccepted frames k exception hresult
  obtain ⟨hread, hleft⟩ := receive_frames exception k hframes
    ((c.handleFrame rest).connection.enter .connected)
  refine ⟨?_, houtcome.trans hleft⟩
  rw [hconnection, hread, buffer_enter, endpoint_enter, hbuffer, hgrows.endpoint, eventsOfFrames,
    eventsOfFrames, List.flatMap_cons, List.append_assoc]

/-- **What is sent right after the reply** is the first of the frames, and if it closes the
connection it is also the last that is read.  There its way differs from that of what comes
with the reply. -/
theorem buffer_perform_sending_cons {rest : String} (hrest : IsReadable rest)
    {frames : List String} (hframes : ∀ f ∈ frames, IsReadable f) :
    ((Attempt.sending (replyWith first "") (rest :: frames) k exception).perform
        c).connection.buffer =
      c.buffer ++ eventsOfFrames c.endpoint.eventTarget (framesRead (rest :: frames)) ∧
    ((Attempt.sending (replyWith first "") (rest :: frames) k exception).perform c).outcome =
      if (rest :: frames).any closesFrame then .left else .waiting { awaited := .receiving k } := by
  obtain ⟨hsame, hresult⟩ := handleFrame_empty c
  obtain ⟨hconnection, houtcome⟩ :=
    perform_sending hsep haccepted (rest :: frames) k exception hresult
  obtain ⟨hread, hleft⟩ := receive_frames exception k
    (List.forall_mem_cons.2 ⟨hrest, hframes⟩) ((c.handleFrame "").connection.enter .connected)
  refine ⟨?_, houtcome.trans hleft⟩
  rw [hconnection, hread, hsame, buffer_enter, endpoint_enter]

/-- **What stops a frame** stops the attempt, sent with the reply or right after it, and what
was added before stays. -/
theorem perform_sending_of_error {rest : String} {limit : JsonLimit}
    (hrest : (c.handleFrame rest).result = .error limit) :
    (∀ frames, ((Attempt.sending (replyWith first rest) frames k exception).perform
        c).connection = (c.handleFrame rest).connection ∧
      ((Attempt.sending (replyWith first rest) frames k exception).perform c).outcome =
        .failed ⟨false, limit.message⟩) ∧
    ∀ frames, ((Attempt.sending (replyWith first "") (rest :: frames) k exception).perform
        c).connection = (c.handleFrame rest).connection.enter .connected ∧
      ((Attempt.sending (replyWith first "") (rest :: frames) k exception).perform c).outcome =
        .failed ⟨false, limit.message⟩ := by
  refine ⟨fun frames => ?_, fun frames => ?_⟩
  · obtain ⟨hconnection, hresult⟩ := completeHandshake_replyWith hsep haccepted rest c
    rw [hrest] at hresult
    simp only [Attempt.sending, Attempt.perform, Attempt.connect, Attempt.answer, Attempt.greet,
      hresult, hconnection]
    exact ⟨rfl, rfl⟩
  · obtain ⟨hsame, hresult⟩ := handleFrame_empty c
    obtain ⟨hconnection, houtcome⟩ :=
      perform_sending hsep haccepted (rest :: frames) k exception hresult
    have hframe : (c.enter .connected).handleFrame rest =
        { c.handleFrame rest with
          connection := (c.handleFrame rest).connection.enter .connected } :=
      handleRecords_enter c .connected (recordsOf rest)
    rw [hconnection, houtcome, hsame, List.map_cons, List.cons_append, Attempt.receive]
    simp only [hframe, hrest, and_self]

end Sending

/-- **Sent with the reply or right after it.**  The two end with the same events and are left
for the hub alike just if what is sent does not close the connection, or a later frame does
before any event arrives. -/
theorem perform_piggybacked_iff (c : Connection) {first : String}
    (hsep : recordSeparator ∉ first.toList) (haccepted : checkHandshake first = .ok ())
    (rest : String) (frames : List String)
    (hframes : ∀ f ∈ frames, ∃ isOpen, (c.handleFrame f).result = .ok isOpen) (k : OnCancel)
    (exception : Option Failure) :
    (((Attempt.sending (replyWith first rest) frames k exception).perform c).connection.buffer =
        ((Attempt.sending (replyWith first "") (rest :: frames) k exception).perform
          c).connection.buffer ∧
      (((Attempt.sending (replyWith first rest) frames k exception).perform c).outcome = .left ↔
        ((Attempt.sending (replyWith first "") (rest :: frames) k exception).perform
          c).outcome = .left)) ↔
    ((c.handleFrame rest).result = .ok false → frames.any closesFrame = true ∧
      eventsOfFrames c.endpoint.eventTarget (framesRead frames) = []) := by
  have hreadable : ∀ f ∈ frames, IsReadable f := fun f hf =>
    exists_result_handleRecords_iff.1 (hframes f hf)
  cases hr : (c.handleFrame rest).result with
  | error limit =>
    obtain ⟨hwith, hafter⟩ := perform_sending_of_error hsep haccepted k exception hr
    rw [(hwith frames).1, (hwith frames).2, (hafter frames).1, (hafter frames).2, buffer_enter]
    simp
  | ok isOpen =>
    have hrest : IsReadable rest := exists_result_handleRecords_iff.1 ⟨isOpen, hr⟩
    obtain rfl : isOpen = !closesFrame rest :=
      Except.ok.inj (hr.symm.trans (handleFrame_of_isReadable hrest c).2)
    obtain ⟨hbuffer, houtcome⟩ :=
      buffer_perform_sending (c := c) hsep haccepted k exception hrest hreadable
    obtain ⟨hbuffer', houtcome'⟩ :=
      buffer_perform_sending_cons (c := c) hsep haccepted k exception hrest hreadable
    have hleft (b : Bool) : (if b then AttemptEnd.left else
        .waiting { awaited := .receiving k }) = .left ↔ b = true := by
      cases b <;> simp
    -- Both ways begin with the events of `rest`, so only what the later frames add is compared.
    rw [hbuffer, hbuffer', houtcome, houtcome', hleft, hleft, List.append_cancel_left_eq,
      framesRead]
    cases hc : closesFrame rest with
    | false => simp [hc]
    | true => simp [hc, eventsOfFrames, and_comm]

/-- The reply that accepts a handshake. -/
def acceptingRecord : String := "\x7b\x7d"

/-- The record can stand in a frame, and it accepts the handshake. -/
theorem acceptingRecord_spec : recordSeparator ∉ acceptingRecord.toList ∧
    checkHandshake acceptingRecord = .ok () := by
  decide +kernel

/-- A close message is within the limits of reading and closes the frame that it stands in. -/
theorem isReadable_closingRecord : IsReadable closingRecord ∧ closesFrame closingRecord = true := by
  unfold IsReadable
  decide +kernel

theorem isReadable_typingRecord : IsReadable typingRecord ∧ closesFrame typingRecord = false := by
  unfold IsReadable
  decide +kernel

/-- A key is typed with the reply or right after it, and the hub closes the connection in the
frame after that. -/
theorem perform_piggybacked_typing :
    recordSeparator ∉ acceptingRecord.toList ∧ checkHandshake acceptingRecord = .ok () ∧
    (∀ f ∈ [closingRecord], ∃ isOpen, (listener.handleFrame f).result = .ok isOpen) ∧
    ((Attempt.sending (replyWith acceptingRecord typingRecord) [closingRecord] .ends none).perform
        listener).connection.buffer =
      ((Attempt.sending (replyWith acceptingRecord "") [typingRecord, closingRecord] .ends
        none).perform listener).connection.buffer ∧
    (((Attempt.sending (replyWith acceptingRecord typingRecord) [closingRecord] .ends none).perform
        listener).outcome = .left ↔
      ((Attempt.sending (replyWith acceptingRecord "") [typingRecord, closingRecord] .ends
        none).perform listener).outcome = .left) := by
  obtain ⟨hsep, haccepted⟩ := acceptingRecord_spec
  have hframes : ∀ f ∈ [closingRecord], ∃ isOpen,
      (listener.handleFrame f).result = .ok isOpen := by
    rw [List.forall_mem_singleton]
    exact ⟨_, (handleFrame_of_isReadable isReadable_closingRecord.1 listener).2⟩
  obtain ⟨htyping, hopen⟩ := isReadable_typingRecord
  have hresult : (listener.handleFrame typingRecord).result ≠ .ok false := by
    rw [(handleFrame_of_isReadable htyping listener).2, hopen]
    simp
  exact ⟨hsep, haccepted, hframes, (perform_piggybacked_iff listener hsep haccepted typingRecord
    [closingRecord] hframes .ends none).2 fun h => absurd h hresult⟩

/-- **A close message with the reply is not heeded:** in a frame of its own it is the last one
that is read, and a key typed after it does not arrive; sent with the reply it lets the
key in, and the attempt goes on. -/
theorem exists_perform_piggybacked_ne :
    ∃ (c : Connection) (first rest : String) (frames : List String) (k : OnCancel)
      (exception : Option Failure),
      recordSeparator ∉ first.toList ∧ checkHandshake first = .ok () ∧
      (∀ f ∈ rest :: frames, ∃ isOpen, (c.handleFrame f).result = .ok isOpen) ∧
      (∃ e, ((Attempt.sending (replyWith first rest) frames k exception).perform
          c).connection.buffer = [e]) ∧
      ((Attempt.sending (replyWith first rest) frames k exception).perform c).outcome =
        .waiting { awaited := .receiving k } ∧
      ((Attempt.sending (replyWith first "") (rest :: frames) k exception).perform
        c).connection.buffer = [] ∧
      ((Attempt.sending (replyWith first "") (rest :: frames) k exception).perform c).outcome =
        .left := by
  obtain ⟨hsep, haccepted⟩ := acceptingRecord_spec
  obtain ⟨hclosing, hcloses⟩ := isReadable_closingRecord
  obtain ⟨hone, -, hlen⟩ := typingRecord_spec
  obtain ⟨e, he⟩ := List.length_eq_one_iff.1 hlen
  obtain ⟨htyping, hopen⟩ := isReadable_typingRecord
  have hnone : eventsOfRecords "ReceiveRecordingEvent" (recordsOf closingRecord) = [] :=
    List.eq_nil_of_length_eq_zero (by decide +kernel)
  have hkey : eventsOfRecords "ReceiveRecordingEvent" (recordsOf typingRecord) = [e] := by
    rw [recordsOf_of_notMem hone, ← he, eventsOfRecords, List.flatMap_singleton]
  have hfresh : listener.buffer = [] ∧ listener.endpoint.eventTarget = "ReceiveRecordingEvent" :=
    ⟨rfl, rfl⟩
  have hreadable : ∀ f ∈ [typingRecord], IsReadable f :=
    List.forall_mem_singleton.2 htyping
  obtain ⟨hbuffer, houtcome⟩ := buffer_perform_sending (c := listener) hsep haccepted
    .cancelled none hclosing hreadable
  obtain ⟨hbuffer', houtcome'⟩ := buffer_perform_sending_cons (c := listener) hsep haccepted
    .cancelled none hclosing hreadable
  refine ⟨listener, acceptingRecord, closingRecord, [typingRecord], .cancelled, none, hsep,
    haccepted, ?_, ⟨e, ?_⟩, ?_, ?_, ?_⟩
  · intro f hf
    obtain rfl | rfl : f = closingRecord ∨ f = typingRecord := by simpa using hf
    · exact ⟨_, (handleFrame_of_isReadable hclosing listener).2⟩
    · exact ⟨_, (handleFrame_of_isReadable htyping listener).2⟩
  · rw [hbuffer, framesRead, hopen, hfresh.1, hfresh.2]
    simp [eventsOfFrames, framesRead, hnone, hkey]
  · rw [houtcome, List.any_cons, hopen]
    rfl
  · rw [hbuffer', framesRead, hcloses, hfresh.1, hfresh.2]
    simp [eventsOfFrames, hnone]
  · rw [houtcome', List.any_cons, hcloses]
    rfl

end Connection
end Recorder
