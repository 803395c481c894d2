/-
# What a frame does

`SPEC_FULL.md` §3, `handle_frames` and `ingest`: invocations of the target are decoded and
buffered, pings are ignored, and malformed events are dropped (§11).

A frame is handled record by record, and a record that asks for nothing is skipped,
whether it can be read or not.  There is one exception: a record beyond the limits of
the reader stops the frame, and what follows it is lost.  So a frame is handled to its
end just if no record of it is beyond those limits, and then every record adds what it
asks for, whatever stands before and after it (`Connection.handleFrame_framed_iff`).
Short records are never beyond them (`Connection.exists_result_handleFrame`).

| record | adds |
| --- | --- |
| an invocation of the target with a list of arguments | the events that the arguments decode to |
| any other that is within the limits | nothing |
-/

import Recorder.Connection.Basic
import Recorder.Proofs.Json.Rest
import Recorder.Proofs.Outcome

namespace Recorder

/-! ## Records -/

/-- **What a record invokes a target with:** the arguments, if it is an object of type 1
for that target with a list of arguments; nothing for any other record. -/
def invocationArguments (target record : String) : List Json :=
  match Json.read record with
  | .ok (.obj fs) =>
    if ((Entries.get? fs "type").any (·.equalsInt 1)) &&
        (Entries.get? fs "target").any (·.isText target) then
      match Entries.get? fs "arguments" with
      | some (.arr payloads) => payloads
      | _ => []
    else []
  | _ => []

/-- **Whether a record closes the connection:** it is an object whose type is 7, also if the 7
is written as a number with a point or with a power of ten. -/
def closesConnection (record : String) : Bool :=
  match Json.read record with
  | .ok (.obj fs) => (Entries.get? fs "type").any (·.equalsInt 7)
  | _ => false

/-- The events that records add, in order. -/
def eventsOfRecords (target : String) (records : List String) : List Event :=
  (records.flatMap (invocationArguments target)).filterMap Event.decode?

/-- The events of records in a row are those of the first records and then those of the
others. -/
theorem eventsOfRecords_append (target : String) (rs ss : List String) :
    eventsOfRecords target (rs ++ ss) = eventsOfRecords target rs ++ eventsOfRecords target ss := by
  rw [eventsOfRecords, List.flatMap_append, List.filterMap_append]
  rfl

/-- The events of a record come first: the arguments of its invocation that decode, in their
order. -/
theorem eventsOfRecords_cons (target record : String) (rs : List String) :
    eventsOfRecords target (record :: rs) =
      (invocationArguments target record).filterMap Event.decode? ++ eventsOfRecords target rs := by
  rw [eventsOfRecords, List.flatMap_cons, List.filterMap_append]
  rfl

/-- **Records of a frame in two parts** are those of the parts, if a separator stands between
these.  So a record never reaches over a separator, and what is in it does not depend on its
neighbours. -/
theorem recordsOf_append (a b : String) :
    recordsOf (a ++ String.singleton recordSeparator ++ b) = recordsOf a ++ recordsOf b := by
  have hl : (a ++ String.singleton recordSeparator ++ b).toList =
      a.toList ++ recordSeparator :: b.toList := by simp
  have hs : (recordSeparator == recordSeparator) = true := beq_self_eq_true _
  rw [recordsOf, hl, Text.splitBy_append_cons (p := (· == recordSeparator)) hs, List.map_append]
  rfl

/-- A text without a separator is one record. -/
theorem recordsOf_of_notMem {r : String} (h : recordSeparator ∉ r.toList) : recordsOf r = [r] := by
  have hc : ∀ c ∈ r.toList, (c == recordSeparator) = false := fun c hc => by
    rw [beq_eq_false_iff_ne]
    rintro rfl
    exact h hc
  rw [recordsOf, Text.splitBy_of_not hc, List.map_singleton, String.ofList_toList]

/-- A number that equals one whole number equals no other. -/
theorem Json.equalsInt_unique {v : Json} {m n : Int} (hm : v.equalsInt m = true)
    (hn : v.equalsInt n = true) : m = n := by
  cases v with
  | bool b => exact (beq_iff_eq.1 hm).symm.trans (beq_iff_eq.1 hn)
  | int k => exact (beq_iff_eq.1 hm).symm.trans (beq_iff_eq.1 hn)
  | float x => exact Option.some.inj ((beq_iff_eq.1 hm).symm.trans (beq_iff_eq.1 hn))
  | _ => cases hm

namespace HubMessage

/-- The payloads of a message. -/
def payloads : HubMessage → List Json
  | .events ps => ps
  | _ => []

/-- Whether a message closes the connection. -/
def isClose : HubMessage → Bool
  | .close _ => true
  | _ => false

/-- **The message of an object** has the arguments of an invocation of the target, and closes
just if its type is 7.  No object is both, as a number equals only one whole number. -/
theorem payloads_ofFields {record : String} {fs : Fields} (target : String)
    (h : Json.read record = .ok (.obj fs)) :
    (ofFields target fs).payloads = invocationArguments target record ∧
      (ofFields target fs).isClose = closesConnection record := by
  have ht (n : Int) : (Entries.get? fs "type").any (·.equalsInt n) =
      ((Entries.get? fs "type").getD .null).equalsInt n := by
    cases Entries.get? fs "type" <;> rfl
  unfold ofFields invocationArguments closesConnection
  simp only [h, ht]
  by_cases h1 : ((Entries.get? fs "type").getD .null).equalsInt 1 = true
  · have h7 : ¬ ((Entries.get? fs "type").getD .null).equalsInt 7 = true := fun h7 =>
      absurd (Json.equalsInt_unique h1 h7) (by decide)
    by_cases hg : (Entries.get? fs "target").any (·.isText target) = true
    · simp only [h1, hg, Bool.and_self, if_true, h7]
      rcases Entries.get? fs "arguments" with _ | (_ | _ | _ | _ | _ | _ | _) <;>
        simp [payloads, isClose]
    · simp [h1, hg, h7, payloads, isClose]
  · by_cases h7 : ((Entries.get? fs "type").getD .null).equalsInt 7 = true <;>
      simp [h1, h7, payloads, isClose]

/-- **The message of a record** that is within the limits is there in every case.  Text that
is no JSON or no object has the message that asks for nothing. -/
theorem exists_ofRecord {record : String} (h : Json.exceeded? record = none) (target : String) :
    ∃ m, ofRecord target record = .ok m ∧ m.payloads = invocationArguments target record ∧
      m.isClose = closesConnection record := by
  have hnothing (hno : ∀ fs, Json.read record ≠ .ok (.obj fs)) :
      (nothing.payloads = invocationArguments target record) ∧
        nothing.isClose = closesConnection record := by
    unfold invocationArguments closesConnection
    split
    · rename_i fs hr
      exact absurd hr (hno fs)
    · exact ⟨rfl, rfl⟩
  by_cases hb : Text.allBlank record = true
  · refine ⟨.nothing, by rw [ofRecord, if_pos hb], hnothing fun fs hr => ?_⟩
    rw [Json.read_of_allBlank hb] at hr
    cases hr
  · rw [ofRecord, if_neg hb]
    cases hv : Json.read record with
    | error e =>
      cases e with
      | malformed => exact ⟨.nothing, rfl, hnothing fun fs h => by rw [hv] at h; cases h⟩
      | beyond limit => exact absurd hv (Json.exceeded?_eq_none.1 h limit)
    | ok v =>
      cases v with
      | obj fs => exact ⟨ofFields target fs, rfl, payloads_ofFields target hv⟩
      | _ => exact ⟨.nothing, rfl, hnothing fun fs h => by rw [hv] at h; cases h⟩

/-- A record beyond the limits has no message. -/
theorem ofRecord_of_exceeded {record : String} {limit : JsonLimit}
    (h : Json.exceeded? record = some limit) (target : String) :
    ofRecord target record = .error limit := by
  rw [Json.exceeded?_eq_some] at h
  have hb : ¬ Text.allBlank record = true := fun hb => by
    rw [Json.read_of_allBlank hb] at h
    cases h
  rw [ofRecord, if_neg hb, h]

end HubMessage

namespace Connection

/-- Messages never change the endpoint, so the target that invocations are compared with stays
the same all along a frame. -/
@[simp] theorem endpoint_ingestAll (c : Connection) (payloads : List Json) :
    (c.ingestAll payloads).endpoint = c.endpoint := by
  induction payloads generalizing c with
  | nil => rfl
  | cons p ps ih => exact ih (c.ingest p)

/-- **One record** adds the payloads of its message to the connection that the rest of
the frame is handled by. -/
theorem handleRecords_cons {c : Connection} {r : String} {m : HubMessage}
    (hm : HubMessage.ofRecord c.endpoint.eventTarget r = .ok m) (rs : List String) :
    (c.handleRecords (r :: rs)).connection =
        ((c.ingestAll m.payloads).handleRecords rs).connection ∧
      (c.handleRecords (r :: rs)).result =
        ((c.ingestAll m.payloads).handleRecords rs).result.map (· && !m.isClose) := by
  have hid (result : Except JsonLimit Bool) : result = result.map (· && !false) := by
    cases result <;> simp [Except.map]
  rw [handleRecords, hm]
  cases m with
  | events payloads => exact ⟨rfl, hid _⟩
  | nothing => exact ⟨rfl, hid _⟩
  | close reason =>
    refine ⟨rfl, ?_⟩
    have hfalse : (fun isOpen : Bool => isOpen && !true) = fun _ => false :=
      funext fun isOpen => Bool.and_false isOpen
    rw [HubMessage.isClose, hfalse]
    rfl

/-- **Records within the limits** add what they ask for, one after the other, and leave
the connection open unless one of them closes it. -/
theorem handleRecords_of_within {rs : List String} (h : ∀ r ∈ rs, Json.exceeded? r = none)
    (c : Connection) :
    (c.handleRecords rs).connection.buffer =
        c.buffer ++ eventsOfRecords c.endpoint.eventTarget rs ∧
      ∃ isOpen, (c.handleRecords rs).result = .ok isOpen ∧
        (isOpen = false ↔ ∃ r ∈ rs, closesConnection r = true) := by
  induction rs generalizing c with
  | nil =>
    refine ⟨?_, true, rfl, ?_⟩
    · simp [handleRecords, eventsOfRecords]
    · simp
  | cons r rs ih =>
    obtain ⟨m, hm, hp, hc⟩ :=
      HubMessage.exists_ofRecord (h r List.mem_cons_self) c.endpoint.eventTarget
    obtain ⟨hconn, hres⟩ := handleRecords_cons hm rs
    obtain ⟨hbuf, isOpen, hok, hopen⟩ :=
      ih (fun r' hr' => h r' (List.mem_cons_of_mem r hr')) (c.ingestAll m.payloads)
    refine ⟨?_, isOpen && !m.isClose, ?_, ?_⟩
    · rw [hconn, hbuf, buffer_ingestAll, endpoint_ingestAll, hp, List.append_assoc,
        eventsOfRecords_cons]
    · rw [hres, hok]
      rfl
    · rw [Bool.and_eq_false_iff, Bool.not_eq_false', hopen, hc, or_comm]
      simp only [List.mem_cons, exists_eq_or_imp]

/-- **A record beyond the limits** stops the frame: what was there before it stays in the
buffer, and what comes after it is not handled.  It is the one kind of record that the others
have to fear. -/
theorem handleRecords_of_exceeded {rs : List String} (h : ∀ r ∈ rs, Json.exceeded? r = none)
    {r : String} {limit : JsonLimit} (hr : Json.exceeded? r = some limit)
    (ss : List String) (c : Connection) :
    (c.handleRecords (rs ++ r :: ss)).result = .error limit ∧
      (c.handleRecords (rs ++ r :: ss)).connection.buffer =
        c.buffer ++ eventsOfRecords c.endpoint.eventTarget rs := by
  induction rs generalizing c with
  | nil =>
    rw [List.nil_append, handleRecords, HubMessage.ofRecord_of_exceeded hr]
    simp [eventsOfRecords]
  | cons q rs ih =>
    obtain ⟨m, hm, hp, -⟩ :=
      HubMessage.exists_ofRecord (h q List.mem_cons_self) c.endpoint.eventTarget
    obtain ⟨hconn, hres⟩ := handleRecords_cons hm (rs ++ r :: ss)
    obtain ⟨herr, hbuf⟩ :=
      ih (fun r' hr' => h r' (List.mem_cons_of_mem q hr')) (c.ingestAll m.payloads)
    constructor
    · rw [List.cons_append, hres, herr]
      rfl
    · rw [List.cons_append, hconn, hbuf, buffer_ingestAll, endpoint_ingestAll, hp,
        List.append_assoc, eventsOfRecords_cons]

/-- **Records are handled to their end** just if all of them are within the limits of the
reader.  The events that they bring have no part in it, since an argument that does not decode
is dropped and reported. -/
theorem exists_result_handleRecords_iff {c : Connection} {rs : List String} :
    (∃ isOpen, (c.handleRecords rs).result = .ok isOpen) ↔ ∀ r ∈ rs, Json.exceeded? r = none := by
  refine ⟨?_, fun h => ?_⟩
  · rintro ⟨isOpen, hok⟩
    induction rs generalizing c isOpen with
    | nil => simp
    | cons r rs ih =>
      have hr : Json.exceeded? r = none := by
        rw [Option.eq_none_iff_forall_ne_some]
        intro limit hl
        have herr := (handleRecords_of_exceeded (List.forall_mem_nil _) hl rs c).1
        rw [List.nil_append, hok] at herr
        cases herr
      obtain ⟨m, hm, -, -⟩ := HubMessage.exists_ofRecord hr c.endpoint.eventTarget
      rw [(handleRecords_cons hm rs).2] at hok
      obtain ⟨isOpen', hok', -⟩ := Outcome.map_eq_ok.1 hok
      rw [List.forall_mem_cons]
      exact ⟨hr, ih isOpen' hok'⟩
  · obtain ⟨-, isOpen, hok, -⟩ := handleRecords_of_within h c
    exact ⟨isOpen, hok⟩

/-- **A frame of short records** is handled to its end, whatever they hold.  A record with no
more characters than the reader takes levels is within both limits, as every level and every
digit takes a character. -/
theorem exists_result_handleFrame (c : Connection) {text : String}
    (h : ∀ record ∈ recordsOf text, record.length ≤ Json.maxNesting) :
    ∃ isOpen, (c.handleFrame text).result = .ok isOpen :=
  exists_result_handleRecords_iff.2 fun record hr => Json.exceeded?_of_length_le (h record hr)

/-- A text between two others, each divided from it by a separator. -/
def framed (a r b : String) : String :=
  a ++ String.singleton recordSeparator ++ r ++ String.singleton recordSeparator ++ b

/-- A record between two separators is a record of the frame, and what stands before and after
it is cut as if it were alone. -/
theorem recordsOf_framed {r : String} (hr : recordSeparator ∉ r.toList) (a b : String) :
    recordsOf (framed a r b) = recordsOf a ++ r :: recordsOf b := by
  rw [framed, recordsOf_append, recordsOf_append, recordsOf_of_notMem hr, List.append_assoc,
    List.singleton_append]

/-- **One record never stops the others,** unless it is beyond the limits of the reader.
A frame is handled to its end just if all its records are within them.  Then it adds what
the records before a record add, what the record's own arguments decode to, and what the
records after it add; and it closes the connection just if one of its records does. -/
theorem handleFrame_framed_iff (c : Connection) {r : String} (hr : recordSeparator ∉ r.toList)
    (a b : String) :
    ((∃ isOpen, (c.handleFrame (framed a r b)).result = .ok isOpen) ↔
      ∀ record ∈ recordsOf (framed a r b), Json.exceeded? record = none) ∧
    ∀ isOpen, (c.handleFrame (framed a r b)).result = .ok isOpen →
      (∃ before after, (c.handleFrame a).connection.buffer = c.buffer ++ before ∧
        (c.handleFrame b).connection.buffer = c.buffer ++ after ∧
        (c.handleFrame (framed a r b)).connection.buffer = c.buffer ++ (before ++
          (invocationArguments c.endpoint.eventTarget r).filterMap Event.decode? ++ after)) ∧
      (isOpen = false ↔ ∃ record ∈ recordsOf (framed a r b), closesConnection record = true) := by
  refine ⟨exists_result_handleRecords_iff, fun isOpen hok => ?_⟩
  have hall := exists_result_handleRecords_iff.1 ⟨isOpen, hok⟩
  obtain ⟨hbuf, isOpen', hok', hopen⟩ := handleRecords_of_within hall c
  have hall' := hall
  rw [recordsOf_framed hr, List.forall_mem_append, List.forall_mem_cons] at hall'
  obtain ⟨hbefore, -, hafter⟩ := hall'
  refine ⟨⟨_, _, (handleRecords_of_within hbefore c).1, (handleRecords_of_within hafter c).1, ?_⟩, ?_⟩
  · rw [handleFrame, hbuf, recordsOf_framed hr, eventsOfRecords_append, eventsOfRecords_cons,
      List.append_assoc (eventsOfRecords _ (recordsOf a))]
  · obtain rfl := Except.ok.inj (hok'.symm.trans hok)
    exact hopen

/-- A record beyond the limits leaves what the records before it have added, and the
records after it are not handled. -/
theorem handleFrame_framed_of_exceeded {a r b : String} (hr : recordSeparator ∉ r.toList)
    (ha : ∀ record ∈ recordsOf a, Json.exceeded? record = none) {limit : JsonLimit}
    (hl : Json.exceeded? r = some limit) (c : Connection) :
    (c.handleFrame (framed a r b)).result = .error limit ∧
      (c.handleFrame (framed a r b)).connection.buffer = (c.handleFrame a).connection.buffer := by
  rw [handleFrame, recordsOf_framed hr, handleFrame, (handleRecords_of_within ha c).1]
  exact handleRecords_of_exceeded ha hl (recordsOf b) c

/-- A connection that has recorded nothing yet. -/
def listener : Connection := { endpoint := .ofUrl "http://a" }

/-- A hub tells that a key was typed. -/
def typingRecord : String :=
  "\x7b\"type\": 1, \"target\": \"ReceiveRecordingEvent\", " ++
    "\"arguments\": [\x7b\"type\": \"keyboard\", \"timestamp\": 1\x7d]\x7d"

/-- The record can stand in any frame, and it brings exactly one event. -/
theorem typingRecord_spec : recordSeparator ∉ typingRecord.toList ∧
    Json.exceeded? typingRecord = none ∧ ((invocationArguments "ReceiveRecordingEvent"
      typingRecord).filterMap Event.decode?).length = 1 := by
  decide +kernel

/-- A hub closes the connection. -/
def closingRecord : String := "\x7b\"type\": 7\x7d"

/-- A key is typed between a record that is no JSON and one that closes the connection. -/
theorem handleFrame_framed_typing : recordSeparator ∉ typingRecord.toList ∧
    ∃ isOpen before e after,
      (listener.handleFrame (framed "no JSON" typingRecord closingRecord)).result = .ok isOpen ∧
      isOpen = false ∧
      (listener.handleFrame (framed "no JSON" typingRecord closingRecord)).connection.buffer =
        before ++ [e] ++ after ∧
      (invocationArguments "ReceiveRecordingEvent" typingRecord).filterMap Event.decode? = [e] := by
  obtain ⟨hr, hkey, hlen⟩ := typingRecord_spec
  obtain ⟨e, he⟩ := List.length_eq_one_iff.1 hlen
  have hbefore : recordsOf "no JSON" = ["no JSON"] ∧ Json.exceeded? "no JSON" = none := by
    decide +kernel
  have hafter : recordsOf closingRecord = [closingRecord] ∧
      Json.exceeded? closingRecord = none ∧ closesConnection closingRecord = true := by
    decide +kernel
  obtain ⟨hiff, hadds⟩ := handleFrame_framed_iff listener hr "no JSON" closingRecord
  rw [recordsOf_framed hr, hbefore.1, hafter.1] at hiff hadds
  obtain ⟨isOpen, hok⟩ := hiff.2 (by simp [hbefore.2, hkey, hafter.2.1])
  obtain ⟨⟨before, after, -, -, hbuf⟩, hopen⟩ := hadds isOpen hok
  refine ⟨hr, isOpen, before, e, after, hok, hopen.2 ⟨closingRecord, by simp, hafter.2.2⟩, ?_, he⟩
  rw [hbuf, ← he]
  rfl

/-- A number of one digit more than the reader takes. -/
def longNumber : List Char := List.replicate (maxIntegerDigits + 1) '1'

/-- Every character of the number is the same digit. -/
theorem eq_of_mem_longNumber {c : Char} (h : c ∈ longNumber) : c = '1' := List.eq_of_mem_replicate h

/-- One digit too many is found by the reader at the end of the digits. -/
theorem exceeded?_longNumber :
    Json.exceeded? (String.ofList longNumber) = some (.digits (maxIntegerDigits + 1)) := by
  have hl : longNumber.length = maxIntegerDigits + 1 := List.length_replicate
  have hd : ∀ c ∈ longNumber, Json.Reader.isAsciiDigit c = true := fun c hc => by
    rw [eq_of_mem_longNumber hc]
    rfl
  have hz : longNumber.head? ≠ some '0' := fun h =>
    absurd (eq_of_mem_longNumber (List.mem_of_mem_head? h)) (by decide)
  rw [Json.exceeded?_digits hd hz (by rw [hl]; exact Nat.lt_succ_self _), hl]

/-- **A record can stop the others:** a number of too many digits ends the frame with an
error, and the key typed after it is lost. -/
theorem exists_handleFrame_framed_error :
    ∃ (c : Connection) (a r b : String), recordSeparator ∉ r.toList ∧
      (∃ limit, (c.handleFrame (framed a r b)).result = .error limit) ∧
      (c.handleFrame (framed a r b)).connection.buffer = c.buffer ∧
      ∃ e, (c.handleFrame b).connection.buffer = c.buffer ++ [e] := by
  have hr : recordSeparator ∉ (String.ofList longNumber).toList := fun hc => by
    rw [String.toList_ofList] at hc
    exact absurd (eq_of_mem_longNumber hc) (by decide)
  obtain ⟨herr, hbuf⟩ := handleFrame_framed_of_exceeded (a := "") (b := typingRecord) hr
    (by decide +kernel) exceeded?_longNumber listener
  obtain ⟨hs, hkey, hlen⟩ := typingRecord_spec
  obtain ⟨e, he⟩ := List.length_eq_one_iff.1 hlen
  refine ⟨listener, "", String.ofList longNumber, typingRecord, hr, ⟨_, herr⟩, ?_, e, ?_⟩
  · rw [hbuf, handleFrame, (handleRecords_of_within (by decide +kernel) listener).1]
    rfl
  · rw [handleFrame, recordsOf_of_notMem hs,
      (handleRecords_of_within (by simpa using hkey) listener).1, ← he]
    simp only [eventsOfRecords, List.flatMap_cons, List.flatMap_nil, List.append_nil]
    rfl

end Connection
end Recorder
