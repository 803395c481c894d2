/-
# Events in an envelope

`SPEC_FULL.md` §2, `decode_event`: the flat shape and the engine's wrapped shape.

An envelope adds at most a timestamp to the event in it: it is decoded like the event
itself, or like the event with the timestamp of the envelope if it has none of its own.
Whatever else the envelope has is of no account (`Event.decode?_envelope`).

The proof goes by what a description is read through: two descriptions that agree in the
fields that are looked up are decoded alike (`Event.ofBody?_congr`).
-/

import Recorder.Proofs.Event.Acceptance

namespace Recorder
namespace Event

/-- **A description is read without its timestamp,** which is given beside it.  So two
descriptions that agree in all the other fields are read alike, also if only one of them has a
timestamp of its own. -/
theorem ofBody?_congr {fs gs : Fields} (h : ∀ key ≠ "timestamp", fs.get? key = gs.get? key)
    (stamp : Option Json) : ofBody? fs stamp = ofBody? gs stamp := by
  have hobject (name : String) (hname : name ≠ "timestamp") :
      objectAt fs name = objectAt gs name := by
    rw [objectAt, objectAt, h name hname]
  have hgesture (text : String) (device : Device) :
      gesture? fs text device = gesture? gs text device := by
    cases device with
    | mouse => rw [gesture?, gesture?, hobject "value" (by decide), h "x" (by decide),
        h "y" (by decide)]
    | keyboard => rw [gesture?, gesture?, hobject "value" (by decide), h "key" (by decide)]
  simp only [ofBody?, h "type" (by decide), h "machineName" (by decide), h "event" (by decide),
    hobject "chain" (by decide), hgesture]

/-- Without a timestamp there is no event, whatever else is in its description. -/
theorem ofBody?_none (fs : Fields) : ofBody? fs none = none := by
  cases hdevice : device? (fs.get? "type") <;> simp [ofBody?, hdevice]

/-- An event with a type is its own description. -/
theorem decode?_flat {fs : Fields} (htype : fs.has "type" = true) :
    decode? (.obj fs) = ofBody? fs (fs.get? "timestamp") := by
  have hbody : body fs = fs := if_pos htype
  rw [decode?_obj, hbody, Option.or_self]

variable {outer fs : Fields}

/-- An envelope is read as the description in it, its timestamp standing in for a missing
one. -/
theorem decode?_of_value (hvalue : outer.get? "value" = some (.obj fs))
    (houter : outer.has "type" = false) :
    decode? (.obj outer) = ofBody? fs ((fs.get? "timestamp").or (outer.get? "timestamp")) := by
  have hbody : body outer = fs :=
    describes_iff.1 (.envelope (Entries.has_eq_false_iff.1 houter) hvalue)
  rw [decode?_obj, hbody]

/-- **Envelopes change nothing but the timestamp.**  An event in an envelope is decoded as
the event itself if it has a timestamp, as the event with the timestamp of the envelope if
only that has one, and as nothing if neither has.  Two envelopes of one event that agree in
their timestamps are decoded alike. -/
theorem decode?_envelope (hvalue : outer.get? "value" = some (.obj fs))
    (htype : fs.has "type" = true) (houter : outer.has "type" = false) :
    (fs.has "timestamp" = true → decode? (.obj outer) = decode? (.obj fs)) ∧
      (fs.has "timestamp" = false → ∀ t, outer.get? "timestamp" = some t →
        decode? (.obj outer) = decode? (.obj (fs.put "timestamp" t))) ∧
      (fs.has "timestamp" = false → outer.has "timestamp" = false →
        decode? (.obj outer) = none ∧ decode? (.obj fs) = none) ∧
      ∀ other : Fields, other.get? "value" = some (.obj fs) → other.has "type" = false →
        other.get? "timestamp" = outer.get? "timestamp" →
          decode? (.obj other) = decode? (.obj outer) := by
  have hdecode := decode?_of_value hvalue houter
  refine ⟨fun hstamp => ?_, fun hstamp t ht => ?_, fun hstamp hnone => ?_, fun other hv ho ht => ?_⟩
  · obtain ⟨t, ht⟩ := Option.isSome_iff_exists.1 hstamp
    rw [hdecode, decode?_flat htype, ht, Option.some_or]
  · have hfs := Entries.has_eq_false_iff.1 hstamp
    have hkeep (key : String) (hkey : key ≠ "timestamp") :
        fs.get? key = (fs.put "timestamp" t).get? key := by
      rw [Entries.get?_put, if_neg hkey.symm]
    have hput : (fs.put "timestamp" t).has "type" = true := by
      rw [Entries.has, ← hkeep "type" (by decide)]
      exact htype
    rw [hdecode, decode?_flat hput, hfs, ht, Option.none_or, Entries.get?_put, if_pos rfl]
    exact ofBody?_congr hkeep _
  · rw [hdecode, decode?_flat htype, Entries.has_eq_false_iff.1 hstamp,
      Entries.has_eq_false_iff.1 hnone]
    exact ⟨ofBody?_none fs, ofBody?_none fs⟩
  · rw [hdecode, decode?_of_value hv ho, ht]

/-- A key that was let go, without a timestamp. -/
def unstamped : Fields :=
  [("type", .str "keyboard"), ("machineName", .str "A"), ("event", .str "keyup"),
    ("value", .obj [("key", .str "Enter")])]

/-- The key in an envelope with a timestamp and a sender. -/
def stampedEnvelope : Fields :=
  [("timestamp", .int 5), ("sender", .str "hub"), ("value", .obj unstamped)]

/-- The key is decoded with the timestamp of its envelope, whoever sent it. -/
theorem decode?_stampedEnvelope :
    (decode? (.obj stampedEnvelope)).isSome = true ∧
      decode? (.obj stampedEnvelope) = decode? (.obj (unstamped.put "timestamp" (.int 5))) ∧
      decode? (.obj [("value", .obj unstamped), ("timestamp", .int 5)]) =
        decode? (.obj stampedEnvelope) := by
  obtain ⟨-, hput, -, hother⟩ := @decode?_envelope stampedEnvelope unstamped rfl rfl rfl
  exact ⟨by decide +kernel, hput rfl (.int 5) rfl, hother _ rfl rfl rfl⟩

end Event
end Recorder
