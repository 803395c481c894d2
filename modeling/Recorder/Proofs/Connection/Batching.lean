/-
# How records are put into frames

`SPEC_FULL.md` §3, `handle_frames`, which dispatches the records of one text.

A hub may send its records in one frame or in several.  To a connection it is all the
same: a frame made of others, with a separator between each two of them, does what the
others do one after the other (`Connection.handleFrame_joined`).

| the frames, one after the other | the frame made of them |
| --- | --- |
| none is stopped | open just if every one leaves the connection open |
| one is stopped | stopped by the same limit, after the same events |

The reason is a law of records: those of two lists in a row are handled as the first list
and then the second one, unless the first one is stopped
(`Connection.handleRecords_append`).
-/

import Recorder.Proofs.Connection.Frames

namespace Recorder
namespace Connection

namespace Handled

/-- **One frame after another.**  What stops the first one stops both; otherwise the
connection stays open if both leave it open. -/
def andThen (first : Handled) (next : Connection → Handled) : Handled :=
  match first.result with
  | .error _ => first
  | .ok isOpen =>
    let second := next first.connection
    { connection := second.connection
      notices := first.notices ++ second.notices
      result := second.result.map (isOpen && ·) }

variable {first : Handled} {next : Connection → Handled}

/-- A part that stopped with an error stops all: what would come next is never looked at. -/
theorem andThen_of_error {limit : JsonLimit} (h : first.result = .error limit) :
    first.andThen next = first := by
  rw [andThen, h]

/-- Otherwise the next part starts from the connection that the first one left, its notices
come behind those of the first, and the connection stays open only if both parts leave it so. -/
theorem andThen_of_ok {isOpen : Bool} (h : first.result = .ok isOpen) :
    first.andThen next =
      { connection := (next first.connection).connection
        notices := first.notices ++ (next first.connection).notices
        result := (next first.connection).result.map (isOpen && ·) } := by
  rw [andThen, h]

/-- Nothing at all before a frame. -/
theorem nothing_andThen (c : Connection) (next : Connection → Handled) :
    andThen { connection := c, result := .ok true } next = next c := by
  have hid : (next c).result.map (true && ·) = (next c).result := by
    cases (next c).result <;> rfl
  rw [andThen_of_ok rfl, hid, List.nil_append]

/-- A close message before two frames is one before the first of them. -/
theorem closed_andThen (notice : Notice) (first : Handled) (next : Connection → Handled) :
    andThen { first with
        notices := notice :: first.notices
        result := first.result.map fun _ => false } next =
      { first.andThen next with
        notices := notice :: (first.andThen next).notices
        result := (first.andThen next).result.map fun _ => false } := by
  cases h : first.result with
  | error limit =>
    have herror : ((.error limit : Except JsonLimit Bool).map fun _ => false) = .error limit := rfl
    rw [andThen_of_error h, andThen_of_error herror, h]
  | ok isOpen =>
    have hclosed : ((.ok isOpen : Except JsonLimit Bool).map fun _ => false) = .ok false := rfl
    rw [andThen_of_ok h, andThen_of_ok hclosed]
    cases (next first.connection).result <;> rfl

/-- Nothing at all after a frame. -/
theorem andThen_nothing (first : Handled) :
    first.andThen (fun c => { connection := c, result := .ok true }) = first := by
  obtain ⟨connection, notices, result⟩ := first
  cases result with
  | error limit => rfl
  | ok isOpen => simp [andThen_of_ok, Except.map]

end Handled

/-- **Records of two lists in a row** are handled as the first list and then the second.  If a
record of the first list is beyond the limits of the reader, nothing of the second list is
looked at. -/
theorem handleRecords_append (c : Connection) (rs ss : List String) :
    c.handleRecords (rs ++ ss) = (c.handleRecords rs).andThen (·.handleRecords ss) := by
  induction rs generalizing c with
  | nil => exact (Handled.nothing_andThen c (·.handleRecords ss)).symm
  | cons r rs ih =>
    rw [List.cons_append, handleRecords, handleRecords]
    cases HubMessage.ofRecord c.endpoint.eventTarget r with
    | error limit => rfl
    | ok m =>
      cases m with
      | nothing => exact ih c
      | events payloads => exact ih (c.ingestAll payloads)
      | close reason =>
        dsimp only
        rw [ih c]
        exact (Handled.closed_andThen _ _ _).symm

/-- **Frames one after the other,** up to the first that is stopped.  One that closes the
connection stops nothing here: the frames after it are still handled, as the records after a
close message are inside one frame. -/
def handleInTurn (c : Connection) : List String → Handled
  | [] => { connection := c, result := .ok true }
  | frame :: frames => (c.handleFrame frame).andThen (·.handleInTurn frames)

/-- Frames put into one, with a separator between each two of them.  Each may hold any number
of records itself. -/
def joined (frames : List String) : String :=
  (String.singleton recordSeparator).intercalate frames

/-- Frames that are joined have the records of the first frame and then those of the others,
as no record reaches across the separator between them. -/
theorem recordsOf_joined_cons (frame next : String) (frames : List String) :
    recordsOf (joined (frame :: next :: frames)) =
      recordsOf frame ++ recordsOf (joined (next :: frames)) := by
  rw [joined, String.intercalate_cons_cons, recordsOf_append]
  rfl

/-- **How records are put into frames does not matter.**  A frame made of others leaves the
connection with the same events as the others one after the other, reports the same, and
has the same outcome: it is open if all of them leave the connection open, and stopped by
what stops the first that is. -/
theorem handleFrame_joined (c : Connection) (frames : List String) :
    c.handleFrame (joined frames) = c.handleInTurn frames := by
  induction frames generalizing c with
  | nil =>
    rw [handleFrame, joined, String.intercalate_nil, recordsOf_of_notMem List.not_mem_nil]
    rfl
  | cons frame frames ih =>
    cases frames with
    | nil =>
      rw [joined, String.intercalate_singleton]
      exact (Handled.andThen_nothing _).symm
    | cons next frames =>
      have hrest : (fun c => handleInTurn c (next :: frames)) =
          fun c => c.handleRecords (recordsOf (joined (next :: frames))) :=
        funext fun c => (ih c).symm
      rw [handleInTurn, hrest, handleFrame, recordsOf_joined_cons, handleRecords_append]
      rfl

end Connection
end Recorder
