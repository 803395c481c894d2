/-
# What taking in leaves alone

`SPEC_FULL.md` §3: `ingest` appends to the private buffer of a connection, and only decoded
events.

Taking in payloads, frames and replies changes nothing of a connection but the end of its
buffer (`Connection.Grows`), and does the same in every state
(`Connection.handleRecords_enter`).

So nothing that the network sends can take an event away or change where a message goes.
Buffers get shorter by `Connection.clear` alone, which the network cannot ask for, and how
a record is handled does not depend on whether the connection is connected already: that is
why a reply to the handshake may bring records with it.
-/

import Recorder.Connection.Lifecycle
import Recorder.Proofs.Connection.Frames

namespace Recorder
namespace Connection

@[simp] theorem endpoint_enter (c : Connection) (state : ConnectionState) :
    (c.enter state).endpoint = c.endpoint := rfl

/-- Entering a state keeps the buffer: events outlive every lost connection. -/
@[simp] theorem buffer_enter (c : Connection) (state : ConnectionState) :
    (c.enter state).buffer = c.buffer := rfl

/-- **Growing:** the same connection, in the same state, with more events at the end of its
buffer.  No event that was there is lost, changed or moved. -/
structure Grows (c c' : Connection) : Prop where
  endpoint : c'.endpoint = c.endpoint
  state : c'.state = c.state
  buffer : c.buffer <+: c'.buffer

namespace Grows

/-- A connection that takes nothing in has grown by nothing. -/
theorem refl (c : Connection) : Grows c c := ⟨rfl, rfl, List.prefix_refl _⟩

/-- Growing twice is growing, so that a whole frame needs no more than its records one by one. -/
theorem trans {c c' c'' : Connection} (h : Grows c c') (h' : Grows c' c'') : Grows c c'' :=
  ⟨h'.endpoint.trans h.endpoint, h'.state.trans h.state, h.buffer.trans h'.buffer⟩

end Grows

/-- One message adds one event or none, and the event comes last. -/
theorem grows_ingest (c : Connection) (payload : Json) : Grows c (c.ingest payload) :=
  ⟨rfl, rfl, List.prefix_append _ _⟩

/-- Messages in a row add their events in a row; those that do not decode are dropped and add
none. -/
theorem grows_ingestAll (c : Connection) (payloads : List Json) :
    Grows c (c.ingestAll payloads) := by
  induction payloads generalizing c with
  | nil => exact Grows.refl c
  | cons p ps ih => exact (grows_ingest c p).trans (ih (c.ingest p))

/-- **Records only add events,** also those before one that stops a frame: the buffer of
before is the beginning of the buffer of after, and the endpoint and the state are what they
were. -/
theorem grows_handleRecords (c : Connection) (rs : List String) :
    Grows c (c.handleRecords rs).connection := by
  induction rs generalizing c with
  | nil => exact Grows.refl c
  | cons r rs ih =>
    rw [handleRecords]
    split
    · exact Grows.refl c
    · exact ih c
    · rename_i payloads _
      exact (grows_ingestAll c payloads).trans (ih _)
    · exact ih c

/-- **A reply only adds events,** whether it is accepted or not.  A refused one adds none, and
an accepted one those of the records that came with it. -/
theorem grows_completeHandshake (c : Connection) (text : String) :
    Grows c (c.completeHandshake text).connection := by
  unfold completeHandshake
  split
  · exact Grows.refl c
  · split
    · exact Grows.refl c
    · exact grows_handleRecords c _

/-! ## Every state is the same -/

/-- Messages are taken in without a look at the state: it makes no difference whether the
state is entered before them or after them. -/
theorem ingestAll_enter (c : Connection) (state : ConnectionState) (payloads : List Json) :
    (c.enter state).ingestAll payloads = (c.ingestAll payloads).enter state := by
  induction payloads generalizing c with
  | nil => rfl
  | cons p ps ih => exact ih (c.ingest p)

/-- **Records are handled alike in every state.**  The state is carried along and never looked
at, so it does not matter whether it is entered before the records or after them. -/
theorem handleRecords_enter (c : Connection) (state : ConnectionState) (rs : List String) :
    (c.enter state).handleRecords rs =
      { c.handleRecords rs with connection := (c.handleRecords rs).connection.enter state } := by
  induction rs generalizing c with
  | nil => rfl
  | cons r rs ih =>
    rw [handleRecords, handleRecords, endpoint_enter]
    split
    · rfl
    · exact ih c
    · rw [ingestAll_enter, ih]
    · rw [ih]
      rfl

end Connection
end Recorder
