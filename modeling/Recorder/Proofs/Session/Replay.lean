/-
# The session of a saved recording

`SPEC_FULL.md` §12, `compile`, given what `dump_buffers` has written.

A session that is saved and replayed has its connections again, in order, each with
the endpoint and the events that writing and reading leave of it
(`Session.replay_saved`).  The messages of an entry go to the connection it is an
entry of, since no two have one base URL.

The proof follows the entries one by one: what the connections before an entry hold is not
touched by its messages, and what it adds to its own connection are the events that its
messages decode to.
-/

import Recorder.Proofs.Session.WellFormed
import Recorder.Proofs.Storage.Buffers
import Recorder.Session.Replay

namespace Recorder

namespace Connection

/-- A connection that has been saved and loaded again: its endpoint has finite numbers only,
and its events have no elements of which nothing is known. -/
def reloaded (c : Connection) : Connection :=
  { endpoint := c.endpoint.finite, buffer := c.buffer.map Event.known }

/-- The same connection before it has taken in its messages. -/
def unfilled (c : Connection) : Connection := { endpoint := c.endpoint.finite }

/-- A connection keeps its base URL when its buffer is taken away. -/
@[simp] theorem url_unfilled (c : Connection) : c.unfilled.url = c.url := rfl

@[simp] theorem url_reloaded (c : Connection) : c.reloaded.url = c.url := rfl

/-- Messages change the buffer and nothing else, by the events that they decode to. -/
theorem ingestAll_eq (c : Connection) (payloads : List Json) :
    c.ingestAll payloads =
      { c with buffer := c.buffer ++ payloads.filterMap Event.decode? } := by
  rw [← buffer_ingestAll]
  induction payloads generalizing c with
  | nil => rfl
  | cons p ps ih => exact ih (c.ingest p)

/-- **The messages of a saved connection** fill its buffer again, with the elements gone of
which nothing is known.  Each message is one event that was written, and it decodes. -/
theorem ingestAll_saved {c : Connection} (h : c.WellFormed) :
    c.unfilled.ingestAll c.saved.events = c.reloaded := by
  have hd : (c.buffer.map Event.encode).filterMap Event.decode? = c.buffer.map Event.known :=
    Event.filterMap_decode?_encode h.events
  rw [ingestAll_eq, saved, hd]
  rfl

end Connection

namespace Session

variable {s : Session}

/-- A session that has been saved and replayed with the same manifest and key names. -/
def reloaded (s : Session) : Session :=
  { s with connections := s.connections.map Connection.reloaded, ignored := [] }

/-- Changing the connection to a base URL leaves connections to others alone. -/
theorem update_of_notMem {cs : List Connection} {url : String} (h : url ∉ cs.map Connection.url)
    (f : Connection → Connection) : Connection.update cs url f = cs := by
  refine (List.map_congr_left fun c hc => ?_).trans (List.map_id cs)
  exact if_neg fun heq => h (List.mem_map.2 ⟨c, hc, heq⟩)

/-- The messages of one entry reach the connection it is an entry of, past those replayed
before and those still to come. -/
theorem replayOne_saved {c : Connection} (hc : c.WellFormed) {done rest : List Connection}
    (hd : c.url ∉ done.map Connection.url) (hr : c.url ∉ rest.map Connection.url) :
    replayOne { s with connections := done ++ c.unfilled :: rest } c.saved =
      { s with connections := done ++ c.reloaded :: rest } := by
  have hd' := update_of_notMem hd (·.ingestAll c.saved.events)
  have hr' := update_of_notMem hr (·.ingestAll c.saved.events)
  have hu : c.saved.endpoint.baseUrl = c.url := rfl
  rw [Connection.update] at hd' hr'
  rw [replayOne, update, Connection.update, hu, List.map_append, List.map_cons, hd', hr',
    Connection.url_unfilled, if_pos rfl, Connection.ingestAll_saved hc]

/-- **Replaying fills one buffer after the other.**  The invariant of the loop is that
connections whose entries were replayed are as they were saved, and the others are still
empty. -/
theorem foldl_replayOne {cs : List Connection} (hcs : ∀ c ∈ cs, c.WellFormed)
    (done : List Connection) (hn : ((done ++ cs).map Connection.url).Nodup) :
    (cs.map Connection.saved).foldl replayOne
        { s with connections := done ++ cs.map Connection.unfilled } =
      { s with connections := done ++ cs.map Connection.reloaded } := by
  induction cs generalizing done with
  | nil => rfl
  | cons c cs ih =>
    have hsplit := hn
    rw [List.map_append, List.map_cons, List.nodup_append, List.nodup_cons] at hsplit
    obtain ⟨-, ⟨hr, -⟩, hdisj⟩ := hsplit
    have hd : c.url ∉ done.map Connection.url := fun hmem =>
      hdisj _ hmem _ List.mem_cons_self rfl
    have hr : c.url ∉ (cs.map Connection.unfilled).map Connection.url := by
      rwa [List.map_map]
    have hn' : ((done ++ [c.reloaded] ++ cs).map Connection.url).Nodup := by
      simpa using hn
    have hrest := ih (fun d hmem => hcs d (List.mem_cons_of_mem _ hmem)) _ hn'
    rw [List.append_assoc, List.append_assoc] at hrest
    rw [List.map_cons, List.map_cons, List.map_cons, List.foldl_cons,
      replayOne_saved (hcs c List.mem_cons_self) hd hr]
    exact hrest

/-- **A replayed session** has the connections that saving and loading leave, in the same
order and with the same base URLs, and so it is the reloaded session itself. -/
theorem replay_saved (hs : s.WellFormed) :
    { replay (s.connections.map Connection.saved) s.manifest with keyNames := s.keyNames } =
      s.reloaded := by
  have hn : (((s.connections.map Connection.saved).map SavedConnection.endpoint).map
      Endpoint.baseUrl).Nodup := by
    rw [List.map_map, List.map_map]
    exact hs.nodup
  have hm : (if s.manifest.isTruthy then s.manifest else .obj []) = s.manifest := by
    rcases hs.manifest with h | h
    · rw [if_pos h]
    · rw [h]
      rfl
  have hc : ((s.connections.map Connection.saved).map SavedConnection.endpoint).map
      (fun e => ({ endpoint := e } : Connection)) = s.connections.map Connection.unfilled := by
    rw [List.map_map, List.map_map]
    rfl
  have hf := foldl_replayOne (s := { manifest := s.manifest }) hs.connection [] hs.nodup
  rw [List.nil_append, List.nil_append] at hf
  rw [replay, ofEndpoints, Connection.ofEndpoints_of_nodup hn, hm, hc, hf]
  rfl

end Session
end Recorder
