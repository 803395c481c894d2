/-
# Messages and buffers

`SPEC_FULL.md` §3: connections never read each other's buffers.

What a session keeps of the messages sent to it.  A message goes to the buffer of
its own base URL and nowhere else, at the end, and only if it decodes; forgetting
empties every buffer, and connecting or disconnecting empties none.  Each lemma says
what one operation does to the buffer of one base URL (`Session.bufferOf?`), which
is also what a snapshot shows of it (`Session.get?_snapshots`).
-/

import Recorder.Session.Basic

namespace Recorder

/-- Messages with the base URLs they come from, in order of arrival. -/
abbrev Messages := List (String × Json)

/-- What a connection keeps of messages: those for its base URL that decode, as events, in the
order in which they came. -/
def Messages.eventsFor (url : String) (ms : Messages) : List Event :=
  ms.filterMap fun m => if m.1 = url then Event.decode? m.2 else none

/-- The events for an endpoint come in the order of their messages. -/
theorem Messages.eventsFor_append (url : String) (ms ns : Messages) :
    Messages.eventsFor url (ms ++ ns) = Messages.eventsFor url ms ++ Messages.eventsFor url ns :=
  List.filterMap_append

namespace Connection

/-- Changing connections one by one changes what is found under a base URL, as long as
every connection keeps its own. -/
theorem find?_map {f : Connection → Connection} (hf : ∀ c, (f c).url = c.url)
    (cs : List Connection) (url : String) :
    find? (cs.map f) url = (find? cs url).map f := by
  have hp : ((fun c : Connection => c.url == url) ∘ f) = fun c => c.url == url :=
    funext fun c => by simp [hf c]
  rw [find?, List.find?_map, hp]
  rfl

/-- What is found under a base URL has that base URL. -/
theorem url_of_find? {cs : List Connection} {url : String} {c : Connection}
    (h : find? cs url = some c) : c.url = url := by
  simpa using List.find?_some h

/-- **A connection is found under its own base URL,** as long as base URLs differ.  In a
session they always do, since a second endpoint with the same one is ignored. -/
theorem find?_of_mem {cs : List Connection} (hn : (cs.map url).Nodup) {c : Connection}
    (hc : c ∈ cs) : find? cs c.url = some c := by
  induction cs with
  | nil => cases hc
  | cons d cs ih =>
    rw [List.map_cons, List.nodup_cons] at hn
    rcases List.mem_cons.1 hc with rfl | hc
    · exact List.find?_cons_of_pos (by simp)
    · have hne : d.url ≠ c.url := fun h => hn.1 (h ▸ List.mem_map_of_mem hc)
      rw [find?, List.find?_cons_of_neg (by simpa using hne)]
      exact ih hn.2 hc

end Connection

namespace Session

variable {s : Session}

/-- The base URLs of a session are those of its endpoints, which nothing that happens to the
session changes. -/
theorem urls_eq (s : Session) :
    s.urls = (s.connections.map Connection.endpoint).map Endpoint.baseUrl := by
  rw [List.map_map]
  rfl

/-- The buffer of the connection to a base URL; nothing if there is no such connection. -/
def bufferOf? (s : Session) (url : String) : Option (List Event) :=
  (s.connection? url).map Connection.buffer

/-- Takes in messages, one after the other. -/
def ingestAll (s : Session) (ms : Messages) : Session := ms.foldl (fun s m => s.ingest m.1 m.2) s

/-- Messages are taken in one part after the other. -/
theorem ingestAll_append (s : Session) (ms ns : Messages) :
    s.ingestAll (ms ++ ns) = (s.ingestAll ms).ingestAll ns := List.foldl_append

/-- **A snapshot shows the buffers as they are,** each under its base URL, and nothing under
any other. -/
theorem get?_snapshots (s : Session) (url : String) : s.snapshots.get? url = s.bufferOf? url := by
  unfold bufferOf? connection? snapshots
  induction s.connections with
  | nil => rfl
  | cons c cs ih =>
    rw [List.map_cons, Entries.get?_cons, Connection.find?, List.find?_cons]
    by_cases h : c.url = url
    · simp [h]
    · have hne : (c.url == url) = false := by simpa using h
      rw [if_neg h, hne, ih]
      rfl

/-- **A message goes to its own buffer,** and only if it decodes.  Every other buffer stays as
it is, and so do all of them if the base URL is unknown. -/
theorem bufferOf?_ingest (s : Session) (url other : String) (payload : Json) :
    (s.ingest url payload).bufferOf? other = (s.bufferOf? other).map fun b =>
      b ++ Messages.eventsFor other [(url, payload)] := by
  have hf : ∀ c : Connection, (if c.url = url then c.ingest payload else c).url = c.url := by
    intro c
    split <;> rfl
  unfold bufferOf? connection? ingest update Connection.update
  rw [Connection.find?_map hf, Option.map_map, Option.map_map]
  cases hc : Connection.find? s.connections other with
  | none => rfl
  | some c =>
    have hu : c.url = other := Connection.url_of_find? hc
    by_cases h : url = other
    · subst h
      cases hd : Event.decode? payload <;>
        simp [Messages.eventsFor, hu, hd, Connection.ingest]
    · have h' : other ≠ url := Ne.symm h
      simp [Messages.eventsFor, hu, h, h']

/-- **Messages go to their own buffers,** in the order they arrive in, whatever arrives for
other connections in between. -/
theorem bufferOf?_ingestAll (s : Session) (ms : Messages) (url : String) :
    (s.ingestAll ms).bufferOf? url = (s.bufferOf? url).map (· ++ ms.eventsFor url) := by
  induction ms generalizing s with
  | nil => simp [ingestAll, Messages.eventsFor]
  | cons m ms ih =>
    have hstep : s.ingestAll (m :: ms) = (s.ingest m.1 m.2).ingestAll ms := rfl
    have hcons : Messages.eventsFor url (m :: ms) =
        Messages.eventsFor url [m] ++ Messages.eventsFor url ms :=
      Messages.eventsFor_append url [m] ms
    rw [hstep, ih, bufferOf?_ingest, Option.map_map, hcons]
    cases s.bufferOf? url <;> simp

/-- Forgetting empties the buffers and keeps the connections, which can be filled again. -/
theorem bufferOf?_clear (s : Session) (url : String) :
    s.clear.bufferOf? url = (s.bufferOf? url).map fun _ => [] := by
  have hf : ∀ c : Connection, c.clear.url = c.url := fun _ => rfl
  unfold bufferOf? connection? clear
  rw [Connection.find?_map hf, Option.map_map, Option.map_map]
  rfl

/-- Connecting and disconnecting leave the buffers alone, whichever connections are at fault. -/
theorem bufferOf?_moveTo (s : Session) (state : ConnectionState) (faults : Entries String)
    (url : String) : (s.moveTo state faults).bufferOf? url = s.bufferOf? url := by
  have hf : ∀ c : Connection, (if faults.has c.url then c else { c with state }).url = c.url := by
    intro c
    split <;> rfl
  have hb : ∀ c : Connection,
      (if faults.has c.url then c else { c with state }).buffer = c.buffer := by
    intro c
    split <;> rfl
  unfold bufferOf? connection? moveTo
  rw [Connection.find?_map hf, Option.map_map]
  exact congrArg (fun f => Option.map f _) (funext hb)

/-- Disconnecting keeps the buffer of every connection. -/
theorem bufferOf?_disconnect (s : Session) (faults : Faults) (url : String) :
    (s.disconnect faults).1.bufferOf? url = s.bufferOf? url :=
  bufferOf?_moveTo s _ _ url

/-! ## All connections at once -/

/-- What one message does to every connection. -/
theorem ingest_eq (s : Session) (url : String) (payload : Json) :
    s.ingest url payload = { s with connections := s.connections.map fun c =>
      { c with buffer := c.buffer ++ Messages.eventsFor c.url [(url, payload)] } } := by
  refine congrArg (fun cs => { s with connections := cs }) (List.map_congr_left fun c _ => ?_)
  by_cases hu : c.url = url
  · cases hd : Event.decode? payload <;> simp [Messages.eventsFor, Connection.ingest, hu, hd]
  · simp [Messages.eventsFor, hu, Ne.symm hu]

/-- **What messages do to every connection:** its own events come to the end of its buffer,
and nothing else of the session changes. -/
theorem ingestAll_eq (s : Session) (ms : Messages) :
    s.ingestAll ms = { s with connections := s.connections.map fun c =>
      { c with buffer := c.buffer ++ ms.eventsFor c.url } } := by
  induction ms generalizing s with
  | nil => simp [ingestAll, Messages.eventsFor]
  | cons m ms ih =>
    have hstep : s.ingestAll (m :: ms) = (s.ingest m.1 m.2).ingestAll ms := rfl
    have hcons (url : String) : Messages.eventsFor url (m :: ms) =
        Messages.eventsFor url [m] ++ Messages.eventsFor url ms :=
      Messages.eventsFor_append url [m] ms
    rw [hstep, ih, ingest_eq, List.map_map]
    refine congrArg (fun cs => { s with connections := cs }) (List.map_congr_left fun c _ => ?_)
    simp only [Function.comp_apply, hcons, List.append_assoc]
    rfl

/-- Messages that add no event change nothing: not the buffers, and not the states either. -/
theorem ingestAll_of_nil {ms : Messages}
    (h : ∀ c ∈ s.connections, ms.eventsFor c.url = []) : s.ingestAll ms = s := by
  have hmap : (s.connections.map fun c => { c with buffer := c.buffer ++ ms.eventsFor c.url }) =
      s.connections :=
    (List.map_congr_left fun c hc => by rw [h c hc, List.append_nil]; rfl).trans
      (List.map_id s.connections)
  rw [ingestAll_eq, hmap]

end Session
end Recorder
