/-
# Well-formed sessions

`SPEC_FULL.md` §3 and §7: what holds of connections and sessions from their beginning on.

What a session made from checked endpoints has whatever is sent to it: base URLs that
differ, delays above zero, events as they are decoded, and a manifest that is not
empty unless it is the empty object.  Every operation of a session keeps all of this,
since it changes connections one by one and lets in nothing but what it has decoded.
-/

import Recorder.Proofs.Endpoint.RoundTrip
import Recorder.Proofs.Event.RoundTrip
import Recorder.Proofs.Session.Ingestion

namespace Recorder

/-- What holds of every connection from its beginning on: its endpoint has been checked, so
that it waits before it connects again, and what lies in its buffer has been decoded from
messages. -/
structure Connection.WellFormed (c : Connection) : Prop where
  delay : c.endpoint.reconnectDelay.isPositive
  events : ∀ e ∈ c.buffer, e.IsRead

namespace Connection

/-- **A message keeps a connection well-formed:** it adds an event that has just been decoded,
or nothing at all. -/
theorem WellFormed.ingest {c : Connection} (h : c.WellFormed) (payload : Json) :
    (c.ingest payload).WellFormed := by
  refine ⟨h.delay, fun e he => ?_⟩
  rcases List.mem_append.1 he with he | he
  · exact h.events e he
  · exact Event.isRead_of_decode (Option.mem_toList.1 he)

/-- Forgetting events keeps a connection well-formed: an empty buffer holds nothing that was
not read. -/
theorem WellFormed.clear {c : Connection} (h : c.WellFormed) : c.clear.WellFormed :=
  ⟨h.delay, fun _ he => absurd he List.not_mem_nil⟩

/-! ## Connections to endpoints -/

/-- One more endpoint.  If its base URL is there already, the connections stay as they are and
its settings are forgotten. -/
def addEndpoint (cs : List Connection) (e : Endpoint) : List Connection :=
  if cs.any (·.url == e.baseUrl) then cs else cs ++ [{ endpoint := e }]

/-- Endpoints become connections one after the other. -/
theorem ofEndpoints_eq (es : List Endpoint) : ofEndpoints es = es.foldl addEndpoint [] := rfl

/-- An endpoint whose base URL is new gets a connection of its own, behind the others. -/
theorem addEndpoint_of_notMem {cs : List Connection} {e : Endpoint} (h : e.baseUrl ∉ cs.map url) :
    addEndpoint cs e = cs ++ [{ endpoint := e }] := by
  rw [addEndpoint, if_neg]
  simpa using h

/-- Endpoints whose base URLs differ get one connection each, in order.  The endpoints of a
session are such a list, so a session that was saved gets its connections again. -/
theorem ofEndpoints_of_nodup {es : List Endpoint} (h : (es.map Endpoint.baseUrl).Nodup) :
    ofEndpoints es = es.map fun e => { endpoint := e } := by
  rw [ofEndpoints_eq]
  suffices hloop : ∀ cs : List Connection, (cs.map url ++ es.map Endpoint.baseUrl).Nodup →
      es.foldl addEndpoint cs = cs ++ es.map fun e => { endpoint := e } from hloop [] h
  intro cs hcs
  clear h
  induction es generalizing cs with
  | nil => simp
  | cons e es ih =>
    have hnew : e.baseUrl ∉ cs.map url := fun hmem =>
      (List.nodup_append.1 hcs).2.2 _ hmem _ List.mem_cons_self rfl
    have happ : (List.map url (cs ++ [{ endpoint := e }]) ++ es.map Endpoint.baseUrl).Nodup := by
      simpa [url] using hcs
    rw [List.foldl_cons, addEndpoint_of_notMem hnew, ih _ happ]
    simp

/-- Connections whose base URLs differ, to endpoints of a list, with nothing recorded.  It is
the invariant of opening connections one after the other. -/
structure AreFresh (es : List Endpoint) (cs : List Connection) : Prop where
  nodup : (cs.map url).Nodup
  endpoint : ∀ c ∈ cs, c.endpoint ∈ es
  buffer : ∀ c ∈ cs, c.buffer = []

/-- One more endpoint adds a fresh connection, or none if its base URL is there. -/
theorem AreFresh.addEndpoint {es : List Endpoint} {cs : List Connection} (h : AreFresh es cs)
    {e : Endpoint} (he : e ∈ es) : AreFresh es (addEndpoint cs e) := by
  by_cases hmem : e.baseUrl ∈ cs.map url
  · have hany : cs.any (·.url == e.baseUrl) := by simpa using hmem
    rw [Connection.addEndpoint, if_pos hany]
    exact h
  · rw [addEndpoint_of_notMem hmem]
    refine ⟨?_, ?_, ?_⟩
    · rw [List.map_append, List.nodup_append]
      refine ⟨h.nodup, by simp, fun u hu v hv => ?_⟩
      obtain rfl : v = e.baseUrl := by simpa [url] using hv
      rintro rfl
      exact hmem hu
    · simpa [or_imp, forall_and] using ⟨h.endpoint, he⟩
    · simpa [or_imp, forall_and] using h.buffer

/-- **The connections to endpoints are fresh,** whichever base URLs are repeated: of endpoints
that share one, only the first is connected to. -/
theorem areFresh_ofEndpoints (es : List Endpoint) : AreFresh es (ofEndpoints es) := by
  have hnil : AreFresh es [] := ⟨List.nodup_nil, by simp, by simp⟩
  rw [ofEndpoints_eq]
  suffices hloop : ∀ (fs : List Endpoint) (cs : List Connection), fs ⊆ es → AreFresh es cs →
      AreFresh es (fs.foldl Connection.addEndpoint cs) from hloop es [] (fun _ h => h) hnil
  intro fs
  induction fs with
  | nil => exact fun _ _ h => h
  | cons f fs ih =>
    intro cs hfs hcs
    exact ih _ (fun e he => hfs (List.mem_cons_of_mem _ he))
      (hcs.addEndpoint (hfs List.mem_cons_self))

end Connection

namespace Session

variable {s : Session}

/-- **What every operation of a session keeps:** base URLs that differ, connections that are
well-formed, and a manifest that is not empty unless it is the empty object. -/
structure WellFormed (s : Session) : Prop where
  nodup : s.urls.Nodup
  connection : ∀ c ∈ s.connections, c.WellFormed
  manifest : s.manifest.isTruthy ∨ s.manifest = .obj []

/-- **A new session** for checked endpoints is well-formed: its buffers are empty, its delays
are above zero, and a second endpoint with the same base URL is ignored. -/
theorem wellFormed_ofEndpoints {es : List Endpoint} (h : ∀ e ∈ es, ∃ v, Endpoint.check v = .ok e)
    (manifest : Json) : (ofEndpoints es manifest).WellFormed := by
  have hf := Connection.areFresh_ofEndpoints es
  refine ⟨hf.nodup, fun c hc => ?_, ?_⟩
  · obtain ⟨v, hv⟩ := h _ (hf.endpoint c hc)
    refine ⟨Endpoint.isPositive_of_check hv, fun e he => ?_⟩
    rw [hf.buffer c hc] at he
    cases he
  · by_cases hm : manifest.isTruthy
    · left
      rw [ofEndpoints, if_pos hm]
      exact hm
    · right
      rw [ofEndpoints, if_neg hm]

namespace WellFormed

/-- Connections may be changed one by one, as long as each keeps its base URL and stays
well-formed.  The lemmas on single operations are instances of this one. -/
theorem map (hs : s.WellFormed) {f : Connection → Connection} (hu : ∀ c, (f c).url = c.url)
    (hf : ∀ c, c.WellFormed → (f c).WellFormed) :
    WellFormed { s with connections := s.connections.map f } := by
  refine ⟨?_, fun c hc => ?_, hs.manifest⟩
  · have hn := hs.nodup
    have hmap : Connection.url ∘ f = Connection.url := funext hu
    rw [urls] at hn ⊢
    rwa [List.map_map, hmap]
  · obtain ⟨d, hd, rfl⟩ := List.mem_map.1 hc
    exact hf d (hs.connection d hd)

/-- **A message keeps a session well-formed:** what it adds to a buffer has just been read,
and it changes neither base URLs nor delays. -/
theorem ingest (hs : s.WellFormed) (url : String) (payload : Json) :
    (s.ingest url payload).WellFormed := by
  refine hs.map (fun c => ?_) fun c hc => ?_
  · split <;> rfl
  · split
    · exact hc.ingest payload
    · exact hc

/-- **Whatever is sent, a session stays well-formed,** also if messages are malformed or name
a base URL that the session does not have. -/
theorem ingestAll (hs : s.WellFormed) (ms : Messages) : (s.ingestAll ms).WellFormed := by
  induction ms generalizing s with
  | nil => exact hs
  | cons m ms ih => exact ih (hs.ingest m.1 m.2)

theorem clear (hs : s.WellFormed) : s.clear.WellFormed :=
  hs.map (fun _ => rfl) fun _ hc => hc.clear

theorem moveTo (hs : s.WellFormed) (state : ConnectionState) (faults : Entries String) :
    (s.moveTo state faults).WellFormed := by
  refine hs.map (fun c => ?_) fun c hc => ?_
  · split <;> rfl
  · split
    · exact hc
    · exact ⟨hc.delay, hc.events⟩

end WellFormed

end Session
end Recorder
