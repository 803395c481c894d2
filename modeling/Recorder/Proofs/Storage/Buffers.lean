/-
# Saved buffers, loaded again

`SPEC_FULL.md` §0, `dump_buffers` and `load_buffers`, for the buffers of connections.

Saving the buffers of connections fails just if the driver parameters of one of them
are too deep; otherwise every connection has its entry, in order (`Buffers.dump_kept`).
Loading what was saved gives the connections back, with their events as the messages
that they are written as (`Buffers.load_document`).
-/

import Recorder.Connection.Basic
import Recorder.Proofs.Endpoint.RoundTrip
import Recorder.Storage.Buffers

namespace Recorder

/-- A key that occurs once has the value it occurs with. -/
theorem Entries.get?_of_mem {α : Type} {es : Entries α} (h : es.keys.Nodup) {key : String} {v : α}
    (hm : (key, v) ∈ es) : es.get? key = some v := by
  induction es with
  | nil => cases hm
  | cons p rest ih =>
    obtain ⟨k, w⟩ := p
    obtain ⟨hnew, hrest⟩ := List.nodup_cons.1 h
    rw [Entries.get?_cons]
    rcases List.mem_cons.1 hm with heq | hm
    · obtain ⟨rfl, rfl⟩ := Prod.mk.inj heq
      exact if_pos rfl
    · have hne : k ≠ key := by
        rintro rfl
        exact hnew (List.mem_map.2 ⟨_, hm, rfl⟩)
      rw [if_neg hne]
      exact ih hrest hm

namespace Connection

/-- The settings of connections, by base URL. -/
def endpoints (cs : List Connection) : Entries Endpoint := cs.map fun c => (c.url, c.endpoint)

/-- The buffers of connections, by base URL. -/
def buffers (cs : List Connection) : Snapshots := cs.map fun c => (c.url, c.buffer)

/-- Whether the settings of a connection can be saved. -/
def isShallow (c : Connection) : Bool := c.endpoint.driverParameters.isShallow

/-- The saved form of a connection. -/
def entry (c : Connection) : Json :=
  .obj [("options", c.endpoint.toJson), ("events", .arr (c.buffer.map Event.encode))]

/-- What is left of a connection once it has been saved. -/
def saved (c : Connection) : SavedConnection := ⟨c.endpoint.finite, c.buffer.map Event.encode⟩

/-- A connection finds its own endpoint under its base URL, because no other has that base
URL. -/
theorem get?_endpoints {cs : List Connection} (h : (cs.map url).Nodup) {c : Connection}
    (hc : c ∈ cs) : (endpoints cs).get? c.url = some c.endpoint := by
  refine Entries.get?_of_mem ?_ (List.mem_map.2 ⟨c, hc, rfl⟩)
  rwa [Entries.keys, endpoints, List.map_map]

end Connection

namespace Buffers

/-- **The entry of a connection** can be saved just if its settings can; its events hold no
value that could be too deep. -/
theorem dumpEntry_eq (c : Connection) : dumpEntry c.endpoint c.buffer =
    if c.isShallow then .ok c.entry else .error {} := by
  rw [dumpEntry, Endpoint.save, Connection.isShallow]
  split <;> rfl

/-- The entries of buffers can be saved just if each buffer has an endpoint, and one whose
driver parameters are not too deep. -/
theorem exists_dumpEntries_iff (endpoints : Entries Endpoint) (buffers : Snapshots) :
    (∃ entries, dumpEntries endpoints buffers = .ok entries) ↔
      ∀ p ∈ buffers, ∃ e, endpoints.get? p.1 = some e ∧ e.driverParameters.isShallow = true := by
  induction buffers with
  | nil => exact iff_of_true ⟨[], rfl⟩ (List.forall_mem_nil _)
  | cons p rest ih =>
    rw [List.forall_mem_cons, ← ih, dumpEntries]
    cases endpoints.get? p.1 with
    | none => simp
    | some e =>
      simp only [Option.some.injEq, exists_eq_left']
      have hentry : dumpEntry e p.2 = if e.driverParameters.isShallow = true then
          .ok ({ endpoint := e, buffer := p.2 } : Connection).entry else .error {} :=
        dumpEntry_eq { endpoint := e, buffer := p.2 }
      rw [hentry]
      split
      · rw [Outcome.mapError_ok, Outcome.ok_bind]
        constructor
        · rintro ⟨entries, h⟩
          obtain ⟨later, hlater, -⟩ := Outcome.bind_eq_ok.1 h
          exact ⟨‹_›, later, hlater⟩
        · rintro ⟨-, later, hlater⟩
          exact ⟨_, by rw [hlater]; rfl⟩
      · exact iff_of_false (fun ⟨_, h⟩ => by cases h) (fun h => absurd h.1 ‹_›)

/-- **When buffers can be saved at all:** each of them needs an endpoint whose driver
parameters are not too deep.  Nothing is saved of any buffer if one of them has none. -/
theorem exists_dump_iff (savedAt : String) (endpoints : Entries Endpoint) (buffers : Snapshots) :
    (∃ document, dump savedAt buffers endpoints = .ok document) ↔
      ∀ p ∈ buffers, ∃ e, endpoints.get? p.1 = some e ∧ e.driverParameters.isShallow = true := by
  rw [← exists_dumpEntries_iff, dump]
  constructor
  · rintro ⟨document, h⟩
    obtain ⟨entries, hentries, -⟩ := Outcome.map_eq_ok.1 h
    exact ⟨entries, hentries⟩
  · rintro ⟨entries, hentries⟩
    exact ⟨_, Outcome.map_eq_ok.2 ⟨entries, hentries, rfl⟩⟩

/-- Connections are saved one after the other, if their settings can be, each under the key
it is kept by. -/
theorem dumpEntries_eq {endpoints : Entries Endpoint} {kept : Entries Connection}
    (h : ∀ p ∈ kept, endpoints.get? p.1 = some p.2.endpoint) :
    dumpEntries endpoints (kept.map fun p => (p.1, p.2.buffer)) =
      if kept.all (·.2.isShallow) then .ok (kept.map fun p => (p.1, p.2.entry))
      else .error (.tooDeep {}) := by
  induction kept with
  | nil => rfl
  | cons p kept ih =>
    have hp := h p List.mem_cons_self
    have hkept := ih fun q hq => h q (List.mem_cons_of_mem _ hq)
    have hstep : dumpEntries endpoints ((p :: kept).map fun p => (p.1, p.2.buffer)) =
        ((dumpEntry p.2.endpoint p.2.buffer).mapError .tooDeep >>= fun entry =>
          dumpEntries endpoints (kept.map fun p => (p.1, p.2.buffer)) >>= fun entries =>
            .ok ((p.1, entry) :: entries)) := by
      rw [List.map_cons, dumpEntries, hp]
    rw [hstep, dumpEntry_eq, hkept]
    by_cases hs : p.2.isShallow <;> by_cases hall : kept.all (·.2.isShallow) <;>
      simp [hs, hall, bind, Except.bind]

/-- **When buffers can be saved** under the keys that their connections are kept by: there are
options for each of them, so the one error that is left is that of the depth. -/
theorem dump_kept (savedAt : String) {endpoints : Entries Endpoint} {kept : Entries Connection}
    (h : ∀ p ∈ kept, endpoints.get? p.1 = some p.2.endpoint) :
    dump savedAt (kept.map fun p => (p.1, p.2.buffer)) endpoints =
      if kept.all (·.2.isShallow) then .ok (.obj [("savedAt", .str savedAt),
        ("connections", .obj (kept.map fun p => (p.1, p.2.entry)))]) else .error (.tooDeep {}) := by
  rw [dump, dumpEntries_eq h]
  split <;> rfl

/-- The document of saved connections. -/
def document (savedAt : String) (cs : List Connection) : Json :=
  .obj [("savedAt", .str savedAt), ("connections", .obj (cs.map fun c => (c.url, c.entry)))]

/-- **When connections can be saved,** and what is saved then: the time of saving, and an
entry for each connection under its base URL, in their order. -/
theorem dump_eq (savedAt : String) {cs : List Connection} (h : (cs.map Connection.url).Nodup) :
    dump savedAt (Connection.buffers cs) (Connection.endpoints cs) =
      if cs.all Connection.isShallow then .ok (document savedAt cs)
      else .error (.tooDeep {}) := by
  have hget : ∀ p ∈ cs.map fun c => (c.url, c),
      (Connection.endpoints cs).get? p.1 = some p.2.endpoint :=
    List.forall_mem_map.2 fun c hc => Connection.get?_endpoints h hc
  have hdump := dump_kept savedAt hget
  rw [List.map_map, List.map_map, List.all_map] at hdump
  exact hdump

/-- The names of an object are text. -/
theorem textFields_fields (fs : Fields) :
    textFields (fs.map fun p => (.str p.1, p.2)) = fs := by
  rw [textFields, List.filterMap_map]
  exact List.filterMap_some

/-- The settings of an entry name their base URL, so the key is not needed. -/
theorem optionsOf_entry (url : String) (e : Endpoint) {fs : Fields}
    (h : fs.get? "options" = some e.toJson) : optionsOf url fs = .ok e.toFields := by
  have ht : e.toJson.isTruthy := rfl
  have hj : Table.ofJson e.toJson = .ok (e.toFields.map fun p => (.str p.1, p.2)) := rfl
  have hu : Entries.has e.toFields "baseUrl" := rfl
  simp [optionsOf, h, ht, hj, textFields_fields, hu, bind, Except.bind]

/-- **An entry is loaded again,** whichever key it has, because its settings name their base
URL themselves. -/
theorem loadEntry_entry (url : String) {c : Connection}
    (h : c.endpoint.reconnectDelay.isPositive) : loadEntry url c.entry = .ok c.saved := by
  have ho : optionsOf url [("options", c.endpoint.toJson),
      ("events", .arr (c.buffer.map Event.encode))] = .ok c.endpoint.toFields :=
    optionsOf_entry url c.endpoint rfl
  have hc := Endpoint.check_toJson h
  have he : eventsOf [("options", c.endpoint.toJson),
      ("events", .arr (c.buffer.map Event.encode))] = .ok (c.buffer.map Event.encode) := by
    cases c.buffer <;> rfl
  rw [Endpoint.toJson_eq] at hc
  simp [Connection.entry, loadEntry, ho, hc, he, bind, Except.bind, Connection.saved]

/-- Entries are loaded one after the other. -/
theorem loadEntries_entries {kept : Entries Connection}
    (h : ∀ p ∈ kept, p.2.endpoint.reconnectDelay.isPositive) :
    loadEntries (kept.map fun p => (p.1, p.2.entry)) = .ok (kept.map (·.2.saved)) := by
  induction kept with
  | nil => rfl
  | cons p kept ih =>
    have hp := loadEntry_entry p.1 (h p List.mem_cons_self)
    have hkept := ih fun q hq => h q (List.mem_cons_of_mem _ hq)
    rw [List.map_cons, loadEntries, hp, hkept]
    rfl

/-- The entries of a document are what is loaded of it. -/
theorem load_connections (savedAt : String) (entries : Fields) :
    load (.obj [("savedAt", .str savedAt), ("connections", .obj entries)]) =
      loadEntries entries := rfl

/-- **Saved connections are loaded again,** in order, with the settings that they had but for
numbers that are not finite, and with their events as they were written. -/
theorem load_document (savedAt : String) {cs : List Connection}
    (h : ∀ c ∈ cs, c.endpoint.reconnectDelay.isPositive) :
    load (document savedAt cs) = .ok (cs.map Connection.saved) := by
  have hentries := loadEntries_entries (List.forall_mem_map.2 fun c hc => h c hc :
    ∀ p ∈ cs.map fun c => (c.url, c), p.2.endpoint.reconnectDelay.isPositive)
  rw [List.map_map, List.map_map] at hentries
  exact (load_connections savedAt _).trans hentries

end Buffers
end Recorder
