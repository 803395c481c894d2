/-
# The order of arrival does not show in a document

`SPEC_FULL.md` §4, `merge` and `earliest_source`, under `compile` (§7).

Two sessions may have the same endpoints in another order, and the same events in buffers
that were filled in another order.  If no two events of a session share a timestamp, both
compile to the same result, up to the buffers that it reports
(`Session.compile_order_independent`): the timeline is sorted by timestamps that differ, and
everything else is looked up by base URLs that differ.
-/

import Mathlib.Data.List.Perm.Basic
import Recorder.Proofs.Session.Duration
import Recorder.Proofs.Session.Visible
import Recorder.Proofs.Timeline.Order

namespace Recorder
namespace Session

variable {s s' : Session}

/-- **The options of a base URL** are those of the connection that has it, whichever place it
has among the others. -/
theorem map_endpoint_connection?_eq_some_iff (hn : s.urls.Nodup) {url : String} {e : Endpoint} :
    (s.connection? url).map Connection.endpoint = some e ↔
      e ∈ s.connections.map Connection.endpoint ∧ e.baseUrl = url := by
  constructor
  · intro h
    obtain ⟨c, hc, rfl⟩ := Option.map_eq_some_iff.1 h
    exact ⟨List.mem_map_of_mem (List.mem_of_find?_eq_some hc), Connection.url_of_find? hc⟩
  · rintro ⟨he, rfl⟩
    obtain ⟨c, hc, rfl⟩ := List.mem_map.1 he
    exact congrArg (Option.map Connection.endpoint) (Connection.find?_of_mem hn hc)

/-- The buffer of a connection is found under its base URL. -/
theorem bufferOf?_of_mem (hn : s.urls.Nodup) {c : Connection} (hc : c ∈ s.connections) :
    s.bufferOf? c.url = some c.buffer :=
  congrArg (Option.map Connection.buffer) (Connection.find?_of_mem hn hc)

/-- The events of a snapshot, one base URL after the other. -/
theorem tagged_snapshots (hn : s.urls.Nodup) :
    s.snapshots.tagged = s.urls.flatMap fun url => ((s.bufferOf? url).getD []).map (url, ·) := by
  rw [Snapshots.tagged, snapshots, urls, List.flatMap_map, List.flatMap_map]
  refine List.flatMap_congr fun c hc => ?_
  rw [bufferOf?_of_mem hn hc]
  rfl

/-- **The same session up to order:** the same options and, for each of them, the same
events, in whichever order the connections stand and the events have arrived. -/
structure SameUpToOrder (s s' : Session) : Prop where
  manifest : s.manifest = s'.manifest
  keyNames : s.keyNames = s'.keyNames
  ignored : s.ignored = s'.ignored
  nodup : s.urls.Nodup
  endpoints : (s.connections.map Connection.endpoint).Perm (s'.connections.map Connection.endpoint)
  buffers : ∀ c ∈ s.connections, ∀ c' ∈ s'.connections, c.url = c'.url →
    c.buffer.Perm c'.buffer

namespace SameUpToOrder

variable (h : s.SameUpToOrder s')

include h

/-- The two sessions have the same base URLs, in some order. -/
theorem perm_urls : s.urls.Perm s'.urls := by
  rw [urls_eq, urls_eq]
  exact h.endpoints.map Endpoint.baseUrl

theorem nodup_urls : s'.urls.Nodup := h.perm_urls.nodup_iff.1 h.nodup

/-- Every look-up finds the same options. -/
theorem agreesWith : s.AgreesWith s' := by
  refine ⟨h.keyNames, h.manifest, fun url => Option.ext fun e => ?_⟩
  rw [map_endpoint_connection?_eq_some_iff h.nodup,
    map_endpoint_connection?_eq_some_iff h.nodup_urls, h.endpoints.mem_iff]

/-- The snapshots hold the same events of the same endpoints. -/
theorem perm_tagged : s.snapshots.tagged.Perm s'.snapshots.tagged := by
  rw [tagged_snapshots h.nodup, tagged_snapshots h.nodup_urls]
  refine h.perm_urls.flatMap fun url hurl => ?_
  obtain ⟨c, hc, rfl⟩ := List.mem_map.1 hurl
  obtain ⟨c', hc', heq⟩ := List.mem_map.1 (h.perm_urls.mem_iff.1 hurl)
  have hbuffer := bufferOf?_of_mem h.nodup_urls hc'
  rw [heq] at hbuffer
  rw [bufferOf?_of_mem h.nodup hc, hbuffer]
  exact (h.buffers c hc c' hc' heq.symm).map _

end SameUpToOrder

/-- **The order of arrival does not show.**  Sessions that are the same up to order compile
to the same result, whether that is a document, nothing to compile or an error, if their
patterns can be read and no two events share a timestamp.  Only the buffers that a result
reports are in the order of its own session. -/
theorem compile_order_independent (h : s.SameUpToOrder s') (hr : Surface.Readable s.ignored)
    (hd : (s.snapshots.events.map Event.timestamp).Nodup) :
    s'.compile = s.compile.map (Recording.withBuffers s'.snapshots) := by
  have htimes : (s.snapshots.tagged.map Snapshots.time).Nodup := by
    rw [← Snapshots.map_snd_tagged, List.map_map] at hd
    exact hd
  have hurls : (s.snapshots.map Prod.fst).Perm (s'.snapshots.map Prod.fst) := by
    rw [snapshots, snapshots, List.map_map, List.map_map]
    exact h.perm_urls
  have hempty : s.connections = [] ↔ s'.connections = [] := by
    rw [← List.length_eq_zero_iff, ← List.length_eq_zero_iff, ← List.length_map Connection.endpoint,
      h.endpoints.length_eq, List.length_map]
  have hmerge : s.snapshots.merge s.ignored = s'.snapshots.merge s'.ignored := by
    rw [← h.ignored]
    exact Snapshots.merge_eq_of_perm hr h.perm_tagged htimes
  exact h.agreesWith.compile_eq
    (Snapshots.earliestSource_eq_of_perm hurls h.perm_tagged htimes) hempty hmerge

/-- The clicks with think time, by endpoints in another order and in other buffers. -/
def reordered : Session where
  connections := [
    { endpoint := other, state := .connected, buffer := [clickOther 1700] },
    { endpoint := paced, buffer := [clickAt 1900, clickAt 1000, clickAt 1800, clickAt 1650] }]
  ignored := ["Taskbar"]

/-- The clicks with their connections the other way round are the same session up to order. -/
theorem sameUpToOrder_reordered : pacedClicks.SameUpToOrder reordered where
  manifest := rfl
  keyNames := rfl
  ignored := rfl
  nodup := by
    have hurls : pacedClicks.urls = ["http://a", "http://b"] := rfl
    rw [hurls]
    decide
  endpoints := List.Perm.swap other paced []
  buffers := by
    have hne : paced.baseUrl ≠ other.baseUrl := by decide
    intro c hc c' hc' hurl
    rcases List.mem_pair.1 hc with rfl | rfl
    · rcases List.mem_pair.1 hc' with rfl | rfl
      · exact absurd hurl hne
      · decide
    · rcases List.mem_pair.1 hc' with rfl | rfl
      · exact List.Perm.refl _
      · exact absurd hurl.symm hne

/-- Both sessions have the same document. -/
theorem compile_order_independent_reordered : ∃ a gs bs bs',
    pacedClicks.compile = .ok (.document a gs bs) ∧
      reordered.compile = .ok (.document a gs bs') := by
  obtain ⟨a, gs, bs, h⟩ := exists_document_pacedClicks
  have hd : (pacedClicks.snapshots.events.map Event.timestamp).Nodup := by decide
  have hsame := compile_order_independent sameUpToOrder_reordered readable_pacedClicks hd
  rw [h] at hsame
  exact ⟨a, gs, bs, reordered.snapshots, h, hsame⟩

end Session
end Recorder
