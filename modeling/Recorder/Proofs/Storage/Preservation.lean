/-
# What saved buffers keep

`SPEC_FULL.md` §0, `load_buffers` of what `dump_buffers` has written.

Endpoints that were checked, with finite numbers in their driver parameters, are saved and
loaded again as they are: one entry for each base URL, in order, with the same settings and
with the events as the messages that they are written as (`Buffers.load_dump`).  There is
something to load just if no driver parameters are too deep; otherwise nothing is saved.
-/

import Mathlib.Data.List.Forall2
import Recorder.Proofs.Storage.Buffers

namespace Recorder

namespace Endpoint

/-- **An endpoint that was checked,** all numbers in its driver parameters being finite.
Saving and loading gives it back as it is. -/
structure IsPlain (e : Endpoint) : Prop where
  checked : ∃ v, check v = .ok e
  allFinite : Json.haveAllFinite e.driverParameters = true

variable {e : Endpoint}

/-- A plain endpoint has a delay that can be saved and loaded. -/
theorem IsPlain.isPositive (h : e.IsPlain) : e.reconnectDelay.isPositive :=
  h.checked.elim fun _ hv => isPositive_of_check hv

/-- Nothing of a plain endpoint is lost when it is saved. -/
theorem IsPlain.finite_eq (h : e.IsPlain) : e.finite = e := by
  rw [finite, Json.finiteFields_of_haveAllFinite h.allFinite]

/-- Of what an endpoint can be, checking refuses delays only; so an endpoint is plain just if
its delay is above zero and its driver parameters have finite numbers. -/
theorem isPlain_iff :
    e.IsPlain ↔ e.reconnectDelay.isPositive ∧ Json.haveAllFinite e.driverParameters = true := by
  refine ⟨fun h => ⟨h.isPositive, h.allFinite⟩, fun ⟨hdelay, hfinite⟩ => ⟨⟨e.toJson, ?_⟩, hfinite⟩⟩
  rw [check_toJson hdelay, finite, Json.finiteFields_of_haveAllFinite hfinite]

end Endpoint

namespace Buffers

variable {buffers : Snapshots} {endpoints : Entries Endpoint}

/-- Buffers with an endpoint each are those of connections, so that what is known of saving
connections can be used for any mapping of buffers. -/
theorem exists_kept {P : Endpoint → Prop}
    (h : ∀ p ∈ buffers, ∃ e, endpoints.get? p.1 = some e ∧ P e) :
    ∃ kept : Entries Connection, kept.map (fun p => (p.1, p.2.buffer)) = buffers ∧
      ∀ p ∈ kept, endpoints.get? p.1 = some p.2.endpoint ∧ P p.2.endpoint := by
  induction buffers with
  | nil => exact ⟨[], rfl, List.forall_mem_nil _⟩
  | cons p rest ih =>
    obtain ⟨⟨e, hget, he⟩, hrest⟩ := List.forall_mem_cons.1 h
    obtain ⟨kept, rfl, hkept⟩ := ih hrest
    exact ⟨(p.1, { endpoint := e, buffer := p.2 }) :: kept, rfl,
      List.forall_mem_cons.2 ⟨⟨hget, he⟩, hkept⟩⟩

/-- **Saved buffers keep settings and order.**  There is a saved document just if no driver
parameters are too deep for it.  Every such document is loaded, and gives one entry for each
buffer, in the order of the mapping, with the settings of its endpoint and with its events as
the messages that they are written as. -/
theorem load_dump (h : ∀ p ∈ buffers, ∃ e, endpoints.get? p.1 = some e ∧ e.IsPlain)
    (savedAt : String) :
    ((∃ document, dump savedAt buffers endpoints = .ok document) ↔
      ∀ p ∈ buffers, ∀ e, endpoints.get? p.1 = some e → e.driverParameters.isShallow = true) ∧
    ∀ document, dump savedAt buffers endpoints = .ok document →
      ∃ saved, load document = .ok saved ∧
        List.Forall₂ (fun p c => endpoints.get? p.1 = some c.endpoint ∧
          c.events = p.2.map Event.encode) buffers saved := by
  -- Buffers and options are put together to connections, which saving and loading are known for.
  obtain ⟨kept, rfl, hkept⟩ := exists_kept h
  have hdump := dump_kept savedAt fun p hp => (hkept p hp).1
  have hshallow : kept.all (·.2.isShallow) = true ↔ ∀ p ∈ kept.map fun p => (p.1, p.2.buffer),
      ∀ e, endpoints.get? p.1 = some e → e.driverParameters.isShallow = true := by
    rw [List.all_eq_true, List.forall_mem_map]
    refine forall₂_congr fun p hp => ?_
    simp [(hkept p hp).1, Connection.isShallow]
  rw [← hshallow]
  by_cases hall : kept.all (·.2.isShallow) = true
  · rw [hdump, if_pos hall]
    refine ⟨iff_of_true ⟨_, rfl⟩ hall, ?_⟩
    rintro _ ⟨⟩
    have hload := (load_connections savedAt (kept.map fun p => (p.1, p.2.entry))).trans
      (loadEntries_entries fun p hp => (hkept p hp).2.isPositive)
    refine ⟨_, hload, ?_⟩
    rw [List.forall₂_map_left_iff, List.forall₂_map_right_iff, List.forall₂_same]
    intro p hp
    refine ⟨?_, rfl⟩
    rw [Connection.saved, (hkept p hp).2.finite_eq]
    exact (hkept p hp).1
  · rw [hdump, if_neg hall]
    refine ⟨iff_of_false ?_ hall, fun _ h => by cases h⟩
    rintro ⟨_, h⟩
    cases h

/-- An endpoint with settings of its own, none of them the standard one. -/
def tuned : Endpoint where
  baseUrl := "http://b"
  mode := .coordinate
  driverParameters := [("driver", .str "UiaDriver"),
    ("options", .obj [("arguments", .arr [.null, .float .one])])]
  thinkTime := { enabled := true, least := 500, most := 2000 }
  hubPath := "/hub"
  eventTarget := "Event"
  reconnectDelay := .one

theorem isPlain_tuned : tuned.IsPlain :=
  Endpoint.isPlain_iff.2 ⟨by decide +kernel, by decide +kernel⟩

/-- Two buffers, not in the order of their endpoints. -/
def twoBuffers : Snapshots := [
    ("http://b", [{
      timestamp := 1, machine := "A", text := "left up", phase := some .up
      chain := { locator := "//Edit", path := [{ name := some "Edit" }] }
      gesture := .pointer .left (some .one) none }]),
    ("http://a", [])]

def twoEndpoints : Entries Endpoint := [("http://a", .ofUrl "http://a"), ("http://b", tuned)]

theorem load_dump_twoBuffers :
    (∀ p ∈ twoBuffers, ∃ e, twoEndpoints.get? p.1 = some e ∧ e.IsPlain) ∧
    ∃ document saved, dump "now" twoBuffers twoEndpoints = .ok document ∧
      load document = .ok saved ∧
      List.Forall₂ (fun p c => twoEndpoints.get? p.1 = some c.endpoint ∧
        c.events = p.2.map Event.encode) twoBuffers saved := by
  have hplain : (Endpoint.ofUrl "http://a").IsPlain :=
    Endpoint.isPlain_iff.2 ⟨Endpoint.isPositive_ofUrl "http://a", rfl⟩
  have h : ∀ p ∈ twoBuffers, ∃ e, twoEndpoints.get? p.1 = some e ∧ e.IsPlain := by
    intro p hp
    rcases List.mem_cons.1 hp with rfl | hp
    · exact ⟨tuned, rfl, isPlain_tuned⟩
    · obtain rfl := List.mem_singleton.1 hp
      exact ⟨.ofUrl "http://a", rfl, hplain⟩
  obtain ⟨-, hload⟩ := load_dump h "now"
  have hdump : dump "now" twoBuffers twoEndpoints = .ok _ := rfl
  obtain ⟨saved, hsaved, hkept⟩ := hload _ hdump
  exact ⟨h, _, saved, hdump, hsaved, hkept⟩

/-- Null in so many brackets: a value that is as deep as one likes. -/
def nested : Nat → Json
  | 0 => .null
  | n + 1 => .arr [nested n]

/-- Each pair of brackets makes a value deeper by one. -/
theorem depth_nested (n : Nat) : (nested n).depth = n + 1 := by
  induction n with
  | zero => rfl
  | succ n ih => simp [nested, Json.depth, Json.depthOfItems, ih]

theorem isAllFinite_nested (n : Nat) : (nested n).isAllFinite = true := by
  induction n with
  | zero => rfl
  | succ n ih => simp [nested, Json.isAllFinite, Json.areAllFinite, ih]

/-- An endpoint with driver parameters that are too deep. -/
def deep : Endpoint := { Endpoint.ofUrl "http://a" with driverParameters := [("a", nested 255)] }

/-- The driver parameters are deeper than what can be saved. -/
theorem isShallow_deep : deep.driverParameters.isShallow = false := by
  simp [deep, Fields.isShallow, Json.depthOfFields, depth_nested, Json.maxOwnDepth]

/-- Yet the endpoint is plain: depth is no part of that. -/
theorem isPlain_deep : deep.IsPlain := by
  have hfinite : Json.haveAllFinite deep.driverParameters = true := by
    simp [deep, Json.haveAllFinite, isAllFinite_nested]
  exact Endpoint.isPlain_iff.2 ⟨by decide +kernel, hfinite⟩

/-- **Nothing is saved** of an endpoint that was checked, if its driver parameters are too
deep.  They may be as deep as a reader takes them, which is more than is written. -/
theorem exists_not_dump :
    ∃ (buffers : Snapshots) (endpoints : Entries Endpoint),
      (∀ p ∈ buffers, ∃ e, endpoints.get? p.1 = some e ∧ e.IsPlain) ∧
        ∀ savedAt, dump savedAt buffers endpoints = .error (.tooDeep {}) := by
  refine ⟨[("http://a", [])], [("http://a", deep)], ?_, fun savedAt => ?_⟩
  · exact List.forall_mem_singleton.2 ⟨deep, rfl, isPlain_deep⟩
  · have hentries : dumpEntries [("http://a", deep)] [("http://a", [])] =
        .error (.tooDeep {}) := by
      simp [dumpEntries, Entries.get?, dumpEntry, Endpoint.save, isShallow_deep, Except.map,
        Except.mapError, bind, Except.bind]
    rw [dump, hentries]
    rfl

end Buffers
end Recorder
