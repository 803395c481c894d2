/-
# What a compile pass sees of a session

`SPEC_FULL.md` §7, `compile`, which takes no more from a session than its snapshots, its
options, its manifest and its compiler.

A pass looks settings up by base URL, merges the buffers and asks which of them holds the
earliest event.  So two sessions that agree in all of this compile to the same result, up
to the buffers that a result reports (`Session.AgreesWith.compile_eq`).  A session whose
connections have changed in any way that is not seen, such as by disconnecting, compiles
to the same result as before (`Session.compile_map`), and a call of `stop` gives the same
result there.

The lemmas take the pass stage by stage: a group becomes the same job in both sessions, so
groups in a row do, so the same document is assembled on the same base.
-/

import Recorder.Proofs.Session.Stopping

namespace Recorder

/-- A result that reports other buffers. -/
def Recording.withBuffers (buffers : Snapshots) : Recording → Recording
  | .empty reason _ => .empty reason buffers
  | .document a gs _ => .document a gs buffers

/-- Putting the buffers back that a recording has changes nothing. -/
theorem Recording.withBuffers_buffers (r : Recording) : r.withBuffers r.buffers = r := by
  cases r <;> rfl

namespace Session

/-! ## Sessions that agree -/

/-- **The settings of two sessions agree:** every base URL has the same options in both, and
the manifest and the names of keys are the same. -/
structure AgreesWith (s s' : Session) : Prop where
  keyNames : s.keyNames = s'.keyNames
  manifest : s.manifest = s'.manifest
  options : ∀ url, (s.connection? url).map Connection.endpoint =
    (s'.connection? url).map Connection.endpoint

namespace AgreesWith

variable {s s' : Session} (h : s.AgreesWith s')

include h

/-- A setting of the connection to a base URL is the same. -/
theorem setting {α : Type} (url : String) (f : Endpoint → α) :
    (s.connection? url).map (f ·.endpoint) = (s'.connection? url).map (f ·.endpoint) := by
  have hmap := congrArg (Option.map f) (h.options url)
  rw [Option.map_map, Option.map_map] at hmap
  exact hmap

/-- Groups get the same think-time settings in both sessions. -/
theorem settled_eq : s.settled = s'.settled := funext fun g => by
  rw [settled, settled, sourceOf, sourceOf, h.setting _ Endpoint.thinkTime]

/-- A group becomes the same job in both, or fails in the same way. -/
theorem jobOf_eq (isFirst : Bool) (g : Group) : s.jobOf isFirst g = s'.jobOf isFirst g := by
  rw [jobOf, jobOf, h.settled_eq, h.keyNames, modeOf, modeOf, sourceOf, sourceOf,
    h.setting _ Endpoint.mode, h.setting _ Endpoint.driverParameters]

theorem jobsOf_eq (isFirst : Bool) (gs : List Group) :
    s.jobsOf isFirst gs = s'.jobsOf isFirst gs := by
  induction gs generalizing isFirst with
  | nil => rfl
  | cons g gs ih => rw [jobsOf, jobsOf, h.jobOf_eq, ih]

variable (hearliest : s.snapshots.earliestSource = s'.snapshots.earliestSource)

include hearliest

/-- The values of the document that do not come from the recording agree, since both sessions
look at one manifest and find the earliest event at the same endpoint. -/
theorem documentBase_eq : s.documentBase = s'.documentBase := by
  have hparameters : s.primaryParameters = s'.primaryParameters := by
    rw [primaryParameters, primaryParameters, hearliest]
    cases s'.snapshots.earliestSource with
    | none => rfl
    | some url =>
      rw [Option.bind_some, Option.bind_some, h.setting url Endpoint.driverParameters]
  rw [documentBase, documentBase, hparameters, h.manifest]

/-- **The same groups make the same document** in both sessions, or fail in the same way, if
the earliest event is the same endpoint's. -/
theorem assembleGroups_eq (gs : List Group) : s.assembleGroups gs = s'.assembleGroups gs := by
  rw [assembleGroups, assembleGroups, h.documentBase_eq hearliest, h.jobsOf_eq]

/-- **Sessions that agree compile to the same result,** if they merge to the same timeline
and the earliest event is the same endpoint's.  Each result reports its own buffers. -/
theorem compile_eq (hempty : s.connections = [] ↔ s'.connections = [])
    (hmerge : s.snapshots.merge s.ignored = s'.snapshots.merge s'.ignored) :
    s'.compile = s.compile.map (Recording.withBuffers s'.snapshots) := by
  have hgroups : s'.currentGroups = s.currentGroups := by rw [currentGroups, currentGroups, hmerge]
  by_cases hnil : s.connections = []
  · have hnil' := hempty.1 hnil
    have hsnapshots : s'.snapshots = [] := by rw [snapshots, hnil', List.map_nil]
    rw [compile, compile, hnil, hnil', hsnapshots]
    rfl
  · have hsome : ¬ s.connections.isEmpty = true := fun he => hnil (List.isEmpty_iff.1 he)
    have hsome' : ¬ s'.connections.isEmpty = true := fun he =>
      hnil (hempty.2 (List.isEmpty_iff.1 he))
    rw [compile, compile, if_neg hsome, if_neg hsome', hgroups, h.settled_eq]
    cases s.currentGroups with
    | error e => rfl
    | ok gs =>
      rw [Outcome.mapError_ok, Outcome.ok_bind, Outcome.ok_bind,
        ← h.assembleGroups_eq hearliest gs]
      cases gs.isEmpty with
      | true => rfl
      | false => cases s.assembleGroups gs <;> rfl

end AgreesWith

/-! ## Changes that are not seen -/

/-- **A pass sees endpoints and buffers** and nothing else of the connections, so whatever
keeps these can happen to the connections without a trace in the result. -/
theorem compile_map {f : Connection → Connection} (he : ∀ c, (f c).endpoint = c.endpoint)
    (hb : ∀ c, (f c).buffer = c.buffer) (s : Session) :
    compile { s with connections := s.connections.map f } = s.compile := by
  have hurl (c : Connection) : (f c).url = c.url := congrArg Endpoint.baseUrl (he c)
  have hagrees : s.AgreesWith { s with connections := s.connections.map f } := by
    refine ⟨rfl, rfl, fun url => ?_⟩
    rw [connection?, connection?, Connection.find?_map hurl, Option.map_map]
    exact congrArg (fun g => Option.map g _) (funext fun c => (he c).symm)
  have hsnapshots : snapshots { s with connections := s.connections.map f } = s.snapshots := by
    rw [snapshots, snapshots, List.map_map]
    exact List.map_congr_left fun c _ => by rw [Function.comp_apply, hb, hurl]
  rw [hagrees.compile_eq (by rw [hsnapshots]) List.map_eq_nil_iff.symm (by rw [hsnapshots]),
    hsnapshots]
  cases hc : s.compile with
  | error e => rfl
  | ok r =>
    rw [← buffers_compile hc]
    exact congrArg Except.ok r.withBuffers_buffers

/-- **Connecting and disconnecting** is not seen by a pass, nor that one of the connections
could not be disconnected. -/
theorem compile_moveTo (s : Session) (state : ConnectionState) (faults : Entries String) :
    (s.moveTo state faults).compile = s.compile := by
  refine compile_map (fun c => ?_) (fun c => ?_) s <;> split <;> rfl

/-- **A call after the connections have left** gives what it would have given before, so a
recording can be stopped again after a failure. -/
theorem callResult_disconnect (s : Session) (faults : Faults) (viewer : Viewer) :
    (s.disconnect faults).1.callResult viewer = s.callResult viewer := by
  have hc : (s.disconnect faults).1.compile = s.compile := compile_moveTo s _ _
  rw [callResult, callResult, hc]

end Session
end Recorder
