/-
# Recompiling a saved recording

`SPEC_FULL.md` §12, `compile`: a saved recording is read, replayed into connections, and
compiled in a session of its own.

A session that has been saved and replayed differs from the one it was in two ways:
elements of which nothing is known have gone from the paths, and numbers that are not
finite from the driver parameters.  Neither can be seen in what a pass gives: rules
look at locators and not at paths, and a document hands over finite numbers only.  So
both passes find no events, or fail for one reason, or hand over one document
(`Session.recompile_saved`).

| | a live pass | saving |
| --- | --- | --- |
| copies driver parameters | of the primary connection and of all but the first job | of every connection |
| greatest depth | 490 to be compiled, 255 to be handed over | 255 |

So a live pass can hand over a document although nothing can be saved: the parameters that
are too deep may be those of a connection that has recorded nothing
(`Session.keyBesideDeep_not_saved`).
-/

import Recorder.Proofs.Automation.HandOver
import Recorder.Proofs.Session.Compilation
import Recorder.Proofs.Session.Replay
import Recorder.Proofs.Storage.Preservation
import Recorder.Proofs.Timeline.Known

namespace Recorder

namespace RuleCompiler

/-- **Rules** do not depend on what is lost of interactions.  They look at gestures, moments,
locators and bounds, all of which stay; what goes are elements of the path of which nothing is
known. -/
theorem rulesAfter_known (names : KeyNames) (mode : CaptureMode) (typed : Typed)
    (is : List Interaction) :
    rulesAfter names mode (typed.map fun p => (p.1, p.2.known)) (is.map Interaction.known) =
      rulesAfter names mode typed is := by
  have hflush (typed : Typed) :
      flush mode (typed.map fun p => (p.1, p.2.known)) = flush mode typed := by
    cases typed <;> rfl
  induction is generalizing typed with
  | nil => exact hflush typed
  | cons i is ih =>
    have hg : i.known.event.gesture = i.event.gesture := rfl
    rw [List.map_cons, rulesAfter, rulesAfter, hg]
    cases i.event.gesture with
    | pointer button x y =>
      simp only [hflush]
      exact congrArg (fun rs => flush mode typed ++ clickRule mode i button x y :: rs) (ih none)
    | key key =>
      cases hs : strokeOf names key with
      | special name =>
        simp only [hs, hflush]
        exact congrArg (fun rs => flush mode typed ++ keyRule mode name i :: rs) (ih none)
      | character c =>
        simp only [hs]
        have hpush := ih (typed.push c i)
        cases typed <;> exact hpush
      | ignored =>
        simp only [hs]
        exact ih typed

/-- **The job of a group** is the same before and after, in every mode, as its rules are and
its think time is. -/
theorem compile_known (names : KeyNames) (mode : CaptureMode) (g : Group) :
    compile names mode g.known = compile names mode g := by
  have hr : rules names mode g.known = rules names mode g :=
    congrArg (· ++ [Rule.close]) (rulesAfter_known names mode none g.events)
  rw [compile, compile, hr]
  rfl

end RuleCompiler

namespace Session

variable {s : Session}

/-! ## Looking connections up -/

/-- A connection is found under its base URL before and after. -/
theorem connection?_reloaded (s : Session) (url : String) :
    s.reloaded.connection? url = (s.connection? url).map Connection.reloaded :=
  Connection.find?_map (f := Connection.reloaded) (fun _ => rfl) s.connections url

/-- The snapshots are those of before, with nodes that say nothing left out of the paths. -/
theorem snapshots_reloaded (s : Session) : s.reloaded.snapshots = s.snapshots.known := by
  simp [snapshots, reloaded, Snapshots.known, Connection.reloaded, Connection.url, Endpoint.finite]

/-- A group has the same source, itself as it was saved and loaded. -/
theorem sourceOf_reloaded (s : Session) (g : Group) :
    s.reloaded.sourceOf g.known = (s.sourceOf g).map Connection.reloaded :=
  connection?_reloaded s _

/-- Settling a group and losing what is not known of its elements can be done in either order. -/
theorem settled_reloaded (s : Session) (g : Group) :
    s.reloaded.settled g.known = (s.settled g).known := by
  rw [settled, settled, sourceOf_reloaded]
  cases s.sourceOf g <;> rfl

/-- The mode of a group is that of its source, and no mode is lost. -/
theorem modeOf_reloaded (s : Session) (g : Group) : s.reloaded.modeOf g.known = s.modeOf g := by
  rw [modeOf, modeOf, sourceOf_reloaded]
  cases s.sourceOf g <;> rfl

/-! ## The parts of a pass -/

/-- **A job** runs with the same parameters, but for numbers that are not finite.  Its mode
and its think time come from a connection that is found under the same base URL. -/
theorem jobOf_reloaded (s : Session) (isFirst : Bool) (g : Group) :
    (s.reloaded.jobOf isFirst g.known).map Job.finite = (s.jobOf isFirst g).map Job.finite := by
  rw [jobOf, jobOf, modeOf_reloaded, settled_reloaded, RuleCompiler.compile_known]
  refine Outcome.map_bind_congr (f := id) rfl fun job job' h => ?_
  obtain rfl : job = job' := h
  cases isFirst with
  | true => rfl
  | false =>
    rw [sourceOf_reloaded]
    cases s.sourceOf g with
    | none => rfl
    | some c => simp [Except.map, Job.finite, Connection.reloaded, Endpoint.finite]

/-- **The jobs are the same** but for numbers in driver parameters that are not finite: those
were saved as null. -/
theorem jobsOf_reloaded (s : Session) (isFirst : Bool) (gs : List Group) :
    (s.reloaded.jobsOf isFirst (gs.map Group.known)).map (List.map Job.finite) =
      (s.jobsOf isFirst gs).map (List.map Job.finite) := by
  induction gs generalizing isFirst with
  | nil => rfl
  | cons g gs ih =>
    refine Outcome.map_bind_congr (jobOf_reloaded s isFirst g) fun job job' hjob => ?_
    refine Outcome.map_bind_congr (ih false) fun jobs jobs' hjobs => ?_
    simp [Except.map, hjob, hjobs]

/-- **The primary connection** is the same one, since timestamps and base URLs stay what they
are.  Its parameters lose the numbers that are not finite. -/
theorem primaryParameters_reloaded (s : Session) :
    s.reloaded.primaryParameters = Json.finiteFields s.primaryParameters := by
  have hc : s.reloaded.connection? = fun url => (s.connection? url).map Connection.reloaded :=
    funext (connection?_reloaded s)
  rw [primaryParameters, primaryParameters, snapshots_reloaded, Snapshots.earliestSource_known, hc]
  cases s.snapshots.earliestSource with
  | none => rfl
  | some url =>
    rw [Option.bind_some, Option.bind_some]
    cases s.connection? url <;> rfl

/-- The values that do not come from the recording are the same in the same sense. -/
theorem documentBase_reloaded (s : Session) :
    s.reloaded.documentBase.map DocumentBase.finite = s.documentBase.map DocumentBase.finite := by
  rw [documentBase, documentBase, primaryParameters_reloaded]
  exact DocumentBase.ofManifest_finite s.manifest s.primaryParameters

/-- **The same document** is put together, or putting it together fails alike.  Numbers that
are not finite have gone from the parameters, but they would not have been handed over in any
case. -/
theorem assembleGroups_reloaded (s : Session) (gs : List Group) :
    (s.reloaded.assembleGroups (gs.map Group.known)).map Automation.handOver =
      (s.assembleGroups gs).map Automation.handOver := by
  have hb : (s.reloaded.documentBase.mapError CompileError.assembly).map DocumentBase.finite =
      (s.documentBase.mapError CompileError.assembly).map DocumentBase.finite := by
    rw [Outcome.map_mapError, Outcome.map_mapError, documentBase_reloaded]
  have hj : ((s.reloaded.jobsOf true (gs.map Group.known)).mapError CompileError.overflow).map
        (List.map Job.finite) =
      ((s.jobsOf true gs).mapError CompileError.overflow).map (List.map Job.finite) := by
    rw [Outcome.map_mapError, Outcome.map_mapError, jobsOf_reloaded]
  refine Outcome.map_bind_congr hb fun base base' hbase => ?_
  refine Outcome.map_bind_congr hj fun jobs jobs' hjobs => ?_
  rw [Outcome.map_mapError, Outcome.map_mapError,
    Automation.handOver_assemble_congr hjobs hbase]

/-! ## The pass -/

end Session

/-- What can be seen of a result: what is handed over, or why there is no document. -/
def Recording.handOver : Recording → Except EmptyReason (Except TooDeep Json)
  | .empty reason _ => .error reason
  | .document a _ _ => .ok a.handOver

/-- Of a document, what is handed over is the only thing that its recording tells. -/
theorem Recording.map_handOver_document (r : Except CompileError Automation) (gs : List Group)
    (bs : Snapshots) : (r.map fun a => .document a gs bs).map Recording.handOver =
      (r.map Automation.handOver).map .ok := by
  cases r <;> rfl

namespace Session

variable {s : Session}

/-- **A pass over a reloaded session** gives what a pass over the session gives, step by step:
the timelines have the same events, the groups the same jobs, and the documents the same
payload. -/
theorem compile_reloaded (hi : s.ignored = [])
    (hp : ∀ c ∈ s.connections, ∀ e ∈ c.buffer, e.HasKnownPath) :
    s.reloaded.compile.map Recording.handOver = s.compile.map Recording.handOver := by
  by_cases hc : s.connections = []
  · simp [compile, reloaded, hc]
  · have hc' : s.reloaded.connections ≠ [] := by simpa [reloaded] using hc
    have he : ∀ e ∈ s.snapshots.events, e.HasKnownPath := by
      intro e hmem
      obtain ⟨p, hsnap, hbuf⟩ := List.mem_flatMap.1 hmem
      obtain ⟨c, hconn, rfl⟩ := List.mem_map.1 hsnap
      exact hp c hconn e hbuf
    obtain ⟨timeline, hm⟩ : ∃ timeline, s.snapshots.merge [] = .ok timeline :=
      ⟨_, Snapshots.merge_nil s.snapshots⟩
    have hm' : s.reloaded.snapshots.merge s.reloaded.ignored =
        .ok (timeline.map Interaction.known) := by
      rw [snapshots_reloaded]
      exact Snapshots.merge_known he hm
    rw [← hi] at hm
    by_cases ht : timeline = []
    · subst ht
      rw [compile_of_merge_nil hc hm, compile_of_merge_nil hc' hm']
      rfl
    · have ht' : timeline.map Interaction.known ≠ [] := by simpa using ht
      rw [compile_of_merge hm ht, compile_of_merge hm' ht', Group.segment_known,
        Recording.map_handOver_document, Recording.map_handOver_document, assembleGroups_reloaded]

/-- **A document that is handed over:** its groups have a document that is not too deep.  With
it one live pass is followed to its end. -/
theorem handOver_compile {timeline : List Interaction} {a : Automation}
    (hm : s.snapshots.merge s.ignored = .ok timeline) (hne : timeline ≠ [])
    (ha : s.assembleGroups (Group.segment timeline) = .ok a) (hs : a.isShallow = true) :
    s.compile.map Recording.handOver = .ok (.ok (.ok a.payload)) := by
  rw [compile_of_merge hm hne, Recording.map_handOver_document, ha]
  simp [Except.map, Automation.handOver, hs]

/-- **Recompiling a saved recording** gives what compiling it live gives, if there is a saved
recording at all: saving succeeds just if the driver parameters of no connection are too deep
for it.  What was saved can then be loaded, and a pass over the session replayed from it,
under the same manifest and key names, finds nothing for the same reason, fails for the same
reason, or hands over the same document. -/
theorem recompile_saved (hs : s.WellFormed) (hi : s.ignored = [])
    (hp : ∀ c ∈ s.connections, ∀ e ∈ c.buffer, e.HasKnownPath) (savedAt : String) :
    ((∃ document,
        Buffers.dump savedAt s.snapshots (Connection.endpoints s.connections) = .ok document) ↔
      ∀ c ∈ s.connections, c.endpoint.driverParameters.isShallow = true) ∧
    ∀ document,
      Buffers.dump savedAt s.snapshots (Connection.endpoints s.connections) = .ok document →
      ∃ saved, Buffers.load document = .ok saved ∧
        ({ replay saved s.manifest with keyNames := s.keyNames }).compile.map Recording.handOver =
          s.compile.map Recording.handOver := by
  have hsave : Buffers.dump savedAt s.snapshots (Connection.endpoints s.connections) =
      if s.connections.all Connection.isShallow then .ok (Buffers.document savedAt s.connections)
      else .error (.tooDeep {}) := Buffers.dump_eq savedAt hs.nodup
  constructor
  · rw [Buffers.exists_dump_iff, snapshots, List.forall_mem_map]
    refine forall₂_congr fun c hc => ?_
    rw [Connection.get?_endpoints hs.nodup hc]
    simp
  · intro document hdocument
    rw [hsave] at hdocument
    split at hdocument
    · obtain rfl := Except.ok.inj hdocument
      have hload := Buffers.load_document savedAt fun c hc => (hs.connection c hc).delay
      exact ⟨_, hload, by rw [replay_saved hs, compile_reloaded hi hp]⟩
    · cases hdocument

/-- A key on an element that lies in one of which nothing is known. -/
def keyOnEdit : Event :=
  { Event.release 1 "A" (.key "a") with
    chain := { locator := "//Edit", path := [{}, { name := some "Edit" }] } }

theorem isRead_keyOnEdit : keyOnEdit.IsRead := by
  refine ⟨by decide +kernel, fun b x y h => ?_⟩
  cases h

theorem hasKnownPath_keyOnEdit : keyOnEdit.HasKnownPath :=
  .inr ⟨{ name := some "Edit" }, by simp [keyOnEdit], by decide⟩

/-- A buffer that holds the key alone is its own timeline. -/
theorem merge_keyOnEdit {snapshots : Snapshots} {url : String}
    (h : snapshots.tagged = [(url, keyOnEdit)]) :
    snapshots.merge [] = .ok [.ofTagged (url, keyOnEdit)] := by
  have hsurvives : keyOnEdit.survives [] = true := by decide +kernel
  rw [Snapshots.merge_nil, h, List.filter_singleton, hsurvives, cond_true, List.map_singleton,
    List.mergeSort_singleton]

/-- The key was recorded by an endpoint one of whose driver parameters is not finite. -/
def keyInUnknown : Session where
  connections := [{
    endpoint := { Endpoint.ofUrl "http://a" with driverParameters := [("timeout", .float .nan)] }
    buffer := [keyOnEdit] }]

/-- Both losses are there, and neither is seen: the live pass and the pass over the replayed
session hand over one and the same document. -/
theorem recompile_saved_keyInUnknown : ∃ document saved payload,
    Buffers.dump "" keyInUnknown.snapshots (Connection.endpoints keyInUnknown.connections) =
      .ok document ∧
    Buffers.load document = .ok saved ∧
    keyInUnknown.compile.map Recording.handOver = .ok (.ok (.ok payload)) ∧
    ({ replay saved keyInUnknown.manifest with keyNames := .standard }).compile.map
      Recording.handOver = .ok (.ok (.ok payload)) := by
  have hw : keyInUnknown.WellFormed := by
    refine ⟨by simp [keyInUnknown, urls], fun c hc => ?_, .inr rfl⟩
    obtain rfl := List.mem_singleton.1 hc
    refine ⟨?_, List.forall_mem_singleton.2 isRead_keyOnEdit⟩
    simp only [Endpoint.ofUrl]
    decide +kernel
  have hp : ∀ c ∈ keyInUnknown.connections, ∀ e ∈ c.buffer, e.HasKnownPath :=
    List.forall_mem_singleton.2 (List.forall_mem_singleton.2 hasKnownPath_keyOnEdit)
  have hlive : keyInUnknown.compile.map Recording.handOver = .ok (.ok (.ok _)) :=
    handOver_compile (merge_keyOnEdit rfl) (List.cons_ne_nil _ _) rfl rfl
  obtain ⟨hsave, hsame⟩ := recompile_saved hw rfl hp ""
  obtain ⟨document, hdocument⟩ := hsave.2 (List.forall_mem_singleton.2 (by decide))
  obtain ⟨saved, hload, hcompile⟩ := hsame document hdocument
  exact ⟨document, saved, _, hdocument, hload, hlive, hcompile.trans hlive⟩

/-- The key was recorded beside an endpoint whose driver parameters are too deep, and which has
recorded nothing. -/
def keyBesideDeep : Session where
  connections := [{ endpoint := .ofUrl "http://b", buffer := [keyOnEdit] },
    { endpoint := Buffers.deep }]

/-- **A recording that cannot be saved.**  The live pass hands over a document, while nothing
can be saved of the session. -/
theorem keyBesideDeep_not_saved :
    keyBesideDeep.WellFormed ∧ keyBesideDeep.ignored = [] ∧
    (∀ c ∈ keyBesideDeep.connections, ∀ e ∈ c.buffer, e.HasKnownPath) ∧
    (∃ payload, keyBesideDeep.compile.map Recording.handOver = .ok (.ok (.ok payload))) ∧
    ∀ savedAt, Buffers.dump savedAt keyBesideDeep.snapshots
      (Connection.endpoints keyBesideDeep.connections) = .error (.tooDeep {}) := by
  have hnodup : (keyBesideDeep.connections.map Connection.url).Nodup := by decide
  refine ⟨⟨hnodup, ?_, .inr rfl⟩, rfl, ?_, ⟨_, handOver_compile (merge_keyOnEdit rfl)
    (List.cons_ne_nil _ _) rfl rfl⟩, fun savedAt => ?_⟩
  · refine List.forall_mem_cons.2 ⟨⟨Endpoint.isPositive_ofUrl "http://b",
      List.forall_mem_singleton.2 isRead_keyOnEdit⟩, List.forall_mem_singleton.2 ⟨?_, ?_⟩⟩
    · exact Buffers.isPlain_deep.isPositive
    · exact List.forall_mem_nil _
  · exact List.forall_mem_cons.2 ⟨List.forall_mem_singleton.2 hasKnownPath_keyOnEdit,
      List.forall_mem_singleton.2 (List.forall_mem_nil _)⟩
  · have hdeep : keyBesideDeep.connections.all Connection.isShallow = false := by
      rw [List.all_eq_false]
      refine ⟨{ endpoint := Buffers.deep }, List.mem_cons_of_mem _ List.mem_cons_self, ?_⟩
      rw [Connection.isShallow, Buffers.isShallow_deep]
      exact Bool.false_ne_true
    have hsave := Buffers.dump_eq savedAt hnodup
    rw [hdeep] at hsave
    exact hsave

end Session
end Recorder
