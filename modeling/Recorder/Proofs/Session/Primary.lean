/-
# Whose parameters a document runs with

`SPEC_FULL.md` §7: the first job keeps no parameters and inherits those of the connection
named by `earliest_source`.

The first job has no driver parameters of its own and runs with those of the document,
which are the parameters of the connection that holds the earliest event of all.  That
event may be one that is dropped, so the connection need not be the one that recorded the
first group (`Session.earliestSource_eq_origin_iff`).
-/

import Recorder.Proofs.Session.Reliability
import Recorder.Proofs.Timeline.Sources

namespace Recorder

/-- **A connection ahead of what is dropped:** no dropped event of another connection
comes before all of its own.  At equal times the connection in front comes first. -/
structure Connection.AheadOfDropped (patterns : List String) (before : List Connection)
    (c : Connection) (after : List Connection) : Prop where
  before : ∀ d ∈ before, ∀ e ∈ d.buffer, e.survives patterns = false →
    ∃ own ∈ c.buffer, own.timestamp < e.timestamp
  after : ∀ d ∈ after, ∀ e ∈ d.buffer, e.survives patterns = false →
    ∃ own ∈ c.buffer, own.timestamp ≤ e.timestamp

namespace Session

variable {s : Session}

/-- The connection of an event in a snapshot, with those in front of it and those behind
it. -/
theorem exists_split_of_mem_tagged (hn : s.urls.Nodup) {p : String × Event}
    (hp : p ∈ s.snapshots.tagged) :
    ∃ before c after, s.connections = before ++ c :: after ∧ c.url = p.1 ∧ p.2 ∈ c.buffer ∧
      s.connection? p.1 = some c ∧ (∀ d ∈ before, d.url ≠ p.1) ∧ ∀ d ∈ after, d.url ≠ p.1 := by
  obtain ⟨d, hd, hurl, he⟩ := Snapshots.mem_tagged.1 hp
  obtain ⟨c, hc, rfl⟩ := List.mem_map.1 hd
  have hfound : s.connection? c.url = some c := Connection.find?_of_mem hn hc
  obtain ⟨before, after, hsplit⟩ := List.append_of_mem hc
  rw [urls, hsplit, List.map_append, List.map_cons, List.nodup_append, List.nodup_cons] at hn
  obtain ⟨-, ⟨hafter, -⟩, hbefore⟩ := hn
  rw [hurl]
  refine ⟨before, c, after, hsplit, rfl, he, hfound, fun d hd => ?_, fun d hd heq => ?_⟩
  · exact hbefore d.url (List.mem_map_of_mem hd) c.url List.mem_cons_self
  · have hmem : d.url ∈ after.map Connection.url := List.mem_map_of_mem hd
    rw [heq] at hmem
    exact hafter hmem

/-- **The connection that recorded the first group** holds a surviving event, and it holds
the earliest event of all just if it is ahead of what is dropped. -/
theorem recorder_of_document (hn : s.urls.Nodup) {a : Automation} {gs : List Group}
    {bs : Snapshots} (h : s.compile = .ok (.document a gs bs)) :
    ∃ g rest before c after, gs = g :: rest ∧ s.connections = before ++ c :: after ∧
      g.origin = some c.url ∧ (∃ e ∈ c.buffer, e.survives s.ignored = true) ∧
      (bs.earliestSource = some c.url ↔ c.AheadOfDropped s.ignored before after) := by
  obtain ⟨timeline, -, -, ht, hne, -, -, -, rfl, rfl⟩ := compile_eq_document h
  obtain ⟨i, is, rfl⟩ := List.exists_cons_of_ne_nil hne
  obtain ⟨g, rest, hseg, horigin⟩ := Group.exists_segment_cons i is
  -- The first interaction is the first of the surviving events.
  obtain ⟨p, hp, rfl⟩ := Snapshots.isFirst_of_merge ht
  obtain ⟨hmem, hsurvives⟩ := List.mem_filter.1 hp.mem
  obtain ⟨before, c, after, hsplit, hc, he, -, hbefore, hafter⟩ :=
    exists_split_of_mem_tagged hn hmem
  have hsnapshots : s.snapshots = (before.map fun d => (d.url, d.buffer)) ++
      (c.url, c.buffer) :: after.map fun d => (d.url, d.buffer) := by
    rw [snapshots, hsplit, List.map_append, List.map_cons]
  have horigin' : (s.settled g).origin = some c.url := by
    rw [hc]
    exact horigin
  refine ⟨s.settled g, rest.map s.settled, before, c, after, by rw [hseg, List.map_cons], hsplit,
    horigin', ⟨p.2, he, hsurvives⟩, ?_⟩
  rw [hsnapshots] at hp ⊢
  rw [Snapshots.earliestSource_eq_some_iff (List.forall_mem_map.2 (hc ▸ hbefore))
    (List.forall_mem_map.2 (hc ▸ hafter)) hc.symm hp, List.forall_mem_map, List.forall_mem_map]
  constructor
  · rintro ⟨hb, ha⟩
    exact ⟨hb, ha⟩
  · rintro ⟨hb, ha⟩
    exact ⟨hb, ha⟩

/-- **The connection that holds the earliest event** of a timeline that is not empty.  There
is one, as an event that survived was buffered somewhere, though the earliest event itself
need not have survived. -/
theorem exists_primary (hn : s.urls.Nodup) {timeline : List Interaction}
    (ht : s.snapshots.merge s.ignored = .ok timeline) (hne : timeline ≠ []) :
    ∃ primary ∈ s.connections, s.snapshots.earliestSource = some primary.url ∧
      s.connection? primary.url = some primary := by
  obtain ⟨i, is, rfl⟩ := List.exists_cons_of_ne_nil hne
  obtain ⟨p, hp, -⟩ := Snapshots.isFirst_of_merge ht
  obtain ⟨m, hm⟩ : ∃ m, IsFirst Snapshots.time s.snapshots.tagged m :=
    IsFirst.exists_of_mem (List.mem_filter.1 hp.mem).1
  obtain ⟨before, primary, after, hsplit, hprimary, -, hfound, -, -⟩ :=
    exists_split_of_mem_tagged hn hm.mem
  have hmem : primary ∈ s.connections := by
    rw [hsplit]
    exact List.mem_append_right before List.mem_cons_self
  exact ⟨primary, hmem, by rw [Snapshots.earliestSource_of_isFirst hm, hprimary], hprimary ▸ hfound⟩

/-- The document looks for parameters at that connection first. -/
theorem primaryParameters_of_earliestSource {primary : Connection}
    (hsource : s.snapshots.earliestSource = some primary.url)
    (hfound : s.connection? primary.url = some primary) :
    s.primaryParameters = primary.endpoint.driverParameters := by
  rw [primaryParameters, hsource, Option.bind_some, hfound]
  rfl

/-- **The connection whose parameters become those of the document** holds the earliest
event of all.  If it has none, the manifest's count. -/
theorem primary_of_document (hn : s.urls.Nodup) {a : Automation} {gs : List Group}
    {bs : Snapshots} (h : s.compile = .ok (.document a gs bs)) :
    ∃ primary ∈ s.connections, bs.earliestSource = some primary.url ∧
      (primary.endpoint.driverParameters ≠ [] →
        a.driverParameters = primary.endpoint.driverParameters) ∧
      (primary.endpoint.driverParameters = [] →
        ∃ base, DocumentBase.ofManifest s.manifest none = .ok base ∧
          Automation.checkKeys base.driverParameters = .ok a.driverParameters) := by
  obtain ⟨timeline, base, jobs, ht, hne, hbase, -, ha, -, rfl⟩ := compile_eq_document h
  obtain ⟨primary, hmem, hsource, hfound⟩ := exists_primary hn ht hne
  rw [documentBase, primaryParameters_of_earliestSource hsource hfound] at hbase
  obtain ⟨-, -, -, hkeys, -, -⟩ := Automation.assemble_eq_ok ha
  refine ⟨primary, hmem, hsource, fun hgiven => ?_, fun hnone => ?_⟩
  · rw [DocumentBase.driverParameters_ofManifest hbase hgiven, Automation.checkKeys_toTable] at hkeys
    exact (Except.ok.inj hkeys).symm
  · rw [hnone, DocumentBase.ofManifest_nil] at hbase
    exact ⟨base, hbase, hkeys⟩

/-- **The first job** of a document has no parameters of its own: it runs with those of the
document, which are those of the primary connection if it has any. -/
theorem exists_first_job {a : Automation} {gs : List Group} {bs : Snapshots}
    (h : s.compile = .ok (.document a gs bs)) :
    ∃ first later, a.jobs = first :: later ∧ first.driverParameters = [] := by
  obtain ⟨timeline, base, jobs, -, hne, -, hjobs, ha, -, -⟩ := compile_eq_document h
  obtain ⟨g, rest, hseg⟩ := List.exists_cons_of_ne_nil fun hnil =>
    hne (Group.segment_eq_nil.1 hnil)
  rw [hseg] at hjobs
  obtain ⟨first, later, rfl, hfirst, -⟩ := driverParameters_jobsOf hjobs
  exact ⟨first, later, Automation.jobs_assemble ha, hfirst⟩

/-- **Whose parameters a document runs with.**  A document has a first group and a first
job, and that job has no parameters of its own.  The parameters of the document are those
of the connection that holds the earliest event, or those of the manifest if it has none.
That connection recorded the first group just if no dropped event of another connection
comes before all events of the connection that did. -/
theorem earliestSource_eq_origin_iff (hn : s.urls.Nodup) {a : Automation} {gs : List Group}
    {bs : Snapshots} (h : s.compile = .ok (.document a gs bs)) :
    (∃ first later, a.jobs = first :: later ∧ first.driverParameters = []) ∧
    (∃ primary ∈ s.connections, bs.earliestSource = some primary.url ∧
      (primary.endpoint.driverParameters ≠ [] →
        a.driverParameters = primary.endpoint.driverParameters) ∧
      (primary.endpoint.driverParameters = [] →
        ∃ base, DocumentBase.ofManifest s.manifest none = .ok base ∧
          Automation.checkKeys base.driverParameters = .ok a.driverParameters)) ∧
    ∃ g rest before c after, gs = g :: rest ∧ s.connections = before ++ c :: after ∧
      g.origin = some c.url ∧ (∃ e ∈ c.buffer, e.survives s.ignored = true) ∧
      (bs.earliestSource = g.origin ↔ c.AheadOfDropped s.ignored before after) := by
  obtain ⟨g, rest, before, c, after, hgs, hsplit, horigin, hs, hiff⟩ := recorder_of_document hn h
  refine ⟨exists_first_job h, primary_of_document hn h, g, rest, before, c, after, hgs, hsplit,
    horigin, hs, ?_⟩
  rw [horigin]
  exact hiff

/-! ## A press and a click -/

/-- A press that is never released. -/
def pressAt (timestamp : Int) : Event := { clickAt timestamp with phase := some .down }

/-- An endpoint where a button was pressed. -/
def presser (press : Int) : Connection where
  endpoint := { Endpoint.ofUrl "http://a" with driverParameters := [("driver", .str "A")] }
  buffer := [pressAt press]

/-- An endpoint where a button was clicked. -/
def clicker (click : Int) : Connection where
  endpoint := { Endpoint.ofUrl "http://b" with driverParameters := [("driver", .str "B")] }
  buffer := [clickAt click]

/-- A press on one endpoint and a click on another one, each with a driver of its own. -/
def pressAndClick (press click : Int) : Session where
  connections := [presser press, clicker click]

/-- The two connections have base URLs of their own. -/
theorem nodup_urls_pressAndClick (press click : Int) : (pressAndClick press click).urls.Nodup := by
  have hurls : (pressAndClick press click).urls = ["http://a", "http://b"] := rfl
  rw [hurls]
  decide

/-- The name of a driver is not too deep to be copied. -/
theorem canCopy_driver (name : String) : Fields.CanCopy [("driver", .str name)] := by
  simp [Fields.CanCopy, Json.depthOfItems, Json.depth, Automation.maxCopyDepth]

/-- The click has a document. -/
theorem exists_document_pressAndClick (press click : Int) :
    ∃ a gs bs, (pressAndClick press click).compile = .ok (.document a gs bs) := by
  refine exists_document_of_canCopy rfl rfl usable_nil Fields.canCopy_nil Fields.canCopy_nil
    ⟨clicker click, List.mem_cons_of_mem _ List.mem_cons_self, clickAt click, List.mem_cons_self,
      survives_clickAt click⟩ fun c hc => ?_
  rcases List.mem_cons.1 hc with rfl | hc
  · exact ⟨rfl, canCopy_driver "A"⟩
  · obtain rfl := List.mem_singleton.1 hc
    exact ⟨rfl, canCopy_driver "B"⟩

/-- The press is dropped, so the click is the first interaction. -/
theorem recorder_pressAndClick {press click : Int} {before after : List Connection}
    {c : Connection} (hsplit : (pressAndClick press click).connections = before ++ c :: after)
    (hs : ∃ e ∈ c.buffer, e.survives [] = true) :
    before = [presser press] ∧ c = clicker click ∧ after = [] := by
  cases before with
  | nil =>
    obtain ⟨rfl, -⟩ := List.cons.inj hsplit
    obtain ⟨e, he, hsurvives⟩ := hs
    obtain rfl := List.mem_singleton.1 he
    cases hsurvives
  | cons d before =>
    obtain ⟨rfl, htail⟩ := List.cons.inj hsplit
    cases before with
    | nil =>
      obtain ⟨rfl, rfl⟩ := List.cons.inj htail
      exact ⟨rfl, rfl, rfl⟩
    | cons d' before =>
      obtain ⟨-, hnil⟩ := List.cons.inj htail
      cases before <;> cases hnil

/-- A click before the press: the document runs with the parameters of its endpoint. -/
theorem earliestSource_eq_origin_pressAndClick :
    ∃ a g gs bs, (pressAndClick 2 1).compile = .ok (.document a (g :: gs) bs) ∧
      bs.earliestSource = g.origin ∧ g.origin = some "http://b" ∧
      a.driverParameters = [("driver", .str "B")] := by
  obtain ⟨a, gs, bs, h⟩ := exists_document_pressAndClick 2 1
  obtain ⟨-, ⟨primary, hmem, hsource, hgiven, -⟩, g, rest, before, c, after, rfl, hsplit, horigin,
    hs, hiff⟩ := earliestSource_eq_origin_iff (nodup_urls_pressAndClick 2 1) h
  obtain ⟨rfl, rfl, rfl⟩ := recorder_pressAndClick hsplit hs
  have hahead : (clicker 1).AheadOfDropped [] [presser 2] [] := by
    refine ⟨fun d hd e he _ => ⟨clickAt 1, List.mem_cons_self, ?_⟩, List.forall_mem_nil _⟩
    obtain rfl := List.mem_singleton.1 hd
    obtain rfl := List.mem_singleton.1 he
    decide
  have hfirst := hiff.2 hahead
  have hprimary : primary = clicker 1 := by
    rw [horigin, hsource] at hfirst
    have hurl := Option.some.inj hfirst
    rcases List.mem_cons.1 hmem with rfl | hmem
    · exact absurd hurl (by decide)
    · exact List.mem_singleton.1 hmem
  subst hprimary
  exact ⟨a, g, rest, bs, h, hfirst, horigin, hgiven (List.cons_ne_nil _ _)⟩

/-- **A document can run with the parameters of another connection:** the press comes
first of all and is dropped, and the click runs with the driver of the press. -/
theorem exists_earliestSource_ne_origin :
    ∃ (s : Session) (a : Automation) (g : Group) (gs : List Group) (bs : Snapshots),
      s.urls.Nodup ∧ s.compile = .ok (.document a (g :: gs) bs) ∧
      bs.earliestSource ≠ g.origin ∧ g.origin = some "http://b" ∧
      a.driverParameters = [("driver", .str "A")] := by
  have hn := nodup_urls_pressAndClick 1 2
  obtain ⟨a, gs, bs, h⟩ := exists_document_pressAndClick 1 2
  obtain ⟨g, rest, before, c, after, rfl, hsplit, horigin, hs, hiff⟩ := recorder_of_document hn h
  obtain ⟨primary, hmem, hsource, hgiven, -⟩ := primary_of_document hn h
  obtain ⟨rfl, rfl, rfl⟩ := recorder_pressAndClick hsplit hs
  have hbehind : bs.earliestSource ≠ some (clicker 2).url := by
    intro hfirst
    obtain ⟨own, ho, hlt⟩ := (hiff.1 hfirst).before (presser 1) List.mem_cons_self (pressAt 1)
      List.mem_cons_self rfl
    obtain rfl := List.mem_singleton.1 ho
    exact absurd hlt (by decide)
  have hprimary : primary = presser 1 := by
    rcases List.mem_cons.1 hmem with rfl | hmem
    · rfl
    · obtain rfl := List.mem_singleton.1 hmem
      exact absurd hsource hbehind
  subst hprimary
  rw [← horigin] at hbehind
  exact ⟨pressAndClick 1 2, a, g, rest, bs, hn, h, hbehind, horigin, hgiven (List.cons_ne_nil _ _)⟩

end Session
end Recorder
