/-
# Which connection a job is resolved from

`SPEC_FULL.md` §7, `compile`: per group, the mode, the think-time settings and the driver
parameters of the connection that it came from.

A job is compiled with the mode and the think-time settings of a connection, and all jobs
but the first run with its driver parameters.  That connection is looked up by the base URL
that a snapshot put on the first interaction of the job's group.

| looked up | by | finds |
| --- | --- | --- |
| the source of a group | the origin of its first interaction | the connection that buffered it |
| the primary connection | the origin of the earliest event | the connection that buffered it |
| the options of either | its base URL | the first ones given with that base URL |

None of these fails while there is a document, so what would be used instead never is
(`Session.jobs_resolved`).
-/

import Recorder.Proofs.Session.Primary
import Recorder.Proofs.Session.WellFormed

namespace Recorder

/-! ## The first of several options decides -/

namespace Connection

/-- Looking for a connection is looking for its endpoint. -/
theorem map_endpoint_find? (cs : List Connection) (url : String) :
    (find? cs url).map endpoint = (cs.map endpoint).find? (·.baseUrl == url) := by
  rw [find?, List.find?_map]
  rfl

/-- One more endpoint is found under its base URL just if there is none yet. -/
theorem find?_addEndpoint (cs : List Connection) (e : Endpoint) (url : String) :
    ((addEndpoint cs e).map endpoint).find? (·.baseUrl == url) =
      (cs.map endpoint ++ [e]).find? (·.baseUrl == url) := by
  by_cases hmem : e.baseUrl ∈ cs.map Connection.url
  · have hany : cs.any (·.url == e.baseUrl) := by simpa using hmem
    rw [addEndpoint, if_pos hany, List.find?_append]
    by_cases he : e.baseUrl = url
    · -- It is found before the one that is left out is looked at.
      obtain ⟨c, hc, hurl⟩ := List.mem_map.1 hmem
      have hsome : ((cs.map endpoint).find? (·.baseUrl == url)).isSome := by
        rw [List.find?_isSome]
        exact ⟨c.endpoint, List.mem_map_of_mem hc, beq_iff_eq.2 (hurl.trans he)⟩
      exact (Option.or_of_isSome hsome).symm
    · rw [List.find?_singleton, if_neg (by simpa using he), Option.or_none]
  · rw [addEndpoint_of_notMem hmem, List.map_append]
    rfl

/-- **Of options with one base URL the first decides.**  The others are ignored when the
session is opened, so they never have a connection. -/
theorem find?_ofEndpoints (es : List Endpoint) (url : String) :
    ((ofEndpoints es).map endpoint).find? (·.baseUrl == url) =
      es.find? (·.baseUrl == url) := by
  rw [ofEndpoints_eq]
  suffices hloop : ∀ cs : List Connection,
      ((es.foldl addEndpoint cs).map endpoint).find? (·.baseUrl == url) =
        (cs.map endpoint ++ es).find? (·.baseUrl == url) from hloop []
  induction es with
  | nil =>
    intro cs
    rw [List.foldl_nil, List.append_nil]
  | cons e es ih =>
    intro cs
    rw [List.foldl_cons, ih, List.find?_append, find?_addEndpoint, ← List.find?_append,
      List.append_assoc, List.singleton_append]

end Connection

namespace Session

variable {s : Session}

/-- **A session opened on options:** it has the connections of these, whatever they have
buffered and whichever state they are in. -/
def OpenedOn (es : List Endpoint) (s : Session) : Prop :=
  s.connections.map Connection.endpoint = (Connection.ofEndpoints es).map Connection.endpoint

theorem openedOn_ofEndpoints (es : List Endpoint) (manifest : Json) :
    OpenedOn es (ofEndpoints es manifest) := rfl

namespace OpenedOn

variable {es : List Endpoint}

/-- Connections may be changed one by one, as long as they keep their options. -/
theorem map (hs : s.OpenedOn es) {f : Connection → Connection}
    (hf : ∀ c, (f c).endpoint = c.endpoint) :
    OpenedOn es { s with connections := s.connections.map f } := by
  have hcomp : Connection.endpoint ∘ f = Connection.endpoint := funext hf
  rw [OpenedOn, List.map_map, hcomp]
  exact hs

/-- **Whatever is sent,** the options stay: messages reach buffers and nothing else. -/
theorem ingestAll (hs : s.OpenedOn es) (ms : Messages) : OpenedOn es (s.ingestAll ms) := by
  rw [ingestAll_eq]
  exact hs.map fun _ => rfl

/-- Its connections have different base URLs, however often one was given. -/
theorem nodup_urls (hs : s.OpenedOn es) : s.urls.Nodup := by
  rw [urls_eq, hs, List.map_map]
  exact (Connection.areFresh_ofEndpoints es).nodup

/-- **The options of a connection** are the first ones given with its base URL, at every
moment of the session. -/
theorem find?_eq_some (hs : s.OpenedOn es) {url : String} {c : Connection}
    (hc : s.connection? url = some c) : es.find? (·.baseUrl == url) = some c.endpoint := by
  rw [← Connection.find?_ofEndpoints, ← hs, ← Connection.map_endpoint_find?]
  exact congrArg (Option.map Connection.endpoint) hc

end OpenedOn

/-! ## Looking up the source of a group -/

/-- A group begins with an event of a snapshot and has its origin. -/
theorem exists_first_tagged {timeline : List Interaction}
    (ht : s.snapshots.merge s.ignored = .ok timeline) {g : Group}
    (hg : g ∈ Group.segment timeline) :
    ∃ p ∈ s.snapshots.tagged, ∃ is, g.events = .ofTagged p :: is ∧ g.origin = some p.1 := by
  obtain ⟨i, is, hevents, -, horigin⟩ := Group.exists_first_of_mem_ofRunsFrom hg
  have hi : i ∈ timeline := by
    rw [← Group.flatMap_events_segment timeline]
    exact List.mem_flatMap.2 ⟨g, hg, hevents ▸ List.mem_cons_self⟩
  rw [Snapshots.merge_eq_ok ht, List.mem_mergeSort] at hi
  obtain ⟨p, hp, rfl⟩ := List.mem_map.1 hi
  exact ⟨p, (List.mem_filter.1 hp).1, is, hevents, horigin⟩

/-- **A group has a source:** its first interaction was buffered by one of the connections,
which is found under the origin of the group. -/
theorem exists_sourceOf {timeline : List Interaction}
    (ht : s.snapshots.merge s.ignored = .ok timeline) {g : Group}
    (hg : g ∈ Group.segment timeline) :
    ∃ c ∈ s.connections, s.sourceOf g = some c ∧ g.origin = some c.url := by
  obtain ⟨p, hp, -, -, horigin⟩ := exists_first_tagged ht hg
  obtain ⟨d, hd, hurl, -⟩ := Snapshots.mem_tagged.1 hp
  obtain ⟨c', hc', rfl⟩ := List.mem_map.1 hd
  have hsome : (s.connection? p.1).isSome :=
    List.find?_isSome.2 ⟨c', hc', beq_iff_eq.2 hurl.symm⟩
  obtain ⟨c, hc⟩ := Option.isSome_iff_exists.1 hsome
  have hcurl : c.url = p.1 := Connection.url_of_find? hc
  exact ⟨c, List.mem_of_find?_eq_some hc, by rw [sourceOf, horigin]; exact hc, by rw [horigin, hcurl]⟩

/-- **The source of a group** buffered its first interaction, and that interaction names it as
its origin.  The later interactions of the group may come from other connections to the same
machine. -/
theorem first_of_sourceOf (hn : s.urls.Nodup) {timeline : List Interaction}
    (ht : s.snapshots.merge s.ignored = .ok timeline) {g : Group}
    (hg : g ∈ Group.segment timeline) {c : Connection} (hc : s.sourceOf g = some c) :
    ∃ i is, g.events = i :: is ∧ i.origin = some c.url ∧ i.event ∈ c.buffer := by
  obtain ⟨p, hp, is, hevents, horigin⟩ := exists_first_tagged ht hg
  obtain ⟨-, d, -, -, hurl, he, hfound, -, -⟩ := exists_split_of_mem_tagged hn hp
  rw [sourceOf, horigin] at hc
  obtain rfl := Option.some.inj (hfound.symm.trans hc)
  exact ⟨_, is, hevents, congrArg some hurl.symm, he⟩

/-- **A job for each group,** in order, and only the first one is compiled as the first.  So
the place of a job tells both its group and where its parameters come from. -/
theorem getElem?_jobsOf {isFirst : Bool} {gs : List Group} {jobs : List Job}
    (h : s.jobsOf isFirst gs = .ok jobs) :
    jobs.length = gs.length ∧ ∀ i g, gs[i]? = some g →
      ∃ job, jobs[i]? = some job ∧ s.jobOf (isFirst && decide (i = 0)) g = .ok job := by
  induction gs generalizing isFirst jobs with
  | nil =>
    obtain rfl := Except.ok.inj h
    exact ⟨rfl, fun i g hg => by cases hg⟩
  | cons g gs ih =>
    obtain ⟨job, rest, hjob, hrest, rfl⟩ := jobsOf_cons_eq_ok.1 h
    obtain ⟨hlength, hget⟩ := ih hrest
    refine ⟨congrArg Nat.succ hlength, fun i g' hg' => ?_⟩
    cases i with
    | zero =>
      obtain rfl := Option.some.inj hg'
      exact ⟨job, rfl, by rwa [decide_eq_true rfl, Bool.and_true]⟩
    | succ i =>
      obtain ⟨job', hi, hjob'⟩ := hget i g' hg'
      exact ⟨job', hi, by rwa [decide_eq_false (Nat.succ_ne_zero i), Bool.and_false]⟩

/-! ## Jobs and their connections -/

/-- **A job resolved from a connection:** it is what is compiled from its group with the
mode and the think-time settings of the connection that recorded the start of the group,
and it runs with the parameters of that connection, unless it is the first.  The options
of the connection are the first ones given with its base URL. -/
structure ResolvedFrom (s : Session) (es : List Endpoint) (index : Nat) (g : Group) (job : Job)
    (c : Connection) : Prop where
  mem : c ∈ s.connections
  options : es.find? (·.baseUrl == c.url) = some c.endpoint
  source : s.sourceOf g = some c
  origin : g.origin = some c.url
  first : ∃ i is, g.events = i :: is ∧ i.origin = some c.url ∧ i.event ∈ c.buffer
  thinkTime : g.thinkTime = some c.endpoint.thinkTime
  compiled : ∃ plain, RuleCompiler.compile s.keyNames c.endpoint.mode g = .ok plain ∧
    job = { plain with
      driverParameters := if index = 0 then [] else c.endpoint.driverParameters }

/-- **The job of a group with a source** is resolved from it: mode, think time and parameters
are those of the first options that were given with its base URL. -/
theorem ResolvedFrom.of_jobOf {es : List Endpoint} (hs : s.OpenedOn es) {g : Group}
    {c : Connection} (hmem : c ∈ s.connections) (hsource : s.sourceOf g = some c)
    (horigin : g.origin = some c.url)
    (hfirst : ∃ i is, g.events = i :: is ∧ i.origin = some c.url ∧ i.event ∈ c.buffer)
    {index : Nat} {job : Job} (hjob : s.jobOf (decide (index = 0)) g = .ok job) :
    s.ResolvedFrom es index (s.settled g) job c := by
  have hsettled : s.settled g = { g with thinkTime := some c.endpoint.thinkTime } := by
    rw [settled, hsource]
    rfl
  obtain ⟨plain, hplain, rfl⟩ := jobOf_eq_ok hjob
  rw [modeOf, hsource] at hplain
  have hfound : s.connection? c.url = some c := by
    rw [sourceOf, horigin] at hsource
    exact hsource
  refine ⟨hmem, hs.find?_eq_some hfound, hsource, horigin, hfirst, ?_, plain, hplain, ?_⟩
  · rw [hsettled]
  · rw [hsource]
    cases index with
    | zero =>
      -- What is compiled has no parameters yet.
      obtain ⟨rs, -, hrs⟩ := Outcome.bind_eq_ok.1 hplain
      obtain rfl := Except.ok.inj hrs
      rfl
    | succ index => rfl

/-- **Every job is resolved from the right connection.**  A document has one job for each
group, in order.  The source of every group and the connection that holds the earliest
event are found, whatever the options and the buffers, and every job is resolved from the
source of its group. -/
theorem jobs_resolved {es : List Endpoint} (hs : s.OpenedOn es) {a : Automation}
    {gs : List Group} {bs : Snapshots} (h : s.compile = .ok (.document a gs bs)) :
    (∃ primary ∈ s.connections, bs.earliestSource = some primary.url ∧
      s.connection? primary.url = some primary ∧
      s.primaryParameters = primary.endpoint.driverParameters ∧
      es.find? (·.baseUrl == primary.url) = some primary.endpoint) ∧
    a.jobs.length = gs.length ∧
    ∀ i g, gs[i]? = some g → ∃ job c, a.jobs[i]? = some job ∧ s.ResolvedFrom es i g job c := by
  obtain ⟨timeline, base, jobs, ht, hne, -, hjobs, ha, rfl, rfl⟩ := compile_eq_document h
  obtain ⟨primary, hmem, hsource, hfound⟩ := exists_primary hs.nodup_urls ht hne
  obtain ⟨hlength, hget⟩ := getElem?_jobsOf hjobs
  rw [Automation.jobs_assemble ha]
  refine ⟨⟨primary, hmem, hsource, hfound, primaryParameters_of_earliestSource hsource hfound,
    hs.find?_eq_some hfound⟩, by rw [hlength, List.length_map], fun i g hg => ?_⟩
  rw [List.getElem?_map] at hg
  obtain ⟨g, hi, rfl⟩ := Option.map_eq_some_iff.1 hg
  have hg := List.mem_of_getElem? hi
  obtain ⟨c, hc, hof, horigin⟩ := exists_sourceOf ht hg
  obtain ⟨job, hjob, hcompiled⟩ := hget i g hi
  exact ⟨job, c, hjob,
    .of_jobOf hs hc hof horigin (first_of_sourceOf hs.nodup_urls ht hg hof) hcompiled⟩

/-! ## Options given twice -/

/-- Options without a base URL. -/
def nameless : Endpoint :=
  { Endpoint.ofUrl "" with mode := .user32, driverParameters := [("driver", .str "A")] }

/-- Options of a second machine. -/
def other : Endpoint :=
  { Endpoint.ofUrl "http://b" with
    mode := .coordinate, driverParameters := [("driver", .str "B")] }

/-- Options without a base URL are given a second time, with another mode and another
driver. -/
def givenTwice : List Endpoint :=
  [nameless, { Endpoint.ofUrl "" with driverParameters := [("driver", .str "C")] }, other]

/-- A click on the second machine. -/
def clickOther (timestamp : Int) : Event := { clickAt timestamp with machine := "B" }

/-- The click on the other machine is the event of its message. -/
theorem decode?_clickOther (timestamp : Int) :
    Event.decode? (clickOther timestamp).encode = some (clickOther timestamp) :=
  Event.decode?_encode ⟨(isRead_clickAt timestamp).phase, (isRead_clickAt timestamp).button⟩

/-- A click on each of two machines; the later one arrives first. -/
def clickEach : Messages := [("http://b", (clickOther 2).encode), ("", (clickAt 1).encode)]

/-- A session that has taken in one click from each of two machines. -/
def twoMachines : Session := (ofEndpoints givenTwice (.obj [])).ingestAll clickEach

/-- The two clicks lie with the connections that they were sent to. -/
theorem twoMachines_eq : twoMachines =
    { connections := [{ endpoint := nameless, buffer := [clickAt 1] },
        { endpoint := other, buffer := [clickOther 2] }] } := by
  have hnameless : clickEach.eventsFor nameless.baseUrl = [clickAt 1] := by
    simp [Messages.eventsFor, clickEach, nameless, Endpoint.ofUrl, decode?_clickAt]
  have hother : clickEach.eventsFor other.baseUrl = [clickOther 2] := by
    simp [Messages.eventsFor, clickEach, other, Endpoint.ofUrl, decode?_clickOther]
  have hnew : ofEndpoints givenTwice (.obj []) =
      { connections := [{ endpoint := nameless }, { endpoint := other }] } := rfl
  rw [twoMachines, ingestAll_eq, hnew, List.map_cons, List.map_singleton, Connection.url,
    Connection.url, hnameless, hother]
  rfl

/-- The clicks are two groups, in the order of their timestamps. -/
theorem currentGroups_twoMachines : ∃ first second,
    twoMachines.currentGroups = .ok [first, second] ∧ first.origin = some "" ∧
      second.origin = some "http://b" := by
  have htagged : twoMachines.snapshots.tagged =
      [("", clickAt 1), ("http://b", clickOther 2)] := by
    rw [twoMachines_eq]
    rfl
  have hignored : twoMachines.ignored = [] := by rw [twoMachines_eq]
  have hother : (clickOther 2).survives [] = true := survives_clickAt 2
  have hsorted : [Interaction.ofTagged ("", clickAt 1),
      .ofTagged ("http://b", clickOther 2)].Pairwise fun i j => Snapshots.notLater i j = true := by
    decide
  have hmerge : twoMachines.snapshots.merge [] =
      .ok [.ofTagged ("", clickAt 1), .ofTagged ("http://b", clickOther 2)] := by
    rw [Snapshots.merge_nil, htagged, List.filter_eq_self.2 (by simp [survives_clickAt, hother])]
    exact congrArg Except.ok (List.mergeSort_of_pairwise hsorted)
  rw [currentGroups, hignored, hmerge]
  exact ⟨_, _, rfl, rfl, rfl⟩

/-- The two clicks are compiled to a document. -/
theorem exists_document_twoMachines : ∃ a gs bs, twoMachines.compile = .ok (.document a gs bs) := by
  rw [twoMachines_eq]
  refine exists_document_of_canCopy rfl rfl usable_nil Fields.canCopy_nil Fields.canCopy_nil
    ⟨_, List.mem_cons_self, clickAt 1, List.mem_cons_self, survives_clickAt 1⟩ fun c hc => ?_
  rcases List.mem_cons.1 hc with rfl | hc
  · exact ⟨rfl, canCopy_driver "A"⟩
  · obtain rfl := List.mem_singleton.1 hc
    exact ⟨rfl, canCopy_driver "B"⟩

/-- **The first options count:** of two drivers given without a base URL the document has
the first, and the second machine has its own. -/
theorem jobs_resolved_twoMachines :
    ∃ a g g' bs job job', twoMachines.compile = .ok (.document a [g, g'] bs) ∧
      a.jobs = [job, job'] ∧ bs.earliestSource = some "" ∧
      twoMachines.primaryParameters = [("driver", .str "A")] ∧
      twoMachines.ResolvedFrom givenTwice 0 g job { endpoint := nameless, buffer := [clickAt 1] } ∧
      twoMachines.ResolvedFrom givenTwice 1 g' job' { endpoint := other, buffer := [clickOther 2] } := by
  obtain ⟨a, gs, bs, h⟩ := exists_document_twoMachines
  obtain ⟨first, second, hgroups, hfirst, hsecond⟩ := currentGroups_twoMachines
  have hs : twoMachines.OpenedOn givenTwice :=
    (openedOn_ofEndpoints givenTwice (.obj [])).ingestAll clickEach
  obtain ⟨⟨primary, -, hprimary, -, hparameters, hoptions⟩, hlength, hget⟩ := jobs_resolved hs h
  obtain ⟨timeline, -, -, ht, -, -, -, -, rfl, rfl⟩ := compile_eq_document h
  rw [currentGroups, ht] at hgroups
  have hseg : Group.segment timeline = [first, second] := Except.ok.inj hgroups
  rw [hseg, List.map_cons, List.map_singleton] at h hlength hget
  have hsource : twoMachines.snapshots.earliestSource = some "" := by
    rw [twoMachines_eq]
    rfl
  have hnameless : twoMachines.sourceOf first =
      some { endpoint := nameless, buffer := [clickAt 1] } := by
    rw [sourceOf, hfirst, twoMachines_eq]
    rfl
  have hother : twoMachines.sourceOf second =
      some { endpoint := other, buffer := [clickOther 2] } := by
    rw [sourceOf, hsecond, twoMachines_eq]
    rfl
  have hdriver : primary.endpoint.driverParameters = [("driver", .str "A")] := by
    rw [← Option.some.inj (hsource.symm.trans hprimary)] at hoptions
    rw [← Option.some.inj hoptions]
    rfl
  obtain ⟨job, c, hjob, hc⟩ := hget 0 _ rfl
  obtain ⟨job', c', hjob', hc'⟩ := hget 1 _ rfl
  obtain rfl := Option.some.inj (hnameless.symm.trans hc.source)
  obtain rfl := Option.some.inj (hother.symm.trans hc'.source)
  have hjobs : a.jobs = [job, job'] := by
    obtain ⟨x, y, hxy⟩ := List.length_eq_two.1 hlength
    rw [hxy] at hjob hjob' ⊢
    rw [Option.some.inj hjob, Option.some.inj hjob']
  exact ⟨a, _, _, _, job, job', h, hjobs, hsource, hparameters.trans hdriver, hc, hc'⟩

end Session
end Recorder
