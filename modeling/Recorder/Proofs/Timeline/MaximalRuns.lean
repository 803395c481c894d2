/-
# The groups are the maximal runs

`SPEC_FULL.md` §4, `segment`: a new group whenever the machine differs from that of the
active one.

A cut of the timeline into machine runs (`Group.IsCut`) has parts that are not empty, each on
one machine and neighbours on different ones.  There is exactly one such cut, and the groups
are its parts, numbered from one (`Group.segment_maximal_runs`).

That there is no other cut is a fact about splitting lists by a relation between neighbours;
that the groups are such a cut is read off from how runs are formed.
-/

import Recorder.Proofs.Timeline.Segmentation

namespace Recorder
namespace Group

/-- Interactions of one machine. -/
def IsUniform (part : List Interaction) : Prop := ∃ machine, ∀ i ∈ part, i.machine = machine

/-- **A cut of a timeline into machine runs:** the parts make up the timeline, none is empty,
each has one machine, and neighbours have different ones.  Nothing is said of how it is found. -/
structure IsCut (timeline : List Interaction) (parts : List (List Interaction)) : Prop where
  flatten_eq : parts.flatten = timeline
  ne_nil : ∀ part ∈ parts, part ≠ []
  uniform : ∀ part ∈ parts, IsUniform part
  changes : parts.IsChain fun part next => ∀ i ∈ part, ∀ j ∈ next, i.machine ≠ j.machine

/-! ## One cut -/

/-- A part is of one machine just if no two neighbours in it are of different ones. -/
theorem isUniform_iff_isChain {part : List Interaction} :
    IsUniform part ↔ part.IsChain fun i j => sameMachine i j = true := by
  constructor
  · rintro ⟨machine, hall⟩
    refine (List.pairwise_of_forall_mem_list fun i hi j hj => ?_).isChain
    rw [sameMachine, hall i hi, hall j hj, beq_self_eq_true]
  · intro hchain
    induction part with
    | nil => exact ⟨"", List.forall_mem_nil _⟩
    | cons i part ih =>
      cases part with
      | nil => exact ⟨i.machine, List.forall_mem_singleton.2 rfl⟩
      | cons j part =>
        obtain ⟨hij, hrest⟩ := List.isChain_cons_cons.1 hchain
        obtain ⟨machine, hall⟩ := ih hrest
        have hj : j.machine = machine := hall j List.mem_cons_self
        exact ⟨machine, List.forall_mem_cons.2 ⟨(beq_iff_eq.1 hij).trans hj, hall⟩⟩

/-- Two parts are of different machines just if the last of one and the first of the other
are. -/
theorem forall_machine_ne_iff {part next : List Interaction} (hpart : part ≠ [])
    (hnext : next ≠ []) (hp : IsUniform part) (hn : IsUniform next) :
    (∀ i ∈ part, ∀ j ∈ next, i.machine ≠ j.machine) ↔
      ∃ hs ht, sameMachine (part.getLast hs) (next.head ht) = false := by
  obtain ⟨m, hm⟩ := hp
  obtain ⟨n, hn⟩ := hn
  have hlast : (part.getLast hpart).machine = m := hm _ (List.getLast_mem hpart)
  have hhead : (next.head hnext).machine = n := hn _ (List.head_mem hnext)
  constructor
  · intro h
    refine ⟨hpart, hnext, beq_eq_false_iff_ne.2 ?_⟩
    exact h _ (List.getLast_mem hpart) _ (List.head_mem hnext)
  · rintro ⟨hs, ht, hne⟩ i hi j hj
    have hmn := beq_eq_false_iff_ne.1 hne
    rw [hlast, hhead] at hmn
    rwa [hm i hi, hn j hj]

/-- **There is exactly one cut,** and the runs are its parts.  A part cannot end earlier, as
its neighbour would have the same machine, nor later, as it would have two. -/
theorem isCut_iff {timeline : List Interaction} {parts : List (List Interaction)} :
    IsCut timeline parts ↔ runs timeline = parts := by
  rw [runs, List.splitBy_eq_iff]
  constructor
  · intro h
    refine ⟨h.flatten_eq.symm, fun hnil => h.ne_nil [] hnil rfl, fun part hp => ?_, ?_⟩
    · exact isUniform_iff_isChain.1 (h.uniform part hp)
    · exact h.changes.imp_of_mem_imp fun part next hp hn => (forall_machine_ne_iff
        (h.ne_nil part hp) (h.ne_nil next hn) (h.uniform part hp) (h.uniform next hn)).1
  · rintro ⟨hflat, hnil, hchain, hchanges⟩
    have hne : ∀ part ∈ parts, part ≠ [] := fun part hp hempty => hnil (hempty ▸ hp)
    have huniform : ∀ part ∈ parts, IsUniform part := fun part hp =>
      isUniform_iff_isChain.2 (hchain part hp)
    refine ⟨hflat.symm, hne, huniform, ?_⟩
    exact hchanges.imp_of_mem_imp fun part next hp hn => (forall_machine_ne_iff
      (hne part hp) (hne next hn) (huniform part hp) (huniform next hn)).2

/-! ## Numbering -/

/-- The events of numbered groups are the runs they were made of, whatever the first number. -/
theorem map_events_ofRunsFrom {rs : List (List Interaction)} (h : ∀ r ∈ rs, r ≠ []) (id : Nat) :
    (ofRunsFrom id rs).map Group.events = rs := by
  induction rs generalizing id with
  | nil => rfl
  | cons r rs ih =>
    obtain ⟨hr, hrs⟩ := List.forall_mem_cons.1 h
    obtain ⟨i, is, rfl⟩ := List.exists_cons_of_ne_nil hr
    rw [ofRunsFrom, List.map_append, ih hrs]
    rfl

/-- **Groups are numbered** one after the other, so no two of them have the same number and
none is left out. -/
theorem map_id_ofRunsFrom {rs : List (List Interaction)} (h : ∀ r ∈ rs, r ≠ []) (id : Nat) :
    (ofRunsFrom id rs).map Group.id = List.range' id rs.length := by
  induction rs generalizing id with
  | nil => rfl
  | cons r rs ih =>
    obtain ⟨hr, hrs⟩ := List.forall_mem_cons.1 h
    obtain ⟨i, is, rfl⟩ := List.exists_cons_of_ne_nil hr
    rw [ofRunsFrom, List.map_append, ih hrs, List.length_cons, List.range'_succ]
    rfl

/-- **The groups are the maximal machine runs.**  Their interactions are the only cut of the
timeline into runs of one machine each, neighbours being of different ones.  They are numbered
from one, and each has the machine of all its interactions and the endpoint that recorded its
first. -/
theorem segment_maximal_runs (timeline : List Interaction) :
    (∀ parts, IsCut timeline parts ↔ parts = (segment timeline).map Group.events) ∧
      (segment timeline).map Group.id = List.range' 1 (segment timeline).length ∧
      (∀ g ∈ segment timeline, ∃ first rest, g.events = first :: rest ∧
        g.origin = first.origin ∧ ∀ i ∈ g.events, i.machine = g.machine) ∧
      (segment timeline).IsChain fun g next => g.machine ≠ next.machine := by
  have hcut : IsCut timeline (runs timeline) := isCut_iff.2 rfl
  have hevents : (segment timeline).map Group.events = runs timeline :=
    map_events_ofRunsFrom hcut.ne_nil 1
  have hlength : (segment timeline).length = (runs timeline).length := by
    rw [← hevents, List.length_map]
  have hfirst {g : Group} (hg : g ∈ segment timeline) : ∃ first rest, g.events = first :: rest ∧
      g.origin = first.origin ∧ ∀ i ∈ g.events, i.machine = g.machine := by
    obtain ⟨first, rest, hcons, hmachine, horigin⟩ := exists_first_of_mem_ofRunsFrom hg
    obtain ⟨machine, hall⟩ := hcut.uniform g.events (hevents ▸ List.mem_map_of_mem hg)
    refine ⟨first, rest, hcons, horigin, fun i hi => ?_⟩
    have hmem : first ∈ g.events := hcons ▸ List.mem_cons_self
    rw [hmachine, hall i hi, hall first hmem]
  refine ⟨fun parts => ?_, ?_, fun g hg => hfirst hg, ?_⟩
  · rw [isCut_iff, hevents, eq_comm]
  · rw [hlength]
    exact map_id_ofRunsFrom hcut.ne_nil 1
  · have hchanges := hcut.changes
    rw [← hevents, List.isChain_map] at hchanges
    refine hchanges.imp_of_mem_imp fun g next hg hnext hne => ?_
    obtain ⟨i, is, hi, -, hgm⟩ := hfirst hg
    obtain ⟨j, js, hj, -, hnm⟩ := hfirst hnext
    have hig : i ∈ g.events := hi ▸ List.mem_cons_self
    have hjn : j ∈ next.events := hj ▸ List.mem_cons_self
    rw [← hgm i hig, ← hnm j hjn]
    exact hne i hig j hjn

end Group
end Recorder
