/-
# When the order of arrival does not matter

`SPEC_FULL.md` §4, `merge` and `earliest_source`, without ties.

As long as no two events share a timestamp, the merged timeline and the endpoint of the
earliest event depend on which events the endpoints hold, and on neither the order of the
endpoints nor the order of arrival (`Snapshots.merge_eq_of_perm`,
`Snapshots.earliestSource_eq_of_perm`).

A stable sort of two arrangements of the same elements differs only where keys are equal,
and here no two are.
-/

import Mathlib.Data.List.Nodup
import Recorder.Proofs.Timeline.Sources

namespace Recorder

variable {α : Type} {key : α → Int}

/-- **Sorting by a key forgets the order** of a list whose keys differ.  With equal keys it
would not, as the sort is stable. -/
theorem mergeSort_eq_of_perm {l l' : List α} (h : l.Perm l') (hn : (l.map key).Nodup) :
    (l.mergeSort fun a b => decide (key a ≤ key b)) =
      l'.mergeSort fun a b => decide (key a ≤ key b) := by
  have hperm : (l.mergeSort fun a b => decide (key a ≤ key b)).Perm
      (l'.mergeSort fun a b => decide (key a ≤ key b)) :=
    (List.mergeSort_perm l _).trans (h.trans (List.mergeSort_perm l' _).symm)
  refine hperm.eq_of_pairwise (fun a b ha hb hab hba => ?_) (pairwise_mergeSort_key key l)
    (pairwise_mergeSort_key key l')
  have ha' : a ∈ l := List.mem_mergeSort.1 ha
  have hb' : b ∈ l := h.mem_iff.2 (List.mem_mergeSort.1 hb)
  exact List.inj_on_of_nodup_map hn ha' hb' (Int.le_antisymm hab hba)

/-- **The first of the least** of a list whose keys differ does not depend on its order, since
only one element has the least key. -/
theorem IsFirst.eq_of_perm {l l' : List α} {m m' : α} (h : IsFirst key l m)
    (h' : IsFirst key l' m') (hp : l.Perm l') (hn : (l.map key).Nodup) : m = m' := by
  have hmem : m' ∈ l := hp.mem_iff.2 h'.mem
  have hle : key m ≤ key m' := h.le hmem
  have hle' : key m' ≤ key m := h'.le (hp.mem_iff.1 h.mem)
  exact List.inj_on_of_nodup_map hn h.mem hmem (Int.le_antisymm hle hle')

namespace Snapshots

variable {xs ys : Snapshots}

/-- **The merged timeline** depends on which events the endpoints hold and not on their order,
neither that of the endpoints nor that within a buffer, as long as no two events have the same
timestamp. -/
theorem merge_eq_of_perm {patterns : List String} (hr : Surface.Readable patterns)
    (ht : xs.tagged.Perm ys.tagged) (hn : (xs.tagged.map time).Nodup) :
    merge patterns xs = merge patterns ys := by
  have htime : Interaction.timestamp ∘ Interaction.ofTagged = time := rfl
  have hkeys : (((xs.tagged.filter fun p => p.2.survives patterns).map
      Interaction.ofTagged).map Interaction.timestamp).Nodup := by
    rw [List.map_map, htime]
    exact (List.filter_sublist.map time).nodup hn
  rw [merge_of_readable hr, merge_of_readable hr]
  exact congrArg Except.ok
    (mergeSort_eq_of_perm ((ht.filter _).map Interaction.ofTagged) hkeys)

/-- **The endpoint of the earliest event** depends on which events the endpoints hold and
not on their order. -/
theorem earliestSource_eq_of_perm (hu : (xs.map Prod.fst).Perm (ys.map Prod.fst))
    (ht : xs.tagged.Perm ys.tagged) (hn : (xs.tagged.map time).Nodup) :
    xs.earliestSource = ys.earliestSource := by
  cases hx : xs.tagged with
  | nil =>
    -- Without events only a single endpoint is a source.
    have hy : ys.tagged = [] := List.nil_perm.1 (hx ▸ ht)
    have hlength := hu.length_eq
    match xs, ys with
    | [], [] => rfl
    | [(url, _)], [(url', _)] =>
      exact congrArg some (List.singleton_inj.1 (List.singleton_perm.1 hu))
    | _ :: _ :: _, _ :: _ :: _ =>
      exact congrArg (fun es => (es.foldl earlier none).map Prod.fst) (hx.trans hy.symm)
  | cons p ps =>
    have hp : p ∈ xs.tagged := hx ▸ List.mem_cons_self
    obtain ⟨m, hm⟩ : ∃ m, IsFirst time xs.tagged m := IsFirst.exists_of_mem hp
    obtain ⟨m', hm'⟩ : ∃ m, IsFirst time ys.tagged m := IsFirst.exists_of_mem (ht.mem_iff.1 hp)
    rw [earliestSource_of_isFirst hm, earliestSource_of_isFirst hm', hm.eq_of_perm hm' ht hn]

end Snapshots
end Recorder
