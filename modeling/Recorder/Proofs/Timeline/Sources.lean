/-
# Which endpoint comes first

`SPEC_FULL.md` §4, `earliest_source` over the raw buffers, and `merge` over what survives.

The endpoint of the earliest raw event and the endpoint of the first interaction are both
the first of the least timestamps of a list (`IsFirst`): one of all events, the other of
the surviving ones.  They differ just if an event that is dropped comes before all events
of the endpoint that recorded the first interaction
(`Snapshots.earliestSource_eq_some_iff`).
-/

import Recorder.Proofs.Timeline.Survivors

namespace Recorder

variable {α : Type} {key : α → Int}

/-! ## Sorting by a key -/

/-- Comparing keys is transitive, as sorting asks for it. -/
theorem keyLe_trans (key : α → Int) (a b c : α) (hab : decide (key a ≤ key b) = true)
    (hbc : decide (key b ≤ key c) = true) : decide (key a ≤ key c) = true :=
  decide_eq_true (Int.le_trans (of_decide_eq_true hab) (of_decide_eq_true hbc))

theorem keyLe_total (key : α → Int) (a b : α) :
    (decide (key a ≤ key b) || decide (key b ≤ key a)) = true := by
  simpa using Int.le_total (key a) (key b)

/-- What is sorted by a key is in its order. -/
theorem pairwise_mergeSort_key (key : α → Int) (l : List α) :
    (l.mergeSort fun a b => decide (key a ≤ key b)).Pairwise fun a b => key a ≤ key b :=
  (List.pairwise_mergeSort (keyLe_trans key) (keyLe_total key) l).imp of_decide_eq_true

/-! ## The first of the least -/

/-- **The first of the least:** what comes before it is greater, and what comes after it
is not less. -/
def IsFirst (key : α → Int) (l : List α) (m : α) : Prop :=
  ∃ before after, l = before ++ m :: after ∧ (∀ x ∈ before, key m < key x) ∧
    ∀ y ∈ after, key m ≤ key y

namespace IsFirst

theorem mem {l : List α} {m : α} (h : IsFirst key l m) : m ∈ l := by
  obtain ⟨before, after, rfl, -, -⟩ := h
  exact List.mem_append_right before List.mem_cons_self

theorem le {l : List α} {m x : α} (h : IsFirst key l m) (hx : x ∈ l) : key m ≤ key x := by
  obtain ⟨before, after, rfl, hbefore, hafter⟩ := h
  rcases List.mem_append.1 hx with hx | hx
  · exact Int.le_of_lt (hbefore x hx)
  · rcases List.mem_cons.1 hx with rfl | hx
    · exact Int.le_refl _
    · exact hafter x hx

/-- The first of the least of two lists in a row. -/
theorem append_iff {l l' : List α} {m : α} : IsFirst key (l ++ l') m ↔
    (IsFirst key l m ∧ ∀ y ∈ l', key m ≤ key y) ∨
      IsFirst key l' m ∧ ∀ x ∈ l, key m < key x := by
  constructor
  · rintro ⟨before, after, h, hbefore, hafter⟩
    -- The split falls into the first list or into the second.
    rcases List.append_eq_append_iff.1 h with ⟨xs, rfl, rfl⟩ | ⟨xs, rfl, hxs⟩
    · refine .inr ⟨⟨xs, after, rfl, fun x hx => ?_, hafter⟩, fun x hx => ?_⟩
      · exact hbefore x (List.mem_append_right _ hx)
      · exact hbefore x (List.mem_append_left _ hx)
    · cases xs with
      | nil =>
        rw [List.nil_append] at hxs
        subst hxs
        refine .inr ⟨⟨[], after, rfl, List.forall_mem_nil _, hafter⟩, fun x hx => ?_⟩
        exact hbefore x (by rwa [List.append_nil] at hx)
      | cons x xs =>
        obtain ⟨rfl, rfl⟩ := List.cons.inj hxs
        refine .inl ⟨⟨before, xs, rfl, hbefore, fun y hy => ?_⟩, fun y hy => ?_⟩
        · exact hafter y (List.mem_append_left _ hy)
        · exact hafter y (List.mem_append_right _ hy)
  · rintro (⟨⟨before, after, rfl, hbefore, hafter⟩, hl'⟩ | ⟨⟨before, after, rfl, hbefore, hafter⟩, hl⟩)
    · refine ⟨before, after ++ l', by simp, hbefore, fun y hy => ?_⟩
      rcases List.mem_append.1 hy with hy | hy
      · exact hafter y hy
      · exact hl' y hy
    · refine ⟨l ++ before, after, by simp, fun x hx => ?_, hafter⟩
      rcases List.mem_append.1 hx with hx | hx
      · exact hl x hx
      · exact hbefore x hx

/-- A single element is the first least one. -/
theorem singleton_iff {a m : α} : IsFirst key [a] m ↔ m = a := by
  constructor
  · rintro h
    exact List.mem_singleton.1 h.mem
  · rintro rfl
    exact ⟨[], [], rfl, List.forall_mem_nil _, List.forall_mem_nil _⟩

/-- With one more element in front, the first least one is that element, unless all that come
after have one strictly below it; a tie goes to the element in front. -/
theorem cons_iff {a : α} {l : List α} {m : α} : IsFirst key (a :: l) m ↔
    (m = a ∧ ∀ y ∈ l, key m ≤ key y) ∨ IsFirst key l m ∧ key m < key a := by
  rw [← List.singleton_append, append_iff, singleton_iff, List.forall_mem_singleton]

/-- **There is only one first:** of two, neither can stand before the other, as what comes
before the first is greater. -/
theorem unique {l : List α} {m m' : α} (h : IsFirst key l m) (h' : IsFirst key l m') : m = m' := by
  induction l with
  | nil => exact absurd h.mem List.not_mem_nil
  | cons a l ih =>
    rcases cons_iff.1 h with ⟨rfl, hle⟩ | ⟨hl, hlt⟩
    · rcases cons_iff.1 h' with ⟨rfl, -⟩ | ⟨hl', hlt'⟩
      · rfl
      · exact absurd (hle m' hl'.mem) (Int.not_le.2 hlt')
    · rcases cons_iff.1 h' with ⟨rfl, hle'⟩ | ⟨hl', -⟩
      · exact absurd (hle' m hl.mem) (Int.not_le.2 hlt)
      · exact ih hl hl'

/-- The first of the least is that of any part it belongs to. -/
theorem filter {l : List α} {m : α} {p : α → Bool} (h : IsFirst key l m) (hm : p m = true) :
    IsFirst key (l.filter p) m := by
  obtain ⟨before, after, rfl, hbefore, hafter⟩ := h
  refine ⟨before.filter p, after.filter p, by simp [hm], fun x hx => ?_, fun y hy => ?_⟩
  · exact hbefore x ((List.mem_filter.1 hx).1)
  · exact hafter y ((List.mem_filter.1 hy).1)

/-- **A stable sort puts the first of the least in front,** which is more than that its head
is least: of equal keys the one that came first wins. -/
theorem of_mergeSort {l : List α} {m : α} {rest : List α}
    (h : l.mergeSort (fun a b => decide (key a ≤ key b)) = m :: rest) : IsFirst key l m := by
  induction l generalizing m rest with
  | nil =>
    rw [List.mergeSort_nil] at h
    cases h
  | cons a l ih =>
    obtain ⟨l₁, l₂, hcons, hl, hlt⟩ := List.mergeSort_cons (keyLe_trans key) (keyLe_total key) a l
    rw [cons_iff]
    cases l₁ with
    | nil =>
      -- Nothing is sorted in front of the first element, so it is the least.
      obtain ⟨rfl, rfl⟩ := List.cons.inj (hcons.symm.trans h)
      have hsorted := pairwise_mergeSort_key key (a :: l)
      rw [hcons, List.nil_append, List.pairwise_cons] at hsorted
      refine .inl ⟨rfl, fun y hy => hsorted.1 y ?_⟩
      rw [List.nil_append] at hl
      rw [← hl]
      exact List.mem_mergeSort.2 hy
    | cons b l₁ =>
      obtain ⟨rfl, -⟩ := List.cons.inj (hcons.symm.trans h)
      refine .inr ⟨ih hl, ?_⟩
      simpa using hlt b List.mem_cons_self

/-- A list with elements has a first of the least. -/
theorem exists_of_mem {l : List α} {a : α} (ha : a ∈ l) : ∃ m, IsFirst key l m := by
  cases hs : l.mergeSort fun a b => decide (key a ≤ key b) with
  | nil =>
    have hmem : a ∈ l.mergeSort fun a b => decide (key a ≤ key b) := List.mem_mergeSort.2 ha
    rw [hs] at hmem
    exact absurd hmem List.not_mem_nil
  | cons m rest => exact ⟨m, of_mergeSort hs⟩

end IsFirst

namespace Snapshots

/-- The time of a tagged event. -/
def time (p : String × Event) : Int := p.2.timestamp

/-- Looking for the earliest event keeps the first of the least. -/
theorem foldl_earlier {p m : String × Event} {l : List (String × Event)}
    (h : IsFirst time (p :: l) m) :
    l.foldl earlier (some (p.1, p.2.timestamp)) = some (m.1, m.2.timestamp) := by
  induction l generalizing p with
  | nil =>
    obtain rfl := IsFirst.singleton_iff.1 h
    rfl
  | cons q l ih =>
    have hstep : earlier (some (p.1, p.2.timestamp)) q =
        if time q < time p then some (q.1, q.2.timestamp) else some (p.1, p.2.timestamp) := rfl
    rw [List.foldl_cons, hstep]
    rw [IsFirst.cons_iff, IsFirst.cons_iff, List.forall_mem_cons] at h
    by_cases hlt : time q < time p
    · rw [if_pos hlt]
      refine ih (IsFirst.cons_iff.2 ?_)
      rcases h with ⟨rfl, hle, -⟩ | ⟨h, -⟩
      · exact absurd hle (Int.not_le.2 hlt)
      · exact h
    · rw [if_neg hlt]
      refine ih (IsFirst.cons_iff.2 ?_)
      rcases h with ⟨rfl, -, hle⟩ | ⟨⟨rfl, -⟩ | ⟨h, -⟩, hp⟩
      · exact .inl ⟨rfl, hle⟩
      · exact absurd hp hlt
      · exact .inr ⟨h, hp⟩

/-- **The earliest source** is the endpoint of the first of all events, whether or not it
survives (`SPEC_FULL.md` §4, `earliest_source`). -/
theorem earliestSource_of_isFirst {snapshots : Snapshots} {m : String × Event}
    (h : IsFirst time snapshots.tagged m) : snapshots.earliestSource = some m.1 := by
  unfold earliestSource
  split
  · rename_i url es
    -- The only endpoint is that of every event.
    have hm : m ∈ es.map (url, ·) := by simpa [tagged] using h.mem
    obtain ⟨e, -, rfl⟩ := List.mem_map.1 hm
    rfl
  · cases ht : snapshots.tagged with
    | nil =>
      rw [ht] at h
      exact absurd h.mem List.not_mem_nil
    | cons p l =>
      rw [ht] at h
      have hfold := foldl_earlier h
      rw [List.foldl_cons]
      exact congrArg (Option.map Prod.fst) hfold

/-- **The timeline begins** with the first of the surviving events, in the order of the
buffers and of the events in each. -/
theorem isFirst_of_merge {patterns : List String} {snapshots : Snapshots} {i : Interaction}
    {rest : List Interaction} (h : merge patterns snapshots = .ok (i :: rest)) :
    ∃ p, IsFirst time (snapshots.tagged.filter fun p => p.2.survives patterns) p ∧
      i = .ofTagged p := by
  have horder : ∀ p q : String × Event,
      decide (time p ≤ time q) = notLater (.ofTagged p) (.ofTagged q) := fun _ _ => rfl
  have hmerge := merge_eq_ok h
  rw [← List.map_mergeSort fun p _ q _ => horder p q] at hmerge
  obtain ⟨p, ps, hsorted, hp, -⟩ := List.map_eq_cons_iff.1 hmerge.symm
  exact ⟨p, IsFirst.of_mergeSort hsorted, hp.symm⟩

/-- Snapshots in a row have their raw events in a row. -/
theorem tagged_append (xs ys : Snapshots) : tagged (xs ++ ys) = xs.tagged ++ ys.tagged :=
  List.flatMap_append

/-- A raw event lies in one of the snapshots, under the base URL of that snapshot. -/
theorem mem_tagged {snapshots : Snapshots} {p : String × Event} :
    p ∈ snapshots.tagged ↔ ∃ d ∈ snapshots, p.1 = d.1 ∧ p.2 ∈ d.2 := by
  constructor
  · intro h
    obtain ⟨⟨url, es⟩, hd, hp⟩ := List.mem_flatMap.1 h
    obtain ⟨e, he, rfl⟩ := List.mem_map.1 hp
    exact ⟨(url, es), hd, rfl, he⟩
  · rintro ⟨⟨url, es⟩, hd, hp, he⟩
    refine List.mem_flatMap.2 ⟨(url, es), hd, List.mem_map.2 ⟨p.2, he, ?_⟩⟩
    rw [← show p.1 = url from hp]

/-- **When the earliest source recorded the first interaction:** just if no dropped event
of another endpoint comes before all of its own.  At equal times the endpoint in front
comes first. -/
theorem earliestSource_eq_some_iff {patterns : List String} {before after : Snapshots}
    {url : String} {es : List Event} (hbefore : ∀ d ∈ before, d.1 ≠ url)
    (hafter : ∀ d ∈ after, d.1 ≠ url) {p : String × Event} (hp : p.1 = url)
    (hfirst : IsFirst time
      ((before ++ (url, es) :: after).tagged.filter fun q => q.2.survives patterns) p) :
    (before ++ (url, es) :: after).earliestSource = some url ↔
      (∀ d ∈ before, ∀ e ∈ d.2, e.survives patterns = false →
        ∃ own ∈ es, own.timestamp < e.timestamp) ∧
      ∀ d ∈ after, ∀ e ∈ d.2, e.survives patterns = false →
        ∃ own ∈ es, own.timestamp ≤ e.timestamp := by
  have htagged : (before ++ (url, es) :: after).tagged =
      before.tagged ++ (es.map (url, ·) ++ after.tagged) := by
    rw [← List.singleton_append, tagged_append, tagged_append]
    simp [tagged]
  -- Some event comes first of all, since there is one.
  obtain ⟨m, hm⟩ : ∃ m, IsFirst time (before ++ (url, es) :: after).tagged m :=
    IsFirst.exists_of_mem (List.mem_filter.1 hfirst.mem).1
  have hown {q : String × Event} (hq : q ∈ es.map (url, ·)) : q.1 = url ∧ q.2 ∈ es := by
    obtain ⟨e, he, rfl⟩ := List.mem_map.1 hq
    exact ⟨rfl, he⟩
  -- If it is another endpoint's, it is dropped.
  have hdropped (hne : m.1 ≠ url) : m.2.survives patterns = false := by
    cases hs : m.2.survives patterns with
    | false => rfl
    | true =>
      obtain rfl := (IsFirst.filter (p := fun q => q.2.survives patterns) hm hs).unique hfirst
      exact absurd hp hne
  rw [earliestSource_of_isFirst hm, Option.some.injEq]
  have hcases := hm
  rw [htagged, IsFirst.append_iff, IsFirst.append_iff] at hcases
  rcases hcases with ⟨hmem, hle⟩ | ⟨⟨hmem, hle⟩ | ⟨hmem, hlt⟩, hlt'⟩
  · -- It is an event of an endpoint before.
    obtain ⟨d, hd, hurl, he⟩ := mem_tagged.1 hmem.mem
    have hne : m.1 ≠ url := hurl ▸ hbefore d hd
    refine iff_of_false hne fun hall => ?_
    obtain ⟨own, ho, hot⟩ := hall.1 d hd m.2 he (hdropped hne)
    have hmin := hle (url, own) (List.mem_append_left _ (List.mem_map.2 ⟨own, ho, rfl⟩))
    exact Int.not_le.2 hot hmin
  · -- It is an event of the endpoint itself.
    obtain ⟨hurl, he⟩ := hown hmem.mem
    refine iff_of_true hurl ⟨fun d hd e hde _ => ⟨m.2, he, ?_⟩, fun d hd e hde _ => ⟨m.2, he, ?_⟩⟩
    · exact hlt' (d.1, e) (mem_tagged.2 ⟨d, hd, rfl, hde⟩)
    · exact hle (d.1, e) (mem_tagged.2 ⟨d, hd, rfl, hde⟩)
  · -- It is an event of an endpoint behind.
    obtain ⟨d, hd, hurl, he⟩ := mem_tagged.1 hmem.mem
    have hne : m.1 ≠ url := hurl ▸ hafter d hd
    refine iff_of_false hne fun hall => ?_
    obtain ⟨own, ho, hot⟩ := hall.2 d hd m.2 he (hdropped hne)
    have hmin := hlt (url, own) (List.mem_map.2 ⟨own, ho, rfl⟩)
    exact Int.not_le.2 hmin hot

end Snapshots
end Recorder
