/-
# Pauses that are put in twice

`SPEC_FULL.md` §5, `apply_think_time`, given what it has returned.

A pause that has been put between two rules keeps them apart, and it has no timestamp, so
no other pause belongs beside it.  Two rules that got no pause are the neighbours they were
before.  So once pauses are put in, nothing belongs between any two neighbours
(`Pause.isChain_settled_of_insert`), and putting the same pauses in again leaves all as it is
(`Pause.insert_idempotent`).
-/

import Mathlib.Data.List.Chain
import Recorder.Proofs.Automation.Spacing

namespace Recorder
namespace Pause

variable {least most : Int} {r s : Rule} {rs out : List Rule}

/-- **Neighbours that have settled:** one of them has no timestamp, or both timestamps are in
range and no more than the least gap apart. -/
def Settled (least : Int) (r s : Rule) : Prop :=
  ∀ t u, r.timestamp = some t → s.timestamp = some u →
    t.natAbs < Double.rangeEnd ∧ u.natAbs < Double.rangeEnd ∧ u - t ≤ least

/-- A rule without a timestamp has settled with every neighbour. -/
theorem settled_of_none (h : r.timestamp = none ∨ s.timestamp = none) : Settled least r s := by
  intro t u ht hu
  rcases h with h | h
  · rw [h] at ht
    cases ht
  · rw [h] at hu
    cases hu

/-- Rules with timestamps have settled just if these are in range and close enough. -/
theorem settled_iff {t u : Int} (hr : r.timestamp = some t) (hs : s.timestamp = some u) :
    Settled least r s ↔
      t.natAbs < Double.rangeEnd ∧ u.natAbs < Double.rangeEnd ∧ u - t ≤ least := by
  constructor
  · intro h
    exact h t u hr hs
  · intro h t' u' hr' hs'
    obtain rfl := Option.some.inj (hr.symm.trans hr')
    obtain rfl := Option.some.inj (hs.symm.trans hs')
    exact h

/-- **Nothing comes between two rules** just if they have settled.  That the timestamps are in
range belongs to it: a pair out of range has an error between its rules, which is not the same
as nothing. -/
theorem between_eq_ok_none_iff : between least most r s = .ok none ↔ Settled least r s := by
  cases hr : r.timestamp with
  | none => exact iff_of_true (between_of_none (.inl hr) least most) (settled_of_none (.inl hr))
  | some t =>
    cases hs : s.timestamp with
    | none => exact iff_of_true (between_of_none (.inr hs) least most) (settled_of_none (.inr hs))
    | some u =>
      rw [settled_iff hr hs]
      by_cases hrange : Double.rangeEnd ≤ t.natAbs ∨ Double.rangeEnd ≤ u.natAbs
      · rw [between_of_le hr hs hrange]
        exact iff_of_false (fun h => by cases h) (by omega)
      · obtain ⟨ht, hu⟩ := not_or.1 hrange
        rw [between_eq hr hs, inRange_of_lt (Nat.not_le.1 ht), Outcome.ok_bind,
          inRange_of_lt (Nat.not_le.1 hu), Outcome.ok_bind]
        by_cases hgap : least < u - t
        · -- A gap that is too long is never left alone, even if its pause cannot be shown.
          rw [if_pos hgap]
          refine iff_of_false (fun h => ?_) (by omega)
          obtain ⟨_, -, hsome⟩ := Outcome.map_eq_ok.1 h
          cases hsome
        · rw [if_neg hgap]
          exact iff_of_true rfl (by omega)

/-- The first rule stays the first, so what comes before it has the same neighbour as before. -/
theorem exists_cons_of_insert (h : insert least most (r :: rs) = .ok out) :
    ∃ tail, out = r :: tail := by
  cases rs with
  | nil => exact ⟨[], (Except.ok.inj h).symm⟩
  | cons s rest =>
    obtain ⟨pause, tail, -, -, rfl⟩ := insert_cons_eq_ok.1 h
    exact ⟨pause.toList ++ tail, rfl⟩

/-- **Once pauses are put in,** all neighbours have settled.  A pause has no timestamp, so it
has settled with the rules on both sides, and where none was put in the two rules had settled
before. -/
theorem isChain_settled_of_insert (h : insert least most rs = .ok out) :
    out.IsChain (Settled least) := by
  induction rs generalizing out with
  | nil =>
    obtain rfl := Except.ok.inj h
    exact .nil
  | cons r rs ih =>
    cases rs with
    | nil =>
      obtain rfl := Except.ok.inj h
      exact .singleton r
    | cons s rest =>
      obtain ⟨pause, tail, hpause, htail, rfl⟩ := insert_cons_eq_ok.1 h
      have hchain := ih htail
      obtain ⟨later, rfl⟩ := exists_cons_of_insert htail
      rcases between_eq_ok hpause with rfl | ⟨t, u, -, -, -, rfl⟩
      · exact .cons_cons (between_eq_ok_none_iff.1 hpause) hchain
      · -- The pause stands between the two and has no timestamp.
        have hnone (duration : Int) : (rule duration).timestamp = none := rfl
        exact .cons_cons (settled_of_none (.inr (hnone _)))
          (.cons_cons (settled_of_none (.inl (hnone _))) hchain)

/-- **Rules that have settled** are left alone: nothing comes between any two neighbours, and
so the rules are their own result. -/
theorem insert_of_settled (h : rs.IsChain (Settled least)) : insert least most rs = .ok rs := by
  induction rs with
  | nil => rfl
  | cons r rs ih =>
    cases rs with
    | nil => rfl
    | cons s rest =>
      obtain ⟨hsettled, hrest⟩ := List.isChain_cons_cons.1 h
      exact insert_cons_eq_ok.2 ⟨none, _, between_eq_ok_none_iff.2 hsettled, ih hrest, rfl⟩

/-- **Putting pauses in twice.**  Where pauses can be put between rules at all, all neighbours
have settled afterwards, and putting the same pauses in again succeeds and changes nothing. -/
theorem insert_idempotent (h : insert least most rs = .ok out) :
    out.IsChain (Settled least) ∧ insert least most out = .ok out := by
  have hsettled := isChain_settled_of_insert h
  exact ⟨hsettled, insert_of_settled hsettled⟩

/-- A long gap, a wait that was there before, a step back in time, and the end of the session. -/
theorem insert_idempotent_waiting :
    insert 1000 5000 [ruleAt 0, ruleAt 9000, rule 70, ruleAt 20, Rule.close] =
      .ok [ruleAt 0, rule 5000, ruleAt 9000, rule 70, ruleAt 20, Rule.close] ∧
    insert 1000 5000 [ruleAt 0, rule 5000, ruleAt 9000, rule 70, ruleAt 20, Rule.close] =
      .ok [ruleAt 0, rule 5000, ruleAt 9000, rule 70, ruleAt 20, Rule.close] := by
  have hrange (t : Nat) (ht : t ≤ 9000) : (ruleAt t).InRange := by
    intro u hu
    obtain rfl := Option.some.inj hu
    have hlarge : 9000 < Double.rangeEnd := by decide +kernel
    exact Nat.lt_of_le_of_lt ht hlarge
  have hfirst : Fits (ruleAt 0) (ruleAt 9000) :=
    fun _ _ => ⟨hrange 0 (by decide), hrange 9000 (by decide)⟩
  have hwait (r : Rule) : Fits r (rule 70) := fun _ h => absurd h Bool.false_ne_true
  have hwait' (s : Rule) : Fits (rule 70) s := fun h => absurd h Bool.false_ne_true
  have hclose (r : Rule) : Fits r Rule.close := fun _ h => absurd h Bool.false_ne_true
  have honce : insert 1000 5000 [ruleAt 0, ruleAt 9000, rule 70, ruleAt 20, Rule.close] =
      .ok [ruleAt 0, rule 5000, ruleAt 9000, rule 70, ruleAt 20, Rule.close] :=
    insert_of_isChain (by decide) (by decide) (.cons_cons hfirst (.cons_cons (hwait _)
      (.cons_cons (hwait' _) (.cons_cons (hclose _) (.singleton _)))))
  exact ⟨honce, (insert_idempotent honce).2⟩

end Pause
end Recorder
