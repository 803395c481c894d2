/-
# Where the pauses are

`SPEC_FULL.md` §5, `apply_think_time`: between each adjacent pair with finite timestamps, a
wait if their distance is above the least one; fewer than two rules return a copy.

Putting pauses between rules has two outcomes (`Pause.insert_exact`).  It is an error just
if two neighbours with timestamps have one out of the range of binary64 numbers
(`Pause.Clash`).  Otherwise every rule stays, in order, and is followed by the pause for the
gap to the next one, or by nothing:

| the next rule | what follows |
| --- | --- |
| both have a timestamp, more than the least gap apart | one pause, of the gap up to the greatest one |
| no timestamp on either side, or no more than the least gap | nothing |
| there is none | nothing |
-/

import Mathlib.Data.List.Chain
import Recorder.Proofs.Automation.Pauses

namespace Recorder
namespace Pause

/-- The pause that belongs between two rules: one for the gap between their timestamps if that
is more than the least pause, cut to the greatest one, and none if a timestamp is missing
(`SPEC_FULL.md` §5, think time). -/
def pause? (least most : Int) (r s : Rule) : Option Rule :=
  match r.timestamp, s.timestamp with
  | some t, some u => if least < u - t then some (rule (min (u - t) most)) else none
  | _, _ => none

/-- What belongs between each rule and the next one. -/
def pauses (least most : Int) (rs : List Rule) : List (Option Rule) :=
  List.zipWith (pause? least most) rs rs.tail

/-- **Rules with their pauses:** each rule, and what belongs between it and the next one.  The
last rule is followed by nothing. -/
def spaced (least most : Int) (rs : List Rule) : List Rule :=
  (rs.zip (pauses least most rs ++ [none])).flatMap fun (r, pause) => r :: pause.toList

/-- Two rules with timestamps of which one is out of the range of binary64 numbers. -/
def Clash (r s : Rule) : Prop :=
  ∃ t u, r.timestamp = some t ∧ s.timestamp = some u ∧
    (Double.rangeEnd ≤ t.natAbs ∨ Double.rangeEnd ≤ u.natAbs)

/-- **What a pause looks like** to the engine: it waits for so many milliseconds, and belongs
to no moment and to no element. -/
structure IsPause (duration : Int) (r : Rule) : Prop where
  plugin : r.plugin.name = "WaitFlow"
  argument : r.argument = some ("\x7b\x7b$ --Timeout:" ++ toString duration ++ "\x7d\x7d")
  context : r.context = none
  onElement : r.onElement = none

/-- The rule that is put in for a pause is one of just that length: it names no element and
stands for no moment of the recording. -/
theorem isPause_rule (duration : Int) : IsPause duration (rule duration) where
  plugin := rfl
  argument := by
    have htext : (rule duration).argument =
        some (Parameters.text [("Timeout", .int duration)]) := rfl
    rw [htext, Option.some.injEq, ← String.toList_inj]
    simp [Parameters.text, Parameters.itemText, Parameters.valueText, Json.display, Json.inspect]
  context := rfl
  onElement := rfl

/-- Rules fit together just if they do not clash. -/
theorem fits_iff_not_clash {r s : Rule} : Fits r s ↔ ¬ Clash r s := by
  constructor
  · rintro hfits ⟨t, u, hr, hs, h⟩
    obtain ⟨hrange, hrange'⟩ := hfits (by rw [hr]; rfl) (by rw [hs]; rfl)
    rcases h with h | h
    · exact Nat.not_le.2 (hrange t hr) h
    · exact Nat.not_le.2 (hrange' u hs) h
  · intro h ht hu
    obtain ⟨t, hr⟩ := Option.isSome_iff_exists.1 ht
    obtain ⟨u, hs⟩ := Option.isSome_iff_exists.1 hu
    constructor
    · intro t' hr'
      exact Nat.not_le.1 fun hle => h ⟨t', u, hr', hs, .inl hle⟩
    · intro u' hs'
      exact Nat.not_le.1 fun hle => h ⟨t, u', hr, hs', .inr hle⟩

/-- Some neighbours clash just if not all neighbours fit. -/
theorem exists_clash_iff {rs : List Rule} :
    (∃ before r s after, rs = before ++ r :: s :: after ∧ Clash r s) ↔ ¬ rs.IsChain Fits := by
  rw [List.isChain_iff_forall_rel_of_append_cons_cons]
  constructor
  · rintro ⟨before, r, s, after, hrs, hclash⟩ hfits
    exact fits_iff_not_clash.1 (hfits hrs) hclash
  · intro h
    by_contra hno
    refine h fun r s before after hrs => fits_iff_not_clash.2 fun hclash => ?_
    exact hno ⟨before, r, s, after, hrs, hclash⟩

/-- **Between rules that fit** comes what belongs there, and no error.  The greatest pause
must not be negative for that: one that is far below zero could not be shown in seconds. -/
theorem between_of_fits {least most : Int} (hl : 0 ≤ least) (hm : 0 ≤ most) {r s : Rule}
    (h : Fits r s) : between least most r s = .ok (pause? least most r s) := by
  unfold pause?
  cases hr : r.timestamp with
  | none => exact between_of_none (.inl hr) least most
  | some t =>
    cases hs : s.timestamp with
    | none => exact between_of_none (.inr hs) least most
    | some u =>
      obtain ⟨hrange, hrange'⟩ := h (by rw [hr]; rfl) (by rw [hs]; rfl)
      exact between_of_lt hl hm hr hs (hrange t hr) (hrange' u hs)

/-- One step along the rules: the pause between the first two, if there is one, and then the
rest from the second rule on. -/
theorem spaced_cons (least most : Int) (r s : Rule) (rest : List Rule) :
    spaced least most (r :: s :: rest) =
      r :: (pause? least most r s).toList ++ spaced least most (s :: rest) := by
  simp [spaced, pauses]

/-- **Rules that fit** get their pauses, by one step for each rule: what belongs between it
and its neighbour does not depend on the rules around the two. -/
theorem insert_of_isChain {least most : Int} (hl : 0 ≤ least) (hm : 0 ≤ most) {rs : List Rule}
    (h : rs.IsChain Fits) : insert least most rs = .ok (spaced least most rs) := by
  induction rs with
  | nil => rfl
  | cons r rs ih =>
    cases rs with
    | nil => rfl
    | cons s rest =>
      obtain ⟨hfits, hrest⟩ := List.isChain_cons_cons.1 h
      rw [spaced_cons]
      exact insert_cons_eq_ok.2 ⟨_, _, between_of_fits hl hm hfits, ih hrest, rfl⟩

/-- **Rules of which two clash** are refused for a timestamp.  Neighbours are looked at from
the first to the last, so the error is that of the first two that clash; what comes later is
not looked at. -/
theorem exists_error_of_not_isChain {least most : Int} (hl : 0 ≤ least) (hm : 0 ≤ most)
    {rs : List Rule} (h : ¬ rs.IsChain Fits) : ∃ t, insert least most rs = .error (.timestamp t) := by
  induction rs with
  | nil => exact absurd List.IsChain.nil h
  | cons r rs ih =>
    cases rs with
    | nil => exact absurd (List.IsChain.singleton r) h
    | cons s rest =>
      rw [List.isChain_cons_cons] at h
      rw [insert]
      by_cases hfits : Fits r s
      · obtain ⟨t, ht⟩ := ih fun hrest => h ⟨hfits, hrest⟩
        exact ⟨t, by rw [between_of_fits hl hm hfits, Outcome.ok_bind, ht, Outcome.error_bind]⟩
      · obtain ⟨t, u, hr, hs, hrange⟩ := not_not.1 (mt fits_iff_not_clash.2 hfits)
        exact ⟨_, by rw [between_of_le hr hs hrange, Outcome.error_bind]⟩

/-- **Exactly the pauses that belong there.**  Putting pauses between rules is an error just if
two neighbours clash.  Otherwise the rules stay as they are, in order, each of them followed
by what belongs between it and the next one; fewer than two rules are left alone. -/
theorem insert_exact {least most : Int} (hl : 0 ≤ least) (hm : 0 ≤ most) (rs : List Rule) :
    ((∃ t, insert least most rs = .error (.timestamp t)) ↔
      ∃ before r s after, rs = before ++ r :: s :: after ∧ Clash r s) ∧
    ((¬ ∃ before r s after, rs = before ++ r :: s :: after ∧ Clash r s) →
      insert least most rs = .ok (spaced least most rs)) ∧
    (∀ duration, IsPause duration (rule duration)) ∧
    (rs.length < 2 → insert least most rs = .ok rs) := by
  rw [exists_clash_iff, not_not]
  refine ⟨⟨?_, exists_error_of_not_isChain hl hm⟩, insert_of_isChain hl hm, isPause_rule, ?_⟩
  · rintro ⟨t, herror⟩ hfits
    rw [insert_of_isChain hl hm hfits] at herror
    cases herror
  · intro hlength
    rcases rs with _ | ⟨r, _ | ⟨s, rest⟩⟩
    · rfl
    · rfl
    · exact absurd hlength (by simp)

/-- A rule of a moment. -/
def ruleAt (t : Int) : Rule := { plugin := .click, context := some { timestamp := some t } }

/-- A gap that is long enough, one that is too long, one that is too short, and the end of the
session. -/
theorem insert_exact_gaps : (0 : Int) ≤ 1000 ∧ (0 : Int) ≤ 5000 ∧
    insert 1000 5000 [ruleAt 0, ruleAt 1500, ruleAt 9000, ruleAt 10000, Rule.close] =
      .ok [ruleAt 0, rule 1500, ruleAt 1500, rule 5000, ruleAt 9000, ruleAt 10000, Rule.close] := by
  have hrange (t : Nat) (ht : t ≤ 10000) : (ruleAt t).InRange := by
    intro u hu
    obtain rfl := Option.some.inj hu
    have hlarge : 10000 < Double.rangeEnd := by decide +kernel
    exact Nat.lt_of_le_of_lt ht hlarge
  have hfits (t u : Nat) (ht : t ≤ 10000) (hu : u ≤ 10000) : Fits (ruleAt t) (ruleAt u) :=
    fun _ _ => ⟨hrange t ht, hrange u hu⟩
  have hclose (r : Rule) : Fits r Rule.close := fun _ h => absurd h Bool.false_ne_true
  refine ⟨by decide, by decide, ?_⟩
  refine (insert_exact (by decide) (by decide) _).2.1 (exists_clash_iff.not_left.2 ?_)
  exact .cons_cons (hfits 0 1500 (by decide) (by decide)) (.cons_cons
    (hfits 1500 9000 (by decide) (by decide)) (.cons_cons
      (hfits 9000 10000 (by decide) (by decide)) (.cons_cons (hclose _) (.singleton _))))

end Pause
end Recorder
