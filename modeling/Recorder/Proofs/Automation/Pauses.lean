/-
# When pauses can be put between rules

`SPEC_FULL.md` §5, `apply_think_time`, which only looks at pairs with finite timestamps, and
`RuleCompiler.compile`, which calls it where think time is enabled.

Pauses are put between rules just if no two neighbours with timestamps have one out of
the range of binary64 numbers (`Pause.exists_insert_iff`).  A pause itself is never too
long to be shown, since it is no longer than the gap.

All rules of a group but the closing one have timestamps, those of its interactions.  So
a group has a job just if think time is off, or it has a single rule besides the closing
one, or all its timestamps are in range (`RuleCompiler.exists_compile_iff`).
-/

import Mathlib.Data.List.Chain
import Recorder.Automation.RuleCompiler
import Recorder.Proofs.Number.Range
import Recorder.Proofs.Outcome

namespace Recorder

/-- Whether a rule's timestamp, if it has one, is in the range of binary64 numbers. -/
def Rule.InRange (r : Rule) : Prop := ∀ t, r.timestamp = some t → t.natAbs < Double.rangeEnd

namespace Pause

/-- Whether a pause may be asked for between two rules: both timestamps are in range,
unless one is missing. -/
def Fits (r s : Rule) : Prop :=
  r.timestamp.isSome → s.timestamp.isSome → r.InRange ∧ s.InRange

/-- A timestamp below the end of the range passes the check. -/
theorem inRange_of_lt {t : Int} (h : t.natAbs < Double.rangeEnd) : inRange t = .ok () :=
  if_pos ((Double.isSome_ofInt? t).2 h)

/-- A timestamp from the end of the range on is an error, which names the timestamp.  Together
with `inRange_of_lt` this settles the check for every whole number. -/
theorem inRange_of_le {t : Int} (h : Double.rangeEnd ≤ t.natAbs) :
    inRange t = .error (.timestamp t) :=
  if_neg fun hs => Nat.not_le.2 ((Double.isSome_ofInt? t).1 hs) h

/-- The seconds of a pause are the quotient of its milliseconds by a thousand, rounded once. -/
theorem seconds_eq (duration : Int) :
    seconds duration = Double.ofRatio (duration < 0) duration.natAbs 1000 := rfl

/-- A number of milliseconds that can be shown in seconds. -/
theorem isFinite_seconds {duration : Int} (h : duration.natAbs < Double.rangeEnd * 1000) :
    (seconds duration).isFinite = true := by
  rw [seconds_eq]
  exact (Double.isFinite_ofRatio _ _ (by decide)).2 h

/-- A pause whose seconds round to a finite number is shown; the limit for milliseconds is a
thousand times that for timestamps. -/
theorem ofDuration_of_lt {duration : Int} (h : duration.natAbs < Double.rangeEnd * 1000) :
    ofDuration duration = .ok (rule duration) := if_pos (isFinite_seconds h)

/-- A pause is no longer than the gap. -/
theorem natAbs_min_sub_lt {t u most : Int} {limit : Nat} (ht : t.natAbs < limit)
    (hu : u.natAbs < limit) (hlt : t < u) (hm : 0 ≤ most) :
    (min (u - t) most).natAbs < limit * 1000 := by
  omega

/-- Between two rules with timestamps both are looked at before the gap. -/
theorem between_eq {t u : Int} {r s : Rule} (hr : r.timestamp = some t)
    (hs : s.timestamp = some u) (least most : Int) :
    between least most r s = (inRange t >>= fun _ => inRange u >>= fun _ =>
      if least < u - t then (ofDuration (min (u - t) most)).map some else .ok none) := by
  rw [between, hr, hs]

/-- **The pause between two rules with timestamps in range** is one for the gap, cut to the
greatest pause there is; a gap of no more than the least pause has none.  With bounds that are
not negative its seconds can always be shown. -/
theorem between_of_lt {least most t u : Int} {r s : Rule} (hl : 0 ≤ least) (hm : 0 ≤ most)
    (hr : r.timestamp = some t) (hs : s.timestamp = some u) (ht : t.natAbs < Double.rangeEnd)
    (hu : u.natAbs < Double.rangeEnd) :
    between least most r s =
      .ok (if least < u - t then some (rule (min (u - t) most)) else none) := by
  rw [between_eq hr hs, inRange_of_lt ht, Outcome.ok_bind, inRange_of_lt hu, Outcome.ok_bind]
  by_cases hgap : least < u - t
  · rw [if_pos hgap, if_pos hgap, ofDuration_of_lt (natAbs_min_sub_lt ht hu (by omega) hm)]
    rfl
  · rw [if_neg hgap, if_neg hgap]

/-- Between rules of which one has no timestamp there is no pause. -/
theorem between_of_none {r s : Rule} (h : r.timestamp = none ∨ s.timestamp = none)
    (least most : Int) : between least most r s = .ok none := by
  rw [between]
  rcases h with h | h
  · rw [h]
  · rw [h]
    cases r.timestamp <;> rfl

/-- **A timestamp out of range** is an error, which names the timestamp.  If both are out of
range it names the first one of the two, as they are looked at in the order of the rules. -/
theorem between_of_le {t u : Int} {r s : Rule} (hr : r.timestamp = some t)
    (hs : s.timestamp = some u)
    (h : Double.rangeEnd ≤ t.natAbs ∨ Double.rangeEnd ≤ u.natAbs) (least most : Int) :
    between least most r s =
      .error (.timestamp (if Double.rangeEnd ≤ t.natAbs then t else u)) := by
  rw [between_eq hr hs]
  by_cases ht : Double.rangeEnd ≤ t.natAbs
  · rw [if_pos ht, inRange_of_le ht, Outcome.error_bind]
  · rw [if_neg ht, inRange_of_lt (Nat.not_le.1 ht), Outcome.ok_bind,
      inRange_of_le (h.resolve_left ht), Outcome.error_bind]

/-- **What comes between two rules:** nothing, or a pause for the gap, which is more than
the least one and counts up to the greatest one. -/
theorem between_eq_ok {least most : Int} {r s : Rule} {pause : Option Rule}
    (h : between least most r s = .ok pause) :
    pause = none ∨ ∃ t u, r.timestamp = some t ∧ s.timestamp = some u ∧ least < u - t ∧
      pause = some (rule (min (u - t) most)) := by
  unfold between at h
  split at h
  · rename_i t u hr hs
    obtain ⟨_, -, h⟩ := Outcome.bind_eq_ok.1 h
    obtain ⟨_, -, h⟩ := Outcome.bind_eq_ok.1 h
    split at h
    · rename_i hgap
      obtain ⟨p, hp, rfl⟩ := Outcome.map_eq_ok.1 h
      unfold ofDuration at hp
      split at hp
      · obtain rfl := Except.ok.inj hp
        exact .inr ⟨t, u, hr, hs, hgap, rfl⟩
      · cases hp
    · exact .inl (Except.ok.inj h).symm
  · exact .inl (Except.ok.inj h).symm

/-- Two rules have a pause or none between them just if they fit; with bounds that are not
negative no other error is left. -/
theorem exists_between_iff {least most : Int} (hl : 0 ≤ least) (hm : 0 ≤ most) {r s : Rule} :
    (∃ pause, between least most r s = .ok pause) ↔ Fits r s := by
  cases hr : r.timestamp with
  | none =>
    refine iff_of_true ⟨none, between_of_none (.inl hr) least most⟩ fun h => ?_
    rw [hr] at h
    cases h
  | some t =>
    cases hs : s.timestamp with
    | none =>
      refine iff_of_true ⟨none, between_of_none (.inr hs) least most⟩ fun _ h => ?_
      rw [hs] at h
      cases h
    | some u =>
      by_cases h : Double.rangeEnd ≤ t.natAbs ∨ Double.rangeEnd ≤ u.natAbs
      · refine iff_of_false ?_ fun hfits => ?_
        · rintro ⟨pause, hok⟩
          rw [between_of_le hr hs h least most] at hok
          cases hok
        · obtain ⟨hrange, hrange'⟩ := hfits (by rw [hr]; rfl) (by rw [hs]; rfl)
          rcases h with h | h
          · exact Nat.not_le.2 (hrange t hr) h
          · exact Nat.not_le.2 (hrange' u hs) h
      · obtain ⟨ht, hu⟩ := not_or.1 h
        have ht' : t.natAbs < Double.rangeEnd := Nat.not_le.1 ht
        have hu' : u.natAbs < Double.rangeEnd := Nat.not_le.1 hu
        refine iff_of_true ⟨_, between_of_lt hl hm hr hs ht' hu'⟩ fun _ _ => ⟨?_, ?_⟩
        · intro v hv
          obtain rfl := Option.some.inj (hr.symm.trans hv)
          exact ht'
        · intro v hv
          obtain rfl := Option.some.inj (hs.symm.trans hv)
          exact hu'

/-- **Pauses between rules:** the first two have one between them or none, and so on from
the second. -/
theorem insert_cons_eq_ok {least most : Int} {r s : Rule} {rest out : List Rule} :
    insert least most (r :: s :: rest) = .ok out ↔ ∃ pause tail,
      between least most r s = .ok pause ∧ insert least most (s :: rest) = .ok tail ∧
        r :: pause.toList ++ tail = out := by
  simp [insert]

/-- Pauses leave the rules in their places, as nothing is taken away or moved when they come
between. -/
theorem sublist_insert {least most : Int} {rs out : List Rule} (h : insert least most rs = .ok out) :
    rs.Sublist out := by
  induction rs generalizing out with
  | nil => exact List.nil_sublist out
  | cons r rs ih =>
    cases rs with
    | nil =>
      obtain rfl := Except.ok.inj h
      exact List.Sublist.refl [r]
    | cons s rest =>
      obtain ⟨pause, tail, -, htail, rfl⟩ := insert_cons_eq_ok.1 h
      exact ((ih htail).trans (List.sublist_append_right pause.toList tail)).cons_cons r

/-- **Pauses can be put between rules** just if all neighbours fit, since a pause is asked for
between each two of them and between no others.  A single rule has no neighbour and is never
looked at. -/
theorem exists_insert_iff {least most : Int} (hl : 0 ≤ least) (hm : 0 ≤ most) (rs : List Rule) :
    (∃ out, insert least most rs = .ok out) ↔ rs.IsChain Fits := by
  induction rs with
  | nil => exact iff_of_true ⟨[], rfl⟩ List.IsChain.nil
  | cons r rs ih =>
    cases rs with
    | nil => exact iff_of_true ⟨[r], rfl⟩ (List.IsChain.singleton r)
    | cons s rest =>
      rw [List.isChain_cons_cons, ← ih, ← exists_between_iff hl hm]
      constructor
      · rintro ⟨out, h⟩
        obtain ⟨pause, tail, hp, ht, -⟩ := insert_cons_eq_ok.1 h
        exact ⟨⟨pause, hp⟩, tail, ht⟩
      · rintro ⟨⟨pause, hp⟩, tail, ht⟩
        exact ⟨r :: pause.toList ++ tail, insert_cons_eq_ok.2 ⟨pause, tail, hp, ht, rfl⟩⟩

/-- Rules with timestamps, and a closing one: with more than one of them, all have to be
in range. -/
theorem isChain_append_close_iff {rs : List Rule} (h : ∀ r ∈ rs, r.timestamp.isSome = true) :
    (rs ++ [Rule.close]).IsChain Fits ↔ rs.length ≤ 1 ∨ ∀ r ∈ rs, r.InRange := by
  induction rs with
  | nil => exact iff_of_true (List.IsChain.singleton _) (.inl (Nat.zero_le 1))
  | cons r rs ih =>
    cases rs with
    | nil =>
      refine iff_of_true ?_ (.inl (Nat.le_refl 1))
      exact List.isChain_cons_cons.2 ⟨fun _ hc => (Bool.false_ne_true hc).elim,
        List.IsChain.singleton _⟩
    | cons s rest =>
      have hr := h r List.mem_cons_self
      have hs := h s (List.mem_cons_of_mem r List.mem_cons_self)
      have hfits : Fits r s ↔ r.InRange ∧ s.InRange := ⟨fun hf => hf hr hs, fun hf _ _ => hf⟩
      have hlong : ¬ (r :: s :: rest).length ≤ 1 := by simp
      have hcons : (∀ q ∈ r :: s :: rest, q.InRange) ↔ r.InRange ∧ ∀ q ∈ s :: rest, q.InRange :=
        List.forall_mem_cons
      rw [List.cons_append, List.cons_append, List.isChain_cons_cons, hfits, ← List.cons_append,
        ih fun q hq => h q (List.mem_cons_of_mem r hq), or_iff_right hlong, hcons]
      constructor
      · rintro ⟨⟨hrange, hrange'⟩, hshort | hall⟩
        · have hnil : rest = [] := by simpa using hshort
          subst hnil
          exact ⟨hrange, by simpa using hrange'⟩
        · exact ⟨hrange, hall⟩
      · rintro ⟨hrange, hall⟩
        exact ⟨⟨hrange, hall s List.mem_cons_self⟩, .inr hall⟩

end Pause

namespace RuleCompiler

/-- **Every rule of interactions** is a click, a key with an action of its own, or typed
text. -/
theorem forall_mem_rulesAfter {names : KeyNames} {mode : CaptureMode} {P : Rule → Prop}
    (hclick : ∀ i button x y, P (clickRule mode i button x y))
    (hkey : ∀ name i, P (keyRule mode name i)) (htype : ∀ cs i, P (typeRule mode cs i))
    (typed : Typed) (is : List Interaction) : ∀ r ∈ rulesAfter names mode typed is, P r := by
  have hflush (typed : Typed) : ∀ r ∈ flush mode typed, P r := by
    cases typed with
    | none => exact List.forall_mem_nil P
    | some p => exact List.forall_mem_singleton.2 (htype p.1 p.2)
  induction is generalizing typed with
  | nil => exact hflush typed
  | cons i rest ih =>
    rw [rulesAfter]
    split
    · exact List.forall_mem_append.2 ⟨hflush typed, List.forall_mem_cons.2 ⟨hclick .., ih none⟩⟩
    · split
      · exact List.forall_mem_append.2 ⟨hflush typed, List.forall_mem_cons.2 ⟨hkey .., ih none⟩⟩
      · exact ih _
      · exact ih typed

/-- **The job of a group** has its rules, as they are or with pauses between them; it has
pauses only if the group has settings for them that are enabled (`SPEC_FULL.md` §5,
`RuleCompiler.compile`). -/
theorem rules_of_compile {names : KeyNames} {mode : CaptureMode} {g : Group} {job : Job}
    (h : compile names mode g = .ok job) :
    job.rules = rules names mode g ∨ ∃ t, g.thinkTime = some t ∧
      Pause.insert t.least t.most (rules names mode g) = .ok job.rules := by
  obtain ⟨rs, hrs, h⟩ := Outcome.bind_eq_ok.1 h
  obtain rfl := Except.ok.inj h
  unfold withPauses at hrs
  split at hrs
  · rename_i t ht
    split at hrs
    · exact .inr ⟨t, ht, hrs⟩
    · exact .inl (Except.ok.inj hrs).symm
  · exact .inl (Except.ok.inj hrs).symm

/-- The job of a group has all its rules. -/
theorem sublist_rules_of_compile {names : KeyNames} {mode : CaptureMode} {g : Group} {job : Job}
    (h : compile names mode g = .ok job) : (rules names mode g).Sublist job.rules := by
  rcases rules_of_compile h with hrules | ⟨t, -, hrules⟩
  · exact hrules ▸ List.Sublist.refl _
  · exact Pause.sublist_insert hrules

/-- **When a group has a job:** think time is off, or there is at most one rule to wait
for, or all of them have timestamps in range. -/
theorem exists_compile_iff (names : KeyNames) (mode : CaptureMode) (g : Group) {settings : ThinkTime}
    (ht : g.thinkTime = some settings) :
    (∃ job, compile names mode g = .ok job) ↔
      (settings.enabled = true → (rulesAfter names mode none g.events).length ≤ 1 ∨
        ∀ r ∈ rulesAfter names mode none g.events, r.InRange) := by
  have htimed : ∀ r ∈ rulesAfter names mode none g.events, r.timestamp.isSome = true :=
    forall_mem_rulesAfter (fun _ _ _ _ => rfl) (fun _ _ => rfl) (fun _ _ => rfl) none g.events
  have hjob : (∃ job, compile names mode g = .ok job) ↔
      ∃ rs, withPauses g.thinkTime (rules names mode g) = .ok rs := by
    constructor
    · rintro ⟨job, h⟩
      obtain ⟨rs, hrs, -⟩ := Outcome.bind_eq_ok.1 h
      exact ⟨rs, hrs⟩
    · rintro ⟨rs, hrs⟩
      exact ⟨_, by rw [compile, hrs]; rfl⟩
  rw [hjob, ht]
  simp only [withPauses]
  cases he : settings.enabled with
  | false => simp
  | true =>
    rw [if_pos rfl, Pause.exists_insert_iff (Int.natCast_nonneg _) (Int.natCast_nonneg _), rules,
      Pause.isChain_append_close_iff htimed]
    simp

end RuleCompiler
end Recorder
