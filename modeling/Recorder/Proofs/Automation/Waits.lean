/-
# How long a job waits

`SPEC_FULL.md` §5, `apply_think_time`: the `Timeout` of a wait is the distance of two
timestamps, up to the greatest one allowed.

A pause stands for the time between two rules.  So the waits of a job are never longer in
all than the time from its first interaction to its last one
(`RuleCompiler.sum_waits_compile`), whichever keys are typed together and whichever are
dropped, and each of them is as long as the settings allow
(`RuleCompiler.waitsUpTo_compile`).

| | of a rule | of rules |
| --- | --- | --- |
| the moments they belong to | `Rule.timestamp` | `Rule.timesOf` |
| the milliseconds they wait for, as the engine reads them | `Rule.wait?` | `Rule.waitsOf` |
-/

import Mathlib.Data.List.Chain
import Recorder.Proofs.Automation.Tokens
import Std.Data.String.ToInt

namespace Recorder

/-! ## Moments in order -/

/-- Moments in order of time, none before a first one and none after a last one.  Without
moments in between, the first is not after the last. -/
def InOrder (first : Int) (ts : List Int) (last : Int) : Prop :=
  (first :: (ts ++ [last])).IsChain (· ≤ ·)

namespace InOrder

variable {first last : Int} {ts us : List Int}

/-- Moments are in order just if the first does not come too early and the others are in order
from it on. -/
theorem cons_iff {t : Int} : InOrder first (t :: ts) last ↔ first ≤ t ∧ InOrder t ts last :=
  List.isChain_cons_cons

/-- Without a moment in between, only the two ends are compared. -/
theorem nil_iff : InOrder first [] last ↔ first ≤ last := by
  rw [InOrder, List.nil_append, List.isChain_pair]

/-- Some of the moments are in order as well. -/
theorem sublist (h : InOrder first us last) (hs : ts.Sublist us) : InOrder first ts last :=
  List.IsChain.sublist h ((hs.append (List.Sublist.refl [last])).cons_cons first)

/-- What lies in order between two ends keeps the ends in order. -/
theorem le (h : InOrder first ts last) : first ≤ last :=
  nil_iff.1 (h.sublist (List.nil_sublist ts))

/-- **Moments in a row** are in order up to some moment and in order from it on.  The moment
where one part ends and the other begins is what the waits of the two parts are measured
against. -/
theorem exists_of_append (h : InOrder first (ts ++ us) last) :
    ∃ middle, InOrder first ts middle ∧ InOrder middle us last := by
  induction ts generalizing first with
  | nil => exact ⟨first, nil_iff.2 (Int.le_refl first), h⟩
  | cons t ts ih =>
    obtain ⟨hle, h⟩ := cons_iff.1 h
    obtain ⟨middle, hts, hus⟩ := ih h
    exact ⟨middle, cons_iff.2 ⟨hle, hts⟩, hus⟩

/-- Sorted moments are in order between the first and the last of them. -/
theorem of_pairwise (h : ts.Pairwise (· ≤ ·)) (hfirst : ts.head? = some first)
    (hlast : ts.getLast? = some last) : InOrder first ts last := by
  obtain ⟨rest, rfl⟩ := List.head?_eq_some_iff.1 hfirst
  refine List.isChain_cons_cons.2 ⟨Int.le_refl first, List.isChain_append.2
    ⟨h.isChain, List.isChain_singleton last, fun x hx y hy => ?_⟩⟩
  rw [hlast, Option.mem_some_iff] at hx
  rw [List.head?_singleton, Option.mem_some_iff] at hy
  rw [← hx, ← hy]

end InOrder

/-! ## Times and waits of rules -/

namespace Rule

/-- The milliseconds that a rule waits for, as the engine reads them. -/
def wait? (r : Rule) : Option Int :=
  if r.plugin = .wait then (r.value? "Timeout").bind String.toInt? else none

/-- If a rule waits at all, then for a number of milliseconds from zero to a greatest one. -/
def WaitsUpTo (most : Int) (r : Rule) : Prop :=
  r.plugin = .wait → ∃ d, r.wait? = some d ∧ 0 ≤ d ∧ d ≤ most

/-- The moments that rules belong to. -/
def timesOf (rs : List Rule) : List Int := rs.filterMap timestamp

/-- The milliseconds that rules wait for. -/
def waitsOf (rs : List Rule) : List Int := rs.filterMap wait?

/-- The moments of a row of rules, one rule at a time; rules without a moment count for none. -/
theorem timesOf_cons (r : Rule) (rs : List Rule) :
    timesOf (r :: rs) = r.timestamp.toList ++ timesOf rs := by
  rw [timesOf, List.filterMap_cons]
  cases r.timestamp <;> rfl

theorem timesOf_append (rs rs' : List Rule) : timesOf (rs ++ rs') = timesOf rs ++ timesOf rs' :=
  List.filterMap_append

/-- The waits of a row of rules, one rule at a time; only pauses count. -/
theorem waitsOf_cons (r : Rule) (rs : List Rule) :
    waitsOf (r :: rs) = r.wait?.toList ++ waitsOf rs := by
  rw [waitsOf, List.filterMap_cons]
  cases r.wait? <;> rfl

theorem waitsOf_append (rs rs' : List Rule) : waitsOf (rs ++ rs') = waitsOf rs ++ waitsOf rs' :=
  List.filterMap_append

/-- **A pause is read** as it was put: the engine finds in its argument the number of
milliseconds that it was made of. -/
theorem wait?_pause (duration : Int) : (Pause.rule duration).wait? = some duration := by
  have hvalue : (Pause.rule duration).value? "Timeout" = some (toString duration) :=
    Parameters.valueIn?_text "Timeout" (.int duration)
  have hplugin : (Pause.rule duration).plugin = .wait := rfl
  rw [wait?, if_pos hplugin, hvalue, Option.bind_some]
  exact Int.toInt?_repr duration

theorem wait?_of_ne {r : Rule} (h : r.plugin ≠ .wait) : r.wait? = none := if_neg h

/-- Before pauses are put in nothing waits, so that all waiting of a job comes from pauses. -/
theorem waitsOf_of_ne {rs : List Rule} (h : ∀ r ∈ rs, r.plugin ≠ .wait) : waitsOf rs = [] :=
  List.filterMap_eq_nil_iff.2 fun r hr => wait?_of_ne (h r hr)

end Rule

/-! ## Pauses between rules -/

namespace Pause

variable {least most : Int} {rs out : List Rule}

/-- **Pauses belong to no moment,** so the moments of rules are the same with pauses between
them as without. -/
theorem timesOf_insert (h : insert least most rs = .ok out) : Rule.timesOf out = Rule.timesOf rs := by
  induction rs generalizing out with
  | nil =>
    obtain rfl := Except.ok.inj h
    rfl
  | cons r rs ih =>
    cases rs with
    | nil =>
      obtain rfl := Except.ok.inj h
      rfl
    | cons s rest =>
      obtain ⟨pause, tail, hpause, htail, rfl⟩ := insert_cons_eq_ok.1 h
      have hnone : Rule.timesOf pause.toList = [] := by
        rcases between_eq_ok hpause with rfl | ⟨t, u, -, -, -, rfl⟩ <;> rfl
      rw [Rule.timesOf_append, Rule.timesOf_cons, hnone, ih htail, List.append_nil,
        ← Rule.timesOf_cons]

/-- **Every pause** lies between zero and the greatest one: it is put in only for a gap above
the least pause, which is not negative, and is cut to the greatest. -/
theorem waitsUpTo_insert (hl : 0 ≤ least) (hm : 0 ≤ most) (hrs : ∀ r ∈ rs, r.plugin ≠ .wait)
    (h : insert least most rs = .ok out) : ∀ r ∈ out, r.WaitsUpTo most := by
  induction rs generalizing out with
  | nil =>
    obtain rfl := Except.ok.inj h
    exact List.forall_mem_nil _
  | cons r rs ih =>
    obtain ⟨hr, hrs'⟩ := List.forall_mem_cons.1 hrs
    cases rs with
    | nil =>
      obtain rfl := Except.ok.inj h
      exact List.forall_mem_singleton.2 fun hwait => absurd hwait hr
    | cons s rest =>
      obtain ⟨pause, tail, hpause, htail, rfl⟩ := insert_cons_eq_ok.1 h
      refine List.forall_mem_append.2 ⟨List.forall_mem_cons.2 ⟨fun hwait => absurd hwait hr, ?_⟩,
        ih hrs' htail⟩
      rcases between_eq_ok hpause with rfl | ⟨t, u, -, -, hgap, rfl⟩
      · exact List.forall_mem_nil _
      · exact List.forall_mem_singleton.2 fun _ => ⟨_, Rule.wait?_pause _, by omega, by omega⟩

/-- **Pauses are no longer in all** than the time that the rules belong to.  Each of them is
no longer than the gap it stands in, and the gaps of moments in order add up to the time from
the first to the last of them. -/
theorem sum_waitsOf_insert (hrs : ∀ r ∈ rs, r.plugin ≠ .wait)
    (h : insert least most rs = .ok out) {first last : Int}
    (ho : InOrder first (Rule.timesOf rs) last) : (Rule.waitsOf out).sum ≤ last - first := by
  induction rs generalizing out first with
  | nil =>
    obtain rfl := Except.ok.inj h
    exact Int.sub_nonneg_of_le ho.le
  | cons r rs ih =>
    obtain ⟨hr, hrs'⟩ := List.forall_mem_cons.1 hrs
    cases rs with
    | nil =>
      obtain rfl := Except.ok.inj h
      rw [Rule.waitsOf_of_ne hrs]
      exact Int.sub_nonneg_of_le ho.le
    | cons s rest =>
      obtain ⟨pause, tail, hpause, htail, rfl⟩ := insert_cons_eq_ok.1 h
      rw [Rule.waitsOf_append, Rule.waitsOf_cons, Rule.wait?_of_ne hr, Option.toList_none,
        List.nil_append, List.sum_append]
      rcases between_eq_ok hpause with rfl | ⟨t, u, ht, hu, -, rfl⟩
      -- Without a pause the tail may start at any moment from the first one on.
      · have hsub : (Rule.timesOf (s :: rest)).Sublist (Rule.timesOf (r :: s :: rest)) :=
          (List.sublist_cons_self r (s :: rest)).filterMap Rule.timestamp
        have htail := ih hrs' htail (ho.sublist hsub)
        have hnone : (Rule.waitsOf (none : Option Rule).toList).sum = 0 := rfl
        omega
      · -- The pause takes the time up to the second rule, and the tail the time from it on.
        rw [Rule.timesOf_cons, ht, Rule.timesOf_cons, hu] at ho
        obtain ⟨hft, ho⟩ := InOrder.cons_iff.1 ho
        obtain ⟨htu, ho⟩ := InOrder.cons_iff.1 ho
        rw [Rule.timesOf_cons, hu] at ih
        have htail := ih hrs' htail (InOrder.cons_iff.2 ⟨Int.le_refl u, ho⟩)
        have hpause : (Rule.waitsOf [rule (min (u - t) most)]).sum = min (u - t) most := by
          rw [Rule.waitsOf_cons, Rule.wait?_pause]
          exact List.sum_singleton
        rw [Option.toList_some, hpause]
        omega

end Pause

/-! ## The rules of a group -/

namespace RuleCompiler

variable {names : KeyNames} {mode : CaptureMode}

/-- The moment of what is waiting to be typed. -/
def Typed.times : Typed → List Int
  | some (_, last) => [last.timestamp]
  | none => []

/-- **The rules of interactions belong to moments of these,** in the same order.  Text belongs
to the moment of its last character, the moments of the others being left out. -/
theorem timesOf_rulesAfter_sublist (typed : Typed) (is : List Interaction) :
    (Rule.timesOf (rulesAfter names mode typed is)).Sublist
      (typed.times ++ is.map Interaction.timestamp) := by
  have hflush (typed : Typed) : Rule.timesOf (flush mode typed) = typed.times := by
    cases typed <;> rfl
  induction is generalizing typed with
  | nil =>
    rw [rulesAfter, hflush, List.map_nil, List.append_nil]
  | cons i rest ih =>
    have hrule {r : Rule} (hr : r.timestamp = some i.timestamp) :
        (Rule.timesOf (flush mode typed ++ r :: rulesAfter names mode none rest)).Sublist
          (typed.times ++ (i :: rest).map Interaction.timestamp) := by
      rw [Rule.timesOf_append, Rule.timesOf_cons, hflush, hr, List.map_cons]
      exact (List.Sublist.refl typed.times).append ((ih none).cons_cons i.timestamp)
    rw [rulesAfter]
    split
    · exact hrule rfl
    · split
      · exact hrule rfl
      · -- A rule of typed text belongs to its last character.
        rename_i c _
        have hpush : (typed.push c i).times = [i.timestamp] := by cases typed <;> rfl
        have hlater := ih (typed.push c i)
        rw [hpush] at hlater
        exact hlater.trans (List.sublist_append_right _ _)
      · exact (ih typed).trans ((List.Sublist.refl _).append (List.sublist_cons_self _ _))

/-- The rules of a group belong to the moments of its interactions. -/
theorem timesOf_rules_sublist (names : KeyNames) (mode : CaptureMode) (g : Group) :
    (Rule.timesOf (rules names mode g)).Sublist g.timestamps := by
  have hclose : Rule.timesOf [Rule.close] = [] := rfl
  rw [rules, Rule.timesOf_append, hclose, List.append_nil]
  exact timesOf_rulesAfter_sublist none g.events

/-- No rule of a group waits before pauses are put in. -/
theorem plugin_ne_wait_of_mem_rules (names : KeyNames) (mode : CaptureMode) (g : Group) :
    ∀ r ∈ rules names mode g, r.plugin ≠ .wait := by
  have hclick (i : Interaction) (button : MouseButton) (x y : Option Double) :
      (clickRule mode i button x y).plugin ≠ .wait := by
    cases mode <;> cases button <;> exact Plugin.noConfusion
  have hkey (name : String) (i : Interaction) : (keyRule mode name i).plugin ≠ .wait := by
    cases mode <;> exact Plugin.noConfusion
  have htype (cs : List Char) (i : Interaction) : (typeRule mode cs i).plugin ≠ .wait := by
    cases mode <;> exact Plugin.noConfusion
  exact List.forall_mem_append.2 ⟨forall_mem_rulesAfter hclick hkey htype none g.events,
    List.forall_mem_singleton.2 Plugin.noConfusion⟩

variable {g : Group} {job : Job}

/-- **The rules of a job belong to moments of its group,** in the same order.  Neither the
pauses nor the rule that closes the session have a moment. -/
theorem timesOf_compile_sublist (h : compile names mode g = .ok job) :
    (Rule.timesOf job.rules).Sublist g.timestamps := by
  have hrules := timesOf_rules_sublist names mode g
  rcases rules_of_compile h with heq | ⟨t, -, hinsert⟩
  · rwa [heq]
  · rwa [Pause.timesOf_insert hinsert]

/-- **Every wait of a job** lies between zero and what the settings of its group allow.  No
rule of the group waits on its own account, so all waits are pauses. -/
theorem waitsUpTo_compile (h : compile names mode g = .ok job) {settings : ThinkTime}
    (ht : g.thinkTime = some settings) : ∀ r ∈ job.rules, r.WaitsUpTo settings.most := by
  have hrules := plugin_ne_wait_of_mem_rules names mode g
  rcases rules_of_compile h with heq | ⟨t, ht', hinsert⟩
  · rw [heq]
    exact fun r hr hwait => absurd hwait (hrules r hr)
  · obtain rfl := Option.some.inj (ht.symm.trans ht')
    exact Pause.waitsUpTo_insert (Int.natCast_nonneg _) (Int.natCast_nonneg _) hrules hinsert

/-- **A job waits no longer in all** than its group took from the first interaction to the
last, if their moments are in order, which they are on a timeline. -/
theorem sum_waits_compile (h : compile names mode g = .ok job) {first last : Int}
    (ho : InOrder first g.timestamps last) : (Rule.waitsOf job.rules).sum ≤ last - first := by
  have hrules := plugin_ne_wait_of_mem_rules names mode g
  rcases rules_of_compile h with heq | ⟨t, -, hinsert⟩
  · rw [heq, Rule.waitsOf_of_ne hrules]
    exact Int.sub_nonneg_of_le ho.le
  · exact Pause.sum_waitsOf_insert hrules hinsert (ho.sublist (timesOf_rules_sublist names mode g))

end RuleCompiler
end Recorder
