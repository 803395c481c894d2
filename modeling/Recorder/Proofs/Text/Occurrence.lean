/-
# Words in a text

`SPEC_FULL.md` §2: the recorder's own surface and the type of an event are found in texts,
whatever their case.

A search for a word finds it just if it is a part of the text (`Text.occursIn_iff`).  A
search that ignores case finds every part that agrees with the word letter by letter
(`Text.occursFolded_iff`), so it finds the word in capitals, in small letters and in any
mixture of them (`Text.occursFolded_of_toLower`).

Which letters agree with a given one is a question about the tables of letter case, and
they answer it by a short list (`Text.agrees_iff_mem`): a code point has the lower case
`n` just if `Text.lowerOrigins` lists it for `n` (`Text.mem_lowerOrigins`), and two letters
that are no case of each other agree only inside one of the groups of the table.
-/

import Mathlib.Data.List.Sections
import Recorder.Text.LetterCase

namespace Recorder
namespace Text

/-- **A word occurs in a text** just if it is a part of it, at its head or further on.  The
empty word occurs in every text. -/
theorem occursIn_iff {word text : List Char} : occursIn word text = true ↔ word <:+: text := by
  induction text with
  | nil => rw [occursIn, List.isEmpty_iff, List.infix_nil]
  | cons c cs ih =>
    rw [occursIn, Bool.or_eq_true, List.isPrefixOf_iff_prefix, ih, List.infix_cons_iff]

/-! ## Whatever the case -/

/-- Texts that agree have the same length, since letters are compared one with one. -/
theorem length_of_agreesText {as bs : List Char} (h : agreesText as bs = true) :
    as.length = bs.length := by
  induction as generalizing bs with
  | nil =>
    cases bs with
    | nil => rfl
    | cons b bs => cases h
  | cons a as ih =>
    cases bs with
    | nil => cases h
    | cons b bs =>
      rw [agreesText, Bool.and_eq_true] at h
      rw [List.length_cons, List.length_cons, ih h.2]

/-- A text begins with a part that agrees with a word just if as much of it as the word is
long agrees. -/
theorem agreesText_take_iff {word text : List Char} :
    agreesText word (text.take word.length) = true ↔
      ∃ part, part <+: text ∧ agreesText word part = true := by
  constructor
  · intro h
    exact ⟨text.take word.length, List.take_prefix _ _, h⟩
  · rintro ⟨part, hpart, h⟩
    rwa [length_of_agreesText h, ← List.prefix_iff_eq_take.1 hpart]

/-- **A word occurs whatever its case** just if some part of the text agrees with it,
character by character. -/
theorem occursFolded_iff {word text : List Char} : occursFolded word text = true ↔
    ∃ part, part <:+: text ∧ agreesText word part = true := by
  induction text with
  | nil => cases word <;> simp [occursFolded, agreesText]
  | cons c cs ih =>
    rw [occursFolded, Bool.or_eq_true, agreesText_take_iff, ih]
    simp only [List.infix_cons_iff, or_and_right, exists_or]

/-- A capital letter agrees with the small one. -/
theorem agrees_toLower (c : Char) : agrees c.toLower c = true := by
  have hcode : lowerCode c.toLower.toNat = lowerCode c.toNat := by
    unfold Char.toLower
    split
    · rename_i hc
      have hn : 65 ≤ c.toNat ∧ c.toNat ≤ 90 := hc
      have hgap : ('a'.val - 'A'.val).toNat = 32 := rfl
      have hnext : (c.val + ('a'.val - 'A'.val)).toNat = c.toNat + 32 := by
        rw [UInt32.toNat_add, hgap]
        exact Nat.mod_eq_of_lt (show c.toNat + 32 < 2 ^ 32 by omega)
      show lowerCode (c.val + ('a'.val - 'A'.val)).toNat = lowerCode c.toNat
      rw [hnext, lowerCode, lowerCode, if_pos (by omega : c.toNat < 128),
        if_pos (by omega : c.toNat + 32 < 128), if_pos hn, if_neg (by omega)]
    · rfl
  rw [agrees, fold, fold, hcode, beq_self_eq_true]

/-- A text agrees with itself in lower case, letter by letter. -/
theorem agreesText_map_toLower (part : List Char) :
    agreesText (part.map Char.toLower) part = true := by
  induction part with
  | nil => rfl
  | cons c cs ih => rw [List.map_cons, agreesText, agrees_toLower, ih, Bool.and_self]

/-- **In capitals or not,** a part of a text is found under its small letters, as every
character agrees with its small letter. -/
theorem occursFolded_of_toLower {part text : List Char} (h : part <:+: text) :
    occursFolded (part.map Char.toLower) text = true :=
  occursFolded_iff.2 ⟨part, h, agreesText_map_toLower part⟩

/-! ## Letters that agree -/

/-- No run of the table of lower case leads below zero, so every run can be followed
backwards. -/
theorem lowerRuns_nonneg : ∀ run ∈ lowerRuns, 0 ≤ (run.1 : Int) + run.2.2.2 := by
  decide +kernel

/-- A code point that a run takes to `n` is among the origins of `n`, as the run followed
backwards from `n` ends at it. -/
theorem mem_lowerOrigins_of_run {first last step m n : Nat} {shift : Int}
    (hrun : (first, last, step, shift) ∈ lowerRuns) (hfirst : first ≤ m) (hlast : m ≤ last)
    (hstep : (m - first) % step = 0) (hn : ((m : Int) + shift).toNat = n)
    (hlower : lowerCode m = n) : m ∈ lowerOrigins n := by
  have hnonneg : 0 ≤ (first : Int) + shift := lowerRuns_nonneg _ hrun
  have hback : ((n : Int) - shift).toNat = m := by omega
  refine List.mem_append_right _ (List.mem_filterMap.2 ⟨_, hrun, ?_⟩)
  simp [hback, hfirst, hlast, hstep, hlower]

/-- **The origins of a code point** are all code points whose lower case it is: those of
ASCII, the dotted capital and those of the table, and itself if it has no other lower case. -/
theorem mem_lowerOrigins {m n : Nat} : m ∈ lowerOrigins n ↔ lowerCode m = n := by
  constructor
  · intro hm
    rw [lowerOrigins, List.append_assoc, List.mem_append, List.mem_append] at hm
    rcases hm with hm | hm | hm
    · split at hm
      · rename_i hself
        rwa [List.mem_singleton.1 hm]
      · cases hm
    · split at hm
      · rename_i hi
        rw [List.mem_singleton.1 hm, hi]
        rfl
      · cases hm
    · obtain ⟨run, -, hrun⟩ := List.mem_filterMap.1 hm
      obtain ⟨hall, hm⟩ := Option.ite_none_right_eq_some.1 hrun
      obtain rfl := Option.some.inj hm
      simp only [Bool.and_eq_true, beq_iff_eq] at hall
      exact hall.2
  · intro hlower
    have hself (h : lowerCode m = m) : m ∈ lowerOrigins n := by
      obtain rfl : m = n := h.symm.trans hlower
      rw [lowerOrigins, if_pos h]
      exact List.mem_append_left _ (List.mem_append_left _ List.mem_cons_self)
    by_cases hascii : m < 128
    · by_cases hcapital : 65 ≤ m ∧ m ≤ 90
      · -- The capitals of ASCII are a run of the table as well.
        have hn : m + 32 = n := by rwa [lowerCode, if_pos hascii, if_pos hcapital] at hlower
        have hrun : (65, 90, 1, 32) ∈ lowerRuns := by decide
        exact mem_lowerOrigins_of_run hrun hcapital.1 hcapital.2 (Nat.mod_one _) (by omega) hlower
      · exact hself (by rw [lowerCode, if_pos hascii, if_neg hcapital])
    · by_cases hdotted : m = 304
      · subst hdotted
        obtain rfl : 105 = n := hlower
        exact List.mem_append_left _ (List.mem_append_right _ List.mem_cons_self)
      · have hcode : lowerCode m = shiftBy lowerRuns m := by
          rw [lowerCode, if_neg hascii, if_neg hdotted]
        rw [shiftBy] at hcode
        split at hcode
        · rename_i first last step shift hfind
          have hin := List.find?_some hfind
          simp only [Bool.and_eq_true, decide_eq_true_eq, beq_iff_eq] at hin
          exact mem_lowerOrigins_of_run (List.mem_of_find?_eq_some hfind) hin.1.1 hin.1.2 hin.2
            (hcode.symm.trans hlower) hlower
        · exact hself hcode

/-- **The code points that fold to `n`:** those whose lower case is `n`, and those whose
lower case is in a group that `n` stands for. -/
def foldOrigins (n : Nat) : List Nat :=
  lowerOrigins n ++ (foldGroups.filter (·.head? == some n)).flatten.flatMap lowerOrigins

/-- A character folds to nothing but what it is listed for. -/
theorem mem_foldOrigins_of_fold {c : Char} {n : Nat} (h : fold c = n) :
    c.toNat ∈ foldOrigins n := by
  rw [foldOrigins, List.mem_append, List.mem_flatMap]
  rw [fold] at h
  split at h
  · rename_i head rest hfind
    have hlower : lowerCode c.toNat ∈ head :: rest := by simpa using List.find?_some hfind
    have hgroup : head :: rest ∈ foldGroups.filter (·.head? == some n) :=
      List.mem_filter.2 ⟨List.mem_of_find?_eq_some hfind, by simpa using h⟩
    exact .inr ⟨_, List.mem_flatten.2 ⟨_, hgroup, hlower⟩, mem_lowerOrigins.2 rfl⟩
  · exact .inl (mem_lowerOrigins.2 h)

/-- **The letters that agree with a given one** are those of a list, if the list has every
code point that folds as the letter does, and each of its members agrees.  Both conditions
are about finitely many code points, so for a given letter they can be computed. -/
theorem agrees_iff_mem {a c : Char} {letters : List Char}
    (hall : ∀ n ∈ foldOrigins (fold a), n ∈ letters.map Char.toNat)
    (hletters : letters.all (agrees a) = true) : agrees a c = true ↔ c ∈ letters := by
  refine ⟨fun h => ?_, List.all_eq_true.1 hletters c⟩
  rw [agrees, beq_iff_eq] at h
  obtain ⟨d, hd, hcode⟩ := List.mem_map.1 (hall _ (mem_foldOrigins_of_fold h.symm))
  obtain rfl := Char.toNat_inj.1 hcode
  exact hd

/-- **The texts that agree with a word** take one letter from each of the lists of letters
that agree with those of the word. -/
theorem agreesText_iff_mem_sections {word text : List Char} {letters : List (List Char)}
    (h : List.Forall₂ (fun a ls => ∀ c, agrees a c = true ↔ c ∈ ls) word letters) :
    agreesText word text = true ↔ text ∈ letters.sections := by
  rw [List.mem_sections]
  induction h generalizing text with
  | nil => cases text <;> simp [agreesText]
  | cons ha _ ih =>
    cases text with
    | nil => simp [agreesText]
    | cons c text => rw [agreesText, Bool.and_eq_true, ha, ih, List.forall₂_cons]

end Text
end Recorder
