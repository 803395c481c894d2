/-
# Which texts are binary64 numbers

The coordinates and bounds of the data model (`SPEC_FULL.md` §1) are binary64 numbers, and a
text is taken for one where it is plainly meant so: it is a decimal or the word for a number
that is not finite, with a sign or without (`Scalar.isOk_floatOfText_iff`).  There may be
white space around it, or else single low lines in it, but not both, since a text is cleaned
in one of the two ways.

| part of a decimal | what stands there |
| --- | --- |
| `whole`, `fraction` | digits, in one of the two at least one |
| `point` | a point, or nothing if there is no fraction |
| `power` | nothing, or `e` or `E`, a sign or none, and at least one digit |
-/

import Recorder.Proofs.Number.Numeral
import Recorder.Proofs.Outcome
import Recorder.Proofs.Schema.NumberParts

namespace Recorder
namespace Scalar

/-! ## Plain numbers -/

/-- A word for a number that is not finite: `inf`, `infinity` or `nan`, in letters of any
case. -/
def IsWord (cs : List Char) : Prop :=
  String.ofList (cs.map asciiLower) ∈ ["inf", "infinity", "nan"]

/-- **A power of ten,** or none.  A letter that no digit follows is no power, and then the
text is no number either. -/
def IsPower (cs : List Char) : Prop :=
  cs = [] ∨ ∃ letter sign digits, cs = letter :: (sign ++ digits) ∧
    (letter = 'e' ∨ letter = 'E') ∧ IsSign sign ∧ IsDigits digits

/-- **A decimal:** digits with a point anywhere among them, be it first or last, and a power
of ten or none.  A point alone is none, as there must be a digit on one of its sides. -/
def IsDecimal (cs : List Char) : Prop :=
  ∃ whole point fraction power, cs = whole ++ (point ++ (fraction ++ power)) ∧
    IsDigits (whole ++ fraction) ∧ (point = ['.'] ∨ point = [] ∧ fraction = []) ∧ IsPower power

/-- **A plain number:** a sign or none, and a word or a decimal, with nothing around it and no
low line in it. -/
def IsPlainDouble (cs : List Char) : Prop :=
  ∃ sign body, cs = sign ++ body ∧ IsSign sign ∧ (IsWord body ∨ IsDecimal body)

/-- **A text of a binary64 number:** a plain one with white space around it or with single
low lines in it. -/
def IsDoubleText (cs : List Char) : Prop :=
  (∃ before body after, cs = before ++ body ++ after ∧ IsWhite before ∧ IsWhite after ∧
    IsPlainDouble body) ∨
  '_' ∈ cs ∧ LowLinesApart cs ∧ IsPlainDouble (withoutLowLines cs)

/-! ## Reading the parts -/

/-- A word is read just if it is one of the three. -/
theorem isSome_specialWord?_iff {negative : Bool} {cs : List Char} :
    (specialWord? negative cs).isSome = true ↔ IsWord cs := by
  rw [specialWord?, IsWord]
  simp only [List.mem_cons, List.not_mem_nil, or_false]
  split
  · rename_i h
    exact iff_of_true rfl (or_assoc.1 (.inl h))
  · rename_i h
    split
    · rename_i hnan
      exact iff_of_true rfl (or_assoc.1 (.inr hnan))
    · rename_i hnan
      exact iff_of_false Bool.false_ne_true fun hword => (or_assoc.2 hword).elim h hnan

/-- A text is the digits at its head and the rest. -/
theorem exists_spanDigits (cs : List Char) : ∃ digits rest, cs = digits ++ rest ∧
    (∀ c ∈ digits, c.isDigit = true) ∧ (∀ c, rest.head? = some c → c.isDigit = false) ∧
    spanDigits cs = (digits.filterMap Text.asciiDigit?, rest) := by
  refine ⟨cs.takeWhile Char.isDigit, cs.dropWhile Char.isDigit,
    List.takeWhile_append_dropWhile.symm, fun c hc => List.mem_takeWhile_imp hc, fun c hc => ?_, ?_⟩
  · have hnot := List.head?_dropWhile_not Char.isDigit cs
    rw [hc] at hnot
    exact hnot
  · simp only [spanDigits, isSome_asciiDigit?]

/-- **Digits end** where the rest begins, so a row of digits is found in one piece, with the
values of its digits. -/
theorem spanDigits_append {digits rest : List Char} (hdigits : ∀ c ∈ digits, c.isDigit = true)
    (hrest : ∀ c, rest.head? = some c → c.isDigit = false) :
    spanDigits (digits ++ rest) = (digits.filterMap Text.asciiDigit?, rest) := by
  have hrun : (digits ++ rest).takeWhile Char.isDigit = digits := by
    rw [takeWhile_isDigit_append hrest]
    exact List.takeWhile_eq_self_iff.2 hdigits
  have hafter : (digits ++ rest).dropWhile Char.isDigit = rest := by
    rw [List.dropWhile_append_of_pos hdigits]
    cases rest with
    | nil => rfl
    | cons c rest => rw [List.dropWhile_cons, hrest c rfl]; rfl
  simp only [spanDigits, isSome_asciiDigit?, hrun, hafter]

/-- **A power of ten is read** where one is written, and nothing else is taken for one; the
rest of a decimal is a power of ten or makes it no number. -/
theorem isSome_exponent?_iff {cs : List Char} : (exponent? cs).isSome = true ↔ IsPower cs := by
  cases cs with
  | nil => exact iff_of_true rfl (.inl rfl)
  | cons c cs =>
    rw [exponent?]
    split
    · rename_i hletter
      constructor
      · intro h
        obtain ⟨sign, body, hsign, rfl, htake⟩ := exists_takeSign cs
        obtain ⟨digits, rest, rfl, hdigits, -, hspan⟩ := exists_spanDigits body
        rw [htake] at h
        dsimp only at h
        rw [hspan] at h
        split at h
        · rename_i d ds hvalues
          obtain ⟨hvalues, rfl⟩ := Prod.mk.inj hvalues
          have hne : digits ≠ [] := by
            rintro rfl
            cases hvalues
          exact .inr ⟨c, sign, digits, by rw [List.append_nil], hletter, hsign, hne, hdigits⟩
        · cases h
      · rintro (h | ⟨letter, sign, digits, h, -, hsign, hdigits⟩)
        · cases h
        · obtain ⟨rfl, rfl⟩ := List.cons.inj h
          have hhead : ¬ (digits.head? = some '+' ∨ digits.head? = some '-') := by
            rintro (h | h) <;> exact absurd (hdigits.isDigit _ (List.mem_of_head? h)) (by decide)
          have hvalues := mt (filterMap_asciiDigit?_eq_nil hdigits.isDigit).1 hdigits.ne_nil
          have hend : ∀ c, ([] : List Char).head? = some c → c.isDigit = false := by
            rintro c hc
            cases hc
          have hspan := spanDigits_append hdigits.isDigit hend
          rw [List.append_nil] at hspan
          obtain ⟨d, ds, hds⟩ := List.exists_cons_of_ne_nil hvalues
          rw [takeSign_append hsign hhead]
          dsimp only
          rw [hspan, hds]
          rfl
    · rename_i hletter
      refine iff_of_false Bool.false_ne_true ?_
      rintro (h | ⟨letter, sign, digits, h, hl, -, -⟩)
      · cases h
      · exact hletter ((List.cons.inj h).1 ▸ hl)

/-- A power of ten starts with a letter. -/
theorem IsPower.head? {cs : List Char} (h : IsPower cs) :
    ∀ c, cs.head? = some c → c = 'e' ∨ c = 'E' := by
  rintro c hc
  rcases h with rfl | ⟨letter, sign, digits, rfl, hletter, -, -⟩
  · cases hc
  · exact Option.some.inj hc ▸ hletter

/-- **The parts of a decimal are found** if each ends where the next begins; there is a number
in them if there is a digit and what follows the digits is a power of ten. -/
theorem isSome_decimal?_append {negative : Bool} {whole point fraction power : List Char}
    (hwhole : ∀ c ∈ whole, c.isDigit = true) (hfraction : ∀ c ∈ fraction, c.isDigit = true)
    (hpower : ∀ c, power.head? = some c → c.isDigit = false)
    (hpoint : point = ['.'] ∨ point = [] ∧ fraction = [] ∧ power.head? ≠ some '.') :
    (decimal? negative (whole ++ (point ++ (fraction ++ power)))).isSome = true ↔
      whole ++ fraction ≠ [] ∧ IsPower power := by
  have hempty : ((whole.filterMap Text.asciiDigit?).isEmpty &&
      (fraction.filterMap Text.asciiDigit?).isEmpty) = true ↔ whole ++ fraction = [] := by
    rw [Bool.and_eq_true, List.isEmpty_iff, List.isEmpty_iff, filterMap_asciiDigit?_eq_nil hwhole,
      filterMap_asciiDigit?_eq_nil hfraction, List.append_eq_nil_iff]
  -- The digits of the whole part end at the point, or at the power if there is no point.
  have hend : ∀ c, (point ++ (fraction ++ power)).head? = some c → c.isDigit = false := by
    rcases hpoint with rfl | ⟨rfl, rfl, -⟩
    · rintro c hc
      rw [← Option.some.inj hc]
      rfl
    · exact hpower
  rw [decimal?, spanDigits_append hwhole hend]
  dsimp only
  have hparts : spanFraction (point ++ (fraction ++ power)) =
      (fraction.filterMap Text.asciiDigit?, power) := by
    rcases hpoint with rfl | ⟨rfl, rfl, hdot⟩
    · exact spanDigits_append hfraction hpower
    · rw [spanFraction.eq_2]
      · rfl
      · rintro rest hrest
        exact hdot (congrArg List.head? hrest)
  rw [hparts]
  dsimp only
  split
  · rename_i h
    exact iff_of_false Bool.false_ne_true fun hne => hne.1 (hempty.1 h)
  · rename_i h
    rw [and_iff_right (mt hempty.2 h), ← isSome_exponent?_iff]
    cases exponent? power <;> rfl

/-- Every text falls apart into the parts of a decimal, with anything for a power of ten. -/
theorem exists_decimalParts (cs : List Char) : ∃ whole point fraction power,
    cs = whole ++ (point ++ (fraction ++ power)) ∧ (∀ c ∈ whole, c.isDigit = true) ∧
    (∀ c ∈ fraction, c.isDigit = true) ∧ (∀ c, power.head? = some c → c.isDigit = false) ∧
    (point = ['.'] ∨ point = [] ∧ fraction = [] ∧ power.head? ≠ some '.') := by
  obtain ⟨whole, rest, rfl, hwhole, hrest, -⟩ := exists_spanDigits cs
  by_cases hdot : rest.head? = some '.'
  · obtain ⟨tail, rfl⟩ := List.head?_eq_some_iff.1 hdot
    obtain ⟨fraction, power, rfl, hfraction, hpower, -⟩ := exists_spanDigits tail
    exact ⟨whole, ['.'], fraction, power, rfl, hwhole, hfraction, hpower, .inl rfl⟩
  · exact ⟨whole, [], [], rest, rfl, hwhole, by simp, hrest, .inr ⟨rfl, rfl, hdot⟩⟩

/-- **A decimal is read** where one is written.  A text can be cut into the parts of a decimal
in one way only, by where its digits end, so it is enough to look at that one. -/
theorem isSome_decimal?_iff {negative : Bool} {cs : List Char} :
    (decimal? negative cs).isSome = true ↔ IsDecimal cs := by
  constructor
  · intro h
    obtain ⟨whole, point, fraction, power, rfl, hwhole, hfraction, hend, hpoint⟩ :=
      exists_decimalParts cs
    obtain ⟨hne, hpower⟩ := (isSome_decimal?_append hwhole hfraction hend hpoint).1 h
    exact ⟨whole, point, fraction, power, rfl,
      ⟨hne, fun c hc => (List.mem_append.1 hc).elim (hwhole c) (hfraction c)⟩,
      hpoint.imp id fun h => ⟨h.1, h.2.1⟩, hpower⟩
  · rintro ⟨whole, point, fraction, power, rfl, hdigits, hpoint, hpower⟩
    have hend : ∀ c, power.head? = some c → c.isDigit = false := fun c hc => by
      rcases hpower.head? c hc with rfl | rfl <;> rfl
    have hdot : power.head? ≠ some '.' := fun hc =>
      absurd (hpower.head? '.' hc) (by decide)
    exact (isSome_decimal?_append (fun c hc => hdigits.isDigit c (List.mem_append_left _ hc))
      (fun c hc => hdigits.isDigit c (List.mem_append_right _ hc)) hend
      (hpoint.imp id fun h => ⟨h.1, h.2, hdot⟩)).2 ⟨hdigits.ne_nil, hpower⟩

/-! ## Numbers without a sign -/

/-- White space has no other case. -/
theorem asciiLower_of_isSpace {c : Char} (h : Text.isSpace c = true) : asciiLower c = c := by
  rw [asciiLower, if_neg]
  rintro ⟨hA, hZ⟩
  rw [Char.le_def, UInt32.le_iff_toNat_le] at hA hZ
  have hlow : 65 ≤ c.toNat := hA
  have hhigh : c.toNat ≤ 90 := hZ
  simp [Text.isSpace, Text.inRanges, Text.spaceRanges] at h
  omega

/-- The letters of the words. -/
def wordLetters : List Char := ['i', 'n', 'f', 't', 'y', 'a']

/-- A word has its letters in any case, and nothing else. -/
theorem IsWord.mem {cs : List Char} (h : IsWord cs) : ∀ c ∈ cs, asciiLower c ∈ wordLetters := by
  have hwords : (["inf", "infinity", "nan"].all fun word =>
      word.toList.all wordLetters.contains) = true := by decide
  intro c hc
  have hword := List.all_eq_true.1 hwords _ h
  refine List.contains_iff_mem.1 (List.all_eq_true.1 hword (asciiLower c) ?_)
  rw [String.toList_ofList]
  exact List.mem_map_of_mem hc

/-- A word or a decimal starts with no sign. -/
theorem head?_of_unsigned {body : List Char} (h : IsWord body ∨ IsDecimal body) :
    ¬ (body.head? = some '+' ∨ body.head? = some '-') := by
  rcases h with hword | ⟨whole, point, fraction, power, rfl, hdigits, hpoint, -⟩
  · rintro (h | h) <;> exact absurd (hword.mem _ (List.mem_of_head? h)) (by decide)
  · cases whole with
    | cons d whole =>
      have hdigit : d.isDigit = true := hdigits.isDigit d List.mem_cons_self
      rintro (h | h) <;> rw [Option.some.inj h] at hdigit <;> cases hdigit
    | nil =>
      rcases hpoint with rfl | ⟨-, rfl⟩
      · rintro (h | h) <;> cases h
      · exact absurd rfl hdigits.ne_nil

/-- **A plain number is read** where one is written.  Neither a word nor a decimal starts with
a sign, so the one that is taken off is all there is. -/
theorem isSome_plainDouble?_iff {cs : List Char} :
    (plainDouble? cs).isSome = true ↔ IsPlainDouble cs := by
  constructor
  · intro h
    obtain ⟨sign, body, hsign, rfl, htake⟩ := exists_takeSign cs
    rw [plainDouble?, htake, Option.isSome_or, Bool.or_eq_true, isSome_specialWord?_iff,
      isSome_decimal?_iff] at h
    exact ⟨sign, body, rfl, hsign, h⟩
  · rintro ⟨sign, body, rfl, hsign, h⟩
    rw [plainDouble?, takeSign_append hsign (head?_of_unsigned h), Option.isSome_or,
      Bool.or_eq_true, isSome_specialWord?_iff, isSome_decimal?_iff]
    exact h

/-! ## Texts -/

/-- There is no white space in a word: white space would be a letter of it in lower case. -/
theorem IsWord.isSpace_eq_false {cs : List Char} (h : IsWord cs) :
    ∀ c ∈ cs, Text.isSpace c = false := by
  intro c hc
  by_contra hspace
  rw [Bool.not_eq_false] at hspace
  have hletter := h.mem c hc
  rw [asciiLower_of_isSpace hspace] at hletter
  have hletters : (wordLetters.all fun c => !Text.isSpace c) = true := by decide
  have hnone := List.all_eq_true.1 hletters c hletter
  rw [hspace] at hnone
  cases hnone

theorem IsPower.isSpace_eq_false {cs : List Char} (h : IsPower cs) :
    ∀ c ∈ cs, Text.isSpace c = false := by
  rcases h with rfl | ⟨letter, sign, digits, rfl, hletter, hsign, hdigits⟩
  · exact fun c hc => absurd hc List.not_mem_nil
  · intro c hc
    rcases List.mem_cons.1 hc with rfl | hc
    · rcases hletter with rfl | rfl <;> decide
    · exact (List.mem_append.1 hc).elim (hsign.isSpace_eq_false c) fun hc =>
        isSpace_of_isDigit (hdigits.isDigit c hc)

theorem IsDecimal.isSpace_eq_false {cs : List Char} (h : IsDecimal cs) :
    ∀ c ∈ cs, Text.isSpace c = false := by
  obtain ⟨whole, point, fraction, power, rfl, hdigits, hpoint, hpower⟩ := h
  intro c hc
  rcases List.mem_append.1 hc with hc | hc
  · exact isSpace_of_isDigit (hdigits.isDigit c (List.mem_append_left _ hc))
  rcases List.mem_append.1 hc with hc | hc
  · rcases hpoint with rfl | ⟨rfl, -⟩
    · rw [List.mem_singleton.1 hc]
      decide
    · cases hc
  rcases List.mem_append.1 hc with hc | hc
  · exact isSpace_of_isDigit (hdigits.isDigit c (List.mem_append_right _ hc))
  · exact hpower.isSpace_eq_false c hc

/-- There is no white space in a plain number. -/
theorem IsPlainDouble.isSpace_eq_false {cs : List Char} (h : IsPlainDouble cs) :
    ∀ c ∈ cs, Text.isSpace c = false := by
  obtain ⟨sign, body, rfl, hsign, hbody⟩ := h
  intro c hc
  rcases List.mem_append.1 hc with hc | hc
  · exact hsign.isSpace_eq_false c hc
  · exact hbody.elim (fun h => h.isSpace_eq_false c hc) fun h => h.isSpace_eq_false c hc

/-- **Binary64 numbers are read from their texts and from no others.**  A number of any size
is read, as one that is too great becomes infinite and one that is too small becomes zero. -/
theorem isOk_floatOfText_iff {s : String} :
    (floatOfText s).isOk = true ↔ IsDoubleText s.toList := by
  have hread : (floatOfText s).isOk =
      ((plainDouble? (Text.trimBy Text.isSpace s.toList)).isSome ||
        ((dropLowLines? s.toList).bind plainDouble?).isSome) := by
    rw [floatOfText, ← Option.isSome_or]
    split <;> simp [*]
  have htrim : IsPlainDouble (Text.trimBy Text.isSpace s.toList) ↔ ∃ before body after,
      s.toList = before ++ body ++ after ∧ IsWhite before ∧ IsWhite after ∧
        IsPlainDouble body := by
    constructor
    · intro h
      obtain ⟨before, after, hbefore, hafter, hs⟩ := exists_trimBy s.toList
      exact ⟨before, _, after, hs, hbefore, hafter, h⟩
    · rintro ⟨before, body, after, hs, hbefore, hafter, h⟩
      rw [hs, trimBy_append hbefore h.isSpace_eq_false hafter]
      exact h
  have hdrop : ((dropLowLines? s.toList).bind plainDouble?).isSome = true ↔
      '_' ∈ s.toList ∧ LowLinesApart s.toList ∧ IsPlainDouble (withoutLowLines s.toList) := by
    constructor
    · intro h
      cases hout : dropLowLines? s.toList with
      | none =>
        rw [hout] at h
        cases h
      | some out =>
        obtain ⟨hmem, hapart, rfl⟩ := dropLowLines?_eq_some_iff.1 hout
        rw [hout] at h
        exact ⟨hmem, hapart, isSome_plainDouble?_iff.1 h⟩
    · rintro ⟨hmem, hapart, h⟩
      rw [dropLowLines?_eq_some_iff.2 ⟨hmem, hapart, rfl⟩]
      exact isSome_plainDouble?_iff.2 h
  rw [hread, Bool.or_eq_true, isSome_plainDouble?_iff, htrim, hdrop, IsDoubleText]

/-- White space and low lines do not go together. -/
example : (floatOfText " -1.5e3").isOk = true ∧ (floatOfText "1_000").isOk = true ∧
    (floatOfText " 1_000").isOk = false := by decide +kernel

end Scalar
end Recorder
