/-
# Parts of numeric text

The fields of the data model (`SPEC_FULL.md` §1) take numbers from text too.  Such a text has
white space around it, a sign, digits and low lines between digits, and each of these is
taken off by a function of its own.  For each part there is a predicate here and two
lemmas: every text falls apart so, and what was put together so falls apart again.

| part | taken off by | falls apart | put together |
| --- | --- | --- | --- |
| white space | `Text.trimBy` | `exists_trimBy` | `trimBy_append` |
| a sign | `Text.takeSign` | `exists_takeSign` | `takeSign_append` |
| low lines | `dropLowLines?` | `dropLowLines?_eq_some_iff` | `getD_dropLowLines?_iff` |
-/

import Mathlib.Data.List.TakeWhile
import Recorder.Proofs.Text.Occurrence
import Recorder.Schema.Scalar

namespace Recorder
namespace Scalar

/-- White space and nothing else. -/
def IsWhite (cs : List Char) : Prop := ∀ c ∈ cs, Text.isSpace c = true

/-- A sign, or none. -/
def IsSign (cs : List Char) : Prop := cs = [] ∨ cs = ['+'] ∨ cs = ['-']

/-- **Low lines that are single,** each between two other characters: none at the head, none
at the end, and no two side by side.  A text without low lines is one of these. -/
structure LowLinesApart (cs : List Char) : Prop where
  head : cs.head? ≠ some '_'
  last : cs.getLast? ≠ some '_'
  single : ¬ ['_', '_'] <:+: cs

/-- A text without its low lines. -/
def withoutLowLines (cs : List Char) : List Char := cs.filter (· != '_')

/-! ## Digits -/

/-- An ASCII digit is known by its code point, and so is a digit of the library. -/
@[simp] theorem isSome_asciiDigit? (c : Char) : (Text.asciiDigit? c).isSome = c.isDigit := by
  rw [Bool.eq_iff_iff]
  simp [Text.asciiDigit?, Char.isDigit, UInt32.le_iff_toNat_le]

/-- The code points of the ten digits. -/
theorem toNat_of_isDigit {c : Char} (h : c.isDigit = true) : 48 ≤ c.toNat ∧ c.toNat ≤ 57 := by
  simpa [Char.isDigit, UInt32.le_iff_toNat_le] using h

/-- No digit is white space, so trimming never takes one off. -/
theorem isSpace_of_isDigit {c : Char} (h : c.isDigit = true) : Text.isSpace c = false := by
  have hc : 48 ≤ c.toNat ∧ c.toNat ≤ 57 := toNat_of_isDigit h
  simp [Text.isSpace, Text.inRanges, Text.spaceRanges]
  omega

/-- A digit of value zero is the character `0`. -/
theorem asciiDigit?_of_isDigit {c : Char} (h : c.isDigit = true) :
    ∃ d, Text.asciiDigit? c = some d ∧ (d = 0 ↔ c = '0') := by
  have hc : 48 ≤ c.toNat ∧ c.toNat ≤ 57 := toNat_of_isDigit h
  refine ⟨c.toNat - 48, if_pos hc, fun hd => Char.ext (UInt32.toNat_inj.1 ?_), ?_⟩
  · exact Nat.le_antisymm (Nat.sub_eq_zero_iff_le.1 hd) hc.1
  · rintro rfl
    rfl

/-- Every digit has a value, so digits are all there among their values. -/
theorem filterMap_asciiDigit?_eq_nil {digits : List Char} (h : ∀ c ∈ digits, c.isDigit = true) :
    digits.filterMap Text.asciiDigit? = [] ↔ digits = [] := by
  cases digits with
  | nil => exact iff_of_true rfl rfl
  | cons c more =>
    obtain ⟨d, hd, -⟩ := asciiDigit?_of_isDigit (h c List.mem_cons_self)
    rw [List.filterMap_cons_some hd]
    exact iff_of_false (List.cons_ne_nil _ _) (List.cons_ne_nil _ _)

/-- Digits end where anything else stands. -/
theorem takeWhile_isDigit_append {cs rest : List Char}
    (h : ∀ c, rest.head? = some c → c.isDigit = false) :
    (cs ++ rest).takeWhile Char.isDigit = cs.takeWhile Char.isDigit := by
  induction cs with
  | nil =>
    cases rest with
    | nil => rfl
    | cons c rest => rw [List.nil_append, List.takeWhile_cons, h c rfl, List.takeWhile_nil]; rfl
  | cons c cs ih => rw [List.cons_append, List.takeWhile_cons, List.takeWhile_cons, ih]

/-! ## White space -/

/-- Nothing around a number is white space around it. -/
theorem isWhite_nil : IsWhite [] := fun _ h => absurd h List.not_mem_nil

/-- A text is what trimming leaves of it, with white space around it. -/
theorem exists_trimBy (cs : List Char) : ∃ before after,
    IsWhite before ∧ IsWhite after ∧ cs = before ++ Text.trimBy Text.isSpace cs ++ after := by
  refine ⟨cs.takeWhile Text.isSpace,
    ((cs.dropWhile Text.isSpace).reverse.takeWhile Text.isSpace).reverse, ?_, ?_, ?_⟩
  · exact fun c hc => List.mem_takeWhile_imp hc
  · exact fun c hc => List.mem_takeWhile_imp (List.mem_reverse.1 hc)
  · rw [Text.trimBy, List.append_assoc, ← List.reverse_append, List.takeWhile_append_dropWhile,
      List.reverse_reverse, List.takeWhile_append_dropWhile]

/-- Nothing is dropped where nothing is to be dropped. -/
theorem dropWhile_isSpace_of_none {cs : List Char} (h : ∀ c ∈ cs, Text.isSpace c = false) :
    cs.dropWhile Text.isSpace = cs := by
  rw [List.dropWhile_eq_self_iff]
  intro hl
  rw [h _ (List.getElem_mem hl)]
  exact Bool.false_ne_true

/-- **Trimming** takes off the white space around a text that has none in it, on both sides,
and leaves that text. -/
theorem trimBy_append {before core after : List Char} (hbefore : IsWhite before)
    (hcore : ∀ c ∈ core, Text.isSpace c = false) (hafter : IsWhite after) :
    Text.trimBy Text.isSpace (before ++ core ++ after) = core := by
  have hfront : (before ++ core ++ after).dropWhile Text.isSpace =
      (core ++ after).dropWhile Text.isSpace := by
    rw [List.append_assoc, List.dropWhile_append_of_pos hbefore]
  have hback (cs : List Char) : (cs ++ after).reverse.dropWhile Text.isSpace =
      cs.reverse.dropWhile Text.isSpace := by
    rw [List.reverse_append,
      List.dropWhile_append_of_pos fun c hc => hafter c (List.mem_reverse.1 hc)]
  have hstays : core.reverse.dropWhile Text.isSpace = core.reverse :=
    dropWhile_isSpace_of_none fun c hc => hcore c (List.mem_reverse.1 hc)
  rw [Text.trimBy, hfront]
  cases core with
  | nil =>
    have hgone : after.dropWhile Text.isSpace = [] := List.dropWhile_eq_nil_iff.2 hafter
    rw [List.nil_append, hgone]
    rfl
  | cons c cs =>
    have hfirst : Text.isSpace c = false := hcore c List.mem_cons_self
    rw [List.cons_append, List.dropWhile_cons_of_neg (by simp [hfirst]), ← List.cons_append,
      hback, hstays, List.reverse_reverse]

/-! ## Signs -/

/-- A text is a sign, or none, and the rest. -/
theorem exists_takeSign (cs : List Char) : ∃ sign body, IsSign sign ∧ cs = sign ++ body ∧
    Text.takeSign cs = (sign == ['-'], body) := by
  rw [Text.takeSign.eq_def]
  split
  · exact ⟨['-'], _, .inr (.inr rfl), rfl, rfl⟩
  · exact ⟨['+'], _, .inr (.inl rfl), rfl, rfl⟩
  · exact ⟨[], _, .inl rfl, rfl, rfl⟩

/-- **A sign is taken off** a text that does not start with another.  Without that it could
not be told how many signs there were. -/
theorem takeSign_append {sign body : List Char} (hsign : IsSign sign)
    (hbody : ¬ (body.head? = some '+' ∨ body.head? = some '-')) :
    Text.takeSign (sign ++ body) = (sign == ['-'], body) := by
  rcases hsign with rfl | rfl | rfl
  · rw [List.nil_append, Text.takeSign.eq_def]
    split
    · exact absurd (.inr rfl) hbody
    · exact absurd (.inl rfl) hbody
    · rfl
  · rfl
  · rfl

/-- A sign is no white space. -/
theorem IsSign.isSpace_eq_false {cs : List Char} (h : IsSign cs) :
    ∀ c ∈ cs, Text.isSpace c = false := by
  rcases h with rfl | rfl | rfl
  · exact List.forall_mem_nil _
  · exact List.forall_mem_singleton.2 rfl
  · exact List.forall_mem_singleton.2 rfl

/-! ## Low lines -/

/-- A text without low lines loses nothing with them. -/
theorem withoutLowLines_of_notMem {cs : List Char} (h : '_' ∉ cs) : withoutLowLines cs = cs := by
  refine List.filter_eq_self.2 fun c hc => ?_
  rw [bne_iff_ne]
  rintro rfl
  exact h hc

/-- Without low lines they are apart. -/
theorem lowLinesApart_of_notMem {cs : List Char} (h : '_' ∉ cs) : LowLinesApart cs where
  head hhead := h (List.mem_of_head? hhead)
  last hlast := h (List.mem_of_getLast? hlast)
  single hin := h (hin.subset List.mem_cons_self)

/-- **Low lines are dropped** if there are some and all are apart.  A text without any gives
nothing here, as it has been tried before as it is. -/
theorem dropLowLines?_eq_some_iff {cs out : List Char} :
    dropLowLines? cs = some out ↔ '_' ∈ cs ∧ LowLinesApart cs ∧ out = withoutLowLines cs := by
  have hword : "__".toList = ['_', '_'] := rfl
  have hrefused : (cs.head? == some '_' || cs.getLast? == some '_' || !cs.contains '_' ||
      Text.occursIn "__".toList cs) = true ↔ ¬ ('_' ∈ cs ∧ LowLinesApart cs) := by
    rw [hword]
    simp only [Bool.or_eq_true, beq_iff_eq, Bool.not_eq_true', List.contains_eq_mem,
      decide_eq_false_iff_not, Text.occursIn_iff]
    constructor
    · rintro (((h | h) | h) | h) ⟨hmem, hapart⟩
      · exact hapart.head h
      · exact hapart.last h
      · exact h hmem
      · exact hapart.single h
    · intro h
      by_contra hno
      simp only [not_or, not_not] at hno
      exact h ⟨hno.1.2, hno.1.1.1, hno.1.1.2, hno.2⟩
  rw [dropLowLines?]
  split
  · rename_i h
    have hnot := hrefused.1 h
    exact iff_of_false (fun h => by cases h) fun h => hnot ⟨h.1, h.2.1⟩
  · rename_i h
    obtain ⟨hmem, hapart⟩ := not_not.1 (mt hrefused.2 h)
    rw [Option.some.injEq, and_iff_right hmem, and_iff_right hapart, eq_comm, withoutLowLines]

/-- What has no low lines in the end had them apart before, if it was to be cleaned of them. -/
theorem getD_dropLowLines?_iff {P : List Char → Prop} (hP : ∀ cs, P cs → '_' ∉ cs)
    (cs : List Char) :
    P ((dropLowLines? cs).getD cs) ↔ LowLinesApart cs ∧ P (withoutLowLines cs) := by
  cases hdrop : dropLowLines? cs with
  | some out =>
    obtain ⟨-, hapart, rfl⟩ := dropLowLines?_eq_some_iff.1 hdrop
    rw [Option.getD_some, and_iff_right hapart]
  | none =>
    have hnone : ¬ ('_' ∈ cs ∧ LowLinesApart cs) := fun h => by
      have hsome := dropLowLines?_eq_some_iff.2 ⟨h.1, h.2, rfl⟩
      rw [hdrop] at hsome
      cases hsome
    rw [Option.getD_none]
    constructor
    · intro h
      have hmem := hP cs h
      rw [withoutLowLines_of_notMem hmem]
      exact ⟨lowLinesApart_of_notMem hmem, h⟩
    · rintro ⟨hapart, h⟩
      have hmem : '_' ∉ cs := fun hmem => hnone ⟨hmem, hapart⟩
      rwa [withoutLowLines_of_notMem hmem] at h

end Scalar
end Recorder
