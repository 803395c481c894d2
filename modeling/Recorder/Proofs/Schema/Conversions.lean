/-
# What a check accepts

`SPEC_FULL.md` §1, the fields of the data model: which values each of them takes.

A check of several parts accepts a value just if each part does, and a field is accepted
just if the value under the first of its names that is present is (`Fields.isOk_read_iff`).
For the scalars the values accepted are listed: `Scalar.isOk_int_iff`,
`Scalar.isOk_float_iff`, `Scalar.isOk_bool_iff`.

Text of numbers has a grammar of its own, in `Recorder.Proofs.Schema.WholeText` and
`Recorder.Proofs.Schema.DecimalText`.
-/

import Recorder.Proofs.Number.Range
import Recorder.Proofs.Schema.DecimalText
import Recorder.Proofs.Schema.WholeText

namespace Recorder

variable {α β : Type}

/-! ## Checks of several parts -/

namespace Checked

variable {x : Checked α} {y : Checked β}

/-- Two checks accept just if both do. -/
@[simp] theorem isOk_and : (x.and y).isOk = (x.isOk && y.isOk) := by
  cases x <;> cases y <;> rfl

/-- Where a violation is placed has no say in whether there is one. -/
@[simp] theorem isOk_inside (step : Step) : (x.inside step).isOk = x.isOk := by
  cases x <;> rfl

/-- A scalar is accepted just if it is read. -/
@[simp] theorem isOk_checked (read : Json → Except ViolationKind α) (v : Json) :
    (Scalar.checked read v).isOk = (read v).isOk := by
  unfold Scalar.checked
  cases read v <;> rfl

end Checked

namespace Fields

/-- **A condition on a field:** it holds of the value under the first of its names that is
present, if one is. -/
def Admits (fs : Fields) (names : List String) (P : Json → Prop) : Prop :=
  ∀ name v, fs.firstOf? names = some (name, v) → P v

/-- **A field that may be absent** is accepted just if its value is, under the first of its
names that is there.  What stands in for an absent field is accepted as it is. -/
theorem isOk_read_iff {fs : Fields} {names : List String} {check : Json → Checked α} {d : α}
    {P : Json → Prop} (hP : ∀ v, (check v).isOk = true ↔ P v) :
    (fs.read names check (.ok d)).isOk = true ↔ fs.Admits names P := by
  unfold Fields.read Admits
  cases fs.firstOf? names with
  | none => simp
  | some p =>
    obtain ⟨name, v⟩ := p
    rw [Checked.isOk_inside, hP v]
    constructor
    · rintro hv _ _ ⟨⟩
      exact hv
    · exact fun h => h name v rfl

end Fields

/-! ## Scalars -/

namespace Json

/-- What a whole number is read from: a whole number, a binary64 number without a fraction and
below `2^63` in size, a truth value, or the text of a whole number. -/
def ReadsAsInt : Json → Prop
  | .int _ | .bool _ => True
  | .float x => ∃ n, x.toInt? = some n ∧ n.natAbs < 2 ^ 63
  | .str s => Scalar.IsWholeText s.toList
  | _ => False

/-- What a binary64 number is read from: any such number, a whole number with a binary64
number nearby, a truth value, or the text of a number. -/
def ReadsAsFloat : Json → Prop
  | .float _ | .bool _ => True
  | .int n => n.natAbs < Double.rangeEnd
  | .str s => Scalar.IsDoubleText s.toList
  | _ => False

/-- What a truth value is read from: zero, one or a word, whatever its case. -/
def ReadsAsBool : Json → Prop
  | .bool _ => True
  | .int n => n = 0 ∨ n = 1
  | .float x => x.toInt? = some 0 ∨ x.toInt? = some 1
  | .str s => String.ofList (s.toList.map Scalar.asciiLower) ∈ Scalar.trueWords ++ Scalar.falseWords
  | _ => False

/-- What a text is read from: text, and nothing that only stands for one. -/
def IsText (v : Json) : Prop := ∃ s, v = .str s

/-- A condition on a value that may be null. -/
def OrNull (P : Json → Prop) (v : Json) : Prop := v = .null ∨ P v

end Json

namespace Scalar

/-- A binary64 number is read as a whole one just if it has no fraction and lies below `2^63`
in size. -/
theorem isOk_intOfDouble_iff {x : Double} :
    (intOfDouble x).isOk = true ↔ ∃ n, x.toInt? = some n ∧ n.natAbs < 2 ^ 63 := by
  unfold intOfDouble
  generalize x.toInt? = whole
  cases whole with
  | none => cases x.isFinite <;> simp
  | some n =>
    rw [← twoTo_eq]
    dsimp only
    split <;> simp [*]

/-- **Whole numbers** are read from whole numbers of any size, from truth values, from
binary64 numbers without a fraction that are not too great, and from text of a whole number. -/
theorem isOk_int_iff {v : Json} : (int v).isOk = true ↔ v.ReadsAsInt := by
  cases v with
  | float x => exact isOk_intOfDouble_iff
  | str s => exact isOk_intOfText_iff
  | int | bool => exact iff_of_true rfl trivial
  | null | arr | obj => exact iff_of_false Bool.false_ne_true id

/-- A whole number is read as a binary64 number just if there is one nearby. -/
theorem isOk_float_int (n : Int) : (float (.int n)).isOk = (Double.ofInt? n).isSome := by
  -- Opened without its argument, as in `Double.isSome_ofInt?`, and with the rounding unnamed.
  have hopen : float = float := rfl
  conv at hopen => rhs; delta float
  obtain ⟨round, hround⟩ : ∃ round, round = Double.ofInt? := ⟨_, rfl⟩
  rw [hopen, ← hround]
  dsimp only
  cases round n <;> rfl

/-- **Binary64 numbers** are read from all binary64 numbers, infinities included, from truth
values, from whole numbers in range, and from text of a number. -/
theorem isOk_float_iff {v : Json} : (float v).isOk = true ↔ v.ReadsAsFloat := by
  cases v with
  | int n => rw [isOk_float_int, Double.isSome_ofInt?, Json.ReadsAsFloat]
  | str s => exact isOk_floatOfText_iff
  | float | bool => exact iff_of_true rfl trivial
  | null | arr | obj => exact iff_of_false Bool.false_ne_true id

/-- A binary64 number is a truth value just if it is zero or one. -/
theorem isOk_bool_float {x : Double} :
    (bool (.float x)).isOk = true ↔ x.toInt? = some 0 ∨ x.toInt? = some 1 := by
  rw [bool, intOfDouble]
  cases x.toInt? with
  | none => cases x.isFinite <;> simp
  | some n =>
    dsimp only
    by_cases hn : n.natAbs < twoTo 63
    · rw [if_pos hn]
      dsimp only
      split
      · simp [*]
      · split <;> simp [*]
    · have h0 : n ≠ 0 := by rintro rfl; exact hn (twoTo_pos 63)
      have h1 : n ≠ 1 := by rintro rfl; exact hn (Nat.one_lt_two_pow (by decide))
      rw [if_neg hn]
      simp [h0, h1]

/-- **Truth values** are read from themselves, from zero and one, whole or not, and from one
of the words for them in any case. -/
theorem isOk_bool_iff {v : Json} : (bool v).isOk = true ↔ v.ReadsAsBool := by
  cases v with
  | int n =>
    rw [bool, Json.ReadsAsBool]
    split
    · simp [*]
    · split
      · simp [*]
      · split <;> simp [*]
  | float x => exact isOk_bool_float
  | str s =>
    rw [bool, Json.ReadsAsBool, List.mem_append]
    split
    · simp [*]
    · split <;> simp [*]
  | bool => exact iff_of_true rfl trivial
  | null | arr | obj => exact iff_of_false Bool.false_ne_true id

/-- **Text** is read from text only: numbers and truth values are not written out for it,
though these are read from text. -/
theorem isOk_text_iff {v : Json} : (text v).isOk = true ↔ v.IsText := by
  cases v <;> simp [text, Json.IsText]

/-- **A scalar that may be null** is accepted if it is null, and else just if it is accepted
without that choice. -/
theorem isOk_optional_iff {read : Json → Except ViolationKind α} {P : Json → Prop}
    (hP : ∀ v, (read v).isOk = true ↔ P v) {v : Json} :
    (optional read v).isOk = true ↔ v.OrNull P := by
  by_cases hv : v = .null
  · subst hv
    exact iff_of_true rfl (.inl rfl)
  · rw [optional.eq_2 _ _ hv, Outcome.isOk_map, hP, Json.OrNull, or_iff_right hv]

end Scalar
end Recorder
