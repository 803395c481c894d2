/-
# Decimal numerals

The numbers in the arguments of rules (`SPEC_FULL.md` §5, `format_argument`).

A numeral is digits, perhaps with a sign before them and with a fraction and a power of ten
after them.  What it says is a rational number (`Numeral.value`), and the numbers it
denotes are the one of that value and the binary64 number nearest to it
(`Numeral.Denotes`).

Every finite number is written as a numeral that denotes it
(`Double.exists_numeral_valueText`): a number without a fraction exactly, any other one by
its shortest decimal.  The words for other values are told from numerals by how they start
(`Numeral.startsNumber_text`).

| decimal | laid out as | digits after the point |
| --- | --- | --- |
| a whole number | its digits, the zeros at its end, `.0` | one |
| with its point among the digits | the digits around the point | those below one |
| with its point before them | `0.`, zeros, the digits | all |
| out of the style's range | one digit, the point, the others, a power of ten | all but one |
-/

import Mathlib.Data.Nat.Cast.Field
import Recorder.Automation.Rule
import Recorder.Proofs.Number.Shortest

namespace Recorder

/-- A row of decimal digits, at least one. -/
structure IsDigits (ds : List Char) : Prop where
  ne_nil : ds ≠ []
  isDigit : ∀ c ∈ ds, c.isDigit = true

/-- The digits of a natural number are digits, and zero has one as well. -/
theorem isDigits_toDigits (n : Nat) : IsDigits (Nat.toDigits 10 n) :=
  ⟨Nat.toDigits_ne_nil, fun _ hc => Nat.isDigit_of_mem_toDigits (by decide) (by decide) hc⟩

/-- **A decimal numeral:** a sign, digits, perhaps a point with more digits after it, and
perhaps a power of ten.  What a numeral is does not depend on how the recorder writes numbers. -/
structure Numeral where
  negative : Bool
  whole : List Char
  /-- The digits after the point; without any there is no point. -/
  fraction : List Char := []
  /-- The power of ten: whether it is negative, and its digits. -/
  power : Option (Bool × List Char) := none
  isDigits_whole : IsDigits whole
  isDigit_fraction : ∀ c ∈ fraction, c.isDigit = true := by simp
  isDigits_power : ∀ p ∈ power, IsDigits p.2 := by simp

namespace Numeral

/-- A numeral as it is written. -/
def text (n : Numeral) : List Char :=
  (if n.negative then ['-'] else []) ++ n.whole ++
    (if n.fraction.isEmpty then [] else '.' :: n.fraction) ++
    match n.power with
    | none => []
    | some (below, ds) => 'e' :: (if below then '-' else '+') :: ds

/-- The exponent of the power of ten. -/
def powerValue (n : Numeral) : Int :=
  match n.power with
  | none => 0
  | some (below, ds) =>
    if below then -(Nat.ofDigitChars 10 ds 0 : Int) else Nat.ofDigitChars 10 ds 0

/-- The decimal of a numeral without its sign. -/
def decimal (n : Numeral) : Decimal :=
  ⟨Nat.ofDigitChars 10 (n.whole ++ n.fraction) 0, n.powerValue - n.fraction.length⟩

/-- **What a numeral says,** as a rational number: its digits without the point, moved by the
places after the point and by the power of ten, and its sign. -/
def value (n : Numeral) : ℚ := (if n.negative then -1 else 1) * n.decimal.value

/-- The binary64 number nearest to it. -/
def nearest (n : Numeral) : Double := .ofDecimal n.negative n.decimal.digits n.decimal.exponent

/-- The digits of a numeral are those of a decimal, with zeros at their end. -/
theorem extends_decimal {n : Numeral} {x : Decimal} {zeros : Nat}
    (hdigits : Nat.ofDigitChars 10 (n.whole ++ n.fraction) 0 = x.digits * tenTo zeros)
    (hexp : n.powerValue - n.fraction.length = x.exponent - zeros) : n.decimal.Extends x :=
  ⟨zeros, by rw [decimal, hdigits, hexp]⟩

/-- Or they are just those. -/
theorem extends_decimal_of_eq {n : Numeral} {x : Decimal}
    (hdigits : Nat.ofDigitChars 10 (n.whole ++ n.fraction) 0 = x.digits)
    (hexp : n.powerValue - n.fraction.length = x.exponent) : n.decimal.Extends x := by
  have hdecimal : n.decimal = x := by rw [decimal, hdigits, hexp]
  exact hdecimal ▸ .refl n.decimal

end Numeral

/-- The value of a finite number. -/
def Double.value? : Double → Option ℚ
  | .finite negative scaled => some ((if negative then -1 else 1) * (scaled / unitScale))
  | _ => none

/-- **Denoting a number:** having its value, or being nearest to it.  The second is what
shortest decimals do, whose value may differ from the number by half a step. -/
def Numeral.Denotes (n : Numeral) (x : Double) : Prop :=
  x.isFinite = true ∧ (x.value? = some n.value ∨ n.nearest = x)

/-! ## Where a number may start -/

/-- Whether characters start with a digit, perhaps after a minus sign. -/
def startsNumber : List Char → Bool
  | '-' :: c :: _ => c.isDigit
  | c :: _ => c.isDigit
  | [] => false

namespace Numeral

/-- **A numeral starts like a number,** whatever its layout.  No word for a value that is not
a number does. -/
theorem startsNumber_text (n : Numeral) : startsNumber n.text = true := by
  obtain ⟨d, ds, hds⟩ := List.exists_cons_of_ne_nil n.isDigits_whole.ne_nil
  have hdigit : d.isDigit = true := n.isDigits_whole.isDigit d (hds ▸ List.mem_cons_self)
  rw [text, hds]
  cases n.negative with
  | true => exact hdigit
  | false =>
    have hminus : d ≠ '-' := by
      rintro rfl
      exact absurd hdigit (by decide)
    simp [startsNumber, hminus, hdigit]

/-- A numeral has no blank. -/
theorem blank_notMem_text (n : Numeral) : ' ' ∉ n.text := by
  have hblank {cs : List Char} (h : ∀ c ∈ cs, c.isDigit = true) : ' ' ∉ cs := fun hc =>
    absurd (h _ hc) (by decide)
  have hwhole : ' ' ∉ n.whole := hblank n.isDigits_whole.isDigit
  have hfraction : ' ' ∉ n.fraction := hblank n.isDigit_fraction
  have hpower : ∀ p ∈ n.power, ' ' ∉ p.2 := fun p hp => hblank (n.isDigits_power p hp).isDigit
  simp only [text, List.mem_append, not_or]
  refine ⟨⟨⟨?_, hwhole⟩, ?_⟩, ?_⟩
  · cases n.negative <;> simp
  · cases n.fraction.isEmpty <;> simp [hfraction]
  · cases hp : n.power with
    | none => simp
    | some p => cases hsign : p.1 <;> simp [hsign, hpower p hp]

end Numeral

/-! ## Layouts -/

namespace Decimal

/-- The digits of a decimal say its whole number. -/
theorem ofDigitChars_digitText (x : Decimal) : Nat.ofDigitChars 10 x.digitText 0 = x.digits :=
  Nat.ofDigitChars_ten_toDigits

theorem isDigits_digitText (x : Decimal) : IsDigits x.digitText := isDigits_toDigits x.digits

/-- Zeros that fill a place up are digits. -/
theorem isDigit_of_mem_zeros {c : Char} {count : Nat} (h : c ∈ List.replicate count '0') :
    c.isDigit = true := by
  rw [List.eq_of_mem_replicate h]
  rfl

/-- **Being laid out:** a numeral with the sign reads so, and its digits are those of the
decimal, but for zeros at the end. -/
def IsLaidOut (negative : Bool) (x : Decimal) (cs : List Char) : Prop :=
  ∃ n : Numeral, n.negative = negative ∧ n.text = Double.signText negative ++ cs ∧
    n.decimal.Extends x

variable {negative : Bool} {x : Decimal}

/-- A whole number, with the zeros at its end and perhaps one more after a point. -/
theorem isLaidOut_whole (h : 0 ≤ x.exponent) (keepPoint : Bool) :
    IsLaidOut negative x (x.digitText ++ List.replicate x.exponent.toNat '0' ++
      if keepPoint then ['.', '0'] else []) := by
  have hwhole : IsDigits (x.digitText ++ List.replicate x.exponent.toNat '0') :=
    ⟨fun hnil => x.isDigits_digitText.ne_nil (List.append_eq_nil_iff.1 hnil).1, fun c hc =>
      (List.mem_append.1 hc).elim (x.isDigits_digitText.isDigit c) isDigit_of_mem_zeros⟩
  have hvalue (places : Nat) : Nat.ofDigitChars 10 (x.digitText ++
      List.replicate x.exponent.toNat '0' ++ List.replicate places '0') 0 =
        x.digits * tenTo (x.exponent.toNat + places) := by
    rw [List.append_assoc, List.replicate_append_replicate, Nat.ofDigitChars_append,
      ofDigitChars_digitText, Nat.ofDigitChars_replicate_zero, Nat.mul_comm]
    rfl
  have hexp : (x.exponent.toNat : Int) = x.exponent := Int.toNat_of_nonneg h
  cases keepPoint with
  | false =>
    refine ⟨{ negative, whole := _, isDigits_whole := hwhole }, rfl, ?_,
      Numeral.extends_decimal (hvalue 0) ?_⟩
    · simp [Numeral.text, Double.signText]
    · simp [Numeral.powerValue, hexp]
  | true =>
    refine ⟨{ negative, whole := _, fraction := ['0'], isDigits_whole := hwhole }, rfl, ?_,
      Numeral.extends_decimal (hvalue 1) ?_⟩
    · simp [Numeral.text, Double.signText]
    · simp [Numeral.powerValue, hexp]

/-- Digits on both sides of the point. -/
theorem isLaidOut_point {places : Nat} (hpos : 0 < places)
    (h : (places : Int) = x.digitText.length + x.exponent) (hexp : x.exponent < 0) :
    IsLaidOut negative x (x.digitText.take places ++ '.' :: x.digitText.drop places) := by
  have hlen : places < x.digitText.length := by omega
  have hwhole : IsDigits (x.digitText.take places) := by
    refine ⟨?_, fun c hc => x.isDigits_digitText.isDigit c (List.mem_of_mem_take hc)⟩
    rw [ne_eq, List.take_eq_nil_iff]
    rintro (hzero | hnil)
    · exact Nat.ne_of_gt hpos hzero
    · exact x.isDigits_digitText.ne_nil hnil
  have hfraction : ∀ c ∈ x.digitText.drop places, c.isDigit = true := fun c hc =>
    x.isDigits_digitText.isDigit c (List.mem_of_mem_drop hc)
  have hpoint : (x.digitText.drop places).isEmpty = false := by simp [hlen]
  have hdigits : Nat.ofDigitChars 10 (x.digitText.take places ++ x.digitText.drop places) 0 =
      x.digits := by
    rw [List.take_append_drop, ofDigitChars_digitText]
  refine ⟨{ negative, whole := _, fraction := _, isDigits_whole := hwhole,
            isDigit_fraction := hfraction }, rfl, ?_, Numeral.extends_decimal_of_eq hdigits ?_⟩
  · simp [Numeral.text, Double.signText, hpoint]
  · simp only [Numeral.powerValue, List.length_drop]
    omega

/-- Nothing but zeros before the point. -/
theorem isLaidOut_below {zeros : Nat} (h : (zeros : Int) = -x.exponent - x.digitText.length) :
    IsLaidOut negative x ('0' :: '.' :: (List.replicate zeros '0' ++ x.digitText)) := by
  have hfraction : ∀ c ∈ List.replicate zeros '0' ++ x.digitText, c.isDigit = true := fun c hc =>
    (List.mem_append.1 hc).elim isDigit_of_mem_zeros (x.isDigits_digitText.isDigit c)
  have hpoint : (List.replicate zeros '0' ++ x.digitText).isEmpty = false := by
    simp [x.isDigits_digitText.ne_nil]
  have hdigits : Nat.ofDigitChars 10 (['0'] ++ (List.replicate zeros '0' ++ x.digitText)) 0 =
      x.digits := by
    rw [Nat.ofDigitChars_append, Nat.ofDigitChars_append, ← List.replicate_one,
      Nat.ofDigitChars_replicate_zero, Nat.ofDigitChars_replicate_zero, Nat.mul_zero,
      ofDigitChars_digitText]
  refine ⟨{ negative, whole := ['0'], fraction := _, isDigits_whole := isDigits_toDigits 0,
            isDigit_fraction := hfraction }, rfl, ?_, Numeral.extends_decimal_of_eq hdigits ?_⟩
  · simp [Numeral.text, Double.signText, hpoint]
  · simp only [Numeral.powerValue, List.length_append, List.length_replicate]
    omega

/-- The digits of an exponent, at least two. -/
def exponentDigits (e : Int) : List Char :=
  if (Nat.toDigits 10 e.natAbs).length < 2 then '0' :: Nat.toDigits 10 e.natAbs
  else Nat.toDigits 10 e.natAbs

/-- The digits of an exponent are digits, the zero in front of a single one included. -/
theorem isDigits_exponentDigits (e : Int) : IsDigits (exponentDigits e) := by
  have h : IsDigits (Nat.toDigits 10 e.natAbs) := isDigits_toDigits e.natAbs
  unfold exponentDigits
  split
  · exact ⟨List.cons_ne_nil _ _, List.forall_mem_cons.2 ⟨rfl, h.isDigit⟩⟩
  · exact h

/-- They say the size of the exponent, as a zero in front changes nothing. -/
theorem ofDigitChars_exponentDigits (e : Int) :
    Nat.ofDigitChars 10 (exponentDigits e) 0 = e.natAbs := by
  unfold exponentDigits
  split
  · exact Nat.ofDigitChars_ten_toDigits
  · exact Nat.ofDigitChars_ten_toDigits

/-- One digit before the point, and a power of ten. -/
theorem isLaidOut_power : IsLaidOut negative x ((match x.digitText with
      | [] => []
      | [d] => [d]
      | d :: r => d :: '.' :: r) ++ 'e' :: exponentText x.place) := by
  obtain ⟨d, ds, hds⟩ := List.exists_cons_of_ne_nil x.isDigits_digitText.ne_nil
  have hdigit : ∀ c ∈ d :: ds, c.isDigit = true := hds ▸ x.isDigits_digitText.isDigit
  have hwhole : IsDigits [d] :=
    ⟨List.cons_ne_nil _ _, List.forall_mem_singleton.2 (List.forall_mem_cons.1 hdigit).1⟩
  have hpower : ∀ p ∈ some (decide (x.place < 0), exponentDigits x.place), IsDigits p.2 := by
    intro p hp
    obtain rfl := Option.mem_some_iff.1 hp
    exact isDigits_exponentDigits x.place
  have hdigits : Nat.ofDigitChars 10 ([d] ++ ds) 0 = x.digits := by
    rw [List.singleton_append, ← hds, ofDigitChars_digitText]
  refine ⟨{ negative, whole := [d], fraction := ds, isDigits_whole := hwhole,
            power := _, isDigits_power := hpower,
            isDigit_fraction := (List.forall_mem_cons.1 hdigit).2 },
    rfl, ?_, Numeral.extends_decimal_of_eq hdigits ?_⟩
  · rw [hds]
    cases ds <;> simp [Numeral.text, Double.signText, exponentText, exponentDigits]
  · have hplace : x.place = (ds.length : Int) + x.exponent := by
      rw [place, hds, List.length_cons]
      omega
    simp only [Numeral.powerValue, ofDigitChars_exponentDigits, decide_eq_true_eq]
    omega

/-- **A decimal is laid out as a numeral** in every style, be it with a point among the
digits, with zeros before or behind them, or with a power of ten. -/
theorem isLaidOut_layout (style : Style) (negative : Bool) (x : Decimal) :
    IsLaidOut negative x (layout style x) := by
  unfold layout
  dsimp only
  split
  · split
    · rename_i hexp
      exact isLaidOut_whole hexp style.keepPoint
    · rename_i hexp
      split
      · rename_i hplace
        rw [place] at hplace
        refine isLaidOut_point (Nat.succ_pos _) ?_ (Int.not_le.1 hexp)
        rw [place]
        omega
      · rename_i hplace
        rw [place] at hplace
        refine isLaidOut_below ?_
        rw [place]
        omega
  · exact isLaidOut_power

end Decimal

/-! ## Numbers -/

namespace Numeral

/-- A whole number as a numeral. -/
def ofInt (k : Int) : Numeral :=
  { negative := k < 0, whole := Nat.toDigits 10 k.natAbs, isDigits_whole := isDigits_toDigits _ }

/-- A whole number is written as its numeral. -/
theorem toString_int (k : Int) : toString k = String.ofList (ofInt k).text := by
  cases k with
  | ofNat m =>
    have hsign : ¬ Int.ofNat m < 0 := Int.not_lt.2 (Int.natCast_nonneg m)
    rw [text, ofInt, decide_eq_false hsign]
    simp [Int.toString_eq_repr, Int.repr, Nat.repr_eq_ofList_toDigits]
  | negSucc m => simp [ofInt, text, Int.toString_eq_repr, Int.repr, Nat.repr_eq_ofList_toDigits]

/-- That numeral says the number itself. -/
theorem value_ofInt (k : Int) : (ofInt k).value = k := by
  have hdecimal : (ofInt k).decimal.value = (k.natAbs : ℚ) := by
    simp [ofInt, decimal, powerValue, Decimal.value, Nat.ofDigitChars_ten_toDigits]
  rw [value, hdecimal]
  cases k with
  | ofNat m => simp [ofInt]
  | negSucc m => simp [ofInt]

/-- A number without a fraction is denoted by the whole number. -/
theorem denotes_ofInt {x : Double} {k : Int} (h : x.toInt? = some k) : (ofInt k).Denotes x := by
  cases x with
  | infinite negative => cases h
  | nan => cases h
  | finite negative scaled =>
    rw [Double.toInt?] at h
    split at h
    · rename_i hwhole
      have hscale : (Double.unitScale : ℚ) ≠ 0 :=
        Nat.cast_ne_zero.2 (Nat.ne_of_gt (twoTo_pos 1074))
      have hquotient : (scaled : ℚ) / Double.unitScale = ((scaled / Double.unitScale : Nat) : ℚ) :=
        (Nat.cast_div (Nat.dvd_of_mod_eq_zero hwhole) hscale).symm
      refine ⟨rfl, .inl ?_⟩
      rw [Double.value?, value_ofInt, hquotient, ← Option.some.inj h]
      generalize scaled / Double.unitScale = q
      cases negative <;> simp
    · cases h

/-- The digits of the shortest decimal denote the number. -/
theorem denotes_of_extends {n : Numeral} {scaled : Nat}
    (h : n.decimal.Extends (Decimal.shortest scaled)) :
    n.Denotes (.finite n.negative scaled) := by
  refine ⟨rfl, ?_⟩
  rcases Decimal.standsFor_shortest scaled with hread | hvalue
  · refine .inr ?_
    rw [nearest, h.ofDecimal_eq]
    exact Double.ofDecimal_of_false hread n.negative
  · refine .inl ?_
    rw [Double.value?, value, h.value_eq, hvalue]

end Numeral

/-- **Every finite number is written as a numeral that denotes it.**  A number without a
fraction is written as a whole number, digit by digit, and any other as its shortest decimal. -/
theorem Double.exists_numeral_valueText {x : Double} (h : x.isFinite = true) :
    ∃ n : Numeral, Parameters.valueText (.float x) = String.ofList n.text ∧ n.Denotes x := by
  cases hint : x.toInt? with
  | some k =>
    refine ⟨.ofInt k, ?_, Numeral.denotes_ofInt hint⟩
    rw [Parameters.valueText, hint]
    exact Numeral.toString_int k
  | none =>
    cases x with
    | infinite negative => cases h
    | nan => cases h
    | finite negative scaled =>
      cases scaled with
      | zero =>
        rw [Double.toInt?, Nat.zero_mod, if_pos rfl] at hint
        cases hint
      | succ scaled =>
        obtain ⟨n, rfl, htext, hextends⟩ :=
          Decimal.isLaidOut_layout .full negative (Decimal.shortest (scaled + 1))
        refine ⟨n, ?_, Numeral.denotes_of_extends hextends⟩
        rw [Parameters.valueText, hint, htext]
        rfl

end Recorder
