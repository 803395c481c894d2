/-
# What the shortest decimal stands for

The decimals in the arguments of rules (`SPEC_FULL.md` §5, `format_argument`).

The shortest decimal of a number is one that reads back as the number, and where no short
one does, it is the exact expansion (`Decimal.standsFor_shortest`).  Zeros at the end of a
decimal make no difference, neither to its value nor to what it reads back as
(`Decimal.Extends`), so they can be dropped or added.
-/

import Mathlib.Data.Rat.Cast.Order
import Mathlib.Tactic.FieldSimp
import Mathlib.Tactic.Ring
import Recorder.Number.Digits
import Recorder.Proofs.Number.Range

namespace Recorder

/-- A power of ten has one factor more than the one before it. -/
theorem tenTo_succ (n : Nat) : tenTo (n + 1) = tenTo n * 10 := rfl

/-! ## Rounding a quotient -/

/-- **A rounded quotient** is that of any multiple of its parts, as both the whole part and
the comparison with one half are. -/
theorem roundDiv_mul_right (n d : Nat) {k : Nat} (hk : 0 < k) :
    roundDiv (n * k) (d * k) = roundDiv n d := by
  have hq : n * k / (d * k) = n / d := Nat.mul_div_mul_right n d hk
  have hr : n * k % (d * k) = n % d * k := Nat.mul_mod_mul_right k n d
  have hlow : 2 * (n % d * k) < d * k ↔ 2 * (n % d) < d := by
    rw [← Nat.mul_assoc, Nat.mul_lt_mul_right hk]
  have hhigh : d * k < 2 * (n % d * k) ↔ d < 2 * (n % d) := by
    rw [← Nat.mul_assoc, Nat.mul_lt_mul_right hk]
  simp only [roundDiv, hq, hr, hlow, hhigh]

namespace Double

/-- Rounding sees the quotient only: a common factor of its two numbers changes nothing. -/
theorem roundScaled_mul_right (a d : Nat) {k : Nat} (hk : 0 < k) :
    roundScaled (a * k) (d * k) = roundScaled a d := by
  have hq : a * k / (d * k) = a / d := Nat.mul_div_mul_right a d hk
  have hd (shift : Nat) : d * k * twoTo shift = d * twoTo shift * k := Nat.mul_right_comm _ _ _
  simp only [roundScaled, hq, hd, roundDiv_mul_right _ _ hk]

/-- The same holds of the binary64 number nearest to a quotient. -/
theorem ofRatio_mul_right (negative : Bool) (n d : Nat) {k : Nat} (hk : 0 < k) :
    ofRatio negative (n * k) (d * k) = ofRatio negative n d := by
  have hn : n * k * unitScale = n * unitScale * k := Nat.mul_right_comm _ _ _
  rw [ofRatio, ofRatio, hn, roundScaled_mul_right _ _ hk]

/-- The sign of a quotient is that of the number it rounds to. -/
theorem ofRatio_of_false {n d scaled : Nat} (h : ofRatio false n d = .finite false scaled)
    (negative : Bool) : ofRatio negative n d = .finite negative scaled := by
  unfold ofRatio ofScaled at h ⊢
  split at h
  · rename_i hlt
    obtain ⟨-, rfl⟩ := Double.finite.inj h
    exact if_pos hlt
  · cases h

/-- The sign of a decimal is that of the number it reads back as. -/
theorem ofDecimal_of_false {digits scaled : Nat} {exponent : Int}
    (h : ofDecimal false digits exponent = .finite false scaled) (negative : Bool) :
    ofDecimal negative digits exponent = .finite negative scaled := by
  unfold ofDecimal at h ⊢
  dsimp only at h ⊢
  split_ifs at h ⊢
  · obtain ⟨-, rfl⟩ := Double.finite.inj h
    rfl
  · obtain ⟨-, rfl⟩ := Double.finite.inj h
    rfl
  · exact ofRatio_of_false h negative
  · exact ofRatio_of_false h negative

/-- A zero at the end of a number is one digit more. -/
theorem digitCount_mul_ten {n : Nat} (h : 0 < n) : digitCount (n * 10) = digitCount n + 1 := by
  have hbase : 10 ≤ n * 10 := Nat.le_mul_of_pos_left 10 h
  rw [digitCount, Nat.toDigits_of_base_le (by decide) hbase, Nat.mul_div_cancel n (by decide),
    List.length_append, List.length_singleton, digitCount]

/-- **One more zero** at the end of a decimal makes no difference to the number that is read,
also where the decimal is too great or too small for any number but infinity and zero. -/
theorem ofDecimal_mul_ten (negative : Bool) (digits : Nat) (exponent : Int) :
    ofDecimal negative (digits * 10) (exponent - 1) = ofDecimal negative digits exponent := by
  rcases Nat.eq_zero_or_pos digits with rfl | hpos
  · rfl
  · have hsize : (digitCount (digits * 10) : Int) + (exponent - 1) =
        digitCount digits + exponent := by
      rw [digitCount_mul_ten hpos]
      omega
    have hne : digits ≠ 0 := Nat.ne_of_gt hpos
    have hne' : digits * 10 ≠ 0 := by omega
    simp only [ofDecimal, if_neg hne, if_neg hne', hsize]
    congr 2
    rcases Int.lt_trichotomy exponent 0 with hlt | rfl | hgt
    · have hlt' : ¬ 0 ≤ exponent - 1 := by omega
      have hexp : (-(exponent - 1)).toNat = (-exponent).toNat + 1 := by omega
      rw [if_neg hlt', if_neg (Int.not_le.2 hlt), hexp, tenTo_succ,
        ofRatio_mul_right _ _ _ (by decide)]
    · have hlt' : ¬ (0 : Int) ≤ 0 - 1 := by decide
      have hone : digits * tenTo 0 = digits := Nat.mul_one digits
      have hten : tenTo (-(0 - 1 : Int)).toNat = 1 * 10 := rfl
      rw [if_neg hlt', if_pos (Int.le_refl 0), hten, Int.toNat_zero, hone,
        ofRatio_mul_right _ _ _ (by decide)]
    · have hge : 0 ≤ exponent - 1 := by omega
      have hexp : exponent.toNat = (exponent - 1).toNat + 1 := by omega
      rw [if_pos hge, if_pos (Int.le_of_lt hgt), hexp, tenTo_succ, Nat.mul_assoc,
        Nat.mul_comm 10]

end Double

/-! ## Decimals -/

namespace Decimal

/-- The exact value of a decimal. -/
def value (x : Decimal) : ℚ := x.digits * 10 ^ x.exponent

/-- **A decimal with zeros at its end** that another one does not have, each of them taken
back by the exponent. -/
def Extends (y x : Decimal) : Prop :=
  ∃ zeros : Nat, y = ⟨x.digits * tenTo zeros, x.exponent - zeros⟩

namespace Extends

variable {x y : Decimal}

/-- A decimal extends itself, by no zeros. -/
theorem refl (x : Decimal) : Extends x x :=
  ⟨0, by rw [tenTo, Nat.pow_eq, Nat.pow_zero, Nat.mul_one, Int.natCast_zero, Int.sub_zero]⟩

/-- Zeros at the end change nothing of the value. -/
theorem value_eq (h : Extends y x) : y.value = x.value := by
  obtain ⟨zeros, rfl⟩ := h
  have hten : ((tenTo zeros : Nat) : ℚ) = 10 ^ (zeros : Int) := by
    rw [tenTo, Nat.pow_eq, Nat.cast_pow, zpow_natCast]
    rfl
  have hpos : (10 : ℚ) ^ (zeros : Int) ≠ 0 := zpow_ne_zero _ (by norm_num)
  rw [value, value, Nat.cast_mul, hten, zpow_sub₀ (by norm_num)]
  field_simp

/-- Nor of the number that is read. -/
theorem ofDecimal_eq (h : Extends y x) (negative : Bool) :
    Double.ofDecimal negative y.digits y.exponent =
      Double.ofDecimal negative x.digits x.exponent := by
  obtain ⟨zeros, rfl⟩ := h
  induction zeros with
  | zero => exact congrArg₂ (Double.ofDecimal negative) (Nat.mul_one _) (Int.sub_zero _)
  | succ zeros ih =>
    have hexp : x.exponent - ((zeros + 1 : Nat) : Int) = x.exponent - zeros - 1 := by omega
    rw [tenTo_succ, ← Nat.mul_assoc, hexp, Double.ofDecimal_mul_ten]
    exact ih

end Extends

/-- A decimal without some of the zeros at its end. -/
theorem extends_trimZeros (fuel : Nat) (x : Decimal) : Extends x (trimZeros fuel x) := by
  induction fuel generalizing x with
  | zero => exact .refl x
  | succ fuel ih =>
    rw [trimZeros]
    split
    · rename_i hzero
      obtain ⟨zeros, hx⟩ := ih ⟨x.digits / 10, x.exponent + 1⟩
      obtain ⟨hdigits, hexp⟩ := Decimal.mk.inj hx
      have htens : x.digits = x.digits / 10 * 10 := (Nat.div_mul_cancel
        (Nat.dvd_of_mod_eq_zero hzero.2)).symm
      have hexp' : x.exponent = (trimZeros fuel ⟨x.digits / 10, x.exponent + 1⟩).exponent -
          ((zeros + 1 : Nat) : Int) := by omega
      refine ⟨zeros + 1, ?_⟩
      rw [← hexp', tenTo_succ, ← Nat.mul_assoc, ← hdigits, ← htens]
    · exact .refl x

/-- **Standing for a number:** the decimal reads back as the number of magnitude
`scaled / 2^1074`, or it is that magnitude itself. -/
def StandsFor (x : Decimal) (scaled : Nat) : Prop :=
  Double.ofDecimal false x.digits x.exponent = .finite false scaled ∨
    x.value = scaled / Double.unitScale

/-- What stands for a number with zeros at its end stands for it without them. -/
theorem StandsFor.trimZeros {x : Decimal} {scaled : Nat} (h : StandsFor x scaled) (fuel : Nat) :
    StandsFor (trimZeros fuel x) scaled := by
  have hx : Extends x (Decimal.trimZeros fuel x) := extends_trimZeros fuel x
  rcases h with h | h
  · exact .inl ((hx.ofDecimal_eq false).symm.trans h)
  · exact .inr (hx.value_eq.symm.trans h)

/-- A neighbour that is chosen reads back. -/
theorem ofDecimal_of_readingBack {scaled a b : Nat} {place : Int} {x : Decimal}
    (h : readingBack scaled a b place = some x) :
    Double.ofDecimal false x.digits x.exponent = .finite false scaled := by
  unfold readingBack at h
  dsimp only at h
  split at h
  · rename_i hlow hhigh
    obtain rfl := Option.some.inj h
    -- The nearer one of the two is one of the two.
    have hle : a / b ≤ roundDiv a b := div_le_roundDiv a b
    have hge : roundDiv a b ≤ a / b + 1 := roundDiv_le a b
    rcases Nat.le_iff_lt_or_eq.1 hge with hlt | heq
    · have heq : roundDiv a b = a / b := Nat.le_antisymm (Nat.le_of_lt_succ hlt) hle
      simpa [heq] using hlow
    · simpa [heq] using hhigh
  · rename_i hlow _
    obtain rfl := Option.some.inj h
    simpa using hlow
  · rename_i _ hhigh
    obtain rfl := Option.some.inj h
    simpa using hhigh
  · cases h

/-- The exact expansion of a number has its value. -/
theorem value_expansion (scaled places : Nat) :
    (expansion scaled places).value = scaled / twoTo places := by
  have hten : (10 : ℚ) ^ places = 2 ^ places * 5 ^ places := by
    rw [← mul_pow]
    norm_num
  have hfive : (5 : ℚ) ^ places ≠ 0 := pow_ne_zero _ (by norm_num)
  have htwo : (2 : ℚ) ^ places ≠ 0 := pow_ne_zero _ (by norm_num)
  rw [value, expansion, zpow_neg, zpow_natCast, hten, twoTo, Nat.pow_eq, Nat.pow_eq]
  push_cast
  field_simp

/-- A decimal of a given number of digits stands for the number, if one is found. -/
theorem standsFor_of_withDigits? {scaled count : Nat} {x : Decimal}
    (h : withDigits? scaled count = some x) : StandsFor x scaled := by
  unfold withDigits? at h
  dsimp only at h
  obtain ⟨y, hy, rfl⟩ := Option.map_eq_some_iff.1 h
  have hstands : StandsFor y scaled := .inl (ofDecimal_of_readingBack hy)
  exact hstands.trimZeros _

/-- Whatever the number of digits it starts from, the search for the shortest decimal ends
with one that stands for the number. -/
theorem standsFor_shortestFrom (scaled tries count : Nat) :
    StandsFor (shortestFrom scaled tries count) scaled := by
  induction tries generalizing count with
  | zero =>
    rw [shortestFrom]
    have hstands : StandsFor (expansion scaled 1074) scaled := .inr (value_expansion scaled 1074)
    exact hstands.trimZeros 1074
  | succ tries ih =>
    rw [shortestFrom]
    cases h : withDigits? scaled count with
    | none => exact ih (count + 1)
    | some x => exact standsFor_of_withDigits? h

/-- **The shortest decimal of a number stands for it:** each decimal that the search tries is
read back before it is taken, and the exact expansion is there for the case that none is. -/
theorem standsFor_shortest (scaled : Nat) : StandsFor (shortest scaled) scaled :=
  standsFor_shortestFrom scaled 17 1

end Decimal

end Recorder
