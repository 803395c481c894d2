/-
# The range of binary64 numbers

Which timestamps `apply_think_time` (`SPEC_FULL.md` §5) can take for finite numbers, and
which whole numbers the data model (§1) takes for binary64 ones.

A quotient rounds to a finite number just if it lies below `2^1024 - 2^970`, halfway
between the greatest finite number and `2^1024` (`Double.isFinite_ofRatio`).  The
quotient halfway itself is a tie, and the even neighbour is `2^1024`.

Both bounds are shown on natural numbers, with the exponent kept as a variable, so that no
power of two is ever computed.
-/

import Mathlib.Tactic.Ring
import Recorder.Number.Double

namespace Recorder

theorem twoTo_eq (n : Nat) : twoTo n = 2 ^ n := rfl

/-- No power of two is zero, so each can be divided by. -/
theorem twoTo_pos (n : Nat) : 0 < twoTo n := Nat.two_pow_pos n

/-- **A rounded quotient stays below an even number** just if the quotient is nearer to
the number before it. -/
theorem roundDiv_lt_succ_iff {n d k : Nat} (hd : 0 < d) (hk : k % 2 = 1) :
    roundDiv n d < k + 1 ↔ 2 * n < (2 * k + 1) * d := by
  have hn : d * (n / d) + n % d = n := Nat.div_add_mod n d
  have hr : n % d < d := Nat.mod_lt n hd
  have hmul : (2 * k + 1) * d = 2 * (d * k) + d := by ring
  rcases Nat.lt_trichotomy (n / d) k with hlt | heq | hgt
  · have hle : roundDiv n d ≤ n / d + 1 := roundDiv_le n d
    have hstep : d * (n / d) + d ≤ d * k := by
      rw [← Nat.mul_succ]
      exact Nat.mul_le_mul_left d hlt
    constructor <;> intro _ <;> omega
  · -- Only here does the rest decide, and a tie goes up.
    have hround : roundDiv n d < k + 1 ↔ 2 * (n % d) < d := by
      simp only [roundDiv, heq, hk]
      split
      · omega
      · split <;> omega
    rw [hround, hmul]
    rw [heq] at hn
    omega
  · have hge : n / d ≤ roundDiv n d := div_le_roundDiv n d
    have hstep : d * k + d ≤ d * (n / d) := by
      rw [← Nat.mul_succ]
      exact Nat.mul_le_mul_left d hgt
    constructor <;> intro _ <;> omega

namespace Double

/-- The least whole number whose magnitude is out of range. -/
def rangeEnd : Nat := twoTo 1024 - twoTo 970

/-- **Rounding to 53 bits stays below a power of two** just if the quotient lies below
the middle between that power and the number before it. -/
theorem roundScaled_lt_iff {a d : Nat} (hd : 0 < d) (p : Nat) :
    roundScaled a d < 2 ^ (p + 54) ↔ a < (2 ^ 54 - 1) * (d * 2 ^ p) := by
  have hpos : 0 < 2 ^ p := Nat.two_pow_pos p
  have hwhole : d * (a / d) + a % d = a := Nat.div_add_mod a d
  have hrest : a % d < d := Nat.mod_lt a hd
  -- Quotients of at most `e` bits are small enough, those of more are too large.
  have hbelow {e : Nat} (he : e ≤ p + 53) (h : a / d < 2 ^ e) : a < (2 ^ 54 - 1) * (d * 2 ^ p) := by
    have hle : a / d + 1 ≤ 2 ^ (p + 53) := h.trans_le (Nat.pow_le_pow_right (by decide) he)
    have hmul : d * (a / d) + d ≤ d * 2 ^ (p + 53) := by
      rw [← Nat.mul_succ]
      exact Nat.mul_le_mul_left d hle
    have hpow : d * 2 ^ (p + 53) = 2 ^ 53 * (d * 2 ^ p) := by ring
    omega
  have habove (h : 2 ^ (p + 54) ≤ a / d) : ¬ a < (2 ^ 54 - 1) * (d * 2 ^ p) := by
    have hmul : d * 2 ^ (p + 54) ≤ d * (a / d) := Nat.mul_le_mul_left d h
    have hpow : d * 2 ^ (p + 54) = 2 ^ 54 * (d * 2 ^ p) := by ring
    omega
  rw [roundScaled]
  dsimp only
  split
  · rename_i hsmall
    have hround : roundDiv a d ≤ 2 ^ 53 := (roundDiv_le a d).trans hsmall
    have hpow : 2 ^ 53 < 2 ^ (p + 54) := Nat.pow_lt_pow_right (by decide) (by omega)
    exact iff_of_true (hround.trans_lt hpow) (hbelow (Nat.le_add_left 53 p) hsmall)
  · rename_i hlarge
    have hne : a / d ≠ 0 := fun h => hlarge (h ▸ Nat.two_pow_pos 53)
    have hlow : 2 ^ (a / d).log2 ≤ a / d := Nat.log2_self_le hne
    have hhigh : a / d < 2 ^ ((a / d).log2 + 1) := Nat.lt_log2_self
    have hlog : 53 ≤ (a / d).log2 := by
      by_contra hlt
      exact hlarge (hhigh.trans_le (Nat.pow_le_pow_right (by decide) (by omega)))
    generalize (a / d).log2 = l at *
    obtain ⟨s, rfl⟩ : ∃ s, l = s + 53 := ⟨l - 53, by omega⟩
    have hshift : s + 53 + 1 - 53 = s + 1 := by omega
    rw [hshift, twoTo_eq]
    have hstep : 0 < d * 2 ^ (s + 1) := Nat.mul_pos hd (Nat.two_pow_pos _)
    have hquot : a / (d * 2 ^ (s + 1)) = a / d / 2 ^ (s + 1) := (Nat.div_div_eq_div_mul a d _).symm
    rcases Nat.lt_trichotomy s p with hlt | rfl | hgt
    · have hround : roundDiv a (d * 2 ^ (s + 1)) ≤ 2 ^ 53 := by
        refine (roundDiv_le _ _).trans ?_
        rw [hquot, Nat.succ_le_iff, Nat.div_lt_iff_lt_mul (Nat.two_pow_pos _), ← Nat.pow_add]
        exact hhigh.trans_eq (congrArg (2 ^ ·) (by omega))
      have hprod : roundDiv a (d * 2 ^ (s + 1)) * 2 ^ (s + 1) < 2 ^ (p + 54) := by
        refine (Nat.mul_le_mul_right _ hround).trans_lt ?_
        rw [← Nat.pow_add]
        exact Nat.pow_lt_pow_right (by decide) (by omega)
      exact iff_of_true hprod (hbelow (by omega) hhigh)
    · have hsplit : 2 ^ (s + 54) = (2 ^ 53 - 1 + 1) * 2 ^ (s + 1) := by
        rw [Nat.sub_add_cancel (Nat.two_pow_pos 53), ← Nat.pow_add]
        exact congrArg (2 ^ ·) (by omega)
      have hdouble : d * 2 ^ (s + 1) = 2 * (d * 2 ^ s) := by ring
      rw [hsplit, Nat.mul_lt_mul_right (Nat.two_pow_pos _), roundDiv_lt_succ_iff hstep (by decide),
        hdouble]
      omega
    · have hround : 2 ^ 52 ≤ roundDiv a (d * 2 ^ (s + 1)) := by
        refine Nat.le_trans ?_ (div_le_roundDiv _ _)
        rw [hquot, Nat.le_div_iff_mul_le (Nat.two_pow_pos _), ← Nat.pow_add]
        exact (congrArg (2 ^ ·) (by omega : 52 + (s + 1) = s + 53)).trans_le hlow
      have hprod : 2 ^ (p + 54) ≤ roundDiv a (d * 2 ^ (s + 1)) * 2 ^ (s + 1) := by
        refine Nat.le_trans ?_ (Nat.mul_le_mul_right _ hround)
        rw [← Nat.pow_add]
        exact Nat.pow_le_pow_right (by decide) (by omega)
      refine iff_of_false (Nat.not_lt.2 hprod) (habove (Nat.le_trans ?_ hlow))
      exact Nat.pow_le_pow_right (by decide) (by omega)

/-- **A quotient rounds to a finite number** just if it is in range: the end of the range lies
in the middle between the greatest finite number and the next power of two, and rounds to
infinity itself. -/
theorem isFinite_ofRatio (negative : Bool) (n : Nat) {d : Nat} (hd : 0 < d) :
    (ofRatio negative n d).isFinite = true ↔ n < rangeEnd * d := by
  have hscaled : (ofRatio negative n d).isFinite = true ↔
      roundScaled (n * unitScale) d < 2 ^ (2044 + 54) := by
    have hend : overflowScale = twoTo (2044 + 54) := rfl
    rw [ofRatio, ofScaled, hend, twoTo_eq]
    split
    · exact iff_of_true rfl ‹_›
    · exact iff_of_false Bool.false_ne_true ‹_›
  have hunit : (2 ^ 54 - 1) * (d * 2 ^ 2044) = rangeEnd * d * unitScale := by
    have hrange : rangeEnd = (2 ^ 54 - 1) * 2 ^ 970 := by decide +kernel
    have hpow : (2 : Nat) ^ 2044 = 2 ^ 970 * unitScale := by
      rw [unitScale, twoTo_eq, ← Nat.pow_add]
    rw [hrange, hpow]
    generalize (2 : Nat) ^ 970 = half
    ring
  have hpos : 0 < unitScale := twoTo_pos 1074
  rw [hscaled, roundScaled_lt_iff hd, hunit, Nat.mul_lt_mul_right hpos]

/-- **A whole number has a binary64 number nearby** just if it is in range, whatever its sign.
The end of the range is `2^1024 - 2^970`. -/
theorem isSome_ofInt? (n : Int) : (ofInt? n).isSome = true ↔ n.natAbs < rangeEnd := by
  have hfinite : (ofInt? n).isSome = (ofRatio (n < 0) n.natAbs 1).isFinite := by
    -- Opened without its argument: with it, the kernel would carry out the rounding.
    have hopen : ofInt? = ofInt? := rfl
    conv at hopen => rhs; delta ofInt?
    rw [congrFun hopen n]
    generalize ofRatio (n < 0) n.natAbs 1 = x
    cases x <;> rfl
  rw [hfinite, isFinite_ofRatio _ _ Nat.one_pos, Nat.mul_one]

end Double
end Recorder
