/-
# The order of scores

A score is a binary number of 64 bits: a sign, eleven bits of exponent, and the
digits. The bits of the positive numbers, read as one integer, grow with the
number (`Score.Stands.compare_eq`), and infinity is the last of them; beyond it
there is no number, and all with a sign are behind
(`Score.stands_unpack`, `Score.rest_unpack`).

So a positive score compares with another one as their places in the total
order do, unless the other one is no number, and then neither is less
(`Score.le_iff_rank`, `Score.lt_iff_rank`).

Key definitions: `Score.infinityBits`, `Score.Stands`, `Score.Rest`,
`Score.Positive`.
Key theorems: `Score.Stands.compare_eq`, `Score.stands_unpack`,
`Score.rest_unpack`, `Score.le_iff_rank`, `Score.lt_iff_rank`.
-/
import Mathlib
import Tabletop.Text.Similarity

namespace Tabletop
namespace Score

open Float.Model (Format UnpackedFloat)
open Float.Model.UnpackedFloat
open Text (scoreRank)

/-! ### The parts of the bits -/

section Parts

variable {b : BitVec Format.binary64.numBits}

theorem toNat_unpackMantissa (b : BitVec Format.binary64.numBits) :
    (unpackMantissa b).toNat = b.toNat % 2 ^ 52 := by
  simp [unpackMantissa, BitVec.extractLsb]

theorem toNat_unpackExponent (b : BitVec Format.binary64.numBits) :
    (unpackExponent b).toNat = b.toNat / 2 ^ 52 % 2 ^ 11 := by
  simp [unpackExponent, BitVec.extractLsb, Nat.shiftRight_eq_div_pow]

theorem toNat_unpackSign (b : BitVec Format.binary64.numBits) :
    (unpackSign b).toNat = b.toNat / 2 ^ 63 % 2 := by
  simp [unpackSign, BitVec.extractLsb, Nat.shiftRight_eq_div_pow]

theorem mantissa_zeros : unpackMantissa b = 0#_ ↔ b.toNat % 2 ^ 52 = 0 := by
  rw [← toNat_unpackMantissa, ← BitVec.toNat_inj]
  rfl

theorem exponent_zeros : unpackExponent b = 0#_ ↔ b.toNat / 2 ^ 52 % 2 ^ 11 = 0 := by
  rw [← toNat_unpackExponent, ← BitVec.toNat_inj]
  rfl

theorem exponent_ones : unpackExponent b = -1#_ ↔ b.toNat / 2 ^ 52 % 2 ^ 11 = 2047 := by
  rw [← toNat_unpackExponent, ← BitVec.toNat_inj]
  rfl

theorem sign_of_lt (h : b.toNat < 2 ^ 63) : Sign.ofBitVec (unpackSign b) = .positive := by
  have hs := toNat_unpackSign b
  have hzero : unpackSign b = 0#1 :=
    BitVec.eq_of_toNat_eq (by rw [hs, BitVec.toNat_zero]; omega)
  rw [hzero]
  rfl

theorem sign_of_le (h : 2 ^ 63 ≤ b.toNat) : Sign.ofBitVec (unpackSign b) = .negative := by
  have hs := toNat_unpackSign b
  have hlt : b.toNat < 2 ^ 64 := b.isLt
  have hone : unpackSign b = 1#1 :=
    BitVec.eq_of_toNat_eq (by rw [hs, BitVec.toNat_one (by decide)]; omega)
  rw [hone]
  rfl

theorem toNat_normal (m : BitVec 52) : (1#1 ++ m).toNat = 2 ^ 52 + m.toNat := by
  rw [BitVec.toNat_append, ← Nat.shiftLeft_add_eq_or_of_lt m.isLt]
  simp [Nat.shiftLeft_eq]

end Parts

/-! ### Positive numbers -/

/-- The bits of infinity. -/
def infinityBits : Nat := 0x7FF0000000000000

/-- A positive number, with its bits. -/
inductive Stands : UnpackedFloat → Nat → Prop
  | finite {m n : Nat} {e : Int} (hm : 0 < m) (hsize : m < 2 ^ 53) (hleast : -1074 ≤ e)
      (hmost : e ≤ 971) (hnormal : e = -1074 ∨ 2 ^ 52 ≤ m)
      (hn : n = m + (e + 1074).toNat * 2 ^ 52) : Stands (.finite .positive m e hm) n
  | infinity : Stands (.infinity .positive) infinityBits

/-- All that is no positive number. -/
inductive Rest : UnpackedFloat → Prop
  | nan : Rest .notANumber
  | zero (s : Sign) : Rest (.zero s)
  | negative {m : Nat} {e : Int} (hm : 0 < m) : Rest (.finite .negative m e hm)
  | infinity : Rest (.infinity .negative)

variable {u v : UnpackedFloat} {n k : Nat}

/-- **Positive numbers compare as their bits do.** -/
theorem Stands.compare_eq (hu : Stands u n) (hv : Stands v k) :
    u.compare v = some (compare n k) := by
  cases hu with
  | infinity =>
    cases hv with
    | infinity => rfl
    | finite hm hsize hleast hmost hnormal hk =>
      have hlt : k < infinityBits := by unfold infinityBits; omega
      exact congrArg some (Nat.compare_eq_gt.mpr hlt).symm
  | @finite m _ e hm hsize hleast hmost hnormal hn =>
    cases hv with
    | infinity =>
      have hlt : n < infinityBits := by unfold infinityBits; omega
      exact congrArg some (Nat.compare_eq_lt.mpr hlt).symm
    | @finite m' _ e' hm' hsize' hleast' hmost' hnormal' hk =>
      refine congrArg some (show (compare e e').then (compare m m') = compare n k from ?_)
      -- the larger exponent decides, since the digits stay below twice their least value
      rcases Int.lt_trichotomy e e' with h | h | h
      · rw [Int.compare_eq_lt.mpr h, Nat.compare_eq_lt.mpr (show n < k by omega)]
        rfl
      · subst h
        rw [Int.compare_eq_eq.mpr rfl, Ordering.eq_then, hn, hk, Nat.compare_eq_ite_lt,
          Nat.compare_eq_ite_lt]
        simp only [Nat.add_lt_add_iff_right]
      · rw [Int.compare_eq_gt.mpr h, Nat.compare_eq_gt.mpr (show k < n by omega)]
        rfl

/-- What is no positive number is behind all of them, or does not compare. -/
theorem Rest.compare_eq (hv : Rest v) (hu : Stands u n) :
    u.compare v = some .gt ∨ u.compare v = none := by
  cases hu <;> cases hv <;> first | exact .inl rfl | exact .inr rfl

/-! ### Reading the bits -/

section Unpack

variable {b : BitVec Format.binary64.numBits}

/-- **The bits up to those of infinity are positive numbers.** -/
theorem stands_unpack (hpos : 0 < b.toNat) (hle : b.toNat ≤ infinityBits) :
    Stands (unpack Format.binary64 b) b.toNat := by
  have hmost : b.toNat ≤ 0x7FF0000000000000 := hle
  have hm := toNat_unpackMantissa b
  have he := toNat_unpackExponent b
  have hbias : Format.binary64.exponentBias = 1023 := rfl
  unfold unpack
  simp only [sign_of_lt (show b.toNat < 2 ^ 63 by omega)]
  split
  · rename_i hones
    have hones := exponent_ones.mp hones
    have hbits : b.toNat = 0x7FF0000000000000 := by omega
    rw [if_pos (mantissa_zeros.mpr (by omega)), hbits]
    exact .infinity
  · rename_i hones
    have hones := mt exponent_ones.mpr hones
    split
    · rename_i hzeros
      have hzeros := exponent_zeros.mp hzeros
      rw [dif_neg (mt mantissa_zeros.mp (by omega))]
      exact .finite _ (by omega) (by omega) (by omega) (.inl (by omega)) (by omega)
    · rename_i hzeros
      have hzeros := mt exponent_zeros.mpr hzeros
      have hnormal := toNat_normal (unpackMantissa b)
      exact .finite _ (by omega) (by omega) (by omega) (.inr (by omega)) (by omega)

/-- All other bits are none. -/
theorem rest_unpack (h : b.toNat = 0 ∨ infinityBits < b.toNat) :
    Rest (unpack Format.binary64 b) := by
  have h : b.toNat = 0 ∨ 0x7FF0000000000000 < b.toNat := h
  unfold unpack
  simp only
  split
  · rename_i hones
    have hones := exponent_ones.mp hones
    split
    · rename_i hzeros
      have hzeros := mantissa_zeros.mp hzeros
      rw [sign_of_le (by omega)]
      exact .infinity
    · exact .nan
  · rename_i hones
    have hones := mt exponent_ones.mpr hones
    split
    · rename_i hzeros
      have hzeros := exponent_zeros.mp hzeros
      split
      · exact .zero _
      · rename_i hdigits
        have hdigits := mt mantissa_zeros.mpr hdigits
        rw [sign_of_le (by omega)]
        exact .negative _
    · rename_i hzeros
      have hzeros := mt exponent_zeros.mpr hzeros
      rw [sign_of_le (by omega)]
      exact .negative _

theorem unpack_eq_notANumber (h : infinityBits < b.toNat) (hlt : b.toNat < 2 ^ 63) :
    unpack Format.binary64 b = .notANumber := by
  have h : 0x7FF0000000000000 < b.toNat := h
  unfold unpack
  simp only
  rw [if_pos (exponent_ones.mpr (by omega)), if_neg (mt mantissa_zeros.mp (by omega))]

end Unpack

/-! ### Scores -/

variable {x y : Float}

/-- A score above zero. -/
def Positive (x : Float) : Prop :=
  0 < x.toBits.toNat ∧ x.toBits.toNat ≤ infinityBits

theorem Positive.stands (h : Positive x) : Stands x.toModel.unpack x.toBits.toNat :=
  stands_unpack h.1 h.2

theorem rest_of_not_positive (h : ¬Positive x) : Rest x.toModel.unpack := by
  refine rest_unpack (show x.toBits.toNat = 0 ∨ infinityBits < x.toBits.toNat from ?_)
  unfold Positive at h
  omega

theorem le_iff (hx : Positive x) :
    x ≤ y ↔ Positive y ∧ x.toBits.toNat ≤ y.toBits.toNat := by
  have hcompare : x ≤ y ↔ (x.toModel.unpack.compare y.toModel.unpack).any (·.isLE) = true :=
    decide_eq_true_iff
  rw [hcompare]
  by_cases hy : Positive y
  · rw [hx.stands.compare_eq hy.stands, Option.any_some, Nat.isLE_compare]
    exact ⟨fun h => ⟨hy, h⟩, fun h => h.2⟩
  · refine ⟨fun h => ?_, fun h => absurd h.1 hy⟩
    rcases (rest_of_not_positive hy).compare_eq hx.stands with hc | hc <;> rw [hc] at h <;> cases h

theorem lt_iff (hx : Positive x) :
    x < y ↔ Positive y ∧ x.toBits.toNat < y.toBits.toNat := by
  have hcompare : x < y ↔ (x.toModel.unpack.compare y.toModel.unpack == some .lt) = true :=
    decide_eq_true_iff
  rw [hcompare]
  by_cases hy : Positive y
  · rw [hx.stands.compare_eq hy.stands, beq_iff_eq, Option.some.injEq, Nat.compare_eq_lt]
    exact ⟨fun h => ⟨hy, h⟩, fun h => h.2⟩
  · refine ⟨fun h => ?_, fun h => absurd h.1 hy⟩
    rcases (rest_of_not_positive hy).compare_eq hx.stands with hc | hc <;> rw [hc] at h <;> cases h

/-! ### The total order -/

theorem scoreRank_of_lt (h : x.toBits.toNat < 2 ^ 63) : scoreRank x = x.toBits.toNat := by
  have hsign : x.toBits.toNat.testBit 63 = false := Nat.testBit_lt_two_pow h
  unfold scoreRank
  simp only [hsign, Bool.false_eq_true, if_false]

theorem scoreRank_of_le (h : 2 ^ 63 ≤ x.toBits.toNat) : scoreRank x < 0 := by
  have hlt := x.toBits.toNat_lt
  have hsign : x.toBits.toNat.testBit 63 = true := by
    rw [Nat.testBit_eq_decide_div_mod_eq, decide_eq_true_eq]
    omega
  have hmost : Int64.maxValue.toInt = 2 ^ 63 - 1 := rfl
  unfold scoreRank
  simp only [hsign, if_true, hmost]
  omega

theorem Positive.scoreRank (h : Positive x) : scoreRank x = x.toBits.toNat := by
  have hle : x.toBits.toNat ≤ 0x7FF0000000000000 := h.2
  exact scoreRank_of_lt (by omega)

theorem Positive.isNaN (h : Positive x) : x.isNaN = false := by
  have hstands := h.stands
  show x.toModel.unpack.isNaN = false
  cases hu : x.toModel.unpack with
  | notANumber =>
    rw [hu] at hstands
    cases hstands
  | infinity s => rfl
  | zero s => rfl
  | finite s m e hm => rfl

theorem positive_of_rank (hnumber : x.isNaN = false) (h : 0 < scoreRank x) : Positive x := by
  have hlt : x.toBits.toNat < 2 ^ 63 := Nat.lt_of_not_le fun hle => by
    have := scoreRank_of_le hle
    omega
  have hrank := scoreRank_of_lt hlt
  refine ⟨by omega, Nat.le_of_not_lt fun hbeyond => ?_⟩
  have hnan : x.toModel.unpack = .notANumber := unpack_eq_notANumber hbeyond hlt
  have hisNaN : x.isNaN = true := congrArg UnpackedFloat.isNaN hnan
  rw [hnumber] at hisNaN
  cases hisNaN

/-- **A positive score is at most another one** exactly if that is a number and
has no place before it. -/
theorem le_iff_rank (hx : Positive x) :
    x ≤ y ↔ y.isNaN = false ∧ scoreRank x ≤ scoreRank y := by
  have hpos := hx.1
  rw [le_iff hx, hx.scoreRank]
  constructor
  · rintro ⟨hy, h⟩
    exact ⟨hy.isNaN, by rw [hy.scoreRank]; omega⟩
  · rintro ⟨hnumber, h⟩
    have hy := positive_of_rank hnumber (by omega)
    rw [hy.scoreRank] at h
    exact ⟨hy, by omega⟩

/-- **A positive score is below another one** exactly if that is a number and has
a place after it. -/
theorem lt_iff_rank (hx : Positive x) :
    x < y ↔ y.isNaN = false ∧ scoreRank x < scoreRank y := by
  have hpos := hx.1
  rw [lt_iff hx, hx.scoreRank]
  constructor
  · rintro ⟨hy, h⟩
    exact ⟨hy.isNaN, by rw [hy.scoreRank]; omega⟩
  · rintro ⟨hnumber, h⟩
    have hy := positive_of_rank hnumber (by omega)
    rw [hy.scoreRank] at h
    exact ⟨hy, by omega⟩

end Score
end Tabletop
