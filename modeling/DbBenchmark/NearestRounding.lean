import Mathlib.Algebra.Order.Field.Basic
import Mathlib.Tactic.Linarith
import Mathlib.Tactic.NormNum
import Mathlib.Tactic.Ring

namespace NearestRounding
set_option autoImplicit true

/-- A rounding to the nearest integer, whatever it does with a tie. -/
structure Nearest (K : Type) [Field K] [LinearOrder K] where
  round : K → ℤ
  abs_round_sub_le : ∀ a, |(round a : K) - a| ≤ 1 / 2

variable {K : Type} [Field K] [LinearOrder K] [IsStrictOrderedRing K]

namespace Nearest

variable (r : Nearest K) {a b step x y : K} {n : ℤ}

theorem round_mono (h : a ≤ b) : r.round a ≤ r.round b := by
  rcases h.eq_or_lt with rfl | hlt
  · rfl
  -- results in the wrong order would have `b` below and `a` above the half between them
  by_contra hgt
  have hstep : ((r.round b + 1 : ℤ) : K) ≤ r.round a := Int.cast_le.2 (not_le.1 hgt)
  have ha := abs_le.1 (r.abs_round_sub_le a)
  have hb := abs_le.1 (r.abs_round_sub_le b)
  push_cast at hstep
  linarith

theorem round_intCast (n : ℤ) : r.round n = n := by
  have h := r.abs_round_sub_le (n : K)
  have hlt : |((r.round n - n : ℤ) : K)| < 1 := by
    push_cast
    linarith
  rw [← Int.cast_abs, ← Int.cast_one, Int.cast_lt, Int.abs_lt_one_iff] at hlt
  exact sub_eq_zero.1 hlt

theorem round_nonneg (h : 0 ≤ a) : 0 ≤ r.round a := by
  have hzero := r.round_intCast 0
  rw [Int.cast_zero] at hzero
  rw [← hzero]
  exact r.round_mono h

def toMultiple (step x : K) : K := r.round (x / step) * step

theorem abs_toMultiple_sub_le (hstep : 0 < step) (x : K) :
    |r.toMultiple step x - x| ≤ step / 2 := by
  have hround := r.abs_round_sub_le (x / step)
  have heq : r.toMultiple step x - x = (r.round (x / step) - x / step) * step := by
    rw [toMultiple, sub_mul, div_mul_cancel₀ _ hstep.ne']
  rw [heq, abs_mul, abs_of_pos hstep]
  calc |(r.round (x / step) : K) - x / step| * step ≤ 1 / 2 * step :=
        mul_le_mul_of_nonneg_right hround hstep.le
    _ = step / 2 := by ring

theorem toMultiple_mono (hstep : 0 < step) (h : x ≤ y) :
    r.toMultiple step x ≤ r.toMultiple step y := by
  have hround := r.round_mono ((div_le_div_iff_of_pos_right hstep).2 h)
  exact mul_le_mul_of_nonneg_right (Int.cast_le.2 hround) hstep.le

theorem toMultiple_mul (hstep : 0 < step) (n : ℤ) : r.toMultiple step (n * step) = n * step := by
  rw [toMultiple, mul_div_cancel_right₀ _ hstep.ne', round_intCast]

end Nearest

/-- Below its limit a value is rounded to one step, and from there on as the rest says. -/
inductive Bands (K : Type)
  | top (step : K)
  | upTo (limit step : K) (rest : Bands K)

namespace Bands

def stepAt : Bands K → K → K
  | top step, _ => step
  | upTo limit step rest, x => if x < limit then step else rest.stepAt x

def shown (r : Nearest K) (bands : Bands K) (x : K) : K := r.toMultiple (bands.stepAt x) x

/-- The limits rise from `low` on, and the steps of both sides divide each of them. -/
inductive Aligned : K → Bands K → Prop
  | top {low step : K} : 0 < step → (∃ n : ℤ, low = n * step) → Aligned low (.top step)
  | upTo {low limit step : K} {rest : Bands K} : 0 < step → (∃ n : ℤ, low = n * step) →
      low ≤ limit → (∃ n : ℤ, limit = n * step) → Aligned limit rest →
      Aligned low (.upTo limit step rest)

variable {r : Nearest K} {bands : Bands K} {low limit step x y : K}

omit [IsStrictOrderedRing K] in
theorem Aligned.stepAt_pos (h : Aligned low bands) (x : K) : 0 < bands.stepAt x := by
  induction h with
  | top hstep _ => exact hstep
  | upTo hstep _ _ _ _ ih =>
    rw [stepAt]
    split
    · exact hstep
    · exact ih

theorem Aligned.abs_shown_sub_le (h : Aligned low bands) (x : K) :
    |bands.shown r x - x| ≤ bands.stepAt x / 2 :=
  r.abs_toMultiple_sub_le (h.stepAt_pos x) x

theorem le_toMultiple (hstep : 0 < step) (hlow : ∃ n : ℤ, low = n * step) (h : low ≤ x) :
    low ≤ r.toMultiple step x := by
  obtain ⟨n, rfl⟩ := hlow
  rw [← r.toMultiple_mul hstep n]
  exact r.toMultiple_mono hstep h

theorem toMultiple_le (hstep : 0 < step) (hlimit : ∃ n : ℤ, limit = n * step) (h : x ≤ limit) :
    r.toMultiple step x ≤ limit := by
  obtain ⟨n, rfl⟩ := hlimit
  rw [← r.toMultiple_mul hstep n]
  exact r.toMultiple_mono hstep h

theorem Aligned.le_shown (h : Aligned low bands) (hx : low ≤ x) : low ≤ bands.shown r x := by
  induction h with
  | top hstep hlow => exact le_toMultiple hstep hlow hx
  | upTo hstep hlow hle _ _ ih =>
    rw [shown, stepAt]
    split
    · exact le_toMultiple hstep hlow hx
    · rename_i hlt
      exact hle.trans (ih (not_lt.1 hlt))

/-- No rounding carries a value past one of the next band. -/
theorem Aligned.shown_mono (h : Aligned low bands) (hxy : x ≤ y) :
    bands.shown r x ≤ bands.shown r y := by
  induction h with
  | top hstep _ => exact r.toMultiple_mono hstep hxy
  | @upTo low limit step rest hstep _ _ hlimit hrest ih =>
    rw [shown, shown, stepAt, stepAt]
    rcases lt_or_ge x limit with hx | hx
    · rw [if_pos hx]
      split
      · exact r.toMultiple_mono hstep hxy
      · rename_i hy
        exact (toMultiple_le hstep hlimit hx.le).trans (hrest.le_shown (not_lt.1 hy))
    · rw [if_neg hx.not_gt, if_neg (hx.trans hxy).not_gt]
      exact ih

end Bands

end NearestRounding
