import DbBenchmark.CsvWriter
import DbBenchmark.FixedPoint

namespace DbBenchmark
open FixedPoint MixedRadix NearestRounding
set_option autoImplicit true

def decimalDigit (d : Nat) : UInt8 := 48 + UInt8.ofNat d

theorem decimalDigit_lt : ∀ i < 10, ∀ j < 10, decimalDigit i < decimalDigit j ↔ i < j := by decide

theorem decimal_eq_numeral (n : Nat) : decimal n = numeral decimalDigit 10 n := by
  rw [decimal, numeral]
  split
  · decide
  · rfl

theorem decimal_eq_digits (hle : 10 ^ width ≤ n) (hlt : n < 10 ^ (width + 1)) :
    decimal n = digits decimalDigit 10 (width + 1) n := by
  rw [decimal_eq_numeral, numeral_eq_digits (by decide) hle hlt]

def decimals : Numerals UInt8 where
  base := 10
  digit := decimalDigit
  value b := b.toNat - 48
  point := 46
  one_lt_base := by decide
  value_digit := by decide
  digit_ne_point := by decide

/-- What a stream prints of a finite `double` under `std::fixed`; the sign of a number that rounds
to 0 is printed too. -/
def printFixed (r : Nearest ℚ) (precision : Nat) (q : ℚ) : CppString :=
  (if q < 0 then lit "-" else []) ++
    decimals.fixed precision (r.round (|q| * 10 ^ precision)).toNat

theorem length_printFixed_le (r : Nearest ℚ) (hq : |q| ≤ 10 ^ width) :
    (printFixed r precision q).length ≤ width + 2 * precision + 4 := by
  have hround : r.round (|q| * 10 ^ precision) ≤ 10 ^ (width + precision) := by
    have hscaled : |q| * 10 ^ precision ≤ (10 ^ (width + precision) : ℤ) := by
      rw [pow_add]
      push_cast
      gcongr
    exact (r.round_mono hscaled).trans_eq (r.round_intCast _)
  have hlt : (r.round (|q| * 10 ^ precision)).toNat < decimals.base ^ (width + precision + 1) := by
    have hbase : (10 : ℤ) ^ (width + precision) = (10 ^ (width + precision) : ℕ) := by norm_cast
    rw [hbase, ← Int.toNat_le] at hround
    exact hround.trans_lt (Nat.pow_lt_pow_right (by decide) (Nat.lt_succ_self _))
  have hfixed : (decimals.fixed precision (r.round (|q| * 10 ^ precision)).toNat).length ≤
      width + precision + 1 + precision + 2 := Numerals.length_fixed_le hlt
  have hsign : (if q < 0 then lit "-" else []).length ≤ 1 := by
    split <;> decide
  rw [printFixed, List.length_append]
  omega

/-- `std::to_string` of a `double` -/
def decimalDouble (q : ℚ) : CppString :=
  (if q < 0 then lit "-" else []) ++ decimals.print 6 |q|

theorem decimalDouble_of_nonneg (hq : 0 ≤ q) : decimalDouble q = decimals.print 6 q := by
  rw [decimalDouble, if_neg hq.not_gt, abs_of_nonneg hq, List.nil_append]

/-- The value of a `double`. Zero has two signs, and a NaN keeps the one it is printed with. -/
inductive Number where
  | finite (q : ℚ)
  | negativeZero
  | infinity (negative : Bool)
  | nan (negative : Bool)

namespace Number

def Bounded : Number → Prop
  | finite q => |q| < 2 ^ 1024
  | _ => True

/-- Comparisons with a NaN fail. -/
def below : Number → ℚ → Bool
  | finite q, bound => q < bound
  | negativeZero, bound => 0 < bound
  | infinity negative, _ => negative
  | nan _, _ => false

def exceeds : Number → ℚ → Bool
  | finite q, bound => bound < q
  | negativeZero, bound => bound < 0
  | infinity negative, _ => !negative
  | nan _, _ => false

def atLeast : Number → ℚ → Bool
  | finite q, bound => bound ≤ q
  | negativeZero, bound => bound ≤ 0
  | infinity negative, _ => !negative
  | nan _, _ => false

def dividedBy : Number → ℚ → Number
  | finite q, unit => finite (q / unit)
  | negativeZero, _ => negativeZero
  | infinity negative, _ => infinity negative
  | nan negative, _ => nan negative

def signed (negative : Bool) (text : CppString) : CppString :=
  if negative then lit "-" ++ text else text

/-- What a stream prints of a `double` under `std::fixed`. -/
def print (r : Nearest ℚ) (precision : Nat) : Number → CppString
  | finite q => printFixed r precision q
  | negativeZero => signed true (printFixed r precision 0)
  | infinity negative => signed negative (lit "inf")
  | nan negative => signed negative (lit "nan")

def Within (width : Nat) : Number → Prop
  | finite q => |q| ≤ 10 ^ width
  | _ => True

theorem Bounded.within {x : Number} (h : x.Bounded) : x.Within 1024 := by
  cases x with
  | finite q => exact h.le.trans (pow_le_pow_left₀ (by norm_num) (by norm_num) 1024)
  | negativeZero => trivial
  | infinity negative => trivial
  | nan negative => trivial

theorem Within.dividedBy {x : Number} (h : x.Within width) (hunit : 1 ≤ unit) :
    (x.dividedBy unit).Within width := by
  cases x with
  | finite q =>
    change |q / unit| ≤ 10 ^ width
    rw [abs_div, abs_of_pos (zero_lt_one.trans_le hunit)]
    exact (div_le_self (abs_nonneg q) hunit).trans h
  | negativeZero => trivial
  | infinity negative => trivial
  | nan negative => trivial

theorem length_signed_le (negative : Bool) (text : CppString) :
    (signed negative text).length ≤ text.length + 1 := by
  rw [signed]
  split
  · exact (List.length_append ..).trans_le (Nat.add_comm _ _).le
  · exact Nat.le_succ _

theorem length_print_le (r : Nearest ℚ) (precision : Nat) {x : Number} (h : x.Within width) :
    (x.print r precision).length ≤ width + 2 * precision + 5 := by
  have hshort (negative : Bool) (text : CppString) (htext : text.length = 3) :
      (signed negative text).length ≤ width + 2 * precision + 5 := by
    have hsigned := length_signed_le negative text
    omega
  cases x with
  | finite q => exact (length_printFixed_le r h).trans (Nat.le_succ _)
  | negativeZero =>
    have hzero : |(0 : ℚ)| ≤ 10 ^ width := by
      rw [abs_zero]
      positivity
    have hprinted : (printFixed r precision 0).length ≤ width + 2 * precision + 4 :=
      length_printFixed_le r hzero
    exact (length_signed_le true _).trans (Nat.succ_le_succ hprinted)
  | infinity negative => exact hshort negative _ rfl
  | nan negative => exact hshort negative _ rfl

end Number

abbrev Binary64 := {x : Number // x.Bounded}

instance : Zero Binary64 := ⟨.finite 0, by simp [Number.Bounded]⟩

/-- A number printed as a multiple of a unit, with the unit behind it, tells the number up to its
last digit. -/
theorem readQuantity_printFixed (r : Nearest ℚ) {units : List (CppString × ℚ)} {name : CppString}
    {unit : ℚ} (hname : ∀ c ∈ name.head?, ¬ decimals.IsNumeral c)
    (hunit : units.lookup name = some unit) (hpos : 0 < unit) (precision : Nat) (hx : 0 ≤ x) :
    decimals.readQuantity units (printFixed r precision (x / unit) ++ name) =
      some ⟨r.toMultiple (unit / 10 ^ precision) x, unit / 10 ^ precision⟩ := by
  have hq : 0 ≤ x / unit := div_nonneg hx hpos.le
  have hscaled : 0 ≤ x / unit * 10 ^ precision := by positivity
  have hround : (((r.round (x / unit * 10 ^ precision)).toNat : ℤ) : ℚ) =
      r.round (x / unit * 10 ^ precision) := by
    rw [Int.toNat_of_nonneg (r.round_nonneg hscaled)]
  have hdiv : x / (unit / 10 ^ precision) = x / unit * 10 ^ precision := by
    rw [div_div_eq_mul_div, mul_div_right_comm]
  have hbase : (decimals.base : ℚ) = 10 := Nat.cast_ofNat
  rw [printFixed, if_neg hq.not_gt, abs_of_nonneg hq, List.nil_append,
    decimals.readQuantity_fixed hname hunit, hbase, ← Int.cast_natCast, hround, Nearest.toMultiple,
    hdiv, div_mul_eq_mul_div, mul_div_assoc]

end DbBenchmark
