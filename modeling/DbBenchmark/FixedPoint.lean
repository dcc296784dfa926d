import DbBenchmark.MixedRadix
import DbBenchmark.NearestRounding
import Mathlib.Algebra.Order.Round
import Mathlib.Algebra.Order.Archimedean.Basic
import Mathlib.Data.List.TakeWhile
import Mathlib.Data.Nat.Cast.Order.Field
import Mathlib.Data.Rat.Floor
import Mathlib.Tactic.Linarith
import Mathlib.Tactic.NormNum

namespace FixedPoint
open MixedRadix NearestRounding
set_option autoImplicit true

section Rounding

variable {K : Type} [Field K] [LinearOrder K] [IsStrictOrderedRing K] [FloorRing K]

def roundHalfEven (a : K) : ℤ := if Int.fract a = 1 / 2 then ⌊a⌋ + ⌊a⌋ % 2 else round a

theorem abs_roundHalfEven_sub_le (a : K) : |(roundHalfEven a : K) - a| ≤ 1 / 2 := by
  rw [roundHalfEven]
  split
  · rename_i htie
    have ha : (⌊a⌋ : K) = a - 1 / 2 := by
      rw [← htie]
      exact eq_sub_of_add_eq (Int.floor_add_fract a)
    rcases Int.emod_two_eq_zero_or_one ⌊a⌋ with hmod | hmod
    · rw [hmod, add_zero, ha, abs_le]
      exact ⟨by linarith, by linarith⟩
    · rw [hmod, Int.cast_add, ha, Int.cast_one, abs_le]
      exact ⟨by linarith, by linarith⟩
  · rw [abs_sub_comm]
    exact abs_sub_round a

def halfEven : Nearest K := ⟨roundHalfEven, abs_roundHalfEven_sub_le⟩

/-- Just below an even number the tie goes up to it. -/
theorem roundHalfEven_lt_iff {n : ℤ} (hn : Even n) (a : K) :
    roundHalfEven a < n ↔ a < n - 1 / 2 := by
  rw [roundHalfEven]
  split
  · rename_i htie
    have ha : a = ⌊a⌋ + 1 / 2 := by
      rw [← htie]
      exact (Int.floor_add_fract a).symm
    have hfloor : a < n - 1 / 2 ↔ ⌊a⌋ + 1 < n := by
      rw [← Int.cast_lt (R := K), Int.cast_add, Int.cast_one]
      exact ⟨fun h => by linarith, fun h => by linarith⟩
    obtain ⟨k, rfl⟩ := hn
    rw [hfloor]
    omega
  · rw [round_eq, Int.floor_lt, lt_sub_iff_add_lt]

end Rounding

structure Numerals (α : Type) where
  base : ℕ
  digit : ℕ → α
  value : α → ℕ
  point : α
  one_lt_base : 1 < base
  value_digit : ∀ d < base, value (digit d) = d
  digit_ne_point : ∀ d < base, digit d ≠ point

namespace Numerals

variable {α : Type} (s : Numerals α)

def units (places : ℕ) (q : ℚ) : ℕ := (roundHalfEven (q * s.base ^ places)).toNat

def print (places : ℕ) (q : ℚ) : List α :=
  let m := s.units places q
  numeral s.digit s.base (m / s.base ^ places) ++
    s.point :: digits s.digit s.base places (m % s.base ^ places)

def read [DecidableEq α] (text : List α) : ℚ :=
  let fraction := (text.dropWhile (· ≠ s.point)).tail
  readDigits s.value s.base (text.takeWhile (· ≠ s.point)) +
    readDigits s.value s.base fraction / s.base ^ fraction.length

theorem base_pos : 0 < s.base := Nat.zero_lt_of_lt s.one_lt_base

theorem pow_pos (k : ℕ) : (0 : ℚ) < s.base ^ k := by
  have hbase : (0 : ℚ) < s.base := Nat.cast_pos.2 s.base_pos
  positivity

theorem cast_div_pow (places n : ℕ) : (n : ℚ) / s.base ^ places =
    (n / s.base ^ places : ℕ) + (n % s.base ^ places : ℕ) / s.base ^ places := by
  have hsplit := Nat.div_add_mod' n (s.base ^ places)
  have hpos := s.pow_pos places
  rw [div_eq_iff hpos.ne', add_mul, div_mul_cancel₀ _ hpos.ne']
  exact_mod_cast hsplit.symm

variable {s} {places cut width n : ℕ} {q : ℚ}

theorem units_eq (hq : 0 ≤ q) : (s.units places q : ℤ) = roundHalfEven (q * s.base ^ places) := by
  have hscaled : 0 ≤ q * s.base ^ places := mul_nonneg hq (s.pow_pos places).le
  exact Int.toNat_of_nonneg (halfEven.round_nonneg hscaled)

theorem abs_units_sub_le (s : Numerals α) (places : ℕ) (hq : 0 ≤ q) :
    |(s.units places q : ℚ) / s.base ^ places - q| ≤ 1 / (2 * s.base ^ places) := by
  have hpos := s.pow_pos places
  have hround := abs_roundHalfEven_sub_le (q * s.base ^ places : ℚ)
  have heq : (s.units places q : ℚ) / s.base ^ places - q =
      (roundHalfEven (q * s.base ^ places) - q * s.base ^ places) / s.base ^ places := by
    rw [← units_eq hq, Int.cast_natCast, sub_div, mul_div_cancel_right₀ _ hpos.ne']
  rw [heq, abs_div, abs_of_pos hpos, ← div_div]
  exact (div_le_div_iff_of_pos_right hpos).2 hround

theorem units_lt_iff (hn : Even n) (hq : 0 ≤ q) :
    s.units places q < n ↔ q < (n - 1 / 2) / s.base ^ places := by
  have hround := roundHalfEven_lt_iff (n := n) (by simpa using hn) (q * s.base ^ places : ℚ)
  rw [← units_eq hq, Nat.cast_lt, Int.cast_natCast] at hround
  rw [hround, lt_div_iff₀ (s.pow_pos places)]

/-- The printed number has at most `cut` digits before the point. -/
theorem whole_lt_iff (heven : Even s.base) (hcut : 0 < cut) (hq : 0 ≤ q) :
    s.units places q / s.base ^ places < s.base ^ cut ↔
      q < s.base ^ cut - 1 / (2 * s.base ^ places) := by
  have hpow : Even (s.base ^ cut * s.base ^ places) :=
    (Nat.even_pow.2 ⟨heven, hcut.ne'⟩).mul_right _
  have hpos := s.pow_pos places
  have hbound : ((s.base ^ cut * s.base ^ places : ℕ) - 1 / 2 : ℚ) / s.base ^ places =
      s.base ^ cut - 1 / (2 * s.base ^ places) := by
    push_cast
    rw [sub_div, mul_div_cancel_right₀ _ hpos.ne', div_div]
  rw [Nat.div_lt_iff_lt_mul (Nat.pow_pos s.base_pos), units_lt_iff hpow hq, hbound]

section Read

variable [DecidableEq α]

theorem digits_ne_point (s : Numerals α) (width n : ℕ) :
    ∀ c ∈ digits s.digit s.base width n, decide (c ≠ s.point) = true := by
  intro c hc
  obtain ⟨d, hd, rfl⟩ := digits_subset s.base_pos hc
  exact decide_eq_true (s.digit_ne_point d hd)

theorem read_digits (hn : n < s.base ^ width) : s.read (digits s.digit s.base width n) = n := by
  have hne := digits_ne_point s width n
  rw [read, List.takeWhile_eq_self_iff.2 hne, List.dropWhile_eq_nil_iff.2 hne,
    readDigits_digits s.value_digit hn]
  simp [readDigits]

theorem read_digits_point (hn : n < s.base ^ width) (hm : m < s.base ^ places) :
    s.read (digits s.digit s.base width n ++ s.point :: digits s.digit s.base places m) =
      n + m / s.base ^ places := by
  have hne := digits_ne_point s width n
  rw [read, List.takeWhile_append_of_pos hne, List.dropWhile_append_of_pos hne,
    List.takeWhile_cons_of_neg (by simp), List.dropWhile_cons_of_neg (by simp), List.append_nil,
    List.tail_cons, readDigits_digits s.value_digit hn, readDigits_digits s.value_digit hm,
    length_digits]

/-- A cut behind the whole part takes away less than the fraction. -/
theorem read_take_of_le (hw : w < s.base ^ width) (hf : f < s.base ^ places) (hcut : width ≤ cut)
    (hplaces : cut ≤ width + 1 + places) :
    ∃ v : ℚ, s.read ((digits s.digit s.base width w ++
      s.point :: digits s.digit s.base places f).take cut) = w + v ∧
      0 ≤ v ∧ v ≤ f / s.base ^ places := by
  obtain ⟨kept, rfl⟩ := Nat.exists_eq_add_of_le hcut
  have hlen : (digits s.digit s.base width w).length = width := by simp
  rw [List.take_append, List.take_of_length_le (by omega), hlen, Nat.add_sub_cancel_left]
  cases kept with
  | zero =>
    refine ⟨0, ?_, le_rfl, div_nonneg (Nat.cast_nonneg f) (s.pow_pos places).le⟩
    rw [List.take_zero, List.append_nil, read_digits hw, add_zero]
  | succ kept =>
    obtain ⟨rest, rfl⟩ := Nat.exists_eq_add_of_le (show kept ≤ places by omega)
    have hdiv : f / s.base ^ rest < s.base ^ kept :=
      Nat.div_lt_of_lt_mul (by rwa [← pow_add, add_comm])
    have hpos := s.pow_pos kept
    refine ⟨(f / s.base ^ rest : ℕ) / s.base ^ kept, ?_, by positivity, ?_⟩
    · rw [List.take_succ_cons, take_digits, read_digits_point hw hdiv]
    · rw [add_comm kept, pow_add, ← div_div]
      exact (div_le_div_iff_of_pos_right hpos).2 (by exact_mod_cast Nat.cast_div_le)

/-- A cut inside the whole part divides the number by the base at least. -/
theorem read_take_of_lt (hw : w < s.base ^ width) (hcut : cut < width) (rest : List α) :
    s.read ((digits s.digit s.base width w ++ rest).take cut) ≤ w / s.base := by
  obtain ⟨lost, rfl⟩ := Nat.exists_eq_add_of_lt hcut
  have hdiv : w / s.base ^ (lost + 1) < s.base ^ cut :=
    Nat.div_lt_of_lt_mul (by rwa [← pow_add, add_comm, ← add_assoc])
  have hbase : s.base ≤ s.base ^ (lost + 1) := Nat.le_self_pow (Nat.succ_ne_zero lost) s.base
  rw [List.take_append_of_le_length (by simpa using hcut.le), add_assoc, take_digits,
    read_digits hdiv]
  calc ((w / s.base ^ (lost + 1) : ℕ) : ℚ) ≤ (w / s.base : ℕ) :=
        Nat.cast_le.2 (Nat.div_le_div_left hbase s.base_pos)
    _ ≤ w / s.base := Nat.cast_div_le

theorem abs_read_take_print_sub_lt_one (hcut : 0 < cut) (hplaces : cut ≤ places + 2) (hq : 0 ≤ q)
    (hw : s.units places q / s.base ^ places < s.base ^ cut) :
    |s.read ((s.print places q).take cut) - q| < 1 := by
  obtain ⟨width, hdigits, hlt, hge⟩ :=
    exists_numeral_eq_digits s.digit s.one_lt_base (s.units places q / s.base ^ places)
  have hwidth : width + 1 ≤ cut := by
    rcases hge with hge | rfl
    · exact (Nat.pow_lt_pow_iff_right s.one_lt_base).1 (hge.trans_lt hw)
    · exact hcut
  have hmod := Nat.mod_lt (s.units places q) (Nat.pow_pos s.base_pos : 0 < s.base ^ places)
  obtain ⟨v, hread, hv, hvle⟩ := read_take_of_le hlt hmod hwidth (by omega)
  rw [print, hdigits, hread]
  have hpos := s.pow_pos places
  have hround := abs_le.1 (abs_units_sub_le s places hq)
  have hsplit := cast_div_pow s places (s.units places q)
  have hlast : ((s.units places q % s.base ^ places : ℕ) : ℚ) / s.base ^ places ≤
      1 - 1 / s.base ^ places := by
    rw [le_sub_iff_add_le, ← add_div, div_le_one hpos]
    exact_mod_cast hmod
  have hhalf : (1 : ℚ) / (2 * s.base ^ places) = 1 / s.base ^ places / 2 := by
    rw [mul_comm, div_div]
  have hunit : (0 : ℚ) < 1 / s.base ^ places := one_div_pos.2 hpos
  rw [hhalf] at hround
  rw [abs_lt]
  exact ⟨by linarith, by linarith⟩

theorem one_le_abs_read_take_print_sub (hbase : 2 < s.base) (hcut : 0 < cut) (hq : 0 ≤ q)
    (hw : s.base ^ cut ≤ s.units places q / s.base ^ places) :
    1 ≤ |s.read ((s.print places q).take cut) - q| := by
  obtain ⟨width, hdigits, hlt, -⟩ :=
    exists_numeral_eq_digits s.digit s.one_lt_base (s.units places q / s.base ^ places)
  have hwidth : cut < width + 1 := (Nat.pow_lt_pow_iff_right s.one_lt_base).1 (hw.trans_lt hlt)
  have hread := read_take_of_lt hlt hwidth
    (s.point :: digits s.digit s.base places (s.units places q % s.base ^ places))
  rw [print, hdigits]
  have hpos := s.pow_pos places
  have hround := abs_le.1 (abs_units_sub_le s places hq)
  have hwhole : ((s.units places q / s.base ^ places : ℕ) : ℚ) ≤
      s.units places q / s.base ^ places := by exact_mod_cast Nat.cast_div_le
  have hlarge : (3 : ℚ) ≤ (s.units places q / s.base ^ places : ℕ) := by
    have hself : s.base ≤ s.base ^ cut := Nat.le_self_pow hcut.ne' s.base
    exact_mod_cast (show 3 ≤ s.units places q / s.base ^ places by omega)
  have hthird : ((s.units places q / s.base ^ places : ℕ) : ℚ) / s.base ≤
      (s.units places q / s.base ^ places : ℕ) / 3 := by
    apply div_le_div_of_nonneg_left (by linarith) (by norm_num)
    exact_mod_cast hbase
  have hhalf : (1 : ℚ) / (2 * s.base ^ places) ≤ 1 / 2 := by
    apply one_div_le_one_div_of_le (by norm_num)
    have hone : (1 : ℚ) ≤ s.base ^ places := by
      exact_mod_cast Nat.one_le_pow places s.base s.base_pos
    linarith
  rw [abs_sub_comm]
  exact le_abs.2 (.inl (by linarith))

/-- The first `cut` characters tell the number up to one as long as they hold its whole part. -/
theorem abs_read_take_print_sub_lt_one_iff (heven : Even s.base) (hbase : 2 < s.base)
    (hcut : 0 < cut) (hplaces : cut ≤ places + 2) (hq : 0 ≤ q) :
    |s.read ((s.print places q).take cut) - q| < 1 ↔
      q < s.base ^ cut - 1 / (2 * s.base ^ places) := by
  rw [← whole_lt_iff heven hcut hq]
  constructor
  · intro h
    by_contra hw
    exact (one_le_abs_read_take_print_sub hbase hcut hq (not_lt.1 hw)).not_gt h
  · exact abs_read_take_print_sub_lt_one hcut hplaces hq

end Read

/-- The text of `m` units of the last of the places; without places there is no point. -/
def fixed (s : Numerals α) (places m : ℕ) : List α :=
  numeral s.digit s.base (m / s.base ^ places) ++
    if places = 0 then [] else s.point :: digits s.digit s.base places (m % s.base ^ places)

/-- A number times its unit, and what a one in the last digit of the number stands for. -/
structure Quantity where
  value : ℚ
  lastDigit : ℚ

def IsNumeral (s : Numerals α) (c : α) : Prop := c = s.point ∨ ∃ d < s.base, c = s.digit d

theorem fixed_eq (s : Numerals α) (places n : ℕ) : ∃ width whole,
    whole < s.base ^ width ∧ whole = n / s.base ^ places ∧
      s.fixed places n = digits s.digit s.base width whole ++ if places = 0 then []
        else s.point :: digits s.digit s.base places (n % s.base ^ places) := by
  obtain ⟨width, hdigits, hlt, -⟩ :=
    exists_numeral_eq_digits s.digit s.one_lt_base (n / s.base ^ places)
  refine ⟨width + 1, _, hlt, rfl, ?_⟩
  rw [fixed, hdigits]

theorem isNumeral_of_mem_fixed (hc : c ∈ s.fixed places n) : s.IsNumeral c := by
  obtain ⟨width, whole, -, -, htext⟩ := s.fixed_eq places n
  rw [htext] at hc
  rcases List.mem_append.1 hc with hwhole | hfraction
  · exact .inr (digits_subset s.base_pos hwhole)
  · split at hfraction
    · cases hfraction
    · rcases List.mem_cons.1 hfraction with hpoint | hdigit
      · exact .inl hpoint
      · exact .inr (digits_subset s.base_pos hdigit)

theorem length_fixed_le (hn : n < s.base ^ width) :
    (s.fixed places n).length ≤ width + places + 2 := by
  obtain ⟨length, hdigits, -, hge⟩ :=
    exists_numeral_eq_digits s.digit s.one_lt_base (n / s.base ^ places)
  have hlength : length ≤ width := by
    rcases hge with hge | rfl
    · have hle := hge.trans (Nat.div_le_self n _)
      exact ((Nat.pow_lt_pow_iff_right s.one_lt_base).1 (hle.trans_lt hn)).le
    · exact Nat.zero_le _
  rw [fixed, hdigits, List.length_append, length_digits]
  split
  · rw [List.length_nil]
    omega
  · rw [List.length_cons, length_digits]
    omega

section Quantity

variable [DecidableEq α]

instance (s : Numerals α) (c : α) : Decidable (s.IsNumeral c) :=
  inferInstanceAs (Decidable (_ ∨ _))

def placesOf (s : Numerals α) (text : List α) : ℕ :=
  (text.dropWhile (· ≠ s.point)).tail.length

def readQuantity (s : Numerals α) (units : List (List α × ℚ)) (text : List α) : Option Quantity :=
  let number := text.takeWhile (s.IsNumeral ·)
  (units.lookup (text.dropWhile (s.IsNumeral ·))).map fun unit =>
    ⟨s.read number * unit, unit / s.base ^ s.placesOf number⟩

theorem read_fixed (s : Numerals α) (places n : ℕ) :
    s.read (s.fixed places n) = n / s.base ^ places := by
  obtain ⟨width, whole, hlt, hwhole, htext⟩ := s.fixed_eq places n
  have hmod := Nat.mod_lt n (Nat.pow_pos s.base_pos : 0 < s.base ^ places)
  rw [htext]
  split
  · rename_i hzero
    rw [List.append_nil, read_digits hlt, hwhole, hzero]
    simp
  · rw [read_digits_point hlt hmod, hwhole, ← cast_div_pow]

theorem placesOf_fixed (s : Numerals α) (places n : ℕ) :
    s.placesOf (s.fixed places n) = places := by
  obtain ⟨width, whole, -, -, htext⟩ := s.fixed_eq places n
  have hne := digits_ne_point s width whole
  rw [placesOf, htext, List.dropWhile_append_of_pos hne]
  split
  · rename_i hzero
    rw [hzero]
    rfl
  · rw [List.dropWhile_cons_of_neg (by simp), List.tail_cons, length_digits]

/-- What is printed with a unit behind it is read back, if the unit starts with no digit. -/
theorem readQuantity_fixed (s : Numerals α) {units : List (List α × ℚ)} {name : List α} {unit : ℚ}
    (hname : ∀ c ∈ name.head?, ¬ s.IsNumeral c) (hunit : units.lookup name = some unit)
    (places n : ℕ) : s.readQuantity units (s.fixed places n ++ name) =
      some ⟨n / s.base ^ places * unit, unit / s.base ^ places⟩ := by
  have hnumber : ∀ c ∈ s.fixed places n, decide (s.IsNumeral c) = true := fun c hc =>
    decide_eq_true (isNumeral_of_mem_fixed hc)
  have htake : name.takeWhile (s.IsNumeral ·) = [] := by
    cases name with
    | nil => rfl
    | cons c name => exact List.takeWhile_cons_of_neg (by simpa using hname)
  have hdrop : name.dropWhile (s.IsNumeral ·) = name := by
    cases name with
    | nil => rfl
    | cons c name => exact List.dropWhile_cons_of_neg (by simpa using hname)
  simp only [readQuantity, List.takeWhile_append_of_pos hnumber,
    List.dropWhile_append_of_pos hnumber, htake, hdrop, hunit, List.append_nil, Option.map_some,
    read_fixed, placesOf_fixed]

end Quantity

end Numerals

end FixedPoint
