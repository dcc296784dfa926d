import Mathlib.Algebra.Order.Monoid.Defs
import Mathlib.Algebra.Order.Ring.Nat
import Mathlib.Data.Nat.Digits.Defs
import Mathlib.Data.Nat.Log

namespace MixedRadix
set_option autoImplicit true

/-- Units laid out in a row, each ending no later than the next one starts. -/
structure Units (ι M : Type) [LinearOrder ι] [AddCommMonoid M] [PartialOrder M] where
  start : ι → M
  length : ι → M
  next : ∀ i j, i < j → start i + length i ≤ start j

namespace Units

variable {M : Type} [LinearOrder ι] [AddCommMonoid M] [LinearOrder M] [IsOrderedCancelAddMonoid M]

theorem position_lt (u : Units ι M) {x y : M} (hij : i < j) (hx : x < u.length i) (hy : 0 ≤ y) :
    u.start i + x < u.start j + y :=
  calc
    u.start i + x < u.start i + u.length i := add_lt_add_right hx _
    _ ≤ u.start j := u.next i j hij
    _ ≤ u.start j + y := le_add_of_nonneg_right hy

theorem position_lt_iff (u : Units ι M) {x y : M} (hx : 0 ≤ x) (hx' : x < u.length i)
    (hy : 0 ≤ y) (hy' : y < u.length j) :
    u.start i + x < u.start j + y ↔ i < j ∨ i = j ∧ x < y := by
  rcases lt_trichotomy i j with hij | rfl | hji
  · simp [hij, u.position_lt hij hx' hy]
  · simp
  · have hgt := u.position_lt hji hy' hx
    simp [hji.not_gt, hji.ne', hgt.le]

def even (length : ℕ) : Units ℕ ℕ where
  start i := length * i
  length _ := length
  next i j hij := by
    rw [← Nat.mul_succ]
    exact Nat.mul_le_mul_left length hij

end Units

theorem lt_iff_div_mod {base : ℕ} (hbase : 0 < base) (n m : ℕ) :
    n < m ↔ n / base < m / base ∨ n / base = m / base ∧ n % base < m % base := by
  have h := (Units.even base).position_lt_iff (i := n / base) (j := m / base) (Nat.zero_le _)
    (Nat.mod_lt n hbase) (Nat.zero_le _) (Nat.mod_lt m hbase)
  simp only [Units.even, Nat.div_add_mod] at h
  exact h

theorem append_lt_append_iff [LT α] {a b c d : List α} (hlen : a.length = b.length) :
    a ++ c < b ++ d ↔ a < b ∨ a = b ∧ c < d := by
  induction a generalizing b with
  | nil =>
    obtain rfl := List.length_eq_zero_iff.1 hlen.symm
    simp
  | cons x a ih =>
    cases b with
    | nil => cases hlen
    | cons y b =>
      have hrest := ih (Nat.succ.inj hlen)
      simp only [List.cons_append, List.cons_lt_cons_iff, hrest, List.cons.injEq]
      constructor
      · rintro (h | ⟨rfl, h | h⟩)
        · exact .inl (.inl h)
        · exact .inl (.inr ⟨rfl, h⟩)
        · exact .inr ⟨⟨rfl, h.1⟩, h.2⟩
      · rintro ((h | h) | ⟨⟨rfl, rfl⟩, h⟩)
        · exact .inl h
        · exact .inr ⟨h.1, .inl h.2⟩
        · exact .inr ⟨rfl, .inr ⟨rfl, h⟩⟩

theorem flatMap_inj {ι α : Type} {indices : List ι} {block block' : ι → List α}
    (hlen : ∀ i, (block i).length = (block' i).length) :
    indices.flatMap block = indices.flatMap block' ↔ ∀ i ∈ indices, block i = block' i := by
  induction indices with
  | nil => simp
  | cons i indices ih =>
    rw [List.flatMap_cons, List.flatMap_cons, List.forall_mem_cons, ← ih]
    constructor
    · intro h
      exact List.append_inj h (hlen i)
    · intro h
      rw [h.1, h.2]

/-- The last `width` digits of `n` in base `base`, the most significant one first. -/
def digits (digit : ℕ → α) (base : ℕ) : ℕ → ℕ → List α
  | 0, _ => []
  | width + 1, n => digits digit base width (n / base) ++ [digit (n % base)]

variable {α : Type} {digit : ℕ → α} {base width n m : ℕ}

@[simp] theorem length_digits (digit : ℕ → α) (base width n : ℕ) :
    (digits digit base width n).length = width := by
  induction width generalizing n with
  | zero => rfl
  | succ width ih => rw [digits, List.length_append, ih, List.length_singleton]

theorem base_pos (hn : n < base ^ (width + 1)) : 0 < base := by
  apply Nat.pos_of_ne_zero
  rintro rfl
  simp at hn

theorem div_lt_pow (hn : n < base ^ (width + 1)) : n / base < base ^ width :=
  Nat.div_lt_of_lt_mul (by rwa [mul_comm, ← pow_succ])

theorem digits_inj (hdigit : ∀ i < base, ∀ j < base, digit i = digit j → i = j)
    (hn : n < base ^ width) (hm : m < base ^ width)
    (h : digits digit base width n = digits digit base width m) : n = m := by
  induction width generalizing n m with
  | zero =>
    rw [pow_zero, Nat.lt_one_iff] at hn hm
    rw [hn, hm]
  | succ width ih =>
    have hbase := base_pos hn
    obtain ⟨hfirst, hlast⟩ := List.append_inj' h rfl
    have hdiv := ih (div_lt_pow hn) (div_lt_pow hm) hfirst
    have hmod := hdigit _ (Nat.mod_lt n hbase) _ (Nat.mod_lt m hbase) (List.singleton_inj.1 hlast)
    rw [← Nat.div_add_mod n base, ← Nat.div_add_mod m base, hdiv, hmod]

theorem digits_lt_iff [LT α] (hdigit : ∀ i < base, ∀ j < base, digit i < digit j ↔ i < j)
    (hn : n < base ^ width) (hm : m < base ^ width) :
    digits digit base width n < digits digit base width m ↔ n < m := by
  have hinj : ∀ i < base, ∀ j < base, digit i = digit j → i = j := by
    intro i hi j hj he
    have hij := hdigit i hi j hj
    have hji := hdigit j hj i hi
    have hjj := hdigit j hj j hj
    rw [he, hjj] at hij hji
    omega
  induction width generalizing n m with
  | zero =>
    rw [pow_zero, Nat.lt_one_iff] at hn hm
    simp [digits, hn, hm]
  | succ width ih =>
    have hbase := base_pos hn
    have hfirst : digits digit base width (n / base) = digits digit base width (m / base) ↔
        n / base = m / base :=
      ⟨digits_inj hinj (div_lt_pow hn) (div_lt_pow hm), congrArg _⟩
    have hdiv := ih (div_lt_pow hn) (div_lt_pow hm)
    have hlast := hdigit _ (Nat.mod_lt n hbase) _ (Nat.mod_lt m hbase)
    rw [digits, digits, append_lt_append_iff (by simp), hfirst, lt_iff_div_mod hbase n m]
    simp [List.cons_lt_cons_iff, hlast, hdiv]

@[simp] theorem digits_zero (digit : ℕ → α) (base width : ℕ) :
    digits digit base width 0 = List.replicate width (digit 0) := by
  induction width with
  | zero => rfl
  | succ width ih => rw [digits, Nat.zero_div, Nat.zero_mod, ih, ← List.replicate_succ']

theorem take_digits (digit : ℕ → α) (base width rest n : ℕ) :
    (digits digit base (width + rest) n).take width =
      digits digit base width (n / base ^ rest) := by
  induction rest generalizing n with
  | zero => rw [pow_zero, Nat.div_one, add_zero, List.take_of_length_le (by simp)]
  | succ rest ih =>
    have hlen : width ≤ (digits digit base (width + rest) (n / base)).length := by simp
    rw [← add_assoc, digits, List.take_append_of_le_length hlen, ih, Nat.div_div_eq_div_mul,
      ← pow_succ']

def readDigits (value : α → ℕ) (base : ℕ) (text : List α) : ℕ :=
  text.foldl (fun n d => base * n + value d) 0

theorem readDigits_digits {value : α → ℕ} (hvalue : ∀ d < base, value (digit d) = d)
    (hn : n < base ^ width) : readDigits value base (digits digit base width n) = n := by
  induction width generalizing n with
  | zero =>
    rw [pow_zero, Nat.lt_one_iff] at hn
    rw [hn]
    rfl
  | succ width ih =>
    have hlast := hvalue _ (Nat.mod_lt n (base_pos hn))
    have hfirst := ih (div_lt_pow hn)
    rw [readDigits] at hfirst
    rw [readDigits, digits, List.foldl_append, hfirst, List.foldl_cons, List.foldl_nil, hlast,
      Nat.div_add_mod]

theorem digits_subset (hbase : 0 < base) (h : c ∈ digits digit base width n) :
    ∃ d < base, c = digit d := by
  induction width generalizing n with
  | zero => cases h
  | succ width ih =>
    rcases List.mem_append.1 h with h | h
    · exact ih h
    · exact ⟨n % base, Nat.mod_lt n hbase, List.mem_singleton.1 h⟩

def numeral (digit : ℕ → α) (base n : ℕ) : List α :=
  if n = 0 then [digit 0] else (Nat.digits base n).reverse.map digit

theorem numeral_of_lt_base (hn : n < base) : numeral digit base n = [digit n] := by
  rw [numeral]
  split
  · rename_i hzero
    rw [hzero]
  · rename_i hne
    rw [Nat.digits_of_lt base n hne hn]
    rfl

theorem numeral_of_base_le (hbase : 1 < base) (hn : base ≤ n) :
    numeral digit base n = numeral digit base (n / base) ++ [digit (n % base)] := by
  have hpos : 0 < n := by omega
  have hdiv : 0 < n / base := Nat.div_pos hn (by omega)
  rw [numeral, numeral, if_neg hpos.ne', if_neg hdiv.ne', Nat.digits_def' hbase hpos,
    List.reverse_cons, List.map_append]
  rfl

theorem numeral_eq_digits (hbase : 1 < base) (hle : base ^ width ≤ n)
    (hlt : n < base ^ (width + 1)) : numeral digit base n = digits digit base (width + 1) n := by
  induction width generalizing n with
  | zero =>
    have hn : n < base := by simpa using hlt
    rw [numeral_of_lt_base hn, digits, digits, Nat.mod_eq_of_lt hn]
    rfl
  | succ width ih =>
    rw [pow_succ] at hle
    have hpos : 0 < base := by omega
    have hn : base ≤ n := (Nat.le_mul_of_pos_left base (Nat.pow_pos hpos)).trans hle
    have hdiv : base ^ width ≤ n / base := (Nat.le_div_iff_mul_le hpos).2 hle
    rw [numeral_of_base_le hbase hn, ih hdiv (div_lt_pow hlt)]
    rfl

/-- A numeral has no leading zero, but for zero itself. -/
theorem exists_numeral_eq_digits (digit : ℕ → α) (hbase : 1 < base) (n : ℕ) :
    ∃ width, numeral digit base n = digits digit base (width + 1) n ∧ n < base ^ (width + 1) ∧
      (base ^ width ≤ n ∨ width = 0) := by
  rcases Nat.eq_zero_or_pos n with rfl | hn
  · refine ⟨0, ?_, by simpa using Nat.zero_lt_of_lt hbase, .inr rfl⟩
    rw [numeral_of_lt_base (Nat.zero_lt_of_lt hbase), digits_zero]
    rfl
  · have hle : base ^ Nat.log base n ≤ n := Nat.pow_log_le_self base hn.ne'
    have hlt : n < base ^ (Nat.log base n + 1) := Nat.lt_pow_succ_log_self hbase n
    exact ⟨Nat.log base n, numeral_eq_digits hbase hle hlt, hlt, .inl hle⟩

/-- Filling up with zeros on the left gives the fixed width. -/
theorem leftpad_numeral (hbase : 1 < base) (hn : n < base ^ (width + 1)) :
    (numeral digit base n).leftpad (width + 1) (digit 0) = digits digit base (width + 1) n := by
  induction width generalizing n with
  | zero =>
    have hlt : n < base := by simpa using hn
    rw [numeral_of_lt_base hlt, digits, digits, Nat.mod_eq_of_lt hlt]
    rfl
  | succ width ih =>
    rcases Nat.lt_or_ge n base with hlt | hge
    · rw [numeral_of_lt_base hlt, digits, Nat.div_eq_of_lt hlt, Nat.mod_eq_of_lt hlt, digits_zero]
      rfl
    · have hrest := ih (div_lt_pow hn)
      rw [numeral_of_base_le hbase hge, digits, ← hrest, List.leftpad, List.leftpad,
        List.length_append, List.length_singleton, Nat.add_sub_add_right, List.append_assoc]

end MixedRadix
