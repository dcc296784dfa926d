import Mathlib.Algebra.BigOperators.Group.List.Basic
import Mathlib.Algebra.BigOperators.Ring.List
import Mathlib.Algebra.Order.BigOperators.Group.List
import Mathlib.Algebra.Order.Field.Rat
import Mathlib.Algebra.Order.Floor.Semiring
import Mathlib.Data.List.Sort
import Mathlib.Data.Rat.Floor

namespace OrderStatistics
set_option autoImplicit true

section Ranks

variable {α : Type} [LinearOrder α]

theorem getElem_le_iff {l : List α} (hl : l.Pairwise (· ≤ ·)) {k : Nat} (hk : k < l.length) {x : α} :
    l[k] ≤ x ↔ k < l.countP (· ≤ x) := by
  induction l generalizing k with
  | nil => exact absurd hk (Nat.not_lt_zero k)
  | cons a l ih =>
    obtain ⟨ha, hl'⟩ := List.pairwise_cons.1 hl
    by_cases hax : a ≤ x
    · rw [List.countP_cons_of_pos (by simpa using hax)]
      cases k with
      | zero => simp [hax]
      | succ k => simpa using ih hl' (Nat.lt_of_succ_lt_succ hk)
    · have hbig (b : α) (hb : b ∈ a :: l) : ¬ b ≤ x := by
        rcases List.mem_cons.1 hb with rfl | hb
        · exact hax
        · exact fun hbx => hax ((ha b hb).trans hbx)
      have hzero : (a :: l).countP (· ≤ x) = 0 := by
        rw [List.countP_eq_zero]
        intro b hb
        simpa using hbig b hb
      simp [hzero, hbig _ (List.getElem_mem hk)]

theorem le_getElem_iff {l : List α} (hl : l.Pairwise (· ≤ ·)) {k : Nat} (hk : k < l.length) {x : α} :
    x ≤ l[k] ↔ l.countP (· < x) ≤ k := by
  induction l generalizing k with
  | nil => exact absurd hk (Nat.not_lt_zero k)
  | cons a l ih =>
    obtain ⟨ha, hl'⟩ := List.pairwise_cons.1 hl
    by_cases hax : a < x
    · rw [List.countP_cons_of_pos (by simpa using hax)]
      cases k with
      | zero => simp [hax]
      | succ k => simpa using ih hl' (Nat.lt_of_succ_lt_succ hk)
    · have hbig (b : α) (hb : b ∈ a :: l) : ¬ b < x := by
        rcases List.mem_cons.1 hb with rfl | hb
        · exact hax
        · exact fun hbx => hax ((ha b hb).trans_lt hbx)
      have hzero : (a :: l).countP (· < x) = 0 := by
        rw [List.countP_eq_zero]
        intro b hb
        simpa using hbig b hb
      simp [hzero, le_of_not_gt (hbig _ (List.getElem_mem hk))]

theorem le_foldl_min_iff {β : Type} (f : β → α) (l : List β) {a x : α} :
    x ≤ l.foldl (fun least y => min least (f y)) a ↔ x ≤ a ∧ ∀ y ∈ l, x ≤ f y := by
  induction l generalizing a with
  | nil => simp
  | cons y l ih => rw [List.foldl_cons, ih, le_min_iff, List.forall_mem_cons, and_assoc]

theorem foldl_max_le_iff {β : Type} (f : β → α) (l : List β) {a x : α} :
    l.foldl (fun greatest y => max greatest (f y)) a ≤ x ↔ a ≤ x ∧ ∀ y ∈ l, f y ≤ x := by
  induction l generalizing a with
  | nil => simp
  | cons y l ih => rw [List.foldl_cons, ih, max_le_iff, List.forall_mem_cons, and_assoc]

end Ranks

theorem foldl_add_eq_sum {β M : Type} [AddMonoid M] (f : β → M) (l : List β) :
    l.foldl (fun sum y => sum + f y) 0 = (l.map f).sum := by
  rw [List.sum_eq_foldl, List.foldl_map]

section Means

variable {β : Type} {l : List β} {f g : β → ℚ} {lo hi : ℚ}

theorem mean_le_mean (h : ∀ x ∈ l, f x ≤ g x) :
    (l.map f).sum / l.length ≤ (l.map g).sum / l.length :=
  div_le_div_of_nonneg_right (List.sum_le_sum h) (Nat.cast_nonneg _)

theorem mean_const (hne : l ≠ []) (c : ℚ) : (l.map fun _ => c).sum / l.length = c := by
  have hlen : (l.length : ℚ) ≠ 0 := by simpa using hne
  rw [List.map_const', List.sum_replicate, nsmul_eq_mul, mul_div_cancel_left₀ _ hlen]

theorem le_mean (hne : l ≠ []) (h : ∀ x ∈ l, lo ≤ f x) : lo ≤ (l.map f).sum / l.length :=
  (mean_const hne lo).symm.trans_le (mean_le_mean h)

theorem mean_le (hne : l ≠ []) (h : ∀ x ∈ l, f x ≤ hi) : (l.map f).sum / l.length ≤ hi :=
  (mean_le_mean h).trans_eq (mean_const hne hi)

end Means

/-- The index of the nearest-rank `p`-quantile among `n` sorted samples. -/
def nearestRank (p : ℚ) (n : Nat) : Nat := ⌈p * n⌉₊ - 1

theorem one_le_ceil_mul {p : ℚ} (hp : 0 < p) {n : Nat} (hn : 0 < n) : 1 ≤ ⌈p * n⌉₊ :=
  Nat.ceil_pos.2 (mul_pos hp (Nat.cast_pos.2 hn))

theorem nearestRank_lt {p : ℚ} (hp : p < 1) {n : Nat} (hn : 0 < n) : nearestRank p n < n := by
  have hle : ⌈p * n⌉₊ ≤ n := Nat.ceil_le.2 (mul_le_of_le_one_left (Nat.cast_nonneg n) hp.le)
  rw [nearestRank]
  omega

theorem nearestRank_lt_iff {p : ℚ} (hp : 0 < p) {n : Nat} (hn : 0 < n) {c : Nat} :
    nearestRank p n < c ↔ p * n ≤ c := by
  have hceil := one_le_ceil_mul hp hn
  rw [← Nat.ceil_le, nearestRank]
  omega

theorem le_nearestRank_iff {p : ℚ} (hp : 0 < p) {n : Nat} (hn : 0 < n) {c : Nat} :
    c ≤ nearestRank p n ↔ (c : ℚ) < p * n := by
  have hceil := one_le_ceil_mul hp hn
  rw [← Nat.lt_ceil, nearestRank]
  omega

theorem getElem_nearestRank_le_iff {α : Type} [LinearOrder α] {l : List α}
    (hl : l.Pairwise (· ≤ ·)) {p : ℚ} (hp : 0 < p) {k : Nat} (hk : k < l.length)
    (hrank : k = nearestRank p l.length) {x : α} :
    l[k] ≤ x ↔ p * l.length ≤ l.countP (· ≤ x) := by
  rw [getElem_le_iff hl, hrank, nearestRank_lt_iff hp (Nat.zero_lt_of_lt hk)]

theorem le_getElem_nearestRank_iff {α : Type} [LinearOrder α] {l : List α}
    (hl : l.Pairwise (· ≤ ·)) {p : ℚ} (hp : 0 < p) {k : Nat} (hk : k < l.length)
    (hrank : k = nearestRank p l.length) {x : α} :
    x ≤ l[k] ↔ l.countP (· < x) < p * l.length := by
  rw [le_getElem_iff hl, hrank, le_nearestRank_iff hp (Nat.zero_lt_of_lt hk)]

section Partition

variable {β : Type} {l : List β} {p : ℚ} {n c : β → Nat}

theorem share_sum_le (h : ∀ x ∈ l, p * n x ≤ c x) : p * (l.map n).sum ≤ (l.map c).sum := by
  induction l with
  | nil => simp
  | cons x l ih =>
    have hx := h x List.mem_cons_self
    have hl := ih fun y hy => h y (List.mem_cons_of_mem x hy)
    simp only [List.map_cons, List.sum_cons, Nat.cast_add, mul_add]
    exact add_le_add hx hl

theorem sum_lt_share (h : ∀ x ∈ l, n x ≠ 0 → (c x : ℚ) < p * n x) (hc : ∀ x, c x ≤ n x)
    (hn : (l.map n).sum ≠ 0) : ((l.map c).sum : ℚ) < p * (l.map n).sum := by
  induction l with
  | nil => exact absurd rfl hn
  | cons x l ih =>
    have hlt := ih fun y hy => h y (List.mem_cons_of_mem x hy)
    simp only [List.map_cons, List.sum_cons, Nat.cast_add, mul_add] at hn ⊢
    by_cases hx : n x = 0
    · have hcx : c x = 0 := Nat.le_zero.1 (hx ▸ hc x)
      rw [hx, Nat.zero_add] at hn
      simpa [hx, hcx] using hlt hn
    · have hxlt := h x List.mem_cons_self hx
      by_cases hl : (l.map n).sum = 0
      · have hcl : (l.map c).sum = 0 :=
          Nat.le_zero.1 (hl ▸ List.sum_le_sum fun y _ => hc y)
        simpa [hl, hcl] using hxlt
      · exact add_lt_add hxlt (hlt hl)

/-- A weighted mean lies between the bounds of the values that carry weight. -/
theorem weighted_mean_bounds (w : β → Nat) (v : β → ℚ) {lo hi : ℚ} (hw : (l.map w).sum ≠ 0)
    (h : ∀ x ∈ l, w x ≠ 0 → lo ≤ v x ∧ v x ≤ hi) :
    lo ≤ (l.map fun x => v x * ((w x : ℚ) / (l.map w).sum)).sum ∧
      (l.map fun x => v x * ((w x : ℚ) / (l.map w).sum)).sum ≤ hi := by
  have hsum : lo * (l.map w).sum ≤ (l.map fun x => v x * w x).sum ∧
      (l.map fun x => v x * w x).sum ≤ hi * (l.map w).sum := by
    clear hw
    induction l with
    | nil => simp
    | cons x l ih =>
      obtain ⟨hlo, hhi⟩ := ih fun y hy => h y (List.mem_cons_of_mem x hy)
      have hx : lo * w x ≤ v x * w x ∧ v x * w x ≤ hi * w x := by
        by_cases hx : w x = 0
        · simp [hx]
        · obtain ⟨hl, hu⟩ := h x List.mem_cons_self hx
          have hpos : (0 : ℚ) ≤ w x := Nat.cast_nonneg (w x)
          exact ⟨mul_le_mul_of_nonneg_right hl hpos, mul_le_mul_of_nonneg_right hu hpos⟩
      simp only [List.map_cons, List.sum_cons, Nat.cast_add, mul_add]
      exact ⟨add_le_add hx.1 hlo, add_le_add hx.2 hhi⟩
  have hpos : (0 : ℚ) < (l.map w).sum := Nat.cast_pos.2 (Nat.pos_of_ne_zero hw)
  have hdiv : (l.map fun x => v x * ((w x : ℚ) / (l.map w).sum)).sum =
      (l.map fun x => v x * w x).sum / (l.map w).sum := by
    simp only [div_eq_mul_inv, ← mul_assoc, List.sum_map_mul_right]
  rw [hdiv, le_div_iff₀ hpos, div_le_iff₀ hpos]
  exact hsum

end Partition

end OrderStatistics
