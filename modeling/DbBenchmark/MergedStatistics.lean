import DbBenchmark.MetricsCollector

namespace DbBenchmark
open LatencyRecorder MetricsCollector OrderStatistics
set_option autoImplicit true

def samples (recorders : List LatencyRecorder) : Nat := (recorders.map count).sum

def pooled (recorders : List LatencyRecorder) : LatencyRecorder :=
  LatencyRecorder.init.recordAll (recorders.flatMap (·.latenciesUs))

@[simp] theorem latenciesUs_pooled (recorders : List LatencyRecorder) :
    (pooled recorders).latenciesUs = recorders.flatMap (·.latenciesUs) := by
  rw [pooled, latenciesUs_recordAll, LatencyRecorder.init, List.nil_append]

theorem mem_pooled : us ∈ (pooled recorders).latenciesUs ↔ ∃ r ∈ recorders, us ∈ r.latenciesUs := by
  rw [latenciesUs_pooled, List.mem_flatMap]

@[simp] theorem count_pooled (recorders : List LatencyRecorder) :
    (pooled recorders).count = samples recorders := by
  rw [count, latenciesUs_pooled, List.length_flatMap, samples]
  rfl

theorem latenciesUs_pooled_ne_nil (hsome : samples recorders ≠ 0) :
    (pooled recorders).latenciesUs ≠ [] := by
  rw [← count_pooled] at hsome
  exact List.ne_nil_of_length_pos (Nat.pos_of_ne_zero hsome)

theorem recorders_ne_nil (hsome : samples recorders ≠ 0) : recorders ≠ [] := by
  rintro rfl
  exact hsome rfl

structure MergedFrom (recorders : List LatencyRecorder) (merged : BenchmarkResult ℚ) : Prop where
  totalOps : merged.totalOps = samples recorders
  percentile : ∀ q : Percentile, q.of merged = (recorders.map fun r =>
    q.of r.computeStats * ((r.count : ℚ) / samples recorders)).sum
  meanUs : merged.meanUs = 0
  le_minUs : ∀ x, x ≤ merged.minUs ↔ ∀ r ∈ recorders, x ≤ r.computeStats.minUs
  maxUs_le : ∀ x, merged.maxUs ≤ x ↔ ∀ r ∈ recorders, r.computeStats.maxUs ≤ x

theorem foldl_totalOps (recorders : List LatencyRecorder) :
    (recorders.map computeStats).foldl (fun n s => n + s.totalOps) 0 = samples recorders := by
  rw [foldl_add_eq_sum, List.map_map, samples]
  simp only [Function.comp_def, totalOps_computeStats]

theorem mergeThreadResults_ok (hne : recorders ≠ []) (templateResult : BenchmarkResult ℚ) :
    ∃ merged, mergeThreadResults recorders templateResult = .ok merged ∧
      MergedFrom recorders merged := by
  have htotal := foldl_totalOps recorders
  have hstats : recorders.map computeStats ≠ [] := by simpa using hne
  simp only [mergeThreadResults, hne, if_false, htotal]
  refine ⟨_, rfl, ?_⟩
  exact {
    totalOps := rfl
    percentile := by
      intro q
      have hfold := MergeAccumulator.of_foldl q (samples recorders) (recorders.map computeStats) .init
      have hinit : MergeAccumulator.init.of q = 0 := by cases q <;> rfl
      rw [hinit, zero_add, List.map_map] at hfold
      simp only [Function.comp_def, totalOps_computeStats] at hfold
      cases q <;> exact hfold
    meanUs := MergeAccumulator.mean_foldl _ _ _
    le_minUs := by
      intro x
      rw [MergeAccumulator.le_minV_init _ hstats, List.forall_mem_map]
    maxUs_le := by
      intro x
      rw [MergeAccumulator.maxV_init_le _ hstats, List.forall_mem_map] }

theorem countP_pooled (f : Nat → Bool) : (pooled recorders).latenciesUs.countP f =
    (recorders.map fun r => r.latenciesUs.countP f).sum := by
  rw [latenciesUs_pooled, List.countP_flatMap]
  rfl

theorem ne_nil_of_count_ne_zero {r : LatencyRecorder} (h : r.count ≠ 0) : r.latenciesUs ≠ [] :=
  List.ne_nil_of_length_pos (Nat.pos_of_ne_zero h)

theorem pooled_percentile_bounds (hsome : samples recorders ≠ 0) (q : Percentile) {lo hi : ℚ}
    (h : ∀ r ∈ recorders, r.count ≠ 0 → lo ≤ q.of r.computeStats ∧ q.of r.computeStats ≤ hi) :
    lo ≤ q.of (pooled recorders).computeStats ∧ q.of (pooled recorders).computeStats ≤ hi := by
  have hne := latenciesUs_pooled_ne_nil hsome
  constructor
  · rw [le_percentile_iff_countP _ q hne, count_pooled, countP_pooled]
    apply sum_lt_share
    · intro r hr hc
      rw [← le_percentile_iff_countP r q (ne_nil_of_count_ne_zero hc)]
      exact (h r hr hc).1
    · exact fun r => List.countP_le_length
    · exact hsome
  · rw [percentile_le_iff_countP _ q hne, count_pooled, countP_pooled]
    apply share_sum_le
    intro r hr
    by_cases hc : r.count = 0
    · simp [hc]
    · rw [← percentile_le_iff_countP r q (ne_nil_of_count_ne_zero hc)]
      exact (h r hr hc).2

def PercentilesPooled (recorders : List LatencyRecorder) (templateResult : BenchmarkResult ℚ) :
    Prop :=
  ∃ merged, mergeThreadResults recorders templateResult = .ok merged ∧
    ∀ q : Percentile, q.of merged = q.of (pooled recorders).computeStats

/-- A merged percentile is the mean of the recorders' own, weighted by their numbers of samples;
it lies, as the pooled percentile does, between the smallest and the largest of them. -/
theorem merged_percentile (hsome : samples recorders ≠ 0) (templateResult : BenchmarkResult ℚ)
    (q : Percentile) :
    ∃ merged, mergeThreadResults recorders templateResult = .ok merged ∧
      q.of merged = (recorders.map fun r =>
        q.of r.computeStats * ((r.count : ℚ) / samples recorders)).sum ∧
      ∀ lo hi, (∀ r ∈ recorders, r.count ≠ 0 →
          lo ≤ q.of r.computeStats ∧ q.of r.computeStats ≤ hi) →
        (lo ≤ q.of merged ∧ q.of merged ≤ hi) ∧
          lo ≤ q.of (pooled recorders).computeStats ∧
          q.of (pooled recorders).computeStats ≤ hi := by
  obtain ⟨merged, hok, hm⟩ := mergeThreadResults_ok (recorders_ne_nil hsome) templateResult
  have hmean := hm.percentile q
  refine ⟨merged, hok, hmean, ?_⟩
  intro lo hi h
  rw [hmean]
  exact ⟨weighted_mean_bounds count (fun r => q.of r.computeStats) hsome h,
    pooled_percentile_bounds hsome q h⟩

def skewed : List LatencyRecorder :=
  [LatencyRecorder.init.recordAll [1, 1, 1], LatencyRecorder.init.recordAll [9]]

theorem merged_percentile_skewed :
    ∃ merged, mergeThreadResults skewed .init = .ok merged ∧
      Percentile.p99.of merged = (skewed.map fun r =>
        Percentile.p99.of r.computeStats * ((r.count : ℚ) / samples skewed)).sum ∧
      ∀ lo hi, (∀ r ∈ skewed, r.count ≠ 0 →
          lo ≤ Percentile.p99.of r.computeStats ∧ Percentile.p99.of r.computeStats ≤ hi) →
        (lo ≤ Percentile.p99.of merged ∧ Percentile.p99.of merged ≤ hi) ∧
          lo ≤ Percentile.p99.of (pooled skewed).computeStats ∧
          Percentile.p99.of (pooled skewed).computeStats ≤ hi :=
  merged_percentile (by decide) .init .p99

/-- The merged 99th percentile is 3 there, and that of the four samples is 9. -/
theorem not_percentilesPooled_skewed :
    samples skewed ≠ 0 ∧ ¬ PercentilesPooled skewed .init := by
  have hsome : samples skewed ≠ 0 := by decide
  refine ⟨hsome, ?_⟩
  intro h'
  obtain ⟨merged, hok, h⟩ := h'
  obtain ⟨merged', hok', hm⟩ := mergeThreadResults_ok (recorders_ne_nil hsome) .init
  cases hok.symm.trans hok'
  have hp99 := (hm.percentile .p99).symm.trans (h .p99)
  revert hp99
  decide +kernel

theorem eq_maxUs_pooled {greatest : ℚ} (hne : recorders ≠ [])
    (h : ∀ x, greatest ≤ x ↔ ∀ r ∈ recorders, r.computeStats.maxUs ≤ x) :
    greatest = (pooled recorders).computeStats.maxUs := by
  have hnonneg : 0 ≤ greatest := by
    obtain ⟨r, hr⟩ := List.exists_mem_of_ne_nil _ hne
    exact (maxUs_nonneg r).trans ((h _).1 le_rfl r hr)
  have hiff {x : ℚ} (hx : 0 ≤ x) :
      greatest ≤ x ↔ (pooled recorders).computeStats.maxUs ≤ x := by
    rw [h, maxUs_le_iff _ hx]
    constructor
    · intro h us hus
      obtain ⟨r, hr, hmem⟩ := mem_pooled.1 hus
      exact (maxUs_le_iff r hx).1 (h r hr) us hmem
    · intro h r hr
      exact (maxUs_le_iff r hx).2 fun us hus => h us (mem_pooled.2 ⟨r, hr, hus⟩)
  exact le_antisymm ((hiff (maxUs_nonneg _)).2 le_rfl) ((hiff hnonneg).1 le_rfl)

theorem eq_minUs_pooled {least : ℚ} (hsome : samples recorders ≠ 0)
    (hall : ∀ r ∈ recorders, r.count ≠ 0)
    (h : ∀ x, x ≤ least ↔ ∀ r ∈ recorders, x ≤ r.computeStats.minUs) :
    least = (pooled recorders).computeStats.minUs := by
  apply eq_of_forall_le_iff
  intro x
  rw [h, le_minUs_iff _ (latenciesUs_pooled_ne_nil hsome)]
  constructor
  · intro h us hus
    obtain ⟨r, hr, hmem⟩ := mem_pooled.1 hus
    exact (h r hr).trans (minUs_le_of_mem r hmem)
  · intro h r hr
    rw [le_minUs_iff r (ne_nil_of_count_ne_zero (hall r hr))]
    exact fun us hus => h us (mem_pooled.2 ⟨r, hr, hus⟩)

theorem MergedFrom.maxUs_eq (hm : MergedFrom recorders merged) (hsome : samples recorders ≠ 0) :
    merged.maxUs = (pooled recorders).computeStats.maxUs :=
  eq_maxUs_pooled (recorders_ne_nil hsome) hm.maxUs_le

theorem MergedFrom.minUs_eq_zero (hm : MergedFrom recorders merged) (hr : r ∈ recorders)
    (hmin : r.computeStats.minUs ≤ 0) : merged.minUs = 0 := by
  have hle : merged.minUs ≤ 0 := ((hm.le_minUs _).1 le_rfl r hr).trans hmin
  exact le_antisymm hle ((hm.le_minUs 0).2 fun r _ => minUs_nonneg r)

theorem MergedFrom.minUs_eq_of_nonempty (hm : MergedFrom recorders merged)
    (hsome : samples recorders ≠ 0) (hall : ∀ r ∈ recorders, r.count ≠ 0) :
    merged.minUs = (pooled recorders).computeStats.minUs :=
  eq_minUs_pooled hsome hall hm.le_minUs

/-- The zero that stands for the minimum of no samples counts as a minimum in the merge. -/
theorem MergedFrom.minUs_eq_iff (hm : MergedFrom recorders merged) (hsome : samples recorders ≠ 0) :
    merged.minUs = (pooled recorders).computeStats.minUs ↔
      (∀ r ∈ recorders, r.count ≠ 0) ∨ 0 ∈ (pooled recorders).latenciesUs := by
  constructor
  · intro heq
    by_contra hnot
    obtain ⟨hall, hmem⟩ := not_or.1 hnot
    push Not at hall
    obtain ⟨r, hr, hcount⟩ := hall
    have hmin : r.computeStats.minUs ≤ 0 := by
      rw [computeStats_of_count_eq_zero hcount]
      exact le_refl _
    have hone := one_le_minUs _ (latenciesUs_pooled_ne_nil hsome) hmem
    rw [← heq, hm.minUs_eq_zero hr hmin] at hone
    exact absurd hone (by norm_num)
  · intro h
    rcases h with hall | hmem
    · exact hm.minUs_eq_of_nonempty hsome hall
    · obtain ⟨r, hr, hus⟩ := mem_pooled.1 hmem
      have hmin : r.computeStats.minUs ≤ 0 := by simpa using minUs_le_of_mem r hus
      have hpool : (pooled recorders).computeStats.minUs ≤ 0 := by
        simpa using minUs_le_of_mem _ hmem
      rw [hm.minUs_eq_zero hr hmin]
      exact le_antisymm (minUs_nonneg _) hpool

/-- No statement of the merge adds to `mean`. -/
theorem MergedFrom.meanUs_eq_iff (hm : MergedFrom recorders merged)
    (hsome : samples recorders ≠ 0) :
    merged.meanUs = (pooled recorders).computeStats.meanUs ↔
      ∀ us ∈ (pooled recorders).latenciesUs, us = 0 := by
  have hmean := meanUs_mul_count (pooled recorders)
  have hcount : (samples recorders : ℚ) ≠ 0 := Nat.cast_ne_zero.2 hsome
  rw [count_pooled] at hmean
  rw [hm.meanUs, ← List.sum_eq_zero_iff, ← Nat.cast_eq_zero (R := ℚ), ← hmean, mul_eq_zero,
    or_iff_left hcount, eq_comm]

def MergesExactly (recorders : List LatencyRecorder) (templateResult : BenchmarkResult ℚ) : Prop :=
  ∃ merged, mergeThreadResults recorders templateResult = .ok merged ∧
    merged.totalOps = (pooled recorders).computeStats.totalOps ∧
    merged.minUs = (pooled recorders).computeStats.minUs ∧
    merged.maxUs = (pooled recorders).computeStats.maxUs ∧
    merged.meanUs = (pooled recorders).computeStats.meanUs

theorem mergesExactly_iff (hsome : samples recorders ≠ 0) (templateResult : BenchmarkResult ℚ) :
    MergesExactly recorders templateResult ↔ ∀ r ∈ recorders, ∀ us ∈ r.latenciesUs, us = 0 := by
  obtain ⟨merged, hok, hm⟩ := mergeThreadResults_ok (recorders_ne_nil hsome) templateResult
  have hall : (∀ r ∈ recorders, ∀ us ∈ r.latenciesUs, us = 0) ↔
      ∀ us ∈ (pooled recorders).latenciesUs, us = 0 := by
    rw [latenciesUs_pooled, List.forall_mem_flatMap]
  rw [hall, ← hm.meanUs_eq_iff hsome]
  constructor
  · intro h'
    obtain ⟨merged', hok', -, -, -, hmean⟩ := h'
    cases hok.symm.trans hok'
    exact hmean
  · intro hmean
    have htotal : merged.totalOps = (pooled recorders).computeStats.totalOps := by
      rw [hm.totalOps, totalOps_computeStats, count_pooled]
    have hmin : merged.minUs = (pooled recorders).computeStats.minUs := by
      rw [hm.minUs_eq_iff hsome]
      obtain ⟨us, hus⟩ := List.exists_mem_of_ne_nil _ (latenciesUs_pooled_ne_nil hsome)
      have hus0 := (hm.meanUs_eq_iff hsome).1 hmean us hus
      exact Or.inr (hus0 ▸ hus)
    exact ⟨merged, hok, htotal, hmin, hm.maxUs_eq hsome, hmean⟩

theorem mergesExactly_iff_zeros :
    MergesExactly [LatencyRecorder.init.recordAll [0, 0], .init] .init ↔
      ∀ r ∈ [LatencyRecorder.init.recordAll [0, 0], .init], ∀ us ∈ r.latenciesUs, us = 0 :=
  mergesExactly_iff (by decide) .init

/-- A single thread is enough: its merged mean is 0, and the mean of its samples is not. -/
theorem not_mergesExactly_oneThread :
    samples [LatencyRecorder.init.recordAll [3, 5]] ≠ 0 ∧
      ¬ MergesExactly [LatencyRecorder.init.recordAll [3, 5]] .init := by
  have hsome : samples [LatencyRecorder.init.recordAll [3, 5]] ≠ 0 := by decide
  refine ⟨hsome, ?_⟩
  intro h'
  obtain ⟨merged, hok, -, -, -, hmean⟩ := h'
  obtain ⟨merged', hok', hm⟩ := mergeThreadResults_ok (recorders_ne_nil hsome) .init
  cases hok.symm.trans hok'
  rw [hm.meanUs] at hmean
  revert hmean
  decide +kernel

end DbBenchmark
