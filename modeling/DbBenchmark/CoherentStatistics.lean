import DbBenchmark.MergedStatistics

namespace DbBenchmark
open LatencyRecorder MetricsCollector OrderStatistics
set_option autoImplicit true

/-- `v` is the value of rank `⌈p * n⌉` among the `n` values of a list, counted from one. -/
structure IsNearestRank (l : List Nat) (p v : ℚ) : Prop where
  mem : ∃ us ∈ l, v = us
  le_countP : ⌈p * l.length⌉₊ ≤ l.countP fun us : Nat => (us : ℚ) ≤ v
  countP_lt : (l.countP fun us : Nat => (us : ℚ) < v) < ⌈p * l.length⌉₊

theorem IsNearestRank.perm (hl : l.Perm l') (h : IsNearestRank l p v) : IsNearestRank l' p v where
  mem := by
    obtain ⟨us, hus, hv⟩ := h.mem
    exact ⟨us, hl.mem_iff.1 hus, hv⟩
  le_countP := by
    rw [← hl.length_eq, ← hl.countP_eq]
    exact h.le_countP
  countP_lt := by
    rw [← hl.length_eq, ← hl.countP_eq]
    exact h.countP_lt

theorem percentile_isNearestRank {sorted : List Nat} (hs : sorted.Pairwise (· ≤ ·))
    (hne : sorted ≠ []) (hp : 0 < p) (hp' : p < 1) :
    IsNearestRank sorted p (percentile sorted p) where
  mem := by
    obtain ⟨hlt, hget⟩ := percentile_eq_get hne hp hp'
    exact ⟨_, List.get_mem _ _, hget⟩
  le_countP := Nat.ceil_le.2 ((percentile_le_iff hs hne hp hp').1 le_rfl)
  countP_lt := Nat.lt_ceil.2 ((le_percentile_iff hs hne hp hp').1 le_rfl)

/-- The subtraction does not wrap around, and the clamp behind it never takes effect. -/
theorem percentile_index {sorted : List Nat} {p : ℚ} (hne : sorted ≠ []) (hp : 0 < p) (hp' : p < 1) :
    1 ≤ ⌈p * sorted.length⌉₊ ∧ ∃ h : ⌈p * sorted.length⌉₊ - 1 < sorted.length,
      percentile sorted p = sorted.get ⟨⌈p * sorted.length⌉₊ - 1, h⟩ :=
  ⟨one_le_ceil_mul hp (List.length_pos_iff.2 hne), percentile_eq_get hne hp hp'⟩

theorem percentile_mono {sorted : List Nat} (hs : sorted.Pairwise (· ≤ ·)) (hne : sorted ≠ [])
    (hp : 0 < p) (hpq : p ≤ q) (hq : q < 1) : percentile sorted p ≤ percentile sorted q := by
  have hrank := (percentile_le_iff hs hne (hp.trans_le hpq) hq).1 le_rfl
  rw [percentile_le_iff hs hne hp (hpq.trans_lt hq)]
  exact (mul_le_mul_of_nonneg_right hpq (Nat.cast_nonneg _)).trans hrank

theorem isNearestRank_computeStats (r : LatencyRecorder) (q : Percentile)
    (hne : r.latenciesUs ≠ []) : IsNearestRank r.latenciesUs q.level (q.of r.computeStats) := by
  have hperm := List.perm_insertionSort (· ≤ ·) r.latenciesUs
  have hsort := List.pairwise_insertionSort (· ≤ ·) r.latenciesUs
  rw [of_computeStats]
  exact (percentile_isNearestRank hsort (insertionSort_ne_nil hne) q.level_pos
    q.level_lt_one).perm hperm

theorem IsNearestRank.eq_computeStats {r : LatencyRecorder} {q : Percentile}
    (h : IsNearestRank r.latenciesUs q.level v) : v = q.of r.computeStats := by
  obtain ⟨us, hus, -⟩ := h.mem
  have hne : r.latenciesUs ≠ [] := List.ne_nil_of_mem hus
  apply le_antisymm
  · rw [le_percentile_iff_countP r q hne]
    exact Nat.lt_ceil.1 h.countP_lt
  · rw [percentile_le_iff_countP r q hne]
    exact Nat.ceil_le.1 h.le_countP

structure Coherent (result : BenchmarkResult ℚ) : Prop where
  min_le_p50 : result.minUs ≤ result.p50Us
  p50_le_p95 : result.p50Us ≤ result.p95Us
  p95_le_p99 : result.p95Us ≤ result.p99Us
  p99_le_max : result.p99Us ≤ result.maxUs

theorem coherent_init : Coherent (BenchmarkResult.init : BenchmarkResult ℚ) :=
  ⟨le_rfl, le_rfl, le_rfl, le_rfl⟩

theorem le_percentile_of_le (r : LatencyRecorder) (q : Percentile) (hne : r.latenciesUs ≠ [])
    (h : ∀ us ∈ r.latenciesUs, x ≤ (us : ℚ)) : x ≤ q.of r.computeStats := by
  have hzero : (r.latenciesUs.countP fun us : Nat => (us : ℚ) < x) = 0 := by
    rw [List.countP_eq_zero]
    intro us hus
    simpa using h us hus
  rw [le_percentile_iff_countP r q hne, hzero, Nat.cast_zero]
  exact mul_pos q.level_pos (Nat.cast_pos.2 (List.length_pos_iff.2 hne))

theorem percentile_nonneg (r : LatencyRecorder) (q : Percentile) : 0 ≤ q.of r.computeStats := by
  by_cases hne : r.latenciesUs = []
  · simp [of_computeStats, hne, percentile]
  · exact le_percentile_of_le r q hne fun us _ => Nat.cast_nonneg us

theorem percentile_le_of_le (r : LatencyRecorder) (q : Percentile) (hne : r.latenciesUs ≠ [])
    (h : ∀ us ∈ r.latenciesUs, (us : ℚ) ≤ x) : q.of r.computeStats ≤ x := by
  have hall : (r.latenciesUs.countP fun us : Nat => (us : ℚ) ≤ x) = r.count := by
    rw [count, List.countP_eq_length]
    intro us hus
    simpa using h us hus
  rw [percentile_le_iff_countP r q hne, hall]
  exact mul_le_of_le_one_left (Nat.cast_nonneg _) q.level_lt_one.le

theorem percentile_le_percentile (r : LatencyRecorder) {p q : Percentile}
    (hpq : p.level ≤ q.level) (hne : r.latenciesUs ≠ []) :
    p.of r.computeStats ≤ q.of r.computeStats := by
  rw [of_computeStats, of_computeStats]
  exact percentile_mono (List.pairwise_insertionSort _ _) (insertionSort_ne_nil hne) p.level_pos
    hpq q.level_lt_one

/-- A recorder without samples reports zeros, which are in order too. -/
theorem coherent_computeStats (r : LatencyRecorder) : Coherent r.computeStats := by
  by_cases hne : r.latenciesUs = []
  · rw [computeStats_of_count_eq_zero (List.length_eq_zero_iff.2 hne)]
    exact coherent_init
  have hmax : ∀ us ∈ r.latenciesUs, (us : ℚ) ≤ r.computeStats.maxUs :=
    (maxUs_le_iff r (maxUs_nonneg r)).1 le_rfl
  exact {
    min_le_p50 := le_percentile_of_le r .p50 hne fun us hus => minUs_le_of_mem r hus
    p50_le_p95 := percentile_le_percentile r (p := .p50) (q := .p95) (by decide +kernel) hne
    p95_le_p99 := percentile_le_percentile r (p := .p95) (q := .p99) (by decide +kernel) hne
    p99_le_max := percentile_le_of_le r .p99 hne hmax }

theorem minUs_le_meanUs (r : LatencyRecorder) (hne : r.latenciesUs ≠ []) :
    r.computeStats.minUs ≤ r.computeStats.meanUs := by
  rw [meanUs_eq]
  exact le_mean hne fun us hus => minUs_le_of_mem r hus

theorem meanUs_le_maxUs (r : LatencyRecorder) (hne : r.latenciesUs ≠ []) :
    r.computeStats.meanUs ≤ r.computeStats.maxUs := by
  rw [meanUs_eq]
  exact mean_le hne ((maxUs_le_iff r (maxUs_nonneg r)).1 le_rfl)

/-- The statistics depend on the samples and the timer only, not on the order of recording. -/
theorem computeStats_perm {r r' : LatencyRecorder} (h : r.latenciesUs.Perm r'.latenciesUs)
    (hstart : r.startNs = r'.startNs) (hend : r.endNs = r'.endNs) :
    r.computeStats = r'.computeStats := by
  have hsorted : r.latenciesUs.insertionSort (· ≤ ·) = r'.latenciesUs.insertionSort (· ≤ ·) := by
    have hperm := ((List.perm_insertionSort (· ≤ ·) r.latenciesUs).trans h).trans
      (List.perm_insertionSort (· ≤ ·) r'.latenciesUs).symm
    exact hperm.eq_of_pairwise' (List.pairwise_insertionSort _ _) (List.pairwise_insertionSort _ _)
  have hnil : r.latenciesUs = [] ↔ r'.latenciesUs = [] := by
    rw [← List.length_eq_zero_iff, h.length_eq, List.length_eq_zero_iff]
  simp only [computeStats, hsorted, hnil, hstart, hend]

/-- `compute_stats` reports nearest ranks, in order, with the mean between the extremes. -/
theorem computeStats_nearestRanks (r : LatencyRecorder) (hne : r.latenciesUs ≠ []) :
    (∀ p : ℚ, 0 < p → p < 1 →
      IsNearestRank r.latenciesUs p (percentile (r.latenciesUs.insertionSort (· ≤ ·)) p) ∧
      1 ≤ ⌈p * r.latenciesUs.length⌉₊ ∧
      ∃ h : ⌈p * r.latenciesUs.length⌉₊ - 1 < (r.latenciesUs.insertionSort (· ≤ ·)).length,
        percentile (r.latenciesUs.insertionSort (· ≤ ·)) p =
          (r.latenciesUs.insertionSort (· ≤ ·)).get ⟨⌈p * r.latenciesUs.length⌉₊ - 1, h⟩) ∧
      (∀ q : Percentile, IsNearestRank r.latenciesUs q.level (q.of r.computeStats)) ∧
      Coherent r.computeStats ∧
      (r.computeStats.minUs ≤ r.computeStats.meanUs ∧
        r.computeStats.meanUs ≤ r.computeStats.maxUs) ∧
      ∀ r' : LatencyRecorder, r.latenciesUs.Perm r'.latenciesUs → r.startNs = r'.startNs →
        r.endNs = r'.endNs → r.computeStats = r'.computeStats := by
  have hsort := List.pairwise_insertionSort (· ≤ ·) r.latenciesUs
  have hperm := List.perm_insertionSort (· ≤ ·) r.latenciesUs
  have hne' := insertionSort_ne_nil hne
  refine ⟨?_, ?_, coherent_computeStats r, ⟨minUs_le_meanUs r hne, meanUs_le_maxUs r hne⟩, ?_⟩
  · intro p hp hp'
    have hindex := percentile_index hne' hp hp'
    rw [← hperm.length_eq]
    exact ⟨(percentile_isNearestRank hsort hne' hp hp').perm hperm, hindex⟩
  · exact fun q => isNearestRank_computeStats r q hne
  · intro r' h hstart hend
    exact computeStats_perm h hstart hend

/-- Ties, and a rank that is a whole number: the median of four samples is the second. -/
theorem computeStats_nearestRanks_ties :
    IsNearestRank [7, 3, 3, 9] (50 / 100) 3 := by
  have h := (computeStats_nearestRanks (LatencyRecorder.init.recordAll [7, 3, 3, 9]) (by decide)).2.1
    .p50
  have hvalue : Percentile.p50.of (LatencyRecorder.init.recordAll [7, 3, 3, 9]).computeStats = 3 := by
    decide +kernel
  rw [hvalue] at h
  exact h

theorem weighted_le_weighted (recorders : List LatencyRecorder) {v v' : LatencyRecorder → ℚ}
    (h : ∀ r ∈ recorders, v r ≤ v' r) (n : Nat) :
    (recorders.map fun r => v r * ((r.count : ℚ) / n)).sum ≤
      (recorders.map fun r => v' r * ((r.count : ℚ) / n)).sum := by
  apply List.sum_le_sum
  intro r hr
  have hweight : (0 : ℚ) ≤ (r.count : ℚ) / n := div_nonneg (Nat.cast_nonneg _) (Nat.cast_nonneg _)
  exact mul_le_mul_of_nonneg_right (h r hr) hweight

theorem MergedFrom.coherent (hm : MergedFrom recorders merged) (hsome : samples recorders ≠ 0) :
    Coherent merged := by
  have hmin := (hm.le_minUs _).1 le_rfl
  have hmax := (hm.maxUs_le _).1 le_rfl
  have hrange (r : LatencyRecorder) (hr : r ∈ recorders) :
      (merged.minUs ≤ Percentile.p50.of r.computeStats ∧
        Percentile.p50.of r.computeStats ≤ merged.maxUs) ∧
      merged.minUs ≤ Percentile.p99.of r.computeStats ∧
        Percentile.p99.of r.computeStats ≤ merged.maxUs := by
    obtain ⟨h₁, h₂, h₃, h₄⟩ := coherent_computeStats r
    have hlo := (hmin r hr).trans h₁
    have hhi := h₄.trans (hmax r hr)
    exact ⟨⟨hlo, (h₂.trans h₃).trans hhi⟩, hlo.trans (h₂.trans h₃), hhi⟩
  have hp50 := hm.percentile .p50
  have hp95 := hm.percentile .p95
  have hp99 := hm.percentile .p99
  exact {
    min_le_p50 := by
      have h := (weighted_mean_bounds count (fun r => Percentile.p50.of r.computeStats) hsome
        fun r hr _ => (hrange r hr).1).1
      exact h.trans_eq hp50.symm
    p50_le_p95 := by
      have h := weighted_le_weighted recorders
        (fun r _ => (coherent_computeStats r).p50_le_p95) (samples recorders)
      exact (hp50.trans_le h).trans_eq hp95.symm
    p95_le_p99 := by
      have h := weighted_le_weighted recorders
        (fun r _ => (coherent_computeStats r).p95_le_p99) (samples recorders)
      exact (hp95.trans_le h).trans_eq hp99.symm
    p99_le_max := by
      have h := (weighted_mean_bounds count (fun r => Percentile.p99.of r.computeStats) hsome
        fun r hr _ => (hrange r hr).2).2
      exact hp99.trans_le h }

/-- Recorders without samples may stand anywhere in the list. -/
theorem mergeThreadResults_coherent (hsome : samples recorders ≠ 0)
    (templateResult : BenchmarkResult ℚ) :
    ∃ merged, mergeThreadResults recorders templateResult = .ok merged ∧ Coherent merged := by
  obtain ⟨merged, hok, hm⟩ := mergeThreadResults_ok (recorders_ne_nil hsome) templateResult
  exact ⟨merged, hok, hm.coherent hsome⟩

theorem mergeThreadResults_coherent_emptyFirst :
    ∃ merged, mergeThreadResults [.init, LatencyRecorder.init.recordAll [5, 8], .init] .init =
      .ok merged ∧ Coherent merged :=
  mergeThreadResults_coherent (by decide) .init

structure SameSamples (r r' : LatencyRecorder) : Prop where
  latenciesUs : r.latenciesUs.Perm r'.latenciesUs
  startNs : r.startNs = r'.startNs
  endNs : r.endNs = r'.endNs

theorem MergeAccumulator.add_add_comm (n : Nat) (acc : MergeAccumulator)
    (s s' : BenchmarkResult ℚ) : (acc.add n s).add n s' = (acc.add n s').add n s := by
  have hmin := min_comm s.minUs s'.minUs
  have hmax := max_comm s.maxUs s'.maxUs
  have hmins := min_right_comm acc.minV s.minUs s'.minUs
  have hmaxs := max_right_comm acc.maxV s.maxUs s'.maxUs
  cases hfirst : acc.first with
  | true => simp [add, hfirst, add_right_comm, hmin, hmax]
  | false => simp [add, hfirst, add_right_comm, hmins, hmaxs]

theorem mergeThreadResults_of_computeStats {recorders recorders' : List LatencyRecorder}
    (h : (recorders.map computeStats).Perm (recorders'.map computeStats))
    (templateResult : BenchmarkResult ℚ) :
    mergeThreadResults recorders templateResult = mergeThreadResults recorders' templateResult := by
  have hnil : recorders = [] ↔ recorders' = [] := by
    have hlength := h.length_eq
    rw [List.length_map, List.length_map] at hlength
    rw [← List.length_eq_zero_iff, hlength, List.length_eq_zero_iff]
  have hops := h.foldl_eq' (f := fun n s => n + s.totalOps)
    (fun s _ s' _ n => Nat.add_right_comm n s.totalOps s'.totalOps) 0
  have hms := h.foldl_eq' (f := fun ms s => max ms s.totalTimeMs)
    (fun s _ s' _ ms => max_right_comm ms s.totalTimeMs s'.totalTimeMs) 0
  have hacc (n : Nat) := h.foldl_eq' (f := MergeAccumulator.add n)
    (fun s _ s' _ acc => acc.add_add_comm n s s') .init
  simp only [mergeThreadResults, hnil, hops, hms, hacc]

theorem map_computeStats_of_sameSamples {recorders recorders' : List LatencyRecorder}
    (h : List.Forall₂ SameSamples recorders recorders') :
    recorders.map computeStats = recorders'.map computeStats := by
  induction h with
  | nil => rfl
  | cons h _ ih =>
    rw [List.map_cons, List.map_cons, computeStats_perm h.latenciesUs h.startNs h.endNs, ih]

/-- Neither the order of the threads nor the order in which a thread took its samples shows in the
merged record. -/
theorem mergeThreadResults_order {recorders reordered recorders' : List LatencyRecorder}
    (hsamples : List.Forall₂ SameSamples recorders reordered) (hperm : reordered.Perm recorders')
    (templateResult : BenchmarkResult ℚ) :
    mergeThreadResults recorders templateResult = mergeThreadResults recorders' templateResult := by
  apply mergeThreadResults_of_computeStats
  rw [map_computeStats_of_sameSamples hsamples]
  exact hperm.map computeStats

theorem mergeThreadResults_order_swapped :
    mergeThreadResults
        [LatencyRecorder.init.recordAll [1, 2], LatencyRecorder.init.recordAll [9]] .init =
      mergeThreadResults
        [LatencyRecorder.init.recordAll [9], LatencyRecorder.init.recordAll [2, 1]] .init := by
  have hsamples : List.Forall₂ SameSamples
      [LatencyRecorder.init.recordAll [1, 2], LatencyRecorder.init.recordAll [9]]
      [LatencyRecorder.init.recordAll [2, 1], LatencyRecorder.init.recordAll [9]] :=
    .cons ⟨List.Perm.swap 2 1 [], rfl, rfl⟩ (.cons ⟨.refl _, rfl, rfl⟩ .nil)
  exact mergeThreadResults_order hsamples (List.Perm.swap _ _ []) .init

end DbBenchmark
