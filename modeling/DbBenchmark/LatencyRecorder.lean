import DbBenchmark.CppString
import DbBenchmark.OrderStatistics
import Mathlib.Algebra.BigOperators.Ring.Finset

namespace DbBenchmark
open OrderStatistics
set_option autoImplicit true

/-- One row of measurements; `Double` stands for the values of C++ `double`. -/
structure BenchmarkResult (Double : Type) where
  database : CppString
  experimentName : CppString
  operation : CppString
  indexType : CppString
  phase : CppString
  threadCount : Nat
  totalOps : Nat
  totalTimeMs : Double
  p50Us : Double
  p95Us : Double
  p99Us : Double
  meanUs : Double
  minUs : Double
  maxUs : Double
  throughputOpsSec : Double
  sstableCount : Nat
  resultSetSize : Nat
  notes : CppString
deriving DecidableEq

/-- `BenchmarkResult result;` takes the default member initialisers. -/
def BenchmarkResult.init [Zero Double] : BenchmarkResult Double where
  database := []
  experimentName := []
  operation := []
  indexType := []
  phase := []
  threadCount := 1
  totalOps := 0
  totalTimeMs := 0
  p50Us := 0
  p95Us := 0
  p99Us := 0
  meanUs := 0
  minUs := 0
  maxUs := 0
  throughputOpsSec := 0
  sstableCount := 0
  resultSetSize := 0
  notes := []

structure LatencyRecorder where
  latenciesUs : List Nat
  startNs : UInt64
  endNs : UInt64
deriving DecidableEq

namespace LatencyRecorder

def init : LatencyRecorder where
  latenciesUs := []
  startNs := 0
  endNs := 0

def record (r : LatencyRecorder) (durationUs : Nat) : LatencyRecorder :=
  { r with latenciesUs := r.latenciesUs ++ [durationUs] }

def stopTimer (r : LatencyRecorder) (now : UInt64) : LatencyRecorder := { r with endNs := now }

def count (r : LatencyRecorder) : Nat := r.latenciesUs.length

def reset (_ : LatencyRecorder) : LatencyRecorder := init

/-- The multiplication, the division and the rounding are those of the rationals. -/
def percentile (sorted : List Nat) (p : ℚ) : ℚ :=
  if h : sorted = [] then 0
  else if p ≤ 0 then sorted.head h
  else if 1 ≤ p then sorted.getLast h
  else
    let rank := p * sorted.length
    let index := min (⌈rank⌉₊ - 1) (sorted.length - 1)
    sorted.get ⟨index, by have := List.length_pos_iff.2 h; omega⟩

def computeStats (r : LatencyRecorder) : BenchmarkResult ℚ :=
  if r.latenciesUs = [] then .init
  else
    let sorted := r.latenciesUs.insertionSort (· ≤ ·)
    -- `end_ns_-start_ns_` is taken in `uint64_t`, before the conversion
    let totalTimeMs : ℚ := (r.endNs - r.startNs).toNat / 1000000
    let sum : ℚ := sorted.foldl (fun acc (us : Nat) => acc + us) 0
    { (BenchmarkResult.init : BenchmarkResult ℚ) with
      totalOps := sorted.length
      totalTimeMs := totalTimeMs
      p50Us := percentile sorted (50 / 100)
      p95Us := percentile sorted (95 / 100)
      p99Us := percentile sorted (99 / 100)
      minUs := sorted.headD 0
      maxUs := sorted.getLastD 0
      meanUs := sum / sorted.length
      throughputOpsSec := if 0 < totalTimeMs then sorted.length / (totalTimeMs / 1000) else 0 }

end LatencyRecorder

inductive Percentile where
  | p50
  | p95
  | p99
deriving DecidableEq

namespace Percentile

def level : Percentile → ℚ
  | p50 => 50 / 100
  | p95 => 95 / 100
  | p99 => 99 / 100

def of (q : Percentile) (result : BenchmarkResult Double) : Double :=
  match q with
  | p50 => result.p50Us
  | p95 => result.p95Us
  | p99 => result.p99Us

theorem level_pos (q : Percentile) : 0 < q.level := by cases q <;> norm_num [level]

theorem level_lt_one (q : Percentile) : q.level < 1 := by cases q <;> norm_num [level]

end Percentile

namespace LatencyRecorder

theorem of_computeStats (r : LatencyRecorder) (q : Percentile) :
    q.of r.computeStats = percentile (r.latenciesUs.insertionSort (· ≤ ·)) q.level := by
  by_cases hr : r.latenciesUs = []
  · cases q <;> simp [computeStats, hr, percentile, Percentile.of, BenchmarkResult.init]
  · cases q <;> simp [computeStats, hr, Percentile.of, Percentile.level]

theorem percentile_eq_get (hne : sorted ≠ []) (hp : 0 < p) (hp' : p < 1) :
    ∃ h : nearestRank p sorted.length < sorted.length,
      percentile sorted p = sorted.get ⟨nearestRank p sorted.length, h⟩ := by
  have hlt := nearestRank_lt hp' (List.length_pos_iff.2 hne)
  have hmin : min (⌈p * sorted.length⌉₊ - 1) (sorted.length - 1) =
      nearestRank p sorted.length := by
    rw [nearestRank] at hlt ⊢
    omega
  refine ⟨hlt, ?_⟩
  simp only [percentile, hne, hp.not_ge, hp'.not_ge, dite_false, if_false, hmin]

theorem percentile_le_iff {sorted : List Nat} (hs : sorted.Pairwise (· ≤ ·)) (hne : sorted ≠ [])
    (hp : 0 < p) (hp' : p < 1) {x : ℚ} :
    percentile sorted p ≤ x ↔ p * sorted.length ≤ sorted.countP fun us : Nat => (us : ℚ) ≤ x := by
  obtain ⟨hlt, hget⟩ := percentile_eq_get hne hp hp'
  have hmap : (sorted.map (Nat.cast : Nat → ℚ)).Pairwise (· ≤ ·) :=
    hs.map _ fun _ _ h => Nat.cast_le.2 h
  have hrank := getElem_nearestRank_le_iff hmap hp (k := nearestRank p sorted.length)
    (by simpa using hlt) (by simp) (x := x)
  simpa [hget, List.countP_map, Function.comp_def] using hrank

theorem le_percentile_iff {sorted : List Nat} (hs : sorted.Pairwise (· ≤ ·)) (hne : sorted ≠ [])
    (hp : 0 < p) (hp' : p < 1) {x : ℚ} :
    x ≤ percentile sorted p ↔ (sorted.countP fun us : Nat => (us : ℚ) < x) < p * sorted.length := by
  obtain ⟨hlt, hget⟩ := percentile_eq_get hne hp hp'
  have hmap : (sorted.map (Nat.cast : Nat → ℚ)).Pairwise (· ≤ ·) :=
    hs.map _ fun _ _ h => Nat.cast_le.2 h
  have hrank := le_getElem_nearestRank_iff hmap hp (k := nearestRank p sorted.length)
    (by simpa using hlt) (by simp) (x := x)
  simpa [hget, List.countP_map, Function.comp_def] using hrank

theorem insertionSort_ne_nil {l : List Nat} (h : l ≠ []) : l.insertionSort (· ≤ ·) ≠ [] := by
  have hlen := List.length_insertionSort (· ≤ ·) l
  rw [← List.length_pos_iff] at h ⊢
  omega

/-- A percentile of a recorder bounds a share of its samples, in whatever order they came. -/
theorem percentile_le_iff_countP (r : LatencyRecorder) (q : Percentile) (hne : r.latenciesUs ≠ [])
    {x : ℚ} : q.of r.computeStats ≤ x ↔
      q.level * r.count ≤ r.latenciesUs.countP fun us : Nat => (us : ℚ) ≤ x := by
  have hperm := List.perm_insertionSort (· ≤ ·) r.latenciesUs
  have hsort := List.pairwise_insertionSort (· ≤ ·) r.latenciesUs
  rw [of_computeStats,
    percentile_le_iff hsort (insertionSort_ne_nil hne) q.level_pos q.level_lt_one,
    hperm.length_eq, hperm.countP_eq, count]

theorem le_percentile_iff_countP (r : LatencyRecorder) (q : Percentile) (hne : r.latenciesUs ≠ [])
    {x : ℚ} : x ≤ q.of r.computeStats ↔
      (r.latenciesUs.countP fun us : Nat => (us : ℚ) < x) < q.level * r.count := by
  have hperm := List.perm_insertionSort (· ≤ ·) r.latenciesUs
  have hsort := List.pairwise_insertionSort (· ≤ ·) r.latenciesUs
  rw [of_computeStats,
    le_percentile_iff hsort (insertionSort_ne_nil hne) q.level_pos q.level_lt_one,
    hperm.length_eq, hperm.countP_eq, count]

@[simp] theorem totalOps_computeStats (r : LatencyRecorder) : r.computeStats.totalOps = r.count := by
  by_cases hr : r.latenciesUs = []
  · simp [computeStats, hr, count, BenchmarkResult.init]
  · simp [computeStats, hr, count]

theorem computeStats_of_count_eq_zero {r : LatencyRecorder} (hr : r.count = 0) :
    r.computeStats = .init := by
  have hnil : r.latenciesUs = [] := List.length_eq_zero_iff.1 hr
  simp [computeStats, hnil]

theorem le_minUs_iff (r : LatencyRecorder) (hne : r.latenciesUs ≠ []) {x : ℚ} :
    x ≤ r.computeStats.minUs ↔ ∀ us ∈ r.latenciesUs, x ≤ (us : ℚ) := by
  have hsort := List.pairwise_insertionSort (· ≤ ·) r.latenciesUs
  have hmem (us : Nat) := List.mem_insertionSort (· ≤ ·) (l := r.latenciesUs) (x := us)
  simp only [computeStats, hne, if_false, ← hmem]
  cases hs : r.latenciesUs.insertionSort (· ≤ ·) with
  | nil => exact absurd hs (insertionSort_ne_nil hne)
  | cons us sorted =>
    rw [hs, List.pairwise_cons] at hsort
    have hrest (v : Nat) (hv : v ∈ sorted) : (us : ℚ) ≤ v := Nat.cast_le.2 (hsort.1 v hv)
    simp only [List.headD_cons, List.forall_mem_cons]
    exact ⟨fun h => ⟨h, fun v hv => h.trans (hrest v hv)⟩, fun h => h.1⟩

theorem minUs_le_of_mem (r : LatencyRecorder) (hus : us ∈ r.latenciesUs) :
    r.computeStats.minUs ≤ us :=
  (le_minUs_iff r (List.ne_nil_of_mem hus)).1 le_rfl us hus

theorem one_le_minUs (r : LatencyRecorder) (hne : r.latenciesUs ≠ []) (hzero : 0 ∉ r.latenciesUs) :
    1 ≤ r.computeStats.minUs := by
  rw [le_minUs_iff r hne]
  intro us hus
  have hus0 : us ≠ 0 := fun h => hzero (h ▸ hus)
  exact_mod_cast Nat.one_le_iff_ne_zero.2 hus0

theorem maxUs_le_iff (r : LatencyRecorder) {x : ℚ} (hx : 0 ≤ x) :
    r.computeStats.maxUs ≤ x ↔ ∀ us ∈ r.latenciesUs, (us : ℚ) ≤ x := by
  by_cases hne : r.latenciesUs = []
  · simp [computeStats, hne, BenchmarkResult.init, hx]
  have hsort := List.pairwise_insertionSort (· ≤ ·) r.latenciesUs
  have hmem (us : Nat) := List.mem_insertionSort (· ≤ ·) (l := r.latenciesUs) (x := us)
  simp only [computeStats, hne, if_false, ← hmem]
  rcases List.eq_nil_or_concat (r.latenciesUs.insertionSort (· ≤ ·)) with hs | ⟨sorted, us, hs⟩
  · exact absurd hs (insertionSort_ne_nil hne)
  rw [hs, List.concat_eq_append] at hsort ⊢
  have hlast := (List.pairwise_append.1 hsort).2.2
  have hrest (v : Nat) (hv : v ∈ sorted) : (v : ℚ) ≤ us := Nat.cast_le.2 (hlast v hv us (by simp))
  simp only [List.getLastD_concat, List.mem_append, List.mem_singleton]
  constructor
  · rintro h v (hv | rfl)
    · exact (hrest v hv).trans h
    · exact h
  · exact fun h => h us (Or.inr rfl)

theorem minUs_nonneg (r : LatencyRecorder) : 0 ≤ r.computeStats.minUs := by
  by_cases hne : r.latenciesUs = []
  · simp [computeStats, hne, BenchmarkResult.init]
  · rw [le_minUs_iff r hne]
    exact fun us _ => Nat.cast_nonneg us

theorem maxUs_nonneg (r : LatencyRecorder) : 0 ≤ r.computeStats.maxUs := by
  by_cases hne : r.latenciesUs = []
  · simp [computeStats, hne, BenchmarkResult.init]
  · simp only [computeStats, hne, if_false]
    exact Nat.cast_nonneg _

theorem meanUs_eq (r : LatencyRecorder) : r.computeStats.meanUs =
    (r.latenciesUs.map (Nat.cast : Nat → ℚ)).sum / r.latenciesUs.length := by
  by_cases hne : r.latenciesUs = []
  · simp [computeStats, hne, BenchmarkResult.init]
  have hperm := (List.perm_insertionSort (· ≤ ·) r.latenciesUs).map (Nat.cast : Nat → ℚ)
  simp only [computeStats, hne, if_false, foldl_add_eq_sum, List.length_insertionSort,
    hperm.sum_eq]

theorem meanUs_mul_count (r : LatencyRecorder) :
    r.computeStats.meanUs * r.count = (r.latenciesUs.sum : ℚ) := by
  rw [meanUs_eq, count, Nat.cast_list_sum]
  by_cases hne : r.latenciesUs = []
  · simp [hne]
  · have hpos : (r.latenciesUs.length : ℚ) ≠ 0 := by simpa using hne
    exact div_mul_cancel₀ _ hpos

def recordAll (r : LatencyRecorder) (latencies : List Nat) : LatencyRecorder :=
  latencies.foldl record r

@[simp] theorem latenciesUs_recordAll (r : LatencyRecorder) (latencies : List Nat) :
    (r.recordAll latencies).latenciesUs = r.latenciesUs ++ latencies := by
  induction latencies generalizing r with
  | nil => simp [recordAll]
  | cons us latencies ih =>
    have hstep : r.recordAll (us :: latencies) = (r.record us).recordAll latencies := rfl
    rw [hstep, ih, record, List.append_assoc, List.singleton_append]

end LatencyRecorder

end DbBenchmark
