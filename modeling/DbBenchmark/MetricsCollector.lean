import DbBenchmark.LatencyRecorder
import Mathlib.Tactic.FieldSimp

namespace DbBenchmark
open LatencyRecorder OrderStatistics
set_option autoImplicit true

/-- The local variables of the second loop of `merge_thread_results`. -/
structure MergeAccumulator where
  p50 : ℚ
  p95 : ℚ
  p99 : ℚ
  mean : ℚ
  minV : ℚ
  maxV : ℚ
  first : Bool

namespace MergeAccumulator

def init : MergeAccumulator where
  p50 := 0
  p95 := 0
  p99 := 0
  mean := 0
  minV := 0
  maxV := 0
  first := true

def add (totalOps : Nat) (acc : MergeAccumulator) (s : BenchmarkResult ℚ) : MergeAccumulator :=
  let w : ℚ := s.totalOps / totalOps
  { p50 := acc.p50 + s.p50Us * w
    p95 := acc.p95 + s.p95Us * w
    p99 := acc.p99 + s.p99Us * w
    mean := acc.mean -- declared with the others, and no statement adds to it
    minV := if acc.first then s.minUs else min acc.minV s.minUs
    maxV := if acc.first then s.maxUs else max acc.maxV s.maxUs
    first := false }

end MergeAccumulator

/-- The record `merged` as the body leaves it; the source has no `return` statement. -/
def MetricsCollector.mergeThreadResults (recorders : List LatencyRecorder)
    (templateResult : BenchmarkResult ℚ) : Except CppString (BenchmarkResult ℚ) :=
  if recorders = [] then throw (lit "no recorder for merge thread results")
  else
    let threadStats := recorders.map computeStats
    let totalOps := threadStats.foldl (fun n s => n + s.totalOps) 0
    let totalTimeMs : ℚ := threadStats.foldl (fun ms s => max ms s.totalTimeMs) 0
    let acc := threadStats.foldl (MergeAccumulator.add totalOps) .init
    return { templateResult with
      totalOps := totalOps
      totalTimeMs := totalTimeMs
      throughputOpsSec := if 0 < totalTimeMs then totalOps / (totalTimeMs / 1000) else 0
      p50Us := acc.p50
      p95Us := acc.p95
      p99Us := acc.p99
      meanUs := acc.mean
      minUs := acc.minV
      maxUs := acc.maxV }

namespace MergeAccumulator

def of (acc : MergeAccumulator) : Percentile → ℚ
  | .p50 => acc.p50
  | .p95 => acc.p95
  | .p99 => acc.p99

theorem of_foldl (q : Percentile) (n : Nat) (stats : List (BenchmarkResult ℚ))
    (acc : MergeAccumulator) : (stats.foldl (add n) acc).of q =
      acc.of q + (stats.map fun s => q.of s * ((s.totalOps : ℚ) / n)).sum := by
  induction stats generalizing acc with
  | nil => simp
  | cons s stats ih =>
    have hadd : (add n acc s).of q = acc.of q + q.of s * (s.totalOps / n) := by cases q <;> rfl
    rw [List.foldl_cons, ih, hadd, List.map_cons, List.sum_cons, add_assoc]

@[simp] theorem mean_foldl (n : Nat) (stats : List (BenchmarkResult ℚ)) (acc : MergeAccumulator) :
    (stats.foldl (add n) acc).mean = acc.mean := by
  induction stats generalizing acc with
  | nil => rfl
  | cons s stats ih => rw [List.foldl_cons, ih]; rfl

theorem le_minV_foldl (n : Nat) (stats : List (BenchmarkResult ℚ)) {acc : MergeAccumulator}
    (hacc : acc.first = false) {x : ℚ} : x ≤ (stats.foldl (add n) acc).minV ↔
      x ≤ acc.minV ∧ ∀ s ∈ stats, x ≤ s.minUs := by
  induction stats generalizing acc with
  | nil => simp
  | cons s stats ih =>
    have hadd : (add n acc s).minV = min acc.minV s.minUs := by simp [add, hacc]
    rw [List.foldl_cons, ih rfl, hadd, le_min_iff, List.forall_mem_cons, and_assoc]

theorem maxV_foldl_le (n : Nat) (stats : List (BenchmarkResult ℚ)) {acc : MergeAccumulator}
    (hacc : acc.first = false) {x : ℚ} : (stats.foldl (add n) acc).maxV ≤ x ↔
      acc.maxV ≤ x ∧ ∀ s ∈ stats, s.maxUs ≤ x := by
  induction stats generalizing acc with
  | nil => simp
  | cons s stats ih =>
    have hadd : (add n acc s).maxV = max acc.maxV s.maxUs := by simp [add, hacc]
    rw [List.foldl_cons, ih rfl, hadd, max_le_iff, List.forall_mem_cons, and_assoc]

/-- The flag `first` keeps the initial zeros out of both extremes. -/
theorem le_minV_init (n : Nat) {stats : List (BenchmarkResult ℚ)} (hne : stats ≠ []) {x : ℚ} :
    x ≤ (stats.foldl (add n) .init).minV ↔ ∀ s ∈ stats, x ≤ s.minUs := by
  obtain ⟨s, stats, rfl⟩ := List.exists_cons_of_ne_nil hne
  rw [List.foldl_cons, le_minV_foldl n stats rfl, List.forall_mem_cons]
  rfl

theorem maxV_init_le (n : Nat) {stats : List (BenchmarkResult ℚ)} (hne : stats ≠ []) {x : ℚ} :
    (stats.foldl (add n) .init).maxV ≤ x ↔ ∀ s ∈ stats, s.maxUs ≤ x := by
  obtain ⟨s, stats, rfl⟩ := List.exists_cons_of_ne_nil hne
  rw [List.foldl_cons, maxV_foldl_le n stats rfl, List.forall_mem_cons]
  rfl

end MergeAccumulator

end DbBenchmark
