import DbBenchmark.MetricsCollector
import DbBenchmark.Order
import DbBenchmark.ThreadPool

namespace DbBenchmark
open ThreadPool
set_option autoImplicit true

/-- Where a worker stands in its loop; what it holds there is what the loop body has bound. -/
inductive WorkerPc (Double : Type) where
  | test
  | body
  | insert (order : Option (Order Double))
  | record (us : UInt64)
  | finished

structure Worker (Double : Type) where
  i : UInt64
  pc : WorkerPc Double

/-- A call of `insert_one`; there is no order where the index is outside the dataset. -/
structure InsertCall (Double : Type) where
  thread : Nat
  index : Nat
  order : Option (Order Double)
deriving DecidableEq

/-- What the threads have in common: the dataset indexes accessed and the calls made so far, each
with its thread, and `thread_recorders_`. -/
structure Shared (Double : Type) where
  accessed : List (Nat × Nat)
  inserted : List (InsertCall Double)
  recorders : List LatencyRecorder

namespace Experiment2

variable {Double : Type}

def rowsPerThread (totalRows numThreads : UInt32) : UInt64 := (totalRows / numThreads).toUInt64

def startIdx (totalRows numThreads t : UInt32) : UInt64 :=
  t.toUInt64 * rowsPerThread totalRows numThreads

def endIdx (totalRows numThreads t : UInt32) : UInt64 :=
  if t = numThreads - 1 then totalRows.toUInt64
  else startIdx totalRows numThreads t + rowsPerThread totalRows numThreads

/-- One step of thread `t`; `us` is the duration that the clock readings around the call give. -/
def workerStep (dataset : List (Order Double)) (totalRows numThreads : UInt32) (t : Nat)
    (us : UInt64) (w : Worker Double) (g : Shared Double) : Option (Worker Double × Shared Double) :=
  match w.pc with
  | .test =>
    if w.i < endIdx totalRows numThreads (UInt32.ofNat t) then some ({ w with pc := .body }, g)
    else some ({ w with pc := .finished }, g)
  | .body =>
    some ({ w with pc := .insert dataset[w.i.toNat]? },
      { g with accessed := g.accessed ++ [(t, w.i.toNat)] })
  | .insert order =>
    some ({ w with pc := .record us },
      { g with inserted := g.inserted ++ [⟨t, w.i.toNat, order⟩] })
  | .record us =>
    some ({ i := w.i + 1, pc := .test },
      { g with recorders := g.recorders.modify t fun recorder => recorder.record us.toNat })
  | .finished => none

/-- The part of `run` between `threads.reserve` and the last `join`. -/
def threads (dataset : List (Order Double)) (totalRows numThreads : UInt32) :
    Program (Worker Double) (Shared Double) UInt64 where
  threads := numThreads.toNat
  start t := { i := startIdx totalRows numThreads (UInt32.ofNat t), pc := .test }
  step := workerStep dataset totalRows numThreads
  finished w := match w.pc with
    | .finished => true
    | _ => false

def initialShared (numThreads : UInt32) : Shared Double where
  accessed := []
  inserted := []
  recorders := List.replicate numThreads.toNat .init

def runThreads (dataset : List (Order Double)) (totalRows numThreads : UInt32)
    (acts : List (Action UInt64)) : Option (Pool (Worker Double) (Shared Double)) :=
  (threads dataset totalRows numThreads).run (Program.init (initialShared numThreads)) acts

/-- The part of `run` after the last `join`. `startTimer` is declared without a body, and
`endNs` are the clock readings that `stop_timer` takes. -/
def report (startTimer : LatencyRecorder → LatencyRecorder) (recorders : List LatencyRecorder)
    (endNs : Nat → UInt64) (totalRows : UInt32) (wallMs : ℚ)
    (result : BenchmarkResult ℚ) : Except CppString (BenchmarkResult ℚ) := do
  let recorders := recorders.mapIdx fun i rec => (startTimer rec).stopTimer (endNs i)
  let merged ← MetricsCollector.mergeThreadResults recorders result
  let merged := { merged with
    totalOps := totalRows.toNat
    totalTimeMs := wallMs
    throughputOpsSec := if 0 < wallMs then totalRows.toNat / (wallMs / 1000) else 0 }
  return { result with
    totalOps := merged.totalOps
    totalTimeMs := merged.totalTimeMs
    p50Us := merged.p50Us
    p95Us := merged.p95Us
    p99Us := merged.p99Us
    minUs := merged.minUs
    maxUs := merged.maxUs
    meanUs := merged.meanUs
    throughputOpsSec := merged.throughputOpsSec }

/-- The first index of thread `t`; the last thread takes the remainder. -/
def bound (totalRows numThreads : UInt32) (t : Nat) : Nat :=
  if t = numThreads.toNat then totalRows.toNat else t * (totalRows.toNat / numThreads.toNat)

theorem mul_rows_le (totalRows numThreads : UInt32) (ht : t ≤ numThreads.toNat) :
    t * (totalRows.toNat / numThreads.toNat) ≤ totalRows.toNat :=
  (Nat.mul_le_mul_right _ ht).trans (Nat.mul_div_le _ _)

theorem startIdx_toNat (totalRows numThreads : UInt32) (ht : t < numThreads.toNat) :
    (startIdx totalRows numThreads (UInt32.ofNat t)).toNat = bound totalRows numThreads t := by
  have hle := mul_rows_le totalRows numThreads ht.le
  have ht32 : t < 2 ^ 32 := ht.trans numThreads.toNat_lt
  have htotal := totalRows.toNat_lt
  rw [bound, if_neg ht.ne, startIdx, rowsPerThread, UInt64.toNat_mul, UInt32.toNat_toUInt64,
    UInt32.toNat_toUInt64, UInt32.toNat_div, UInt32.toNat_ofNat_of_lt' ht32]
  exact Nat.mod_eq_of_lt (by omega)

theorem endIdx_toNat (totalRows numThreads : UInt32) (ht : t < numThreads.toNat) :
    (endIdx totalRows numThreads (UInt32.ofNat t)).toNat = bound totalRows numThreads (t + 1) := by
  have hle := mul_rows_le totalRows numThreads ht
  have ht32 : t < 2 ^ 32 := ht.trans numThreads.toNat_lt
  have htotal := totalRows.toNat_lt
  have hone : (1 : UInt32) ≤ numThreads := UInt32.le_iff_toNat_le.2 (Nat.one_le_of_lt ht)
  have hlast : UInt32.ofNat t = numThreads - 1 ↔ t + 1 = numThreads.toNat := by
    rw [← UInt32.toNat_inj, UInt32.toNat_sub_of_le _ _ hone, UInt32.toNat_ofNat_of_lt' ht32]
    change t = numThreads.toNat - 1 ↔ t + 1 = numThreads.toNat
    omega
  by_cases hl : t + 1 = numThreads.toNat
  · rw [endIdx, if_pos (hlast.2 hl), bound, if_pos hl, UInt32.toNat_toUInt64]
  · have hstart := startIdx_toNat totalRows numThreads ht
    rw [bound, if_neg ht.ne] at hstart
    rw [endIdx, if_neg fun h => hl (hlast.1 h), bound, if_neg hl, UInt64.toNat_add, hstart,
      rowsPerThread, UInt32.toNat_toUInt64, UInt32.toNat_div, ← Nat.succ_mul]
    exact Nat.mod_eq_of_lt (by omega)

theorem bound_zero (totalRows numThreads : UInt32) (h : 1 ≤ numThreads.toNat) :
    bound totalRows numThreads 0 = 0 := by
  rw [bound, if_neg (by omega), Nat.zero_mul]

theorem bound_le_succ (totalRows numThreads : UInt32) (ht : t < numThreads.toNat) :
    bound totalRows numThreads t ≤ bound totalRows numThreads (t + 1) := by
  have hle := mul_rows_le totalRows numThreads ht.le
  rw [bound, if_neg ht.ne, bound]
  split
  · exact hle
  · exact Nat.mul_le_mul_right _ t.le_succ

end Experiment2

end DbBenchmark
