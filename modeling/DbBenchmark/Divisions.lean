import DbBenchmark.ConcurrentLoad
import DbBenchmark.IndexedReads

namespace DbBenchmark
open LatencyRecorder ThreadPool Throwing
set_option autoImplicit true

variable {Double : Type}

abbrev DivisorM := EStateM CppString (List ℚ)

/-- Behind a division by zero nothing is meant by the quotient. -/
def quotient (a b : ℚ) : DivisorM ℚ := fun log => .ok (a / b) (log ++ [b])

/-- `(ms > 0.0) ? ops / (ms / 1000.0) : 0.0` -/
def throughput (ops : Nat) (ms : ℚ) : DivisorM ℚ :=
  if 0 < ms then quotient ops (ms / 1000) else pure 0

def throughputDivisors (ms : ℚ) : List ℚ := if 0 < ms then [ms / 1000] else []

theorem throughput_eq (ops : Nat) (ms : ℚ) (log : List ℚ) : throughput ops ms log =
    .ok (if 0 < ms then ops / (ms / 1000) else 0) (log ++ throughputDivisors ms) := by
  rw [throughput, throughputDivisors]
  split
  · rfl
  · rw [List.append_nil]
    rfl

theorem ne_zero_of_mem_throughputDivisors {d : ℚ} (h : d ∈ throughputDivisors ms) : d ≠ 0 := by
  rw [throughputDivisors] at h
  split at h
  case isTrue hpos =>
    rw [List.mem_singleton.1 h]
    exact (div_pos hpos (by norm_num)).ne'
  case isFalse => cases h

def MergeAccumulator.addWeighted (acc : MergeAccumulator) (w : ℚ) (s : BenchmarkResult ℚ) :
    MergeAccumulator where
  p50 := acc.p50 + s.p50Us * w
  p95 := acc.p95 + s.p95Us * w
  p99 := acc.p99 + s.p99Us * w
  mean := acc.mean
  minV := if acc.first then s.minUs else min acc.minV s.minUs
  maxV := if acc.first then s.maxUs else max acc.maxV s.maxUs
  first := false

def MergeAccumulator.addDividing (totalOps : Nat) (acc : MergeAccumulator) (s : BenchmarkResult ℚ) :
    DivisorM MergeAccumulator := do
  let w ← quotient s.totalOps totalOps
  return acc.addWeighted w s

namespace MetricsCollector

def mergeThreadResultsDividing (recorders : List LatencyRecorder)
    (templateResult : BenchmarkResult ℚ) : DivisorM (BenchmarkResult ℚ) :=
  if recorders = [] then throw (lit "no recorder for merge thread results")
  else do
    let threadStats := recorders.map computeStats
    let totalOps : Nat := threadStats.foldl (fun n s => n + s.totalOps) 0
    let totalTimeMs : ℚ := threadStats.foldl (fun ms s => max ms s.totalTimeMs) 0
    let throughputOpsSec ← throughput totalOps totalTimeMs
    let acc ← threadStats.foldlM (MergeAccumulator.addDividing totalOps) .init
    return { templateResult with
      totalOps := totalOps
      totalTimeMs := totalTimeMs
      throughputOpsSec := throughputOpsSec
      p50Us := acc.p50
      p95Us := acc.p95
      p99Us := acc.p99
      meanUs := acc.mean
      minUs := acc.minV
      maxUs := acc.maxV }

def mergeDivisors (recorders : List LatencyRecorder) : List ℚ :=
  throughputDivisors ((recorders.map computeStats).foldl (fun ms s => max ms s.totalTimeMs) 0) ++
    List.replicate recorders.length (samples recorders : ℚ)

end MetricsCollector

theorem foldlM_addDividing (n : Nat) (stats : List (BenchmarkResult ℚ)) (acc : MergeAccumulator)
    (log : List ℚ) : stats.foldlM (MergeAccumulator.addDividing n) acc log =
      .ok (stats.foldl (MergeAccumulator.add n) acc)
        (log ++ List.replicate stats.length (n : ℚ)) := by
  induction stats generalizing acc log with
  | nil =>
    rw [List.length_nil, List.replicate_zero, List.append_nil]
    rfl
  | cons s stats ih =>
    have hadd : acc.addDividing n s log = .ok (acc.add n s) (log ++ [(n : ℚ)]) := rfl
    rw [List.foldlM_cons, bind_ok hadd, ih, List.foldl_cons, List.append_assoc, List.length_cons,
      List.replicate_succ, List.singleton_append]

/-- Keeping the divisors changes nothing of the result. -/
theorem mergeThreadResultsDividing_eq (hne : recorders ≠ []) (result : BenchmarkResult ℚ)
    (log : List ℚ) : ∃ merged, MetricsCollector.mergeThreadResults recorders result = .ok merged ∧
      MetricsCollector.mergeThreadResultsDividing recorders result log =
        .ok merged (log ++ MetricsCollector.mergeDivisors recorders) := by
  have htotal := foldl_totalOps recorders
  refine ⟨_, by rw [MetricsCollector.mergeThreadResults, if_neg hne]; rfl, ?_⟩
  rw [MetricsCollector.mergeThreadResultsDividing, if_neg hne, bind_ok (throughput_eq _ _ _),
    bind_ok (foldlM_addDividing _ _ _ _), MetricsCollector.mergeDivisors, htotal, List.length_map,
    ← List.append_assoc]
  rfl

namespace Experiment2

def reportDividing (startTimer : LatencyRecorder → LatencyRecorder)
    (recorders : List LatencyRecorder) (endNs : Nat → UInt64) (totalRows : UInt32) (wallMs : ℚ)
    (result : BenchmarkResult ℚ) : DivisorM (BenchmarkResult ℚ) := do
  let recorders := recorders.mapIdx fun i rec => (startTimer rec).stopTimer (endNs i)
  let merged ← MetricsCollector.mergeThreadResultsDividing recorders result
  let throughputOpsSec ← throughput totalRows.toNat wallMs
  let merged := { merged with
    totalOps := totalRows.toNat
    totalTimeMs := wallMs
    throughputOpsSec := throughputOpsSec }
  return { result with
    totalOps := merged.totalOps
    totalTimeMs := merged.totalTimeMs
    p50Us := merged.p50Us
    p95Us := merged.p95Us
    p99Us := merged.p99Us
    minUs := merged.minUs
    maxUs := merged.maxUs
    meanUs := merged.meanUs
    throughputOpsSec := merged.throughputOpsSec }

/-- `run` on one schedule of the threads; nothing is reported before all of them are joined. -/
def runDividing (startTimer : LatencyRecorder → LatencyRecorder) (endNs : Nat → UInt64) (wallMs : ℚ)
    (dataset : List (Order Double)) (config : BenchmarkConfig) (acts : List (Action UInt64))
    (result : BenchmarkResult ℚ) : DivisorM (Option (BenchmarkResult ℚ)) := do
  let numThreads := config.threadCount
  let totalRows := totalRows dataset config
  let _ ← quotient totalRows.toNat numThreads.toNat -- `rows_per_thread`, rounded
  match runThreads dataset totalRows numThreads acts with
  | some pool =>
    if pool.joined = numThreads.toNat then
      let reported ← reportDividing startTimer pool.shared.recorders endNs totalRows wallMs result
      return some reported
    else return none
  | none => return none

def timedRecorders (startTimer : LatencyRecorder → LatencyRecorder) (endNs : Nat → UInt64)
    (recorders : List LatencyRecorder) : List LatencyRecorder :=
  recorders.mapIdx fun i rec => (startTimer rec).stopTimer (endNs i)

theorem reportDividing_eq (hne : recorders ≠ []) (startTimer : LatencyRecorder → LatencyRecorder)
    (endNs : Nat → UInt64) (totalRows : UInt32) (wallMs : ℚ) (result : BenchmarkResult ℚ)
    (log : List ℚ) :
    ∃ reported, report startTimer recorders endNs totalRows wallMs result = .ok reported ∧
      reportDividing startTimer recorders endNs totalRows wallMs result log = .ok reported
        (log ++ MetricsCollector.mergeDivisors (timedRecorders startTimer endNs recorders) ++
          throughputDivisors wallMs) := by
  have hne' : timedRecorders startTimer endNs recorders ≠ [] := by
    simpa [timedRecorders] using hne
  obtain ⟨merged, hmerge, hdividing⟩ := mergeThreadResultsDividing_eq hne' result log
  rw [timedRecorders] at hmerge hdividing
  refine ⟨_, by rw [report, hmerge]; rfl, ?_⟩
  rw [reportDividing, bind_ok hdividing, bind_ok (throughput_eq _ _ _)]
  rfl

theorem samples_timedRecorders {startTimer : LatencyRecorder → LatencyRecorder}
    (htimer : ∀ r, (startTimer r).latenciesUs = r.latenciesUs) (endNs : Nat → UInt64)
    (recorders : List LatencyRecorder) :
    samples (timedRecorders startTimer endNs recorders) = samples recorders := by
  have hcount (r : LatencyRecorder) (now : UInt64) :
      ((startTimer r).stopTimer now).count = r.count := by
    rw [count, stopTimer, htimer, count]
  have hcounts : (timedRecorders startTimer endNs recorders).map count = recorders.map count := by
    apply List.ext_getElem
    · simp [timedRecorders]
    · intro i _ _
      simp [timedRecorders, hcount]
  rw [samples, hcounts, samples]

section

variable {startTimer : LatencyRecorder → LatencyRecorder} {endNs : Nat → UInt64} {wallMs : ℚ}
  {dataset : List (Order Double)} {config : BenchmarkConfig} {acts : List (Action UInt64)}
  {result : BenchmarkResult ℚ}

theorem runDividing_joined (hthreads : 1 ≤ config.threadCount)
    (hruns : runThreads dataset (totalRows dataset config) config.threadCount acts = some pool)
    (hjoined : pool.joined = config.threadCount.toNat) :
    finalState (runDividing startTimer endNs wallMs dataset config acts result) [] =
      [(config.threadCount.toNat : ℚ)] ++
        MetricsCollector.mergeDivisors (timedRecorders startTimer endNs pool.shared.recorders) ++
        throughputDivisors wallMs := by
  have hdivide : quotient (totalRows dataset config).toNat config.threadCount.toNat [] =
    .ok _ [(config.threadCount.toNat : ℚ)] := rfl
  obtain ⟨reported, -, hreport⟩ := reportDividing_eq
    (recorders_ne_nil_of_joined hthreads hruns hjoined) startTimer endNs
    (totalRows dataset config) wallMs result [(config.threadCount.toNat : ℚ)]
  rw [finalState, runDividing, bind_ok hdivide]
  simp only [hruns, hjoined, if_true]
  rw [bind_ok hreport]
  rfl

theorem runDividing_not_joined
    (h : ∀ pool, runThreads dataset (totalRows dataset config) config.threadCount acts = some pool →
      pool.joined ≠ config.threadCount.toNat) :
    finalState (runDividing startTimer endNs wallMs dataset config acts result) [] =
      [(config.threadCount.toNat : ℚ)] := by
  have hdivide : quotient (totalRows dataset config).toNat config.threadCount.toNat [] =
    .ok _ [(config.threadCount.toNat : ℚ)] := rfl
  rw [finalState, runDividing, bind_ok hdivide]
  cases hruns : runThreads dataset (totalRows dataset config) config.threadCount acts with
  | none => rfl
  | some pool =>
    simp only [h pool hruns, if_false]
    rfl

end

theorem samples_joined {pool : Pool (Worker Double) (Shared Double)} {dataset : List (Order Double)}
    {config : BenchmarkConfig} (hthreads : 1 ≤ config.threadCount)
    (hruns : runThreads dataset (totalRows dataset config) config.threadCount acts = some pool)
    (hjoined : pool.joined = config.threadCount.toNat) {startTimer : LatencyRecorder → LatencyRecorder}
    (htimer : ∀ r, (startTimer r).latenciesUs = r.latenciesUs) (endNs : Nat → UInt64) :
    samples (timedRecorders startTimer endNs pool.shared.recorders) =
      rowsToLoad dataset config % 2 ^ 32 := by
  have hparts := partitioned_of_joined hthreads (totalRows_le dataset config) hruns hjoined
  rw [samples_timedRecorders htimer, samples, hparts.total, totalRows_toNat]

end Experiment2

theorem divide_divisors (a b : UInt64) : Triple
    (fun bench : Bench Double σ => ∀ d ∈ bench.divisors, d = b) (BenchM.divide a b)
    (fun _ bench => ∀ d ∈ bench.divisors, d = b) E := by
  intro bench hbench d hd
  rcases List.mem_append.1 hd with hd | hd
  · exact hbench d hd
  · exact List.mem_singleton.1 hd

theorem keptByQueries_divisors (db : DBInterface Double σ) (platform : Platform σ)
    (dataset : List (Order Double)) (config : BenchmarkConfig) (D : List UInt64 → Prop) :
    Experiment5.KeptByQueries db platform dataset config (fun b => D b.divisors)
      (fun _ b => D b.divisors) where
  ofStep := BenchM.outside_divisors platform.step
  ofQuery userIds windowDays q _ := by
    rw [Experiment5.query]
    split
    · apply BenchM.callDb_divisors.bind
      intro orders
      exact (BenchM.outside_divisors platform.step).bind fun _ => Triple.skip
    · exact BenchM.callDb_divisors

/-- A range scan divides by `read_sample_size` and by nothing else. -/
theorem experiment5_divisors (db : DBInterface Double σ) (platform : Platform σ)
    (dataset : List (Order Double)) (config : BenchmarkConfig)
    (x : ExperimentObject Experiment5Members) :
    Keeps (fun b => ∀ d ∈ b.divisors, d = config.readSampleSize)
      (Experiment5.run db platform dataset config x) := by
  have hkept := keptByQueries_divisors db platform dataset config
    (fun l => ∀ d ∈ l, d = config.readSampleSize)
  exact Experiment5.run_triple hkept hkept Experiment5.sampleCassandraUserIds_triple
    (fun rows => divide_divisors rows _) (fun rows => divide_divisors rows _) x

/-- Without queries to run nothing fails, and the first division is reached. -/
theorem experiment5_divides (db : DBInterface Double σ) (dataset : List (Order Double))
    {config : BenchmarkConfig} (hsample : config.readSampleSize = 0)
    (x : ExperimentObject Experiment5Members) :
    Triple (fun _ => True) (Experiment5.run db .calm dataset config x)
      (fun _ b => 0 ∈ b.divisors) (fun _ _ => False) := by
  have hkept (I : Bench Double σ → Prop) :
      Experiment5.KeptByQueries db .calm dataset config I (fun _ _ => False) := {
    ofStep := fun _ hb => hb
    ofQuery := by
      intro userIds windowDays q hq
      rw [hsample] at hq
      exact absurd hq (Nat.not_lt_zero q) }
  have hdivide (I : Bench Double σ → Prop) (rows : UInt64) :
      Triple I (BenchM.divide rows config.readSampleSize) (fun _ b => 0 ∈ b.divisors)
        (fun _ _ => False) := by
    intro b _
    exact List.mem_append_right _ (List.mem_singleton.2 hsample.symm)
  exact Experiment5.run_triple (hkept _) (hkept _) Experiment5.sampleCassandraUserIds_triple
    (hdivide _) (hdivide _) x

/-- No run of the concurrent load or of the range scan divides by zero. -/
structure NoZeroDivisor (dataset : List (Order Double)) (config : BenchmarkConfig) : Prop where
  concurrentLoad : ∀ startTimer : LatencyRecorder → LatencyRecorder,
    (∀ r, (startTimer r).latenciesUs = r.latenciesUs) → ∀ endNs wallMs acts result,
    ∀ d ∈ finalState (Experiment2.runDividing startTimer endNs wallMs dataset config acts result) [],
      d ≠ 0
  rangeScan : ∀ (σ : Type) (db : DBInterface Double σ) (platform : Platform σ) x world,
    ∀ d ∈ (finalState (Experiment5.run db platform dataset config x) (.start world)).divisors, d ≠ 0

theorem toNat_ne_zero {n : UInt32} (h : n ≠ 0) : n.toNat ≠ 0 := fun h0 => h (UInt32.toNat_inj.1 h0)

theorem one_le_of_ne_zero {n : UInt32} (h : n ≠ 0) : 1 ≤ n :=
  UInt32.le_iff_toNat_le.2 (Nat.one_le_iff_ne_zero.2 (toNat_ne_zero h))

theorem noZeroDivisor_of (hthreads : config.threadCount ≠ 0) (hsample : config.readSampleSize ≠ 0)
    (hrows : rowsToLoad dataset config % 2 ^ 32 ≠ 0) : NoZeroDivisor dataset config where
  concurrentLoad := by
    intro startTimer htimer endNs wallMs acts result d hd
    have hone := one_le_of_ne_zero hthreads
    have hthreads' : (config.threadCount.toNat : ℚ) ≠ 0 :=
      Nat.cast_ne_zero.2 (toNat_ne_zero hthreads)
    have hrows' : ((rowsToLoad dataset config % 2 ^ 32 : Nat) : ℚ) ≠ 0 := Nat.cast_ne_zero.2 hrows
    by_cases hjoined : ∃ pool, Experiment2.runThreads dataset (Experiment2.totalRows dataset config)
        config.threadCount acts = some pool ∧ pool.joined = config.threadCount.toNat
    · obtain ⟨pool, hruns, hjoined⟩ := hjoined
      rw [Experiment2.runDividing_joined hone hruns hjoined, MetricsCollector.mergeDivisors,
        Experiment2.samples_joined hone hruns hjoined htimer] at hd
      simp only [List.mem_append, List.mem_singleton, List.mem_replicate] at hd
      rcases hd with (rfl | hd | ⟨-, rfl⟩) | hd
      · exact hthreads'
      · exact ne_zero_of_mem_throughputDivisors hd
      · exact hrows'
      · exact ne_zero_of_mem_throughputDivisors hd
    · rw [Experiment2.runDividing_not_joined fun pool hruns h => hjoined ⟨pool, hruns, h⟩] at hd
      rw [List.mem_singleton.1 hd]
      exact hthreads'
  rangeScan := by
    intro σ db platform x world d hd
    have hkept := (experiment5_divisors db platform dataset config x).finalState
      (s := .start world) (fun _ h => absurd h List.not_mem_nil)
    rw [hkept d hd]
    exact hsample

theorem threadCount_ne_zero (h : NoZeroDivisor dataset config) : config.threadCount ≠ 0 := by
  intro hzero
  have hlog : finalState (Experiment2.runDividing id (fun _ => 0) 0 dataset config [.advance 0 0]
      .init) [] = [(config.threadCount.toNat : ℚ)] :=
    Experiment2.runDividing_not_joined fun pool hruns => nomatch hruns
  apply h.concurrentLoad id (fun _ => rfl) (fun _ => 0) 0 [.advance 0 0] .init 0 ?_ rfl
  rw [hlog, hzero]
  exact List.mem_singleton.2 rfl

/-- Some schedule joins all the threads, and the report of a load without rows divides by zero. -/
theorem rowsToLoad_mod_ne_zero (h : NoZeroDivisor dataset config) :
    rowsToLoad dataset config % 2 ^ 32 ≠ 0 := by
  intro hzero
  have hone := one_le_of_ne_zero (threadCount_ne_zero h)
  have hinit : Experiment2.runThreads dataset (Experiment2.totalRows dataset config)
    config.threadCount [] = some _ := rfl
  obtain ⟨acts, pool, hruns, hjoined⟩ := runThreads_completes hinit
  have htimer : ∀ r : LatencyRecorder, (id r).latenciesUs = r.latenciesUs := fun _ => rfl
  have hsamples := Experiment2.samples_joined hone hruns hjoined htimer fun _ => 0
  apply h.concurrentLoad id htimer (fun _ => 0) 0 ([] ++ acts) .init 0 ?_ rfl
  rw [Experiment2.runDividing_joined hone hruns hjoined, MetricsCollector.mergeDivisors, hsamples,
    hzero]
  have hlen : (Experiment2.timedRecorders id (fun _ => 0) pool.shared.recorders).length ≠ 0 := by
    rw [Experiment2.timedRecorders, List.length_mapIdx]
    have hne := recorders_ne_nil_of_joined hone hruns hjoined
    exact fun h0 => hne (List.length_eq_zero_iff.1 h0)
  apply List.mem_append_left
  apply List.mem_append_right
  apply List.mem_append_right
  exact List.mem_replicate.2 ⟨hlen, rfl⟩

theorem readSampleSize_ne_zero (h : NoZeroDivisor dataset config) : config.readSampleSize ≠ 0 := by
  intro hzero
  have hdivides := experiment5_divides (CassandraClient.dbInterface fun _ _ => pure []) dataset hzero
    (.init .init)
  obtain ⟨x, b, hok, hmem⟩ := hdivides.returns (s := .start ⟨.healthy .empty, .init⟩) trivial
  have hfinal := finalState_of_ok hok
  exact h.rangeScan _ _ .calm _ _ 0 (hfinal ▸ hmem) rfl

/-- The loader checks no setting: a division by zero is avoided exactly where the two settings that
are divided by and the number of rows, as stored in 32 bits, are not zero. -/
theorem noZeroDivisor_iff (dataset : List (Order Double)) (config : BenchmarkConfig) :
    NoZeroDivisor dataset config ↔ config.threadCount ≠ 0 ∧ config.readSampleSize ≠ 0 ∧
      rowsToLoad dataset config % 2 ^ 32 ≠ 0 := by
  constructor
  · intro h
    exact ⟨threadCount_ne_zero h, readSampleSize_ne_zero h, rowsToLoad_mod_ne_zero h⟩
  · intro h
    exact noZeroDivisor_of h.1 h.2.1 h.2.2

def noThreads : YamlNode := .map [(.scalar (lit "thread_count"), .scalar (lit "0"))]

theorem not_noZeroDivisor_noThreads :
    ∃ config, ConfigLoader.load (ConfigLoader.plainYaml noThreads) [] = .ok config ∧
      ¬ NoZeroDivisor threeRows config :=
  ⟨_, rfl, fun h => threadCount_ne_zero h rfl⟩

end DbBenchmark
