import DbBenchmark.CoherentStatistics
import DbBenchmark.WriteReadSymmetry

namespace DbBenchmark
open BenchM ExperimentBase LatencyRecorder OrderStatistics Throwing
set_option autoImplicit true

variable {Double σ : Type}

structure Records (n : Nat) (r : LatencyRecorder) : Prop where
  count_eq : r.count = n
  lt_of_mem : ∀ us ∈ r.latenciesUs, us < 2 ^ 64

theorem Records.init : Records 0 .init := ⟨rfl, List.forall_mem_nil _⟩

theorem Records.record (h : Records n r) (hus : us < 2 ^ 64) : Records (n + 1) (r.record us) where
  count_eq := by rw [count, LatencyRecorder.record, List.length_append, ← h.count_eq]; rfl
  lt_of_mem := by
    rw [LatencyRecorder.record, List.forall_mem_append, List.forall_mem_singleton]
    exact ⟨h.lt_of_mem, hus⟩

theorem Records.of_latenciesUs_eq (h : Records n r) (hr : r'.latenciesUs = r.latenciesUs) :
    Records n r' where
  count_eq := by rw [count, hr, ← h.count_eq]; rfl
  lt_of_mem := by
    rw [hr]
    exact h.lt_of_mem

theorem Records.startTimer (h : Records n r) (platform : Platform σ) :
    Records n (platform.startTimer r) :=
  h.of_latenciesUs_eq (platform.latenciesUs_startTimer r)

theorem Records.stopTimer (h : Records n r) (now : UInt64) : Records n (r.stopTimer now) :=
  h.of_latenciesUs_eq rfl

variable {platform : Platform σ}

theorem timed_records {call : BenchM Double σ α} (h : Records n recorder) :
    Triple (fun _ => True) (timed platform call recorder) (fun ar _ => Records (n + 1) ar.2)
      (fun _ _ => True) := by
  apply (Triple.top (nowNs platform)).bind
  intro t0
  apply (Triple.top call).bind
  intro a
  apply (Triple.top (nowNs platform)).bind
  intro t1
  apply (Triple.top (step platform)).bind
  intro _ b _
  exact h.record (UInt64.toNat_lt _)

theorem timedEach_records {call : β → BenchM Double σ α} (xs : List β) (h : Records 0 recorder) :
    Triple (fun _ => True) (timedEach platform call xs recorder)
      (fun recorder' _ => Records xs.length recorder') (fun _ _ => True) := by
  have hbody : ∀ done x rest recorder', done ++ x :: rest = xs →
      Triple (fun _ => Records done.length recorder') (timed platform (call x) recorder')
        (fun ar (_ : Bench Double σ) => Records (done ++ [x]).length ar.2) (fun _ _ => True) := by
    intro done x rest recorder' _
    apply Triple.given
    intro hdone
    rw [List.length_append]
    exact timed_records hdone
  exact (timedEach_loop hbody recorder).mono (fun _ _ => h) (fun _ _ h => h) (fun _ _ h => h)

variable {db : DBInterface Double σ} {dataset : List (Order Double)} {config : BenchmarkConfig}

theorem writePhase_records (runNumber : Nat) (h : Records 0 recorder) :
    Triple (fun _ => True) (Experiment7.writePhase db platform dataset config runNumber recorder)
      (fun phase _ => phase.2.length = rowsToLoad dataset config ∧
        ∃ r, Records (rowsToLoad dataset config) r ∧
          phase.1 = Experiment7.phaseResult db (lit "insert") (lit "_write") runNumber r)
      (fun _ _ => True) := by
  have hlen : (dataset.take (rowsToLoad dataset config)).length = rowsToLoad dataset config :=
    List.length_take_of_le (Nat.min_le_left _ _)
  have hbody : ∀ done o rest acc, done ++ o :: rest = dataset.take (rowsToLoad dataset config) →
      Triple (fun _ => Records done.length acc.1 ∧ acc.2.length = done.length)
        (Experiment7.writeOrder db platform acc o)
        (fun acc' (_ : Bench Double σ) =>
          Records (done ++ [o]).length acc'.1 ∧ acc'.2.length = (done ++ [o]).length)
        (fun _ _ => True) := by
    intro done o rest acc _
    apply Triple.given
    intro hdone
    apply (timed_records hdone.1).bind_given
    intro ar har
    apply (Triple.top (step platform)).bind
    intro _ b _
    rw [List.length_append]
    exact ⟨har, by simp [hdone.2]⟩
  apply (Triple.top (step platform)).bind
  intro _
  have hloop := Triple.foldlM hbody (platform.startTimer recorder, [])
  apply (hloop.mono (fun _ _ => ⟨h.startTimer platform, rfl⟩) (fun _ _ h => h)
    (fun _ _ h => h)).bind
  intro acc
  rw [hlen]
  apply Triple.given
  intro hacc
  apply (Triple.top (nowNs platform)).bind
  intro now
  apply (Triple.top (step platform)).bind
  intro _ b _
  exact ⟨hacc.2, _, hacc.1.stopTimer now, rfl⟩

theorem readPhase_records (runNumber : Nat) (h : Records 0 recorder)
    (writtenOrderIds : List CppString) :
    Triple (fun _ => True)
      (Experiment7.readPhase db platform config runNumber recorder writtenOrderIds)
      (fun result _ => ∃ r, Records writtenOrderIds.length r ∧
        result = Experiment7.phaseResult db (lit "point_read") (lit "_read") runNumber r)
      (fun _ _ => True) := by
  apply (Triple.top (step platform)).bind
  intro _
  apply (timedEach_records _ (h.startTimer platform)).bind_given
  intro recorder' hread
  apply (Triple.top (nowNs platform)).bind
  intro now
  apply (Triple.top (step platform)).bind
  intro _ b _
  have hlen : (Experiment7.idsToRead platform config runNumber writtenOrderIds).length =
      writtenOrderIds.length := (platform.shuffle_perm _ _ _).length_eq
  rw [hlen] at hread
  exact ⟨_, hread.stopTimer now, rfl⟩

def runResultOf (db : DBInterface Double σ) (run : Fin numRuns) (writes reads : LatencyRecorder) :
    RunResult where
  runNumber := run + 1
  writeResult := Experiment7.phaseResult db (lit "insert") (lit "_write") (run + 1) writes
  readResult := Experiment7.phaseResult db (lit "point_read") (lit "_read") (run + 1) reads

theorem runOnce_records (x : ExperimentObject Experiment7Members) (run : Fin numRuns) :
    Triple (fun _ => True) (Experiment7.runOnce db platform dataset config x run)
      (fun x' _ => ∃ writes reads, Records (rowsToLoad dataset config) writes ∧
        Records (rowsToLoad dataset config) reads ∧
        x'.own.runResults =
          x.own.runResults.set run (runResultOf db run writes reads) run.isLt)
      (fun _ _ => True) := by
  apply (Triple.top (step platform)).bind
  intro _
  apply (Triple.top (clearTable db)).bind
  intro _
  apply (Triple.top (step platform)).bind
  intro _
  apply (writePhase_records (run + 1) .init).bind_given
  rintro ⟨writeResult, writtenOrderIds⟩ ⟨hlen, writes, hwrites, rfl⟩
  apply (Triple.top (step platform)).bind
  intro _
  apply (Triple.top (Experiment7.flushCache db platform)).bind
  intro _
  apply (Triple.top (connect db)).bind
  intro _
  apply (Triple.top (step platform)).bind
  intro _
  apply (readPhase_records (run + 1) .init writtenOrderIds).bind_given
  rintro readResult ⟨reads, hreads, rfl⟩
  apply (Triple.top (step platform)).bind
  intro _ b _
  rw [hlen] at hreads
  exact ⟨writes, reads, hwrites, hreads, rfl⟩

theorem runs_records (x : ExperimentObject Experiment7Members) :
    Triple (fun _ => True)
      ((List.finRange numRuns).foldlM (Experiment7.runOnce db platform dataset config) x)
      (fun x' _ => ∃ writes reads : Fin numRuns → LatencyRecorder, ∀ run,
        Records (rowsToLoad dataset config) (writes run) ∧
        Records (rowsToLoad dataset config) (reads run) ∧
        x'.own.runResults.get run = runResultOf db run (writes run) (reads run))
      (fun _ _ => True) := by
  have hbody : ∀ done run rest x, done ++ run :: rest = List.finRange numRuns →
      Triple (fun _ => ∀ i ∈ done, ∃ writes reads, Records (rowsToLoad dataset config) writes ∧
          Records (rowsToLoad dataset config) reads ∧
          x.own.runResults.get i = runResultOf db i writes reads)
        (Experiment7.runOnce db platform dataset config x run)
        (fun x' _ => ∀ i ∈ done ++ [run], ∃ writes reads,
          Records (rowsToLoad dataset config) writes ∧ Records (rowsToLoad dataset config) reads ∧
          x'.own.runResults.get i = runResultOf db i writes reads)
        (fun _ _ => True) := by
    intro done run rest x hdone
    apply Triple.given
    intro hbefore
    apply (runOnce_records x run).mono (fun _ h => h) ?_ (fun _ _ h => h)
    rintro x' _ ⟨writes, reads, hwrites, hreads, hset⟩
    rw [hset, List.forall_mem_append, List.forall_mem_singleton]
    refine ⟨?_, writes, reads, hwrites, hreads, Vector.getElem_set_self run.isLt⟩
    intro i hi
    -- an earlier turn stored its result in another place
    have hne : run ≠ i := by
      rintro rfl
      have hnodup := List.nodup_finRange numRuns
      rw [← hdone, List.nodup_append] at hnodup
      exact hnodup.2.2 run hi run List.mem_cons_self rfl
    obtain ⟨writes', reads', hwrites', hreads', hi'⟩ := hbefore i hi
    refine ⟨writes', reads', hwrites', hreads', ?_⟩
    rw [← hi']
    exact Vector.getElem_set_ne run.isLt i.isLt (Fin.val_ne_of_ne hne)
  refine (Triple.foldlM hbody x).mono (fun _ _ => List.forall_mem_nil _) ?_ (fun _ _ h => h)
  intro x' _ h
  choose writes reads hruns using fun run => h run (List.mem_finRange run)
  exact ⟨writes, reads, hruns⟩

structure AveragedFrom (runs : List LatencyRecorder) (avg : BenchmarkResult ℚ) : Prop where
  totalOps : avg.totalOps = samples runs / runs.length
  percentile : ∀ q : Percentile,
    q.of avg = (runs.map fun r => q.of r.computeStats).sum / runs.length
  meanUs : avg.meanUs = (runs.map fun r => r.computeStats.meanUs).sum / runs.length
  le_minUs : ∀ x, x ≤ avg.minUs ↔
    x ≤ Experiment7.maxDouble ∧ ∀ r ∈ runs, x ≤ r.computeStats.minUs
  maxUs_le : ∀ x, avg.maxUs ≤ x ↔ 0 ≤ x ∧ ∀ r ∈ runs, r.computeStats.maxUs ≤ x

section Averages

variable (db) (printFixed : Nat → ℚ → CppString) (operation phase avgPhase : CppString)
  (runs : Fin numRuns → LatencyRecorder)

def phaseResults : List (BenchmarkResult ℚ) :=
  List.ofFn fun run => Experiment7.phaseResult db operation phase (run + 1) (runs run)

theorem map_phaseResults {f : BenchmarkResult ℚ → β}
    (hf : ∀ k r, f (Experiment7.phaseResult db operation phase k r) = f r.computeStats) :
    (phaseResults db operation phase runs).map f =
      (List.ofFn runs).map fun r => f r.computeStats := by
  simp only [phaseResults, List.map_ofFn, Function.comp_def, hf]

theorem forall_phaseResults_iff {f : BenchmarkResult ℚ → β} {P : β → Prop}
    (hf : ∀ k r, f (Experiment7.phaseResult db operation phase k r) = f r.computeStats) :
    (∀ result ∈ phaseResults db operation phase runs, P (f result)) ↔
      ∀ r ∈ List.ofFn runs, P (f r.computeStats) := by
  simp only [phaseResults, List.forall_mem_ofFn_iff, hf]

theorem avgResults_averagedFrom :
    AveragedFrom (List.ofFn runs) (Experiment7.avgResults db printFixed operation avgPhase
      (phaseResults db operation phase runs)) where
  totalOps := by
    have hops := map_phaseResults db operation phase runs (f := fun r => r.totalOps) fun _ _ => rfl
    simp only [totalOps_computeStats] at hops
    rw [List.length_ofFn, samples, ← hops, ← foldl_add_eq_sum]
    rfl
  percentile q := by
    have hf (k : Nat) (r : LatencyRecorder) :
        q.of (Experiment7.phaseResult db operation phase k r) = q.of r.computeStats := by
      cases q <;> rfl
    rw [List.length_ofFn, ← map_phaseResults db operation phase runs hf, ← foldl_add_eq_sum]
    cases q <;> rfl
  meanUs := by
    have hf (k : Nat) (r : LatencyRecorder) :
        (Experiment7.phaseResult db operation phase k r).meanUs = r.computeStats.meanUs := rfl
    rw [List.length_ofFn, ← map_phaseResults db operation phase runs hf, ← foldl_add_eq_sum]
    rfl
  le_minUs x := by
    rw [← forall_phaseResults_iff db operation phase runs (f := fun r => r.minUs) (P := (x ≤ ·))
      fun _ _ => rfl]
    exact le_foldl_min_iff _ _
  maxUs_le x := by
    rw [← forall_phaseResults_iff db operation phase runs (f := fun r => r.maxUs) (P := (· ≤ x))
      fun _ _ => rfl]
    exact foldl_max_le_iff _ _

end Averages

/-- The common number of operations, the mean and the extremes of all samples together, and
percentiles in order. -/
structure AgreesWithPooled (runs : List LatencyRecorder) (avg : BenchmarkResult ℚ) : Prop where
  totalOps : ∀ r ∈ runs, avg.totalOps = r.count
  meanUs : avg.meanUs = (pooled runs).computeStats.meanUs
  minUs : avg.minUs = (pooled runs).computeStats.minUs
  maxUs : avg.maxUs = (pooled runs).computeStats.maxUs
  coherent : Coherent avg

section Pooled

variable {n : Nat} {runs : List LatencyRecorder}

theorem samples_of_records (hruns : ∀ r ∈ runs, Records n r) : samples runs = runs.length * n := by
  have hconst : runs.map count = runs.map fun _ => n :=
    List.map_congr_left fun r hr => (hruns r hr).count_eq
  rw [samples, hconst, List.map_const', List.sum_replicate_nat]

theorem sum_pooled (runs : List LatencyRecorder) :
    (pooled runs).latenciesUs.sum = (runs.map fun r => r.latenciesUs.sum).sum := by
  rw [latenciesUs_pooled, List.flatMap, List.sum_flatten, List.map_map]
  rfl

theorem count_eq_zero_of_samples (hsome : samples runs = 0) (hr : r ∈ runs) : r.count = 0 :=
  Nat.le_zero.1 (hsome ▸ List.le_sum_of_mem (List.mem_map_of_mem hr))

theorem computeStats_pooled_of_samples (hsome : samples runs = 0) :
    (pooled runs).computeStats = .init :=
  computeStats_of_count_eq_zero ((count_pooled runs).trans hsome)

/-- Runs of the same length: the mean of their means is the mean of all samples. -/
theorem mean_of_means (hruns : ∀ r ∈ runs, Records n r) :
    (runs.map fun r => r.computeStats.meanUs).sum / runs.length =
      (pooled runs).computeStats.meanUs := by
  have hsamples := samples_of_records hruns
  by_cases hsome : samples runs = 0
  · have hzero : ∀ us ∈ runs.map fun r => r.computeStats.meanUs, us = 0 := by
      rw [List.forall_mem_map]
      intro r hr
      rw [computeStats_of_count_eq_zero (count_eq_zero_of_samples hsome hr)]
      rfl
    rw [List.sum_eq_zero hzero, computeStats_pooled_of_samples hsome, zero_div]
    rfl
  · have hpooled := meanUs_mul_count (pooled runs)
    rw [count_pooled, hsamples, sum_pooled, Nat.cast_mul, Nat.cast_list_sum, List.map_map]
      at hpooled
    have hmeans : (runs.map fun r => r.computeStats.meanUs).sum * n =
        (runs.map (Nat.cast ∘ fun r => r.latenciesUs.sum)).sum := by
      rw [← List.sum_map_mul_right]
      apply congrArg List.sum
      apply List.map_congr_left
      intro r hr
      rw [← (hruns r hr).count_eq]
      exact meanUs_mul_count r
    rw [hsamples] at hsome
    obtain ⟨hlen, hn⟩ := Nat.mul_ne_zero_iff.1 hsome
    rw [div_eq_iff (Nat.cast_ne_zero.2 hlen)]
    apply mul_right_cancel₀ (Nat.cast_ne_zero.2 hn : (n : ℚ) ≠ 0)
    rw [hmeans, ← hpooled, mul_assoc]

/-- The sentinel of the running minimum is above every latency on record. -/
theorem minUs_le_maxDouble (h : Records n r) : r.computeStats.minUs ≤ Experiment7.maxDouble := by
  have hpow : ((2 ^ 64 : Nat) : ℚ) ≤ Experiment7.maxDouble := by decide +kernel
  by_cases hne : r.latenciesUs = []
  · rw [computeStats_of_count_eq_zero (List.length_eq_zero_iff.2 hne)]
    exact (Nat.cast_nonneg (2 ^ 64)).trans hpow
  · obtain ⟨us, hus⟩ := List.exists_mem_of_ne_nil _ hne
    exact (minUs_le_of_mem r hus).trans ((Nat.cast_le.2 (h.lt_of_mem us hus).le).trans hpow)

theorem AveragedFrom.le_minUs_iff (h : AveragedFrom runs avg) (hne : runs ≠ [])
    (hruns : ∀ r ∈ runs, Records n r) (x : ℚ) :
    x ≤ avg.minUs ↔ ∀ r ∈ runs, x ≤ r.computeStats.minUs := by
  rw [h.le_minUs]
  obtain ⟨r, hr⟩ := List.exists_mem_of_ne_nil _ hne
  exact ⟨fun hx => hx.2, fun hx => ⟨(hx r hr).trans (minUs_le_maxDouble (hruns r hr)), hx⟩⟩

theorem AveragedFrom.maxUs_le_iff (h : AveragedFrom runs avg) (hne : runs ≠ []) (x : ℚ) :
    avg.maxUs ≤ x ↔ ∀ r ∈ runs, r.computeStats.maxUs ≤ x := by
  rw [h.maxUs_le]
  obtain ⟨r, hr⟩ := List.exists_mem_of_ne_nil _ hne
  exact ⟨fun hx => hx.2, fun hx => ⟨(maxUs_nonneg r).trans (hx r hr), hx⟩⟩

theorem AveragedFrom.minUs_eq (h : AveragedFrom runs avg) (hne : runs ≠ [])
    (hruns : ∀ r ∈ runs, Records n r) : avg.minUs = (pooled runs).computeStats.minUs := by
  have hmin := h.le_minUs_iff hne hruns
  have hsamples := samples_of_records hruns
  by_cases hsome : samples runs = 0
  · obtain ⟨r, hr⟩ := List.exists_mem_of_ne_nil _ hne
    have hle : avg.minUs ≤ r.computeStats.minUs := (hmin _).1 le_rfl r hr
    rw [computeStats_of_count_eq_zero (count_eq_zero_of_samples hsome hr)] at hle
    rw [computeStats_pooled_of_samples hsome]
    exact le_antisymm hle ((hmin 0).2 fun r _ => minUs_nonneg r)
  · rw [hsamples] at hsome
    have hall : ∀ r ∈ runs, r.count ≠ 0 := by
      intro r hr
      rw [(hruns r hr).count_eq]
      exact right_ne_zero_of_mul hsome
    exact eq_minUs_pooled (hsamples ▸ hsome) hall hmin

theorem AveragedFrom.coherent (h : AveragedFrom runs avg) (hne : runs ≠ [])
    (hruns : ∀ r ∈ runs, Records n r) : Coherent avg := by
  have hmin := (h.le_minUs_iff hne hruns _).1 le_rfl
  have hmax := (h.maxUs_le_iff hne _).1 le_rfl
  have hp50 : avg.p50Us = _ := h.percentile .p50
  have hp95 : avg.p95Us = _ := h.percentile .p95
  have hp99 : avg.p99Us = _ := h.percentile .p99
  exact {
    min_le_p50 := by
      rw [hp50]
      exact le_mean hne fun r hr => (hmin r hr).trans (coherent_computeStats r).min_le_p50
    p50_le_p95 := by
      rw [hp50, hp95]
      exact mean_le_mean fun r _ => (coherent_computeStats r).p50_le_p95
    p95_le_p99 := by
      rw [hp95, hp99]
      exact mean_le_mean fun r _ => (coherent_computeStats r).p95_le_p99
    p99_le_max := by
      rw [hp99]
      exact mean_le hne fun r hr => (coherent_computeStats r).p99_le_max.trans (hmax r hr) }

theorem AveragedFrom.agreesWithPooled (h : AveragedFrom runs avg) (hne : runs ≠ [])
    (hruns : ∀ r ∈ runs, Records n r) : AgreesWithPooled runs avg where
  totalOps := by
    intro r hr
    have hlen : 0 < runs.length := List.length_pos_of_mem hr
    rw [h.totalOps, samples_of_records hruns, Nat.mul_div_cancel_left _ hlen,
      (hruns r hr).count_eq]
  meanUs := h.meanUs.trans (mean_of_means hruns)
  minUs := h.minUs_eq hne hruns
  maxUs := eq_maxUs_pooled hne (h.maxUs_le_iff hne)
  coherent := h.coherent hne hruns

end Pooled

theorem avgResults_agreesWithPooled (db : DBInterface Double σ)
    (printFixed : Nat → ℚ → CppString) (operation phase avgPhase : CppString)
    {runs : Fin numRuns → LatencyRecorder} (hruns : ∀ run, Records n (runs run)) :
    AgreesWithPooled (List.ofFn runs) (Experiment7.avgResults db printFixed operation avgPhase
      (phaseResults db operation phase runs)) := by
  apply (avgResults_averagedFrom db printFixed operation phase avgPhase runs).agreesWithPooled
  · exact List.ne_nil_of_length_pos (List.length_ofFn.symm ▸ Nat.succ_pos 2)
  · exact List.forall_mem_ofFn_iff.2 hruns

/-- Every completed run performs as many reads as writes in each turn, and the averages agree with
the samples of all turns together. -/
theorem run_averages {x x' : ExperimentObject Experiment7Members} {b b' : Bench Double σ}
    {printFixed : Nat → ℚ → CppString}
    (hrun : Experiment7.run db platform dataset config printFixed x b = .ok x' b') :
    ∃ writes reads : Fin numRuns → LatencyRecorder,
      (∀ run, x'.own.runResults.get run = runResultOf db run (writes run) (reads run) ∧
        (writes run).count = rowsToLoad dataset config ∧
        (reads run).count = rowsToLoad dataset config) ∧
      AgreesWithPooled (List.ofFn writes) x'.own.avgWriteResult ∧
      AgreesWithPooled (List.ofFn reads) x'.own.avgReadResult := by
  rw [Experiment7.run, bind_eq_ok_iff] at hrun
  obtain ⟨x₁, b₁, hloop, havg⟩ := hrun
  obtain ⟨writes, reads, hruns⟩ := (runs_records x).of_ok trivial hloop
  rw [Experiment7.computeAverages, bind_eq_ok_iff] at havg
  obtain ⟨_, b₂, _, havg⟩ := havg
  cases havg
  have hresults : x₁.own.runResults.toList =
      List.ofFn fun run => runResultOf db run (writes run) (reads run) := by
    apply List.ext_getElem
    · simp
    · intro k hk hk'
      rw [Vector.getElem_toList, List.getElem_ofFn]
      exact (hruns ⟨k, by simpa using hk⟩).2.2
  have hwrites : x₁.own.runResults.toList.map RunResult.writeResult =
      phaseResults db (lit "insert") (lit "_write") writes := by
    rw [hresults, List.map_ofFn]
    rfl
  have hreads : x₁.own.runResults.toList.map RunResult.readResult =
      phaseResults db (lit "point_read") (lit "_read") reads := by
    rw [hresults, List.map_ofFn]
    rfl
  refine ⟨writes, reads, ?_, ?_, ?_⟩
  · intro run
    exact ⟨(hruns run).2.2, (hruns run).1.count_eq, (hruns run).2.1.count_eq⟩
  · rw [hwrites]
    exact avgResults_agreesWithPooled db printFixed _ _ _ fun run => (hruns run).1
  · rw [hreads]
    exact avgResults_agreesWithPooled db printFixed _ _ _ fun run => (hruns run).2.1

theorem run_averages_twoRows :
    ∃ x b, Experiment7.run MongoClient.dbInterface .calm twoRows ConfigLoader.defaultConfig
        (fun _ _ => []) (.init .init) emptyCollection = .ok x b ∧
      ∃ writes reads : Fin numRuns → LatencyRecorder,
        (∀ run, x.own.runResults.get run =
            runResultOf (MongoClient.dbInterface : DBInterface Rat _) run (writes run) (reads run) ∧
          (writes run).count = rowsToLoad twoRows ConfigLoader.defaultConfig ∧
          (reads run).count = rowsToLoad twoRows ConfigLoader.defaultConfig) ∧
        AgreesWithPooled (List.ofFn writes) x.own.avgWriteResult ∧
        AgreesWithPooled (List.ofFn reads) x.own.avgReadResult := by
  obtain ⟨x, b, hr⟩ := run_twoRows_returns
  exact ⟨x, b, hr, run_averages hr⟩

end DbBenchmark
