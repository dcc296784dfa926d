import DbBenchmark.AveragedRuns
import DbBenchmark.CompactionResults
import DbBenchmark.SharedWorkload

namespace DbBenchmark
open BenchM ExperimentBase LatencyRecorder Plans Throwing
set_option autoImplicit true

variable {Double σ Own α : Type}

def ExperimentBase.getResult (x : ExperimentObject Own) : BenchmarkResult ℚ := x.result

namespace Experiment4

variable (db : DBInterface Double σ)

def getBothResults (x : Experiment4Members) : BenchmarkResult ℚ × BenchmarkResult ℚ :=
  let primaryStats := { x.primaryRecorder.computeStats with
    database := db.getDbName
    experimentName := lit "exp4 secondary index read"
    operation := lit "point_read"
    indexType := lit "primary"
    threadCount := 1 }
  let secondaryStats := { x.secondaryRecorder.computeStats with
    database := db.getDbName
    experimentName := lit "exp4 secondary index read"
    operation := lit "point_read"
    indexType := lit "secondary"
    threadCount := 1 }
  if db.getDbName = lit "cassandra" then
    (primaryStats, { secondaryStats with
      notes := lit ("Cassandra secondary read hits orders_by_user table " ++
        "primary key lookup on denormalzed table. " ++
        "Fast read - write amplication paid at insert time.") })
  else (primaryStats, secondaryStats)

end Experiment4

namespace Experiment5

variable (db : DBInterface Double σ) (config : BenchmarkConfig)

def makeResult (recorder : LatencyRecorder) (windowDays : Int32) (avgRows : UInt64)
    (label : CppString) : BenchmarkResult ℚ :=
  let r := { recorder.computeStats with
    database := db.getDbName
    experimentName := lit "exp_05_range_scan"
    operation := lit "range_scan"
    indexType := lit "secondary"
    phase := label
    threadCount := 1
    resultSetSize := avgRows.toNat }
  if db.getDbName = lit "cassandra" ∧ 0 < windowDays then
    { r with
      notes := lit ("Cassandra: range within single user partition. " ++
        "Cross-partition range requires ALLOW FILTERING " ++
        "(full cluster scan — not used in production).") }
  else r

def getAllResults (x : Experiment5Members) : List (BenchmarkResult ℚ) :=
  [makeResult db x.smallRecorder config.rangeWindowSmall x.avgResultCountSmall
      (decimalInt config.rangeWindowSmall ++ lit "d"),
    makeResult db x.mediumRecorder config.rangeWindowMedium x.avgResultCountMedium
      (decimalInt config.rangeWindowMedium ++ lit "d"),
    makeResult db x.largeRecorder config.rangeWindowLarge x.avgResultCountLarge
      (decimalInt config.rangeWindowLarge ++ lit "d")]

end Experiment5

namespace Experiment7

def getAllRunResults (x : Experiment7Members) : List (BenchmarkResult ℚ) :=
  x.runResults.toList.flatMap fun run => [run.writeResult, run.readResult]

def getAveragedResults (x : Experiment7Members) : BenchmarkResult ℚ × BenchmarkResult ℚ :=
  (x.avgWriteResult, x.avgReadResult)

end Experiment7

/-- The kinds of calls that the experiments time. -/
inductive RequestKind where
  | insert
  | primaryRead
  | secondaryRead
  | rangeRead
deriving DecidableEq

def DbCall.kind : DbCall Double → Option RequestKind
  | .insertOne _ => some .insert
  | .findByPrimaryKey _ => some .primaryRead
  | .findBySecondaryKey _ => some .secondaryRead
  | .findByRange _ _ => some .rangeRead
  | _ => none

def asked (kind : RequestKind) (b : Bench Double σ) : Nat :=
  b.calls.countP fun r => r.call.kind = some kind

def planned (kind : RequestKind) (plan : List (DbCall Double)) : Nat :=
  plan.countP fun call => call.kind = some kind

theorem Asks.asked {m : BenchM Double σ α} (h : Asks m plan) (hr : m (.start world) = .ok x b)
    (kind : RequestKind) : DbBenchmark.asked kind b = planned kind plan := by
  have hcalls : b.calls.map CallRecord.call = plan := by
    rw [← map_fst_answered plan, ← h.returns world x b hr, issued, List.map_map]
    rfl
  rw [DbBenchmark.asked, planned, ← hcalls, List.countP_map]
  rfl

@[simp] theorem planned_nil (kind : RequestKind) : planned kind ([] : List (DbCall Double)) = 0 := rfl

@[simp] theorem planned_append (kind : RequestKind) (plan next : List (DbCall Double)) :
    planned kind (plan ++ next) = planned kind plan + planned kind next :=
  List.countP_append

theorem planned_cons (kind : RequestKind) (call : DbCall Double) (plan : List (DbCall Double)) :
    planned kind (call :: plan) = planned kind plan + if call.kind = some kind then 1 else 0 := by
  simp [planned, List.countP_cons]

theorem planned_map {request : α → DbCall Double} (hrequest : ∀ a, (request a).kind = some k)
    (kind : RequestKind) (xs : List α) :
    planned kind (xs.map request) = if k = kind then xs.length else 0 := by
  rw [planned, List.countP_map]
  split
  · rename_i hkind
    subst hkind
    rw [List.countP_eq_length]
    intro a _
    exact decide_eq_true (hrequest a)
  · rename_i hkind
    rw [List.countP_eq_zero]
    intro a _ h
    have hk := of_decide_eq_true h
    rw [hrequest a] at hk
    exact hkind (Option.some.inj hk)

/-- A result without measurements. -/
structure Unmeasured (r : BenchmarkResult ℚ) : Prop where
  totalOps : r.totalOps = 0
  totalTimeMs : r.totalTimeMs = 0
  p50Us : r.p50Us = 0
  p95Us : r.p95Us = 0
  p99Us : r.p99Us = 0
  meanUs : r.meanUs = 0
  minUs : r.minUs = 0
  maxUs : r.maxUs = 0
  throughputOpsSec : r.throughputOpsSec = 0

theorem Reports.totalOps {x x' : ExperimentObject Own} (h : Reports x x') :
    (getResult x').totalOps = x.recorder.count := by
  obtain ⟨-, now, hrecorder, hresult⟩ := h
  rw [getResult, hresult, hrecorder]
  exact totalOps_computeStats _

theorem Reports.unmeasured {x x' : ExperimentObject Own} (h : Reports x x')
    (hx : x.recorder.latenciesUs = []) : Unmeasured (getResult x') := by
  obtain ⟨-, now, hrecorder, hresult⟩ := h
  have hcount : x'.recorder.count = 0 := by
    rw [hrecorder, count, stopTimer, hx]
    rfl
  rw [getResult, hresult, computeStats_of_count_eq_zero hcount]
  exact ⟨rfl, rfl, rfl, rfl, rfl, rfl, rfl, rfl, rfl⟩

namespace Experiment4

theorem totalOps_getBothResults (db : DBInterface Double σ) (x : Experiment4Members) :
    (getBothResults db x).1.totalOps = x.primaryRecorder.count ∧
      (getBothResults db x).2.totalOps = x.secondaryRecorder.count := by
  rw [getBothResults]
  split
  · exact ⟨totalOps_computeStats _, totalOps_computeStats _⟩
  · exact ⟨totalOps_computeStats _, totalOps_computeStats _⟩

end Experiment4

namespace Experiment5

@[simp] theorem totalOps_makeResult (db : DBInterface Double σ) (recorder : LatencyRecorder)
    (windowDays : Int32) (avgRows : UInt64) (label : CppString) :
    (makeResult db recorder windowDays avgRows label).totalOps = recorder.count := by
  rw [makeResult]
  split
  · exact totalOps_computeStats _
  · exact totalOps_computeStats _

end Experiment5

namespace Experiment6

theorem totalOps_getBeforeResult (db : DBInterface Double σ) {x : Experiment6Members}
    (hskip : x.shouldSkip = false) :
    (getBeforeResult db x).totalOps = x.beforeRecorder.count := by
  rw [getBeforeResult, if_neg (by simp [hskip])]
  exact totalOps_computeStats _

theorem totalOps_getAfterResult (db : DBInterface Double σ) {x : Experiment6Members}
    (hskip : x.shouldSkip = false) :
    (getAfterResult db x).totalOps = x.afterRecorder.count := by
  rw [getAfterResult, if_neg (by simp [hskip])]
  split
  · exact totalOps_computeStats _
  · exact totalOps_computeStats _

end Experiment6

/-- What completed runs hand out, beside the calls they have on record. -/
structure OperationsReported (db : DBInterface Double σ) (platform : Platform σ)
    (dataset : List (Order Double)) (config : BenchmarkConfig) : Prop where
  experiment1 : ∀ world x b, Experiment1.execute db platform dataset config (.start world) =
    .ok x b → (getResult x).totalOps = asked .insert b
  experiment3 : ∀ world x b, Experiment3.execute db platform dataset config (.start world) =
    .ok x b → (getResult x).totalOps = asked .primaryRead b
  experiment4 : ∀ world x b, Experiment4.execute db platform dataset config (.start world) =
    .ok x b → (Experiment4.getBothResults db x.own).1.totalOps = asked .primaryRead b ∧
      (Experiment4.getBothResults db x.own).2.totalOps = asked .secondaryRead b ∧
      Unmeasured (getResult x)
  experiment5 : 0 < config.readSampleSize →
    ∀ world x b, Experiment5.execute db platform dataset config (.start world) = .ok x b →
      ((Experiment5.getAllResults db config x.own).map BenchmarkResult.totalOps).sum =
        asked .secondaryRead b + asked .rangeRead b ∧ Unmeasured (getResult x)
  experiment6 : ∀ world x b, Experiment6.execute db platform dataset config (.start world) =
    .ok x b → (Experiment6.getBeforeResult db x.own).totalOps +
        (Experiment6.getAfterResult db x.own).totalOps = asked .primaryRead b ∧
      Unmeasured (getResult x)
  experiment7 : ∀ printFixed x world x' b,
    Experiment7.run db platform dataset config printFixed x (.start world) = .ok x' b →
      ((Experiment7.getAllRunResults x'.own).map BenchmarkResult.totalOps).sum =
        asked .insert b + asked .primaryRead b

section Operations

variable {db : DBInterface Double σ} {platform : Platform σ} {dataset : List (Order Double)}
  {config : BenchmarkConfig} {world : σ} {b : Bench Double σ}

theorem planned_insertOne (kind : RequestKind) (orders : List (Order Double)) :
    planned kind (orders.map .insertOne) = if .insert = kind then orders.length else 0 :=
  planned_map (fun _ => rfl) kind orders

theorem planned_findByPrimaryKey (kind : RequestKind) (ids : List CppString) :
    planned kind (ids.map .findByPrimaryKey : List (DbCall Double)) =
      if .primaryRead = kind then ids.length else 0 :=
  planned_map (fun _ => rfl) kind ids

theorem planned_findBySecondaryKey (kind : RequestKind) (ids : List CppString) :
    planned kind (ids.map .findBySecondaryKey : List (DbCall Double)) =
      if .secondaryRead = kind then ids.length else 0 :=
  planned_map (fun _ => rfl) kind ids

theorem experiment1_totalOps
    (hr : Experiment1.execute db platform dataset config (.start world) = .ok x b) :
    (getResult x).totalOps = asked .insert b := by
  have hperforms := Experiment1.execute_performs db platform dataset config
  obtain ⟨-, x', hreports, hcount⟩ := hperforms.of_ok hr
  rw [hreports.totalOps, hcount, (Asks.of_performs hperforms).asked hr, Experiment1.requests,
    planned_cons, planned_insertOne]
  rfl

theorem experiment3_totalOps
    (hr : Experiment3.execute db platform dataset config (.start world) = .ok x b) :
    (getResult x).totalOps = asked .primaryRead b := by
  have hperforms := Experiment3.execute_performs db platform dataset config
  obtain ⟨-, x', hreports, hcount⟩ := hperforms.of_ok hr
  rw [hreports.totalOps, hcount, (Asks.of_performs hperforms).asked hr, Experiment3.requests,
    planned_cons, planned_findByPrimaryKey, Experiment3.readIds,
    (platform.shuffle_perm _ _ _).length_eq]
  rfl

theorem experiment4_totalOps
    (hr : Experiment4.execute db platform dataset config (.start world) = .ok x b) :
    (Experiment4.getBothResults db x.own).1.totalOps = asked .primaryRead b ∧
      (Experiment4.getBothResults db x.own).2.totalOps = asked .secondaryRead b ∧
      Unmeasured (getResult x) := by
  have hperforms := Experiment4.execute_performs db platform dataset config
  obtain ⟨-, x', hreports, hempty, hprimary, hsecondary⟩ := hperforms.of_ok hr
  have hops := Experiment4.totalOps_getBothResults db x.own
  have hplanned (kind : RequestKind) : asked kind b =
      (if .primaryRead = kind then (sampleOf platform dataset config).length else 0) +
        if .secondaryRead = kind then config.readSampleSize.toNat else 0 := by
    rw [(Asks.of_performs hperforms).asked hr, Experiment4.requests, List.cons_append, planned_cons,
      planned_append, planned_append, planned_findByPrimaryKey, planned_findBySecondaryKey,
      Experiment4.length_secondaryIds, Experiment4.primaryIds,
      (platform.shuffle_perm _ _ _).length_eq, planned_cons, planned_nil]
    simp [DbCall.kind]
  rw [hops.1, hops.2, hreports.1, hprimary, hsecondary, hplanned, hplanned]
  exact ⟨rfl, (Nat.zero_add _).symm, hreports.unmeasured hempty⟩

theorem planned_windowRequests (db : DBInterface Double σ) (platform : Platform σ)
    (dataset : List (Order Double)) (config : BenchmarkConfig) (windowDays : Int32) :
    planned .secondaryRead (Experiment5.windowRequests db platform dataset config windowDays) +
      planned .rangeRead (Experiment5.windowRequests db platform dataset config windowDays) =
        config.readSampleSize.toNat := by
  by_cases hdb : db.getDbName = lit "cassandra"
  · have hkind (q : Nat) : (Experiment5.queryRequest db dataset
        (Experiment5.partitionIds db platform config) windowDays q).kind =
          some .secondaryRead := by
      rw [Experiment5.queryRequest, if_pos hdb]
      rfl
    rw [Experiment5.windowRequests, planned_map hkind, planned_map hkind, List.length_range]
    rfl
  · have hkind (q : Nat) : (Experiment5.queryRequest db dataset
        (Experiment5.partitionIds db platform config) windowDays q).kind = some .rangeRead := by
      rw [Experiment5.queryRequest, if_neg hdb]
      rfl
    rw [Experiment5.windowRequests, planned_map hkind, planned_map hkind, List.length_range]
    exact Nat.zero_add _

theorem experiment5_totalOps
    (hr : Experiment5.execute db platform dataset config (.start world) = .ok x b) :
    ((Experiment5.getAllResults db config x.own).map BenchmarkResult.totalOps).sum =
      asked .secondaryRead b + asked .rangeRead b ∧ Unmeasured (getResult x) := by
  have hperforms := Experiment5.execute_performs db platform dataset config
  obtain ⟨-, x', hreports, hempty, hsmall, hmedium, hlarge⟩ := hperforms.of_ok hr
  have hasked (kind : RequestKind) : asked kind b =
      planned kind
          (Experiment5.windowRequests db platform dataset config config.rangeWindowSmall) +
        (planned kind
            (Experiment5.windowRequests db platform dataset config config.rangeWindowMedium) +
          planned kind
            (Experiment5.windowRequests db platform dataset config config.rangeWindowLarge)) := by
    rw [(Asks.of_performs hperforms).asked hr, Experiment5.requests, planned_cons, planned_append,
      planned_append, planned_append, planned_cons, planned_nil]
    rfl
  have hwindow := planned_windowRequests db platform dataset config
  have hsmallQueries := hwindow config.rangeWindowSmall
  have hmediumQueries := hwindow config.rangeWindowMedium
  have hlargeQueries := hwindow config.rangeWindowLarge
  refine ⟨?_, hreports.unmeasured hempty⟩
  simp only [Experiment5.getAllResults, List.map_cons, List.map_nil, List.sum_cons, List.sum_nil,
    Experiment5.totalOps_makeResult, hreports.1, hsmall, hmedium, hlarge, hasked]
  omega

theorem experiment6_totalOps
    (hr : Experiment6.execute db platform dataset config (.start world) = .ok x b) :
    (Experiment6.getBeforeResult db x.own).totalOps +
        (Experiment6.getAfterResult db x.own).totalOps = asked .primaryRead b ∧
      Unmeasured (getResult x) := by
  rw [(experiment6_asks db platform dataset config).asked hr, Experiment6.requests]
  by_cases hdb : db.getDbName = lit "cassandra"
  · have hperforms := Experiment6.execute_performs db platform dataset config hdb
    obtain ⟨-, x', hreports, hempty, hskip, hbefore, hafter⟩ := hperforms.of_ok hr
    have hskip' : x.own.shouldSkip = false := by rw [hreports.1, hskip]
    rw [if_pos hdb, Experiment6.totalOps_getBeforeResult db hskip',
      Experiment6.totalOps_getAfterResult db hskip', hreports.1, hbefore, hafter, planned_append,
      planned_findByPrimaryKey, Experiment6.readIds, (platform.shuffle_perm _ _ _).length_eq]
    exact ⟨rfl, hreports.unmeasured hempty⟩
  · have hperforms := Experiment6.execute_skips db platform dataset config hdb
    obtain ⟨-, x', hreports, hempty, hskip⟩ := hperforms.of_ok hr
    have hskip' : x.own.shouldSkip = true := by rw [hreports.1, hskip]
    rw [if_neg hdb, Experiment6.getBeforeResult, Experiment6.getAfterResult, if_pos hskip',
      if_pos hskip']
    exact ⟨rfl, hreports.unmeasured hempty⟩

theorem planned_runRequests (platform : Platform σ) (dataset : List (Order Double))
    (config : BenchmarkConfig) (run : Fin numRuns) :
    planned .insert (Experiment7.runRequests platform dataset config run) =
        rowsToLoad dataset config ∧
      planned .primaryRead (Experiment7.runRequests platform dataset config run) =
        rowsToLoad dataset config := by
  have hlength : (dataset.take (rowsToLoad dataset config)).length = rowsToLoad dataset config :=
    List.length_take_of_le (Nat.min_le_left _ _)
  have hplanned (kind : RequestKind) :
      planned kind (Experiment7.runRequests platform dataset config run) =
        (if .insert = kind then rowsToLoad dataset config else 0) +
          if .primaryRead = kind then rowsToLoad dataset config else 0 := by
    rw [Experiment7.runRequests, runCalls, planned_append, planned_append, planned_append,
      planned_insertOne, planned_findByPrimaryKey, Experiment7.idsToRead,
      (platform.shuffle_perm _ _ _).length_eq, List.length_map, hlength, planned_cons, planned_cons,
      planned_nil]
    simp [DbCall.kind]
  rw [hplanned, hplanned]
  exact ⟨rfl, Nat.zero_add _⟩

theorem planned_flatMap (kind : RequestKind) {requests : β → List (DbCall Double)}
    (hrequests : ∀ x, planned kind (requests x) = n) (xs : List β) :
    planned kind (xs.flatMap requests) = xs.length * n := by
  induction xs with
  | nil => exact (Nat.zero_mul n).symm
  | cons x xs ih =>
    rw [List.flatMap_cons, planned_append, hrequests, ih, List.length_cons, Nat.succ_mul,
      Nat.add_comm]

theorem sum_totalOps_runResults {runs : List RunResult}
    (hruns : ∀ run ∈ runs, run.writeResult.totalOps = n ∧ run.readResult.totalOps = n) :
    ((runs.flatMap fun run => [run.writeResult, run.readResult]).map
      BenchmarkResult.totalOps).sum = runs.length * n + runs.length * n := by
  induction runs with
  | nil => simp
  | cons run runs ih =>
    obtain ⟨hrun, hrest⟩ := List.forall_mem_cons.1 hruns
    have hsum := ih hrest
    simp only [List.flatMap_cons, List.map_append, List.map_cons, List.map_nil, List.sum_append,
      List.sum_cons, List.sum_nil, hrun.1, hrun.2, hsum, List.length_cons, Nat.succ_mul]
    omega

/-- After the loop every place of `run_results_` holds the results of its own run. -/
theorem totalOps_runResults {printFixed : Nat → ℚ → CppString}
    {x x' : ExperimentObject Experiment7Members} {b b' : Bench Double σ}
    (hr : Experiment7.run db platform dataset config printFixed x b = .ok x' b') :
    ∀ run ∈ x'.own.runResults.toList, run.writeResult.totalOps = rowsToLoad dataset config ∧
      run.readResult.totalOps = rowsToLoad dataset config := by
  rw [Experiment7.run, bind_eq_ok_iff] at hr
  obtain ⟨x₁, b₁, hloop, havg⟩ := hr
  obtain ⟨writes, reads, hruns⟩ := (runs_records x).of_ok trivial hloop
  rw [Experiment7.computeAverages, bind_eq_ok_iff] at havg
  obtain ⟨_, b₂, _, havg⟩ := havg
  cases havg
  intro run hrun
  obtain ⟨k, hk, rfl⟩ := List.mem_iff_getElem.1 hrun
  rw [Vector.length_toList] at hk
  obtain ⟨hwrites, hreads, hget⟩ := hruns ⟨k, hk⟩
  have hrun : x₁.own.runResults.toList[k] = runResultOf db ⟨k, hk⟩ _ _ := hget
  rw [hrun]
  exact ⟨(totalOps_computeStats _).trans hwrites.count_eq,
    (totalOps_computeStats _).trans hreads.count_eq⟩

theorem experiment7_totalOps {printFixed : Nat → ℚ → CppString}
    {x x' : ExperimentObject Experiment7Members}
    (hr : Experiment7.run db platform dataset config printFixed x (.start world) = .ok x' b) :
    ((Experiment7.getAllRunResults x'.own).map BenchmarkResult.totalOps).sum =
      asked .insert b + asked .primaryRead b := by
  have hasked (kind : RequestKind) (hkind : ∀ run,
      planned kind (Experiment7.runRequests platform dataset config run) =
        rowsToLoad dataset config) : asked kind b = numRuns * rowsToLoad dataset config := by
    rw [(Asks.of_performs (Experiment7.run_performs db platform dataset config printFixed x)).asked
      hr, Experiment7.requests, planned_flatMap kind hkind, List.length_finRange]
  rw [hasked .insert fun run => (planned_runRequests platform dataset config run).1,
    hasked .primaryRead fun run => (planned_runRequests platform dataset config run).2,
    Experiment7.getAllRunResults, sum_totalOps_runResults (totalOps_runResults hr),
    Vector.length_toList]

/-- No request goes without a measurement in a result, and none is measured twice; but what
`get_result` hands out of Experiments 4, 5 and 6 measures nothing. -/
theorem operations_reported (db : DBInterface Double σ) (platform : Platform σ)
    (dataset : List (Order Double)) (config : BenchmarkConfig) :
    OperationsReported db platform dataset config where
  experiment1 _ _ _ := experiment1_totalOps
  experiment3 _ _ _ := experiment3_totalOps
  experiment4 _ _ _ := experiment4_totalOps
  experiment5 _ _ _ _ := experiment5_totalOps
  experiment6 _ _ _ := experiment6_totalOps
  experiment7 _ _ _ _ _ := experiment7_totalOps

end Operations

end DbBenchmark
