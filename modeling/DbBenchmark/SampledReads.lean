import DbBenchmark.IndexedReads

namespace DbBenchmark
open BenchM ExperimentBase Throwing
set_option autoImplicit true

variable {Double σ : Type}

namespace Experiment3

variable (db : DBInterface Double σ) (platform : Platform σ) (dataset : List (Order Double))
  (config : BenchmarkConfig)

def getContainerName : BenchM Double σ CppString :=
  if db.getDbName = lit "postgres" then return lit "bench_postgres"
  else if db.getDbName = lit "mongo" then return lit "bench_mongo"
  else if db.getDbName = lit "cassandra" then return lit "bench_cassandra"
  else throw (lit "exp 03: unknown db name: " ++ db.getDbName)

def flushCache (container : CppString) : BenchM Double σ Unit := do
  let rc ← outside (platform.system (lit "./scripts/flush_cache_mac.sh " ++ container))
  if rc ≠ 0 then
    throw (lit "exp 03: flush_cache_mac.sh failed for " ++ container ++ lit ". Return code: " ++
      decimalInt rc ++ lit ". Ensure vm is running and in sudo can be performed")

/-- The one member of the class is `sample_ids_`. -/
def setup (x : ExperimentObject (List CppString)) :
    BenchM Double σ (ExperimentObject (List CppString)) := do
  step platform
  let result := { x.result with
    database := db.getDbName
    experimentName := lit "exp_03_cold_primary_read"
    operation := lit "point_read"
    indexType := lit "primary"
    threadCount := 1 }
  let sample ← sampleRandomOrders platform dataset config config.readSampleSize.toNat
  step platform
  let sampleIds := platform.shuffle (config.rngSeed ^^^ 0xC0FFEE00C0FFEE) 0
    (x.own ++ sample.map Order.orderId)
  step platform -- console output
  let container ← getContainerName db
  flushCache platform container
  tryCatch (connect db) fun e => throw (lit "exp 03 reconnect after flush falied" ++ e)
  step platform -- console output
  return { x with result := result, own := sampleIds }

def run (x : ExperimentObject (List CppString)) :
    BenchM Double σ (ExperimentObject (List CppString)) := do
  let recorder ← timedEach platform (findByPrimaryKey db) x.own x.recorder
  return { x with recorder := recorder }

def experiment : ExperimentClass Double σ (List CppString) where
  setup := setup db platform dataset config
  run := run db platform
  teardown := ExperimentBase.teardown

def execute : BenchM Double σ (ExperimentObject (List CppString)) :=
  ExperimentBase.execute platform (experiment db platform dataset config) (.init [])

def shuffleSeed : UInt64 := config.rngSeed ^^^ 0xC0FFEE00C0FFEE

theorem setup_triple {I : Bench Double σ → Prop} {E : CppString → Bench Double σ → Prop}
    (hne : dataset ≠ []) (hthrow : ∀ e b, I b → E e b)
    (hstep : Triple I (step platform) (fun _ => I) E)
    (hsystem : ∀ command, Triple I (outside (platform.system command)) (fun _ => I) E)
    (hconnect : Keeps I (connect db)) (x : ExperimentObject (List CppString)) :
    Triple I (setup db platform dataset config x) (fun x' b => I b ∧ x'.own =
      platform.shuffle (shuffleSeed config) 0 (x.own ++ sampledIds platform dataset hne config))
      E := by
  apply hstep.bind
  intro _
  apply (sampleRandomOrders_triple hne config).bind
  intro sample
  apply Triple.assuming
  intro hsample
  apply hstep.bind
  intro _
  apply hstep.bind
  intro _
  have hcontainer : Triple I (getContainerName db) (fun _ => I) E := by
    rw [getContainerName]
    split_ifs
    · exact Triple.skip
    · exact Triple.skip
    · exact Triple.skip
    · exact hthrow _
  apply hcontainer.bind
  intro container
  have hflush : Triple I (flushCache platform container) (fun _ => I) E := by
    apply (hsystem _).bind
    intro rc
    split
    · exact hthrow _
    · exact Triple.skip
  apply hflush.bind
  intro _
  apply (Triple.tryCatch hconnect fun _ b hb => hthrow _ b hb).bind
  intro _
  apply hstep.bind
  intro _ b hb
  refine ⟨hb, ?_⟩
  rw [← hsample]
  rfl

end Experiment3

structure Experiment6Members where
  shouldSkip : Bool
  sampleIds : List CppString
  beforeRecorder : LatencyRecorder
  afterRecorder : LatencyRecorder
  beforeSstableCount : UInt64
  afterSstableCount : UInt64

def Experiment6Members.init : Experiment6Members := ⟨false, [], .init, .init, 0, 0⟩

namespace Experiment6

variable (db : DBInterface Double σ) (platform : Platform σ) (dataset : List (Order Double))
  (config : BenchmarkConfig)

def getSstableCount : BenchM Double σ UInt64 := do
  let rc ← outside (platform.system (lit (
    "docker exec bench_cassandra nodetool tablehistograms " ++
    "benchmark orders_by_id 2>/dev/null " ++
    "| grep -i 'sstable' | awk '\x7bprint $NF\x7d' | head -1 " ++
    "> /tmp/sstable_count.txt")))
  if rc ≠ 0 then
    step platform -- console output
    return 0
  else readNumber platform (lit "/tmp/sstable_count.txt")

def runCompaction : BenchM Double σ Unit := do
  let rc ← outside (platform.system (lit "./scripts/cassandra_compact.sh"))
  if rc ≠ 0 then
    throw (lit "exp_06: cassandra_compact.sh failed. Return code: " ++ decimalInt rc)

def setup (x : ExperimentObject Experiment6Members) :
    BenchM Double σ (ExperimentObject Experiment6Members) := do
  step platform
  let result := { x.result with
    database := db.getDbName
    experimentName := lit "exp_06_compaction"
    operation := lit "point_read"
    indexType := lit "primary"
    threadCount := 1 }
  if db.getDbName ≠ lit "cassandra" then
    step platform -- console output
    return { x with result := result, own := { x.own with shouldSkip := true } }
  else
    let sample ← sampleRandomOrders platform dataset config config.readSampleSize.toNat
    step platform
    let sampleIds := platform.shuffle (config.rngSeed ^^^ 0xDEADC0DE12345678) 0
      (x.own.sampleIds ++ sample.map Order.orderId)
    let beforeSstableCount ← getSstableCount platform
    step platform -- console output
    return { x with result := result, own := { x.own with sampleIds, beforeSstableCount } }

def run (x : ExperimentObject Experiment6Members) :
    BenchM Double σ (ExperimentObject Experiment6Members) := do
  if x.own.shouldSkip then return x
  else
    step platform -- console output
    let beforeRecorder ← timedEach platform (findByPrimaryKey db) x.own.sampleIds
      (platform.startTimer x.own.beforeRecorder)
    let beforeEnd ← nowNs platform
    step platform -- console output
    runCompaction platform
    let afterSstableCount ← getSstableCount platform
    step platform -- console output
    let afterRecorder ← timedEach platform (findByPrimaryKey db) x.own.sampleIds
      (platform.startTimer x.own.afterRecorder)
    let afterEnd ← nowNs platform
    return { x with own := { x.own with
      beforeRecorder := beforeRecorder.stopTimer beforeEnd
      afterRecorder := afterRecorder.stopTimer afterEnd
      afterSstableCount := afterSstableCount } }

def experiment : ExperimentClass Double σ Experiment6Members where
  setup := setup db platform dataset config
  run := run db platform
  teardown := ExperimentBase.teardown

def execute : BenchM Double σ (ExperimentObject Experiment6Members) :=
  ExperimentBase.execute platform (experiment db platform dataset config) (.init .init)

def shuffleSeed : UInt64 := config.rngSeed ^^^ 0xDEADC0DE12345678

section Rules

variable {db dataset} {I J K : Bench Double σ → Prop}
  {E : CppString → Bench Double σ → Prop}

theorem getSstableCount_triple (hstep : Triple I (step platform) (fun _ => I) E)
    (hsystem : ∀ command, Triple I (outside (platform.system command)) (fun _ => I) E) :
    Triple I (getSstableCount platform) (fun _ => I) E := by
  apply (hsystem _).bind
  intro rc
  split
  · exact hstep.bind fun _ => Triple.skip
  · exact readNumber_triple platform _

theorem setup_triple (hdb : db.getDbName = lit "cassandra") (hne : dataset ≠ [])
    (hstep : Triple I (step platform) (fun _ => I) E)
    (hsystem : ∀ command, Triple I (outside (platform.system command)) (fun _ => I) E)
    (x : ExperimentObject Experiment6Members) :
    Triple I (setup db platform dataset config x)
      (fun x' b => I b ∧ x'.own.shouldSkip = x.own.shouldSkip ∧ x'.own.sampleIds =
        platform.shuffle (shuffleSeed config) 0
          (x.own.sampleIds ++ sampledIds platform dataset hne config)) E := by
  apply hstep.bind
  intro _
  rw [if_neg (not_not.2 hdb)]
  apply (sampleRandomOrders_triple hne config).bind
  intro sample
  apply Triple.assuming
  intro hsample
  apply hstep.bind
  intro _
  apply (getSstableCount_triple platform hstep hsystem).bind
  intro count
  apply hstep.bind
  intro _ b hb
  refine ⟨hb, rfl, ?_⟩
  rw [← hsample]
  rfl

theorem setup_skips (hdb : db.getDbName ≠ lit "cassandra")
    (hstep : Triple I (step platform) (fun _ => I) E) (x : ExperimentObject Experiment6Members) :
    Triple I (setup db platform dataset config x)
      (fun x' b => I b ∧ x'.own = { x.own with shouldSkip := true }) E := by
  apply hstep.bind
  intro _
  rw [if_pos hdb]
  exact hstep.bind fun _ b hb => ⟨hb, rfl⟩

variable {platform} in
/-- What holds before the first phase, between the phases and after the second one. -/
theorem run_triple {x : ExperimentObject Experiment6Members} (hskip : x.own.shouldSkip = false)
    (hbefore : ∀ recorder, Triple I
      (timedEach platform (findByPrimaryKey db) x.own.sampleIds recorder) (fun _ => J) E)
    (hafter : ∀ recorder, Triple J
      (timedEach platform (findByPrimaryKey db) x.own.sampleIds recorder) (fun _ => K) E)
    (hstepI : Triple I (step platform) (fun _ => I) E)
    (hstepJ : Triple J (step platform) (fun _ => J) E) (hthrow : ∀ e b, J b → E e b)
    (hsystem : ∀ command, Triple J (outside (platform.system command)) (fun _ => J) E) :
    Triple I (run db platform x) (fun _ => K) E := by
  rw [run, hskip]
  apply hstepI.bind
  intro _
  apply (hbefore _).bind
  intro _
  apply (nowNs_triple platform).bind
  intro _
  apply hstepJ.bind
  intro _
  have hcompaction : Triple J (runCompaction platform) (fun _ => J) E := by
    apply (hsystem _).bind
    intro rc
    split
    · exact hthrow _
    · exact Triple.skip
  apply hcompaction.bind
  intro _
  apply (getSstableCount_triple platform hstepJ hsystem).bind
  intro _
  apply hstepJ.bind
  intro _
  apply (hafter _).bind
  intro _
  exact (nowNs_triple platform).bind fun _ => Triple.skip

end Rules

end Experiment6

end DbBenchmark
