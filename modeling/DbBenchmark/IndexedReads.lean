import DbBenchmark.ExperimentBase
import DbBenchmark.RangeScan

namespace DbBenchmark
open BenchM ExperimentBase Throwing
set_option autoImplicit true

variable {Double σ : Type}

structure Experiment4Members where
  primarySampleIds : List CppString
  secondarySampleIds : List CppString
  primaryRecorder : LatencyRecorder
  secondaryRecorder : LatencyRecorder

def Experiment4Members.init : Experiment4Members := ⟨[], [], .init, .init⟩

namespace Experiment4

variable (db : DBInterface Double σ) (platform : Platform σ) (dataset : List (Order Double))
  (config : BenchmarkConfig)

def shuffleSeed : UInt64 := config.rngSeed ^^^ 0xABCDEF1234567890

def setup (x : ExperimentObject Experiment4Members) :
    BenchM Double σ (ExperimentObject Experiment4Members) := do
  step platform
  let result := { x.result with
    database := db.getDbName
    experimentName := lit "exp4 secondary index read"
    threadCount := 1 }
  step platform
  let sample ← sampleRandomOrders platform dataset config config.readSampleSize.toNat
  step platform
  let primarySampleIds := x.own.primarySampleIds ++ sample.map Order.orderId
  step platform
  let secondarySampleIds ← DataGenerator.sampleUserIds platform config.rngSeed
    config.readSampleSize.toNat
  let primaryShuffled := platform.shuffle (shuffleSeed config) 0 primarySampleIds
  let secondaryShuffled := platform.shuffle (shuffleSeed config) primarySampleIds.length
    secondarySampleIds
  step platform -- console output
  createSecondaryIndex db
  step platform -- console output
  return { x with
    result := result
    own := { x.own with
      primarySampleIds := primaryShuffled
      secondarySampleIds := secondaryShuffled } }

def run (x : ExperimentObject Experiment4Members) :
    BenchM Double σ (ExperimentObject Experiment4Members) := do
  step platform -- console output
  let primaryRecorder ← timedEach platform (findByPrimaryKey db) x.own.primarySampleIds
    (platform.startTimer x.own.primaryRecorder)
  let primaryEnd ← nowNs platform
  step platform -- console output
  let secondaryRecorder ← timedEach platform (findBySecondaryKey db) x.own.secondarySampleIds
    (platform.startTimer x.own.secondaryRecorder)
  let secondaryEnd ← nowNs platform
  return { x with own := { x.own with
    primaryRecorder := primaryRecorder.stopTimer primaryEnd
    secondaryRecorder := secondaryRecorder.stopTimer secondaryEnd } }

def teardown (_ : ExperimentObject Experiment4Members) : BenchM Double σ Unit := do
  step platform -- console output
  dropSecondaryIndex db

def experiment : ExperimentClass Double σ Experiment4Members where
  setup := setup db platform dataset config
  run := run db platform
  teardown := teardown db platform

def execute : BenchM Double σ (ExperimentObject Experiment4Members) :=
  ExperimentBase.execute platform (experiment db platform dataset config) (.init .init)

/-- The fallible steps of `setup` before the indexes. -/
def stepsBeforeIndex : Nat := 5

theorem setup_triple {db : DBInterface Double σ} {platform : Platform σ}
    {dataset : List (Order Double)} {config : BenchmarkConfig} {I : Nat → Bench Double σ → Prop}
    {J : Bench Double σ → Prop} {E : CppString → Bench Double σ → Prop} (hne : dataset ≠ [])
    (hbefore : ∀ j, Triple (I (j + 1)) (step platform) (fun _ => I j) E)
    (hcreate : Triple (I 0) (createSecondaryIndex db) (fun _ => J) E)
    (hafter : Triple J (step platform) (fun _ => J) E) (x : ExperimentObject Experiment4Members) :
    Triple (I stepsBeforeIndex) (setup db platform dataset config x)
      (fun x' b => J b ∧ x'.own.primarySampleIds = platform.shuffle (shuffleSeed config) 0
        (x.own.primarySampleIds ++ sampledIds platform dataset hne config)) E := by
  apply (hbefore 4).bind
  intro _
  apply (hbefore 3).bind
  intro _
  apply (sampleRandomOrders_triple hne config).bind
  intro sample
  apply Triple.assuming
  intro hsample
  apply (hbefore 2).bind
  intro _
  apply (hbefore 1).bind
  intro _
  apply (sampleUserIds_triple _ _).bind
  intro userIds
  apply (hbefore 0).bind
  intro _
  apply hcreate.bind
  intro _
  apply hafter.bind
  intro _ b hb
  refine ⟨hb, ?_⟩
  rw [← hsample]

theorem run_triple {db : DBInterface Double σ} {platform : Platform σ}
    {I : Bench Double σ → Prop} {E : CppString → Bench Double σ → Prop}
    {x : ExperimentObject Experiment4Members} (hstep : Triple I (step platform) (fun _ => I) E)
    (hprimary : ∀ orderId ∈ x.own.primarySampleIds,
      Triple I (findByPrimaryKey db orderId) (fun _ => I) E)
    (hsecondary : ∀ userId ∈ x.own.secondarySampleIds,
      Triple I (findBySecondaryKey db userId) (fun _ => I) E) :
    Triple I (run db platform x) (fun _ => I) E := by
  apply hstep.bind
  intro _
  apply (timedEach_keeps hprimary hstep _).bind
  intro primaryRecorder
  apply (nowNs_triple platform).bind
  intro _
  apply hstep.bind
  intro _
  apply (timedEach_keeps hsecondary hstep _).bind
  intro secondaryRecorder
  exact (nowNs_triple platform).bind fun _ => Triple.skip

end Experiment4

structure Experiment5Members where
  smallRecorder : LatencyRecorder
  mediumRecorder : LatencyRecorder
  largeRecorder : LatencyRecorder
  avgResultCountSmall : UInt64
  avgResultCountMedium : UInt64
  avgResultCountLarge : UInt64

def Experiment5Members.init : Experiment5Members := ⟨.init, .init, .init, 0, 0, 0⟩

namespace Experiment5

variable (db : DBInterface Double σ) (platform : Platform σ) (dataset : List (Order Double))
  (config : BenchmarkConfig)

def setup (x : ExperimentObject Experiment5Members) :
    BenchM Double σ (ExperimentObject Experiment5Members) := do
  step platform
  let result := { x.result with
    database := db.getDbName
    experimentName := lit "exp5 range scan"
    operation := lit "range_scan"
    threadCount := 1 }
  step platform -- console output
  createSecondaryIndex db
  return { x with result := result }

/-- One query of `run_window`. -/
def query (cassandraUserIds : List CppString) (windowDays : Int32) (q : Nat) :
    BenchM Double σ (List (OrderObject Double)) := do
  let dates := DataGenerator.generateDateRange dataset windowDays
  if db.getDbName = lit "cassandra" then
    let userOrders ← findBySecondaryKey db (cassandraUserIds.getD q [])
    step platform
    return userOrders.filter (createdWithin dates.1 dates.2)
  else findByRange db dates.1 dates.2

def runWindow (cassandraUserIds : List CppString) (windowDays : Int32) (recorder : LatencyRecorder) :
    BenchM Double σ (LatencyRecorder × UInt64) := do
  step platform
  let (recorder, totalRowsReturned) ← (List.range config.readSampleSize.toNat).foldlM
    (fun (recorder, totalRowsReturned) q => do
      step platform
      let (rows, recorder) ← timed platform (query db platform dataset cassandraUserIds windowDays q)
        recorder
      return (recorder, totalRowsReturned + UInt64.ofNat rows.length))
    (platform.startTimer recorder, 0)
  let now ← nowNs platform
  return (recorder.stopTimer now, totalRowsReturned)

/-- The users whose partitions are read; there are as many as queries. -/
def sampleCassandraUserIds : BenchM Double σ (List CppString) := do
  if db.getDbName = lit "cassandra" then
    let userIds ← DataGenerator.sampleUserIds platform config.rngSeed config.readSampleSize.toNat
    return platform.shuffle (config.rngSeed ^^^ 0x12345678ABCDEF) 0 userIds
  else return []

def run (x : ExperimentObject Experiment5Members) :
    BenchM Double σ (ExperimentObject Experiment5Members) := do
  step platform
  let cassandraUserIds ← sampleCassandraUserIds db platform config
  let window := runWindow db platform dataset config cassandraUserIds
  step platform -- console output
  let (smallRecorder, smallRows) ← window config.rangeWindowSmall x.own.smallRecorder
  let avgResultCountSmall ← divide smallRows config.readSampleSize
  step platform -- console output
  let (mediumRecorder, mediumRows) ← window config.rangeWindowMedium x.own.mediumRecorder
  let avgResultCountMedium ← divide mediumRows config.readSampleSize
  step platform -- console output
  let (largeRecorder, largeRows) ← window config.rangeWindowLarge x.own.largeRecorder
  let avgResultCountLarge ← divide largeRows config.readSampleSize
  return { x with own := { smallRecorder, mediumRecorder, largeRecorder, avgResultCountSmall,
                           avgResultCountMedium, avgResultCountLarge } }

def teardown (_ : ExperimentObject Experiment5Members) : BenchM Double σ Unit :=
  dropSecondaryIndex db

def experiment : ExperimentClass Double σ Experiment5Members where
  setup := setup db platform
  run := run db platform dataset config
  teardown := teardown db

def execute : BenchM Double σ (ExperimentObject Experiment5Members) :=
  ExperimentBase.execute platform (experiment db platform dataset config) (.init .init)

variable {db platform dataset config} {I J : Bench Double σ → Prop}
  {E : CppString → Bench Double σ → Prop}

def stepsBeforeIndex : Nat := 2

theorem setup_triple {I : Nat → Bench Double σ → Prop}
    (hbefore : ∀ j, Triple (I (j + 1)) (step platform) (fun _ => I j) E)
    (hcreate : Triple (I 0) (createSecondaryIndex db) (fun _ => J) E)
    (x : ExperimentObject Experiment5Members) :
    Triple (I stepsBeforeIndex) (setup db platform x) (fun _ => J) E := by
  apply (hbefore 1).bind
  intro _
  apply (hbefore 0).bind
  intro _
  exact hcreate.bind fun _ => Triple.skip

structure KeptByQueries (db : DBInterface Double σ) (platform : Platform σ)
    (dataset : List (Order Double)) (config : BenchmarkConfig) (I : Bench Double σ → Prop)
    (E : CppString → Bench Double σ → Prop) : Prop where
  ofStep : Triple I (step platform) (fun _ => I) E
  ofQuery : ∀ userIds windowDays q, q < config.readSampleSize.toNat →
    Triple I (query db platform dataset userIds windowDays q) (fun _ => I) E

theorem KeptByQueries.runWindow (h : KeptByQueries db platform dataset config I E)
    (userIds : List CppString) (windowDays : Int32) (recorder : LatencyRecorder) :
    Triple I (runWindow db platform dataset config userIds windowDays recorder) (fun _ => I) E := by
  apply h.ofStep.bind
  intro _
  have hbody : ∀ done q rest (acc : LatencyRecorder × UInt64),
      done ++ q :: rest = List.range config.readSampleSize.toNat → Triple I
        (do step platform
            let (rows, recorder) ← timed platform (Experiment5.query db platform dataset userIds
              windowDays q) acc.1
            return (recorder, acc.2 + UInt64.ofNat rows.length)) (fun _ => I) E := by
    intro done q rest acc hrange
    have hq : q < config.readSampleSize.toNat := by
      rw [← List.mem_range, ← hrange]
      exact List.mem_append_right _ List.mem_cons_self
    apply h.ofStep.bind
    intro _
    exact (timed_triple (h.ofQuery userIds windowDays q hq) h.ofStep acc.1).bind fun _ _ hb => hb.1
  have hloop := Triple.foldlM (I := fun _ _ => I) hbody (platform.startTimer recorder, 0)
  apply hloop.bind
  intro acc
  exact (nowNs_triple platform).bind fun _ => Triple.skip

/-- A run keeps what its queries keep and its three divisions turn into `J`. -/
theorem run_triple (hI : KeptByQueries db platform dataset config I E)
    (hJ : KeptByQueries db platform dataset config J E)
    (hids : Triple I (sampleCassandraUserIds db platform config) (fun _ => I) E)
    (hfirst : ∀ rows, Triple I (divide rows config.readSampleSize) (fun _ => J) E)
    (hnext : ∀ rows, Triple J (divide rows config.readSampleSize) (fun _ => J) E)
    (x : ExperimentObject Experiment5Members) :
    Triple I (run db platform dataset config x) (fun _ => J) E := by
  apply hI.ofStep.bind
  intro _
  apply hids.bind
  intro userIds
  apply hI.ofStep.bind
  intro _
  apply (hI.runWindow userIds _ _).bind
  intro small
  apply (hfirst small.2).bind
  intro _
  apply hJ.ofStep.bind
  intro _
  apply (hJ.runWindow userIds _ _).bind
  intro medium
  apply (hnext medium.2).bind
  intro _
  apply hJ.ofStep.bind
  intro _
  apply (hJ.runWindow userIds _ _).bind
  intro large
  apply (hnext large.2).bind
  intro _
  exact Triple.skip

theorem sampleCassandraUserIds_triple :
    Triple I (sampleCassandraUserIds db platform config) (fun _ => I) E := by
  rw [sampleCassandraUserIds]
  split
  · exact (sampleUserIds_triple _ _).bind fun _ => Triple.skip
  · exact Triple.skip

end Experiment5

end DbBenchmark
