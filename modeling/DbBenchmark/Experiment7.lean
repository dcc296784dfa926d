import DbBenchmark.CsvWriter
import DbBenchmark.SampledReads

namespace DbBenchmark
open BenchM ExperimentBase LatencyRecorder Throwing
set_option autoImplicit true

variable {Double σ : Type}

def numRuns : Nat := 3

structure RunResult where
  runNumber : Nat
  writeResult : BenchmarkResult ℚ
  readResult : BenchmarkResult ℚ

/-- The run number is indeterminate until the run is stored; 0 stands for it. -/
def RunResult.init : RunResult := ⟨0, .init, .init⟩

structure Experiment7Members where
  runResults : Vector RunResult numRuns
  avgWriteResult : BenchmarkResult ℚ
  avgReadResult : BenchmarkResult ℚ
  writtenOrderIds : List CppString

def Experiment7Members.init : Experiment7Members := ⟨.replicate numRuns .init, .init, .init, []⟩

namespace Experiment7

variable (db : DBInterface Double σ) (platform : Platform σ) (dataset : List (Order Double))
  (config : BenchmarkConfig) (printFixed : Nat → ℚ → CppString)

def setup (x : ExperimentObject Experiment7Members) :
    BenchM Double σ (ExperimentObject Experiment7Members) := do
  step platform
  return { x with result := { x.result with
    database := db.getDbName
    experimentName := lit "exp_07_write_read_symmetry"
    threadCount := 1 } }

def phaseResult (operation : CppString) (phase : CppString) (runNumber : Nat)
    (recorder : LatencyRecorder) : BenchmarkResult ℚ :=
  { recorder.computeStats with
    database := db.getDbName
    experimentName := lit "exp_07_write_read_symmetry"
    operation := operation
    indexType := lit "primary"
    phase := lit "run_" ++ decimal runNumber ++ phase
    threadCount := 1 }

def writeOrder (acc : LatencyRecorder × List CppString) (order : Order Double) :
    BenchM Double σ (LatencyRecorder × List CppString) := do
  let (_, recorder) ← timed platform (insertOne db order) acc.1
  step platform
  return (recorder, acc.2 ++ [order.orderId])

/-- Returned with the result is the new content of `written_order_ids_`. -/
def writePhase (runNumber : Nat) (recorder : LatencyRecorder) :
    BenchM Double σ (BenchmarkResult ℚ × List CppString) := do
  step platform -- console output
  let (recorder, writtenOrderIds) ← (dataset.take (rowsToLoad dataset config)).foldlM
    (writeOrder db platform) (platform.startTimer recorder, [])
  let now ← nowNs platform
  step platform
  return (phaseResult db (lit "insert") (lit "_write") runNumber (recorder.stopTimer now),
    writtenOrderIds)

def idsToRead (runNumber : Nat) (writtenOrderIds : List CppString) : List CppString :=
  platform.shuffle (config.rngSeed ^^^ (UInt64.ofNat runNumber * 0xFEEDFACE)) 0 writtenOrderIds

def readPhase (runNumber : Nat) (recorder : LatencyRecorder) (writtenOrderIds : List CppString) :
    BenchM Double σ (BenchmarkResult ℚ) := do
  step platform -- console output
  let recorder ← timedEach platform (findByPrimaryKey db)
    (idsToRead platform config runNumber writtenOrderIds) (platform.startTimer recorder)
  let now ← nowNs platform
  step platform
  return phaseResult db (lit "point_read") (lit "_read") runNumber (recorder.stopTimer now)

def container : BenchM Double σ CppString :=
  if db.getDbName = lit "postgres" then return lit "bench_postgres"
  else if db.getDbName = lit "mongo" then return lit "bench_mongo"
  else if db.getDbName = lit "cassandra" then return lit "bench_cassandra"
  else throw (lit "exp_07: unknown db name: " ++ db.getDbName)

def flushCache : BenchM Double σ Unit := do
  let container ← container db
  let rc ← outside (platform.system (lit "./scripts/flush_cache_mac.sh " ++ container))
  if rc ≠ 0 then
    throw (lit "exp_07: flush_cache_mac.sh failed for " ++ container ++ lit ". Return code: " ++
      decimalInt rc)

/-- One turn of the loop of `run`, which counts its turns from 1. -/
def runOnce (x : ExperimentObject Experiment7Members) (run : Fin numRuns) :
    BenchM Double σ (ExperimentObject Experiment7Members) := do
  let runNumber := run.val + 1
  step platform -- console output
  clearTable db
  step platform
  let (writeResult, writtenOrderIds) ← writePhase db platform dataset config runNumber .init
  step platform -- console output
  flushCache db platform
  connect db
  step platform
  let readResult ← readPhase db platform config runNumber .init writtenOrderIds
  step platform -- console output
  return { x with own := { x.own with
    runResults := x.own.runResults.set run ⟨runNumber, writeResult, readResult⟩
    writtenOrderIds := writtenOrderIds } }

/-- `std::numeric_limits<double>::max()` -/
def maxDouble : ℚ := 2 ^ 1024 - 2 ^ 971

def avgResults (operation phase : CppString) (runs : List (BenchmarkResult ℚ)) :
    BenchmarkResult ℚ :=
  let mean (field : BenchmarkResult ℚ → ℚ) := runs.foldl (fun sum r => sum + field r) 0 / numRuns
  { (BenchmarkResult.init : BenchmarkResult ℚ) with
    database := db.getDbName
    experimentName := lit "exp_07_write_read_symmetry"
    operation := operation
    indexType := lit "primary"
    phase := phase
    threadCount := 1
    p50Us := mean (·.p50Us)
    p95Us := mean (·.p95Us)
    p99Us := mean (·.p99Us)
    meanUs := mean (·.meanUs)
    throughputOpsSec := mean (·.throughputOpsSec)
    totalTimeMs := mean (·.totalTimeMs)
    totalOps := runs.foldl (fun sum r => sum + r.totalOps) 0 / numRuns
    minUs := runs.foldl (fun least r => min least r.minUs) maxDouble
    maxUs := runs.foldl (fun greatest r => max greatest r.maxUs) 0
    notes := lit "per-run throughput: " ++
      (lit "/").intercalate (runs.map fun r => printFixed 0 r.throughputOpsSec) ++ lit " ops/s" }

def computeAverages (x : ExperimentObject Experiment7Members) :
    BenchM Double σ (ExperimentObject Experiment7Members) := do
  step platform
  return { x with own := { x.own with
    avgWriteResult := avgResults db printFixed (lit "insert") (lit "avg_write")
      (x.own.runResults.toList.map RunResult.writeResult)
    avgReadResult := avgResults db printFixed (lit "point_read") (lit "avg_read")
      (x.own.runResults.toList.map RunResult.readResult) } }

/-- `run` leaves `recorder_` and `result_` as they are. -/
def run (x : ExperimentObject Experiment7Members) :
    BenchM Double σ (ExperimentObject Experiment7Members) := do
  let x ← (List.finRange numRuns).foldlM (runOnce db platform dataset config) x
  computeAverages db platform printFixed x

end Experiment7

end DbBenchmark
