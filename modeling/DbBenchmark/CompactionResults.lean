import DbBenchmark.ClientInterfaces
import DbBenchmark.CoherentStatistics
import DbBenchmark.DecimalNumbers
import DbBenchmark.SampledReads

namespace DbBenchmark
open FixedPoint LatencyRecorder MixedRadix
set_option autoImplicit true

variable {Double σ : Type}

/-- Below the bound, six decimals leave at most four digits before the point. -/
theorem abs_read_take_decimalDouble (hq : 0 ≤ q) :
    |decimals.read ((decimalDouble q).take 4) - q| < 1 ↔ q < 10000 - 1 / 2000000 := by
  have hbound : (decimals.base : ℚ) ^ 4 - 1 / (2 * (decimals.base : ℚ) ^ 6) =
      10000 - 1 / 2000000 := by
    norm_num [decimals]
  rw [decimalDouble_of_nonneg hq, ← hbound]
  exact Numerals.abs_read_take_print_sub_lt_one_iff (by decide) (by decide) (by decide) (by decide)
    hq

namespace Experiment6

variable (db : DBInterface Double σ)

def skippedResult : BenchmarkResult ℚ :=
  { (BenchmarkResult.init : BenchmarkResult ℚ) with
    database := db.getDbName
    experimentName := lit "exp_06_compaction"
    phase := []
    notes := lit "Skipped — not Cassandra." }

def phaseResult (phase : CppString) (sstableCount : UInt64) (recorder : LatencyRecorder) :
    BenchmarkResult ℚ :=
  { recorder.computeStats with
    database := lit "cassandra"
    experimentName := lit "exp_06_compaction"
    operation := lit "point_read"
    indexType := lit "primary"
    phase := phase
    threadCount := 1
    sstableCount := sstableCount.toNat }

def getBeforeResult (x : Experiment6Members) : BenchmarkResult ℚ :=
  if x.shouldSkip then skippedResult db
  else phaseResult (lit "before_compaction") x.beforeSstableCount x.beforeRecorder

def getAfterResult (x : Experiment6Members) : BenchmarkResult ℚ :=
  if x.shouldSkip then skippedResult db
  else
    let r := phaseResult (lit "after_compaction") x.afterSstableCount x.afterRecorder
    if 0 < x.beforeRecorder.count then
      let before := x.beforeRecorder.computeStats
      let ratio := if 0 < r.p99Us then before.p99Us / r.p99Us else 0
      { r with
        notes := lit "p99 improvement: " ++ (decimalDouble ratio).take 4 ++
          lit "x after compaction" }
    else r

end Experiment6

/-- The notes name a number within one of the quotient of the percentiles in the two rows. -/
def ReportsImprovement (db : DBInterface Double σ) (x : Experiment6Members) : Prop :=
  ∃ number, (Experiment6.getAfterResult db x).notes =
      lit "p99 improvement: " ++ number ++ lit "x after compaction" ∧
    |decimals.read number -
      (Experiment6.getBeforeResult db x).p99Us / (Experiment6.getAfterResult db x).p99Us| < 1

/-- The quotient of the nearest ranks does not round to a number of five digits. -/
def RatioFits (before after : List Nat) : Prop :=
  ∃ v w, IsNearestRank before (99 / 100) v ∧ IsNearestRank after (99 / 100) w ∧
    v < (10000 - 1 / 2000000) * w

theorem ratioFits_iff {before after : LatencyRecorder} (hbefore : before.latenciesUs ≠ [])
    (hafter : after.latenciesUs ≠ []) : RatioFits before.latenciesUs after.latenciesUs ↔
      before.computeStats.p99Us < (10000 - 1 / 2000000) * after.computeStats.p99Us := by
  constructor
  · rintro ⟨v, w, hv, hw, hlt⟩
    have hv' : v = before.computeStats.p99Us := IsNearestRank.eq_computeStats (q := .p99) hv
    have hw' : w = after.computeStats.p99Us := IsNearestRank.eq_computeStats (q := .p99) hw
    rwa [hv', hw'] at hlt
  · intro hlt
    exact ⟨_, _, isNearestRank_computeStats before .p99 hbefore,
      isNearestRank_computeStats after .p99 hafter, hlt⟩

theorem p99Us_getBeforeResult (db : DBInterface Double σ) {x : Experiment6Members}
    (hskip : x.shouldSkip = false) :
    (Experiment6.getBeforeResult db x).p99Us = x.beforeRecorder.computeStats.p99Us := by
  rw [Experiment6.getBeforeResult, if_neg (by simp [hskip])]
  rfl

theorem p99Us_getAfterResult (db : DBInterface Double σ) {x : Experiment6Members}
    (hskip : x.shouldSkip = false) :
    (Experiment6.getAfterResult db x).p99Us = x.afterRecorder.computeStats.p99Us := by
  rw [Experiment6.getAfterResult, if_neg (by simp [hskip])]
  split
  · rfl
  · rfl

theorem notes_getAfterResult (db : DBInterface Double σ) {x : Experiment6Members}
    (hskip : x.shouldSkip = false) (hbefore : x.beforeRecorder.latenciesUs ≠ [])
    (hpos : 0 < x.afterRecorder.computeStats.p99Us) :
    (Experiment6.getAfterResult db x).notes = lit "p99 improvement: " ++
      (decimalDouble (x.beforeRecorder.computeStats.p99Us /
        x.afterRecorder.computeStats.p99Us)).take 4 ++ lit "x after compaction" := by
  have hcount : 0 < x.beforeRecorder.count := List.length_pos_iff.2 hbefore
  simp only [Experiment6.getAfterResult, hskip, Bool.false_eq_true, if_false, hcount, if_true,
    Experiment6.phaseResult, hpos]

/-- The four characters hold the whole part of the quotient unless it has five digits. -/
theorem reportsImprovement_iff (db : DBInterface Double σ) {x : Experiment6Members}
    (hskip : x.shouldSkip = false) (hbefore : x.beforeRecorder.latenciesUs ≠ [])
    (hafter : x.afterRecorder.latenciesUs ≠ [])
    (hpos : 0 < (Experiment6.getAfterResult db x).p99Us) :
    ReportsImprovement db x ↔
      RatioFits x.beforeRecorder.latenciesUs x.afterRecorder.latenciesUs := by
  rw [p99Us_getAfterResult db hskip] at hpos
  have hratio : 0 ≤ x.beforeRecorder.computeStats.p99Us / x.afterRecorder.computeStats.p99Us :=
    div_nonneg (percentile_nonneg x.beforeRecorder .p99) hpos.le
  rw [ratioFits_iff hbefore hafter, ← div_lt_iff₀ hpos, ← abs_read_take_decimalDouble hratio,
    ReportsImprovement, notes_getAfterResult db hskip hbefore hpos, p99Us_getBeforeResult db hskip,
    p99Us_getAfterResult db hskip]
  constructor
  · rintro ⟨number, hnotes, hread⟩
    rw [List.append_cancel_left (List.append_cancel_right hnotes)]
    exact hread
  · intro hread
    exact ⟨_, rfl, hread⟩

def measuredOnce (beforeUs afterUs : Nat) : Experiment6Members :=
  { Experiment6Members.init with
    beforeRecorder := LatencyRecorder.init.record beforeUs
    afterRecorder := LatencyRecorder.init.record afterUs }

def cassandraDb : DBInterface Nat (ClientState Nat) :=
  CassandraClient.dbInterface fun _ _ => pure []

theorem reportsImprovement_iff_ninetyNineFold :
    ReportsImprovement cassandraDb (measuredOnce 1980 20) :=
  (reportsImprovement_iff cassandraDb rfl (by decide) (by decide) (by decide +kernel)).2
    ((ratioFits_iff (by decide) (by decide)).2 (by decide +kernel))

/-- 12345 is reported as 1234. -/
theorem not_reportsImprovement_fiveDigits :
    (measuredOnce 123450 10).shouldSkip = false ∧
    0 < (Experiment6.getAfterResult cassandraDb (measuredOnce 123450 10)).p99Us ∧
    (Experiment6.getAfterResult cassandraDb (measuredOnce 123450 10)).notes =
      lit "p99 improvement: 1234x after compaction" ∧
    ¬ ReportsImprovement cassandraDb (measuredOnce 123450 10) := by
  have hnotes : (Experiment6.getAfterResult cassandraDb (measuredOnce 123450 10)).notes =
      lit "p99 improvement: " ++ lit "1234" ++ lit "x after compaction" := by decide +kernel
  refine ⟨rfl, by decide +kernel, by decide +kernel, ?_⟩
  rintro ⟨number, hnumber, hread⟩
  rw [hnotes] at hnumber
  rw [← List.append_cancel_left (List.append_cancel_right hnumber)] at hread
  exact absurd hread (by decide +kernel)

end DbBenchmark
