import DbBenchmark.ClientInterfaces
import DbBenchmark.WorkPartition

namespace DbBenchmark
open BenchM ConfigLoader ThreadPool Throwing
set_option autoImplicit true

namespace Experiment2

/-- The minimum is taken in `uint64_t` and stored in a `uint32_t`. -/
def totalRows (dataset : List (Order Double)) (config : BenchmarkConfig) : UInt32 :=
  UInt32.ofNat (rowsToLoad dataset config)

structure CompletedRun (dataset : List (Order Double)) (config : BenchmarkConfig) where
  acts : List (Action UInt64)
  pool : Pool (Worker Double) (Shared Double)
  startTimer : LatencyRecorder → LatencyRecorder
  endNs : Nat → UInt64
  wallMs : ℚ
  result : BenchmarkResult ℚ
  reported : BenchmarkResult ℚ
  runs : runThreads dataset (totalRows dataset config) config.threadCount acts = some pool
  joined : pool.joined = config.threadCount.toNat
  reports : report startTimer pool.shared.recorders endNs (totalRows dataset config) wallMs result =
    .ok reported

theorem totalRows_toNat (dataset : List (Order Double)) (config : BenchmarkConfig) :
    (totalRows dataset config).toNat = rowsToLoad dataset config % 2 ^ 32 :=
  UInt32.toNat_ofNat' ..

theorem totalRows_le (dataset : List (Order Double)) (config : BenchmarkConfig) :
    (totalRows dataset config).toNat ≤ dataset.length := by
  rw [totalRows_toNat]
  exact (Nat.mod_le _ _).trans (Nat.min_le_left _ _)

theorem totalRows_eq_iff (dataset : List (Order Double)) (config : BenchmarkConfig) :
    (totalRows dataset config).toNat = rowsToLoad dataset config ↔
      rowsToLoad dataset config < 2 ^ 32 := by
  rw [totalRows_toNat, Nat.mod_eq_iff_lt (by decide)]

end Experiment2

theorem map_getElem?_range (l : List α) (n : Nat) (hn : n ≤ l.length) :
    (List.range n).map (fun i => l[i]?) = (l.take n).map some := by
  induction n with
  | zero => rfl
  | succ n ih =>
    have hget : l[n]? = some l[n] := List.getElem?_eq_getElem hn
    rw [List.range_succ, List.map_append, ih (Nat.le_of_succ_le hn), List.take_add_one, hget,
      List.map_append, List.map_singleton, hget]
    rfl

theorem Partitioned.orders {g : Shared Double} (h : Partitioned dataset totalRows numThreads g)
    (hrows : totalRows.toNat ≤ dataset.length) :
    (g.inserted.map (·.order)).Perm ((dataset.take totalRows.toNat).map some) := by
  have horder : g.inserted.map (·.order) = (g.inserted.map (·.index)).map fun i => dataset[i]? := by
    rw [List.map_map]
    apply List.map_congr_left
    intro c hc
    obtain ⟨o, hget, ho⟩ := h.order c hc
    exact ho.trans hget.symm
  rw [horder, ← map_getElem?_range dataset totalRows.toNat hrows]
  exact h.inserted.map _

theorem totalOps_of_report (h : Experiment2.report startTimer recorders endNs totalRows wallMs
    result = .ok reported) : reported.totalOps = totalRows.toNat := by
  rw [Experiment2.report] at h
  obtain ⟨merged, -, hreported⟩ := except_bind_ok h
  cases hreported
  rfl

/-- The threads pass the orders that Experiment 1 passed, and as many operations are reported. -/
structure LoadsAlike {dataset : List (Order Double)} {config : BenchmarkConfig}
    (x : ExperimentObject Unit) (b : Bench Double σ) (r : Experiment2.CompletedRun dataset config) :
    Prop where
  orders : (r.pool.shared.inserted.map (·.order)).Perm ((insertions b.calls).map some)
  totalOps : r.reported.totalOps = x.result.totalOps

/-- The two loads agree exactly where the number of rows fits into the 32 bits it is stored in. -/
theorem loadsAlike_iff {db : DBInterface Double σ} {dataset : List (Order Double)}
    (hone : 1 ≤ config.threadCount)
    (hload : Experiment1.execute db platform dataset config (.start world) = .ok x b)
    (r : Experiment2.CompletedRun dataset config) :
    LoadsAlike x b r ↔ rowsToLoad dataset config < 2 ^ 32 := by
  have hrows := Experiment2.totalRows_le dataset config
  obtain ⟨hinserted, htotal⟩ :=
    (experiment1_inserts db platform dataset config).of_ok rfl hload
  have hreported := totalOps_of_report r.reports
  rw [← Experiment2.totalRows_eq_iff]
  constructor
  · intro h
    exact hreported.symm.trans (h.totalOps.trans htotal)
  · intro hfits
    have horders := (partitioned_of_joined hone hrows r.runs r.joined).orders hrows
    rw [hfits, ← hinserted] at horders
    exact ⟨horders, hreported.trans (hfits.trans htotal.symm)⟩

def overtakingConfig : BenchmarkConfig := { defaultConfig with threadCount := 2 }

theorem loadsAlike_iff_overtaking :
    ∃ (x : ExperimentObject Unit) (b : Bench Rat (ClientState Rat))
      (r : Experiment2.CompletedRun threeRows overtakingConfig),
      r.acts = overtaking ∧ (LoadsAlike x b r ↔ rowsToLoad threeRows overtakingConfig < 2 ^ 32) := by
  obtain ⟨x, b, hload⟩ := experiment1_cassandra_returns threeRows overtakingConfig
  have hsome : (Experiment2.runThreads threeRows 3 2 overtaking).isSome := by decide
  obtain ⟨s, hs⟩ := Option.isSome_iff_exists.1 hsome
  have hjoined : (Experiment2.runThreads threeRows 3 2 overtaking).map (·.joined) = some 2 := by
    decide
  rw [hs] at hjoined
  have hne := recorders_ne_nil_of_joined (by decide) hs (Option.some.inj hjoined)
  obtain ⟨reported, hreports, -⟩ := report_totalOps hne id (fun _ => 0) 3 1 .init
  exact ⟨x, b, ⟨_, _, _, _, _, _, reported, hs, Option.some.inj hjoined, hreports⟩, rfl,
    loadsAlike_iff (by decide) hload _⟩

/-- With no rows the worker of a single thread finishes at once. -/
theorem runThreads_noRows (dataset : List (Order Double)) :
    Experiment2.runThreads dataset 0 1 [.spawn, .advance 0 0, .join] =
      some ⟨[⟨0, .finished⟩], Experiment2.initialShared 1, 1⟩ := rfl

def wrappedConfig : BenchmarkConfig :=
  { defaultConfig with totalRows := 4294967296, threadCount := 1 }

def wrappedDataset : List (Order Rat) := List.replicate (2 ^ 32) (stampedOrder "a" "u" "t")

/-- 2^32 rows: Experiment 1 inserts them all, and the single thread of Experiment 2 none. -/
theorem not_loadsAlike_wrapped :
    ∃ x b, Experiment1.execute (CassandraClient.dbInterface fun _ _ => pure []) .calm wrappedDataset
        wrappedConfig (.start ⟨.healthy .empty, .init⟩) = .ok x b ∧
      ∃ r : Experiment2.CompletedRun wrappedDataset wrappedConfig,
        r.pool.shared.inserted = [] ∧ ¬ LoadsAlike x b r := by
  have hrows : rowsToLoad wrappedDataset wrappedConfig = 2 ^ 32 := by
    rw [rowsToLoad, wrappedDataset, List.length_replicate]
    rfl
  have hzero : Experiment2.totalRows wrappedDataset wrappedConfig = 0 := by
    rw [Experiment2.totalRows, hrows]
    rfl
  obtain ⟨x, b, hload⟩ := experiment1_cassandra_returns wrappedDataset wrappedConfig
  have hruns := runThreads_noRows wrappedDataset
  rw [← hzero] at hruns
  obtain ⟨reported, hreports, htotal⟩ := report_totalOps (List.cons_ne_nil .init []) id (fun _ => 0)
    (Experiment2.totalRows wrappedDataset wrappedConfig) 1 .init
  have hexperiment1 := (experiment1_inserts (CassandraClient.dbInterface fun _ _ => pure []) .calm
    wrappedDataset wrappedConfig).of_ok rfl hload
  refine ⟨x, b, hload, ⟨_, _, _, _, _, _, reported, hruns, rfl, hreports⟩, rfl, ?_⟩
  intro h
  have hsame : reported.totalOps = x.result.totalOps := h.totalOps
  rw [htotal, hexperiment1.2, hrows, hzero] at hsame
  exact absurd hsame (by decide)

end DbBenchmark
