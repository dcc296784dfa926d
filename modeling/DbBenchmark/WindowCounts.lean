import DbBenchmark.ClientInterfaces
import DbBenchmark.ConcurrentLoad
import DbBenchmark.PostgresReads
import DbBenchmark.ReportedResults

namespace DbBenchmark
open BenchM ExperimentBase Keyed Throwing
set_option autoImplicit true

variable {Double σ : Type}

namespace Experiment5

variable {db : DBInterface Double σ} {platform : Platform σ} {dataset : List (Order Double)}
  {config : BenchmarkConfig} {I : σ → Prop} {found : Nat → Nat}

/-- The rows that the queries of a window find together. -/
def rowsFound (config : BenchmarkConfig) (found : Nat → Nat) : Nat :=
  ((List.range config.readSampleSize.toNat).map found).sum

/-- Whatever its window, the query `q` finds `found q` rows, and nothing disturbs `I`. -/
structure Finds (db : DBInterface Double σ) (platform : Platform σ) (dataset : List (Order Double))
    (config : BenchmarkConfig) (I : σ → Prop) (found : Nat → Nat) : Prop where
  ofStep : Triple I platform.step (fun _ => I) fun _ _ => True
  ofCreate : Triple I db.createSecondaryIndex (fun _ => I) fun _ _ => True
  ofQuery : ∀ windowDays q, Triple (fun b => I b.world)
    (query db platform dataset (partitionIds db platform config) windowDays q)
    (fun rows b => I b.world ∧ rows.length = found q) fun _ _ => True

namespace Finds

theorem step_keeps (h : Finds db platform dataset config I found) :
    Triple (fun b : Bench Double σ => I b.world) (step platform) (fun _ b => I b.world)
      fun _ _ => True :=
  outside_world h.ofStep

theorem timedQuery (h : Finds db platform dataset config I found) (windowDays : Int32)
    (q : Nat) (recorder : LatencyRecorder) :
    Triple (fun b => I b.world)
      (timed platform (query db platform dataset (partitionIds db platform config) windowDays q)
        recorder)
      (fun r b => I b.world ∧ r.1.length = found q) fun _ _ => True := by
  apply (nowNs_triple platform).bind
  intro _
  apply (h.ofQuery windowDays q).bind
  intro rows
  apply Triple.assuming
  intro hrows
  apply (nowNs_triple platform).bind
  intro _
  apply h.step_keeps.bind
  intro _ b hb
  exact ⟨hb, hrows⟩

theorem runWindow (h : Finds db platform dataset config I found) (windowDays : Int32)
    (recorder : LatencyRecorder) :
    Triple (fun b => I b.world)
      (runWindow db platform dataset config (partitionIds db platform config) windowDays recorder)
      (fun r b => I b.world ∧ r.2 = UInt64.ofNat (rowsFound config found)) fun _ _ => True := by
  have hturn (done : List Nat) (q : Nat) (rest : List Nat) (acc : LatencyRecorder × UInt64)
      (_ : done ++ q :: rest = List.range config.readSampleSize.toNat) :
      Triple (fun b => I b.world ∧ acc.2 = UInt64.ofNat (done.map found).sum)
        (do step platform
            let r ← timed platform
              (query db platform dataset (partitionIds db platform config) windowDays q) acc.1
            return (r.2, acc.2 + UInt64.ofNat r.1.length))
        (fun acc b => I b.world ∧ acc.2 = UInt64.ofNat ((done ++ [q]).map found).sum)
        fun _ _ => True := by
    apply Triple.assuming
    intro htotal
    apply h.step_keeps.bind
    intro _
    apply (h.timedQuery windowDays q acc.1).bind
    intro r
    apply Triple.assuming
    intro hrows b hb
    refine ⟨hb, ?_⟩
    rw [htotal, hrows, ← UInt64.ofNat_add, List.map_append, List.sum_append, List.map_singleton,
      List.sum_singleton]
  apply h.step_keeps.bind
  intro _
  have hloop := Triple.foldlM hturn (platform.startTimer recorder, 0)
  have hstart : Triple (fun b : Bench Double σ => I b.world) _ _ _ :=
    hloop.mono (fun _ hb => ⟨hb, rfl⟩) (fun _ _ hb => hb) (fun _ _ hb => hb)
  apply hstart.bind
  intro acc
  apply (nowNs_triple platform).bind
  intro _ b hb
  exact hb

end Finds

theorem divide_triple (a n : UInt64) : Triple (fun b : Bench Double σ => I b.world) (divide a n)
    (fun avg b => I b.world ∧ avg = a / n) fun _ _ => True :=
  fun _ hb => ⟨hb, rfl⟩

def averageFound (config : BenchmarkConfig) (found : Nat → Nat) : UInt64 :=
  UInt64.ofNat (rowsFound config found) / config.readSampleSize

def ReportsAverage (config : BenchmarkConfig) (found : Nat → Nat) (x : Experiment5Members) : Prop :=
  x.avgResultCountSmall = averageFound config found ∧
    x.avgResultCountMedium = averageFound config found ∧
      x.avgResultCountLarge = averageFound config found

namespace Finds

theorem window (h : Finds db platform dataset config I found) (windowDays : Int32)
    (recorder : LatencyRecorder) {k : LatencyRecorder × UInt64 → UInt64 → BenchM Double σ α}
    {Q : α → Bench Double σ → Prop}
    (hk : ∀ r, Triple (fun b => I b.world) (k r (averageFound config found)) Q fun _ _ => True) :
    Triple (fun b => I b.world)
      (do step platform
          let r ← Experiment5.runWindow db platform dataset config (partitionIds db platform config)
            windowDays recorder
          let avg ← divide r.2 config.readSampleSize
          k r avg)
      Q fun _ _ => True := by
  apply h.step_keeps.bind
  intro _
  apply (h.runWindow windowDays recorder).bind
  intro r
  apply Triple.assuming
  intro htotal
  apply (divide_triple r.2 config.readSampleSize).bind
  intro avg
  apply Triple.assuming
  intro havg
  have haverage : avg = averageFound config found := by rw [havg, htotal, averageFound]
  rw [haverage]
  exact hk r

theorem run (h : Finds db platform dataset config I found)
    (x : ExperimentObject Experiment5Members) :
    Triple (fun b => I b.world) (run db platform dataset config x)
      (fun x b => I b.world ∧ ReportsAverage config found x.own) fun _ _ => True := by
  have hids : Triple (fun b : Bench Double σ => I b.world) (sampleCassandraUserIds db platform config)
      (fun ids b => I b.world ∧ ids = partitionIds db platform config) fun _ _ => True := by
    rw [sampleCassandraUserIds, partitionIds, DataGenerator.sampleUserIds,
      dif_neg (platform.userIdPool_ne_nil _)]
    split
    · exact fun _ hb => ⟨hb, rfl⟩
    · exact fun _ hb => ⟨hb, rfl⟩
  apply h.step_keeps.bind
  intro _
  apply hids.bind
  intro userIds
  apply Triple.assuming
  intro huserIds
  rw [huserIds]
  apply h.window
  intro small
  apply h.window
  intro medium
  apply h.window
  intro large b hb
  exact ⟨hb, rfl, rfl, rfl⟩

end Finds

end Experiment5

section Mongo

variable {orders : Collection Double}

end Mongo

section Cassandra

variable {tables : CassandraTables Double}

theorem Cluster.getStr_reads (row : CassRow Double) (col : Nat) :
    Triple (fun c : Cluster Double => c.tables = tables) (getStr row col)
      (fun s c => c.tables = tables ∧ s = (cassValueGetString (cassRowGetColumn row col)).toOption)
      fun _ _ => True := by
  intro c hc
  rw [getStr]
  cases cassValueGetString (cassRowGetColumn row col) with
  | ok s => exact ⟨hc, rfl⟩
  | error e =>
    cases c.unset c.readErrors with
    | none => exact ⟨hc, rfl⟩
    | some msg => trivial

theorem Cluster.getStr_keeps (row : CassRow Double) (col : Nat) :
    Triple (fun c : Cluster Double => c.tables = tables) (getStr row col)
      (fun _ c => c.tables = tables) fun _ _ => True :=
  (Cluster.getStr_reads row col).mono (fun _ h => h) (fun _ _ h => h.1) fun _ _ h => h

end Cassandra

def twoReads : BenchmarkConfig := { ConfigLoader.defaultConfig with readSampleSize := 2 }

/-- No index has been dropped, and no range query has followed the first one. -/
structure Stuck (calls : List (CallRecord Double σ)) : Prop where
  kept : ∀ r ∈ calls, r.call ≠ .dropSecondaryIndex
  asked : (calls.countP fun r => r.call.kind = some .rangeRead) ≤ 1

section Postgres

variable {db : DBInterface Double σ} {platform : Platform σ} {dataset : List (Order Double)}
  {config : BenchmarkConfig}

/-- Nothing has been asked in a window yet, and no index has been dropped. -/
def Unasked (calls : List (CallRecord Double σ)) : Prop :=
  ∀ r ∈ calls, r.call = .createSecondaryIndex

theorem unasked_start (world : σ) : Unasked (Bench.start world : Bench Double σ).calls :=
  List.forall_mem_nil _

theorem Unasked.stuck {calls : List (CallRecord Double σ)} (h : Unasked calls) : Stuck calls := by
  constructor
  · intro r hr
    rw [h r hr]
    intro hcall
    cases hcall
  · rw [List.countP_eq_zero.2]
    · exact Nat.zero_le 1
    · intro r hr
      rw [h r hr]
      simp [DbCall.kind]

theorem Unasked.stuck_concat {calls : List (CallRecord Double σ)} (h : Unasked calls)
    {r : CallRecord Double σ} (hr : r.call = .findByRange startDate endDate) :
    Stuck (calls ++ [r]) := by
  constructor
  · intro r' hr'
    rcases List.mem_append.1 hr' with hr' | hr'
    · exact h.stuck.kept r' hr'
    · rw [List.mem_singleton.1 hr', hr]
      intro hcall
      cases hcall
  · rw [List.countP_append, List.countP_eq_zero.2, Nat.zero_add]
    · exact List.countP_le_length
    · intro r' hr'
      rw [h r' hr']
      simp [DbCall.kind]

theorem step_stuck (platform : Platform σ) :
    Triple (fun b : Bench Double σ => Unasked b.calls) (step platform) (fun _ b => Unasked b.calls)
      fun _ b => Stuck b.calls :=
  outside_triple (fun _ _ _ hb _ => hb) fun _ _ _ hb _ => hb.stuck

theorem runWindow_throws (hname : db.getDbName ≠ lit "cassandra")
    (hrange : ∀ s, ∃ e s', db.findByRange [] [] s = .error e s') (hpos : 0 < config.readSampleSize)
    (userIds : List CppString) (windowDays : Int32) (recorder : LatencyRecorder) :
    Triple (fun b : Bench Double σ => Unasked b.calls)
      (Experiment5.runWindow db platform dataset config userIds windowDays recorder)
      (fun _ _ => False) fun _ b => Stuck b.calls := by
  have hquery (q : Nat) : Triple (fun b : Bench Double σ => Unasked b.calls)
      (Experiment5.query db platform dataset userIds windowDays q) (fun _ _ => False)
      fun _ b => Stuck b.calls := by
    rw [Experiment5.query, if_neg hname]
    apply callDb_triple
    · intro b rows s _ hok
      obtain ⟨e, s', herr⟩ := hrange b.world
      cases hok.symm.trans herr
    · intro b e s hb _
      exact hb.stuck_concat rfl
  have hturn (done : List Nat) (q : Nat) (rest : List Nat) (acc : LatencyRecorder × UInt64)
      (_ : done ++ q :: rest = List.range config.readSampleSize.toNat) :
      Triple (fun b : Bench Double σ => done = [] ∧ Unasked b.calls)
        (do step platform
            let r ← timed platform (Experiment5.query db platform dataset userIds windowDays q)
              acc.1
            return (r.2, acc.2 + UInt64.ofNat r.1.length))
        (fun _ b => done ++ [q] = [] ∧ Unasked b.calls) fun _ b => Stuck b.calls := by
    have htimed : Triple (fun b : Bench Double σ => Unasked b.calls)
        (timed platform (Experiment5.query db platform dataset userIds windowDays q) acc.1)
        (fun _ _ => False) fun _ b => Stuck b.calls := by
      apply (nowNs_triple platform).bind
      intro _
      exact (hquery q).bind fun _ _ hfalse => hfalse.elim
    apply Triple.bind (R := fun _ b => Unasked b.calls) ?_ fun _ => htimed.bind
      fun _ _ hfalse => hfalse.elim
    exact (step_stuck platform).mono (fun _ hb => hb.2) (fun _ _ hb => hb) fun _ _ hb => hb
  apply (step_stuck platform).bind
  intro _
  have hloop := Triple.foldlM hturn (platform.startTimer recorder, 0)
  apply (hloop.mono (fun _ hb => ⟨rfl, hb⟩) (fun _ _ hb => hb) fun _ _ hb => hb).bind
  intro acc b hb
  have hlength := congrArg List.length hb.1
  rw [List.length_range] at hlength
  exact absurd hlength (UInt64.lt_iff_toNat_lt.1 hpos).ne'

theorem execute_throws (hname : db.getDbName ≠ lit "cassandra")
    (hrange : ∀ s, ∃ e s', db.findByRange [] [] s = .error e s') (hpos : 0 < config.readSampleSize) :
    Triple (fun b : Bench Double σ => Unasked b.calls)
      (Experiment5.execute db platform dataset config) (fun _ _ => False)
      fun _ b => Stuck b.calls := by
  have hids : Triple (fun b : Bench Double σ => Unasked b.calls)
      (Experiment5.sampleCassandraUserIds db platform config) (fun _ b => Unasked b.calls)
      fun _ b => Stuck b.calls := by
    rw [Experiment5.sampleCassandraUserIds, if_neg hname]
    exact Triple.skip
  have hcreate : Triple (fun b : Bench Double σ => Unasked b.calls) (createSecondaryIndex db)
      (fun _ b => Unasked b.calls) fun _ b => Stuck b.calls := by
    have hconcat {calls : List (CallRecord Double σ)} (h : Unasked calls)
        {r : CallRecord Double σ} (hr : r.call = .createSecondaryIndex) : Unasked (calls ++ [r]) :=
      List.forall_mem_append.2 ⟨h, List.forall_mem_singleton.2 hr⟩
    apply callDb_triple
    · intro b _ s hb _
      exact hconcat hb rfl
    · intro b e s hb _
      exact (hconcat hb rfl).stuck
  have hsetup (x : ExperimentObject Experiment5Members) :
      Triple (fun b : Bench Double σ => Unasked b.calls) (Experiment5.setup db platform x)
        (fun _ b => Unasked b.calls) fun _ b => Stuck b.calls := by
    apply (step_stuck platform).bind
    intro _
    apply (step_stuck platform).bind
    intro _
    exact hcreate.bind fun _ => Triple.skip
  apply (hsetup _).bind
  intro x
  have hrun : Triple (fun b : Bench Double σ => Unasked b.calls)
      (Experiment5.run db platform dataset config
        { x with recorder := platform.startTimer x.recorder })
      (fun _ _ => False) fun _ b => Stuck b.calls := by
    apply (step_stuck platform).bind
    intro _
    apply hids.bind
    intro userIds
    apply (step_stuck platform).bind
    intro _
    exact (runWindow_throws hname hrange hpos userIds _ _).bind fun _ _ hfalse => hfalse.elim
  exact hrun.bind fun _ _ hfalse => hfalse.elim

/-- The server reads no timestamp in the empty string: on Postgres Experiment 5 never gets past its
first range query, whatever else happens, and never drops the index it has asked for. -/
theorem postgres_range_scan_throws [DecidableEq Value] {types : PostgresTypes Double Value}
    (hempty : types.input .createdAt [] = .error what) (instant : Value → ℚ)
    (rowToOrder : PostgresRow Value → Except CppString (OrderObject Double))
    {db : DBInterface Double (Table (@postgresKey Value))}
    (hname : db.getDbName ≠ lit "cassandra")
    (hrange : db.findByRange = PostgresClient.findByRange types instant rowToOrder)
    (hpos : 0 < config.readSampleSize) (platform : Platform (Table (@postgresKey Value)))
    (dataset : List (Order Double)) (orders : Table (@postgresKey Value)) :
    ∃ e b, Experiment5.execute db platform dataset config (.start orders) = .error e b ∧
      Stuck b.calls := by
  have hstart : Unasked (Bench.start orders : Bench Double _).calls := unasked_start orders
  have hthrows : ∀ t, ∃ e t', db.findByRange [] [] t = .error e t' := by
    intro t
    rw [hrange]
    exact ⟨what, t, bind_error (bind_error (parameter_error hempty))⟩
  cases hr : Experiment5.execute db platform dataset config (.start orders) with
  | ok x b =>
    exact ((execute_throws hname hthrows hpos).of_ok hstart hr).elim
  | error e b =>
    exact ⟨e, b, rfl, (execute_throws hname hthrows hpos).of_error hstart hr⟩

def timestampTypes : PostgresTypes Rat CppString where
  input column text :=
    if column = .createdAt ∧ text = [] then
      .error (lit "invalid input syntax for type timestamp with time zone")
    else orderTypes.input column text
  printDouble := orderTypes.printDouble

/-- The functions that have no body do nothing. -/
def idleInterface (rowToOrder : PostgresRow CppString → Except CppString (OrderObject Rat)) :
    DBInterface Rat (Table (@postgresKey CppString)) where
  connect := pure ()
  disconnect := pure ()
  insertOne := PostgresClient.insertOne timestampTypes
  insertBatch := PostgresClient.insertBatch timestampTypes
  deleteByPrimaryKey _ := pure ()
  findByPrimaryKey := PostgresClient.findByPrimaryKey timestampTypes rowToOrder
  findBySecondaryKey := PostgresClient.findBySecondaryKey timestampTypes .asStored rowToOrder
  findByRange := PostgresClient.findByRange timestampTypes readInstant rowToOrder
  clearTable := pure ()
  createSecondaryIndex := pure ()
  dropSecondaryIndex := pure ()
  getDbName := lit "postgres"

theorem postgres_range_scan_throws_twoReads : ∃ e b,
    Experiment5.execute (idleInterface fun _ => .ok .valueInit) .calm [] twoReads
      (.start .empty) = .error e b ∧ Stuck b.calls :=
  postgres_range_scan_throws rfl readInstant (fun _ => .ok .valueInit) (by decide) rfl (by decide)
    .calm [] .empty

end Postgres

end DbBenchmark
