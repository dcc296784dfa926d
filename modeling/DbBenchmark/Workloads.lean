import DbBenchmark.Plans
import DbBenchmark.WriteReadSymmetry

namespace DbBenchmark
open BenchM ExperimentBase LatencyRecorder Plans Throwing
set_option autoImplicit true

variable {Double σ Own α β : Type}

def issued (b : Bench Double σ) : List (DbCall Double × Bool) :=
  b.calls.map fun r => (r.call, r.returned)

section Rules

variable {platform : Platform σ} {plan next last : List (DbCall Double)}

theorem callDb_performs (call : DbCall Double) (answer : α → Option (OrderObject Double))
    (m : EStateM CppString σ α) : Performs issued [call] (callDb call answer m) fun _ => True := by
  intro before
  apply callDb_triple
  · intro b a s hb _
    refine ⟨?_, trivial⟩
    rw [issued, made, List.map_append, ← issued, hb]
    rfl
  · intro b e s hb _
    refine ⟨_, .during [] call [] rfl, ?_⟩
    rw [issued, made, List.map_append, ← issued, hb]
    rfl

theorem outside_silent (m : EStateM CppString σ α) :
    Silent issued (outside m : BenchM Double σ α) := fun before =>
  outside_calls (C := fun calls => calls.map (fun r => (r.call, r.returned)) = before) m

theorem step_silent (platform : Platform σ) :
    Silent issued (step platform : BenchM Double σ Unit) :=
  outside_silent platform.step

theorem nowNs_silent (platform : Platform σ) :
    Silent issued (nowNs platform : BenchM Double σ UInt64) := fun _ => nowNs_triple platform

theorem readNumber_silent (platform : Platform σ) (path : CppString) :
    Silent issued (readNumber platform path : BenchM Double σ UInt64) := fun _ =>
  readNumber_triple platform path

theorem divide_silent (a n : UInt64) : Silent issued (divide a n : BenchM Double σ UInt64) :=
  fun _ _ hb => hb

theorem timed_performs {call : BenchM Double σ α} {Q : α → Prop}
    (hcall : Performs issued plan call Q) (recorder : LatencyRecorder) :
    Performs issued plan (timed platform call recorder)
      fun ar => Q ar.1 ∧ ar.2.count = recorder.count + 1 := by
  apply Performs.bind_silent (nowNs_silent platform)
  intro t0
  have hrest (a : α) (ha : Q a) : Performs issued ([] : List (DbCall Double))
      (do let t1 ← nowNs platform
          step platform
          return (a, recorder.record ((t1 - t0) / 1000).toNat))
      (fun ar => Q ar.1 ∧ ar.2.count = recorder.count + 1) := by
    apply Performs.bind_silent (nowNs_silent platform)
    intro t1
    apply Performs.bind_silent (step_silent platform)
    exact fun _ => .pure ⟨ha, by simp [count, record]⟩
  exact (hcall.bind hrest).congr (List.append_nil plan)

theorem timedEach_performs {call : β → BenchM Double σ α} {request : β → DbCall Double}
    (hcall : ∀ x, Performs issued [request x] (call x) fun _ => True) (xs : List β)
    (recorder : LatencyRecorder) :
    Performs issued (xs.map request) (timedEach platform call xs recorder)
      fun recorder' => recorder'.count = recorder.count + xs.length := by
  have hturn (done : List β) (x : β) (rest : List β) (recorder' : LatencyRecorder)
      (_ : done ++ x :: rest = xs) (hcount : recorder'.count = recorder.count + done.length) :
      Performs issued [request x]
        (do let r ← timed platform (call x) recorder'
            return r.2)
        (fun recorder' => recorder'.count = recorder.count + (done ++ [x]).length) := by
    apply ((timed_performs (hcall x) recorder').bind fun ar har => .pure ?_).congr
      (List.append_nil _)
    rw [har.2, hcount, List.length_append, List.length_singleton, Nat.add_assoc]
  have hloop := Performs.foldlM
    (I := fun done (recorder' : LatencyRecorder) => recorder'.count = recorder.count + done.length)
    hturn rfl
  exact hloop.congr (List.map_eq_flatMap).symm

def Reports (x x' : ExperimentObject Own) : Prop :=
  x'.own = x.own ∧ ∃ now, x'.recorder = x.recorder.stopTimer now ∧
    let stats := x'.recorder.computeStats
    x'.result = { x.result with
      totalOps := stats.totalOps
      totalTimeMs := stats.totalTimeMs
      p50Us := stats.p50Us
      p95Us := stats.p95Us
      p99Us := stats.p99Us
      meanUs := stats.meanUs
      minUs := stats.minUs
      maxUs := stats.maxUs
      throughputOpsSec := stats.throughputOpsSec }

theorem execute_performs (platform : Platform σ) {e : ExperimentClass Double σ Own}
    {x : ExperimentObject Own} {R S : ExperimentObject Own → Prop}
    (hsetup : Performs issued plan (e.setup x) R)
    (hrun : ∀ x, R x →
      Performs issued next (e.run { x with recorder := platform.startTimer x.recorder }) S)
    (hteardown : ∀ x, Performs issued last (e.teardown x) fun _ => True) :
    Performs issued (plan ++ (next ++ last)) (ExperimentBase.execute platform e x)
      fun x' => ∃ x, Reports x x' ∧ S x := by
  apply hsetup.bind
  intro x₁ hx₁
  apply (hrun x₁ hx₁).bind
  intro x₂ hx₂
  apply Performs.bind_silent (nowNs_silent platform)
  intro now
  apply ((hteardown _).bind fun _ _ => .pure _).congr (List.append_nil last)
  exact fun _ _ => ⟨x₂, ⟨rfl, now, rfl, rfl⟩, hx₂⟩

/-- An experiment that measures with recorders of its own leaves `recorder_` empty. -/
theorem execute_performs_own (platform : Platform σ) {e : ExperimentClass Double σ Own}
    {x : ExperimentObject Own} {R S : ExperimentObject Own → Prop}
    (hsetup : Performs issued plan (e.setup x) fun x => x.recorder = .init ∧ R x)
    (hrun : ∀ x recorder, R x → Performs issued next (e.run { x with recorder := recorder })
      fun x' => x'.recorder = recorder ∧ S x')
    (hteardown : ∀ x, Performs issued last (e.teardown x) fun _ => True) :
    Performs issued (plan ++ (next ++ last)) (ExperimentBase.execute platform e x)
      fun x' => ∃ x, Reports x x' ∧ x.recorder.latenciesUs = [] ∧ S x := by
  apply execute_performs platform hsetup ?_ hteardown
  intro x₁ hx₁
  apply (hrun x₁ _ hx₁.2).imp
  intro x₂ hx₂
  refine ⟨?_, hx₂.2⟩
  rw [hx₂.1, platform.latenciesUs_startTimer, hx₁.1]
  rfl

theorem teardown_performs (x : ExperimentObject Own) :
    Performs issued [] (ExperimentBase.teardown x : BenchM Double σ Unit) fun _ => True :=
  .pure trivial

end Rules

variable (db : DBInterface Double σ) (platform : Platform σ) (dataset : List (Order Double))
  (config : BenchmarkConfig)

def sampleOf : List CppString :=
  if hne : dataset = [] then [] else sampledIds platform dataset hne config

def usersOf : List CppString :=
  draws platform (config.rngSeed ^^^ 0xDEADBEEF) (platform.userIdPool config.rngSeed)
    (platform.userIdPool_ne_nil config.rngSeed) config.readSampleSize.toNat

theorem sampleRandomOrders_performs : Performs issued ([] : List (DbCall Double))
    (sampleRandomOrders platform dataset config config.readSampleSize.toNat)
    fun sample => sample.map Order.orderId = sampleOf platform dataset config := by
  rw [sampleRandomOrders, sampleOf]
  split
  · exact performs_throw _ _
  · exact .pure rfl

theorem sampleUserIds_performs : Performs issued ([] : List (DbCall Double))
    (DataGenerator.sampleUserIds platform config.rngSeed config.readSampleSize.toNat)
    fun users => users = usersOf platform config := by
  rw [DataGenerator.sampleUserIds, dif_neg (platform.userIdPool_ne_nil config.rngSeed)]
  exact .pure rfl

namespace Experiment1

def requests : List (DbCall Double) :=
  .clearTable :: (dataset.take (rowsToLoad dataset config)).map .insertOne

theorem execute_performs : Performs issued (requests dataset config)
    (execute db platform dataset config) fun x' => ∃ x, Reports x x' ∧
      x.recorder.count = (dataset.take (rowsToLoad dataset config)).length := by
  have hsetup : Performs issued [.clearTable] (setup db (.init ()))
      (fun x => x.recorder.count = 0) :=
    (callDb_performs .clearTable _ _).bind fun _ _ => .pure rfl
  have hrun (x : ExperimentObject Unit) (hx : x.recorder.count = 0) :
      Performs issued ((dataset.take (rowsToLoad dataset config)).map .insertOne)
        (run db platform dataset config { x with recorder := platform.startTimer x.recorder })
        (fun x => x.recorder.count = (dataset.take (rowsToLoad dataset config)).length) := by
    apply ((timedEach_performs (fun o => callDb_performs (.insertOne o) _ _) _ _).bind
      fun recorder hcount => .pure ?_).congr (List.append_nil _)
    rw [hcount, count, platform.latenciesUs_startTimer, ← count, hx, Nat.zero_add]
  have hexecute := DbBenchmark.execute_performs platform
    (e := experiment db platform dataset config) hsetup hrun teardown_performs
  apply hexecute.congr
  rw [List.append_nil, requests, List.singleton_append]

end Experiment1

namespace Experiment3

def readIds : List CppString :=
  platform.shuffle (shuffleSeed config) 0 (sampleOf platform dataset config)

def requests : List (DbCall Double) :=
  .connect :: (readIds platform dataset config).map .findByPrimaryKey

theorem getContainerName_performs : Performs issued ([] : List (DbCall Double))
    (getContainerName db) fun _ => True := by
  rw [getContainerName]
  split_ifs
  · exact .pure trivial
  · exact .pure trivial
  · exact .pure trivial
  · exact performs_throw _ _

theorem flushCache_performs (container : CppString) : Performs issued ([] : List (DbCall Double))
    (flushCache platform container) fun _ => True := by
  apply Performs.bind_silent (outside_silent _)
  intro rc
  split
  · exact performs_throw _ _
  · exact .pure trivial

theorem setup_performs : Performs issued [.connect] (setup db platform dataset config (.init []))
    fun x => x.recorder.count = 0 ∧ x.own = readIds platform dataset config := by
  apply Performs.bind_silent (step_silent platform)
  intro _
  apply (sampleRandomOrders_performs platform dataset config).bind
  intro sample hsample
  apply Performs.bind_silent (step_silent platform)
  intro _
  apply Performs.bind_silent (step_silent platform)
  intro _
  apply (getContainerName_performs db).bind
  intro container _
  apply (flushCache_performs platform container).bind
  intro _ _
  apply ((callDb_performs .connect _ _).rethrow _).bind
  intro _ _
  apply Performs.bind_silent (step_silent platform)
  intro _
  apply Performs.pure
  refine ⟨rfl, ?_⟩
  rw [readIds, ← hsample]
  rfl

theorem execute_performs : Performs issued (requests platform dataset config)
    (execute db platform dataset config) fun x' => ∃ x, Reports x x' ∧
      x.recorder.count = (sampleOf platform dataset config).length := by
  have hrun (x : ExperimentObject (List CppString))
      (hx : x.recorder.count = 0 ∧ x.own = readIds platform dataset config) :
      Performs issued ((readIds platform dataset config).map .findByPrimaryKey)
        (run db platform { x with recorder := platform.startTimer x.recorder })
        (fun x => x.recorder.count = (sampleOf platform dataset config).length) := by
    rw [← hx.2]
    apply ((timedEach_performs (fun id => callDb_performs (.findByPrimaryKey id) _ _) _ _).bind
      fun recorder hcount => .pure ?_).congr (List.append_nil _)
    rw [hcount, count, platform.latenciesUs_startTimer, ← count, hx.1, Nat.zero_add, hx.2, readIds,
      (platform.shuffle_perm _ _ _).length_eq]
  have hexecute := DbBenchmark.execute_performs platform
    (e := experiment db platform dataset config) (setup_performs db platform dataset config) hrun
    teardown_performs
  apply hexecute.congr
  rw [List.append_nil, requests, List.singleton_append]

end Experiment3

namespace Experiment4

def primaryIds : List CppString :=
  platform.shuffle (shuffleSeed config) 0 (sampleOf platform dataset config)

def secondaryIds : List CppString :=
  platform.shuffle (shuffleSeed config) (sampleOf platform dataset config).length
    (usersOf platform config)

def requests : List (DbCall Double) :=
  .createSecondaryIndex :: (primaryIds platform dataset config).map .findByPrimaryKey ++
    ((secondaryIds platform dataset config).map .findBySecondaryKey ++ [.dropSecondaryIndex])

theorem setup_performs : Performs issued [.createSecondaryIndex]
    (setup db platform dataset config (.init .init)) fun x => x.recorder = .init ∧
      x.own = ⟨primaryIds platform dataset config, secondaryIds platform dataset config, .init,
        .init⟩ := by
  apply Performs.bind_silent (step_silent platform)
  intro _
  apply Performs.bind_silent (step_silent platform)
  intro _
  apply (sampleRandomOrders_performs platform dataset config).bind
  intro sample hsample
  apply Performs.bind_silent (step_silent platform)
  intro _
  apply Performs.bind_silent (step_silent platform)
  intro _
  apply (sampleUserIds_performs platform config).bind
  intro users husers
  apply Performs.bind_silent (step_silent platform)
  intro _
  apply (callDb_performs .createSecondaryIndex _ _).bind
  intro _ _
  apply Performs.bind_silent (step_silent platform)
  intro _
  apply Performs.pure
  refine ⟨rfl, ?_⟩
  rw [primaryIds, secondaryIds, ← hsample, ← husers]
  rfl

def Measured (x : ExperimentObject Experiment4Members) : Prop :=
  x.own.primaryRecorder.count = (sampleOf platform dataset config).length ∧
    x.own.secondaryRecorder.count = config.readSampleSize.toNat

theorem length_secondaryIds :
    (secondaryIds platform dataset config).length = config.readSampleSize.toNat := by
  rw [secondaryIds, (platform.shuffle_perm _ _ _).length_eq, usersOf, draws, List.length_map,
    List.length_range]

theorem run_performs {x : ExperimentObject Experiment4Members}
    (hx : x.own = ⟨primaryIds platform dataset config, secondaryIds platform dataset config, .init,
      .init⟩) :
    Performs issued ((primaryIds platform dataset config).map .findByPrimaryKey ++
        (secondaryIds platform dataset config).map .findBySecondaryKey) (run db platform x)
      fun x' => x'.recorder = x.recorder ∧ Measured platform dataset config x' := by
  rw [run, hx]
  apply Performs.bind_silent (step_silent platform)
  intro _
  apply (timedEach_performs (fun id => callDb_performs (.findByPrimaryKey id) _ _) _ _).bind
  intro primary hprimary
  apply Performs.bind_silent (nowNs_silent platform)
  intro _
  apply Performs.bind_silent (step_silent platform)
  intro _
  apply ((timedEach_performs (fun id => callDb_performs (.findBySecondaryKey id) _ _) _ _).bind
    fun secondary hsecondary => Performs.bind_silent (nowNs_silent platform) fun _ =>
      .pure ?_).congr (List.append_nil _)
  refine ⟨rfl, ?_, ?_⟩
  · change primary.count = _
    rw [hprimary, count, platform.latenciesUs_startTimer, primaryIds,
      (platform.shuffle_perm _ _ _).length_eq]
    exact Nat.zero_add _
  · change secondary.count = _
    rw [hsecondary, count, platform.latenciesUs_startTimer, length_secondaryIds]
    exact Nat.zero_add _

theorem execute_performs : Performs issued (requests platform dataset config)
    (execute db platform dataset config) fun x' => ∃ x, Reports x x' ∧
      x.recorder.latenciesUs = [] ∧ Measured platform dataset config x := by
  have hrun (x : ExperimentObject Experiment4Members) (recorder : LatencyRecorder)
      (hx : x.own = ⟨primaryIds platform dataset config, secondaryIds platform dataset config,
        .init, .init⟩) :=
    run_performs db platform dataset config (x := { x with recorder := recorder }) hx
  have hteardown (x : ExperimentObject Experiment4Members) :
      Performs issued [.dropSecondaryIndex] (teardown db platform x) (fun _ => True) :=
    Performs.bind_silent (step_silent platform) fun _ => callDb_performs _ _ _
  have hexecute := execute_performs_own platform (e := experiment db platform dataset config)
    (setup_performs db platform dataset config) hrun hteardown
  apply hexecute.congr
  rw [requests, List.singleton_append, List.cons_append, List.append_assoc]

end Experiment4

namespace Experiment5

def partitionIds : List CppString :=
  if db.getDbName = lit "cassandra" then
    platform.shuffle (config.rngSeed ^^^ 0x12345678ABCDEF) 0 (usersOf platform config)
  else []

def queryRequest (userIds : List CppString) (windowDays : Int32) (q : Nat) : DbCall Double :=
  if db.getDbName = lit "cassandra" then .findBySecondaryKey (userIds.getD q [])
  else
    let dates := DataGenerator.generateDateRange dataset windowDays
    .findByRange dates.1 dates.2

def windowRequests (windowDays : Int32) : List (DbCall Double) :=
  (List.range config.readSampleSize.toNat).map
    (queryRequest db dataset (partitionIds db platform config) windowDays)

def requests : List (DbCall Double) :=
  .createSecondaryIndex :: (windowRequests db platform dataset config config.rangeWindowSmall ++
    (windowRequests db platform dataset config config.rangeWindowMedium ++
      windowRequests db platform dataset config config.rangeWindowLarge) ++ [.dropSecondaryIndex])

theorem query_performs (userIds : List CppString) (windowDays : Int32) (q : Nat) :
    Performs issued [queryRequest db dataset userIds windowDays q]
      (query db platform dataset userIds windowDays q) fun _ => True := by
  rw [query, queryRequest]
  split
  · apply ((callDb_performs _ _ _).bind fun _ _ => Performs.bind_silent (step_silent platform)
      fun _ => .pure trivial).congr (List.append_nil _)
  · exact callDb_performs _ _ _

theorem runWindow_performs (windowDays : Int32) (recorder : LatencyRecorder) :
    Performs issued (windowRequests db platform dataset config windowDays)
      (runWindow db platform dataset config (partitionIds db platform config) windowDays recorder)
      fun r => r.1.count = recorder.count + config.readSampleSize.toNat := by
  have hturn (done : List Nat) (q : Nat) (rest : List Nat) (acc : LatencyRecorder × UInt64)
      (_ : done ++ q :: rest = List.range config.readSampleSize.toNat)
      (hcount : acc.1.count = recorder.count + done.length) :
      Performs issued
        [queryRequest db dataset (partitionIds db platform config) windowDays q]
        (do step platform
            let r ← timed platform
              (query db platform dataset (partitionIds db platform config) windowDays q) acc.1
            return (r.2, acc.2 + UInt64.ofNat r.1.length))
        (fun acc => acc.1.count = recorder.count + (done ++ [q]).length) := by
    apply Performs.bind_silent (step_silent platform)
    intro _
    apply ((timed_performs (query_performs db platform dataset _ windowDays q) acc.1).bind
      fun ar har => .pure ?_).congr (List.append_nil _)
    rw [har.2, hcount, List.length_append, List.length_singleton, Nat.add_assoc]
  apply Performs.bind_silent (step_silent platform)
  intro _
  have hstart : (platform.startTimer recorder).count = recorder.count + 0 := by
    rw [count, platform.latenciesUs_startTimer, ← count, Nat.add_zero]
  have hloop := Performs.foldlM (I := fun done (acc : LatencyRecorder × UInt64) =>
    acc.1.count = recorder.count + done.length) hturn (a := (platform.startTimer recorder, 0))
    hstart
  rw [windowRequests, List.map_eq_flatMap]
  apply (hloop.bind fun acc hacc => Performs.bind_silent (nowNs_silent platform) fun _ =>
    .pure ?_).congr (List.append_nil _)
  rw [List.length_range] at hacc
  exact hacc

theorem sampleCassandraUserIds_performs : Performs issued ([] : List (DbCall Double))
    (sampleCassandraUserIds db platform config)
    fun ids => ids = partitionIds db platform config := by
  rw [sampleCassandraUserIds, partitionIds]
  split
  · exact (sampleUserIds_performs platform config).bind fun _ husers => .pure (by rw [husers])
  · exact .pure rfl

def Measured (x : ExperimentObject Experiment5Members) : Prop :=
  x.own.smallRecorder.count = config.readSampleSize.toNat ∧
    x.own.mediumRecorder.count = config.readSampleSize.toNat ∧
      x.own.largeRecorder.count = config.readSampleSize.toNat

theorem run_performs {x : ExperimentObject Experiment5Members} (hx : x.own = .init) :
    Performs issued (windowRequests db platform dataset config config.rangeWindowSmall ++
        (windowRequests db platform dataset config config.rangeWindowMedium ++
          windowRequests db platform dataset config config.rangeWindowLarge))
      (run db platform dataset config x)
      fun x' => x'.recorder = x.recorder ∧ Measured config x' := by
  rw [run, hx]
  apply Performs.bind_silent (step_silent platform)
  intro _
  apply (sampleCassandraUserIds_performs db platform config).bind
  intro _ hids
  rw [hids]
  apply Performs.bind_silent (step_silent platform)
  intro _
  apply (runWindow_performs db platform dataset config config.rangeWindowSmall _).bind
  intro small hsmall
  apply Performs.bind_silent (divide_silent _ _)
  intro _
  apply Performs.bind_silent (step_silent platform)
  intro _
  apply (runWindow_performs db platform dataset config config.rangeWindowMedium _).bind
  intro medium hmedium
  apply Performs.bind_silent (divide_silent _ _)
  intro _
  apply Performs.bind_silent (step_silent platform)
  intro _
  apply ((runWindow_performs db platform dataset config config.rangeWindowLarge _).bind
    fun large hlarge => Performs.bind_silent (divide_silent _ _) fun _ => .pure ?_).congr
      (List.append_nil _)
  exact ⟨rfl, hsmall.trans (Nat.zero_add _), hmedium.trans (Nat.zero_add _),
    hlarge.trans (Nat.zero_add _)⟩

theorem execute_performs : Performs issued (requests db platform dataset config)
    (execute db platform dataset config) fun x' => ∃ x, Reports x x' ∧
      x.recorder.latenciesUs = [] ∧ Measured config x := by
  have hsetup : Performs issued [.createSecondaryIndex] (setup db platform (.init .init))
      (fun x => x.recorder = .init ∧ x.own = .init) := by
    apply Performs.bind_silent (step_silent platform)
    intro _
    apply Performs.bind_silent (step_silent platform)
    intro _
    exact (callDb_performs _ _ _).bind fun _ _ => .pure ⟨rfl, rfl⟩
  have hrun (x : ExperimentObject Experiment5Members) (recorder : LatencyRecorder)
      (hx : x.own = .init) :=
    run_performs db platform dataset config (x := { x with recorder := recorder }) hx
  exact execute_performs_own platform (e := experiment db platform dataset config) hsetup hrun
    fun x => callDb_performs .dropSecondaryIndex _ _

end Experiment5

namespace Experiment6

def readIds : List CppString :=
  platform.shuffle (shuffleSeed config) 0 (sampleOf platform dataset config)

def requests : List (DbCall Double) :=
  if db.getDbName = lit "cassandra" then
    (readIds platform dataset config).map .findByPrimaryKey ++
      (readIds platform dataset config).map .findByPrimaryKey
  else []

theorem getSstableCount_performs : Performs issued ([] : List (DbCall Double))
    (getSstableCount platform) fun _ => True := by
  apply Performs.bind_silent (outside_silent _)
  intro rc
  split
  · exact Performs.bind_silent (step_silent platform) fun _ => .pure trivial
  · exact (readNumber_silent platform _).performs

theorem runCompaction_performs : Performs issued ([] : List (DbCall Double))
    (runCompaction platform) fun _ => True := by
  apply Performs.bind_silent (outside_silent _)
  intro rc
  split
  · exact performs_throw _ _
  · exact .pure trivial

theorem setup_performs (hdb : db.getDbName = lit "cassandra") :
    Performs issued [] (setup db platform dataset config (.init .init)) fun x =>
      x.recorder = .init ∧ ∃ sstables, x.own =
        ⟨false, readIds platform dataset config, .init, .init, sstables, 0⟩ := by
  apply Performs.bind_silent (step_silent platform)
  intro _
  rw [if_neg (not_not.2 hdb)]
  apply (sampleRandomOrders_performs platform dataset config).bind
  intro sample hsample
  apply Performs.bind_silent (step_silent platform)
  intro _
  apply (getSstableCount_performs platform).bind
  intro sstables _
  apply Performs.bind_silent (step_silent platform)
  intro _
  apply Performs.pure
  refine ⟨rfl, sstables, ?_⟩
  rw [readIds, ← hsample]
  rfl

def Measured (x : ExperimentObject Experiment6Members) : Prop :=
  x.own.shouldSkip = false ∧
    x.own.beforeRecorder.count = (sampleOf platform dataset config).length ∧
      x.own.afterRecorder.count = (sampleOf platform dataset config).length

theorem run_performs {x : ExperimentObject Experiment6Members}
    (hx : x.own = ⟨false, readIds platform dataset config, .init, .init, sstables, 0⟩) :
    Performs issued ((readIds platform dataset config).map .findByPrimaryKey ++
        (readIds platform dataset config).map .findByPrimaryKey) (run db platform x)
      fun x' => x'.recorder = x.recorder ∧ Measured platform dataset config x' := by
  rw [run, hx]
  apply Performs.bind_silent (step_silent platform)
  intro _
  apply (timedEach_performs (fun id => callDb_performs (.findByPrimaryKey id) _ _) _ _).bind
  intro before hbefore
  apply Performs.bind_silent (nowNs_silent platform)
  intro _
  apply Performs.bind_silent (step_silent platform)
  intro _
  apply (runCompaction_performs platform).bind
  intro _ _
  apply (getSstableCount_performs platform).bind
  intro _ _
  apply Performs.bind_silent (step_silent platform)
  intro _
  apply ((timedEach_performs (fun id => callDb_performs (.findByPrimaryKey id) _ _) _ _).bind
    fun after hafter => Performs.bind_silent (nowNs_silent platform) fun _ => .pure ?_).congr
      (List.append_nil _)
  have hlength : (readIds platform dataset config).length =
      (sampleOf platform dataset config).length := (platform.shuffle_perm _ _ _).length_eq
  have hcount (r : LatencyRecorder) (h : r.count = (platform.startTimer .init).count +
      (readIds platform dataset config).length) :
      r.count = (sampleOf platform dataset config).length := by
    rw [h, count, platform.latenciesUs_startTimer, hlength]
    exact Nat.zero_add _
  exact ⟨rfl, rfl, hcount before hbefore, hcount after hafter⟩

theorem execute_performs (hdb : db.getDbName = lit "cassandra") :
    Performs issued (requests db platform dataset config) (execute db platform dataset config)
      fun x' => ∃ x, Reports x x' ∧ x.recorder.latenciesUs = [] ∧
        Measured platform dataset config x := by
  have hrun (x : ExperimentObject Experiment6Members) (recorder : LatencyRecorder)
      (hx : ∃ sstables, x.own =
        ⟨false, readIds platform dataset config, .init, .init, sstables, 0⟩) :
      Performs issued ((readIds platform dataset config).map .findByPrimaryKey ++
          (readIds platform dataset config).map .findByPrimaryKey)
        (run db platform { x with recorder := recorder })
        (fun x' => x'.recorder = recorder ∧ Measured platform dataset config x') := by
    obtain ⟨sstables, hown⟩ := hx
    exact run_performs db platform dataset config (x := { x with recorder := recorder }) hown
  have hexecute := execute_performs_own platform (e := experiment db platform dataset config)
    (setup_performs db platform dataset config hdb) hrun teardown_performs
  apply hexecute.congr
  rw [List.nil_append, List.append_nil, requests, if_pos hdb]

/-- Elsewhere nothing is asked and nothing measured. -/
theorem execute_skips (hdb : db.getDbName ≠ lit "cassandra") :
    Performs issued (requests db platform dataset config) (execute db platform dataset config)
      fun x' => ∃ x, Reports x x' ∧ x.recorder.latenciesUs = [] ∧ x.own.shouldSkip = true := by
  have hsetup : Performs issued [] (setup db platform dataset config (.init .init))
      (fun x => x.recorder = .init ∧ x.own.shouldSkip = true) := by
    apply Performs.bind_silent (step_silent platform)
    intro _
    rw [if_pos hdb]
    exact Performs.bind_silent (step_silent platform) fun _ => .pure ⟨rfl, rfl⟩
  have hrun (x : ExperimentObject Experiment6Members) (recorder : LatencyRecorder)
      (hx : x.own.shouldSkip = true) :
      Performs issued [] (run db platform { x with recorder := recorder })
        (fun x' => x'.recorder = recorder ∧ x'.own.shouldSkip = true) := by
    rw [run, if_pos hx]
    exact .pure ⟨rfl, hx⟩
  have hexecute := execute_performs_own platform (e := experiment db platform dataset config)
    hsetup hrun teardown_performs
  apply hexecute.congr
  rw [requests, if_neg hdb]
  rfl

end Experiment6

namespace Experiment7

variable (printFixed : Nat → ℚ → CppString)

def runRequests (run : Fin numRuns) : List (DbCall Double) :=
  let orders := dataset.take (rowsToLoad dataset config)
  runCalls orders (idsToRead platform config (run.val + 1) (orders.map Order.orderId))

def requests : List (DbCall Double) :=
  (List.finRange numRuns).flatMap (runRequests platform dataset config)

theorem writePhase_performs (runNumber : Nat) (recorder : LatencyRecorder) :
    Performs issued ((dataset.take (rowsToLoad dataset config)).map .insertOne)
      (writePhase db platform dataset config runNumber recorder) fun written =>
        written.2 = (dataset.take (rowsToLoad dataset config)).map Order.orderId := by
  apply Performs.bind_silent (step_silent platform)
  intro _
  have hturn (done : List (Order Double)) (o : Order Double) (rest : List (Order Double))
      (acc : LatencyRecorder × List CppString)
      (_ : done ++ o :: rest = dataset.take (rowsToLoad dataset config))
      (hacc : acc.2 = done.map Order.orderId) :
      Performs issued [.insertOne o] (writeOrder db platform acc o)
        (fun acc => acc.2 = (done ++ [o]).map Order.orderId) := by
    apply ((timed_performs (callDb_performs (.insertOne o) _ _) acc.1).bind fun _ _ =>
      Performs.bind_silent (step_silent platform) fun _ => .pure ?_).congr (List.append_nil _)
    rw [List.map_append, ← hacc]
    rfl
  have hloop := Performs.foldlM (I := fun done (acc : LatencyRecorder × List CppString) =>
    acc.2 = done.map Order.orderId) hturn (a := (platform.startTimer recorder, [])) rfl
  rw [List.map_eq_flatMap]
  exact (hloop.bind fun acc hacc => Performs.bind_silent (nowNs_silent platform) fun _ =>
    Performs.bind_silent (step_silent platform) fun _ => .pure hacc).congr (List.append_nil _)

theorem flushCache_performs : Performs issued ([] : List (DbCall Double))
    (flushCache db platform) fun _ => True := by
  have hcontainer : Performs issued ([] : List (DbCall Double)) (container db)
      (fun _ => True) := by
    rw [container]
    split_ifs
    · exact .pure trivial
    · exact .pure trivial
    · exact .pure trivial
    · exact performs_throw _ _
  apply hcontainer.bind
  intro container _
  apply Performs.bind_silent (outside_silent _)
  intro rc
  split
  · exact performs_throw _ _
  · exact .pure trivial

theorem readPhase_performs (runNumber : Nat) (recorder : LatencyRecorder) (ids : List CppString) :
    Performs issued ((idsToRead platform config runNumber ids).map .findByPrimaryKey)
      (readPhase db platform config runNumber recorder ids) fun _ => True := by
  apply Performs.bind_silent (step_silent platform)
  intro _
  exact ((timedEach_performs (fun id => callDb_performs (.findByPrimaryKey id) _ _) _ _).bind
    fun _ _ => Performs.bind_silent (nowNs_silent platform) fun _ =>
      Performs.bind_silent (step_silent platform) fun _ => .pure trivial).congr (List.append_nil _)

theorem runOnce_performs (x : ExperimentObject Experiment7Members) (run : Fin numRuns) :
    Performs issued (runRequests platform dataset config run)
      (runOnce db platform dataset config x run) fun _ => True := by
  rw [runRequests, runCalls, List.append_assoc, List.append_assoc]
  apply Performs.bind_silent (step_silent platform)
  intro _
  apply (callDb_performs .clearTable _ _).bind
  intro _ _
  apply Performs.bind_silent (step_silent platform)
  intro _
  apply (writePhase_performs db platform dataset config _ _).bind
  intro written hwritten
  apply Performs.bind_silent (step_silent platform)
  intro _
  apply (flushCache_performs db platform).bind
  intro _ _
  apply (callDb_performs .connect _ _).bind
  intro _ _
  apply Performs.bind_silent (step_silent platform)
  intro _
  rw [← hwritten]
  exact ((readPhase_performs db platform config _ _ _).bind fun _ _ =>
    Performs.bind_silent (step_silent platform) fun _ => .pure trivial).congr (List.append_nil _)

theorem run_performs (x : ExperimentObject Experiment7Members) :
    Performs issued (requests platform dataset config)
      (run db platform dataset config printFixed x) fun _ => True := by
  have hloop := Performs.foldlM (I := fun _ _ => True) (a := x)
    (fun done run rest x (_ : done ++ run :: rest = List.finRange numRuns) _ =>
      runOnce_performs db platform dataset config x run) trivial
  exact (hloop.bind fun _ _ => Performs.bind_silent (step_silent platform) fun _ =>
    .pure trivial).congr (List.append_nil _)

end Experiment7

end DbBenchmark
