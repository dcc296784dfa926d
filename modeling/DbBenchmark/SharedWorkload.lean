import DbBenchmark.Workloads

namespace DbBenchmark
open BenchM ExperimentBase Plans Throwing
set_option autoImplicit true

variable {Double σ σ' α : Type}

/-- The run asks for `plan` and was answered throughout, or an exception has cut it short. -/
structure Asks (m : BenchM Double σ α) (plan : List (DbCall Double)) : Prop where
  returns : ∀ world x b, m (.start world) = .ok x b → issued b = answered plan
  throws : ∀ world e b, m (.start world) = .error e b → CutShort plan (issued b)

theorem Asks.of_performs {m : BenchM Double σ α} (h : Performs issued plan m Q) : Asks m plan where
  returns _ _ _ hr := (h.of_ok hr).1
  throws world e b hr := by
    obtain ⟨made, hmade, hissued⟩ := h.of_error hr
    rw [hissued]
    exact hmade

section Experiments

variable (db : DBInterface Double σ) (platform : Platform σ) (dataset : List (Order Double))
  (config : BenchmarkConfig)

theorem experiment6_performs : ∃ Q, Performs issued
    (Experiment6.requests db platform dataset config)
    (Experiment6.execute db platform dataset config) Q := by
  by_cases hdb : db.getDbName = lit "cassandra"
  · exact ⟨_, Experiment6.execute_performs db platform dataset config hdb⟩
  · exact ⟨_, Experiment6.execute_skips db platform dataset config hdb⟩

theorem experiment6_asks : Asks (Experiment6.execute db platform dataset config)
    (Experiment6.requests db platform dataset config) := by
  obtain ⟨Q, hperforms⟩ := experiment6_performs db platform dataset config
  exact .of_performs hperforms

/-- No answer of the database and no reading of the clock changes what is asked next. Without a
sample size the range scan divides by zero. -/
theorem requests_settled :
    Asks (Experiment1.execute db platform dataset config) (Experiment1.requests dataset config) ∧
    Asks (Experiment3.execute db platform dataset config)
      (Experiment3.requests platform dataset config) ∧
    Asks (Experiment4.execute db platform dataset config)
      (Experiment4.requests platform dataset config) ∧
    (0 < config.readSampleSize → Asks (Experiment5.execute db platform dataset config)
      (Experiment5.requests db platform dataset config)) ∧
    Asks (Experiment6.execute db platform dataset config)
      (Experiment6.requests db platform dataset config) ∧
    ∀ printFixed x, Asks (Experiment7.run db platform dataset config printFixed x)
      (Experiment7.requests platform dataset config) :=
  ⟨.of_performs (Experiment1.execute_performs db platform dataset config),
    .of_performs (Experiment3.execute_performs db platform dataset config),
    .of_performs (Experiment4.execute_performs db platform dataset config),
    fun _ => .of_performs (Experiment5.execute_performs db platform dataset config),
    experiment6_asks db platform dataset config,
    fun printFixed x => .of_performs
      (Experiment7.run_performs db platform dataset config printFixed x)⟩

end Experiments

/-- The generators of two processes yield the same for the same seed. -/
structure SameGenerators (platform : Platform σ) (platform' : Platform σ') : Prop where
  draw : platform.draw = platform'.draw
  shuffle : platform.shuffle = platform'.shuffle
  userIdPool : platform.userIdPool = platform'.userIdPool

section Generators

variable {platform : Platform σ} {platform' : Platform σ'}

theorem SameGenerators.draws (h : SameGenerators platform platform') (seed : UInt64)
    {pool pool' : List α} (hpool : pool = pool') (hne : pool ≠ []) (hne' : pool' ≠ []) (n : Nat) :
    ExperimentBase.draws platform seed pool hne n =
      ExperimentBase.draws platform' seed pool' hne' n := by
  subst hpool
  apply List.map_congr_left
  intro i _
  congr 2
  rw [h.draw]

theorem SameGenerators.sampleOf (h : SameGenerators platform platform')
    (dataset : List (Order Double)) (config : BenchmarkConfig) :
    DbBenchmark.sampleOf platform dataset config = DbBenchmark.sampleOf platform' dataset config := by
  rw [DbBenchmark.sampleOf, DbBenchmark.sampleOf]
  split
  · rfl
  · rw [sampledIds, sampledIds, h.draws _ rfl]

theorem SameGenerators.usersOf (h : SameGenerators platform platform') (config : BenchmarkConfig) :
    DbBenchmark.usersOf platform config = DbBenchmark.usersOf platform' config :=
  h.draws _ (congrFun h.userIdPool _) _ _ _

theorem SameGenerators.experiment3_requests (h : SameGenerators platform platform')
    (dataset : List (Order Double)) (config : BenchmarkConfig) :
    Experiment3.requests platform dataset config =
      Experiment3.requests platform' dataset config := by
  rw [Experiment3.requests, Experiment3.requests, Experiment3.readIds, Experiment3.readIds,
    h.sampleOf, h.shuffle]

theorem SameGenerators.experiment4_requests (h : SameGenerators platform platform')
    (dataset : List (Order Double)) (config : BenchmarkConfig) :
    Experiment4.requests platform dataset config =
      Experiment4.requests platform' dataset config := by
  rw [Experiment4.requests, Experiment4.requests, Experiment4.primaryIds, Experiment4.primaryIds,
    Experiment4.secondaryIds, Experiment4.secondaryIds, h.sampleOf, h.usersOf, h.shuffle]

theorem SameGenerators.experiment5_requests (h : SameGenerators platform platform')
    {db : DBInterface Double σ} {db' : DBInterface Double σ'}
    (hname : db.getDbName = lit "cassandra" ↔ db'.getDbName = lit "cassandra")
    (dataset : List (Order Double)) (config : BenchmarkConfig) :
    Experiment5.requests db platform dataset config =
      Experiment5.requests db' platform' dataset config := by
  have hids : Experiment5.partitionIds db platform config =
      Experiment5.partitionIds db' platform' config := by
    simp only [Experiment5.partitionIds, hname, h.usersOf, h.shuffle]
  have hquery : Experiment5.queryRequest db dataset = Experiment5.queryRequest db' dataset := by
    funext userIds windowDays q
    simp only [Experiment5.queryRequest, hname]
  simp only [Experiment5.requests, Experiment5.windowRequests, hids, hquery]

theorem SameGenerators.experiment7_requests (h : SameGenerators platform platform')
    (dataset : List (Order Double)) (config : BenchmarkConfig) :
    Experiment7.requests platform dataset config =
      Experiment7.requests platform' dataset config := by
  have hruns : Experiment7.runRequests platform dataset config =
      Experiment7.runRequests platform' dataset config := by
    funext run
    simp only [Experiment7.runRequests, Experiment7.idsToRead, h.shuffle]
  rw [Experiment7.requests, Experiment7.requests, hruns]

def AskAlike (m : BenchM Double σ α) (m' : BenchM Double σ' α) : Prop :=
  ∀ world world' x x' b b', m (.start world) = .ok x b → m' (.start world') = .ok x' b' →
    issued b = issued b'

theorem Asks.alike {m : BenchM Double σ α} {m' : BenchM Double σ' α} (h : Asks m plan)
    (h' : Asks m' plan') (hplan : plan = plan') : AskAlike m m' := by
  intro world world' x x' b b' hr hr'
  rw [h.returns world x b hr, h'.returns world' x' b' hr', hplan]

end Generators

def DbCall.lookup : DbCall Double → Option CppString
  | .findByPrimaryKey orderId => some orderId
  | _ => none

theorem lookups_eq (b : Bench Double σ) :
    lookups b.calls = ((issued b).map Prod.fst).filterMap DbCall.lookup := by
  rw [lookups, issued, List.map_map, List.filterMap_map]
  congr 1

theorem Asks.lookups {m : BenchM Double σ α} (h : Asks m plan)
    (hr : m (.start world) = .ok x b) : lookups b.calls = plan.filterMap DbCall.lookup := by
  rw [lookups_eq, h.returns world x b hr, map_fst_answered]

theorem filterMap_lookup_findByPrimaryKey (ids : List CppString) :
    (ids.map .findByPrimaryKey : List (DbCall Double)).filterMap DbCall.lookup = ids := by
  rw [List.filterMap_map]
  exact List.filterMap_some

structure SameWorkload (db : DBInterface Double σ) (platform : Platform σ)
    (db' : DBInterface Double σ') (platform' : Platform σ') (dataset : List (Order Double))
    (config : BenchmarkConfig) : Prop where
  experiment1 : AskAlike (Experiment1.execute db platform dataset config)
    (Experiment1.execute db' platform' dataset config)
  experiment3 : AskAlike (Experiment3.execute db platform dataset config)
    (Experiment3.execute db' platform' dataset config)
  experiment4 : AskAlike (Experiment4.execute db platform dataset config)
    (Experiment4.execute db' platform' dataset config)
  experiment5 : 0 < config.readSampleSize →
    (db.getDbName = lit "cassandra" ↔ db'.getDbName = lit "cassandra") →
    AskAlike (Experiment5.execute db platform dataset config)
      (Experiment5.execute db' platform' dataset config)
  experiment7 : ∀ printFixed x, AskAlike (Experiment7.run db platform dataset config printFixed x)
    (Experiment7.run db' platform' dataset config printFixed x)
  /-- Experiment 4 looks up the orders of Experiment 3. -/
  sample : ∀ world world' x x' b b',
    Experiment3.execute db platform dataset config (.start world) = .ok x b →
    Experiment4.execute db' platform' dataset config (.start world') = .ok x' b' →
    (lookups b'.calls).Perm (lookups b.calls)
  /-- So does Experiment 6 where it is not skipped, twice in one order. -/
  compaction : ∀ world world' x x' b b', db'.getDbName = lit "cassandra" →
    Experiment3.execute db platform dataset config (.start world) = .ok x b →
    Experiment6.execute db' platform' dataset config (.start world') = .ok x' b' →
    ∃ ids, lookups b'.calls = ids ++ ids ∧ ids.Perm (lookups b.calls)

section Workload

variable {db : DBInterface Double σ} {db' : DBInterface Double σ'} {platform : Platform σ}
  {platform' : Platform σ'} {dataset : List (Order Double)} {config : BenchmarkConfig}

theorem experiment3_lookups_perm
    (hr : Experiment3.execute db platform dataset config (.start world) = .ok x b) :
    (lookups b.calls).Perm (sampleOf platform dataset config) := by
  have hasks := Asks.of_performs (Experiment3.execute_performs db platform dataset config)
  rw [hasks.lookups hr, Experiment3.requests, List.filterMap_cons_none rfl,
    filterMap_lookup_findByPrimaryKey, Experiment3.readIds]
  exact platform.shuffle_perm _ _ _

theorem experiment4_lookups_perm
    (hr : Experiment4.execute db platform dataset config (.start world) = .ok x b) :
    (lookups b.calls).Perm (sampleOf platform dataset config) := by
  have hasks := Asks.of_performs (Experiment4.execute_performs db platform dataset config)
  have hrest : ((Experiment4.secondaryIds platform dataset config).map .findBySecondaryKey ++
      [.dropSecondaryIndex] : List (DbCall Double)).filterMap DbCall.lookup = [] := by
    rw [List.filterMap_append, List.filterMap_map, List.append_eq_nil_iff]
    exact ⟨List.filterMap_eq_nil_iff.2 fun _ _ => rfl, rfl⟩
  rw [hasks.lookups hr, Experiment4.requests, List.cons_append, List.filterMap_cons_none rfl,
    List.filterMap_append, filterMap_lookup_findByPrimaryKey, hrest, List.append_nil,
    Experiment4.primaryIds]
  exact platform.shuffle_perm _ _ _

theorem experiment6_lookups_twice (hdb : db.getDbName = lit "cassandra")
    (hr : Experiment6.execute db platform dataset config (.start world) = .ok x b) :
    ∃ ids, lookups b.calls = ids ++ ids ∧ ids.Perm (sampleOf platform dataset config) := by
  refine ⟨Experiment6.readIds platform dataset config, ?_, platform.shuffle_perm _ _ _⟩
  rw [(experiment6_asks db platform dataset config).lookups hr, Experiment6.requests, if_pos hdb,
    List.filterMap_append, filterMap_lookup_findByPrimaryKey]

theorem workload_reproduced (h : SameGenerators platform platform')
    (db : DBInterface Double σ) (db' : DBInterface Double σ') (dataset : List (Order Double))
    (config : BenchmarkConfig) : SameWorkload db platform db' platform' dataset config where
  experiment1 := (Asks.of_performs (Experiment1.execute_performs db platform dataset config)).alike
    (.of_performs (Experiment1.execute_performs db' platform' dataset config)) rfl
  experiment3 := (Asks.of_performs (Experiment3.execute_performs db platform dataset config)).alike
    (.of_performs (Experiment3.execute_performs db' platform' dataset config))
    (h.experiment3_requests dataset config)
  experiment4 := (Asks.of_performs (Experiment4.execute_performs db platform dataset config)).alike
    (.of_performs (Experiment4.execute_performs db' platform' dataset config))
    (h.experiment4_requests dataset config)
  experiment5 _ hname :=
    (Asks.of_performs (Experiment5.execute_performs db platform dataset config)).alike
      (.of_performs (Experiment5.execute_performs db' platform' dataset config))
      (h.experiment5_requests hname dataset config)
  experiment7 printFixed x :=
    (Asks.of_performs (Experiment7.run_performs db platform dataset config printFixed x)).alike
      (.of_performs (Experiment7.run_performs db' platform' dataset config printFixed x))
      (h.experiment7_requests dataset config)
  sample _ _ _ _ _ _ hr hr' := by
    have hdrawn := experiment3_lookups_perm hr
    rw [h.sampleOf] at hdrawn
    exact (experiment4_lookups_perm hr').trans hdrawn.symm
  compaction _ _ _ _ _ _ hdb hr hr' := by
    have hdrawn := experiment3_lookups_perm hr
    rw [h.sampleOf] at hdrawn
    obtain ⟨ids, hlookups, hperm⟩ := experiment6_lookups_twice hdb hr'
    exact ⟨ids, hlookups, hperm.trans hdrawn.symm⟩

end Workload

def twoQueries : BenchmarkConfig := { ConfigLoader.defaultConfig with readSampleSize := 2 }

theorem experiment3_cassandra_returns : ∃ x b,
    Experiment3.execute (CassandraClient.dbInterface fun _ _ => pure []) .calm twoRows twoQueries
      (.start ⟨.healthy .empty, .init⟩) = .ok x b :=
  returns_of_isSome (by decide +kernel)

theorem experiment4_mongo_returns : ∃ x b,
    Experiment4.execute MongoClient.dbInterface .calm twoRows twoQueries emptyCollection =
      .ok x b :=
  returns_of_isSome (by decide +kernel)

theorem workload_reproduced_twoRows : ∃ x b x' b',
    Experiment3.execute (CassandraClient.dbInterface fun _ _ => pure []) .calm twoRows twoQueries
      (.start ⟨.healthy .empty, .init⟩) = .ok x b ∧
    Experiment4.execute MongoClient.dbInterface .calm twoRows twoQueries emptyCollection =
      .ok x' b' ∧
    (lookups b'.calls).Perm (lookups b.calls) := by
  obtain ⟨x, b, hr⟩ := experiment3_cassandra_returns
  obtain ⟨x', b', hr'⟩ := experiment4_mongo_returns
  have hsame : SameGenerators (.calm : Platform (ClientState Rat))
      (.calm : Platform (Faulty (MongoDatabase Rat))) := ⟨rfl, rfl, rfl⟩
  have hworkload := workload_reproduced hsame (CassandraClient.dbInterface fun _ _ => pure [])
    MongoClient.dbInterface twoRows twoQueries
  exact ⟨x, b, x', b', hr, hr', hworkload.sample _ _ _ _ _ _ hr hr'⟩

end DbBenchmark
