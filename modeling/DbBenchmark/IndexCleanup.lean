import DbBenchmark.ClientInterfaces
import DbBenchmark.IndexedReads

namespace DbBenchmark
open BenchM Throwing Throwing.Faulty
set_option autoImplicit true

def indexNames : List String := ["user_id_1", "created_at_1"]

def NoIndex (s : MongoDatabase Double) : Prop := s.indexes = []

def IndexLeft (s : MongoDatabase Double) : Prop := s.indexes ≠ []

/-- Nothing is to fail: the documents are those of orders, and no fault is set. -/
def Calm (indexes : List String) (w : Faulty (MongoDatabase Double)) : Prop :=
  (Written w.state.orders ∧ w.state.indexes = indexes) ∧ w.fault = none

/-- The fault strikes before the step behind the next `j` can take effect, and there is no index
yet. -/
def Early (j : Nat) (w : Faulty (MongoDatabase Double)) : Prop := NoIndex w.state ∧ Before j w

/-- The step behind the next `j` takes its effect, the fault strikes it or a later one, and there is
no index yet. -/
def Late (j : Nat) (w : Faulty (MongoDatabase Double)) : Prop := NoIndex w.state ∧ Behind j w

/-- There is an index, and the fault is still to come. -/
def Exposed (w : Faulty (MongoDatabase Double)) : Prop := IndexLeft w.state ∧ Pending w

section Requests

variable {m : MongoDbM Double α}

theorem request_keeps {I : MongoDatabase Double → Prop} (h : Keeps I m) :
    Keeps (fun w => I w.state) (request m) :=
  fallible_keeps h

theorem request_calm {indexes indexes' : List String}
    (h : Triple (fun s => Written s.orders ∧ s.indexes = indexes) m
      (fun _ s => Written s.orders ∧ s.indexes = indexes') (fun _ _ => False)) :
    Triple (Calm indexes) (request m) (fun _ => Calm indexes') (fun _ _ => False) :=
  fallible_calm h

theorem request_early (h : Keeps NoIndex m) (j : Nat) :
    Triple (Early (j + 1)) (request m) (fun _ => Early j) (fun _ w => NoIndex w.state) :=
  fallible_before h j

theorem request_struck (m : MongoDbM Double α) :
    Triple (Early 0) (request m) (fun _ _ => False) (fun _ w => NoIndex w.state) :=
  fallible_before_zero fun _ hs => hs

theorem request_late (h : Triple NoIndex m (fun _ => NoIndex) (fun _ _ => False)) (j : Nat) :
    Triple (Late (j + 1)) (request m) (fun _ => Late j) (fun _ w => IndexLeft w.state) :=
  (fallible_behind h j).mono (fun _ hw => hw) (fun _ _ hw => hw) (fun _ _ hw => hw.elim)

theorem request_exposed (h : Keeps IndexLeft m) :
    Triple Exposed (request m) (fun _ => Exposed) (fun _ w => IndexLeft w.state) :=
  fallible_pending h

theorem read_calm {indexes : List String} {m : MongoM Double α}
    (h : ∀ orders, Written orders → ∃ a, m orders = .ok a orders) : Triple (Calm indexes)
      (request (MongoDatabase.onOrders m)) (fun _ => Calm indexes) (fun _ _ => False) :=
  request_calm (MongoDatabase.onOrders_reads fun s hs => h s.orders hs.1)

theorem read_exposed (m : MongoM Double α) : Triple Exposed (request (MongoDatabase.onOrders m))
    (fun _ => Exposed) (fun _ w => IndexLeft w.state) :=
  request_exposed (MongoDatabase.onOrders_indexes m (· ≠ []))

end Requests

theorem createIndex_calm (name : String) (before : List String) :
    Triple (fun s : MongoDatabase Double => Written s.orders ∧ s.indexes = before)
      (MongoDatabase.createIndex name)
      (fun _ s => Written s.orders ∧ s.indexes = if name ∈ before then before else before ++ [name])
      (fun _ _ => False) := by
  rintro s ⟨hs, rfl⟩
  exact ⟨hs, rfl⟩

theorem createIndex_left (name : String) (P : MongoDatabase Double → Prop) :
    Triple P (MongoDatabase.createIndex name) (fun _ => IndexLeft) (fun _ _ => False) := by
  intro s _
  change (if name ∈ s.indexes then s.indexes else s.indexes ++ [name]) ≠ []
  split
  case isTrue hmem => exact List.ne_nil_of_mem hmem
  case isFalse => exact List.concat_ne_nil _ _

theorem createSecondaryIndex_calm : Triple (Calm [])
    (MongoClient.createSecondaryIndex : EStateM CppString (Faulty (MongoDatabase Double)) Unit)
    (fun _ => Calm indexNames) (fun _ _ => False) := by
  apply (request_calm (createIndex_calm "user_id_1" [])).bind
  intro _
  apply (request_calm (createIndex_calm "created_at_1" ["user_id_1"])).bind
  intro _
  exact request_calm fun _ hs => hs

theorem createSecondaryIndex_early : Triple (Early 0)
    (MongoClient.createSecondaryIndex : EStateM CppString (Faulty (MongoDatabase Double)) Unit)
    (fun _ _ => False) (fun _ w => NoIndex w.state) :=
  (request_struck _).bind fun _ _ hw => hw.elim

theorem createSecondaryIndex_late : Triple (Late 0)
    (MongoClient.createSecondaryIndex : EStateM CppString (Faulty (MongoDatabase Double)) Unit)
    (fun _ => Exposed) (fun _ w => IndexLeft w.state) := by
  have hfirst : Triple (Late 0)
      (request (MongoDatabase.createIndex "user_id_1" : MongoDbM Double Unit)) (fun _ => Exposed)
      (fun _ w => IndexLeft w.state) :=
    fallible_behind_zero (createIndex_left "user_id_1" NoIndex).of_total
  apply hfirst.bind
  intro _
  apply (request_exposed (createIndex_left "created_at_1" IndexLeft).of_total).bind
  intro _
  exact request_exposed fun _ hs => hs

theorem dropSecondaryIndex_calm : Triple (Calm indexNames)
    (MongoClient.dropSecondaryIndex : EStateM CppString (Faulty (MongoDatabase Double)) Unit)
    (fun _ w => NoIndex w.state) (fun _ w => NoIndex w.state) := by
  rintro ⟨⟨orders, indexes⟩, fault, takesEffect⟩ ⟨⟨-, hindexes⟩, hfault⟩
  cases hindexes
  cases hfault
  rfl

section Experiments

variable {Own : Type} {platform : Platform (Faulty (MongoDatabase Double))}

/-- The fault, if there is one, strikes in `setup` or `run`. -/
def StrikesBeforeTeardown (platform : Platform (Faulty (MongoDatabase Double)))
    (e : ExperimentClass Double (Faulty (MongoDatabase Double)) Own) (x : ExperimentObject Own)
    (b : Bench Double (Faulty (MongoDatabase Double))) : Prop :=
  ∀ x' b', ExperimentBase.setupAndRun platform e x b = .ok x' b' → b'.world.fault = none

/-- An experiment whose `setup` creates the indexes behind `pre` fallible steps, and whose `teardown`
drops them. -/
structure CreatesIndexes (platform : Platform (Faulty (MongoDatabase Double)))
    (e : ExperimentClass Double (Faulty (MongoDatabase Double)) Own) (x : ExperimentObject Own)
    (pre : Nat) : Prop where
  calm : Triple (fun b => Calm [] b.world) (ExperimentBase.setupAndRun platform e x)
    (fun _ b => Calm indexNames b.world) (fun _ _ => False)
  early : Triple (fun b => Early pre b.world) (ExperimentBase.setupAndRun platform e x)
    (fun _ _ => False) (fun _ b => NoIndex b.world.state)
  late : Triple (fun b => Late pre b.world) (ExperimentBase.setupAndRun platform e x)
    (fun _ b => Exposed b.world) (fun _ b => IndexLeft b.world.state)
  teardown : ∀ x, Triple (fun b => Calm indexNames b.world) (e.teardown x)
    (fun _ b => NoIndex b.world.state) (fun _ b => NoIndex b.world.state)

variable {e : ExperimentClass Double (Faulty (MongoDatabase Double)) Own}
  {x : ExperimentObject Own} {pre : Nat} {b : Bench Double (Faulty (MongoDatabase Double))}

/-- The teardown is reached on the way of a return only. -/
theorem CreatesIndexes.noIndex_iff (h : CreatesIndexes platform e x pre)
    (hwritten : b.world.fault = none → Written b.world.state.orders)
    (hempty : NoIndex b.world.state) (hstrikes : StrikesBeforeTeardown platform e x b) :
    NoIndex (finalState (ExperimentBase.execute platform e x) b).world.state ↔
      b.world.fault = none ∨ Before pre b.world := by
  cases hfault : b.world.fault with
  | none =>
    apply iff_of_true ?_ (.inl rfl)
    have hexecute := teardown_after_triple h.calm.of_total h.teardown
    exact hexecute.finalState ⟨⟨hwritten hfault, hempty⟩, hfault⟩
  | some k =>
    rw [or_iff_right fun hnone => nomatch hnone]
    by_cases hbefore : Before pre b.world
    · apply iff_of_true ?_ hbefore
      have hexecute := teardown_after_triple (T := fun b => NoIndex b.world.state) h.early
        fun _ _ hb => hb.elim
      exact hexecute.finalState ⟨hempty, hbefore⟩
    · have hlate : Triple (· = b) (ExperimentBase.setupAndRun platform e x) (fun _ _ => False)
          (fun _ b => IndexLeft b.world.state) := by
        intro b₀ hb₀
        rw [show b₀ = b from hb₀]
        have hb : Late pre b.world := ⟨hempty, behind_of_not_before hfault hbefore⟩
        cases hr : ExperimentBase.setupAndRun platform e x b with
        | error err b' => exact h.late.of_error hb hr
        | ok x' b' =>
          obtain ⟨-, i, hpending⟩ := h.late.of_ok hb hr
          rw [hstrikes x' b' hr] at hpending
          cases hpending
      have hexecute := teardown_after_triple (T := fun b => IndexLeft b.world.state) hlate
        fun _ _ hb => hb.elim
      exact iff_of_false (hexecute.finalState rfl) hbefore

theorem step_world {P Q : Faulty (MongoDatabase Double) → Prop}
    {E : CppString → Faulty (MongoDatabase Double) → Prop} (hstep : platform.step = request (pure ()))
    (h : Triple P (request (pure ())) (fun _ => Q) E) :
    Triple (fun b : Bench Double _ => P b.world) (step platform) (fun _ b => Q b.world)
      (fun e b => E e b.world) := by
  rw [← hstep] at h
  exact outside_world h

theorem step_calm (hstep : platform.step = request (pure ())) (indexes : List String) :
    Triple (fun b : Bench Double _ => Calm indexes b.world) (step platform)
      (fun _ b => Calm indexes b.world) (fun _ _ => False) :=
  step_world hstep (request_calm Triple.skip)

theorem step_exposed (hstep : platform.step = request (pure ())) :
    Triple (fun b : Bench Double _ => Exposed b.world) (step platform) (fun _ b => Exposed b.world)
      (fun _ b => IndexLeft b.world.state) :=
  step_world hstep (request_exposed Triple.skip)

variable [Zero Double]

theorem experiment4_createsIndexes (hstep : platform.step = request (pure ()))
    {dataset : List (Order Double)} (hne : dataset ≠ []) (config : BenchmarkConfig) :
    CreatesIndexes platform
      (Experiment4.experiment MongoClient.dbInterface platform dataset config) (.init .init)
      Experiment4.stepsBeforeIndex where
  calm := by
    apply (Experiment4.setup_triple (I := fun _ b => Calm [] b.world) hne
      (fun _ => step_calm hstep []) (callDb_world createSecondaryIndex_calm _ _)
      (step_calm hstep indexNames) _).bind
    intro x
    apply Triple.assuming
    intro _
    apply Experiment4.run_triple (step_calm hstep indexNames)
    · intro orderId _
      exact callDb_world (read_calm fun orders h => findByPrimaryKey_reads h orderId) _ _
    · intro userId _
      exact callDb_world (read_calm fun orders h => findBySecondaryKey_reads h userId) _ _
  early := by
    apply (Experiment4.setup_triple (I := fun j b => Early j b.world) (J := fun _ => False) hne
      (fun j => step_world hstep (request_early Triple.skip j))
      (callDb_world createSecondaryIndex_early _ _) (fun _ hb => hb.elim) _).bind
    exact fun _ _ hb => hb.1.elim
  late := by
    apply (Experiment4.setup_triple (I := fun j b => Late j b.world) hne
      (fun j => step_world hstep (request_late Triple.skip j))
      (callDb_world createSecondaryIndex_late _ _) (step_exposed hstep) _).bind
    intro x
    apply Triple.assuming
    intro _
    apply Experiment4.run_triple (step_exposed hstep)
    · intro orderId _
      exact callDb_world (read_exposed _) _ _
    · intro userId _
      exact callDb_world (read_exposed _) _ _
  teardown := by
    intro x
    apply (step_calm hstep indexNames).of_total.bind
    intro _
    exact callDb_world dropSecondaryIndex_calm _ _

theorem queries_calm (hstep : platform.step = request (pure ())) (dataset : List (Order Double))
    (config : BenchmarkConfig) :
    Experiment5.KeptByQueries MongoClient.dbInterface platform dataset config
      (fun b => Calm indexNames b.world) (fun _ _ => False) where
  ofStep := step_calm hstep indexNames
  ofQuery _ _ _ _ :=
    callDb_world (read_calm fun _ h => findByRange_reads h _ _) _ _

theorem queries_exposed (hstep : platform.step = request (pure ())) (dataset : List (Order Double))
    (config : BenchmarkConfig) :
    Experiment5.KeptByQueries MongoClient.dbInterface platform dataset config
      (fun b => Exposed b.world) (fun _ b => IndexLeft b.world.state) where
  ofStep := step_exposed hstep
  ofQuery _ _ _ _ := callDb_world (read_exposed _) _ _

theorem experiment5_createsIndexes (hstep : platform.step = request (pure ()))
    (dataset : List (Order Double)) (config : BenchmarkConfig) :
    CreatesIndexes platform
      (Experiment5.experiment MongoClient.dbInterface platform dataset config) (.init .init)
      Experiment5.stepsBeforeIndex where
  calm := by
    have hkept := queries_calm hstep dataset config
    apply (Experiment5.setup_triple (I := fun _ b => Calm [] b.world) (fun _ => step_calm hstep [])
      (callDb_world createSecondaryIndex_calm _ _) _).bind
    intro x
    exact Experiment5.run_triple hkept hkept Experiment5.sampleCassandraUserIds_triple
      (fun _ _ hb => hb) (fun _ _ hb => hb) _
  early := by
    apply (Experiment5.setup_triple (I := fun j b => Early j b.world) (J := fun _ => False)
      (fun j => step_world hstep (request_early Triple.skip j))
      (callDb_world createSecondaryIndex_early _ _) _).bind
    exact fun _ _ hb => hb.elim
  late := by
    have hkept := queries_exposed hstep dataset config
    apply (Experiment5.setup_triple (I := fun j b => Late j b.world)
      (fun j => step_world hstep (request_late Triple.skip j))
      (callDb_world createSecondaryIndex_late _ _) _).bind
    intro x
    exact Experiment5.run_triple hkept hkept Experiment5.sampleCassandraUserIds_triple
      (fun _ _ hb => hb) (fun _ _ hb => hb) _
  teardown := by
    intro x
    exact callDb_world dropSecondaryIndex_calm _ _

end Experiments

/-- Without a dataset Experiment 4 throws before it creates anything. -/
theorem experiment4_noDataset {db : DBInterface Double σ} {platform : Platform σ}
    {I : Bench Double σ → Prop} (hstep : Keeps I (step platform)) (config : BenchmarkConfig) :
    Keeps I (Experiment4.execute db platform [] config) := by
  apply teardown_after_triple (S := fun _ => False) ?_ fun _ _ hb => hb.elim
  have hsetup (x : ExperimentObject Experiment4Members) :
      Triple I (Experiment4.setup db platform [] config x) (fun _ _ => False) (fun _ => I) := by
    apply Triple.bind hstep
    intro _
    apply Triple.bind hstep
    intro _ b hb
    exact hb
  exact (hsetup _).bind fun _ _ hb => hb.elim

section Cassandra

variable {platform : Platform (CassandraDatabase Double)} {indexes : List String}
  {findByRange : CppString → CppString →
    EStateM CppString (CassandraDatabase Double) (List (OrderObject Double))}

def IndexesAre (indexes : List String) (b : Bench Double (CassandraDatabase Double)) : Prop :=
  b.world.indexes = indexes

theorem outside_keeps {m : EStateM CppString (CassandraDatabase Double) α}
    (h : Keeps (fun s => s.indexes = indexes) m) :
    Keeps (IndexesAre indexes) (outside m : BenchM Double _ α) :=
  outside_world h

theorem client_keeps (m : ClientM Double α) (call : DbCall Double)
    (answer : α → Option (OrderObject Double)) :
    Keeps (IndexesAre indexes) (callDb call answer (onClient m)) :=
  callDb_world (onClient_keeps m (· = indexes)) call answer

theorem create_keeps : Keeps (IndexesAre indexes)
    (createSecondaryIndex (CassandraClient.databaseInterface findByRange)) :=
  fun _ hb => hb

theorem drop_keeps : Keeps (IndexesAre indexes)
    (dropSecondaryIndex (CassandraClient.databaseInterface findByRange)) :=
  fun _ hb => hb

/-- Whatever fails, the experiments leave the indexes on Cassandra alone. -/
theorem experiment4_cassandra_keeps (hstep : Keeps (fun s => s.indexes = indexes) platform.step)
    (dataset : List (Order Double)) (config : BenchmarkConfig) :
    Keeps (IndexesAre indexes)
      (Experiment4.execute (CassandraClient.databaseInterface findByRange) platform dataset
        config) := by
  have hskip := outside_keeps hstep
  by_cases hne : dataset = []
  · subst hne
    exact experiment4_noDataset hskip config
  have hrun (x : ExperimentObject Experiment4Members) : Keeps (IndexesAre indexes)
      (Experiment4.run (CassandraClient.databaseInterface findByRange) platform x) :=
    Experiment4.run_triple hskip (fun _ _ => client_keeps _ _ _) fun _ _ => client_keeps _ _ _
  have hexecute (x : ExperimentObject Experiment4Members) : Keeps (IndexesAre indexes)
      (ExperimentBase.setupAndRun platform (Experiment4.experiment
        (CassandraClient.databaseInterface findByRange) platform dataset config) x) :=
    (Experiment4.setup_triple (I := fun _ => IndexesAre indexes) hne (fun _ => hskip) create_keeps
      hskip x).bind fun x' => Triple.assuming fun _ => hrun _
  apply teardown_after_triple (hexecute _)
  intro x
  exact hskip.bind fun _ => drop_keeps

theorem experiment5_cassandra_keeps (hstep : Keeps (fun s => s.indexes = indexes) platform.step)
    (dataset : List (Order Double)) (config : BenchmarkConfig) :
    Keeps (IndexesAre indexes)
      (Experiment5.execute (CassandraClient.databaseInterface findByRange) platform dataset
        config) := by
  have hskip := outside_keeps hstep
  have hkept : Experiment5.KeptByQueries (CassandraClient.databaseInterface findByRange) platform
      dataset config (IndexesAre indexes) fun _ => IndexesAre indexes := by
    refine ⟨hskip, fun userIds windowDays q _ => ?_⟩
    have hname : (CassandraClient.databaseInterface findByRange).getDbName = lit "cassandra" := rfl
    rw [Experiment5.query, if_pos hname]
    exact (client_keeps _ _ _).bind fun userOrders => hskip.bind fun _ => Triple.skip
  have hdivide (rows : UInt64) : Keeps (IndexesAre indexes)
      (divide rows config.readSampleSize : BenchM Double _ UInt64) := fun _ hb => hb
  have hrun (x : ExperimentObject Experiment5Members) := Experiment5.run_triple hkept hkept
    Experiment5.sampleCassandraUserIds_triple hdivide hdivide x
  have hexecute (x : ExperimentObject Experiment5Members) : Keeps (IndexesAre indexes)
      (ExperimentBase.setupAndRun platform (Experiment5.experiment
        (CassandraClient.databaseInterface findByRange) platform dataset config) x) :=
    (Experiment5.setup_triple (I := fun _ => IndexesAre indexes) (fun _ => hskip) create_keeps
      x).bind fun _ => hrun _
  have hteardown : Keeps (IndexesAre indexes)
      (dropSecondaryIndex (CassandraClient.databaseInterface findByRange)) := drop_keeps
  exact teardown_after_triple (hexecute _) fun _ => hteardown

end Cassandra

/-- The experiments with a fault set in their set-up or run leave no index behind on MongoDB exactly
where nothing fails, or fails before the first index is there; on Cassandra they never do. -/
theorem noIndexLeft_iff [Zero Double] (dataset : List (Order Double)) (config : BenchmarkConfig) :
    (∀ (platform : Platform (Faulty (MongoDatabase Double))) orders fault takesEffect b,
      platform.step = request (pure ()) → (fault = none → Written orders) →
      b = .start ⟨⟨orders, []⟩, fault, takesEffect⟩ →
      (StrikesBeforeTeardown platform
          (Experiment4.experiment MongoClient.dbInterface platform dataset config) (.init .init)
          b →
        (NoIndex (finalState (Experiment4.execute MongoClient.dbInterface platform dataset config)
            b).world.state ↔
          dataset = [] ∨ fault = none ∨ ∃ k, fault = some k ∧
            (k < Experiment4.stepsBeforeIndex ∨
              k = Experiment4.stepsBeforeIndex ∧ takesEffect = false))) ∧
      (StrikesBeforeTeardown platform
          (Experiment5.experiment MongoClient.dbInterface platform dataset config) (.init .init)
          b →
        (NoIndex (finalState (Experiment5.execute MongoClient.dbInterface platform dataset config)
            b).world.state ↔
          fault = none ∨ ∃ k, fault = some k ∧
            (k < Experiment5.stepsBeforeIndex ∨
              k = Experiment5.stepsBeforeIndex ∧ takesEffect = false)))) ∧
    ∀ findByRange (platform : Platform (CassandraDatabase Double)) client,
      Keeps (fun s => s.indexes = []) platform.step →
      (finalState (Experiment4.execute (CassandraClient.databaseInterface findByRange) platform
        dataset config) (.start ⟨client, []⟩)).world.indexes = [] ∧
      (finalState (Experiment5.execute (CassandraClient.databaseInterface findByRange) platform
        dataset config) (.start ⟨client, []⟩)).world.indexes = [] := by
  constructor
  · intro platform orders fault takesEffect b hstep hwritten hb
    subst hb
    constructor
    · intro hstrikes
      by_cases hne : dataset = []
      · subst hne
        apply iff_of_true ?_ (.inl rfl)
        have hskip : Keeps (fun b : Bench Double _ => NoIndex b.world.state) (step platform) :=
          step_world hstep (request_keeps Triple.skip)
        exact (experiment4_noDataset hskip config).finalState rfl
      · rw [or_iff_right hne]
        exact (experiment4_createsIndexes hstep hne config).noIndex_iff hwritten rfl hstrikes
    · intro hstrikes
      exact (experiment5_createsIndexes hstep dataset config).noIndex_iff hwritten rfl hstrikes
  · intro findByRange platform client hstep
    exact ⟨(experiment4_cassandra_keeps hstep dataset config).finalState rfl,
      (experiment5_cassandra_keeps hstep dataset config).finalState rfl⟩

def fallibleSteps : Platform (Faulty (MongoDatabase Rat)) :=
  { Platform.calm with step := request (pure ()) }

def oneQuery : BenchmarkConfig := { ConfigLoader.defaultConfig with readSampleSize := 1 }

/-- The tenth fallible step throws: in the range scan it is the first `find_by_range`. -/
def lostConnection : Bench Rat (Faulty (MongoDatabase Rat)) :=
  .start ⟨⟨.empty, []⟩, some 9, false⟩

theorem strikesBeforeTeardown_of_isNone {Own : Type}
    {platform : Platform (Faulty (MongoDatabase Double))}
    {e : ExperimentClass Double (Faulty (MongoDatabase Double)) Own} {x : ExperimentObject Own}
    {b : Bench Double (Faulty (MongoDatabase Double))}
    (h : (value? (ExperimentBase.setupAndRun platform e x) b).isNone) :
    StrikesBeforeTeardown platform e x b := by
  intro x' b' hok
  rw [value?_of_ok hok] at h
  cases h

theorem noIndexLeft_iff_lostConnection :
    ((NoIndex (finalState (Experiment4.execute MongoClient.dbInterface fallibleSteps oneOrder
        oneQuery) lostConnection).world.state ↔
      oneOrder = [] ∨ some 9 = none ∨ ∃ k, some 9 = some k ∧
        (k < Experiment4.stepsBeforeIndex ∨ k = Experiment4.stepsBeforeIndex ∧ false = false)) ∧
    (NoIndex (finalState (Experiment5.execute MongoClient.dbInterface fallibleSteps oneOrder
        oneQuery) lostConnection).world.state ↔
      some 9 = none ∨ ∃ k, some 9 = some k ∧
        (k < Experiment5.stepsBeforeIndex ∨
          k = Experiment5.stepsBeforeIndex ∧ false = false))) ∧
    (finalState (Experiment4.execute (CassandraClient.databaseInterface fun _ _ => pure []) .calm
      oneOrder oneQuery) (.start ⟨⟨.healthy .empty, .init⟩, []⟩)).world.indexes = [] ∧
    (finalState (Experiment5.execute (CassandraClient.databaseInterface fun _ _ => pure []) .calm
      oneOrder oneQuery) (.start ⟨⟨.healthy .empty, .init⟩, []⟩)).world.indexes = [] := by
  have hboth := (noIndexLeft_iff oneOrder oneQuery).1 fallibleSteps .empty (some 9) false
    lostConnection rfl (fun hnone => nomatch hnone) rfl
  have hcassandra := (noIndexLeft_iff oneOrder oneQuery).2 (fun _ _ => pure []) .calm
    ⟨.healthy .empty, .init⟩ Triple.skip
  exact ⟨⟨hboth.1 (strikesBeforeTeardown_of_isNone (by decide +kernel)),
    hboth.2 (strikesBeforeTeardown_of_isNone (by decide +kernel))⟩, hcassandra⟩

theorem indexLeft_lostConnection :
    StrikesBeforeTeardown fallibleSteps
      (Experiment5.experiment MongoClient.dbInterface fallibleSteps oneOrder oneQuery) (.init .init)
      lostConnection ∧
    lostConnection.world.state.indexes = [] ∧
    (finalState (Experiment5.execute MongoClient.dbInterface fallibleSteps oneOrder oneQuery)
      lostConnection).world.state.indexes = ["user_id_1", "created_at_1"] :=
  ⟨strikesBeforeTeardown_of_isNone (by decide +kernel), rfl, by decide +kernel⟩

end DbBenchmark
