import DbBenchmark.ConfigLoader
import DbBenchmark.DBInterface

namespace DbBenchmark
open BenchM LatencyRecorder Throwing
set_option autoImplicit true

variable {Double σ Own : Type}

/-- The members of `ExperimentBase` that change, and those that a subclass adds. -/
structure ExperimentObject (Own : Type) where
  recorder : LatencyRecorder
  result : BenchmarkResult ℚ
  own : Own

def ExperimentObject.init (own : Own) : ExperimentObject Own := ⟨.init, .init, own⟩

/-- The virtual functions of an experiment. -/
structure ExperimentClass (Double σ Own : Type) where
  setup : ExperimentObject Own → BenchM Double σ (ExperimentObject Own)
  run : ExperimentObject Own → BenchM Double σ (ExperimentObject Own)
  teardown : ExperimentObject Own → BenchM Double σ Unit

namespace ExperimentBase

def execute (platform : Platform σ) (e : ExperimentClass Double σ Own) (x : ExperimentObject Own) :
    BenchM Double σ (ExperimentObject Own) := do
  let x ← e.setup x
  let x ← e.run { x with recorder := platform.startTimer x.recorder }
  let now ← nowNs platform
  let recorder := x.recorder.stopTimer now
  let stats := recorder.computeStats
  let x := { x with
    recorder := recorder
    result := { x.result with
      totalOps := stats.totalOps
      totalTimeMs := stats.totalTimeMs
      p50Us := stats.p50Us
      p95Us := stats.p95Us
      p99Us := stats.p99Us
      meanUs := stats.meanUs
      minUs := stats.minUs
      maxUs := stats.maxUs
      throughputOpsSec := stats.throughputOpsSec } }
  e.teardown x
  return x

/-- What `execute` has done when it stops the timer. -/
def setupAndRun (platform : Platform σ) (e : ExperimentClass Double σ Own)
    (x : ExperimentObject Own) : BenchM Double σ (ExperimentObject Own) := do
  let x ← e.setup x
  e.run { x with recorder := platform.startTimer x.recorder }

/-- The body that the base class gives the pure virtual function. -/
def teardown (_ : ExperimentObject Own) : BenchM Double σ Unit := pure ()

/-- `(*dataset_)[dist(rng)]` for one draw after the other. -/
def draws (platform : Platform σ) (seed : UInt64) (pool : List α) (hne : pool ≠ []) (n : Nat) :
    List α :=
  (List.range n).map fun i => pool.get ⟨platform.draw seed (pool.length - 1) i, by
    have hle := platform.draw_le seed (pool.length - 1) i
    have hpos := List.length_pos_iff.2 hne
    omega⟩

def sampleRandomOrders (platform : Platform σ) (dataset : List (Order Double))
    (config : BenchmarkConfig) (n : Nat) : BenchM Double σ (List (Order Double)) :=
  if hne : dataset = [] then throw (lit "sample random orders dataset is empty")
  else return draws platform (config.rngSeed ^^^ 0xFEEDFACE) dataset hne (min n dataset.length)

/-- The order ids that the experiments draw from the dataset. -/
def sampledIds (platform : Platform σ) (dataset : List (Order Double)) (hne : dataset ≠ [])
    (config : BenchmarkConfig) : List CppString :=
  (draws platform (config.rngSeed ^^^ 0xFEEDFACE) dataset hne
    (min config.readSampleSize.toNat dataset.length)).map Order.orderId

end ExperimentBase

namespace DataGenerator

def sampleUserIds (platform : Platform σ) (seed : UInt64) (n : Nat) :
    BenchM Double σ (List CppString) :=
  if hne : platform.userIdPool seed = [] then throw (lit "user_id_pool_ is empty")
  else return ExperimentBase.draws platform (seed ^^^ 0xDEADBEEF) (platform.userIdPool seed) hne n

/-- Not written yet: the same pair of empty strings for every dataset and window. -/
def generateDateRange (_dataset : List (Order Double)) (_windowDays : Int32) :
    CppString × CppString := ([], [])

end DataGenerator

def timed (platform : Platform σ) (call : BenchM Double σ α) (recorder : LatencyRecorder) :
    BenchM Double σ (α × LatencyRecorder) := do
  let t0 ← nowNs platform
  let a ← call
  let t1 ← nowNs platform
  step platform
  return (a, recorder.record ((t1 - t0) / 1000).toNat)

def timedEach (platform : Platform σ) (call : β → BenchM Double σ α) (xs : List β)
    (recorder : LatencyRecorder) : BenchM Double σ LatencyRecorder :=
  xs.foldlM (fun recorder x => do
    let (_, recorder) ← timed platform (call x) recorder
    return recorder) recorder

def rowsToLoad (dataset : List (Order Double)) (config : BenchmarkConfig) : Nat :=
  min dataset.length config.totalRows.toNat

namespace Experiment1

variable (db : DBInterface Double σ) (platform : Platform σ) (dataset : List (Order Double))
  (config : BenchmarkConfig)

def setup (x : ExperimentObject Unit) : BenchM Double σ (ExperimentObject Unit) := do
  clearTable db
  return { x with result := { x.result with
    database := db.getDbName
    experimentName := lit "1.Single Insert"
    operation := lit "insert"
    indexType := lit "primary"
    threadCount := 1 } }

def run (x : ExperimentObject Unit) : BenchM Double σ (ExperimentObject Unit) := do
  let recorder ← timedEach platform (insertOne db) (dataset.take (rowsToLoad dataset config))
    x.recorder
  return { x with recorder := recorder }

def experiment : ExperimentClass Double σ Unit where
  setup := setup db
  run := run db platform dataset config
  teardown := ExperimentBase.teardown

def execute : BenchM Double σ (ExperimentObject Unit) :=
  ExperimentBase.execute platform (experiment db platform dataset config) (.init ())

end Experiment1

section Rules

variable {platform : Platform σ} {E : CppString → Bench Double σ → Prop}

theorem timed_triple {P R : Bench Double σ → Prop} {call : BenchM Double σ α}
    (hcall : Triple P call (fun _ => R) E) (hstep : Triple R (step platform) (fun _ => R) E)
    (recorder : LatencyRecorder) : Triple P (timed platform call recorder)
      (fun ar b => R b ∧ ar.2.count = recorder.count + 1) E := by
  apply (nowNs_triple platform).bind
  intro t0
  apply hcall.bind
  intro a
  apply (nowNs_triple platform).bind
  intro t1
  apply hstep.bind
  intro _ b hb
  exact ⟨hb, by simp [count, record]⟩

/-- The invariant speaks of the elements that are done and of the recorder they leave. -/
theorem timedEach_loop {I : List β → LatencyRecorder → Bench Double σ → Prop}
    {call : β → BenchM Double σ α} {xs : List β}
    (hcall : ∀ done x rest recorder, done ++ x :: rest = xs → Triple (I done recorder)
      (timed platform (call x) recorder) (fun ar => I (done ++ [x]) ar.2) E)
    (recorder : LatencyRecorder) :
    Triple (I [] recorder) (timedEach platform call xs recorder) (I xs) E := by
  apply Triple.foldlM
  intro done x rest recorder hxs
  apply (hcall done x rest recorder hxs).bind
  intro ar b hb
  exact hb

theorem timedEach_triple {I : List β → Bench Double σ → Prop} {call : β → BenchM Double σ α}
    {xs : List β} (hcall : ∀ done x rest, done ++ x :: rest = xs →
      Triple (I done) (call x) (fun _ => I (done ++ [x])) E)
    (hstep : ∀ done, done <+: xs → Triple (I done) (step platform) (fun _ => I done) E)
    (recorder : LatencyRecorder) : Triple (I []) (timedEach platform call xs recorder)
      (fun recorder' b => I xs b ∧ recorder'.count = recorder.count + xs.length) E := by
  have hbody : ∀ done x rest recorder', done ++ x :: rest = xs →
      Triple (fun b => I done b ∧ recorder'.count = recorder.count + done.length)
        (timed platform (call x) recorder')
        (fun ar b => I (done ++ [x]) b ∧
          ar.2.count = recorder.count + (done ++ [x]).length) E := by
    intro done x rest recorder' hxs b hb
    have hdone : done ++ [x] <+: xs := ⟨rest, (List.append_cons done x rest).symm.trans hxs⟩
    have htimed := timed_triple (hcall done x rest hxs) (hstep _ hdone) recorder'
    apply (htimed.mono (fun _ h => h) ?_ (fun _ _ h => h)) b hb.1
    intro ar b' hb'
    refine ⟨hb'.1, ?_⟩
    rw [hb'.2, hb.2, List.length_append, List.length_singleton, Nat.add_assoc]
  exact (timedEach_loop hbody recorder).mono (fun b hb => ⟨hb, rfl⟩) (fun _ _ h => h)
    (fun _ _ h => h)

theorem timedEach_keeps {I : Bench Double σ → Prop} {call : β → BenchM Double σ α} {xs : List β}
    (hcall : ∀ x ∈ xs, Triple I (call x) (fun _ => I) E)
    (hstep : Triple I (step platform) (fun _ => I) E) (recorder : LatencyRecorder) :
    Triple I (timedEach platform call xs recorder) (fun _ => I) E := by
  have hbody (done : List β) (x : β) (rest : List β) (hxs : done ++ x :: rest = xs) :
      Triple I (call x) (fun _ => I) E := by
    apply hcall
    rw [← hxs]
    exact List.mem_append_right done List.mem_cons_self
  have hloop := timedEach_triple (I := fun _ => I) hbody (fun _ _ => hstep) recorder
  exact hloop.mono (fun _ hb => hb) (fun _ _ hb => hb.1) (fun _ _ hb => hb)

/-- An experiment reports as many operations as its recorder counts when it stops. -/
theorem experiment_triple {e : ExperimentClass Double σ Own} {x : ExperimentObject Own}
    {P : Bench Double σ → Prop} {R S T : ExperimentObject Own → Bench Double σ → Prop}
    (hsetup : Triple P (e.setup x) R E)
    (hrun : ∀ x, Triple (R x) (e.run { x with recorder := platform.startTimer x.recorder }) S E)
    (hteardown : ∀ x x', Triple (S x) (e.teardown x') (fun _ => T x) E) :
    Triple P (ExperimentBase.execute platform e x)
      (fun x' b => ∃ x, T x b ∧ x'.result.totalOps = x.recorder.count) E := by
  apply hsetup.bind
  intro x₁
  apply (hrun x₁).bind
  intro x₂
  apply (nowNs_triple platform).bind
  intro now
  apply (hteardown x₂ _).bind
  intro _ b hb
  exact ⟨x₂, hb, totalOps_computeStats _⟩

theorem sampleRandomOrders_triple {I : Bench Double σ → Prop} {dataset : List (Order Double)}
    (hne : dataset ≠ []) (config : BenchmarkConfig) :
    Triple I
      (ExperimentBase.sampleRandomOrders platform dataset config config.readSampleSize.toNat)
      (fun sample b => I b ∧
        sample.map Order.orderId = ExperimentBase.sampledIds platform dataset hne config) E := by
  rw [ExperimentBase.sampleRandomOrders, dif_neg hne]
  exact fun b hb => ⟨hb, rfl⟩

theorem sampleUserIds_triple {I : Bench Double σ → Prop} (seed : UInt64) (n : Nat) :
    Triple I (DataGenerator.sampleUserIds platform seed n) (fun _ => I) E := by
  rw [DataGenerator.sampleUserIds, dif_neg (platform.userIdPool_ne_nil seed)]
  exact Triple.skip

theorem teardown_triple {P : Bench Double σ → Prop} (x : ExperimentObject Own) :
    Triple P (ExperimentBase.teardown x) (fun _ => P) E := fun _ hb => hb

end Rules

/-- An exception out of `setup` or `run` passes the teardown by. -/
theorem teardown_after_triple {platform : Platform σ} {e : ExperimentClass Double σ Own}
    {x : ExperimentObject Own} {P S T : Bench Double σ → Prop}
    {E : CppString → Bench Double σ → Prop}
    (hrun : Triple P (ExperimentBase.setupAndRun platform e x) (fun _ => S) E)
    (hteardown : ∀ x, Triple S (e.teardown x) (fun _ => T) E) :
    Triple P (ExperimentBase.execute platform e x) (fun _ => T) E := by
  intro b hb
  rw [ExperimentBase.execute]
  cases hsetup : e.setup x b with
  | error err b₁ =>
    rw [bind_error hsetup]
    exact hrun.of_error hb (bind_error hsetup)
  | ok x₁ b₁ =>
    rw [bind_ok hsetup]
    cases hr : e.run { x₁ with recorder := platform.startTimer x₁.recorder } b₁ with
    | error err b₂ =>
      rw [bind_error hr]
      exact hrun.of_error hb ((bind_ok hsetup).trans hr)
    | ok x₂ b₂ =>
      rw [bind_ok hr]
      apply (nowNs_triple platform).bind ?_ b₂ (hrun.of_ok hb ((bind_ok hsetup).trans hr))
      intro now
      exact (hteardown _).bind fun _ => Triple.skip

theorem insertOne_insertions (db : DBInterface Double σ) (o : Order Double)
    (l : List (Order Double)) : Triple (fun b : Bench Double σ => insertions b.calls = l)
      (insertOne db o) (fun _ b => insertions b.calls = l ++ [o]) (fun _ _ => True) := by
  apply callDb_triple
  · intro b a s hb _
    rw [made, insertions_concat, hb]
    rfl
  · intro b e s _ _
    trivial

theorem step_insertions (platform : Platform σ) (l : List (Order Double)) :
    Triple (fun b : Bench Double σ => insertions b.calls = l) (step platform)
      (fun _ b => insertions b.calls = l) (fun _ _ => True) := by
  intro b hb
  rw [step, outside]
  cases platform.step b.world with
  | ok a s => exact hb
  | error e s => trivial

theorem clearTable_insertions (db : DBInterface Double σ) (l : List (Order Double)) :
    Triple (fun b : Bench Double σ => insertions b.calls = l) (clearTable db)
      (fun _ b => insertions b.calls = l) (fun _ _ => True) := by
  apply callDb_triple
  · intro b a s hb _
    rw [made, insertions_concat, hb]
    exact List.append_nil l
  · intro b e s _ _
    trivial

/-- When Experiment 1 returns it has inserted the front of the dataset, and reports its length. -/
theorem experiment1_inserts (db : DBInterface Double σ) (platform : Platform σ)
    (dataset : List (Order Double)) (config : BenchmarkConfig) :
    Triple (fun b => insertions b.calls = []) (Experiment1.execute db platform dataset config)
      (fun x b => insertions b.calls = dataset.take (rowsToLoad dataset config) ∧
        x.result.totalOps = rowsToLoad dataset config) (fun _ _ => True) := by
  have hlen : (dataset.take (rowsToLoad dataset config)).length = rowsToLoad dataset config :=
    List.length_take_of_le (Nat.min_le_left _ _)
  have hsetup : Triple (fun b => insertions b.calls = []) (Experiment1.setup db (.init ()))
      (fun x b => insertions b.calls = [] ∧ x.recorder.count = 0) (fun _ _ => True) := by
    apply (clearTable_insertions db []).bind
    intro _ b hb
    exact ⟨hb, rfl⟩
  have hrun (x : ExperimentObject Unit) :
      Triple (fun b => insertions b.calls = [] ∧ x.recorder.count = 0)
        (Experiment1.run db platform dataset config
          { x with recorder := platform.startTimer x.recorder })
        (fun x b => insertions b.calls = dataset.take (rowsToLoad dataset config) ∧
          x.recorder.count = rowsToLoad dataset config) (fun _ _ => True) := by
    intro b hb
    have hcall (done : List (Order Double)) (o : Order Double) (rest : List (Order Double))
        (_ : done ++ o :: rest = dataset.take (rowsToLoad dataset config)) :=
      insertOne_insertions (σ := σ) db o done
    have hloop := timedEach_triple hcall (fun done _ => step_insertions platform done)
      (platform.startTimer x.recorder)
    apply (hloop.bind fun recorder => ?_) b hb.1
    intro b' hb'
    refine ⟨hb'.1, ?_⟩
    rw [hb'.2, hlen, count, platform.latenciesUs_startTimer, ← count, hb.2, Nat.zero_add]
  have hexecute := experiment_triple (e := Experiment1.experiment db platform dataset config) hsetup
    hrun fun _ x' => teardown_triple x'
  refine hexecute.mono (fun _ hb => hb) ?_ (fun _ _ h => h)
  intro x b hb
  obtain ⟨x', ⟨hcalls, hcount⟩, htotal⟩ := hb
  exact ⟨hcalls, htotal.trans hcount⟩

/-- Experiment 1 returns where the client takes one order of the dataset after the other. -/
theorem experiment1_returns {P : σ → Prop} {I : List (Order Double) → σ → Prop}
    (db : DBInterface Double σ) (platform : Platform σ) (dataset : List (Order Double))
    (config : BenchmarkConfig) (hclear : Triple P db.clearTable (fun _ => I []) (fun _ _ => False))
    (hinsert : ∀ done o rest, done ++ o :: rest = dataset.take (rowsToLoad dataset config) →
      Triple (I done) (db.insertOne o) (fun _ => I (done ++ [o])) (fun _ _ => False))
    (hstep : ∀ done, Triple (I done) platform.step (fun _ => I done) (fun _ _ => False)) :
    Triple (fun b => P b.world) (Experiment1.execute db platform dataset config)
      (fun _ b => I (dataset.take (rowsToLoad dataset config)) b.world) (fun _ _ => False) := by
  have hsetup : Triple (fun b => P b.world) (Experiment1.setup db (.init ()))
      (fun _ b => I [] b.world) (fun _ _ => False) :=
    (callDb_world hclear _ _).bind fun _ _ hb => hb
  have hrun (x : ExperimentObject Unit) : Triple (fun b => I [] b.world)
      (Experiment1.run db platform dataset config
        { x with recorder := platform.startTimer x.recorder })
      (fun _ b => I (dataset.take (rowsToLoad dataset config)) b.world) (fun _ _ => False) := by
    have hcall (done : List (Order Double)) (o : Order Double) (rest : List (Order Double))
        (hdone : done ++ o :: rest = dataset.take (rowsToLoad dataset config)) :=
      callDb_world (hinsert done o rest hdone) (.insertOne o) fun _ => none
    have hloop := timedEach_triple hcall (fun done _ => outside_world (hstep done))
      (platform.startTimer x.recorder)
    exact hloop.bind fun _ _ hb => hb.1
  exact teardown_after_triple (e := Experiment1.experiment db platform dataset config)
    (hsetup.bind hrun) teardown_triple

end DbBenchmark
