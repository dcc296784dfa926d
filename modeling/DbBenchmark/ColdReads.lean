import DbBenchmark.LoadedLookups

namespace ReadCache

variable {K : Type} [DecidableEq K]

/-- The reads answered from a cache that keeps every key read since it was flushed. -/
def warmReads (cache : List K) : List K → List K
  | [] => []
  | k :: keys => if k ∈ cache then k :: warmReads cache keys else warmReads (k :: cache) keys

theorem warmReads_eq_nil_iff (cache keys : List K) :
    warmReads cache keys = [] ↔ keys.Nodup ∧ ∀ k ∈ keys, k ∉ cache := by
  induction keys generalizing cache with
  | nil => simp [warmReads]
  | cons k keys ih =>
    rw [warmReads]
    split
    · rename_i hk
      simp [hk]
    · rename_i hk
      rw [ih]
      simp only [List.nodup_cons, List.mem_cons, not_or, forall_eq_or_imp]
      constructor
      · intro h
        exact ⟨⟨fun hmem => (h.2 k hmem).1 rfl, h.1⟩, hk, fun k' hk' => (h.2 k' hk').2⟩
      · intro h
        exact ⟨h.1.2, fun k' hk' => ⟨fun he => h.1.1 (he ▸ hk'), h.2.2 k' hk'⟩⟩

end ReadCache

namespace DbBenchmark
open BenchM ExperimentBase ReadCache Throwing
set_option autoImplicit true

variable {Double σ : Type}

/-- `sample_random_orders(n)` returns so many orders, no two with one id. -/
def SamplesDistinct (platform : Platform σ) (dataset : List (Order Double))
    (config : BenchmarkConfig) (n : Nat) (b : Bench Double σ) : Prop :=
  ∃ sample, sampleRandomOrders platform dataset config n b = .ok sample b ∧
    sample.length = min n dataset.length ∧ (sample.map Order.orderId).Nodup

def DistinctDraws (platform : Platform σ) (dataset : List (Order Double))
    (config : BenchmarkConfig) (n : Nat) : Prop :=
  ((List.range (min n dataset.length)).map
    (platform.draw (config.rngSeed ^^^ 0xFEEDFACE) (dataset.length - 1))).Nodup

instance (platform : Platform σ) (dataset : List (Order Double)) (config : BenchmarkConfig)
    (n : Nat) : Decidable (DistinctDraws platform dataset config n) :=
  inferInstanceAs (Decidable (List.Nodup _))

theorem draws_ids_nodup_iff (platform : Platform σ) {dataset : List (Order Double)}
    (hne : dataset ≠ []) (hdistinct : (dataset.map Order.orderId).Nodup) (seed : UInt64) (n : Nat) :
    ((draws platform seed dataset hne n).map Order.orderId).Nodup ↔
      ((List.range n).map (platform.draw seed (dataset.length - 1))).Nodup := by
  have hrange := List.nodup_range (n := n)
  have hinj : Function.Injective fun i => (dataset.get i).orderId := by
    intro i j hij
    have hget : (dataset.map Order.orderId).get (i.cast (List.length_map _).symm) =
        (dataset.map Order.orderId).get (j.cast (List.length_map _).symm) := by simpa using hij
    simpa [Fin.ext_iff] using List.nodup_iff_injective_get.1 hdistinct hget
  rw [draws, List.map_map, List.nodup_map_iff_inj_on hrange, List.nodup_map_iff_inj_on hrange]
  constructor
  · intro h i hi j hj hij
    apply h i hi j hj
    simp only [Function.comp_apply, hij]
  · intro h i hi j hj hij
    exact h i hi j hj (congrArg Fin.val (hinj hij))

theorem samplesDistinct_iff (platform : Platform σ) {dataset : List (Order Double)}
    (hdistinct : (dataset.map Order.orderId).Nodup) (config : BenchmarkConfig) (n : Nat)
    (b : Bench Double σ) : SamplesDistinct platform dataset config n b ↔
      dataset ≠ [] ∧ DistinctDraws platform dataset config n := by
  rw [SamplesDistinct, sampleRandomOrders]
  split
  · rename_i hempty
    constructor
    · intro h
      obtain ⟨sample, hsample, _⟩ := h
      cases hsample
    · exact fun h => absurd hempty h.1
  · rename_i hne
    rw [DistinctDraws, ← draws_ids_nodup_iff platform hne hdistinct, and_iff_right hne]
    constructor
    · intro h
      obtain ⟨sample, hsample, _, hnodup⟩ := h
      cases hsample
      exact hnodup
    · intro hnodup
      exact ⟨_, rfl, by rw [draws, List.length_map, List.length_range], hnodup⟩

theorem findByPrimaryKey_lookups (db : DBInterface Double σ) (id : CppString)
    (l : List CppString) : Triple (fun b : Bench Double σ => lookups b.calls = l)
      (findByPrimaryKey db id) (fun _ b => lookups b.calls = l ++ [id]) (fun _ _ => True) := by
  apply callDb_triple
  · intro b a s hb _
    rw [made, lookups_concat, hb]
    rfl
  · intro b e s _ _
    trivial

theorem outside_lookups (l : List CppString) (m : EStateM CppString σ α) :
    Triple (fun b : Bench Double σ => lookups b.calls = l) (outside m)
      (fun _ b => lookups b.calls = l) (fun _ _ => True) :=
  (outside_calls (C := fun calls => lookups calls = l) m).mono (fun _ hb => hb) (fun _ _ hb => hb)
    fun _ _ _ => trivial

theorem timedEach_lookups (db : DBInterface Double σ) (platform : Platform σ)
    (ids l : List CppString) (recorder : LatencyRecorder) :
    Triple (fun b => lookups b.calls = l) (timedEach platform (findByPrimaryKey db) ids recorder)
      (fun _ b => lookups b.calls = l ++ ids) (fun _ _ => True) := by
  have hcall (done : List CppString) (id : CppString) (rest : List CppString)
      (_ : done ++ id :: rest = ids) :
      Triple (fun b => lookups b.calls = l ++ done) (findByPrimaryKey db id)
        (fun _ b => lookups b.calls = l ++ (done ++ [id])) (fun _ _ => True) := by
    rw [← List.append_assoc]
    exact findByPrimaryKey_lookups db id (l ++ done)
  have hloop := timedEach_triple hcall (fun done _ => outside_lookups (l ++ done) platform.step)
    recorder
  exact hloop.mono (fun b hb => hb.trans (List.append_nil l).symm) (fun _ _ hb => hb.1)
    (fun _ _ hb => hb)

section Runs

variable (db : DBInterface Double σ) (platform : Platform σ) {dataset : List (Order Double)}
  (hne : dataset ≠ []) (config : BenchmarkConfig)

/-- A completed run of Experiment 3 has read each element of the sample once. -/
theorem experiment3_lookups : Triple (fun b => lookups b.calls = [])
    (Experiment3.execute db platform dataset config)
    (fun _ b => (lookups b.calls).Perm (sampledIds platform dataset hne config))
    (fun _ _ => True) := by
  have hconnect : Keeps (fun b => lookups b.calls = []) (connect db) :=
    callDb_calls (C := fun calls => lookups calls = []) fun calls r hr hcalls => by
      rw [lookups_concat, hcalls, CallRecord.lookup, hr]
      rfl
  have hsetup := Experiment3.setup_triple db platform dataset config hne
    (fun _ _ _ => trivial) (outside_lookups [] platform.step) (fun _ => outside_lookups [] _)
    hconnect (.init [])
  have hrun (x : ExperimentObject (List CppString)) :
      Triple (fun b => lookups b.calls = [] ∧ x.own =
          platform.shuffle (Experiment3.shuffleSeed config) 0
            ([] ++ sampledIds platform dataset hne config))
        (Experiment3.run db platform { x with recorder := platform.startTimer x.recorder })
        (fun _ b => (lookups b.calls).Perm (sampledIds platform dataset hne config))
        (fun _ _ => True) := by
    apply Triple.assuming
    intro hids
    apply (timedEach_lookups db platform x.own [] _).bind
    intro recorder b hb
    change (lookups b.calls).Perm _
    rw [hb, hids]
    exact platform.shuffle_perm _ _ _
  exact teardown_after_triple (e := Experiment3.experiment db platform dataset config)
    (hsetup.bind hrun) teardown_triple

/-- On Cassandra, a completed run of Experiment 6 has read the sample twice, in one order. -/
theorem experiment6_lookups (hdb : db.getDbName = lit "cassandra") :
    Triple (fun b => lookups b.calls = []) (Experiment6.execute db platform dataset config)
      (fun _ b => ∃ ids, ids.Perm (sampledIds platform dataset hne config) ∧
        lookups b.calls = ids ++ ids) (fun _ _ => True) := by
  have hsetup := Experiment6.setup_triple platform config hdb hne (E := fun _ _ => True)
    (outside_lookups [] platform.step) (fun _ => outside_lookups [] _) (.init .init)
  have hrun (x : ExperimentObject Experiment6Members) :
      Triple (fun b => lookups b.calls = [] ∧ x.own.shouldSkip = false ∧ x.own.sampleIds =
          platform.shuffle (Experiment6.shuffleSeed config) 0
            ([] ++ sampledIds platform dataset hne config))
        (Experiment6.run db platform x)
        (fun _ b => ∃ ids, ids.Perm (sampledIds platform dataset hne config) ∧
          lookups b.calls = ids ++ ids) (fun _ _ => True) := by
    apply Triple.assuming
    intro hx
    apply (Experiment6.run_triple hx.1 (timedEach_lookups db platform x.own.sampleIds [])
      (timedEach_lookups db platform x.own.sampleIds _) (outside_lookups _ platform.step)
      (outside_lookups _ platform.step) (fun _ _ _ => trivial) fun _ => outside_lookups _ _).mono
      (fun _ hb => hb) ?_ (fun _ _ hb => hb)
    intro _ b hb
    refine ⟨x.own.sampleIds, ?_, hb⟩
    rw [hx.2]
    exact platform.shuffle_perm _ _ _
  exact teardown_after_triple (e := Experiment6.experiment db platform dataset config)
    (hsetup.bind fun x => hrun { x with recorder := platform.startTimer x.recorder })
    teardown_triple

theorem sampleRandomOrders_empty {I : Bench Double σ → Prop} {E : CppString → Bench Double σ → Prop}
    (hthrow : ∀ e b, I b → E e b) (n : Nat) :
    Triple I (sampleRandomOrders platform ([] : List (Order Double)) config n) (fun _ _ => False)
      E := by
  rw [sampleRandomOrders, dif_pos rfl]
  exact hthrow _

theorem experiment3_empty : Triple (fun _ => True)
    (Experiment3.execute db platform [] config) (fun _ _ => False) (fun _ _ => True) := by
  have hstep : Triple (fun _ => True) (step platform : BenchM Double σ Unit) (fun _ _ => True)
      (fun _ _ => True) := outside_triple (fun _ _ _ _ _ => trivial) fun _ _ _ _ _ => trivial
  have hsetup : Triple (fun _ => True) (Experiment3.setup db platform [] config (.init []))
      (fun _ _ => False) (fun _ _ => True) := by
    apply hstep.bind
    intro _
    apply (sampleRandomOrders_empty platform config (fun _ _ h => h) _).bind
    exact fun _ _ h => h.elim
  exact hsetup.bind fun _ _ h => h.elim

theorem experiment6_empty (hdb : db.getDbName = lit "cassandra") : Triple (fun _ => True)
    (Experiment6.execute db platform [] config) (fun _ _ => False) (fun _ _ => True) := by
  have hstep : Triple (fun _ => True) (step platform : BenchM Double σ Unit) (fun _ _ => True)
      (fun _ _ => True) := outside_triple (fun _ _ _ _ _ => trivial) fun _ _ _ _ _ => trivial
  have hsetup : Triple (fun _ => True) (Experiment6.setup db platform [] config (.init .init))
      (fun _ _ => False) (fun _ _ => True) := by
    apply hstep.bind
    intro _
    rw [if_neg (not_not.2 hdb)]
    apply (sampleRandomOrders_empty platform config (fun _ _ h => h) _).bind
    exact fun _ _ h => h.elim
  exact hsetup.bind fun _ _ h => h.elim

end Runs

/-- No key is read twice, so the cache answers none of the reads. -/
def AllCold (reads : List CppString) : Prop := reads.Nodup ∧ warmReads [] reads = []

theorem allCold_iff (reads : List CppString) : AllCold reads ↔ reads.Nodup := by
  rw [AllCold, warmReads_eq_nil_iff]
  simp

def firstPhase (dataset : List (Order Double)) (config : BenchmarkConfig) (b : Bench Double σ) :
    List CppString :=
  (lookups b.calls).take (min config.readSampleSize.toNat dataset.length)

theorem sampledIds_nodup_iff (platform : Platform σ) {dataset : List (Order Double)}
    (hne : dataset ≠ []) (hdistinct : (dataset.map Order.orderId).Nodup)
    (config : BenchmarkConfig) : (sampledIds platform dataset hne config).Nodup ↔
      DistinctDraws platform dataset config config.readSampleSize.toNat :=
  draws_ids_nodup_iff platform hne hdistinct _ _

theorem experiment3_allCold_iff (db : DBInterface Double σ) (platform : Platform σ)
    {dataset : List (Order Double)} (hdistinct : (dataset.map Order.orderId).Nodup)
    (config : BenchmarkConfig)
    (hrun : Experiment3.execute db platform dataset config (.start world) = .ok x b) :
    AllCold (lookups b.calls) ↔
      DistinctDraws platform dataset config config.readSampleSize.toNat := by
  by_cases hempty : dataset = []
  · subst hempty
    exact ((experiment3_empty db platform config).of_ok trivial hrun).elim
  · have hreads := (experiment3_lookups db platform hempty config).of_ok rfl hrun
    rw [allCold_iff, hreads.nodup_iff, sampledIds_nodup_iff platform hempty hdistinct]

theorem experiment6_allCold_iff (db : DBInterface Double σ) (hdb : db.getDbName = lit "cassandra")
    (platform : Platform σ) {dataset : List (Order Double)}
    (hdistinct : (dataset.map Order.orderId).Nodup) (config : BenchmarkConfig)
    (hrun : Experiment6.execute db platform dataset config (.start world) = .ok x b) :
    AllCold (firstPhase dataset config b) ↔
      DistinctDraws platform dataset config config.readSampleSize.toNat := by
  by_cases hempty : dataset = []
  · subst hempty
    exact ((experiment6_empty db platform config hdb).of_ok trivial hrun).elim
  · obtain ⟨ids, hperm, hreads⟩ :=
      (experiment6_lookups db platform hempty config hdb).of_ok rfl hrun
    have hlen : min config.readSampleSize.toNat dataset.length = ids.length := by
      rw [hperm.length_eq, sampledIds, draws, List.length_map, List.length_map, List.length_range]
    rw [firstPhase, hreads, hlen, List.take_left, allCold_iff, hperm.nodup_iff,
      sampledIds_nodup_iff platform hempty hdistinct]

theorem distinctDraws_always_iff {dataset : List (Order Double)} (config : BenchmarkConfig)
    (n : Nat) : (∀ platform : Platform σ, DistinctDraws platform dataset config n) ↔
      min n dataset.length ≤ 1 := by
  constructor
  · intro h
    have hcalm := h .calm
    have hconst : (List.range (min n dataset.length)).map ((.calm : Platform σ).draw
        (config.rngSeed ^^^ 0xFEEDFACE) (dataset.length - 1)) =
          List.replicate (min n dataset.length) (dataset.length - 1) := by
      rw [List.eq_replicate_iff]
      simp [Platform.calm]
    rwa [DistinctDraws, hconst, List.nodup_replicate] at hcalm
  · intro hle platform
    rw [DistinctDraws]
    rcases Nat.le_one_iff_eq_zero_or_eq_one.1 hle with hzero | hone
    · rw [hzero]
      exact List.nodup_nil
    · rw [hone]
      exact List.nodup_singleton _

/-- The sampler draws with replacement: the sample is free of repeats, and the reads of
Experiment 3 and of the first phase of Experiment 6 are all cold, when the draws do not repeat. -/
theorem coldReads_iff {dataset : List (Order Double)}
    (hdistinct : (dataset.map Order.orderId).Nodup) (config : BenchmarkConfig)
    (platform : Platform σ) :
    (∀ n (b : Bench Double σ), SamplesDistinct platform dataset config n b ↔
      dataset ≠ [] ∧ DistinctDraws platform dataset config n) ∧
    (∀ db world x b, Experiment3.execute db platform dataset config (.start world) = .ok x b →
      (AllCold (lookups b.calls) ↔
        DistinctDraws platform dataset config config.readSampleSize.toNat)) ∧
    (∀ db world x b, db.getDbName = lit "cassandra" →
      Experiment6.execute db platform dataset config (.start world) = .ok x b →
      (AllCold (firstPhase dataset config b) ↔
        DistinctDraws platform dataset config config.readSampleSize.toNat)) ∧
    (∀ n, (∀ platform : Platform σ, DistinctDraws platform dataset config n) ↔
      min n dataset.length ≤ 1) :=
  ⟨samplesDistinct_iff platform hdistinct config,
    fun db _ _ _ => experiment3_allCold_iff db platform hdistinct config,
    fun db _ _ _ hdb => experiment6_allCold_iff db hdb platform hdistinct config,
    distinctDraws_always_iff config⟩

/-- The draws go through the dataset from its start. -/
def inOrder : Platform Unit :=
  { (Platform.calm : Platform Unit) with
    draw := fun _ bound i => min i bound
    draw_le := fun _ bound i => Nat.min_le_right i bound }

theorem coldReads_iff_inOrder :
    SamplesDistinct inOrder twoRows ConfigLoader.defaultConfig 2 (.start ()) :=
  ((coldReads_iff (by decide) ConfigLoader.defaultConfig inOrder).1 2 (.start ())).2
    ⟨by decide, by decide⟩

theorem not_samplesDistinct_calm : (twoRows.map Order.orderId).Nodup ∧
    ¬ SamplesDistinct (.calm : Platform Unit) twoRows ConfigLoader.defaultConfig 2 (.start ()) := by
  refine ⟨by decide, fun h => ?_⟩
  obtain ⟨sample, hsample, _, hnodup⟩ := h
  cases hsample
  revert hnodup
  decide

end DbBenchmark
