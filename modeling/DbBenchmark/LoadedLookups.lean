import DbBenchmark.ClientInterfaces
import DbBenchmark.SampledReads

namespace DbBenchmark
open BenchM ExperimentBase Throwing
set_option autoImplicit true

variable {Double σ : Type}

def LooksUpOnly (ids : List CppString) (b : Bench Double σ) : Prop :=
  ∀ id ∈ lookups b.calls, id ∈ ids

section Keeping

variable {ids : List CppString}

theorem callDb_looksUpOnly {call : DbCall Double} {answer : α → Option (OrderObject Double)}
    {m : EStateM CppString σ α}
    (hcall : ∀ orderId, call = .findByPrimaryKey orderId → orderId ∈ ids) :
    Keeps (LooksUpOnly ids) (callDb call answer m) := by
  apply callDb_calls (C := fun calls => ∀ id ∈ lookups calls, id ∈ ids)
  intro calls r hr hcalls id hid
  rw [lookups_concat, List.mem_append] at hid
  rcases hid with hid | hid
  · exact hcalls id hid
  · rw [CallRecord.lookup, hr] at hid
    cases call with
    | findByPrimaryKey orderId =>
      rw [List.mem_singleton.1 hid]
      exact hcall orderId rfl
    | _ => cases hid

theorem outside_looksUpOnly (m : EStateM CppString σ α) :
    Keeps (LooksUpOnly ids) (outside m : BenchM Double σ α) :=
  outside_calls (C := fun calls => ∀ id ∈ lookups calls, id ∈ ids) m

theorem step_looksUpOnly (platform : Platform σ) :
    Keeps (LooksUpOnly ids) (step platform : BenchM Double σ Unit) :=
  outside_looksUpOnly platform.step

theorem otherCall_looksUpOnly {call : DbCall Double} {answer : α → Option (OrderObject Double)}
    {m : EStateM CppString σ α} (hcall : ∀ orderId, call ≠ .findByPrimaryKey orderId) :
    Keeps (LooksUpOnly ids) (callDb call answer m) :=
  callDb_looksUpOnly fun orderId h => absurd h (hcall orderId)

theorem timedEach_looksUpOnly (db : DBInterface Double σ) (platform : Platform σ)
    {held : List CppString} (hheld : ∀ id ∈ held, id ∈ ids) (recorder : LatencyRecorder) :
    Keeps (LooksUpOnly ids) (timedEach platform (findByPrimaryKey db) held recorder) := by
  apply timedEach_keeps ?_ (step_looksUpOnly platform)
  intro orderId hmem
  apply callDb_looksUpOnly
  intro id hid
  cases hid
  exact hheld orderId hmem

end Keeping

theorem mem_of_mem_shuffle (platform : Platform σ) {ids l : List CppString} (h : l = ids)
    (seed : UInt64) (before : Nat) : ∀ id ∈ platform.shuffle seed before l, id ∈ ids := by
  subst h
  exact fun id hid => (platform.shuffle_perm seed before l).mem_iff.1 hid

section Experiments

variable (db : DBInterface Double σ) (platform : Platform σ) {dataset : List (Order Double)}
  {hne : dataset ≠ []} {config : BenchmarkConfig} {ids : List CppString}

theorem experiment3_setup_looksUpOnly (hids : sampledIds platform dataset hne config = ids) :
    Triple (LooksUpOnly ids) (Experiment3.setup db platform dataset config (.init []))
      (fun x b => LooksUpOnly ids b ∧ ∀ id ∈ x.own, id ∈ ids) (fun _ => LooksUpOnly ids) := by
  have hconnect : Keeps (LooksUpOnly ids) (connect db) :=
    otherCall_looksUpOnly fun _ h => nomatch h
  have hsetup := Experiment3.setup_triple db platform dataset config hne (fun _ _ hb => hb)
    (step_looksUpOnly platform) (fun _ => outside_looksUpOnly _) hconnect (.init [])
  apply hsetup.mono (fun _ hb => hb) ?_ (fun _ _ hb => hb)
  intro x b hb
  refine ⟨hb.1, ?_⟩
  rw [hb.2]
  exact mem_of_mem_shuffle platform hids (Experiment3.shuffleSeed config) 0

theorem experiment3_run_looksUpOnly (x : ExperimentObject (List CppString)) :
    Triple (fun b => LooksUpOnly ids b ∧ ∀ id ∈ x.own, id ∈ ids) (Experiment3.run db platform x)
      (fun _ => LooksUpOnly ids) (fun _ => LooksUpOnly ids) := by
  apply Triple.assuming
  intro hheld
  apply (timedEach_looksUpOnly db platform hheld _).bind
  intro _
  exact Triple.skip

theorem experiment3_looksUpOnly (hids : sampledIds platform dataset hne config = ids) :
    Keeps (LooksUpOnly ids) (Experiment3.execute db platform dataset config) := by
  have hsetup := experiment3_setup_looksUpOnly db platform hids
  exact teardown_after_triple (e := Experiment3.experiment db platform dataset config)
    (hsetup.bind fun x => experiment3_run_looksUpOnly db platform
      { x with recorder := platform.startTimer x.recorder }) teardown_triple

theorem experiment4_setup_looksUpOnly (hids : sampledIds platform dataset hne config = ids) :
    Triple (LooksUpOnly ids) (Experiment4.setup db platform dataset config (.init .init))
      (fun x b => LooksUpOnly ids b ∧ ∀ id ∈ x.own.primarySampleIds, id ∈ ids)
      (fun _ => LooksUpOnly ids) := by
  have hskip : Keeps (LooksUpOnly ids) (step platform : BenchM Double σ Unit) :=
    step_looksUpOnly platform
  have hcreate : Keeps (LooksUpOnly ids) (createSecondaryIndex db) :=
    otherCall_looksUpOnly fun _ h => nomatch h
  apply (Experiment4.setup_triple (I := fun _ => LooksUpOnly ids) hne (fun _ => hskip) hcreate
    hskip (.init .init)).mono (fun _ hb => hb) ?_ (fun _ _ hb => hb)
  intro x b hb
  refine ⟨hb.1, ?_⟩
  rw [hb.2]
  exact mem_of_mem_shuffle platform hids (Experiment4.shuffleSeed config) 0

theorem experiment4_run_looksUpOnly (x : ExperimentObject Experiment4Members) :
    Triple (fun b => LooksUpOnly ids b ∧ ∀ id ∈ x.own.primarySampleIds, id ∈ ids)
      (Experiment4.run db platform x) (fun _ => LooksUpOnly ids) (fun _ => LooksUpOnly ids) := by
  apply Triple.assuming
  intro hheld
  apply Experiment4.run_triple (step_looksUpOnly platform)
  · intro orderId hmem
    apply callDb_looksUpOnly
    intro id hid
    cases hid
    exact hheld orderId hmem
  · intro userId _
    exact otherCall_looksUpOnly fun _ h => nomatch h

theorem experiment4_looksUpOnly (hids : sampledIds platform dataset hne config = ids) :
    Keeps (LooksUpOnly ids) (Experiment4.execute db platform dataset config) := by
  have hsetup := experiment4_setup_looksUpOnly db platform hids
  have hdrop : Keeps (LooksUpOnly ids) (dropSecondaryIndex db) :=
    otherCall_looksUpOnly fun _ h => nomatch h
  exact teardown_after_triple (e := Experiment4.experiment db platform dataset config)
    (hsetup.bind fun x => experiment4_run_looksUpOnly db platform
      { x with recorder := platform.startTimer x.recorder })
    fun _ => (step_looksUpOnly platform).bind fun _ => hdrop

theorem experiment6_setup_looksUpOnly (hids : sampledIds platform dataset hne config = ids) :
    Triple (LooksUpOnly ids) (Experiment6.setup db platform dataset config (.init .init))
      (fun x b => LooksUpOnly ids b ∧ ∀ id ∈ x.own.sampleIds, id ∈ ids)
      (fun _ => LooksUpOnly ids) := by
  by_cases hdb : db.getDbName = lit "cassandra"
  · apply (Experiment6.setup_triple platform config hdb hne (step_looksUpOnly platform)
      (fun _ => outside_looksUpOnly _) (.init .init)).mono (fun _ hb => hb) ?_ (fun _ _ hb => hb)
    intro x b hb
    refine ⟨hb.1, ?_⟩
    rw [hb.2.2]
    exact mem_of_mem_shuffle platform hids (Experiment6.shuffleSeed config) 0
  · apply (Experiment6.setup_skips platform config hdb (step_looksUpOnly platform) (.init .init)).mono
      (fun _ hb => hb) ?_ (fun _ _ hb => hb)
    intro x b hb
    refine ⟨hb.1, ?_⟩
    rw [hb.2]
    exact fun _ h => nomatch h

theorem experiment6_run_looksUpOnly (x : ExperimentObject Experiment6Members) :
    Triple (fun b => LooksUpOnly ids b ∧ ∀ id ∈ x.own.sampleIds, id ∈ ids)
      (Experiment6.run db platform x) (fun _ => LooksUpOnly ids) (fun _ => LooksUpOnly ids) := by
  apply Triple.assuming
  intro hheld
  cases hskip : x.own.shouldSkip with
  | true =>
    rw [Experiment6.run, hskip]
    exact Triple.skip
  | false =>
    have hreads := timedEach_looksUpOnly db platform hheld
    exact Experiment6.run_triple hskip hreads hreads (step_looksUpOnly platform)
      (step_looksUpOnly platform) (fun _ _ hb => hb) fun _ => outside_looksUpOnly _

theorem experiment6_looksUpOnly (hids : sampledIds platform dataset hne config = ids) :
    Keeps (LooksUpOnly ids) (Experiment6.execute db platform dataset config) := by
  have hsetup := experiment6_setup_looksUpOnly db platform hids
  exact teardown_after_triple (e := Experiment6.experiment db platform dataset config)
    (hsetup.bind fun x => experiment6_run_looksUpOnly db platform
      { x with recorder := platform.startTimer x.recorder }) teardown_triple

end Experiments

inductive PointReader where
  | experiment3
  | experiment4
  | experiment6

/-- The calls that the execution of an experiment makes, whether it returns or throws. -/
def PointReader.calls (reader : PointReader) (db : DBInterface Double σ) (platform : Platform σ)
    (dataset : List (Order Double)) (config : BenchmarkConfig) (world : σ) :
    List (CallRecord Double σ) :=
  match reader with
  | experiment3 => (finalState (Experiment3.execute db platform dataset config) (.start world)).calls
  | experiment4 => (finalState (Experiment4.execute db platform dataset config) (.start world)).calls
  | experiment6 => (finalState (Experiment6.execute db platform dataset config) (.start world)).calls

/-- Once Experiment 1 has returned, the orders that are looked up are among those it inserted,
whatever the client and the random draws. -/
def LookupsLoaded (dataset : List (Order Double)) (config : BenchmarkConfig) : Prop :=
  ∀ (σ : Type) (db : DBInterface Double σ) (platform : Platform σ) (world later : σ)
    (x : ExperimentObject Unit) (b : Bench Double σ) (reader : PointReader),
    Experiment1.execute db platform dataset config (.start world) = .ok x b →
      ∀ id ∈ lookups (reader.calls db platform dataset config later),
        id ∈ (insertions b.calls).map Order.orderId

theorem calls_looksUpOnly (reader : PointReader) (db : DBInterface Double σ) (platform : Platform σ)
    {dataset : List (Order Double)} (hne : dataset ≠ []) (config : BenchmarkConfig) (world : σ) :
    ∀ id ∈ lookups (reader.calls db platform dataset config world),
      id ∈ sampledIds platform dataset hne config := by
  have hstart : LooksUpOnly (sampledIds platform dataset hne config)
      (.start world : Bench Double σ) := fun _ hid => nomatch hid
  cases reader with
  | experiment3 => exact (experiment3_looksUpOnly db platform rfl).finalState hstart
  | experiment4 => exact (experiment4_looksUpOnly db platform rfl).finalState hstart
  | experiment6 => exact (experiment6_looksUpOnly db platform rfl).finalState hstart

theorem mem_of_mem_sampledIds {platform : Platform σ} {dataset : List (Order Double)}
    {hne : dataset ≠ []} {config : BenchmarkConfig} {id : CppString}
    (h : id ∈ sampledIds platform dataset hne config) : id ∈ dataset.map Order.orderId := by
  obtain ⟨o, ho, rfl⟩ := List.mem_map.1 h
  obtain ⟨i, -, rfl⟩ := List.mem_map.1 ho
  exact List.mem_map_of_mem (List.get_mem dataset _)

def LookedUp (id : CppString) (b : Bench Double σ) : Prop := id ∈ lookups b.calls

theorem callDb_lookedUp {id : CppString} {call : DbCall Double}
    {answer : α → Option (OrderObject Double)} {m : EStateM CppString σ α} :
    Keeps (LookedUp id) (callDb call answer m) := by
  apply callDb_calls (C := fun calls => id ∈ lookups calls)
  intro calls r _ hcalls
  rw [lookups_concat]
  exact List.mem_append_left _ hcalls

theorem findByPrimaryKey_lookedUp (db : DBInterface Double σ) (id : CppString) :
    Triple (fun _ => True) (findByPrimaryKey db id) (fun _ => LookedUp id)
      (fun _ => LookedUp id) := by
  apply callDb_triple
  · intro b a s _ _
    rw [LookedUp, made, lookups_concat]
    exact List.mem_append_right _ (List.mem_singleton_self id)
  · intro b e s _ _
    rw [LookedUp, made, lookups_concat]
    exact List.mem_append_right _ (List.mem_singleton_self id)

theorem step_calm_keeps {I : Bench Double σ → Prop} {E : CppString → Bench Double σ → Prop} :
    Triple I (step .calm) (fun _ => I) E := fun _ hb => hb

theorem sampledIds_calm (dataset : List (Order Double)) (hne : dataset ≠ [])
    (config : BenchmarkConfig) : sampledIds (.calm : Platform σ) dataset hne config =
      List.replicate (min config.readSampleSize.toNat dataset.length)
        (dataset.getLast hne).orderId := by
  rw [List.eq_replicate_iff]
  constructor
  · rw [sampledIds, draws, List.length_map, List.length_map, List.length_range]
  · intro id hid
    obtain ⟨o, ho, rfl⟩ := List.mem_map.1 hid
    obtain ⟨i, -, rfl⟩ := List.mem_map.1 ho
    rw [List.getLast_eq_getElem]
    rfl

theorem timedEach_lookedUp (db : DBInterface Double σ) (id : CppString) (rest : List CppString)
    (recorder : LatencyRecorder) :
    Triple (fun _ => True) (timedEach .calm (findByPrimaryKey db) (id :: rest) recorder)
      (fun _ => LookedUp id) (fun _ => LookedUp id) := by
  have hcall (done : List CppString) (other : CppString) (rest' : List CppString)
      (hsplit : done ++ other :: rest' = id :: rest) :
      Triple (fun b => done ≠ [] → LookedUp id b) (findByPrimaryKey db other)
        (fun _ b => done ++ [other] ≠ [] → LookedUp id b) (fun _ => LookedUp id) := by
    cases done with
    | nil =>
      obtain ⟨rfl, -⟩ := List.cons.inj hsplit
      exact (findByPrimaryKey_lookedUp db other).mono (fun _ _ => trivial) (fun _ _ h _ => h)
        (fun _ _ h => h)
    | cons first done =>
      exact callDb_lookedUp.mono (fun _ h => h (List.cons_ne_nil _ _)) (fun _ _ h _ => h)
        (fun _ _ h => h)
  have hloop := timedEach_triple hcall (fun _ _ => step_calm_keeps) recorder
  exact hloop.mono (fun _ _ h => absurd rfl h) (fun _ _ h => h.1 (List.cons_ne_nil _ _))
    (fun _ _ h => h)

theorem experiment4_looksUpLast (db : DBInterface Double σ) {dataset : List (Order Double)}
    (hne : dataset ≠ []) {config : BenchmarkConfig} (hsample : config.readSampleSize ≠ 0)
    (hindex : Triple (fun _ => True) db.createSecondaryIndex (fun _ _ => True) fun _ _ => False)
    (world : σ) :
    (dataset.getLast hne).orderId ∈
      lookups (PointReader.experiment4.calls db .calm dataset config world) := by
  generalize hlast : (dataset.getLast hne).orderId = last
  obtain ⟨n, hn⟩ : ∃ n, min config.readSampleSize.toNat dataset.length = n + 1 := by
    apply Nat.exists_eq_add_one.2
    have hsize : config.readSampleSize.toNat ≠ 0 := fun h => hsample (UInt64.toNat_inj.1 h)
    have hpos := List.length_pos_iff.2 hne
    omega
  have hsetup : Triple (fun _ => True)
      (Experiment4.setup db .calm dataset config (.init .init))
      (fun x _ => True ∧ x.own.primarySampleIds = List.replicate (n + 1) last)
      (fun _ => LookedUp last) := by
    apply (Experiment4.setup_triple (I := fun _ _ => True) (E := fun _ => LookedUp last) hne
      (fun _ => step_calm_keeps) (callDb_world hindex _ _).of_total step_calm_keeps
      (.init .init)).mono (fun _ hb => hb) ?_ (fun _ _ hb => hb)
    intro x b hb
    rw [hb.2, sampledIds_calm, hn, hlast]
    exact ⟨trivial, rfl⟩
  have hrun (x : ExperimentObject Experiment4Members) :
      Triple (fun _ => True ∧ x.own.primarySampleIds = List.replicate (n + 1) last)
        (Experiment4.run db .calm { x with recorder := (.calm : Platform σ).startTimer x.recorder })
        (fun _ => LookedUp last) (fun _ => LookedUp last) := by
    apply Triple.assuming
    intro hids
    rw [Experiment4.run, hids]
    apply step_calm_keeps.bind
    intro _
    apply (timedEach_lookedUp db last _ _).bind
    intro _
    apply (nowNs_triple .calm).bind
    intro _
    apply step_calm_keeps.bind
    intro _
    apply (timedEach_keeps (fun _ _ => callDb_lookedUp) step_calm_keeps _).bind
    intro _
    exact (nowNs_triple .calm).bind fun _ => Triple.skip
  have hexecute := teardown_after_triple (e := Experiment4.experiment db .calm dataset config)
    (hsetup.bind hrun) fun _ => step_calm_keeps.bind fun _ => callDb_lookedUp
  exact hexecute.finalState trivial

theorem lookupsLoaded_of_rows {dataset : List (Order Double)} (hne : dataset ≠ [])
    {config : BenchmarkConfig}
    (h : dataset.length ≤ config.totalRows.toNat ∨ config.readSampleSize = 0) :
    LookupsLoaded dataset config := by
  intro σ db platform world later x b reader hload id hid
  have hsampled := calls_looksUpOnly reader db platform hne config later id hid
  rw [((experiment1_inserts db platform dataset config).of_ok rfl hload).1]
  rcases h with hrows | hsample
  · rw [rowsToLoad, min_eq_left hrows, List.take_length]
    exact mem_of_mem_sampledIds hsampled
  · rw [sampledIds, hsample] at hsampled
    obtain ⟨o, ho, -⟩ := List.mem_map.1 hsampled
    obtain ⟨i, hi, -⟩ := List.mem_map.1 ho
    simp at hi

/-- The loader stops at `total_rows`, but the sampler draws from the whole dataset. -/
theorem not_lookupsLoaded_of_rows {dataset : List (Order Double)} (hne : dataset ≠ [])
    (hdistinct : (dataset.map Order.orderId).Nodup) {config : BenchmarkConfig}
    (hrows : config.totalRows.toNat < dataset.length) (hsample : config.readSampleSize ≠ 0) :
    ¬ LookupsLoaded dataset config := by
  intro h
  obtain ⟨x, b, hload⟩ := experiment1_cassandra_returns dataset config
  have hinserted := (experiment1_inserts _ _ _ _).of_ok rfl hload
  have hlooked := experiment4_looksUpLast (CassandraClient.dbInterface fun _ _ => pure []) hne
    hsample Triple.skip ⟨.healthy .empty, .init⟩
  have hmem := h _ _ _ _ _ x b .experiment4 hload _ hlooked
  rw [hinserted.1, List.map_take] at hmem
  have hcut : rowsToLoad dataset config < (dataset.map Order.orderId).length := by
    rw [List.length_map, rowsToLoad]
    omega
  have hdrop : (dataset.getLast hne).orderId ∈
      (dataset.map Order.orderId).drop (rowsToLoad dataset config) := by
    have hlast := List.getLast_mem (List.drop_eq_nil_iff.not.2 hcut.not_ge)
    rw [List.getLast_drop, List.getLast_map] at hlast
    exact hlast
  exact List.disjoint_take_drop hdistinct le_rfl hmem hdrop

theorem lookupsLoaded_iff {dataset : List (Order Double)} (hne : dataset ≠ [])
    (hdistinct : (dataset.map Order.orderId).Nodup) (config : BenchmarkConfig) :
    LookupsLoaded dataset config ↔
      dataset.length ≤ config.totalRows.toNat ∨ config.readSampleSize = 0 := by
  apply Iff.intro ?_ (lookupsLoaded_of_rows hne)
  intro h
  by_contra hcon
  obtain ⟨hrows, hsample⟩ := not_or.1 hcon
  exact not_lookupsLoaded_of_rows hne hdistinct (Nat.lt_of_not_le hrows) hsample h

def oneRowOfTwo : BenchmarkConfig :=
  { ConfigLoader.defaultConfig with totalRows := 1, readSampleSize := 1 }

theorem lookupsLoaded_iff_twoRows :
    LookupsLoaded twoRows oneRowOfTwo ↔
      twoRows.length ≤ oneRowOfTwo.totalRows.toNat ∨ oneRowOfTwo.readSampleSize = 0 :=
  lookupsLoaded_iff (by decide) (by decide) oneRowOfTwo

theorem not_lookupsLoaded_twoRows : ¬ LookupsLoaded twoRows oneRowOfTwo :=
  not_lookupsLoaded_of_rows (by decide) (by decide) (by decide) (by decide)

end DbBenchmark
