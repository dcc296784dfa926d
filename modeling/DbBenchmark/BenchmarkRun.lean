import DbBenchmark.ClientLifecycles
import DbBenchmark.GeneratedOrders
import DbBenchmark.LoadedConfigs

namespace DbBenchmark
open Ownership Throwing
set_option autoImplicit true

/-- How the process ends: with a status and what its clients left behind, by an exception that
nobody catches, or without defined behaviour. -/
inductive Ending where
  | exits (status : Nat) (handles : PostgresHandles)
  | terminates
  | undefined

/-- What the process meets outside. `allocates n` says whether there is memory for `n` rows. -/
structure Surroundings (Engine : Type) where
  yamlCpp : YamlCpp
  opening : CppString → Opening
  refusal : String × String → Option CppString
  source : RandomSource Engine
  engine : Engine
  allocates : UInt64 → Bool

variable {Engine : Type} (env : Surroundings Engine)

namespace BenchmarkRun

def allClients (config : BenchmarkConfig) : List (String × PostgresHandlesM Unit) :=
  if config.postgres.enabled then
    [("postgres", PostgresClient.connect config.postgres env.opening env.refusal)]
  else []

def verifyConnections (clients : List (String × PostgresHandlesM Unit)) : PostgresHandlesM Unit :=
  clients.forM fun client => tryCatch client.2 fun e => throw e

def generateData (config : BenchmarkConfig) (handles : PostgresHandles) : Ending :=
  if env.allocates config.totalRows then
    match generate env.source config.rngSeed config.totalRows.toNat env.engine with
    | .ok _ _ => .exits 0 handles.destroyed
    | .error _ _ => .undefined
  else .terminates

def main (args : List CppString) : Ending :=
  match ConfigLoader.load env.yamlCpp (args.head?.getD (lit "./config/benchmark.yaml")) with
  | .error _ => .exits 1 .init
  | .ok config =>
    match verifyConnections (allClients env config) .init with
    | .error _ handles => .exits 1 handles.destroyed
    | .ok _ handles => generateData env config handles

def Loads (args : List CppString) (config : BenchmarkConfig) : Prop :=
  ConfigLoader.load env.yamlCpp (args.head?.getD (lit "./config/benchmark.yaml")) = .ok config

/-- Where Postgres is enabled, its client connects and all statements are prepared. -/
def Verified (config : BenchmarkConfig) : Prop :=
  config.postgres.enabled →
    PostgresHandles.Connects config.postgres (.connect env.opening env.refusal)

end BenchmarkRun

namespace PostgresClient

theorem prepareAll_returns_iff (refusal : String × String → Option CppString)
    (stmts : List (String × String)) (c : PostgresHandles) :
    (∃ c', stmts.forM (prepare refusal) c = .ok () c') ↔ ∀ s ∈ stmts, refusal s = none := by
  induction stmts generalizing c with
  | nil => exact iff_of_true ⟨c, rfl⟩ (List.forall_mem_nil _)
  | cons s stmts ih =>
    rw [List.forall_mem_cons]
    cases hs : refusal s with
    | none =>
      rw [← ih { c with prepared := c.prepared ++ [s.1] }]
      change (∃ c', (prepare refusal s >>= fun _ => stmts.forM (prepare refusal)) c = _) ↔ _
      rw [bind_ok (prepare_ok hs c)]
      exact ⟨fun h => ⟨rfl, h⟩, fun h => h.2⟩
    | some what =>
      change (∃ c', (prepare refusal s >>= fun _ => stmts.forM (prepare refusal)) c = _) ↔ _
      rw [bind_error (prepare_error hs c)]
      apply iff_of_false
      · intro h
        obtain ⟨c', hc'⟩ := h
        cases hc'
      · intro h
        cases h.1

theorem connect_returns_iff (config : DatabaseConfig) (opening : CppString → Opening)
    (refusal : String × String → Option CppString) (c : PostgresHandles) :
    (∃ c', connect config opening refusal c = .ok () c') ↔
      PostgresHandles.Connects config (.connect opening refusal) := by
  rw [connect, PostgresHandles.Connects]
  cases opening (connectionString config) with
  | opens =>
    have hprepared := prepareAll_returns_iff refusal preparedStatements
      ⟨c.conns.replace (), true, true, []⟩
    exact hprepared.trans ⟨fun h => ⟨rfl, h⟩, fun h => h.2⟩
  | brokenConnection what =>
    apply iff_of_false
    · intro h
      obtain ⟨c', hc'⟩ := h
      cases hc'
    · intro h
      cases h.1
  | fails what =>
    apply iff_of_false
    · intro h
      obtain ⟨c', hc'⟩ := h
      cases hc'
    · intro h
      cases h.1

end PostgresClient

namespace BenchmarkRun

variable {env} {config : BenchmarkConfig}

theorem verifyConnections_eq :
    verifyConnections (allClients env config) .init =
      if config.postgres.enabled then
        PostgresClient.connect config.postgres env.opening env.refusal .init
      else .ok () .init := by
  rw [allClients]
  split
  · have hverify : verifyConnections
        [("postgres", PostgresClient.connect config.postgres env.opening env.refusal)] =
          tryCatch (PostgresClient.connect config.postgres env.opening env.refusal)
            fun e => throw e :=
      bind_pure _
    rw [hverify, tryCatch_throw]
  · rfl

theorem verifyConnections_returns_iff :
    (∃ handles, verifyConnections (allClients env config) .init = .ok () handles) ↔
      Verified env config := by
  rw [verifyConnections_eq, Verified]
  split
  · next henabled =>
    rw [PostgresClient.connect_returns_iff]
    exact ⟨fun h _ => h, fun h => h henabled⟩
  · next hdisabled => exact iff_of_true ⟨.init, rfl⟩ fun h => absurd h hdisabled

theorem owned_verifyConnections (env : Surroundings Engine) (config : BenchmarkConfig) :
    (finalState (verifyConnections (allClients env config)) .init).conns.Owned := by
  rw [finalState, verifyConnections_eq]
  by_cases henabled : config.postgres.enabled
  · rw [if_pos henabled]
    exact (PostgresHandles.owned_call_iff config.postgres
      (.connect env.opening env.refusal) .init).2 Holder.owned_init
  · rw [if_neg henabled]
    exact Holder.owned_init

theorem generateData_eq (env : Surroundings Engine) (config : BenchmarkConfig)
    (handles : PostgresHandles) :
    generateData env config handles =
      if env.allocates config.totalRows then
        if config.totalRows = 0 then .exits 0 handles.destroyed else .undefined
      else .terminates := by
  rw [generateData]
  congr 1
  split_ifs with hzero
  · obtain ⟨gen, rng', hconstruct, -⟩ := (construct_triple env.source config.rngSeed
      (E := fun _ _ => False)).returns (s := env.engine) trivial
    have hgenerate : generate env.source config.rngSeed config.totalRows.toNat env.engine =
        .ok (gen, []) rng' := by
      rw [hzero]
      exact bind_ok hconstruct
    rw [hgenerate]
  · have hrows : config.totalRows.toNat ≠ 0 := fun h => hzero (UInt64.toNat_inj.1 h)
    cases hr : generate env.source config.rngSeed config.totalRows.toNat env.engine with
    | ok orders rng' => exact ((generate_undefined _ _ hrows).of_ok trivial hr).elim
    | error e rng' => rfl

/-- Without a config, without a connection that the config asks for, and with both. -/
theorem main_cases (env : Surroundings Engine) (args : List CppString) :
    ((∀ config, ¬ Loads env args config) ∧ main env args = .exits 1 .init) ∨
    ∃ config handles, Loads env args config ∧ handles.conns.Owned ∧
      (¬ Verified env config ∧ main env args = .exits 1 handles.destroyed ∨
        Verified env config ∧ main env args = generateData env config handles) := by
  cases hload : ConfigLoader.load env.yamlCpp
      (args.head?.getD (lit "./config/benchmark.yaml")) with
  | error e =>
    refine .inl ⟨?_, ?_⟩
    · intro config h
      cases hload.symm.trans h
    · rw [main, hload]
  | ok config =>
    have howned := owned_verifyConnections env config
    rw [finalState] at howned
    cases hverify : verifyConnections (allClients env config) .init with
    | error e handles =>
      rw [hverify] at howned
      refine .inr ⟨config, handles, hload, howned, .inl ⟨?_, ?_⟩⟩
      · intro h
        obtain ⟨handles', hok⟩ := verifyConnections_returns_iff.2 h
        cases hverify.symm.trans hok
      · simp only [main, hload, hverify]
    | ok _ handles =>
      rw [hverify] at howned
      refine .inr ⟨config, handles, hload, howned, .inr ⟨?_, ?_⟩⟩
      · exact verifyConnections_returns_iff.1 ⟨handles, hverify⟩
      · simp only [main, hload, hverify]

theorem Loads.unique {args : List CppString} (h : Loads env args config)
    (h' : Loads env args config') : config = config' :=
  Except.ok.inj (h.symm.trans h')

/-- The process exits with 1 exactly if no config is loaded or a connection that it asks for fails,
and with 0 exactly if no rows are asked for; with any other config it has no defined behaviour once
the memory is there. Whatever its status, every connection it has opened has been closed once. -/
theorem main_ends (env : Surroundings Engine) (args : List CppString) :
    (∀ status handles, main env args = .exits status handles →
      status ≤ 1 ∧ handles.conns.FreedOnce) ∧
    ((∃ handles, main env args = .exits 1 handles) ↔
      ∀ config, Loads env args config → ¬ Verified env config) ∧
    ((∃ handles, main env args = .exits 0 handles) ↔ ∃ config, Loads env args config ∧
      Verified env config ∧ env.allocates config.totalRows ∧ config.totalRows = 0) ∧
    (main env args = .undefined ↔ ∃ config, Loads env args config ∧
      Verified env config ∧ env.allocates config.totalRows ∧ config.totalRows ≠ 0) := by
  rcases main_cases env args with ⟨hnone, hmain⟩ | ⟨config, handles, hloads, howned, hrest⟩
  · have hnot (P : BenchmarkConfig → Prop) : ¬ ∃ config, Loads env args config ∧ P config := by
      intro h
      obtain ⟨config, hconfig, -⟩ := h
      exact hnone config hconfig
    rw [hmain]
    refine ⟨?_, iff_of_true ⟨_, rfl⟩ fun config hconfig => absurd hconfig (hnone config),
      iff_of_false (by simp) (hnot _), iff_of_false (by simp) (hnot _)⟩
    intro status handles h
    cases h
    exact ⟨le_rfl, fun h hlt => absurd hlt (Nat.not_lt_zero h)⟩
  · have hfreed := PostgresHandles.freedOnce_destroyed howned
    have hexists (P : BenchmarkConfig → Prop) :
        (∃ config, Loads env args config ∧ P config) ↔ P config := by
      constructor
      · intro h
        obtain ⟨config', hconfig', hP⟩ := h
        exact hloads.unique hconfig' ▸ hP
      · exact fun hP => ⟨config, hloads, hP⟩
    have hforall (P : BenchmarkConfig → Prop) :
        (∀ config, Loads env args config → P config) ↔ P config :=
      ⟨fun h => h config hloads, fun hP config' hconfig' => hloads.unique hconfig' ▸ hP⟩
    rw [hforall, hexists, hexists]
    rcases hrest with ⟨hverified, hmain⟩ | ⟨hverified, hmain⟩
    · rw [hmain]
      refine ⟨?_, iff_of_true ⟨_, rfl⟩ hverified, iff_of_false (by simp) fun h => hverified h.1,
        iff_of_false (by simp) fun h => hverified h.1⟩
      intro status handles' h
      cases h
      exact ⟨le_rfl, hfreed⟩
    · rw [hmain, generateData_eq]
      split_ifs with hallocates hzero
      · refine ⟨?_, iff_of_false (by simp) fun h => h hverified,
          iff_of_true ⟨_, rfl⟩ ⟨hverified, hallocates, hzero⟩,
          iff_of_false (by simp) fun h => h.2.2 hzero⟩
        intro status handles' h
        cases h
        exact ⟨Nat.zero_le 1, hfreed⟩
      · exact ⟨by simp, iff_of_false (by simp) fun h => h hverified,
          iff_of_false (by simp) fun h => hzero h.2.2,
          iff_of_true rfl ⟨hverified, hallocates, hzero⟩⟩
      · exact ⟨by simp, iff_of_false (by simp) fun h => h hverified,
          iff_of_false (by simp) fun h => hallocates h.2.1,
          iff_of_false (by simp) fun h => hallocates h.2.1⟩

end BenchmarkRun

end DbBenchmark
