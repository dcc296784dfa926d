import DbBenchmark.ConfigLoader

namespace DbBenchmark
open Throwing
set_option autoImplicit true

def YamlNode.HasSubscripts : YamlNode → Prop
  | .scalar _ => False
  | _ => True

namespace ConfigLoader

variable {yamlCpp : YamlCpp} {yaml node : YamlNode} {config : BenchmarkConfig}

theorem subscript_eq_ok_iff : node.subscript key = .ok given ↔
    node.HasSubscripts ∧ given = node.entry? key := by
  cases node with
  | scalar text =>
    constructor
    · intro h
      cases h
    · exact fun h => h.1.elim
  | _ =>
    constructor
    · intro h
      exact ⟨trivial, (Except.ok.inj h).symm⟩
    · intro h
      rw [h.2]
      rfl

theorem getOr_eq_ok_iff {as : YamlNode → Except CppString α} {defaultVal value : α} :
    getOr as node key defaultVal = .ok value ↔
      node.HasSubscripts ∧ Supplied as (node.entry? (lit key)) defaultVal value := by
  rw [getOr, except_bind_eq_ok_iff]
  simp only [subscript_eq_ok_iff, and_assoc, exists_and_left, exists_eq_left]
  cases node.entry? (lit key) with
  | none =>
    have hvalue : (Except.ok defaultVal : Except CppString α) = .ok value ↔
        value = defaultVal := by
      rw [Except.ok.injEq, eq_comm]
    exact and_congr_right fun _ => hvalue
  | some given => exact Iff.rfl

/-- The branch of an absent section. -/
def absentSection : DatabaseConfig where
  host := lit "default_host"
  port := 1234
  username := lit "default_user"
  password := lit "default_pass"
  databaseName := lit "benchmark"
  enabled := true

def SectionFrom (yamlCpp : YamlCpp) (defaults : DatabaseConfig) (cfg : DatabaseConfig) :
    Option YamlNode → Prop
  | none => cfg = absentSection
  | some node => node.HasSubscripts ∧
      SectionAsGiven yamlCpp (fun key => node.entry? (lit key)) defaults cfg

theorem parseDbConfig_eq_ok_iff (s : DbSection) {given : Option YamlNode} {cfg : DatabaseConfig} :
    parseDbConfig yamlCpp given "localhost" s.defaultPort s.defaultUser s.defaultUser = .ok cfg ↔
      SectionFrom yamlCpp s.defaults cfg given := by
  cases given with
  | none =>
    rw [SectionFrom, eq_comm]
    exact ⟨fun h => Except.ok.inj h.symm ▸ rfl, fun h => h ▸ rfl⟩
  | some node =>
    constructor
    · intro h
      refine ⟨?_, parseDbConfig_present h⟩
      obtain ⟨host, hhost, -⟩ := except_bind_ok h
      exact (getOr_eq_ok_iff.1 hhost).1
    · intro h
      obtain ⟨hnode, hcfg⟩ := h
      apply except_bind_eq_ok_iff.2 ⟨_, getOr_eq_ok_iff.2 ⟨hnode, hcfg.host⟩, _⟩
      apply except_bind_eq_ok_iff.2 ⟨_, getOr_eq_ok_iff.2 ⟨hnode, hcfg.port⟩, _⟩
      apply except_bind_eq_ok_iff.2 ⟨_, getOr_eq_ok_iff.2 ⟨hnode, hcfg.username⟩, _⟩
      apply except_bind_eq_ok_iff.2 ⟨_, getOr_eq_ok_iff.2 ⟨hnode, hcfg.password⟩, _⟩
      apply except_bind_eq_ok_iff.2 ⟨_, getOr_eq_ok_iff.2 ⟨hnode, hcfg.databaseName⟩, _⟩
      apply except_bind_eq_ok_iff.2 ⟨_, getOr_eq_ok_iff.2 ⟨hnode, hcfg.enabled⟩, _⟩
      rfl

/-- Each member has what the document gives under its key, and the default without the key. -/
structure ConfigFrom (yamlCpp : YamlCpp) (yaml : YamlNode) (config : BenchmarkConfig) : Prop where
  root : yaml.HasSubscripts
  totalRows : Supplied yamlCpp.asUInt64 (yaml.entry? (lit "total_rows"))
    defaultConfig.totalRows config.totalRows
  readSampleSize : Supplied yamlCpp.asUInt64 (yaml.entry? (lit "read_sample_size"))
    defaultConfig.readSampleSize config.readSampleSize
  batchSize : Supplied yamlCpp.asUInt32 (yaml.entry? (lit "batch_size"))
    defaultConfig.batchSize config.batchSize
  threadCount : Supplied yamlCpp.asUInt32 (yaml.entry? (lit "thread_count"))
    defaultConfig.threadCount config.threadCount
  descriptionLength : Supplied yamlCpp.asUInt32 (yaml.entry? (lit "description_length"))
    defaultConfig.descriptionLength config.descriptionLength
  rngSeed : Supplied yamlCpp.asUInt64 (yaml.entry? (lit "rng_seed"))
    defaultConfig.rngSeed config.rngSeed
  rangeWindowSmall : Supplied yamlCpp.asInt32 (yaml.entry? (lit "range_window_small"))
    defaultConfig.rangeWindowSmall config.rangeWindowSmall
  rangeWindowMedium : Supplied yamlCpp.asInt32 (yaml.entry? (lit "range_window_medium"))
    defaultConfig.rangeWindowMedium config.rangeWindowMedium
  rangeWindowLarge : Supplied yamlCpp.asInt32 (yaml.entry? (lit "range_window_large"))
    defaultConfig.rangeWindowLarge config.rangeWindowLarge
  resultsDir : Supplied yamlCpp.asString (yaml.entry? (lit "results_dir"))
    defaultConfig.resultsDir config.resultsDir
  sections : ∀ s : DbSection,
    SectionFrom yamlCpp s.defaults (s.of config) (yaml.entry? (lit s.key))

theorem configFrom_of_parse (h : parse yamlCpp yaml = .ok config) :
    ConfigFrom yamlCpp yaml config := by
  have hsections (s : DbSection) := (parseDbConfig_eq_ok_iff s).1 (parse_section h s)
  obtain ⟨totalRows, htotalRows, h⟩ := except_bind_ok h
  obtain ⟨readSampleSize, hreadSampleSize, h⟩ := except_bind_ok h
  obtain ⟨batchSize, hbatchSize, h⟩ := except_bind_ok h
  obtain ⟨threadCount, hthreadCount, h⟩ := except_bind_ok h
  obtain ⟨descriptionLength, hdescriptionLength, h⟩ := except_bind_ok h
  obtain ⟨rngSeed, hrngSeed, h⟩ := except_bind_ok h
  obtain ⟨rangeWindowSmall, hrangeWindowSmall, h⟩ := except_bind_ok h
  obtain ⟨rangeWindowMedium, hrangeWindowMedium, h⟩ := except_bind_ok h
  obtain ⟨rangeWindowLarge, hrangeWindowLarge, h⟩ := except_bind_ok h
  obtain ⟨resultsDir, hresultsDir, h⟩ := except_bind_ok h
  obtain ⟨postgresNode, -, h⟩ := except_bind_ok h
  obtain ⟨postgres, -, h⟩ := except_bind_ok h
  obtain ⟨mongoNode, -, h⟩ := except_bind_ok h
  obtain ⟨mongo, -, h⟩ := except_bind_ok h
  obtain ⟨cassandraNode, -, h⟩ := except_bind_ok h
  obtain ⟨cassandra, -, h⟩ := except_bind_ok h
  cases h
  exact {
    root := (getOr_eq_ok_iff.1 htotalRows).1
    totalRows := supplied_of_getOr htotalRows
    readSampleSize := supplied_of_getOr hreadSampleSize
    batchSize := supplied_of_getOr hbatchSize
    threadCount := supplied_of_getOr hthreadCount
    descriptionLength := supplied_of_getOr hdescriptionLength
    rngSeed := supplied_of_getOr hrngSeed
    rangeWindowSmall := supplied_of_getOr hrangeWindowSmall
    rangeWindowMedium := supplied_of_getOr hrangeWindowMedium
    rangeWindowLarge := supplied_of_getOr hrangeWindowLarge
    resultsDir := supplied_of_getOr hresultsDir
    sections := hsections }

theorem parse_of_configFrom (h : ConfigFrom yamlCpp yaml config) :
    parse yamlCpp yaml = .ok config := by
  have hgiven {α : Type} {as : YamlNode → Except CppString α} {key : String} {defaultVal value : α}
      (hvalue : Supplied as (yaml.entry? (lit key)) defaultVal value) :
      getOr as yaml key defaultVal = .ok value :=
    getOr_eq_ok_iff.2 ⟨h.root, hvalue⟩
  have hnode (s : DbSection) : yaml.subscript (lit s.key) = .ok (yaml.entry? (lit s.key)) :=
    subscript_eq_ok_iff.2 ⟨h.root, rfl⟩
  have hsection (s : DbSection) := (parseDbConfig_eq_ok_iff s).2 (h.sections s)
  apply except_bind_eq_ok_iff.2 ⟨_, hgiven h.totalRows, _⟩
  apply except_bind_eq_ok_iff.2 ⟨_, hgiven h.readSampleSize, _⟩
  apply except_bind_eq_ok_iff.2 ⟨_, hgiven h.batchSize, _⟩
  apply except_bind_eq_ok_iff.2 ⟨_, hgiven h.threadCount, _⟩
  apply except_bind_eq_ok_iff.2 ⟨_, hgiven h.descriptionLength, _⟩
  apply except_bind_eq_ok_iff.2 ⟨_, hgiven h.rngSeed, _⟩
  apply except_bind_eq_ok_iff.2 ⟨_, hgiven h.rangeWindowSmall, _⟩
  apply except_bind_eq_ok_iff.2 ⟨_, hgiven h.rangeWindowMedium, _⟩
  apply except_bind_eq_ok_iff.2 ⟨_, hgiven h.rangeWindowLarge, _⟩
  apply except_bind_eq_ok_iff.2 ⟨_, hgiven h.resultsDir, _⟩
  apply except_bind_eq_ok_iff.2 ⟨_, hnode .postgres, _⟩
  apply except_bind_eq_ok_iff.2 ⟨_, hsection .postgres, _⟩
  apply except_bind_eq_ok_iff.2 ⟨_, hnode .mongo, _⟩
  apply except_bind_eq_ok_iff.2 ⟨_, hsection .mongo, _⟩
  apply except_bind_eq_ok_iff.2 ⟨_, hnode .cassandra, _⟩
  apply except_bind_eq_ok_iff.2 ⟨_, hsection .cassandra, _⟩
  rfl

theorem parse_eq_ok_iff : parse yamlCpp yaml = .ok config ↔ ConfigFrom yamlCpp yaml config :=
  ⟨configFrom_of_parse, parse_of_configFrom⟩

/-- A file is accepted exactly if it is read, its root and the sections it has are no scalars, and
what stands under each known key converts; nothing else in the document has an influence. -/
theorem load_eq_ok_iff (yamlCpp : YamlCpp) (path : CppString) (config : BenchmarkConfig) :
    load yamlCpp path = .ok config ↔
      ∃ yaml, yamlCpp.loadFile path = .ok yaml ∧ ConfigFrom yamlCpp yaml config := by
  rw [load]
  cases yamlCpp.loadFile path with
  | ok yaml =>
    simp only [Except.ok.injEq, exists_eq_left', parse_eq_ok_iff]
  | error e =>
    have hfails : ¬ ∃ yaml, (Except.error e : Except YamlLoadError YamlNode) = .ok yaml ∧
        ConfigFrom yamlCpp yaml config := by
      intro h
      obtain ⟨yaml, hyaml, -⟩ := h
      cases hyaml
    have hthrows (what : CppString) : ¬ (Except.error what : Except CppString _) = .ok config := by
      intro h
      cases h
    cases e with
    | badFile what => exact iff_of_false (hthrows _) hfails
    | parserException what => exact iff_of_false (hthrows _) hfails

end ConfigLoader

end DbBenchmark
