import DbBenchmark.CppString
import DbBenchmark.Throwing

namespace DbBenchmark
open Throwing
set_option autoImplicit true

structure DatabaseConfig where
  host : CppString
  port : UInt16
  username : CppString
  password : CppString
  databaseName : CppString
  enabled : Bool
deriving DecidableEq

/-- Where the source says `totalrows` and `range_window_samll`, the members declared are meant. -/
structure BenchmarkConfig where
  totalRows : UInt64
  readSampleSize : UInt64
  batchSize : UInt32
  threadCount : UInt32
  descriptionLength : UInt32
  rangeWindowSmall : Int32
  rangeWindowMedium : Int32
  rangeWindowLarge : Int32
  resultsDir : CppString
  rngSeed : UInt64
  postgres : DatabaseConfig
  mongo : DatabaseConfig
  cassandra : DatabaseConfig
deriving DecidableEq

inductive YamlNode where
  | null
  | scalar (text : CppString)
  | sequence (items : List YamlNode)
  | map (entries : List (YamlNode × YamlNode))

namespace YamlNode

def isKey (key : CppString) : YamlNode → Bool
  | scalar text => text = key
  | _ => false

/-- The entry of a map under a key; every other node has none. -/
def entry? (key : CppString) : YamlNode → Option YamlNode
  | map entries => (entries.find? fun e => e.1.isKey key).map Prod.snd
  | _ => none

/-- `node[key]`; the node of an absent key is not defined, and a scalar has no subscripts. -/
def subscript (node : YamlNode) (key : CppString) : Except CppString (Option YamlNode) :=
  match node with
  | scalar _ => throw (lit "operator[] call on a scalar (key: \"" ++ key ++ lit "\")")
  | _ => return node.entry? key

end YamlNode

inductive YamlLoadError where
  | badFile (what : CppString)
  | parserException (what : CppString)

/-- What the loader uses of yaml-cpp: reading a file, and the conversions `as<T>`. -/
structure YamlCpp where
  loadFile : CppString → Except YamlLoadError YamlNode
  asString : YamlNode → Except CppString CppString
  asUInt16 : YamlNode → Except CppString UInt16
  asUInt32 : YamlNode → Except CppString UInt32
  asUInt64 : YamlNode → Except CppString UInt64
  asInt32 : YamlNode → Except CppString Int32
  asBool : YamlNode → Except CppString Bool

namespace ConfigLoader

def getOr (as : YamlNode → Except CppString α) (node : YamlNode) (key : String) (defaultVal : α) :
    Except CppString α := do
  match ← node.subscript (lit key) with
  | some value => as value
  | none => return defaultVal

def parseDbConfig (yamlCpp : YamlCpp) (node : Option YamlNode) (defaultHost : String)
    (defaultPort : UInt16) (defaultUser defaultPass : String) : Except CppString DatabaseConfig := do
  match node with
  | none =>
    -- the names of the parameters stand in quotes
    return { host := lit "default_host", port := 1234, username := lit "default_user",
             password := lit "default_pass", databaseName := lit "benchmark", enabled := true }
  | some node =>
    let host ← getOr yamlCpp.asString node "host" (lit defaultHost)
    let port ← getOr yamlCpp.asUInt16 node "port" defaultPort
    let username ← getOr yamlCpp.asString node "username" (lit defaultUser)
    let password ← getOr yamlCpp.asString node "password" (lit defaultPass)
    let databaseName ← getOr yamlCpp.asString node "database_name" (lit "benchmark")
    let enabled ← getOr yamlCpp.asBool node "enabled" true
    return { host, port, username, password, databaseName, enabled }

def parse (yamlCpp : YamlCpp) (yaml : YamlNode) : Except CppString BenchmarkConfig := do
  let totalRows ← getOr yamlCpp.asUInt64 yaml "total_rows" 1000000
  let readSampleSize ← getOr yamlCpp.asUInt64 yaml "read_sample_size" 10000
  let batchSize ← getOr yamlCpp.asUInt32 yaml "batch_size" 500
  let threadCount ← getOr yamlCpp.asUInt32 yaml "thread_count" 8
  let descriptionLength ← getOr yamlCpp.asUInt32 yaml "description_length" 500
  let rngSeed ← getOr yamlCpp.asUInt64 yaml "rng_seed" 42
  let rangeWindowSmall ← getOr yamlCpp.asInt32 yaml "range_window_small" 1
  let rangeWindowMedium ← getOr yamlCpp.asInt32 yaml "range_window_medium" 7
  let rangeWindowLarge ← getOr yamlCpp.asInt32 yaml "range_window_large" 30
  let resultsDir ← getOr yamlCpp.asString yaml "results_dir" (lit "./results")
  let postgres ← parseDbConfig yamlCpp (← yaml.subscript (lit "postgres"))
    "localhost" 5432 "bench" "bench"
  let mongo ← parseDbConfig yamlCpp (← yaml.subscript (lit "mongo")) "localhost" 27017 "bench" "bench"
  let cassandra ← parseDbConfig yamlCpp (← yaml.subscript (lit "cassandra"))
    "localhost" 9042 "cassandra" "cassandra"
  return { totalRows, readSampleSize, batchSize, threadCount, descriptionLength, rangeWindowSmall,
           rangeWindowMedium, rangeWindowLarge, resultsDir, rngSeed, postgres, mongo, cassandra }

def load (yamlCpp : YamlCpp) (path : CppString) : Except CppString BenchmarkConfig :=
  match yamlCpp.loadFile path with
  | .error (.badFile what) =>
    throw (lit "ConfigLoader cannot open config file: " ++ path ++ lit "\n" ++ what)
  | .error (.parserException what) =>
    throw (lit "ConfigLoader YAML parse error inn " ++ path ++ lit "\n" ++ what)
  | .ok yaml => parse yamlCpp yaml

/-- A key that is there gives the value it converts to, and one that is not the default. -/
def Supplied (as : YamlNode → Except CppString α) (given : Option YamlNode)
    (defaultVal value : α) : Prop :=
  match given with
  | some node => as node = .ok value
  | none => value = defaultVal

theorem subscript_ok {node : YamlNode} (h : node.subscript key = .ok given) :
    given = node.entry? key := by
  cases node with
  | scalar text => cases h
  | _ => exact (Except.ok.inj h).symm

theorem supplied_of_getOr {node : YamlNode} {defaultVal value : α}
    (h : getOr as node key defaultVal = .ok value) :
    Supplied as (node.entry? (lit key)) defaultVal value := by
  obtain ⟨given, hgiven, hvalue⟩ := except_bind_ok h
  rw [← subscript_ok hgiven]
  cases given with
  | none => exact (Except.ok.inj hvalue).symm
  | some node => exact hvalue

structure SectionAsGiven (yamlCpp : YamlCpp) (given : String → Option YamlNode)
    (defaults cfg : DatabaseConfig) : Prop where
  host : Supplied yamlCpp.asString (given "host") defaults.host cfg.host
  port : Supplied yamlCpp.asUInt16 (given "port") defaults.port cfg.port
  username : Supplied yamlCpp.asString (given "username") defaults.username cfg.username
  password : Supplied yamlCpp.asString (given "password") defaults.password cfg.password
  databaseName : Supplied yamlCpp.asString (given "database_name") defaults.databaseName
    cfg.databaseName
  enabled : Supplied yamlCpp.asBool (given "enabled") defaults.enabled cfg.enabled

theorem parseDbConfig_present {node : YamlNode}
    (h : parseDbConfig yamlCpp (some node) defaultHost defaultPort defaultUser defaultPass = .ok cfg) :
    SectionAsGiven yamlCpp (fun key => node.entry? (lit key))
      { host := lit defaultHost, port := defaultPort, username := lit defaultUser,
        password := lit defaultPass, databaseName := lit "benchmark", enabled := true } cfg := by
  obtain ⟨host, hhost, h⟩ := except_bind_ok h
  obtain ⟨port, hport, h⟩ := except_bind_ok h
  obtain ⟨username, husername, h⟩ := except_bind_ok h
  obtain ⟨password, hpassword, h⟩ := except_bind_ok h
  obtain ⟨databaseName, hdatabaseName, h⟩ := except_bind_ok h
  obtain ⟨enabled, henabled, h⟩ := except_bind_ok h
  cases h
  exact {
    host := supplied_of_getOr hhost
    port := supplied_of_getOr hport
    username := supplied_of_getOr husername
    password := supplied_of_getOr hpassword
    databaseName := supplied_of_getOr hdatabaseName
    enabled := supplied_of_getOr henabled }

theorem parseDbConfig_absent
    (h : parseDbConfig yamlCpp none defaultHost defaultPort defaultUser defaultPass = .ok cfg) :
    cfg.host = lit "default_host" := by
  cases h
  rfl

inductive DbSection where
  | postgres
  | mongo
  | cassandra
deriving DecidableEq

namespace DbSection

def key : DbSection → String
  | postgres => "postgres"
  | mongo => "mongo"
  | cassandra => "cassandra"

def of (config : BenchmarkConfig) : DbSection → DatabaseConfig
  | postgres => config.postgres
  | mongo => config.mongo
  | cassandra => config.cassandra

def defaultPort : DbSection → UInt16
  | postgres => 5432
  | mongo => 27017
  | cassandra => 9042

/-- The default user name, which is the default password too. -/
def defaultUser : DbSection → String
  | postgres => "bench"
  | mongo => "bench"
  | cassandra => "cassandra"

/-- The defaults that `load` passes for the section. -/
def defaults (s : DbSection) : DatabaseConfig where
  host := lit "localhost"
  port := s.defaultPort
  username := lit s.defaultUser
  password := lit s.defaultUser
  databaseName := lit "benchmark"
  enabled := true

def given (yaml : YamlNode) (s : DbSection) (key : String) : Option YamlNode :=
  (yaml.entry? (lit s.key)).bind fun node => node.entry? (lit key)

end DbSection

def defaultConfig : BenchmarkConfig where
  totalRows := 1000000
  readSampleSize := 10000
  batchSize := 500
  threadCount := 8
  descriptionLength := 500
  rangeWindowSmall := 1
  rangeWindowMedium := 7
  rangeWindowLarge := 30
  resultsDir := lit "./results"
  rngSeed := 42
  postgres := DbSection.postgres.defaults
  mongo := DbSection.mongo.defaults
  cassandra := DbSection.cassandra.defaults

theorem parse_section (h : parse yamlCpp yaml = .ok config) (s : DbSection) :
    parseDbConfig yamlCpp (yaml.entry? (lit s.key)) "localhost" s.defaultPort s.defaultUser
      s.defaultUser = .ok (s.of config) := by
  obtain ⟨totalRows, -, h⟩ := except_bind_ok h
  obtain ⟨readSampleSize, -, h⟩ := except_bind_ok h
  obtain ⟨batchSize, -, h⟩ := except_bind_ok h
  obtain ⟨threadCount, -, h⟩ := except_bind_ok h
  obtain ⟨descriptionLength, -, h⟩ := except_bind_ok h
  obtain ⟨rngSeed, -, h⟩ := except_bind_ok h
  obtain ⟨rangeWindowSmall, -, h⟩ := except_bind_ok h
  obtain ⟨rangeWindowMedium, -, h⟩ := except_bind_ok h
  obtain ⟨rangeWindowLarge, -, h⟩ := except_bind_ok h
  obtain ⟨resultsDir, -, h⟩ := except_bind_ok h
  obtain ⟨postgresNode, hpostgresNode, h⟩ := except_bind_ok h
  obtain ⟨postgres, hpostgres, h⟩ := except_bind_ok h
  obtain ⟨mongoNode, hmongoNode, h⟩ := except_bind_ok h
  obtain ⟨mongo, hmongo, h⟩ := except_bind_ok h
  obtain ⟨cassandraNode, hcassandraNode, h⟩ := except_bind_ok h
  obtain ⟨cassandra, hcassandra, h⟩ := except_bind_ok h
  cases h
  cases s with
  | postgres =>
    rw [subscript_ok hpostgresNode] at hpostgres
    exact hpostgres
  | mongo =>
    rw [subscript_ok hmongoNode] at hmongo
    exact hmongo
  | cassandra =>
    rw [subscript_ok hcassandraNode] at hcassandra
    exact hcassandra

/-- The keys of a section are read as given, and default as passed, exactly when the section is
there: the branch for an absent section has other defaults. -/
theorem sectionAsGiven_iff (hfile : yamlCpp.loadFile path = .ok yaml)
    (hload : load yamlCpp path = .ok config) (s : DbSection) :
    SectionAsGiven yamlCpp (s.given yaml) s.defaults (s.of config) ↔
      (yaml.entry? (lit s.key)).isSome := by
  have hparse : parse yamlCpp yaml = .ok config := by
    rw [load, hfile] at hload
    exact hload
  have hsection := parse_section hparse s
  cases hnode : yaml.entry? (lit s.key) with
  | some node =>
    rw [hnode] at hsection
    have hgiven : s.given yaml = fun key => node.entry? (lit key) := by
      funext key
      rw [DbSection.given, hnode, Option.bind_some]
    rw [hgiven]
    exact iff_of_true (parseDbConfig_present hsection) rfl
  | none =>
    rw [hnode] at hsection
    apply iff_of_false
    · intro h
      have hnone : s.given yaml "host" = none := by rw [DbSection.given, hnode, Option.bind_none]
      have hhost := h.host
      rw [hnone] at hhost
      have hne : lit "default_host" ≠ lit "localhost" := by decide
      exact hne ((parseDbConfig_absent hsection).symm.trans hhost)
    · exact Bool.false_ne_true

def plainYaml (yaml : YamlNode) : YamlCpp where
  loadFile _ := .ok yaml
  asString := text
  asUInt16 node := UInt16.ofNat <$> number node
  asUInt32 node := UInt32.ofNat <$> number node
  asUInt64 node := UInt64.ofNat <$> number node
  asInt32 node := Int32.ofNat <$> number node
  asBool node := (· = lit "true") <$> text node
where
  text : YamlNode → Except CppString CppString
    | .scalar text => .ok text
    | _ => .error (lit "bad conversion")
  number (node : YamlNode) : Except CppString Nat := do
    let digits ← text node
    return digits.foldl (fun n d => 10 * n + (d - 48).toNat) 0

def onlyHost : YamlNode :=
  .map [(.scalar (lit "mongo"), .map [(.scalar (lit "host"), .scalar (lit "db.local"))])]

theorem sectionAsGiven_iff_onlyHost :
    ∃ config, load (plainYaml onlyHost) [] = .ok config ∧
      (SectionAsGiven (plainYaml onlyHost) (DbSection.mongo.given onlyHost) DbSection.mongo.defaults
        config.mongo ↔ (onlyHost.entry? (lit "mongo")).isSome) := by
  have hfile : (plainYaml onlyHost).loadFile [] = .ok onlyHost := rfl
  exact ⟨_, rfl, sectionAsGiven_iff hfile rfl .mongo⟩

def emptySection : YamlNode := .map [(.scalar (lit "postgres"), .null)]

/-- An empty section gives the defaults that `load` passes, and an absent one gives others. -/
theorem absentSection_not_asGiven :
    ∃ absent empty, load (plainYaml (.map [])) [] = .ok absent ∧
      load (plainYaml emptySection) [] = .ok empty ∧
      empty.postgres = DbSection.postgres.defaults ∧ absent.postgres ≠ empty.postgres ∧
      ¬ SectionAsGiven (plainYaml (.map [])) (DbSection.postgres.given (.map []))
        DbSection.postgres.defaults absent.postgres := by
  refine ⟨_, _, rfl, rfl, by decide +kernel, by decide +kernel, ?_⟩
  intro h
  have hhost := h.host
  revert hhost
  change lit "default_host" ≠ lit "localhost"
  decide

end ConfigLoader

end DbBenchmark
