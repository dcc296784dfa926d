import DbBenchmark.CassandraLifecycle
import DbBenchmark.ExperimentBase
import DbBenchmark.Faults
import DbBenchmark.MongoClient

namespace DbBenchmark
open Keyed Throwing Throwing.Faulty
set_option autoImplicit true

variable {Double : Type}

structure MongoDatabase (Double : Type) where
  orders : Collection Double
  indexes : List String

abbrev MongoDbM (Double : Type) := EStateM CppString (MongoDatabase Double)

namespace MongoDatabase

def onOrders (m : MongoM Double α) : MongoDbM Double α := fun s =>
  match m s.orders with
  | .ok a orders => .ok a { s with orders := orders }
  | .error e orders => .error e { s with orders := orders }

def createIndex (name : String) : MongoDbM Double Unit :=
  modify fun s => { s with indexes := if name ∈ s.indexes then s.indexes else s.indexes ++ [name] }

def dropOne (name : String) : MongoDbM Double Unit := fun s =>
  if name ∈ s.indexes then .ok () { s with indexes := s.indexes.filter (· ≠ name) }
  else .error (lit "index not found with name") s

/-- `drop()` takes the indexes along. -/
def drop : MongoDbM Double Unit := set (⟨.empty, []⟩ : MongoDatabase Double)

end MongoDatabase

/-- A round trip to the server, or any other step that can throw. -/
def request (m : MongoDbM Double α) : EStateM CppString (Faulty (MongoDatabase Double)) α :=
  fallible (lit "exception") m

namespace MongoClient
open MongoDatabase

def createSecondaryIndex : EStateM CppString (Faulty (MongoDatabase Double)) Unit := do
  request (createIndex "user_id_1")
  request (createIndex "created_at_1")
  request (pure ()) -- console output

def dropSecondaryIndex : EStateM CppString (Faulty (MongoDatabase Double)) Unit := do
  tryCatch (request (dropOne "user_id_1")) fun _ => pure ()
  tryCatch (request (dropOne "created_at_1")) fun _ => pure ()
  request (pure ()) -- console output

def dbInterface [Zero Double] : DBInterface Double (Faulty (MongoDatabase Double)) where
  connect := request (pure ())
  disconnect := pure ()
  insertOne o := request (onOrders (insertOne o))
  insertBatch orders := request (onOrders (insertBatch orders))
  deleteByPrimaryKey orderId := request (onOrders (deleteByPrimaryKey orderId))
  findByPrimaryKey orderId := request (onOrders (findByPrimaryKey orderId))
  findBySecondaryKey userId := request (onOrders (findBySecondaryKey userId))
  findByRange startDate endDate := request (onOrders (findByRange startDate endDate))
  clearTable := request drop
  createSecondaryIndex := createSecondaryIndex
  dropSecondaryIndex := dropSecondaryIndex
  getDbName := lit "mongo"

end MongoClient

def Written (orders : Collection Double) : Prop :=
  ∀ doc ∈ orders.rows, ∃ o, doc = MongoClient.orderToBson o

theorem mapM_bsonToOrder_reads {docs : List (Document Double)} {orders : Collection Double}
    (h : Written orders) (hdocs : ∀ doc ∈ docs, doc ∈ orders.rows) :
    ∃ found, docs.mapM MongoClient.bsonToOrder orders = .ok found orders := by
  apply mapM_reads
  intro doc hdoc
  obtain ⟨o, rfl⟩ := h doc (hdocs doc hdoc)
  exact ⟨o.toObject, bsonToOrder_orderToBson o orders⟩

theorem findByPrimaryKey_reads [Zero Double] {orders : Collection Double} (h : Written orders)
    (orderId : CppString) :
    ∃ found, MongoClient.findByPrimaryKey orderId orders = .ok found orders := by
  cases hfind : orders.find? (some orderId) with
  | none => exact ⟨_, mongo_findByPrimaryKey_absent hfind⟩
  | some doc =>
    obtain ⟨o, rfl⟩ := h doc (Table.find?_eq_some.1 hfind).1
    exact ⟨_, mongo_findByPrimaryKey_stored hfind⟩

theorem findBySecondaryKey_reads {orders : Collection Double} (h : Written orders)
    (userId : CppString) :
    ∃ found, MongoClient.findBySecondaryKey userId orders = .ok found orders :=
  mapM_bsonToOrder_reads h fun _ hdoc => (List.mem_filter.1 hdoc).1

theorem findByRange_reads {orders : Collection Double} (h : Written orders)
    (startDate endDate : CppString) :
    ∃ found, MongoClient.findByRange startDate endDate orders = .ok found orders :=
  mapM_bsonToOrder_reads h fun _ hdoc =>
    (List.mem_filter.1 ((List.mem_insertionSort _).1 hdoc)).1

namespace MongoDatabase

theorem onOrders_reads {m : MongoM Double α} {I : MongoDatabase Double → Prop}
    (h : ∀ s, I s → ∃ a, m s.orders = .ok a s.orders) :
    Triple I (onOrders m) (fun _ => I) (fun _ _ => False) := by
  intro s hs
  obtain ⟨a, ha⟩ := h s hs
  rw [onOrders, ha]
  exact hs

theorem onOrders_indexes (m : MongoM Double α) (C : List String → Prop) :
    Keeps (fun s => C s.indexes) (onOrders m) := by
  intro s hs
  rw [onOrders]
  cases m s.orders with
  | ok a orders => exact hs
  | error e orders => exact hs

end MongoDatabase

namespace CassandraClient

/-- The body of `find_by_range` is still to be written; nothing is returned from it. -/
def dbInterface (findByRange : CppString → CppString →
    EStateM CppString (ClientState Double) (List (OrderObject Double))) :
    DBInterface Double (ClientState Double) where
  connect := connect
  disconnect := disconnect
  insertOne o := onCluster (insertOne o)
  insertBatch orders := onCluster (insertBatch orders)
  deleteByPrimaryKey orderId := onCluster (deleteByPrimaryKey orderId)
  findByPrimaryKey orderId := onCluster (findByPrimaryKey orderId)
  findBySecondaryKey userId := onCluster (findBySecondaryKey userId)
  findByRange := findByRange
  clearTable := onCluster clearTable
  createSecondaryIndex := pure ()
  dropSecondaryIndex := pure ()
  getDbName := lit "cassandra"

end CassandraClient

/-- The client and the names of the secondary indexes on its tables. -/
structure CassandraDatabase (Double : Type) where
  client : ClientState Double
  indexes : List String

/-- The statements of the client insert, select, delete and truncate. -/
def onClient (m : ClientM Double α) : EStateM CppString (CassandraDatabase Double) α := fun s =>
  match m s.client with
  | .ok a client => .ok a { s with client := client }
  | .error e client => .error e { s with client := client }

namespace CassandraClient

def databaseInterface (findByRange : CppString → CppString →
    EStateM CppString (CassandraDatabase Double) (List (OrderObject Double))) :
    DBInterface Double (CassandraDatabase Double) where
  connect := onClient connect
  disconnect := onClient disconnect
  insertOne o := onClient (onCluster (insertOne o))
  insertBatch orders := onClient (onCluster (insertBatch orders))
  deleteByPrimaryKey orderId := onClient (onCluster (deleteByPrimaryKey orderId))
  findByPrimaryKey orderId := onClient (onCluster (findByPrimaryKey orderId))
  findBySecondaryKey userId := onClient (onCluster (findBySecondaryKey userId))
  findByRange := findByRange
  clearTable := onClient (onCluster clearTable)
  createSecondaryIndex := pure ()
  dropSecondaryIndex := pure ()
  getDbName := lit "cassandra"

end CassandraClient

theorem onClient_keeps (m : ClientM Double α) (C : List String → Prop) :
    Keeps (fun s => C s.indexes) (onClient m) := by
  intro s hs
  rw [onClient]
  cases m s.client with
  | ok a client => exact hs
  | error e client => exact hs

theorem onCluster_healthy {P : ClientState Double → Prop} {t' : CassandraTables Double}
    {m : CassandraM Double α} (h : ∀ c, P c → ∃ a, m c.cluster = .ok a (.healthy t')) :
    Triple P (onCluster m) (fun _ c => c.cluster = .healthy t') (fun _ _ => False) := by
  intro c hc
  obtain ⟨a, ha⟩ := h c hc
  rw [onCluster, ha]

theorem experiment1_cassandra_returns (dataset : List (Order Double)) (config : BenchmarkConfig) :
    ∃ x b, Experiment1.execute (CassandraClient.dbInterface fun _ _ => pure []) .calm dataset config
      (.start ⟨.healthy .empty, .init⟩) = .ok x b := by
  have hload : Triple (fun b => b.world.cluster = .healthy .empty)
      (Experiment1.execute (CassandraClient.dbInterface fun _ _ => pure []) .calm dataset config)
      (fun _ b => b.world.cluster =
        .healthy ((dataset.take (rowsToLoad dataset config)).foldl .insert .empty))
      (fun _ _ => False) := by
    apply experiment1_returns (P := fun c : ClientState Double => c.cluster = .healthy .empty)
      (I := fun done (c : ClientState Double) => c.cluster = .healthy (done.foldl .insert .empty))
    · apply onCluster_healthy
      intro c hc
      rw [hc]
      exact ⟨(), clearTable_healthy .empty⟩
    · intro done o rest _
      apply onCluster_healthy
      intro c hc
      rw [hc, List.foldl_append]
      exact ⟨(), insertOne_healthy o _⟩
    · intro done c hc
      exact hc
  obtain ⟨x, b, hok, -⟩ := hload.returns (s := .start ⟨.healthy .empty, .init⟩) rfl
  exact ⟨x, b, hok⟩

end DbBenchmark
