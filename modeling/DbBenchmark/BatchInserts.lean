import DbBenchmark.CassandraTables
import DbBenchmark.MongoClient
import DbBenchmark.PostgresClient

namespace DbBenchmark
open Keyed Throwing
set_option autoImplicit true

/-- A batch returns, and leaves what single inserts leave, made in turn. -/
def FoldsInserts (insertBatch : List (Order Double) → EStateM CppString σ Unit)
    (insertOne : Order Double → EStateM CppString σ Unit) (orders : List (Order Double))
    (s : σ) : Prop :=
  ∃ s', insertBatch orders s = .ok () s' ∧ orders.forM insertOne s = .ok () s'

variable {Double Value : Type}

theorem forM_insertOne_of_streamOrder [DecidableEq Value] {types : PostgresTypes Double Value}
    {orders : List (Order Double)} {t t' : Table (@postgresKey Value)}
    (h : orders.forM (PostgresClient.streamOrder types) t = .ok () t') :
    orders.forM (PostgresClient.insertOne types) t = .ok () t' := by
  induction orders generalizing t with
  | nil => exact h
  | cons o orders ih =>
    obtain ⟨t₁, ho, hrest⟩ := forM_cons_eq_ok_iff.1 h
    exact forM_cons_eq_ok_iff.2 ⟨t₁, insertOne_of_streamOrder ho, ih hrest⟩

theorem postgres_foldsInserts [DecidableEq Value] {types : PostgresTypes Double Value}
    {orders : List (Order Double)} {t : Table (@postgresKey Value)} (h : Accepts types orders t) :
    FoldsInserts (PostgresClient.insertBatch types) (PostgresClient.insertOne types) orders t := by
  obtain ⟨t', hbatch⟩ := postgres_insertBatch_returns_iff.2 h
  exact ⟨t', hbatch, forM_insertOne_of_streamOrder (transaction_eq_ok_iff.1 hbatch)⟩

theorem mongo_batch_eq {orders : List (Order Double)} (h : orders ≠ []) :
    MongoClient.insertBatch orders = orders.forM MongoClient.insertOne := by
  rw [forM_insertOne_eq, MongoClient.insertBatch, MongoClient.insertMany,
    if_neg fun hnil => h (List.map_eq_nil_iff.1 hnil)]

theorem mongo_foldsInserts_iff {orders : List (Order Double)} {c : Collection Double}
    (hids : (orders.map Order.orderId).Nodup)
    (hfree : ∀ o ∈ orders, c.find? (some o.orderId) = none) :
    FoldsInserts MongoClient.insertBatch MongoClient.insertOne orders c ↔ orders ≠ [] := by
  constructor
  · rintro ⟨c', hbatch, _⟩ rfl
    cases hbatch
  · intro hne
    obtain ⟨c', hfold⟩ := mongo_forM_insertOne_returns orders c hids hfree
    refine ⟨c', ?_, hfold⟩
    rwa [mongo_batch_eq hne]

def Cluster.NoFailure (c : Cluster Double) : Prop := ∀ outcome ∈ c.outcomes, outcome = none

theorem execute_noFailure (effect : CassandraTables Double → CassandraTables Double)
    (context : CppString) :
    Triple Cluster.NoFailure (execute effect context) (fun _ => Cluster.NoFailure)
      (fun _ _ => False) := by
  intro c hc
  obtain ⟨tables, outcomes, readErrors, unset⟩ := c
  cases outcomes with
  | nil => exact hc
  | cons outcome rest =>
    obtain rfl := hc outcome List.mem_cons_self
    exact fun later hlater => hc later (List.mem_cons_of_mem none hlater)

theorem cassandra_foldsInserts {orders : List (Order Double)} {c : Cluster Double}
    (h : c.NoFailure) :
    FoldsInserts CassandraClient.insertBatch CassandraClient.insertOne orders c := by
  have hloop : Triple Cluster.NoFailure (orders.forM CassandraClient.insertOne)
      (fun _ => Cluster.NoFailure) (fun _ _ => False) :=
    .forM fun _ _ => (execute_noFailure _ _).bind fun _ => execute_noFailure _ _
  obtain ⟨_, c', hfold, _⟩ := hloop.returns h
  exact ⟨c', hfold, hfold⟩

/-- Only an empty batch for MongoDB differs from the loop of single inserts. -/
theorem foldsInserts_iff [DecidableEq Value] (types : PostgresTypes Double Value)
    (orders : List (Order Double)) (hids : (orders.map Order.orderId).Nodup) :
    (∀ t, Accepts types orders t →
      FoldsInserts (PostgresClient.insertBatch types) (PostgresClient.insertOne types) orders t) ∧
    (∀ c : Collection Double, (∀ o ∈ orders, c.find? (some o.orderId) = none) →
      (FoldsInserts MongoClient.insertBatch MongoClient.insertOne orders c ↔ orders ≠ [])) ∧
    ∀ c : Cluster Double, c.NoFailure →
      FoldsInserts CassandraClient.insertBatch CassandraClient.insertOne orders c :=
  ⟨fun _ => postgres_foldsInserts, fun _ => mongo_foldsInserts_iff hids,
    fun _ => cassandra_foldsInserts⟩

/-- As the server does for these orders: UUIDs have 36 characters, `NUMERIC(10, 2)` two decimals. -/
def orderTypes : PostgresTypes Rat CppString where
  input column text :=
    match column with
    | .orderId | .userId | .productId =>
      if text.length = 36 then .ok text else .error (lit "invalid input syntax for type uuid")
    | .amount => .ok (text ++ lit ".00")
    | _ => .ok text
  printDouble q := lit (toString q.num)

def uuidOrders : List (Order Rat) :=
  ["7d444840-9dc0-41d1-b245-5ffdce74fad2", "0f8fad5b-d9cb-469f-a165-70867728950e"].map fun id =>
    { stampedOrder id "c9bf9e57-1685-4c89-bafb-ff5af830be8a" "2026-03-15T10:30:00Z" with
      productId := lit "9c858901-8a57-4791-81fe-4c455b099bc9" }

theorem accepts_uuidOrders : Accepts orderTypes uuidOrders .empty :=
  postgres_insertBatch_returns_iff.1 ⟨_, rfl⟩

theorem foldsInserts_iff_uuidOrders :
    FoldsInserts (PostgresClient.insertBatch orderTypes) (PostgresClient.insertOne orderTypes)
        uuidOrders .empty ∧
      FoldsInserts MongoClient.insertBatch MongoClient.insertOne uuidOrders .empty ∧
      FoldsInserts CassandraClient.insertBatch CassandraClient.insertOne uuidOrders
        (.healthy .empty) := by
  obtain ⟨hpostgres, hmongo, hcassandra⟩ := foldsInserts_iff orderTypes uuidOrders (by decide)
  exact ⟨hpostgres .empty accepts_uuidOrders,
    (hmongo .empty fun _ _ => rfl).2 (List.cons_ne_nil _ _), hcassandra _ (List.forall_mem_nil _)⟩

theorem not_foldsInserts_mongo_empty :
    ¬ FoldsInserts MongoClient.insertBatch MongoClient.insertOne ([] : List (Order Rat)) .empty := by
  rintro ⟨_, hbatch, _⟩
  cases hbatch

end DbBenchmark
