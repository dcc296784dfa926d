import DbBenchmark.CassandraReads
import DbBenchmark.DenormalisedTables
import DbBenchmark.MongoClient

namespace DbBenchmark

open Keyed Throwing
set_option autoImplicit true

variable {Double : Type}

def within (startDate endDate s : CppString) : Bool := startDate ≤ s ∧ s ≤ endDate

namespace Experiment5

/-- The client-side filter; an indeterminate timestamp would select nothing in particular. -/
def createdWithin (startDate endDate : CppString) (o : OrderObject Double) : Bool :=
  match o.createdAt with
  | some createdAt => within startDate endDate createdAt
  | none => false

def cassandraRows (userId startDate endDate : CppString) :
    CassandraM Double (List (OrderObject Double)) := do
  let userOrders ← CassandraClient.findBySecondaryKey userId
  return userOrders.filter (createdWithin startDate endDate)

def mongoRows (startDate endDate : CppString) : MongoM Double (List (OrderObject Double)) :=
  MongoClient.findByRange startDate endDate

end Experiment5

def lastStored (orders : List (Order Double)) : List (Order Double) :=
  Table.lastWritten (fun o => (some (cStr o.userId), some (cStr o.createdAt))) orders

theorem ordersByUser_loaded (orders : List (Order Double)) :
    (orders.foldl .insert CassandraTables.empty).ordersByUser.rows =
      (lastStored orders).map rowByUser := by
  have h : (Table.empty : Table (@ordersByUserKey Double)).HoldsLast [] := .empty
  have hload := h.foldl_upsert rowByUser orders
  rw [List.nil_append, Table.HoldsLast, Table.lastWritten_map] at hload
  rw [ordersByUser_foldl_insert]
  exact hload

theorem partition_loaded (orders : List (Order Double)) (userId : CppString) :
    ∃ stored : List (Order Double),
      stored.Perm ((lastStored orders).filter fun o => cStr o.userId = cStr userId) ∧
      (orders.foldl .insert CassandraTables.empty).partition (cStr userId) =
        stored.map rowByUser := by
  refine ⟨_, List.perm_insertionSort (fun a b => NewerFirst (rowByUser a) (rowByUser b)) _, ?_⟩
  rw [CassandraTables.partition, ordersByUser_loaded, List.filter_map,
    List.map_insertionSort _ NewerFirst rowByUser _ (fun _ _ _ _ => Iff.rfl)]
  simp [Function.comp_def]

theorem partition_eq_nil_iff (orders : List (Order Double)) (userId : CppString) :
    (orders.foldl .insert CassandraTables.empty).partition (cStr userId) = [] ↔
      ∀ o ∈ orders, cStr o.userId ≠ cStr userId := by
  obtain ⟨stored, hperm, hpart⟩ := partition_loaded orders userId
  have hstored : stored = [] ↔ ∀ o ∈ lastStored orders, cStr o.userId ≠ cStr userId := by
    rw [← List.length_eq_zero_iff, hperm.length_eq, List.length_eq_zero_iff, List.filter_eq_nil_iff]
    simp
  rw [hpart, List.map_eq_nil_iff, hstored]
  constructor
  · intro h o ho huser
    have hlast : ∃ o' ∈ lastStored orders, (some (cStr o'.userId), some (cStr o'.createdAt)) =
        (some (cStr o.userId), some (cStr o.createdAt)) := Table.exists_mem_lastWritten ho
    obtain ⟨o', ho', hkey⟩ := hlast
    have hsame := Option.some.inj (congrArg Prod.fst hkey)
    exact h o' ho' (hsame.trans huser)
  · exact fun h o ho => h o (Table.lastWritten_subset _ ho)

def ordersWithin (userId startDate endDate : CppString) (orders : List (Order Double)) :
    List (Order Double) :=
  orders.filter fun o => o.userId = userId ∧ within startDate endDate o.createdAt

theorem mongo_insertAll (orders loaded : List (Order Double)) (t : Collection Double)
    (ht : t.rows = loaded.map MongoClient.orderToBson)
    (hids : ((loaded ++ orders).map Order.orderId).Nodup) :
    ∃ t', orders.forM MongoClient.insertOne t = .ok () t' ∧
      t'.rows = (loaded ++ orders).map MongoClient.orderToBson := by
  rw [List.map_append, List.nodup_append] at hids
  have hfree : ∀ o ∈ orders, t.find? (some o.orderId) = none := by
    intro o ho
    rw [Table.find?_eq_none, ht]
    intro doc hdoc he
    obtain ⟨x, hx, rfl⟩ := List.mem_map.1 hdoc
    rw [documentId_orderToBson, Option.some.injEq] at he
    exact hids.2.2 _ (List.mem_map_of_mem hx) _ (List.mem_map_of_mem ho) he
  obtain ⟨t', hload⟩ := mongo_forM_insertOne_returns orders t hids.2.1 hfree
  have hrows := hload
  rw [forM_insertOne_eq] at hrows
  exact ⟨t', hload, by rw [Table.rows_of_forM_insertNew hrows, ht, List.map_append]⟩

def cursorOrders (startDate endDate : CppString) (orders : List (Order Double)) :
    List (Order Double) :=
  (orders.filter fun o => within startDate endDate o.createdAt).insertionSort
    fun a b => MongoClient.OlderFirst (MongoClient.orderToBson a) (MongoClient.orderToBson b)

theorem findByRange_eq (startDate endDate : CppString) (orders : List (Order Double))
    {t : Collection Double} (h : t.rows = orders.map MongoClient.orderToBson) :
    MongoClient.findByRange startDate endDate t =
      .ok ((cursorOrders startDate endDate orders).map Order.toObject) t := by
  change ((t.rows.filter (MongoClient.createdWithin startDate endDate)).insertionSort
    MongoClient.OlderFirst).mapM MongoClient.bsonToOrder t = _
  have hfilter : t.rows.filter (MongoClient.createdWithin startDate endDate) =
      (orders.filter fun o => within startDate endDate o.createdAt).map MongoClient.orderToBson := by
    rw [h, List.filter_map]
    rfl
  rw [hfilter, ← List.map_insertionSort _ MongoClient.OlderFirst MongoClient.orderToBson _
    (fun _ _ _ _ => Iff.rfl), List.mapM_map]
  exact mapM_ok_of_reads bsonToOrder_orderToBson _ t

def cassandraWindow (orders : List (Order Double)) (userId startDate endDate : CppString) :
    CassandraM Double (List (OrderObject Double)) := do
  orders.forM CassandraClient.insertOne
  Experiment5.cassandraRows userId startDate endDate

def mongoWindow (orders : List (Order Double)) (startDate endDate : CppString) :
    MongoM Double (List (OrderObject Double)) := do
  orders.forM MongoClient.insertOne
  Experiment5.mongoRows startDate endDate

/-- Both branches collect the same ids for the user, counted with multiplicity, whatever becomes of
the strings that `row_to_order` makes from unset locals. -/
def SameRows (orders : List (Order Double)) (userId startDate endDate : CppString) : Prop :=
  ∀ unset, ∃ rows found,
    value? (cassandraWindow orders userId startDate endDate) (.healthy .empty unset) = some rows ∧
    value? (mongoWindow orders startDate endDate) .empty = some found ∧
    (rows.map OrderObject.orderId).Perm
      ((found.filter fun o => o.userId = some userId).map OrderObject.orderId)

theorem cassandraWindow_nil {orders : List (Order Double)}
    (h : ∀ o ∈ orders, cStr o.userId ≠ cStr userId) (startDate endDate : CppString)
    (unset : List CassError → Option CppString) :
    value? (cassandraWindow orders userId startDate endDate) (.healthy .empty unset) =
      some [] := by
  have hfind : CassandraClient.findBySecondaryKey userId
      (.healthy (orders.foldl .insert .empty) unset) =
        .ok [] (.healthy (orders.foldl .insert .empty) unset) := by
    rw [findBySecondaryKey_healthy, (partition_eq_nil_iff orders userId).2 h]
    rfl
  exact value?_of_ok ((bind_ok (insertBatch_healthy orders .empty)).trans (bind_ok hfind))

/-- Each row of a user has a description that is read from an integer. -/
theorem cassandraWindow_throws {orders : List (Order Double)} (ho : o ∈ orders)
    (huser : cStr o.userId = cStr userId) (startDate endDate msg : CppString) :
    value? (cassandraWindow orders userId startDate endDate)
      (.healthy .empty fun _ => some msg) = none := by
  obtain ⟨stored, -, hpart⟩ := partition_loaded orders userId
  have hne : stored ≠ [] := by
    rintro rfl
    exact (partition_eq_nil_iff orders userId).1 hpart o ho huser
  obtain ⟨first, rest, rfl⟩ := List.exists_cons_of_ne_nil hne
  have hread : ∃ c, CassandraClient.findBySecondaryKey userId
      (.healthy (orders.foldl .insert .empty) fun _ => some msg) = .error msg c := by
    rw [findBySecondaryKey_healthy, hpart, List.map_cons, List.mapM_cons]
    exact ⟨_, bind_error (rowToOrder_selectByUser first _)⟩
  obtain ⟨c, hread⟩ := hread
  have hwindow : cassandraWindow orders userId startDate endDate
      (.healthy .empty fun _ => some msg) = .error msg c :=
    (bind_ok (insertBatch_healthy orders .empty)).trans (bind_error hread)
  rw [value?, hwindow]

theorem mongoWindow_eq (orders : List (Order Double)) (userId startDate endDate : CppString)
    (hids : (orders.map Order.orderId).Nodup) :
    ∃ found, value? (mongoWindow orders startDate endDate) .empty = some found ∧
      ((found.filter fun o => o.userId = some userId).map OrderObject.orderId).Perm
        ((ordersWithin userId startDate endDate orders).map fun o => some o.orderId) := by
  obtain ⟨t, hload, hrows⟩ := mongo_insertAll orders [] .empty rfl hids
  have hfind := findByRange_eq startDate endDate orders hrows
  refine ⟨_, value?_of_ok ((bind_ok hload).trans hfind), ?_⟩
  have hperm : (cursorOrders startDate endDate orders).Perm _ := List.perm_insertionSort _ _
  rw [List.filter_map, List.map_map]
  have hfilter := (hperm.filter fun o => o.toObject.userId = some userId).map
    fun o => some o.orderId
  rw [List.filter_filter] at hfilter
  simpa [ordersWithin, Order.toObject, Function.comp_def] using hfilter

/-- The branches agree for users without orders only. -/
theorem sameRows_iff (orders : List (Order Double)) (userId startDate endDate : CppString)
    (hids : (orders.map Order.orderId).Nodup) :
    SameRows orders userId startDate endDate ↔
      ∀ o ∈ orders, cStr o.userId ≠ cStr userId := by
  constructor
  · intro h o ho huser
    obtain ⟨rows, found, hrows, -⟩ := h fun _ => some []
    rw [cassandraWindow_throws ho huser] at hrows
    cases hrows
  · intro h unset
    obtain ⟨found, hfound, hperm⟩ := mongoWindow_eq orders userId startDate endDate hids
    have hnone : ordersWithin userId startDate endDate orders = [] := by
      rw [ordersWithin, List.filter_eq_nil_iff]
      intro o ho hwithin
      rw [decide_eq_true_eq] at hwithin
      exact h o ho (congrArg cStr hwithin.1)
    rw [hnone] at hperm
    exact ⟨[], found, cassandraWindow_nil h startDate endDate unset, hfound, hperm.symm⟩

def oneOrder : List (Order Rat) := [stampedOrder "a" "u" "2026-03-15T10:30:00Z"]

theorem sameRows_oneOrder_otherUser :
    SameRows oneOrder (lit "v") (lit "2026-03-15T00:00:00Z") (lit "2026-03-16T00:00:00Z") :=
  (sameRows_iff oneOrder _ _ _ (by decide)).2 (by decide)

theorem not_sameRows_oneOrder :
    ((oneOrder.map Order.orderId).Nodup) ∧
      ¬ SameRows oneOrder (lit "u") (lit "2026-03-15T00:00:00Z") (lit "2026-03-16T00:00:00Z") := by
  refine ⟨by decide, fun h => ?_⟩
  obtain ⟨rows, found, hrows, -⟩ := h fun _ => some (lit "std::bad_alloc")
  have hmem : stampedOrder "a" "u" "2026-03-15T10:30:00Z" ∈ oneOrder := List.mem_singleton_self _
  have huser : cStr (stampedOrder "a" "u" "2026-03-15T10:30:00Z").userId = cStr (lit "u") := rfl
  rw [cassandraWindow_throws hmem huser] at hrows
  cases hrows

end DbBenchmark
