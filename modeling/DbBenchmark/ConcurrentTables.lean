import DbBenchmark.BatchInserts
import DbBenchmark.ConcurrentLoad
import DbBenchmark.InsertionOrders
import DbBenchmark.RangeScan
import Mathlib.Data.List.Perm.Basic

namespace DbBenchmark
open Experiment2 Interleaving Keyed Throwing
set_option autoImplicit true

variable {Double : Type} {dataset : List (Order Double)} {totalRows numThreads : UInt32}
  {calls : List (InsertCall Double)}

def ordersOf (calls : List (InsertCall Double)) : List (Order Double) :=
  calls.filterMap InsertCall.order

/-- No two threads have orders of one user and one timestamp in their slices. -/
def SlicesSeparate (dataset : List (Order Double)) (totalRows numThreads : UInt32) : Prop :=
  ∀ t u a b, a ∈ ordersOf (callsOf dataset totalRows numThreads t) →
    b ∈ ordersOf (callsOf dataset totalRows numThreads u) →
    cStr a.userId = cStr b.userId → cStr a.createdAt = cStr b.createdAt → t = u

/-- The tables after `insert_one` for each of the orders, none of whose statements fails. -/
def tablesLoaded (orders : List (Order Double)) : CassandraTables Double :=
  (finalState (orders.forM CassandraClient.insertOne) (.healthy .empty)).tables

def LoadAlike [DecidableEq K] {key : R → K}
    (insertOne : Order Double → EStateM CppString (Table key) Unit)
    (orders orders' : List (Order Double)) : Prop :=
  ∃ t t', orders.forM insertOne .empty = .ok () t ∧ orders'.forM insertOne .empty = .ok () t' ∧
    t.rows.Perm t'.rows

theorem map_slices (f : InsertCall Double → β) (g : Nat → β) (hone : 1 ≤ numThreads.toNat)
    (hf : ∀ t j, f ⟨t, j, dataset[j]?⟩ = g j) :
    ((List.range numThreads.toNat).flatMap (callsOf dataset totalRows numThreads)).map f =
      (List.range totalRows.toNat).map g := by
  rw [← slices_eq totalRows numThreads hone, List.map_flatMap, List.map_flatMap]
  apply List.flatMap_congr
  intro t ht
  rw [callsOf, if_pos (List.mem_range.1 ht), List.map_map]
  exact List.map_congr_left fun j _ => hf t j

theorem ordersOf_slices (hone : 1 ≤ numThreads.toNat) (hrows : totalRows.toNat ≤ dataset.length) :
    ordersOf ((List.range numThreads.toNat).flatMap (callsOf dataset totalRows numThreads)) =
      dataset.take totalRows.toNat := by
  have hcalls : ((List.range numThreads.toNat).flatMap
      (callsOf dataset totalRows numThreads)).map InsertCall.order =
        (dataset.take totalRows.toNat).map some := by
    rw [← map_getElem?_range dataset totalRows.toNat hrows]
    exact map_slices InsertCall.order (fun j => dataset[j]?) hone fun _ _ => rfl
  have horders := congrArg (List.filterMap id) hcalls
  rwa [List.filterMap_map, List.filterMap_map, Function.id_comp, Function.id_comp,
    List.filterMap_some] at horders

theorem ordersOf_perm (hone : 1 ≤ numThreads.toNat) (hrows : totalRows.toNat ≤ dataset.length)
    (h : MakesCalls dataset totalRows numThreads calls) :
    (ordersOf calls).Perm (dataset.take totalRows.toNat) := by
  rw [← ordersOf_slices hone hrows]
  have hseq := sequences_callsOf dataset totalRows numThreads
  exact ((makesCalls_iff.1 h).perm hseq).filterMap InsertCall.order

theorem loadAlike_mongo {orders orders' : List (Order Double)} (hperm : orders.Perm orders')
    (hids : (orders'.map Order.orderId).Nodup) : LoadAlike MongoClient.insertOne orders orders' := by
  have hids' : (orders.map Order.orderId).Nodup := (hperm.map Order.orderId).nodup_iff.2 hids
  obtain ⟨t, hload, hrows⟩ := mongo_insertAll orders [] .empty rfl hids'
  obtain ⟨t', hload', hrows'⟩ := mongo_insertAll orders' [] .empty rfl hids
  refine ⟨t, t', hload, hload', ?_⟩
  rw [hrows, hrows']
  exact hperm.map MongoClient.orderToBson

theorem loadAlike_postgres [DecidableEq Value] {types : PostgresTypes Double Value}
    {orders orders' : List (Order Double)} (hperm : orders.Perm orders')
    (h : Accepts types orders' .empty) :
    LoadAlike (PostgresClient.insertOne types) orders orders' := by
  obtain ⟨rows', hrows', hkeys, hfree⟩ := h
  obtain ⟨rows, hrows, hsame⟩ := List.perm_comp_forall₂ hperm hrows'
  have hload {orders : List (Order Double)} {rows : List (PostgresRow Value)}
      (hrows : List.Forall₂ (fun o row => PostgresClient.streamedRow types o = .ok row) orders rows)
      (hkeys : (rows.map postgresKey).Nodup) :
      ∃ t : Table (@postgresKey Value),
        orders.forM (PostgresClient.insertOne types) .empty = .ok () t ∧ t.rows = rows := by
    have hreturns : ∃ t, rows.forM PostgresClient.insertRow .empty = .ok () t :=
      Table.forM_insertNew_returns_iff.2 ⟨hkeys, fun _ _ => rfl⟩
    obtain ⟨t, ht⟩ := hreturns
    have hstream := forM_streamOrder_eq_ok_iff.2 ⟨rows, hrows, ht⟩
    exact ⟨t, forM_insertOne_of_streamOrder hstream, Table.rows_of_forM_insertNew ht⟩
  obtain ⟨t, ht, hstored⟩ := hload hrows ((hsame.map postgresKey).nodup_iff.2 hkeys)
  obtain ⟨t', ht', hstored'⟩ := hload hrows' hkeys
  refine ⟨t, t', ht, ht', ?_⟩
  rw [hstored, hstored']
  exact hsame

theorem tablesLoaded_eq (orders : List (Order Double)) :
    tablesLoaded orders = orders.foldl .insert .empty := by
  have hload : orders.forM CassandraClient.insertOne (.healthy .empty) =
      .ok () (.healthy (orders.foldl .insert .empty)) := insertBatch_healthy orders .empty
  rw [tablesLoaded, finalState_of_ok hload]
  rfl

theorem rows_ordersById_loaded (orders : List (Order Double)) :
    (tablesLoaded orders).ordersById.rows =
      Table.lastWritten ordersByIdKey (orders.map rowById) := by
  rw [tablesLoaded_eq, ordersById_foldl_insert]
  exact Table.HoldsLast.empty.foldl_upsert rowById orders

theorem rows_ordersByUser_loaded (orders : List (Order Double)) :
    (tablesLoaded orders).ordersByUser.rows =
      Table.lastWritten ordersByUserKey (orders.map rowByUser) := by
  rw [tablesLoaded_eq, ordersByUser_foldl_insert]
  exact Table.HoldsLast.empty.foldl_upsert rowByUser orders

theorem ordersById_perm {orders orders' : List (Order Double)} (hperm : orders.Perm orders')
    (hids : (orders'.map fun o => cStr o.orderId).Nodup) :
    (tablesLoaded orders).ordersById.rows.Perm (tablesLoaded orders').ordersById.rows := by
  have hself {orders : List (Order Double)} (hids : (orders.map fun o => cStr o.orderId).Nodup) :
      (tablesLoaded orders).ordersById.rows = orders.map rowById := by
    rw [rows_ordersById_loaded, Table.lastWritten_eq_self_iff, List.pairwise_map]
    apply (List.pairwise_map.1 hids).imp
    intro a b hne he
    exact hne (Option.some.inj he)
  rw [hself hids, hself ((hperm.map _).nodup_iff.2 hids)]
  exact hperm.map rowById

def InsertCall.rowByUser (c : InsertCall Double) : TableRow Double :=
  match c.order with
  | some o => DbBenchmark.rowByUser o
  | none => fun _ => none

theorem exists_order (hrows : totalRows.toNat ≤ dataset.length)
    (hc : c ∈ callsOf dataset totalRows numThreads t) :
    ∃ o, c.order = some o ∧ dataset[c.index]? = some o ∧ c.index < totalRows.toNat := by
  obtain ⟨ht, -, -, hlt, horder⟩ := mem_callsOf_iff.1 hc
  have htotal : c.index < totalRows.toNat := by
    apply hlt.trans_le
    rw [bound]
    split
    · exact le_rfl
    · exact mul_rows_le totalRows numThreads ht
  have hget : dataset[c.index]? = some dataset[c.index] :=
    List.getElem?_eq_getElem (htotal.trans_le hrows)
  exact ⟨_, horder.trans hget, hget, htotal⟩

theorem map_rowByUser (h : ∀ c ∈ calls, ∃ o, c.order = some o) :
    (ordersOf calls).map rowByUser = calls.map InsertCall.rowByUser := by
  induction calls with
  | nil => rfl
  | cons c calls ih =>
    obtain ⟨⟨o, ho⟩, hrest⟩ := List.forall_mem_cons.1 h
    have hrow : c.rowByUser = rowByUser o := by rw [InsertCall.rowByUser, ho]
    rw [ordersOf, List.filterMap_cons_some ho, List.map_cons, List.map_cons, hrow, ← ih hrest]
    rfl

theorem rows_ordersByUser_calls (hrows : totalRows.toNat ≤ dataset.length)
    (h : Interleaves InsertCall.thread (callsOf dataset totalRows numThreads) calls) :
    (tablesLoaded (ordersOf calls)).ordersByUser.rows =
      Table.lastWritten ordersByUserKey (calls.map InsertCall.rowByUser) := by
  rw [rows_ordersByUser_loaded, map_rowByUser]
  intro c hc
  obtain ⟨o, ho, -⟩ := exists_order hrows (h.mem_iff.1 hc)
  exact ⟨o, ho⟩

theorem keysOwned_iff (hrows : totalRows.toNat ≤ dataset.length) :
    KeysOwned InsertCall.thread (callsOf dataset totalRows numThreads) ordersByUserKey
        InsertCall.rowByUser ↔ SlicesSeparate dataset totalRows numThreads := by
  have hseq := sequences_callsOf dataset totalRows numThreads
  constructor
  · intro h t u a b ha hb huser hcreated
    obtain ⟨x, hx, hxa⟩ := List.mem_filterMap.1 ha
    obtain ⟨y, hy, hyb⟩ := List.mem_filterMap.1 hb
    have hxt := hseq.own t x hx
    have hyu := hseq.own u y hy
    rw [← hxt, ← hyu]
    apply h x y (by rwa [hxt]) (by rwa [hyu])
    rw [InsertCall.rowByUser, InsertCall.rowByUser, hxa, hyb, ordersByUserKey_rowByUser,
      ordersByUserKey_rowByUser, huser, hcreated]
  · intro h x y hx hy hkey
    obtain ⟨a, ha, -⟩ := exists_order hrows hx
    obtain ⟨b, hb, -⟩ := exists_order hrows hy
    rw [InsertCall.rowByUser, InsertCall.rowByUser, ha, hb, ordersByUserKey_rowByUser,
      ordersByUserKey_rowByUser, Prod.mk.injEq, Option.some.injEq, Option.some.injEq] at hkey
    exact h _ _ a b (List.mem_filterMap.2 ⟨x, hx, ha⟩) (List.mem_filterMap.2 ⟨y, hy, hb⟩)
      hkey.1 hkey.2

/-- Calls that write the same row are of the same thread. -/
theorem thread_eq_of_row (hone : 1 ≤ numThreads.toNat) (hrows : totalRows.toNat ≤ dataset.length)
    (hids : ((dataset.take totalRows.toNat).map fun o => cStr o.orderId).Nodup)
    {x y : InsertCall Double} (hx : x ∈ callsOf dataset totalRows numThreads x.thread)
    (hy : y ∈ callsOf dataset totalRows numThreads y.thread) (h : x.rowByUser = y.rowByUser) :
    x.thread = y.thread := by
  obtain ⟨a, ha, hgeta, hxlt⟩ := exists_order hrows hx
  obtain ⟨b, hb, hgetb, hylt⟩ := exists_order hrows hy
  have hid : cStr a.orderId = cStr b.orderId := by
    rw [InsertCall.rowByUser, InsertCall.rowByUser, ha, hb] at h
    have hrow := congrFun h .orderId
    simpa using hrow
  have hid' {i : Nat} {o : Order Double} (hget : dataset[i]? = some o) (hlt : i < totalRows.toNat) :
      ((dataset.take totalRows.toNat).map fun o => cStr o.orderId)[i]? = some (cStr o.orderId) := by
    rw [List.getElem?_map, List.getElem?_take_of_lt hlt, hget, Option.map_some]
  have hlen : x.index < ((dataset.take totalRows.toNat).map fun o => cStr o.orderId).length := by
    rw [List.length_map, List.length_take]
    exact lt_min hxlt (hxlt.trans_le hrows)
  have hindex : x.index = y.index := by
    apply (List.getElem?_inj hlen hids).1
    rw [hid' hgeta hxlt, hid' hgetb hylt, hid]
  have hnodup : (((List.range numThreads.toNat).flatMap
      (callsOf dataset totalRows numThreads)).map InsertCall.index).Nodup := by
    rw [map_slices InsertCall.index id hone fun _ _ => rfl, List.map_id]
    exact List.nodup_range
  have hmem {z : InsertCall Double} (hz : z ∈ callsOf dataset totalRows numThreads z.thread) :
      z ∈ (List.range numThreads.toNat).flatMap (callsOf dataset totalRows numThreads) :=
    List.mem_flatMap.2 ⟨_, List.mem_range.2 (mem_callsOf_iff.1 hz).1, hz⟩
  rw [List.inj_on_of_nodup_map hnodup (hmem hx) (hmem hy) hindex]

theorem ordersByUser_settled_iff (hone : 1 ≤ numThreads.toNat)
    (hrows : totalRows.toNat ≤ dataset.length)
    (hids : ((dataset.take totalRows.toNat).map fun o => cStr o.orderId).Nodup) :
    (∀ calls, MakesCalls dataset totalRows numThreads calls →
      (tablesLoaded (ordersOf calls)).ordersByUser.rows.Perm
        (tablesLoaded (dataset.take totalRows.toNat)).ordersByUser.rows) ↔
      SlicesSeparate dataset totalRows numThreads := by
  have hseq := sequences_callsOf dataset totalRows numThreads
  have hsettled := settled_iff ordersByUserKey hseq fun _ _ hx hy =>
    thread_eq_of_row hone hrows hids hx hy
  have hturn := interleaves_flatMap hseq (List.Perm.refl _)
  have hrowsOf {calls : List (InsertCall Double)} (h : Interleaves InsertCall.thread
      (callsOf dataset totalRows numThreads) calls) := rows_ordersByUser_calls hrows h
  rw [← keysOwned_iff hrows, ← hsettled, ← ordersOf_slices hone hrows, hrowsOf hturn]
  constructor
  · intro h calls calls' hcalls hcalls'
    have hperm := h calls (makesCalls_iff.2 hcalls)
    have hperm' := h calls' (makesCalls_iff.2 hcalls')
    rw [hrowsOf hcalls] at hperm
    rw [hrowsOf hcalls'] at hperm'
    exact hperm.trans hperm'.symm
  · intro h calls hcalls
    rw [hrowsOf (makesCalls_iff.1 hcalls)]
    exact h calls _ (makesCalls_iff.1 hcalls) hturn

def Experiment2.rows (dataset : List (Order Double)) (config : BenchmarkConfig) :
    List (Order Double) :=
  dataset.take (Experiment2.totalRows dataset config).toNat

def Experiment2.Loads (dataset : List (Order Double)) (config : BenchmarkConfig)
    (calls : List (InsertCall Double)) : Prop :=
  MakesCalls dataset (Experiment2.totalRows dataset config) config.threadCount calls

/-- Whatever the interleaving, the threads leave the rows of a single-threaded load in
`orders_by_id`, in the collection and in the Postgres table. In `orders_by_user` they do so exactly
if no user has orders with one timestamp in the slices of two threads. -/
theorem concurrent_load_settled_iff [DecidableEq Value] (types : PostgresTypes Double Value)
    (dataset : List (Order Double)) (config : BenchmarkConfig) (hone : 1 ≤ config.threadCount)
    (hids : ((rows dataset config).map fun o => cStr o.orderId).Nodup) :
    (∀ calls, Loads dataset config calls →
      (tablesLoaded (ordersOf calls)).ordersById.rows.Perm
          (tablesLoaded (rows dataset config)).ordersById.rows ∧
        LoadAlike MongoClient.insertOne (ordersOf calls) (rows dataset config) ∧
        (Accepts types (rows dataset config) .empty →
          LoadAlike (PostgresClient.insertOne types) (ordersOf calls) (rows dataset config))) ∧
    ((∀ calls, Loads dataset config calls →
      (tablesLoaded (ordersOf calls)).ordersByUser.rows.Perm
        (tablesLoaded (rows dataset config)).ordersByUser.rows) ↔
      SlicesSeparate dataset (Experiment2.totalRows dataset config) config.threadCount) := by
  have hone' : 1 ≤ config.threadCount.toNat := UInt32.le_iff_toNat_le.1 hone
  have hrows := totalRows_le dataset config
  constructor
  · intro calls hcalls
    have hperm : (ordersOf calls).Perm (rows dataset config) := ordersOf_perm hone' hrows hcalls
    have hmongo : ((rows dataset config).map Order.orderId).Nodup := by
      rw [← Function.comp_def cStr, ← List.map_map] at hids
      exact hids.of_map cStr
    exact ⟨ordersById_perm hperm hids, loadAlike_mongo hperm hmongo, loadAlike_postgres hperm⟩
  · exact ordersByUser_settled_iff hone' hrows hids

/-- The first two rows of three are of one user and one timestamp, and go to two threads. -/
theorem concurrent_load_settled_iff_threeRows :
    ¬ ∀ calls, Loads threeRows overtakingConfig calls →
      (tablesLoaded (ordersOf calls)).ordersByUser.rows.Perm
        (tablesLoaded (rows threeRows overtakingConfig)).ordersByUser.rows := by
  rw [(concurrent_load_settled_iff orderTypes threeRows overtakingConfig (by decide)
    (by decide)).2]
  intro h
  have hthread := h 0 1 (stampedOrder "a" "u" "t") (stampedOrder "b" "u" "t") (by decide)
    (by decide) rfl rfl
  exact absurd hthread (by decide)

end DbBenchmark
