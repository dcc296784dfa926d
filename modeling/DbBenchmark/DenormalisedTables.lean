import DbBenchmark.CassandraTables

namespace DbBenchmark

open Keyed
set_option autoImplicit true

variable {Double : Type}

def CassandraTables.idsById (t : CassandraTables Double) : List CppString :=
  t.ordersById.rows.filterMap (·.textAt .orderId)

def CassandraTables.idsByUser (t : CassandraTables Double) : List CppString :=
  t.ordersByUser.rows.filterMap (·.textAt .orderId)

def CassandraTables.Agree (t : CassandraTables Double) : Prop :=
  ∀ id, id ∈ t.idsByUser ↔ id ∈ t.idsById

def ordersSinceClear (ops : List (CassandraOp Double)) : List (Order Double) :=
  ops.foldl (fun live op => match op with
    | .clearTable => []
    | op => live ++ op.orders) []

theorem ordersSinceClear_concat (ops : List (CassandraOp Double)) (op : CassandraOp Double) :
    ordersSinceClear (ops ++ [op]) = match op with
      | .clearTable => []
      | op => ordersSinceClear ops ++ op.orders := by
  rw [ordersSinceClear, List.foldl_append]
  rfl

/-- `orders_by_user` never learns of a deletion. -/
theorem ordersByUser_holdsLast (ops : List (CassandraOp Double)) :
    (tablesAfter ops).ordersByUser.HoldsLast ((ordersSinceClear ops).map rowByUser) := by
  induction ops using List.reverseRecOn with
  | nil => exact .empty
  | append_singleton ops op ih =>
    rw [tablesAfter_concat, ordersSinceClear_concat]
    cases op with
    | insertOne o => simpa [CassandraOp.apply, CassandraOp.orders] using ih.upsert (rowByUser o)
    | insertBatch orders =>
      simpa [CassandraOp.apply, ordersByUser_foldl_insert, CassandraOp.orders] using
        ih.foldl_upsert rowByUser orders
    | deleteByPrimaryKey orderId => simpa [CassandraOp.apply, CassandraOp.orders] using ih
    | clearTable => exact .empty

def CassandraOp.Loads : CassandraOp Double → Prop
  | .deleteByPrimaryKey _ => False
  | _ => True

theorem ordersById_holdsLast (ops : List (CassandraOp Double)) (hl : ∀ op ∈ ops, op.Loads) :
    (tablesAfter ops).ordersById.HoldsLast ((ordersSinceClear ops).map rowById) := by
  induction ops using List.reverseRecOn with
  | nil => exact .empty
  | append_singleton ops op ih =>
    have hops := ih fun o ho => hl o (by simp [ho])
    rw [tablesAfter_concat, ordersSinceClear_concat]
    cases op with
    | insertOne o => simpa [CassandraOp.apply, CassandraOp.orders] using hops.upsert (rowById o)
    | insertBatch orders =>
      simpa [CassandraOp.apply, ordersById_foldl_insert, CassandraOp.orders] using
        hops.foldl_upsert rowById orders
    | deleteByPrimaryKey orderId => exact (hl (.deleteByPrimaryKey orderId) (by simp)).elim
    | clearTable => exact .empty

theorem ordersSinceClear_subset (ops : List (CassandraOp Double)) :
    (ordersSinceClear ops).Sublist (ops.flatMap CassandraOp.orders) := by
  induction ops using List.reverseRecOn with
  | nil => exact .slnil
  | append_singleton ops op ih =>
    rw [ordersSinceClear_concat, List.flatMap_append]
    cases op with
    | clearTable => exact List.nil_sublist _
    | insertOne o => simpa using ih.append_right [o]
    | insertBatch orders => simpa using ih.append_right orders
    | deleteByPrimaryKey orderId => simpa using ih.append_right []

theorem mem_idsByUser {t : CassandraTables Double} {live : List (Order Double)}
    (h : t.ordersByUser.rows = live.map rowByUser) {id : CppString} :
    id ∈ t.idsByUser ↔ ∃ o ∈ live, cStr o.orderId = id := by
  simp [CassandraTables.idsByUser, h, List.filterMap_map]

theorem mem_idsById {t : CassandraTables Double} {live : List (Order Double)}
    (h : t.ordersById.rows = live.map rowById) {id : CppString} :
    id ∈ t.idsById ↔ ∃ o ∈ live, cStr o.orderId = id := by
  simp [CassandraTables.idsById, h, List.filterMap_map]

/-- A row of `orders_by_user` under the order's user carries the order's id. -/
def CassandraTables.HasRowOf (t : CassandraTables Double) (o : Order Double) : Prop :=
  ∃ row ∈ t.ordersByUser.rows,
    row .userId = some (.string o.userId) ∧ row .orderId = some (.string o.orderId)

def NoOrderLost (live : List (Order Double)) (t : CassandraTables Double) : Prop :=
  (∀ o ∈ live, t.HasRowOf o) ∧ t.Agree

def SeparateRows (live : List (Order Double)) : Prop :=
  (∀ o ∈ live, NulFree o.orderId ∧ NulFree o.userId) ∧
    live.Pairwise (fun a b => (a.userId, cStr a.createdAt) ≠ (b.userId, cStr b.createdAt))

theorem HasRowOf.nulFree {live : List (Order Double)} {t : CassandraTables Double}
    (hu : t.ordersByUser.HoldsLast (live.map rowByUser)) {o : Order Double} (h : t.HasRowOf o) :
    NulFree o.orderId ∧ NulFree o.userId := by
  obtain ⟨row, hrow, huser, hid⟩ := h
  rw [hu] at hrow
  obtain ⟨o', _, rfl⟩ := List.mem_map.1 (Table.lastWritten_subset _ hrow)
  simp only [rowByUser_apply, Option.some.injEq, CassValue.string.injEq] at huser hid
  exact ⟨hid ▸ nulFree_cStr _, huser ▸ nulFree_cStr _⟩

/-- When every order has its row, no row has displaced another. -/
theorem rows_of_hasRowOf {live : List (Order Double)} {t : CassandraTables Double}
    (hu : t.ordersByUser.HoldsLast (live.map rowByUser)) (hids : (live.map Order.orderId).Nodup)
    (h : ∀ o ∈ live, t.HasRowOf o) : t.ordersByUser.rows = live.map rowByUser := by
  have hfree (o : Order Double) (ho : o ∈ live) := HasRowOf.nulFree hu (h o ho)
  have hinj (o o' : Order Double) (ho : o ∈ live) (ho' : o' ∈ live)
      (he : cStr o.orderId = cStr o'.orderId) : o = o' := by
    rw [cStr_of_nulFree (hfree o ho).1, cStr_of_nulFree (hfree o' ho').1] at he
    exact List.inj_on_of_nodup_map hids ho ho' he
  rw [hu]
  apply Table.lastWritten_eq_self_of_subset
  · refine List.Nodup.map_on ?_ hids.of_map
    intro o ho o' ho' he
    have hid := congrArg (·.textAt .orderId) he
    simp only [textAt_rowByUser_orderId, Option.some.injEq] at hid
    exact hinj o o' ho ho' hid
  · intro row hrow
    obtain ⟨o, ho, rfl⟩ := List.mem_map.1 hrow
    obtain ⟨row, hmem, _, hid⟩ := h o ho
    rw [hu] at hmem
    obtain ⟨o', ho', rfl⟩ := List.mem_map.1 (Table.lastWritten_subset _ hmem)
    simp only [rowByUser_apply, Option.some.injEq, CassValue.string.injEq] at hid
    have he := hinj o o' ho ho' ((cStr_of_nulFree (hfree o ho).1).trans hid.symm)
    rw [he]
    exact hmem

theorem noOrderLost_of_separateRows {live : List (Order Double)} {t : CassandraTables Double}
    (hi : t.ordersById.HoldsLast (live.map rowById))
    (hu : t.ordersByUser.HoldsLast (live.map rowByUser)) (hids : (live.map Order.orderId).Nodup)
    (h : SeparateRows live) : NoOrderLost live t := by
  obtain ⟨hfree, hkeys⟩ := h
  have hurows : t.ordersByUser.rows = live.map rowByUser := by
    apply hu.eq_self
    rw [List.pairwise_map]
    apply hkeys.imp_of_mem
    intro a b ha hb hne he
    simp only [ordersByUserKey_rowByUser, cStr_of_nulFree (hfree a ha).2,
      cStr_of_nulFree (hfree b hb).2, Prod.mk.injEq, Option.some.injEq] at he
    exact hne (Prod.ext he.1 he.2)
  have hirows : t.ordersById.rows = live.map rowById := by
    apply hi.eq_self
    rw [List.pairwise_map]
    apply (List.pairwise_map.1 hids).imp_of_mem
    intro a b ha hb hne he
    simp only [ordersByIdKey_rowById, cStr_of_nulFree (hfree a ha).1,
      cStr_of_nulFree (hfree b hb).1, Option.some.injEq] at he
    exact hne he
  constructor
  · intro o ho
    refine ⟨rowByUser o, hurows ▸ List.mem_map_of_mem ho, ?_, ?_⟩
    · rw [rowByUser_apply, cStr_of_nulFree (hfree o ho).2]
    · rw [rowByUser_apply, cStr_of_nulFree (hfree o ho).1]
  · intro id
    rw [mem_idsByUser hurows, mem_idsById hirows]

theorem separateRows_of_noOrderLost {live : List (Order Double)} {t : CassandraTables Double}
    (hu : t.ordersByUser.HoldsLast (live.map rowByUser)) (hids : (live.map Order.orderId).Nodup)
    (h : NoOrderLost live t) : SeparateRows live := by
  have hfree (o : Order Double) (ho : o ∈ live) := HasRowOf.nulFree hu (h.1 o ho)
  refine ⟨hfree, ?_⟩
  have hkeys := Table.lastWritten_eq_self_iff.1 (hu.symm.trans (rows_of_hasRowOf hu hids h.1))
  apply (List.pairwise_map.1 hkeys).imp_of_mem
  intro a b ha hb hne he
  obtain ⟨huser, hcreated⟩ := Prod.mk.inj he
  simp only [ordersByUserKey_rowByUser, huser, hcreated, ne_eq, not_true_eq_false] at hne

/-- An order stays readable by its user unless a later one takes its (user, timestamp) row. -/
theorem noOrderLost_iff (ops : List (CassandraOp Double)) (hl : ∀ op ∈ ops, op.Loads)
    (hids : ((ops.flatMap CassandraOp.orders).map Order.orderId).Nodup) :
    NoOrderLost (ordersSinceClear ops) (tablesAfter ops) ↔
      SeparateRows (ordersSinceClear ops) := by
  have hi := ordersById_holdsLast ops hl
  have hu := ordersByUser_holdsLast ops
  have hn := ((ordersSinceClear_subset ops).map Order.orderId).nodup hids
  exact ⟨separateRows_of_noOrderLost hu hn, noOrderLost_of_separateRows hi hu hn⟩

def differentSeconds : List (CassandraOp Rat) :=
  [.insertOne (stampedOrder "a" "u" "2026-03-15T10:30:00Z"),
   .insertOne (stampedOrder "b" "u" "2026-03-15T10:30:01Z")]

theorem noOrderLost_differentSeconds :
    NoOrderLost (ordersSinceClear differentSeconds) (tablesAfter differentSeconds) :=
  (noOrderLost_iff differentSeconds (by simp [differentSeconds, CassandraOp.Loads])
    (by decide)).2 (by unfold SeparateRows; decide)

def sameSecond : List (CassandraOp Rat) :=
  [.insertOne (stampedOrder "a" "u" "2026-03-15T10:30:00Z"),
   .insertOne (stampedOrder "b" "u" "2026-03-15T10:30:00Z")]

theorem orderLost_sameSecond :
    (∀ op ∈ sameSecond, op.Loads) ∧
      ((sameSecond.flatMap CassandraOp.orders).map Order.orderId).Nodup ∧
      ¬ NoOrderLost (ordersSinceClear sameSecond) (tablesAfter sameSecond) := by
  refine ⟨by simp [sameSecond, CassandraOp.Loads], by decide, fun h => ?_⟩
  have hrow := h.1 (stampedOrder "a" "u" "2026-03-15T10:30:00Z") (by decide)
  revert hrow
  unfold CassandraTables.HasRowOf
  decide

end DbBenchmark
