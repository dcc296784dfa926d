import DbBenchmark.DeletedOrders

namespace DbBenchmark

open Keyed Throwing
set_option autoImplicit true

variable {Double : Type}

def ThrownUnder (context msg : CppString) : Prop :=
  ∃ reason, msg = lit "CassandraClient [" ++ context ++ lit "]: " ++ reason

/-- A statement either takes effect, or throws under its context and changes no table. -/
theorem execute_triple {P Q : CassandraTables Double → Prop}
    (effect : CassandraTables Double → CassandraTables Double) (context : CppString)
    (h : ∀ t, P t → Q (effect t)) :
    Triple (fun c => P c.tables) (execute effect context) (fun _ c => Q c.tables)
      (fun msg c => ThrownUnder context msg ∧ P c.tables) := by
  intro c hc
  obtain ⟨t, outcomes, readErrors, unset⟩ := c
  rcases outcomes with _ | ⟨_ | reason, rest⟩
  · exact h t hc
  · exact h t hc
  · exact ⟨⟨reason, rfl⟩, hc⟩

def CassandraTables.OnlyFrom (orders : List (Order Double)) (t : CassandraTables Double) : Prop :=
  (∀ row ∈ t.ordersById.rows, ∃ o ∈ orders, row = rowById o) ∧
    ∀ row ∈ t.ordersByUser.rows, ∃ o ∈ orders, row = rowByUser o

theorem onlyFrom_insertById {orders : List (Order Double)} {t : CassandraTables Double}
    (h : t.OnlyFrom orders) (ho : o ∈ orders) : (t.insertById o).OnlyFrom orders := by
  refine ⟨fun row hrow => ?_, h.2⟩
  rcases Table.mem_upsert.1 hrow with rfl | ⟨hrow, _⟩
  · exact ⟨o, ho, rfl⟩
  · exact h.1 row hrow

theorem onlyFrom_insertByUser {orders : List (Order Double)} {t : CassandraTables Double}
    (h : t.OnlyFrom orders) (ho : o ∈ orders) : (t.insertByUser o).OnlyFrom orders := by
  refine ⟨h.1, fun row hrow => ?_⟩
  rcases Table.mem_upsert.1 hrow with rfl | ⟨hrow, _⟩
  · exact ⟨o, ho, rfl⟩
  · exact h.2 row hrow

theorem onlyFrom_deleteById {orders : List (Order Double)} {t : CassandraTables Double}
    (h : t.OnlyFrom orders) (orderId : CppString) : (t.deleteById orderId).OnlyFrom orders :=
  ⟨fun row hrow => h.1 row (Table.mem_erase.1 hrow).1, h.2⟩

theorem onlyFrom_truncateById {orders : List (Order Double)} {t : CassandraTables Double}
    (h : t.OnlyFrom orders) : t.truncateById.OnlyFrom orders :=
  ⟨fun _ hrow => (List.not_mem_nil hrow).elim, h.2⟩

theorem onlyFrom_truncateByUser {orders : List (Order Double)} {t : CassandraTables Double}
    (h : t.OnlyFrom orders) : t.truncateByUser.OnlyFrom orders :=
  ⟨h.1, fun _ hrow => (List.not_mem_nil hrow).elim⟩

theorem execute_keeps {P : CassandraTables Double → Prop}
    {effect : CassandraTables Double → CassandraTables Double} (context : CppString)
    (h : ∀ t, P t → P (effect t)) :
    Keeps (fun c => P c.tables) (execute effect context) :=
  (execute_triple effect context h).mono (fun _ hc => hc) (fun _ _ hc => hc) (fun _ _ hc => hc.2)

theorem insertOne_keeps_onlyFrom {orders : List (Order Double)} (ho : o ∈ orders) :
    Keeps (fun c => c.tables.OnlyFrom orders) (CassandraClient.insertOne o) :=
  (execute_keeps _ fun _ h => onlyFrom_insertById h ho).bind fun _ =>
    execute_keeps _ fun _ h => onlyFrom_insertByUser h ho

theorem call_keeps_onlyFrom {orders : List (Order Double)} (op : CassandraOp Double)
    (hop : op.orders ⊆ orders) : Keeps (fun c => c.tables.OnlyFrom orders) op.call := by
  cases op with
  | insertOne o => exact insertOne_keeps_onlyFrom (hop (List.mem_singleton_self o))
  | insertBatch batch => exact .forM fun o ho => insertOne_keeps_onlyFrom (hop ho)
  | deleteByPrimaryKey orderId => exact execute_keeps _ fun _ h => onlyFrom_deleteById h orderId
  | clearTable =>
    exact (execute_keeps _ fun _ h => onlyFrom_truncateById h).bind fun _ =>
      execute_keeps _ fun _ h => onlyFrom_truncateByUser h

def clusterAfter (outcomes : List (Option CppString)) (ops : List (CassandraOp Double)) :
    Cluster Double :=
  ops.foldl (fun c op => finalState op.call c) { Cluster.healthy .empty with outcomes }

theorem onlyFrom_clusterAfter (outcomes : List (Option CppString))
    (ops : List (CassandraOp Double)) :
    (clusterAfter outcomes ops).tables.OnlyFrom (ops.flatMap CassandraOp.orders) := by
  have hcall (op : CassandraOp Double) (hop : op ∈ ops) :
      Keeps (fun c => c.tables.OnlyFrom (ops.flatMap CassandraOp.orders)) op.call :=
    call_keeps_onlyFrom op fun o ho => List.mem_flatMap.2 ⟨op, hop, ho⟩
  exact Keeps.foldl hcall ⟨fun _ hrow => (List.not_mem_nil hrow).elim,
    fun _ hrow => (List.not_mem_nil hrow).elim⟩

def Separate (a b : Order Double) : Prop :=
  cStr a.orderId ≠ cStr b.orderId ∧
    (cStr a.userId, cStr a.createdAt) ≠ (cStr b.userId, cStr b.createdAt)

instance (a b : Order Double) : Decidable (Separate a b) :=
  inferInstanceAs (Decidable (_ ∧ _ ≠ _))

/-- The tables agree, and orders still to be inserted clash with no stored row nor each other. -/
structure Ready (orders : List (Order Double)) (t : CassandraTables Double) : Prop where
  agree : t.Agree
  fresh_id : ∀ o ∈ orders, cStr o.orderId ∉ t.idsById
  fresh_row : ∀ o ∈ orders, ∀ row ∈ t.ordersByUser.rows,
    ordersByUserKey row ≠ ordersByUserKey (rowByUser o)
  separate : orders.Pairwise Separate

theorem mem_idsByUser_insert_of_fresh {t : CassandraTables Double} {o : Order Double}
    (h : ∀ row ∈ t.ordersByUser.rows, ordersByUserKey row ≠ ordersByUserKey (rowByUser o))
    {id : CppString} :
    id ∈ (t.insert o).idsByUser ↔ cStr o.orderId = id ∨ id ∈ t.idsByUser := by
  refine ⟨mem_idsByUser_insert, fun hid => ?_⟩
  rw [CassandraTables.idsByUser, ordersByUser_insert, mem_ids_upsert, textAt_rowByUser_orderId,
    Option.some.injEq]
  refine hid.imp_right fun hid => ?_
  obtain ⟨row, hrow, hid⟩ := List.mem_filterMap.1 hid
  exact ⟨row, hrow, h row hrow, hid⟩

theorem ready_insert {t : CassandraTables Double} (h : Ready (o :: orders) t) :
    Ready orders (t.insert o) where
  agree id := by
    rw [mem_idsByUser_insert_of_fresh (h.fresh_row o List.mem_cons_self), mem_idsById_insert,
      h.agree id]
  fresh_id x hx hmem := by
    rcases mem_idsById_insert.1 hmem with he | hmem
    · exact ((List.pairwise_cons.1 h.separate).1 x hx).1 he
    · exact h.fresh_id x (List.mem_cons_of_mem o hx) hmem
  fresh_row x hx row hrow := by
    rcases Table.mem_upsert.1 hrow with rfl | ⟨hrow, _⟩
    · intro he
      have hne := ((List.pairwise_cons.1 h.separate).1 x hx).2
      simp only [ordersByUserKey_rowByUser, Prod.mk.injEq, Option.some.injEq] at he
      exact hne (Prod.ext he.1 he.2)
    · exact h.fresh_row x (List.mem_cons_of_mem o hx) row hrow
  separate := (List.pairwise_cons.1 h.separate).2

def CassandraTables.OnlyByIdHas (t : CassandraTables Double) (o : Order Double) : Prop :=
  cStr o.orderId ∉ t.idsByUser ∧ ∀ id, id ∈ t.idsById ↔ id ∈ t.idsByUser ∨ id = cStr o.orderId

theorem onlyByIdHas_insertById {t : CassandraTables Double} (h : Ready (o :: orders) t) :
    (t.insertById o).OnlyByIdHas o := by
  constructor
  · intro hmem
    exact h.fresh_id o List.mem_cons_self ((h.agree _).1 hmem)
  · intro id
    have hid : id ∈ (t.insert o).idsById ↔ _ := mem_idsById_insert
    rw [← h.agree id, or_comm, eq_comm] at hid
    exact hid

/-- What an insert that threw leaves behind, by the statement that failed. -/
def InsertInterrupted (orders : List (Order Double)) (msg : CppString)
    (t : CassandraTables Double) : Prop :=
  (ThrownUnder (lit "insert_one orders_by_id") msg ∧ t.Agree) ∨
    (ThrownUnder (lit "insert_one orders_by_user") msg ∧ ∃ o ∈ orders, t.OnlyByIdHas o)

theorem insertOne_triple (o : Order Double) (orders all : List (Order Double)) (ho : o ∈ all) :
    Triple (fun c => Ready (o :: orders) c.tables) (CassandraClient.insertOne o)
      (fun _ c => Ready orders c.tables) (fun msg c => InsertInterrupted all msg c.tables) := by
  apply Triple.bind (R := fun _ c => ∃ t, Ready (o :: orders) t ∧ c.tables = t.insertById o)
  · have h := execute_triple (·.insertById o) (lit "insert_one orders_by_id")
      (P := Ready (o :: orders)) (Q := fun t' => ∃ t, Ready (o :: orders) t ∧ t' = t.insertById o)
      (fun t ht => ⟨t, ht, rfl⟩)
    exact h.mono (fun _ hc => hc) (fun _ _ hc => hc) (fun _ _ hc => .inl ⟨hc.1, hc.2.agree⟩)
  · intro _
    have h := execute_triple (·.insertByUser o) (lit "insert_one orders_by_user")
      (P := fun t' => ∃ t, Ready (o :: orders) t ∧ t' = t.insertById o) (Q := Ready orders)
      (by rintro t' ⟨t, ht, rfl⟩; exact ready_insert ht)
    refine h.mono (fun _ hc => hc) (fun _ _ hc => hc) ?_
    rintro msg c ⟨hmsg, t, ht, he⟩
    exact .inr ⟨hmsg, o, ho, he ▸ onlyByIdHas_insertById ht⟩

def Interrupted (op : CassandraOp Double) (before : CassandraTables Double) (msg : CppString)
    (after : CassandraTables Double) : Prop :=
  match op with
  | .insertOne o => InsertInterrupted [o] msg after
  | .insertBatch orders => InsertInterrupted orders msg after
  | .deleteByPrimaryKey _ => ThrownUnder (lit "delete_by_primary_key") msg ∧ after = before
  | .clearTable =>
    (ThrownUnder (lit "TRUNCATE benchmark.orders_by_id") msg ∧ after.Agree) ∨
      (ThrownUnder (lit "TRUNCATE benchmark.orders_by_user") msg ∧ after.idsById = [] ∧
        after.idsByUser = before.idsByUser)

theorem insertBatch_triple (orders all : List (Order Double)) (h : orders ⊆ all) :
    Triple (fun c => Ready orders c.tables) (CassandraClient.insertBatch orders)
      (fun _ c => c.tables.Agree) (fun msg c => InsertInterrupted all msg c.tables) := by
  induction orders with
  | nil => exact fun c hc => hc.agree
  | cons o orders ih =>
    exact (insertOne_triple o orders all (h List.mem_cons_self)).bind fun _ =>
      ih fun x hx => h (List.mem_cons_of_mem o hx)

theorem clearTable_triple (before : CassandraTables Double) (hb : before.Agree) :
    Triple (fun c => c.tables = before) CassandraClient.clearTable (fun _ c => c.tables.Agree)
      (fun msg c => Interrupted .clearTable before msg c.tables) := by
  apply Triple.bind (R := fun _ c => c.tables = before.truncateById)
  · have h := execute_triple (·.truncateById) (lit "TRUNCATE benchmark.orders_by_id")
      (P := (· = before)) (Q := (· = before.truncateById)) (fun t ht => by rw [ht])
    exact h.mono (fun _ hc => hc) (fun _ _ hc => hc) (fun _ _ hc => .inl ⟨hc.1, hc.2 ▸ hb⟩)
  · intro _
    have h := execute_triple (·.truncateByUser) (lit "TRUNCATE benchmark.orders_by_user")
      (P := (· = before.truncateById)) (Q := (· = .empty)) (fun t ht => by rw [ht]; rfl)
    refine h.mono (fun _ hc => hc) (fun _ c hc => ?_) (fun msg c hc => ?_)
    · rw [hc]
      exact fun _ => Iff.rfl
    · rw [hc.2]
      exact .inr ⟨hc.1, rfl, rfl⟩

theorem ready_clusterAfter (outcomes : List (Option CppString))
    (ops : List (CassandraOp Double)) (orders : List (Order Double))
    (ha : (clusterAfter outcomes ops).tables.Agree)
    (hs : (ops.flatMap CassandraOp.orders ++ orders).Pairwise Separate) :
    Ready orders (clusterAfter outcomes ops).tables := by
  obtain ⟨honly, honly'⟩ := onlyFrom_clusterAfter outcomes ops
  obtain ⟨_, hnew, hcross⟩ := List.pairwise_append.1 hs
  refine ⟨ha, ?_, ?_, hnew⟩
  · intro o ho hmem
    obtain ⟨row, hrow, hid⟩ := List.mem_filterMap.1 hmem
    obtain ⟨x, hx, rfl⟩ := honly row hrow
    rw [textAt_rowById_orderId, Option.some.injEq] at hid
    exact (hcross x hx o ho).1 hid
  · intro o ho row hrow he
    obtain ⟨x, hx, rfl⟩ := honly' row hrow
    simp only [ordersByUserKey_rowByUser, Prod.mk.injEq, Option.some.injEq] at he
    exact (hcross x hx o ho).2 (Prod.ext he.1 he.2)

theorem call_triple (op : CassandraOp Double) (hl : op.Loads) (before : CassandraTables Double)
    (hb : Ready op.orders before) :
    Triple (fun c => c.tables = before) op.call (fun _ c => c.tables.Agree)
      (fun msg c => Interrupted op before msg c.tables) := by
  cases op with
  | insertOne o =>
    exact (insertOne_triple o [] [o] List.mem_cons_self).mono (fun _ hc => hc ▸ hb)
      (fun _ _ hc => hc.agree) (fun _ _ hc => hc)
  | insertBatch orders =>
    exact (insertBatch_triple orders orders (List.Subset.refl _)).mono (fun _ hc => hc ▸ hb)
      (fun _ _ hc => hc) (fun _ _ hc => hc)
  | deleteByPrimaryKey orderId => exact hl.elim
  | clearTable => exact clearTable_triple before hb.agree

/-- From agreeing tables a call returns with agreeing tables; if it throws they still agree
unless the failed statement was the one on `orders_by_user`. -/
theorem call_from_agreeing (outcomes : List (Option CppString)) (ops : List (CassandraOp Double))
    (op : CassandraOp Double) (hl : op.Loads) (ha : (clusterAfter outcomes ops).tables.Agree)
    (hs : ((ops ++ [op]).flatMap CassandraOp.orders).Pairwise Separate) :
    (∀ c, op.call (clusterAfter outcomes ops) = .ok () c → c.tables.Agree) ∧
      ∀ msg c, op.call (clusterAfter outcomes ops) = .error msg c →
        Interrupted op (clusterAfter outcomes ops).tables msg c.tables := by
  rw [List.flatMap_append, List.flatMap_singleton] at hs
  have h := call_triple op hl _ (ready_clusterAfter outcomes ops op.orders ha hs)
  exact ⟨fun c hc => h.of_ok rfl hc, fun msg c hc => h.of_error rfl hc⟩

def halfWay : List (Option CppString) := [none, none, none, some (lit "write timeout")]

def twoOrders : CassandraOp Rat :=
  .insertBatch [stampedOrder "a" "u" "2026-03-15T10:30:00Z",
    stampedOrder "b" "u" "2026-03-15T10:30:01Z"]

theorem call_from_agreeing_halfWay :
    InsertInterrupted twoOrders.orders
      (lit "CassandraClient [insert_one orders_by_user]: write timeout")
      (finalState twoOrders.call (clusterAfter halfWay [])).tables :=
  (call_from_agreeing halfWay [] twoOrders trivial (fun _ => Iff.rfl)
    (by decide)).2 _ _ rfl

def cutShort : CassandraOp Rat :=
  .insertBatch [stampedOrder "a" "u\x00x" "2026-03-15T10:30:00Z",
    stampedOrder "b" "u\x00y" "2026-03-15T10:30:00Z"]

/-- The first batch stops half way, and the second loses a row though every statement succeeds. -/
theorem halfWay_disagree :
    (clusterAfter halfWay ([] : List (CassandraOp Rat))).tables.Agree ∧
      ¬ (finalState twoOrders.call (clusterAfter halfWay [])).tables.Agree ∧
      cutShort.orders.Pairwise (fun a b => a.orderId ≠ b.orderId ∧
        (a.userId, a.createdAt) ≠ (b.userId, b.createdAt)) ∧
      ¬ (finalState cutShort.call (clusterAfter [] [])).tables.Agree := by
  refine ⟨fun _ => Iff.rfl, fun h => ?_, by decide, fun h => ?_⟩
  · have hb := (h (lit "b")).2 (by decide)
    revert hb
    decide
  · have ha := (h (lit "a")).2 (by decide)
    revert ha
    decide

end DbBenchmark
