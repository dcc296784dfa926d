import DbBenchmark.DenormalisedTables

namespace DbBenchmark

open Keyed
set_option autoImplicit true

variable {Double : Type}

theorem mem_ids_upsert {K : Type} [DecidableEq K] {key : TableRow Double → K} {t : Table key}
    {row : TableRow Double} {id : CppString} :
    id ∈ (t.upsert row).rows.filterMap (·.textAt .orderId) ↔
      row.textAt .orderId = some id ∨
        ∃ x ∈ t.rows, key x ≠ key row ∧ x.textAt .orderId = some id := by
  simp only [List.mem_filterMap, Table.mem_upsert]
  constructor
  · rintro ⟨x, rfl | ⟨hx, hk⟩, hid⟩
    · exact .inl hid
    · exact .inr ⟨x, hx, hk, hid⟩
  · intro h'
    rcases h' with hid | ⟨x, hx, hk, hid⟩
    · exact ⟨row, .inl rfl, hid⟩
    · exact ⟨x, .inr ⟨hx, hk⟩, hid⟩

/-- `orders_by_id` is keyed by the id itself, so an insert only adds to its ids. -/
@[simp] theorem mem_idsById_insert {t : CassandraTables Double} {o : Order Double}
    {id : CppString} : id ∈ (t.insert o).idsById ↔ cStr o.orderId = id ∨ id ∈ t.idsById := by
  rw [CassandraTables.idsById, ordersById_insert, mem_ids_upsert, textAt_rowById_orderId,
    Option.some.injEq]
  by_cases he : cStr o.orderId = id
  · simp only [he, true_or]
  · simp only [he, false_or, CassandraTables.idsById, List.mem_filterMap]
    refine exists_congr fun x => and_congr_right fun _ => and_iff_right_of_imp fun hid hk => he ?_
    rw [ordersByIdKey, ordersByIdKey_rowById, hid, Option.some.injEq] at hk
    exact hk.symm

theorem mem_idsByUser_insert {t : CassandraTables Double} {o : Order Double} {id : CppString}
    (h : id ∈ (t.insert o).idsByUser) : cStr o.orderId = id ∨ id ∈ t.idsByUser := by
  rw [CassandraTables.idsByUser, ordersByUser_insert, mem_ids_upsert, textAt_rowByUser_orderId,
    Option.some.injEq] at h
  rcases h with hid | ⟨x, hx, _, hid⟩
  · exact .inl hid
  · exact .inr (List.mem_filterMap.2 ⟨x, hx, hid⟩)

@[simp] theorem mem_idsById_deleteById {t : CassandraTables Double} {orderId id : CppString} :
    id ∈ (t.deleteById orderId).idsById ↔ id ∈ t.idsById ∧ cStr orderId ≠ id := by
  simp only [CassandraTables.idsById, ordersById_deleteById, List.mem_filterMap, Table.mem_erase]
  constructor
  · intro h'
    obtain ⟨x, ⟨hx, hk⟩, hid⟩ := h'
    refine ⟨⟨x, hx, hid⟩, fun he => hk ?_⟩
    rw [ordersByIdKey, hid, he]
  · intro h'
    obtain ⟨⟨x, hx, hid⟩, hne⟩ := h'
    refine ⟨x, ⟨hx, fun hk => hne ?_⟩, hid⟩
    rw [ordersByIdKey, hid, Option.some.injEq] at hk
    exact hk.symm

@[simp] theorem idsById_empty : (CassandraTables.empty : CassandraTables Double).idsById = [] := rfl

theorem mem_idsById_foldl_insert {orders : List (Order Double)} {t : CassandraTables Double}
    {id : CppString} : id ∈ (orders.foldl .insert t).idsById ↔
      (∃ o ∈ orders, cStr o.orderId = id) ∨ id ∈ t.idsById := by
  induction orders generalizing t with
  | nil => simp
  | cons o orders ih => simp [ih, or_assoc, or_left_comm]

theorem mem_idsById_apply {op : CassandraOp Double} {t : CassandraTables Double}
    {id : CppString} : id ∈ (op.apply t).idsById ↔
      (∃ o ∈ op.orders, cStr o.orderId = id) ∨ (id ∈ t.idsById ∧ ¬ op.Removes id) := by
  cases op with
  | insertOne o => simp [CassandraOp.apply, CassandraOp.orders, CassandraOp.Removes]
  | insertBatch orders =>
    simp [CassandraOp.apply, CassandraOp.orders, CassandraOp.Removes, mem_idsById_foldl_insert]
  | deleteByPrimaryKey orderId =>
    simp [CassandraOp.apply, CassandraOp.orders, CassandraOp.Removes]
  | clearTable => simp [CassandraOp.apply, CassandraOp.orders, CassandraOp.Removes]

/-- Inserted by some call of the run, and neither deleted nor cleared by a later one. -/
def InsertedAndKept (ops : List (CassandraOp Double)) (id : CppString) : Prop :=
  ∃ before op after, ops = before ++ op :: after ∧ (∃ o ∈ op.orders, cStr o.orderId = id) ∧
    ∀ later ∈ after, ¬ later.Removes id

theorem insertedAndKept_concat {ops : List (CassandraOp Double)} {op : CassandraOp Double}
    {id : CppString} : InsertedAndKept (ops ++ [op]) id ↔
      (∃ o ∈ op.orders, cStr o.orderId = id) ∨ (InsertedAndKept ops id ∧ ¬ op.Removes id) := by
  constructor
  · intro h'
    obtain ⟨before, x, after, he, hins, hkept⟩ := h'
    rcases List.eq_nil_or_concat after with rfl | ⟨after, y, rfl⟩
    · obtain ⟨_, rfl⟩ := List.append_inj' he rfl |>.imp_right List.singleton_inj.1
      exact .inl hins
    · rw [List.concat_eq_append, ← List.cons_append, ← List.append_assoc] at he
      obtain ⟨rfl, hy⟩ := List.append_inj' he rfl
      obtain rfl := List.singleton_inj.1 hy
      exact .inr ⟨⟨before, x, after, rfl, hins, fun z hz => hkept z (by simp [hz])⟩,
        hkept op (by simp)⟩
  · intro h'
    rcases h' with hins | ⟨⟨before, x, after, rfl, hins, hkept⟩, hop⟩
    · exact ⟨ops, op, [], rfl, hins, by simp⟩
    · refine ⟨before, x, after ++ [op], by simp, hins, ?_⟩
      intro later hlater
      rcases List.mem_append.1 hlater with hlater | hlater
      · exact hkept later hlater
      · rw [List.mem_singleton.1 hlater]
        exact hop

theorem mem_idsById_iff {ops : List (CassandraOp Double)} {id : CppString} :
    id ∈ (tablesAfter ops).idsById ↔ InsertedAndKept ops id := by
  induction ops using List.reverseRecOn with
  | nil => simp [InsertedAndKept]
  | append_singleton ops op ih =>
    rw [tablesAfter_concat, mem_idsById_apply, insertedAndKept_concat, ih]

def CassandraTables.NoStale (t : CassandraTables Double) : Prop :=
  ∀ id ∈ t.idsByUser, id ∈ t.idsById

/-- The call deletes an id whose row in `orders_by_user` would stay behind. -/
def CassandraOp.LeavesRow (t : CassandraTables Double) : CassandraOp Double → Prop
  | .deleteByPrimaryKey orderId => cStr orderId ∈ t.idsByUser
  | _ => False

theorem noStale_insert {t : CassandraTables Double} (h : t.NoStale) (o : Order Double) :
    (t.insert o).NoStale := by
  intro id hid
  rcases mem_idsByUser_insert hid with he | hid
  · exact mem_idsById_insert.2 (.inl he)
  · exact mem_idsById_insert.2 (.inr (h id hid))

theorem noStale_apply {t : CassandraTables Double} (h : t.NoStale) {op : CassandraOp Double}
    (hop : ¬ op.LeavesRow t) : (op.apply t).NoStale := by
  cases op with
  | insertOne o => exact noStale_insert h o
  | insertBatch orders =>
    induction orders generalizing t with
    | nil => exact h
    | cons o orders ih => exact ih (noStale_insert h o) (fun hf => hf)
  | deleteByPrimaryKey orderId =>
    intro id hid
    refine mem_idsById_deleteById.2 ⟨h id hid, ?_⟩
    rintro rfl
    exact hop hid
  | clearTable =>
    intro id hid
    cases hid

theorem not_noStale_apply {t : CassandraTables Double} {op : CassandraOp Double}
    (hop : op.LeavesRow t) : ¬ (op.apply t).NoStale := by
  intro h
  cases op with
  | deleteByPrimaryKey orderId => exact (mem_idsById_deleteById.1 (h _ hop)).2 rfl
  | _ => exact hop

/-- Reads by user see only stored orders throughout a run exactly when no call of the run
deletes an order whose row in `orders_by_user` is still there. -/
theorem noStale_throughout_iff (ops : List (CassandraOp Double)) :
    (∀ before, before <+: ops → ∀ id ∈ (tablesAfter before).idsByUser,
        id ∈ (tablesAfter before).idsById ∧ InsertedAndKept before id) ↔
      ∀ before op, before ++ [op] <+: ops → ¬ op.LeavesRow (tablesAfter before) := by
  constructor
  · intro h before op hpre hleaves
    apply not_noStale_apply hleaves
    rw [← tablesAfter_concat]
    exact fun id hid => (h _ hpre id hid).1
  · intro h before hpre
    have hns : (tablesAfter before).NoStale := by
      induction before using List.reverseRecOn with
      | nil =>
        intro id hid
        cases hid
      | append_singleton before op ih =>
        rw [tablesAfter_concat]
        exact noStale_apply (ih ((List.prefix_append _ _).trans hpre)) (h before op hpre)
    exact fun id hid => ⟨hns id hid, mem_idsById_iff.1 (hns id hid)⟩

def deletedOrder : List (CassandraOp Rat) :=
  [.insertOne (stampedOrder "a" "u" "2026-03-15T10:30:00Z"), .deleteByPrimaryKey (lit "a")]

theorem deletedOrder_stale :
    lit "a" ∈ (tablesAfter deletedOrder).idsByUser ∧
      lit "a" ∉ (tablesAfter deletedOrder).idsById := by
  decide

end DbBenchmark
