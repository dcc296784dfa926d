import DbBenchmark.CassandraTables

namespace DbBenchmark

open Keyed Throwing
set_option autoImplicit true

variable {Double : Type}

/-- The order with every string cut where `c_str()` cuts it. -/
def Order.bound (o : Order Double) : Order Double where
  orderId := cStr o.orderId
  userId := cStr o.userId
  productId := cStr o.productId
  status := cStr o.status
  amount := o.amount
  quantity := o.quantity
  description := cStr o.description
  createdAt := cStr o.createdAt
  updatedAt := cStr o.updatedAt

@[simp] theorem Order.NulFree.bound_eq {o : Order Double} (h : o.NulFree) : o.bound = o := by
  simp only [Order.bound, cStr_of_nulFree h.orderId, cStr_of_nulFree h.userId,
    cStr_of_nulFree h.productId, cStr_of_nulFree h.status, cStr_of_nulFree h.description,
    cStr_of_nulFree h.createdAt, cStr_of_nulFree h.updatedAt]

/-- What `row_to_order` makes of a row of `orders_by_user`, whose columns come in another order:
the shared decoder reads columns 4, 5 and 6 with the wrong type. -/
def misread (o : Order Double) : OrderObject Double where
  orderId := some (cStr o.userId)
  userId := some (cStr o.createdAt)
  productId := some (cStr o.orderId)
  status := some (cStr o.productId)
  amount := none
  quantity := none
  description := none
  createdAt := some (cStr o.description)
  updatedAt := some []

/-- After the amount and the quantity, which are read from two strings. -/
def Cluster.misread (c : Cluster Double) : Cluster Double :=
  (c.failed .invalidValueType).failed .invalidValueType

theorem getStr_stored (col : Nat) {row : CassRow Double}
    (hvalue : cassValueGetString (cassRowGetColumn row col) = .ok s) (c : Cluster Double) :
    getStr row col c = .ok (some s) c := by
  simp only [getStr, hvalue]

theorem getStr_unset {row : CassRow Double} {c : Cluster Double}
    (hvalue : cassValueGetString (cassRowGetColumn row col) = .error e)
    (hunset : c.unset c.readErrors = none) : getStr row col c = .ok none (c.failed e) := by
  simp only [getStr, hvalue, hunset]

theorem getStr_throws {row : CassRow Double} {c : Cluster Double}
    (hvalue : cassValueGetString (cassRowGetColumn row col) = .error e)
    (hunset : c.unset c.readErrors = some msg) : getStr row col c = .error msg (c.failed e) := by
  simp only [getStr, hvalue, hunset]

theorem rowToOrder_selectByUser (o : Order Double) (c : Cluster Double) :
    CassandraClient.rowToOrder (selectedRow selectByUserStmt (rowByUser o)) c =
      match c.misread.unset c.misread.readErrors with
      | none => .ok (misread o) (c.misread.failed .invalidValueType)
      | some msg => .error msg (c.misread.failed .invalidValueType) := by
  have hamount : outParam (cassValueGetDouble
      (cassRowGetColumn (selectedRow selectByUserStmt (rowByUser o)) 4)) c =
    .ok none (c.failed .invalidValueType) := rfl
  have hqty : outParam (cassValueGetInt32
      (cassRowGetColumn (selectedRow selectByUserStmt (rowByUser o)) 5))
      (c.failed .invalidValueType) = .ok none c.misread := rfl
  rw [CassandraClient.rowToOrder, bind_ok (getStr_stored 0 rfl c),
    bind_ok (getStr_stored 1 rfl c), bind_ok (getStr_stored 2 rfl c),
    bind_ok (getStr_stored 3 rfl c), bind_ok hamount, bind_ok hqty]
  cases hmade : c.misread.unset c.misread.readErrors with
  | none =>
    rw [bind_ok (getStr_unset rfl hmade)]
    rfl
  | some msg => rw [bind_error (getStr_throws rfl hmade)]

theorem findByPrimaryKey_stored {orderId : CppString} {t : CassandraTables Double}
    (h : t.ordersById.find? (some (cStr orderId)) = some (rowById o)) :
    CassandraClient.findByPrimaryKey orderId (.healthy t unset) =
      .ok o.bound.toObject (.healthy t unset) := by
  have hexec : execute id (lit "find_by_primary_key") (.healthy t unset) =
    .ok () (.healthy (id t) unset) := execute_healthy id _ t
  have hget : (get : CassandraM Double _) (.healthy t unset) =
    .ok (.healthy t unset) (.healthy t unset) := rfl
  rw [CassandraClient.findByPrimaryKey, bind_ok hexec, id_eq, bind_ok hget]
  simp only [Cluster.healthy, h]
  rfl

theorem findByPrimaryKey_absent {orderId : CppString} {t : CassandraTables Double}
    (h : t.ordersById.find? (some (cStr orderId)) = none) :
    CassandraClient.findByPrimaryKey orderId (.healthy t unset) =
      .ok .defaultInit (.healthy t unset) := by
  have hexec : execute id (lit "find_by_primary_key") (.healthy t unset) =
    .ok () (.healthy (id t) unset) := execute_healthy id _ t
  have hget : (get : CassandraM Double _) (.healthy t unset) =
    .ok (.healthy t unset) (.healthy t unset) := rfl
  rw [CassandraClient.findByPrimaryKey, bind_ok hexec, id_eq, bind_ok hget]
  simp only [Cluster.healthy, h]
  rfl

theorem findBySecondaryKey_healthy (userId : CppString) (t : CassandraTables Double) :
    CassandraClient.findBySecondaryKey userId (.healthy t unset) =
      (t.partition (cStr userId)).mapM
        (fun row => CassandraClient.rowToOrder (selectedRow selectByUserStmt row))
        (.healthy t unset) := rfl

def readBack (o : Order Double) : CassandraM Double (List (OrderObject Double)) := do
  CassandraClient.insertOne o
  CassandraClient.findBySecondaryKey o.userId

/-- One order comes back with every field but `updated_at`, and every column read had the
type it was read with. -/
def ReadsBack (unset : List CassError → Option CppString) (o : Order Double) : Prop :=
  ∃ r c, readBack o (.healthy .empty unset) = .ok [r] c ∧
    r = { o.toObject with updatedAt := r.updatedAt } ∧ c.readErrors = []

theorem readBack_eq (unset : List CassError → Option CppString) (o : Order Double) :
    readBack o (.healthy .empty unset) =
      (CassandraClient.rowToOrder (selectedRow selectByUserStmt (rowByUser o)) >>= fun r => pure [r])
        (.healthy (CassandraTables.empty.insert o) unset) := by
  have hp : (CassandraTables.empty.insert o).partition (cStr o.userId) = [rowByUser o] := by
    simp [CassandraTables.partition, CassandraTables.empty]
  rw [readBack, bind_ok (insertOne_healthy o .empty), findBySecondaryKey_healthy, hp,
    List.mapM_cons, List.mapM_nil]
  simp only [pure_bind]

/-- No order at all is read back by its user. -/
theorem not_readsBack (unset : List CassError → Option CppString) (o : Order Double) :
    ¬ ReadsBack unset o := by
  intro h
  obtain ⟨r, c, hread, -, hclean⟩ := h
  rw [readBack_eq, bind_eq_ok_iff] at hread
  obtain ⟨r', c', hrow, hpure⟩ := hread
  rw [rowToOrder_selectByUser] at hrow
  cases hpure
  split at hrow
  · cases hrow
    exact absurd hclean (List.concat_ne_nil _ _)
  · cases hrow

theorem readBack_orderId (o : Order Double)
    (h : readBack o (.healthy .empty unset) = .ok [r] c) :
    r.orderId = some (cStr o.userId) ∧ r.amount = none ∧ r.quantity = none := by
  rw [readBack_eq, bind_eq_ok_iff] at h
  obtain ⟨r', c', hrow, hpure⟩ := h
  rw [rowToOrder_selectByUser] at hrow
  cases hpure
  split at hrow
  · cases hrow
    exact ⟨rfl, rfl, rfl⟩
  · cases hrow

theorem not_readsBack_stampedOrder :
    ¬ ReadsBack (fun _ => none) (stampedOrder "a" "u" "2026-03-15T10:30:00Z") := by
  intro h
  obtain ⟨r, c, hread, hfields, -⟩ := h
  have hid := (readBack_orderId _ hread).1
  have hne : some (lit "a") ≠ some (cStr (lit "u")) := by decide
  rw [hfields] at hid
  exact hne hid

end DbBenchmark
