import DbBenchmark.CassandraClient

namespace DbBenchmark

open Keyed Throwing
set_option autoImplicit true

variable {Double : Type}

@[simp] theorem rowByUser_apply (o : Order Double) (c : Column) :
    rowByUser o c = match c with
      | .orderId => some (.string (cStr o.orderId))
      | .userId => some (.string (cStr o.userId))
      | .productId => some (.string (cStr o.productId))
      | .status => some (.string (cStr o.status))
      | .amount => some (.double o.amount)
      | .quantity => some (.int32 o.quantity)
      | .description => some (.string (cStr o.description))
      | .createdAt => some (.string (cStr o.createdAt))
      | .updatedAt => none := by
  cases c <;> rfl

@[simp] theorem textAt_rowById_orderId (o : Order Double) :
    (rowById o).textAt .orderId = some (cStr o.orderId) := rfl

@[simp] theorem textAt_rowByUser_orderId (o : Order Double) :
    (rowByUser o).textAt .orderId = some (cStr o.orderId) := rfl

@[simp] theorem textAt_rowByUser_userId (o : Order Double) :
    (rowByUser o).textAt .userId = some (cStr o.userId) := rfl

@[simp] theorem ordersByIdKey_rowById (o : Order Double) :
    ordersByIdKey (rowById o) = some (cStr o.orderId) := rfl

@[simp] theorem ordersByUserKey_rowByUser (o : Order Double) :
    ordersByUserKey (rowByUser o) = (some (cStr o.userId), some (cStr o.createdAt)) := rfl

theorem execute_healthy (effect : CassandraTables Double → CassandraTables Double)
    (context : CppString) (t : CassandraTables Double) :
    execute effect context (.healthy t unset) = .ok () (.healthy (effect t) unset) := rfl

def CassandraTables.insert (t : CassandraTables Double) (o : Order Double) :
    CassandraTables Double :=
  (t.insertById o).insertByUser o

@[simp] theorem ordersById_insert (t : CassandraTables Double) (o : Order Double) :
    (t.insert o).ordersById = t.ordersById.upsert (rowById o) := rfl

@[simp] theorem ordersByUser_insert (t : CassandraTables Double) (o : Order Double) :
    (t.insert o).ordersByUser = t.ordersByUser.upsert (rowByUser o) := rfl

theorem ordersById_foldl_insert (orders : List (Order Double)) (t : CassandraTables Double) :
    (orders.foldl .insert t).ordersById =
      orders.foldl (fun u o => u.upsert (rowById o)) t.ordersById :=
  (List.foldl_hom CassandraTables.ordersById fun _ _ => rfl).symm

theorem ordersByUser_foldl_insert (orders : List (Order Double)) (t : CassandraTables Double) :
    (orders.foldl .insert t).ordersByUser =
      orders.foldl (fun u o => u.upsert (rowByUser o)) t.ordersByUser :=
  (List.foldl_hom CassandraTables.ordersByUser fun _ _ => rfl).symm

@[simp] theorem ordersById_deleteById (t : CassandraTables Double) (orderId : CppString) :
    (t.deleteById orderId).ordersById = t.ordersById.erase (some (cStr orderId)) := rfl

@[simp] theorem ordersByUser_deleteById (t : CassandraTables Double) (orderId : CppString) :
    (t.deleteById orderId).ordersByUser = t.ordersByUser := rfl

theorem insertOne_healthy (o : Order Double) (t : CassandraTables Double) :
    CassandraClient.insertOne o (.healthy t unset) = .ok () (.healthy (t.insert o) unset) := rfl

theorem insertBatch_healthy (orders : List (Order Double)) (t : CassandraTables Double) :
    CassandraClient.insertBatch orders (.healthy t unset) =
      .ok () (.healthy (orders.foldl .insert t) unset) :=
  forM_ok insertOne_healthy orders t

theorem deleteByPrimaryKey_healthy (orderId : CppString) (t : CassandraTables Double) :
    CassandraClient.deleteByPrimaryKey orderId (.healthy t unset) =
      .ok () (.healthy (t.deleteById orderId) unset) := rfl

theorem clearTable_healthy (t : CassandraTables Double) :
    CassandraClient.clearTable (.healthy t unset) = .ok () (.healthy .empty unset) := rfl

inductive CassandraOp (Double : Type)
  | insertOne (o : Order Double)
  | insertBatch (orders : List (Order Double))
  | deleteByPrimaryKey (orderId : CppString)
  | clearTable

namespace CassandraOp

def call : CassandraOp Double → CassandraM Double Unit
  | insertOne o => CassandraClient.insertOne o
  | insertBatch orders => CassandraClient.insertBatch orders
  | deleteByPrimaryKey orderId => CassandraClient.deleteByPrimaryKey orderId
  | clearTable => CassandraClient.clearTable

def orders : CassandraOp Double → List (Order Double)
  | insertOne o => [o]
  | insertBatch orders => orders
  | deleteByPrimaryKey _ => []
  | clearTable => []

def Removes (id : CppString) : CassandraOp Double → Prop
  | insertOne _ => False
  | insertBatch _ => False
  | deleteByPrimaryKey orderId => cStr orderId = id
  | clearTable => True

def apply (op : CassandraOp Double) (t : CassandraTables Double) : CassandraTables Double :=
  match op with
  | insertOne o => t.insert o
  | insertBatch orders => orders.foldl .insert t
  | deleteByPrimaryKey orderId => t.deleteById orderId
  | clearTable => .empty

theorem call_healthy (op : CassandraOp Double) (t : CassandraTables Double) :
    op.call (.healthy t) = .ok () (.healthy (op.apply t)) := by
  cases op with
  | insertOne o => exact insertOne_healthy o t
  | insertBatch orders => exact insertBatch_healthy orders t
  | deleteByPrimaryKey orderId => exact deleteByPrimaryKey_healthy orderId t
  | clearTable => exact clearTable_healthy t

end CassandraOp

def callAll (ops : List (CassandraOp Double)) : CassandraM Double Unit :=
  ops.forM CassandraOp.call

/-- The tables after a sequence of successful calls, starting from empty tables. -/
def tablesAfter (ops : List (CassandraOp Double)) : CassandraTables Double :=
  (finalState (callAll ops) (.healthy .empty)).tables

theorem callAll_healthy (ops : List (CassandraOp Double)) (t : CassandraTables Double) :
    callAll ops (.healthy t) = .ok () (.healthy (ops.foldl (fun t op => op.apply t) t)) :=
  forM_ok CassandraOp.call_healthy ops t

theorem tablesAfter_eq (ops : List (CassandraOp Double)) :
    tablesAfter ops = ops.foldl (fun t op => op.apply t) .empty := by
  rw [tablesAfter, finalState_of_ok (callAll_healthy ops .empty)]
  rfl

@[simp] theorem tablesAfter_nil : tablesAfter ([] : List (CassandraOp Double)) = .empty := rfl

theorem tablesAfter_concat (ops : List (CassandraOp Double)) (op : CassandraOp Double) :
    tablesAfter (ops ++ [op]) = op.apply (tablesAfter ops) := by
  simp only [tablesAfter_eq, List.foldl_append, List.foldl_cons, List.foldl_nil]

end DbBenchmark
