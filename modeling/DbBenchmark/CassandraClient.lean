import DbBenchmark.KeyedTable
import DbBenchmark.Order
import DbBenchmark.Throwing
import Mathlib.Data.List.Sort

namespace DbBenchmark

open Keyed

inductive Column
  | orderId | userId | productId | status | amount | quantity | description | createdAt | updatedAt
deriving DecidableEq

inductive CassValue (Double : Type)
  | string (s : CppString)
  | double (d : Double)
  | int32 (i : Int32)
deriving DecidableEq

/-- A stored row; an absent cell is null. -/
abbrev TableRow (Double : Type) := Column → Option (CassValue Double)

/-- A row of a result set, by position in the column list of the SELECT. -/
abbrev CassRow (Double : Type) := List (Option (CassValue Double))

inductive CassError
  | nullValue
  | invalidValueType
deriving DecidableEq

variable {Double : Type}

def TableRow.textAt (row : TableRow Double) (c : Column) : Option CppString :=
  match row c with
  | some (.string s) => some s
  | _ => none

/-- PRIMARY KEY (order_id) -/
def ordersByIdKey (row : TableRow Double) : Option CppString := row.textAt .orderId

/-- PRIMARY KEY (user_id, created_at) -/
def ordersByUserKey (row : TableRow Double) : Option CppString × Option CppString :=
  (row.textAt .userId, row.textAt .createdAt)

structure CassandraTables (Double : Type) where
  ordersById : Table (@ordersByIdKey Double)
  ordersByUser : Table (@ordersByUserKey Double)

def CassandraTables.empty : CassandraTables Double := ⟨.empty, .empty⟩

/-- What a client call can observe and change. The head of `outcomes` is what the next
`cass_session_execute` reports, an error message or nothing; past its end all succeed.
`readErrors` lists the `cass_value_get_*` calls that did not return `CASS_OK`, and `unset` tells for
the next of them what becomes of a string made from the locals that it has left unset: an exception
with this message, or some string. -/
structure Cluster (Double : Type) where
  tables : CassandraTables Double
  outcomes : List (Option CppString)
  readErrors : List CassError
  unset : List CassError → Option CppString

def Cluster.healthy (tables : CassandraTables Double)
    (unset : List CassError → Option CppString := fun _ => none) : Cluster Double :=
  ⟨tables, [], [], unset⟩

abbrev CassandraM (Double : Type) := EStateM CppString (Cluster Double)

def insertByIdStmt : List Column :=
  [.orderId, .userId, .productId, .status, .amount, .quantity, .description, .createdAt, .updatedAt]

def insertByUserStmt : List Column :=
  [.userId, .createdAt, .orderId, .productId, .status, .amount, .quantity, .description]

def selectByIdStmt : List Column :=
  [.orderId, .userId, .productId, .status, .amount, .quantity, .description, .createdAt, .updatedAt]

def selectByUserStmt : List Column :=
  [.userId, .createdAt, .orderId, .productId, .status, .amount, .quantity, .description]

/-- The row an INSERT writes: the value bound at index `i` goes to the `i`-th listed column. -/
def boundRow (columns : List Column) (values : List (CassValue Double)) : TableRow Double :=
  fun c => (columns.zip values).lookup c

def selectedRow (columns : List Column) (row : TableRow Double) : CassRow Double :=
  columns.map row

/-- A failing statement leaves the tables as they were. -/
def cassSessionExecute (effect : CassandraTables Double → CassandraTables Double) :
    CassandraM Double (Option CppString) := fun c =>
  match c.outcomes with
  | [] => .ok none { c with tables := effect c.tables }
  | none :: rest => .ok none { c with tables := effect c.tables, outcomes := rest }
  | some msg :: rest => .ok (some msg) { c with outcomes := rest }

def checkFuture (future : Option CppString) (context : CppString) : CassandraM Double Unit :=
  match future with
  | none => pure ()
  | some msg => throw (lit "CassandraClient [" ++ context ++ lit "]: " ++ msg)

def execute (effect : CassandraTables Double → CassandraTables Double) (context : CppString) :
    CassandraM Double Unit := do
  let future ← cassSessionExecute effect
  checkFuture future context

def bindById (o : Order Double) : List (CassValue Double) :=
  [.string (cStr o.orderId), .string (cStr o.userId), .string (cStr o.productId),
   .string (cStr o.status), .double o.amount, .int32 o.quantity, .string (cStr o.description),
   .string (cStr o.createdAt), .string (cStr o.updatedAt)]

def bindByUser (o : Order Double) : List (CassValue Double) :=
  [.string (cStr o.userId), .string (cStr o.createdAt), .string (cStr o.orderId),
   .string (cStr o.productId), .string (cStr o.status), .double o.amount, .int32 o.quantity,
   .string (cStr o.description)]

def rowById (o : Order Double) : TableRow Double := boundRow insertByIdStmt (bindById o)

def rowByUser (o : Order Double) : TableRow Double := boundRow insertByUserStmt (bindByUser o)

def CassandraTables.insertById (t : CassandraTables Double) (o : Order Double) :
    CassandraTables Double :=
  { t with ordersById := t.ordersById.upsert (rowById o) }

def CassandraTables.insertByUser (t : CassandraTables Double) (o : Order Double) :
    CassandraTables Double :=
  { t with ordersByUser := t.ordersByUser.upsert (rowByUser o) }

def CassandraTables.deleteById (t : CassandraTables Double) (orderId : CppString) :
    CassandraTables Double :=
  { t with ordersById := t.ordersById.erase (some (cStr orderId)) }

def CassandraTables.truncateById (t : CassandraTables Double) : CassandraTables Double :=
  { t with ordersById := .empty }

def CassandraTables.truncateByUser (t : CassandraTables Double) : CassandraTables Double :=
  { t with ordersByUser := .empty }

namespace CassandraClient

def insertOne (o : Order Double) : CassandraM Double Unit := do
  execute (·.insertById o) (lit "insert_one orders_by_id")
  execute (·.insertByUser o) (lit "insert_one orders_by_user")

def insertBatch (orders : List (Order Double)) : CassandraM Double Unit :=
  orders.forM insertOne

def deleteByPrimaryKey (orderId : CppString) : CassandraM Double Unit :=
  execute (·.deleteById orderId) (lit "delete_by_primary_key")

def clearTable : CassandraM Double Unit := do
  execute (·.truncateById) (lit "TRUNCATE benchmark.orders_by_id")
  execute (·.truncateByUser) (lit "TRUNCATE benchmark.orders_by_user")

end CassandraClient

/-- Null when the index is past the selected columns. -/
def cassRowGetColumn (row : CassRow Double) (col : Nat) : Option (Option (CassValue Double)) :=
  row[col]?

def cassValueGetString (value : Option (Option (CassValue Double))) : Except CassError CppString :=
  match value with
  | some (some (.string s)) => .ok s
  | some (some _) => .error .invalidValueType
  | _ => .error .nullValue

def cassValueGetDouble (value : Option (Option (CassValue Double))) : Except CassError Double :=
  match value with
  | some (some (.double d)) => .ok d
  | some (some _) => .error .invalidValueType
  | _ => .error .nullValue

def cassValueGetInt32 (value : Option (Option (CassValue Double))) : Except CassError Int32 :=
  match value with
  | some (some (.int32 i)) => .ok i
  | some (some _) => .error .invalidValueType
  | _ => .error .nullValue

def Cluster.failed (c : Cluster Double) (e : CassError) : Cluster Double :=
  { c with readErrors := c.readErrors ++ [e] }

/-- The output variable keeps its indeterminate value when the call fails; no one checks. -/
def outParam {α : Type} (result : Except CassError α) : CassandraM Double (Option α) := fun c =>
  match result with
  | .ok a => .ok (some a) c
  | .error e => .ok none (c.failed e)

/-- Where the call has left `val` and `len` unset, `std::string(val, len)` throws or takes whatever
they happen to hold. -/
def getStr (row : CassRow Double) (col : Nat) : CassandraM Double (Option CppString) := fun c =>
  match cassValueGetString (cassRowGetColumn row col) with
  | .ok s => .ok (some s) c
  | .error e =>
    match c.unset c.readErrors with
    | none => .ok none (c.failed e)
    | some msg => .error msg (c.failed e)

namespace CassandraClient

def rowToOrder (row : CassRow Double) : CassandraM Double (OrderObject Double) := do
  let orderId ← getStr row 0
  let userId ← getStr row 1
  let productId ← getStr row 2
  let status ← getStr row 3
  let amount ← outParam (cassValueGetDouble (cassRowGetColumn row 4))
  let qty ← outParam (cassValueGetInt32 (cassRowGetColumn row 5))
  let description ← getStr row 6
  let createdAt ← getStr row 7
  -- updated_at may not be present in the orders_by_user SELECT
  let updatedAt ← if (cassRowGetColumn row 8).isSome then getStr row 8 else pure (some [])
  return { orderId, userId, productId, status, amount, quantity := qty, description, createdAt,
           updatedAt }

def findByPrimaryKey (orderId : CppString) : CassandraM Double (OrderObject Double) := do
  execute id (lit "find_by_primary_key")
  let c ← get
  match c.tables.ordersById.find? (some (cStr orderId)) with
  | some row => rowToOrder (selectedRow selectByIdStmt row)
  | none => return .defaultInit

end CassandraClient

/-- CLUSTERING ORDER BY (created_at DESC) -/
def NewerFirst (a b : TableRow Double) : Prop :=
  (b.textAt .createdAt).getD [] ≤ (a.textAt .createdAt).getD []

instance : DecidableRel (@NewerFirst Double) := fun a b =>
  inferInstanceAs (Decidable ((b.textAt .createdAt).getD [] ≤ (a.textAt .createdAt).getD []))

def CassandraTables.partition (t : CassandraTables Double) (userId : CppString) :
    List (TableRow Double) :=
  (t.ordersByUser.rows.filter (fun row => row.textAt .userId = some userId)).insertionSort
    NewerFirst

namespace CassandraClient

def findBySecondaryKey (userId : CppString) : CassandraM Double (List (OrderObject Double)) := do
  execute id (lit "find_by_secondary_key")
  let c ← get
  (c.tables.partition (cStr userId)).mapM (fun row => rowToOrder (selectedRow selectByUserStmt row))

end CassandraClient

end DbBenchmark
