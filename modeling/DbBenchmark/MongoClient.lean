import DbBenchmark.KeyedTable
import DbBenchmark.Order
import DbBenchmark.Throwing
import Mathlib.Data.List.Sort

namespace DbBenchmark

open Keyed Throwing

inductive BsonValue (Double : Type)
  | string (s : CppString)
  | double (d : Double)
  | int32 (i : Int32)
deriving DecidableEq

abbrev Document (Double : Type) := List (String × BsonValue Double)

variable {Double : Type}

def Document.textAt (doc : Document Double) (field : String) : Option CppString :=
  match doc.lookup field with
  | some (.string s) => some s
  | _ => none

def documentId (doc : Document Double) : Option CppString := doc.textAt "_id"

/-- The `orders` collection; the server keeps `_id` unique. -/
abbrev Collection (Double : Type) := Table (@documentId Double)

abbrev MongoM (Double : Type) := EStateM CppString (Collection Double)

namespace MongoClient

def orderToBson (o : Order Double) : Document Double :=
  [("_id", .string o.orderId), ("user_id", .string o.userId), ("product_id", .string o.productId),
   ("status", .string o.status), ("amount", .double o.amount), ("quantity", .int32 o.quantity),
   ("description", .string o.description), ("created_at", .string o.createdAt),
   ("updated_at", .string o.updatedAt)]

/-- `get_string`, `get_double` and `get_int32` throw on a value of another type. -/
def typeMismatch {α : Type} : MongoM Double α :=
  throw (lit "expected element type")

def getStr (doc : Document Double) (key : String) : MongoM Double (Option CppString) :=
  match doc.lookup key with
  | none => pure (some [])
  | some (.string s) => pure (some s)
  | some _ => typeMismatch

def bsonToOrder (doc : Document Double) : MongoM Double (OrderObject Double) := do
  let orderId ← getStr doc "_id"
  let userId ← getStr doc "user_id"
  let productId ← getStr doc "product_id"
  let status ← getStr doc "status"
  let description ← getStr doc "description"
  let createdAt ← getStr doc "created_at"
  let updatedAt ← getStr doc "updated_at"
  let amount ← match doc.lookup "amount" with
    | none => pure none
    | some (.double d) => pure (some d)
    | some _ => typeMismatch
  let quantity ← match doc.lookup "quantity" with
    | none => pure none
    | some (.int32 i) => pure (some i)
    | some _ => typeMismatch
  return { orderId, userId, productId, status, amount, quantity, description, createdAt, updatedAt }

/-- The server rejects a second document with the same `_id`. -/
def insertOne (o : Order Double) : MongoM Double Unit := fun orders =>
  match orders.find? (documentId (orderToBson o)) with
  | none => .ok () (orders.upsert (orderToBson o))
  | some _ => .error (lit "E11000 duplicate key error") orders

def insertDocument (doc : Document Double) : MongoM Double Unit :=
  Table.insertNew (lit "E11000 duplicate key error") doc

/-- The documents are stored in order; an empty container is rejected. -/
def insertMany (docs : List (Document Double)) : MongoM Double Unit :=
  if docs = [] then throw (lit "cannot do a bulk write without documents")
  else docs.forM insertDocument

def insertBatch (orders : List (Order Double)) : MongoM Double Unit :=
  insertMany (orders.map orderToBson)

def deleteByPrimaryKey (orderId : CppString) : MongoM Double Unit :=
  modify (·.erase (some orderId))

def findByPrimaryKey [Zero Double] (orderId : CppString) : MongoM Double (OrderObject Double) := do
  let orders ← get
  match orders.find? (some orderId) with
  | none => return .valueInit
  | some doc => bsonToOrder doc

def findBySecondaryKey (userId : CppString) : MongoM Double (List (OrderObject Double)) := do
  let orders ← get
  (orders.rows.filter (fun doc => doc.textAt "user_id" = some userId)).mapM bsonToOrder

/-- `$gte` and `$lte` compare strings byte by byte and match no value of another type. -/
def createdWithin (startDate endDate : CppString) (doc : Document Double) : Bool :=
  match doc.textAt "created_at" with
  | some createdAt => startDate ≤ createdAt ∧ createdAt ≤ endDate
  | none => false

def OlderFirst (a b : Document Double) : Prop :=
  (a.textAt "created_at").getD [] ≤ (b.textAt "created_at").getD []

instance : DecidableRel (@OlderFirst Double) := fun a b =>
  inferInstanceAs (Decidable ((a.textAt "created_at").getD [] ≤ (b.textAt "created_at").getD []))

def findByRange (startDate endDate : CppString) : MongoM Double (List (OrderObject Double)) := do
  let orders ← get
  ((orders.rows.filter (createdWithin startDate endDate)).insertionSort OlderFirst).mapM bsonToOrder

def clearTable : MongoM Double Unit := set (Table.empty : Collection Double)

end MongoClient

@[simp] theorem documentId_orderToBson (o : Order Double) :
    documentId (MongoClient.orderToBson o) = some o.orderId := rfl

theorem bsonToOrder_orderToBson (o : Order Double) (orders : Collection Double) :
    MongoClient.bsonToOrder (MongoClient.orderToBson o) orders = .ok o.toObject orders := rfl

theorem insertOne_fresh (o : Order Double) (orders : Collection Double)
    (h : orders.find? (some o.orderId) = none) :
    MongoClient.insertOne o orders = .ok () (orders.upsert (MongoClient.orderToBson o)) := by
  simp only [MongoClient.insertOne, documentId_orderToBson, h]

theorem insertOne_eq (o : Order Double) :
    MongoClient.insertOne o = MongoClient.insertDocument (MongoClient.orderToBson o) := by
  funext orders
  simp only [MongoClient.insertOne, MongoClient.insertDocument, Table.insertNew]
  cases orders.find? (documentId (MongoClient.orderToBson o)) <;> rfl

theorem forM_insertOne_eq (orders : List (Order Double)) :
    orders.forM MongoClient.insertOne =
      (orders.map MongoClient.orderToBson).forM MongoClient.insertDocument := by
  induction orders with
  | nil => rfl
  | cons o orders ih =>
    change (MongoClient.insertOne o >>= fun _ => orders.forM MongoClient.insertOne) = _
    rw [ih, insertOne_eq]
    rfl

theorem mongo_forM_insertOne_returns (orders : List (Order Double)) (t : Collection Double)
    (hids : (orders.map Order.orderId).Nodup)
    (hfree : ∀ o ∈ orders, t.find? (some o.orderId) = none) :
    ∃ t', orders.forM MongoClient.insertOne t = .ok () t' := by
  simp only [forM_insertOne_eq]
  apply Table.forM_insertNew_returns_iff.2
  rw [List.map_map, List.forall_mem_map]
  refine ⟨?_, hfree⟩
  have hsome := hids.map (Option.some_injective CppString)
  rwa [List.map_map] at hsome

theorem mongo_findByPrimaryKey_stored [Zero Double] {orderId : CppString} {o : Order Double}
    {orders : Collection Double}
    (h : orders.find? (some orderId) = some (MongoClient.orderToBson o)) :
    MongoClient.findByPrimaryKey orderId orders = .ok o.toObject orders := by
  have hget : (get : MongoM Double _) orders = .ok orders orders := rfl
  rw [MongoClient.findByPrimaryKey, bind_ok hget]
  simp only [h]
  exact bsonToOrder_orderToBson o orders

theorem mongo_findByPrimaryKey_absent [Zero Double] {orderId : CppString}
    {orders : Collection Double} (h : orders.find? (some orderId) = none) :
    MongoClient.findByPrimaryKey orderId orders = .ok .valueInit orders := by
  have hget : (get : MongoM Double _) orders = .ok orders orders := rfl
  rw [MongoClient.findByPrimaryKey, bind_ok hget]
  simp only [h]
  rfl

theorem getStr_keeps {I : Collection Double → Prop} (doc : Document Double) (key : String) :
    Keeps I (MongoClient.getStr doc key) := by
  rw [MongoClient.getStr]
  split
  · exact Triple.skip
  · exact Triple.skip
  · exact fun _ hs => hs

theorem bsonToOrder_keeps {I : Collection Double → Prop} (doc : Document Double) :
    Keeps I (MongoClient.bsonToOrder doc) := by
  apply (getStr_keeps doc "_id").bind
  intro orderId
  apply (getStr_keeps doc "user_id").bind
  intro userId
  apply (getStr_keeps doc "product_id").bind
  intro productId
  apply (getStr_keeps doc "status").bind
  intro status
  apply (getStr_keeps doc "description").bind
  intro description
  apply (getStr_keeps doc "created_at").bind
  intro createdAt
  apply (getStr_keeps doc "updated_at").bind
  intro updatedAt
  cases doc.lookup "amount" with
  | none =>
    cases doc.lookup "quantity" with
    | none => exact Triple.skip
    | some quantity => cases quantity <;> exact fun _ hs => hs
  | some amount =>
    cases amount with
    | double amount =>
      cases doc.lookup "quantity" with
      | none => exact Triple.skip
      | some quantity => cases quantity <;> exact fun _ hs => hs
    | string s => exact fun _ hs => hs
    | int32 i => exact fun _ hs => hs

theorem mongo_findByPrimaryKey_keeps [Zero Double] {I : Collection Double → Prop}
    (orderId : CppString) : Keeps I (MongoClient.findByPrimaryKey orderId) := by
  intro orders hs
  cases hfind : orders.find? (some orderId) with
  | none =>
    rw [mongo_findByPrimaryKey_absent hfind]
    exact hs
  | some doc =>
    have hget : (get : MongoM Double _) orders = .ok orders orders := rfl
    rw [MongoClient.findByPrimaryKey, bind_ok hget]
    simp only [hfind]
    exact bsonToOrder_keeps doc orders hs

end DbBenchmark
