import DbBenchmark.CassandraReads
import DbBenchmark.MongoClient
import DbBenchmark.Simulation
import Mathlib.Algebra.Ring.Rat

namespace DbBenchmark

open Keyed Throwing
set_option autoImplicit true

variable {Double : Type}

/-- What both clients are for: the order last inserted under each id. -/
abbrev PrimaryKeyStore (Double : Type) := CppString → Option (Order Double)

inductive KeyOp (Double : Type)
  | insertOne (o : Order Double)
  | deleteByPrimaryKey (orderId : CppString)
  | clearTable
  | findByPrimaryKey (orderId : CppString)

namespace KeyOp

def step (store : PrimaryKeyStore Double) : KeyOp Double → PrimaryKeyStore Double
  | insertOne o => Function.update store o.orderId (some o)
  | deleteByPrimaryKey orderId => Function.update store orderId none
  | clearTable => fun _ => none
  | findByPrimaryKey _ => store

def answer (store : PrimaryKeyStore Double) : KeyOp Double → Option (Option (Order Double))
  | findByPrimaryKey orderId => some (store orderId)
  | _ => none

def allowed (store : PrimaryKeyStore Double) : KeyOp Double → Prop
  | insertOne o => o.NulFree ∧ store o.orderId = none
  | deleteByPrimaryKey orderId => NulFree orderId
  | clearTable => True
  | findByPrimaryKey orderId => NulFree orderId

def cassandra : KeyOp Double → CassandraM Double (Option (OrderObject Double))
  | insertOne o => do CassandraClient.insertOne o; return none
  | deleteByPrimaryKey orderId => do CassandraClient.deleteByPrimaryKey orderId; return none
  | clearTable => do CassandraClient.clearTable; return none
  | findByPrimaryKey orderId => do return some (← CassandraClient.findByPrimaryKey orderId)

def mongo [Zero Double] : KeyOp Double → MongoM Double (Option (OrderObject Double))
  | insertOne o => do MongoClient.insertOne o; return none
  | deleteByPrimaryKey orderId => do MongoClient.deleteByPrimaryKey orderId; return none
  | clearTable => do MongoClient.clearTable; return none
  | findByPrimaryKey orderId => do return some (← MongoClient.findByPrimaryKey orderId)

end KeyOp

def keyMachine : Machine (PrimaryKeyStore Double) (KeyOp Double) (Option (Option (Order Double))) where
  step := KeyOp.step
  answer := KeyOp.answer
  allowed := KeyOp.allowed

/-- A found order comes back with all nine fields; for an absent one only the empty id counts. -/
def Answers : Option (Option (Order Double)) → Option (OrderObject Double) → Prop
  | none, none => True
  | some (some o), some r => r = o.toObject
  | some none, some r => r.orderId = some []
  | _, _ => False

def WellFiled (store : PrimaryKeyStore Double) : Prop :=
  ∀ k o, store k = some o → o.NulFree ∧ o.orderId = k

theorem wellFiled_step {store : PrimaryKeyStore Double} (h : WellFiled store) {op : KeyOp Double}
    (hop : op.allowed store) : WellFiled (op.step store) := by
  intro k o hk
  cases op with
  | insertOne x =>
    by_cases he : k = x.orderId
    · rw [KeyOp.step, he, Function.update_self, Option.some.injEq] at hk
      rw [← hk]
      exact ⟨hop.1, he.symm⟩
    · rw [KeyOp.step, Function.update_of_ne he] at hk
      exact h k o hk
  | deleteByPrimaryKey orderId =>
    by_cases he : k = orderId
    · rw [KeyOp.step, he, Function.update_self] at hk
      cases hk
    · rw [KeyOp.step, Function.update_of_ne he] at hk
      exact h k o hk
  | clearTable => cases hk
  | findByPrimaryKey orderId => exact h k o hk

/-- A keyed table holds the image of every stored order, and nothing else under these keys. -/
def Represents {R : Type} {key : R → Option CppString} (encode : Order Double → R)
    (store : PrimaryKeyStore Double) (t : Table key) : Prop :=
  ∀ k, t.find? (some k) = (store k).map encode

section Represents

variable {R : Type} {key : R → Option CppString} {encode : Order Double → R}
  {store : PrimaryKeyStore Double} {t : Table key}

theorem represents_empty : Represents encode (fun _ => none) (.empty : Table key) :=
  fun _ => rfl

theorem Represents.upsert (h : Represents encode store t) {o : Order Double}
    (hk : key (encode o) = some o.orderId) :
    Represents encode (Function.update store o.orderId (some o)) (t.upsert (encode o)) := by
  intro k
  rw [Table.find?_upsert, hk]
  by_cases he : k = o.orderId
  · rw [he, Function.update_self, Function.update_self, Option.map_some]
  · rw [Function.update_of_ne (fun hs => he (Option.some.inj hs)), Function.update_of_ne he, h k]

theorem Represents.erase (h : Represents encode store t) (orderId : CppString) :
    Represents encode (Function.update store orderId none) (t.erase (some orderId)) := by
  intro k
  rw [Table.find?_erase]
  by_cases he : k = orderId
  · rw [he, Function.update_self, Function.update_self, Option.map_none]
  · rw [Function.update_of_ne (fun hs => he (Option.some.inj hs)), Function.update_of_ne he, h k]

end Represents

theorem cassandra_simulates :
    keyMachine.SimulatedBy
      (fun (store : PrimaryKeyStore Double) c => WellFiled store ∧ ∃ t, c = .healthy t ∧
        Represents rowById store t.ordersById)
      Answers KeyOp.cassandra := by
  rintro store c op ⟨hw, t, rfl, ht⟩ hop
  have hw' : WellFiled (op.step store) := wellFiled_step hw hop
  cases op with
  | insertOne o =>
    have hkey : ordersByIdKey (rowById o) = some o.orderId := by
      rw [ordersByIdKey_rowById, cStr_of_nulFree hop.1.orderId]
    exact ⟨none, .healthy (t.insert o), rfl, trivial, hw', _, rfl, ht.upsert hkey⟩
  | deleteByPrimaryKey orderId =>
    refine ⟨none, .healthy (t.deleteById orderId), rfl, trivial, hw', _, rfl, ?_⟩
    rw [ordersById_deleteById, cStr_of_nulFree hop]
    exact ht.erase orderId
  | clearTable => exact ⟨none, .healthy .empty, rfl, trivial, hw', _, rfl, represents_empty⟩
  | findByPrimaryKey orderId =>
    cases hs : store orderId with
    | none =>
      have hrow : t.ordersById.find? (some (cStr orderId)) = none := by
        rw [cStr_of_nulFree hop, ht, hs, Option.map_none]
      refine ⟨some .defaultInit, .healthy t, bind_ok (findByPrimaryKey_absent hrow), ?_, hw', t,
        rfl, ht⟩
      simp only [keyMachine, KeyOp.answer, hs, Answers, OrderObject.defaultInit]
    | some o =>
      have hrow : t.ordersById.find? (some (cStr orderId)) = some (rowById o) := by
        rw [cStr_of_nulFree hop, ht, hs, Option.map_some]
      refine ⟨some o.bound.toObject, .healthy t, bind_ok (findByPrimaryKey_stored hrow), ?_, hw',
        t, rfl, ht⟩
      simp only [keyMachine, KeyOp.answer, hs, Answers, (hw orderId o hs).1.bound_eq]

theorem mongo_simulates [Zero Double] :
    keyMachine.SimulatedBy
      (fun (store : PrimaryKeyStore Double) orders =>
        Represents MongoClient.orderToBson store orders)
      Answers KeyOp.mongo := by
  intro store orders op ht hop
  cases op with
  | insertOne o =>
    have hfree : orders.find? (some o.orderId) = none := by
      rw [ht, hop.2, Option.map_none]
    exact ⟨none, _, bind_ok (insertOne_fresh o orders hfree), trivial,
      ht.upsert (documentId_orderToBson o)⟩
  | deleteByPrimaryKey orderId => exact ⟨none, _, rfl, trivial, ht.erase orderId⟩
  | clearTable => exact ⟨none, _, rfl, trivial, represents_empty⟩
  | findByPrimaryKey orderId =>
    cases hs : store orderId with
    | none =>
      have hdoc : orders.find? (some orderId) = none := by rw [ht, hs, Option.map_none]
      refine ⟨some .valueInit, orders, bind_ok (mongo_findByPrimaryKey_absent hdoc), ?_, ht⟩
      simp only [keyMachine, KeyOp.answer, hs, Answers, OrderObject.valueInit,
        OrderObject.defaultInit]
    | some o =>
      have hdoc : orders.find? (some orderId) = some (MongoClient.orderToBson o) := by
        rw [ht, hs, Option.map_some]
      refine ⟨some o.toObject, orders, bind_ok (mongo_findByPrimaryKey_stored hdoc), ?_, ht⟩
      simp only [keyMachine, KeyOp.answer, hs, Answers]

/-- Both clients answer every read by id as one abstract store does. -/
theorem clients_answer_alike [Zero Double] (ops : List (KeyOp Double))
    (h : keyMachine.Allowed (fun _ => none) ops) :
    ∃ as c bs orders, ops.mapM KeyOp.cassandra (.healthy .empty) = .ok as c ∧
      ops.mapM KeyOp.mongo .empty = .ok bs orders ∧
      List.Forall₂ Answers (keyMachine.answers (fun _ => none) ops) as ∧
      List.Forall₂ Answers (keyMachine.answers (fun _ => none) ops) bs := by
  have hw : WellFiled (fun _ => none : PrimaryKeyStore Double) := by
    intro k o hk
    cases hk
  obtain ⟨as, c, hc, has⟩ := cassandra_simulates.run ops
    ⟨hw, .empty, rfl, represents_empty⟩ h
  obtain ⟨bs, orders, hm, hbs⟩ := mongo_simulates.run ops represents_empty h
  exact ⟨as, c, bs, orders, hc, hm, has, hbs⟩

def insertThenRead : List (KeyOp Rat) :=
  [.insertOne (stampedOrder "a" "u" "2026-03-15T10:30:00Z"), .findByPrimaryKey (lit "a"),
   .deleteByPrimaryKey (lit "a"), .findByPrimaryKey (lit "a")]

theorem clients_answer_alike_insertThenRead :
    ∃ as c bs orders, insertThenRead.mapM KeyOp.cassandra (.healthy .empty) = .ok as c ∧
      insertThenRead.mapM KeyOp.mongo .empty = .ok bs orders ∧
      List.Forall₂ Answers (keyMachine.answers (fun _ => none) insertThenRead) as ∧
      List.Forall₂ Answers (keyMachine.answers (fun _ => none) insertThenRead) bs := by
  have hk : NulFree (lit "a") := by decide
  exact clients_answer_alike insertThenRead ⟨⟨by decide, rfl⟩, hk, hk, hk, trivial⟩

def readPastNul : List (KeyOp Rat) :=
  [.insertOne (stampedOrder "a" "u" "2026-03-15T10:30:00Z"), .findByPrimaryKey (lit "a\x00b")]

/-- Cassandra looks up what stands before the NUL byte, Mongo the whole key. -/
theorem readPastNul_differs :
    (stampedOrder "a" "u" "2026-03-15T10:30:00Z").NulFree ∧
      value? (readPastNul.mapM KeyOp.cassandra) (.healthy .empty) =
        some [none, some (stampedOrder "a" "u" "2026-03-15T10:30:00Z").toObject] ∧
      value? (readPastNul.mapM KeyOp.mongo) .empty = some [none, some .valueInit] ∧
      keyMachine.answers (fun _ => none) readPastNul = [none, some none] ∧
      ¬ Answers (some none) (some (stampedOrder "a" "u" "2026-03-15T10:30:00Z").toObject) := by
  refine ⟨by decide, rfl, rfl, rfl, fun h => ?_⟩
  cases h

end DbBenchmark
