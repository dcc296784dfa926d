import DbBenchmark.CassandraReads
import DbBenchmark.MongoClient
import Mathlib.Algebra.Ring.Rat

namespace DbBenchmark
open Keyed Throwing
set_option autoImplicit true

variable {Double : Type}

/-- The field has a value: the stored one, or the one that value initialisation gives. -/
def Determined (initial : α) (stored field : Option α) : Prop :=
  ∃ v, field = some v ∧ (stored = some v ∨ v = initial)

theorem not_determined_none {initial : α} {stored : Option α} :
    ¬ Determined initial stored none := by
  rintro ⟨v, hv, _⟩
  cases hv

theorem determined_getD (initial : α) (stored : Option α) :
    Determined initial stored (some (stored.getD initial)) := by
  cases stored with
  | none => exact ⟨initial, rfl, .inr rfl⟩
  | some v => exact ⟨v, rfl, .inl rfl⟩

theorem determined_self_iff {initial : α} {stored : Option α} :
    Determined initial stored stored ↔ stored ≠ none := by
  cases stored with
  | none => simp [not_determined_none]
  | some v => exact ⟨fun _ => Option.some_ne_none v, fun _ => ⟨v, rfl, .inl rfl⟩⟩

/-- Every field of an order has a value; `stored` holds the fields as they are stored. -/
structure FieldsDetermined [Zero Double] (stored o : OrderObject Double) : Prop where
  orderId : Determined [] stored.orderId o.orderId
  userId : Determined [] stored.userId o.userId
  productId : Determined [] stored.productId o.productId
  status : Determined [] stored.status o.status
  amount : Determined 0 stored.amount o.amount
  quantity : Determined 0 stored.quantity o.quantity
  description : Determined [] stored.description o.description
  createdAt : Determined [] stored.createdAt o.createdAt
  updatedAt : Determined [] stored.updatedAt o.updatedAt

/-- A lookup throws, or returns an order with all its fields: those of the stored record, or those
of `Order{}` where no record is stored. -/
def FindSound [Zero Double] (result : EStateM.Result CppString σ (OrderObject Double))
    (stored : Option (OrderObject Double)) : Prop :=
  match result, stored with
  | .error _ _, _ => True
  | .ok o _, some fields => FieldsDetermined fields o
  | .ok o _, none => o = .valueInit

def FindAllSound [Zero Double] (result : EStateM.Result CppString σ (List (OrderObject Double)))
    (stored : List (OrderObject Double)) : Prop :=
  match result with
  | .error _ _ => True
  | .ok found _ => List.Forall₂ FieldsDetermined stored found

namespace Document

def doubleAt (doc : Document Double) (field : String) : Option Double :=
  match doc.lookup field with
  | some (.double d) => some d
  | _ => none

def int32At (doc : Document Double) (field : String) : Option Int32 :=
  match doc.lookup field with
  | some (.int32 i) => some i
  | _ => none

def fields (doc : Document Double) : OrderObject Double where
  orderId := doc.textAt "_id"
  userId := doc.textAt "user_id"
  productId := doc.textAt "product_id"
  status := doc.textAt "status"
  amount := doc.doubleAt "amount"
  quantity := doc.int32At "quantity"
  description := doc.textAt "description"
  createdAt := doc.textAt "created_at"
  updatedAt := doc.textAt "updated_at"

def textFields : List String :=
  ["_id", "user_id", "product_id", "status", "description", "created_at", "updated_at"]

structure Typed (doc : Document Double) : Prop where
  texts : ∀ field ∈ textFields, doc.lookup field ≠ none → doc.textAt field ≠ none
  amount : doc.lookup "amount" ≠ none → doc.doubleAt "amount" ≠ none
  quantity : doc.lookup "quantity" ≠ none → doc.int32At "quantity" ≠ none

/-- Absent texts are empty; an absent amount or quantity is left as it was constructed. -/
def decoded (doc : Document Double) : OrderObject Double where
  orderId := some ((doc.textAt "_id").getD [])
  userId := some ((doc.textAt "user_id").getD [])
  productId := some ((doc.textAt "product_id").getD [])
  status := some ((doc.textAt "status").getD [])
  amount := doc.doubleAt "amount"
  quantity := doc.int32At "quantity"
  description := some ((doc.textAt "description").getD [])
  createdAt := some ((doc.textAt "created_at").getD [])
  updatedAt := some ((doc.textAt "updated_at").getD [])

end Document

theorem getStr_eq_ok_iff {doc : Document Double} {key : String} {s s' : Collection Double} :
    MongoClient.getStr doc key s = .ok r s' ↔
      (doc.lookup key ≠ none → doc.textAt key ≠ none) ∧ r = some ((doc.textAt key).getD []) ∧
        s' = s := by
  rw [MongoClient.getStr, Document.textAt]
  cases doc.lookup key with
  | none =>
    change EStateM.Result.ok (some []) s = .ok r s' ↔ _
    simp [eq_comm]
  | some value =>
    cases value with
    | string text =>
      change EStateM.Result.ok (some text) s = .ok r s' ↔ _
      simp [eq_comm]
    | double d =>
      change EStateM.Result.error _ s = .ok r s' ↔ _
      simp
    | int32 i =>
      change EStateM.Result.error _ s = .ok r s' ↔ _
      simp

theorem scalars_eq_ok_iff {doc : Document Double} {s s' : Collection Double}
    {f : Option Double → Option Int32 → α} :
    (do
      let amount ← match doc.lookup "amount" with
        | none => pure none
        | some (.double d) => pure (some d)
        | some _ => MongoClient.typeMismatch
      let quantity ← match doc.lookup "quantity" with
        | none => pure none
        | some (.int32 i) => pure (some i)
        | some _ => MongoClient.typeMismatch
      return f amount quantity : MongoM Double α) s = .ok o s' ↔
      (doc.lookup "amount" ≠ none → doc.doubleAt "amount" ≠ none) ∧
        (doc.lookup "quantity" ≠ none → doc.int32At "quantity" ≠ none) ∧
        o = f (doc.doubleAt "amount") (doc.int32At "quantity") ∧ s' = s := by
  have hthrow {β : Type} {g : β → MongoM Double α} :
      (MongoClient.typeMismatch >>= g) s = .ok o s' ↔ False := by
    change EStateM.Result.error _ s = .ok o s' ↔ False
    simp
  simp only [Document.doubleAt, Document.int32At]
  rcases doc.lookup "amount" with _ | _ | _ | _ <;> rcases doc.lookup "quantity" with _ | _ | _ | _ <;>
    simp [hthrow, pure_eq_ok_iff, eq_comm, -bind_pure_comp]

theorem bsonToOrder_eq_ok_iff {doc : Document Double} {s s' : Collection Double} :
    MongoClient.bsonToOrder doc s = .ok o s' ↔ doc.Typed ∧ o = doc.decoded ∧ s' = s := by
  simp only [MongoClient.bsonToOrder, bind_eq_ok_iff, getStr_eq_ok_iff, and_assoc, exists_and_left,
    exists_eq_left]
  constructor
  · rintro ⟨h₁, h₂, h₃, h₄, h₅, h₆, h₇, hscalars⟩
    obtain ⟨hamount, hquantity, ho, hs⟩ := scalars_eq_ok_iff.1 hscalars
    refine ⟨⟨?_, hamount, hquantity⟩, ho, hs⟩
    simp only [Document.textFields, List.forall_mem_cons]
    exact ⟨h₁, h₂, h₃, h₄, h₅, h₆, h₇, List.forall_mem_nil _⟩
  · rintro ⟨⟨htexts, hamount, hquantity⟩, rfl, rfl⟩
    simp only [Document.textFields, List.forall_mem_cons] at htexts
    obtain ⟨h₁, h₂, h₃, h₄, h₅, h₆, h₇, _⟩ := htexts
    exact ⟨h₁, h₂, h₃, h₄, h₅, h₆, h₇, scalars_eq_ok_iff.2 ⟨hamount, hquantity, rfl, rfl⟩⟩

/-- Neither of the two scalars is absent. -/
def Document.HasScalars (doc : Document Double) : Prop :=
  doc.lookup "amount" ≠ none ∧ doc.lookup "quantity" ≠ none

theorem Document.Typed.fieldsDetermined_iff [Zero Double] {doc : Document Double} (h : doc.Typed) :
    FieldsDetermined doc.fields doc.decoded ↔ doc.HasScalars := by
  constructor
  · intro hfields
    have hamount := determined_self_iff.1 hfields.amount
    have hquantity := determined_self_iff.1 hfields.quantity
    refine ⟨fun hnone => hamount ?_, fun hnone => hquantity ?_⟩
    · simp only [fields, doubleAt, hnone]
    · simp only [fields, int32At, hnone]
  · rintro ⟨hamount, hquantity⟩
    exact {
      orderId := determined_getD _ _
      userId := determined_getD _ _
      productId := determined_getD _ _
      status := determined_getD _ _
      amount := determined_self_iff.2 (h.amount hamount)
      quantity := determined_self_iff.2 (h.quantity hquantity)
      description := determined_getD _ _
      createdAt := determined_getD _ _
      updatedAt := determined_getD _ _ }

theorem bsonToOrder_throws {doc : Document Double} (h : ¬ doc.Typed) (s : Collection Double) :
    ∃ e s', MongoClient.bsonToOrder doc s = .error e s' := by
  cases hr : MongoClient.bsonToOrder doc s with
  | ok o s' => exact absurd (bsonToOrder_eq_ok_iff.1 hr).1 h
  | error e s' => exact ⟨e, s', rfl⟩

theorem mongo_findSound_iff [Zero Double] (orders : Collection Double) (orderId : CppString) :
    FindSound (MongoClient.findByPrimaryKey orderId orders)
        ((orders.find? (some orderId)).map Document.fields) ↔
      ∀ doc, orders.find? (some orderId) = some doc → doc.Typed → doc.HasScalars := by
  cases hfind : orders.find? (some orderId) with
  | none =>
    rw [mongo_findByPrimaryKey_absent hfind]
    simp [FindSound]
  | some doc =>
    have hread : MongoClient.findByPrimaryKey orderId orders =
        MongoClient.bsonToOrder doc orders := by
      have hget : (get : MongoM Double _) orders = .ok orders orders := rfl
      rw [MongoClient.findByPrimaryKey, bind_ok hget]
      simp only [hfind]
    rw [hread]
    by_cases htyped : doc.Typed
    · rw [bsonToOrder_eq_ok_iff.2 ⟨htyped, rfl, rfl⟩]
      simp [FindSound, htyped, htyped.fieldsDetermined_iff]
    · obtain ⟨e, s', hthrow⟩ := bsonToOrder_throws htyped orders
      rw [hthrow]
      simp [FindSound, htyped]

def documentsOf (userId : CppString) (orders : Collection Double) : List (Document Double) :=
  orders.rows.filter fun doc => doc.textAt "user_id" = some userId

theorem mongo_findAllSound_iff [Zero Double] (orders : Collection Double) (userId : CppString) :
    FindAllSound (MongoClient.findBySecondaryKey userId orders)
        ((documentsOf userId orders).map Document.fields) ↔
      ((∀ doc ∈ documentsOf userId orders, doc.Typed) →
        ∀ doc ∈ documentsOf userId orders, doc.HasScalars) := by
  have hread : MongoClient.findBySecondaryKey userId orders =
      (documentsOf userId orders).mapM MongoClient.bsonToOrder orders := rfl
  have hok {found : List (OrderObject Double)} {s' : Collection Double} :
      (documentsOf userId orders).mapM MongoClient.bsonToOrder orders = .ok found s' ↔
        (∀ doc ∈ documentsOf userId orders, doc.Typed) ∧
          found = (documentsOf userId orders).map Document.decoded ∧ s' = orders :=
    mapM_eq_ok_iff fun _ _ _ _ => bsonToOrder_eq_ok_iff
  rw [hread]
  by_cases htyped : ∀ doc ∈ documentsOf userId orders, doc.Typed
  · rw [hok.2 ⟨htyped, rfl, rfl⟩]
    simp only [FindAllSound, List.forall₂_map_left_iff, List.forall₂_map_right_iff,
      List.forall₂_same]
    exact ⟨fun h _ doc hdoc => (htyped doc hdoc).fieldsDetermined_iff.1 (h doc hdoc),
      fun h doc hdoc => (htyped doc hdoc).fieldsDetermined_iff.2 (h htyped doc hdoc)⟩
  · cases hr : (documentsOf userId orders).mapM MongoClient.bsonToOrder orders with
    | ok found s' => exact absurd (hok.1 hr).1 htyped
    | error e s' => simp [FindAllSound, htyped]

namespace TableRow

def doubleAt (row : TableRow Double) (c : Column) : Option Double :=
  match row c with
  | some (.double d) => some d
  | _ => none

def int32At (row : TableRow Double) (c : Column) : Option Int32 :=
  match row c with
  | some (.int32 i) => some i
  | _ => none

def fields (row : TableRow Double) : OrderObject Double where
  orderId := row.textAt .orderId
  userId := row.textAt .userId
  productId := row.textAt .productId
  status := row.textAt .status
  amount := row.doubleAt .amount
  quantity := row.int32At .quantity
  description := row.textAt .description
  createdAt := row.textAt .createdAt
  updatedAt := row.textAt .updatedAt

/-- As the server keeps it: a cell that is not null has the type of its column. -/
structure Typed (row : TableRow Double) : Prop where
  texts : ∀ c ≠ .amount, c ≠ .quantity → row c ≠ none → row.textAt c ≠ none
  amount : row .amount ≠ none → row.doubleAt .amount ≠ none
  quantity : row .quantity ≠ none → row.int32At .quantity ≠ none

end TableRow

theorem toOption_cassValueGetString (row : TableRow Double) (c : Column) :
    (cassValueGetString (some (row c))).toOption = row.textAt c := by
  unfold cassValueGetString TableRow.textAt
  rcases row c with _ | _ | _ | _ <;> rfl

theorem toOption_cassValueGetDouble (row : TableRow Double) (c : Column) :
    (cassValueGetDouble (some (row c))).toOption = row.doubleAt c := by
  unfold cassValueGetDouble TableRow.doubleAt
  rcases row c with _ | _ | _ | _ <;> rfl

theorem toOption_cassValueGetInt32 (row : TableRow Double) (c : Column) :
    (cassValueGetInt32 (some (row c))).toOption = row.int32At c := by
  unfold cassValueGetInt32 TableRow.int32At
  rcases row c with _ | _ | _ | _ <;> rfl

def decodedRow (row : CassRow Double) : OrderObject Double where
  orderId := (cassValueGetString (cassRowGetColumn row 0)).toOption
  userId := (cassValueGetString (cassRowGetColumn row 1)).toOption
  productId := (cassValueGetString (cassRowGetColumn row 2)).toOption
  status := (cassValueGetString (cassRowGetColumn row 3)).toOption
  amount := (cassValueGetDouble (cassRowGetColumn row 4)).toOption
  quantity := (cassValueGetInt32 (cassRowGetColumn row 5)).toOption
  description := (cassValueGetString (cassRowGetColumn row 6)).toOption
  createdAt := (cassValueGetString (cassRowGetColumn row 7)).toOption
  updatedAt := if (cassRowGetColumn row 8).isSome then
    (cassValueGetString (cassRowGetColumn row 8)).toOption else some []

section Reads

variable {u : List CassError → Option CppString}

theorem outParam_triple (result : Except CassError α) :
    Triple (fun c : Cluster Double => c.unset = u) (outParam result)
      (fun a c => c.unset = u ∧ a = result.toOption) (fun _ _ => False) := by
  cases result with
  | ok a => exact fun _ hc => ⟨hc, rfl⟩
  | error e => exact fun _ hc => ⟨hc, rfl⟩

/-- A string is read that is there, or one that is not does not throw. -/
def ReadsString (u : List CassError → Option CppString) (row : CassRow Double) (col : Nat) : Prop :=
  (∀ errors, u errors = none) ∨ (cassValueGetString (cassRowGetColumn row col)).toOption ≠ none

theorem getStr_triple {row : CassRow Double} (h : ReadsString u row col) :
    Triple (fun c => c.unset = u) (getStr row col)
      (fun s c => c.unset = u ∧ s = (cassValueGetString (cassRowGetColumn row col)).toOption)
      (fun _ _ => False) := by
  intro c hc
  cases hvalue : cassValueGetString (cassRowGetColumn row col) with
  | ok s =>
    rw [getStr_stored col hvalue]
    exact ⟨hc, rfl⟩
  | error e =>
    have hnone : ∀ errors, u errors = none := h.resolve_right fun hread => hread (by rw [hvalue]; rfl)
    rw [getStr_unset hvalue (by rw [hc, hnone])]
    exact ⟨hc, rfl⟩

theorem rowToOrder_triple {row : CassRow Double}
    (h : ∀ col ∈ [0, 1, 2, 3, 6, 7], ReadsString u row col)
    (hupdated : (cassRowGetColumn row 8).isSome → ReadsString u row 8) :
    Triple (fun c => c.unset = u) (CassandraClient.rowToOrder row)
      (fun o c => c.unset = u ∧ o = decodedRow row) (fun _ _ => False) := by
  simp only [List.forall_mem_cons] at h
  obtain ⟨h₀, h₁, h₂, h₃, h₆, h₇, -⟩ := h
  apply (getStr_triple h₀).bind
  intro orderId
  apply Triple.assuming
  intro horderId
  apply (getStr_triple h₁).bind
  intro userId
  apply Triple.assuming
  intro huserId
  apply (getStr_triple h₂).bind
  intro productId
  apply Triple.assuming
  intro hproductId
  apply (getStr_triple h₃).bind
  intro status
  apply Triple.assuming
  intro hstatus
  apply (outParam_triple _).bind
  intro amount
  apply Triple.assuming
  intro hamount
  apply (outParam_triple _).bind
  intro qty
  apply Triple.assuming
  intro hqty
  apply (getStr_triple h₆).bind
  intro description
  apply Triple.assuming
  intro hdescription
  apply (getStr_triple h₇).bind
  intro createdAt
  apply Triple.assuming
  intro hcreatedAt
  subst horderId huserId hproductId hstatus hamount hqty hdescription hcreatedAt
  dsimp only
  split
  case isTrue hsome =>
    apply (getStr_triple (hupdated hsome)).bind
    intro updatedAt
    apply Triple.assuming
    intro hupdatedAt c hc
    refine ⟨hc, ?_⟩
    rw [hupdatedAt, decodedRow, if_pos hsome]
  case isFalse hnone =>
    intro c hc
    refine ⟨hc, ?_⟩
    rw [decodedRow, if_neg hnone]

theorem rowToOrder_returns (row : CassRow Double) :
    Triple (fun c => c.unset = fun _ => none) (CassandraClient.rowToOrder row)
      (fun o c => (c.unset = fun _ => none) ∧ o = decodedRow row) (fun _ _ => False) :=
  rowToOrder_triple (fun _ _ => .inl fun _ => rfl) fun _ => .inl fun _ => rfl

end Reads

theorem decodedRow_selectById (row : TableRow Double) :
    decodedRow (selectedRow selectByIdStmt row) = row.fields := by
  have htext := toOption_cassValueGetString row
  have hdouble := toOption_cassValueGetDouble row
  have hint := toOption_cassValueGetInt32 row
  simp [decodedRow, selectedRow, selectByIdStmt, cassRowGetColumn, TableRow.fields, htext, hdouble,
    hint]

/-- The other SELECT has the status at the place of the amount, and a status is no `double`. -/
theorem amount_decodedRow_selectByUser {row : TableRow Double} (h : row.Typed) :
    (decodedRow (selectedRow selectByUserStmt row)).amount = none := by
  change (cassValueGetDouble (some (row .status))).toOption = none
  rw [toOption_cassValueGetDouble]
  have htext := h.texts .status (by decide) (by decide)
  cases hs : row .status with
  | none => simp [TableRow.doubleAt, hs]
  | some value =>
    cases value with
    | string text => simp [TableRow.doubleAt, hs]
    | double d => simp [TableRow.textAt, hs] at htext
    | int32 i => simp [TableRow.doubleAt, hs]

def TableRow.Complete (row : TableRow Double) : Prop := ∀ c, row c ≠ none

theorem TableRow.ne_none_of_textAt {row : TableRow Double} {c : Column} (h : row.textAt c ≠ none) :
    row c ≠ none := by
  intro hnone
  simp [textAt, hnone] at h

theorem TableRow.Typed.fieldsDetermined_iff [Zero Double] {row : TableRow Double} (h : row.Typed) :
    FieldsDetermined row.fields row.fields ↔ row.Complete := by
  constructor
  · intro hfields c
    cases c with
    | orderId => exact ne_none_of_textAt (determined_self_iff.1 hfields.orderId)
    | userId => exact ne_none_of_textAt (determined_self_iff.1 hfields.userId)
    | productId => exact ne_none_of_textAt (determined_self_iff.1 hfields.productId)
    | status => exact ne_none_of_textAt (determined_self_iff.1 hfields.status)
    | amount =>
      have hamount := determined_self_iff.1 hfields.amount
      intro hnone
      simp [fields, doubleAt, hnone] at hamount
    | quantity =>
      have hquantity := determined_self_iff.1 hfields.quantity
      intro hnone
      simp [fields, int32At, hnone] at hquantity
    | description => exact ne_none_of_textAt (determined_self_iff.1 hfields.description)
    | createdAt => exact ne_none_of_textAt (determined_self_iff.1 hfields.createdAt)
    | updatedAt => exact ne_none_of_textAt (determined_self_iff.1 hfields.updatedAt)
  · intro hcomplete
    have htext (c : Column) (hc : c ≠ .amount) (hc' : c ≠ .quantity) : row.textAt c ≠ none :=
      h.texts c hc hc' (hcomplete c)
    exact {
      orderId := determined_self_iff.2 (htext .orderId (by decide) (by decide))
      userId := determined_self_iff.2 (htext .userId (by decide) (by decide))
      productId := determined_self_iff.2 (htext .productId (by decide) (by decide))
      status := determined_self_iff.2 (htext .status (by decide) (by decide))
      amount := determined_self_iff.2 (h.amount (hcomplete .amount))
      quantity := determined_self_iff.2 (h.quantity (hcomplete .quantity))
      description := determined_self_iff.2 (htext .description (by decide) (by decide))
      createdAt := determined_self_iff.2 (htext .createdAt (by decide) (by decide))
      updatedAt := determined_self_iff.2 (htext .updatedAt (by decide) (by decide)) }

structure CassandraTables.Typed (t : CassandraTables Double) : Prop where
  ordersById : ∀ row ∈ t.ordersById.rows, row.Typed
  ordersByUser : ∀ row ∈ t.ordersByUser.rows, row.Typed

theorem typed_rowById (o : Order Double) : (rowById o).Typed where
  texts := by
    intro c hamount hquantity _
    cases c with
    | amount => exact absurd rfl hamount
    | quantity => exact absurd rfl hquantity
    | _ => exact Option.some_ne_none _
  amount _ := Option.some_ne_none _
  quantity _ := Option.some_ne_none _

theorem typed_rowByUser (o : Order Double) : (rowByUser o).Typed where
  texts := by
    intro c hamount hquantity hnull
    cases c with
    | amount => exact absurd rfl hamount
    | quantity => exact absurd rfl hquantity
    | updatedAt => exact absurd rfl hnull
    | _ => exact Option.some_ne_none _
  amount _ := Option.some_ne_none _
  quantity _ := Option.some_ne_none _

theorem complete_rowById (o : Order Double) : (rowById o).Complete := by
  intro c
  cases c <;> exact Option.some_ne_none _

theorem CassandraTables.Typed.insert {t : CassandraTables Double} (h : t.Typed) (o : Order Double) :
    (t.insert o).Typed where
  ordersById := by
    intro row hrow
    rcases Table.mem_upsert.1 hrow with rfl | ⟨hrow, _⟩
    · exact typed_rowById o
    · exact h.ordersById row hrow
  ordersByUser := by
    intro row hrow
    rcases Table.mem_upsert.1 hrow with rfl | ⟨hrow, _⟩
    · exact typed_rowByUser o
    · exact h.ordersByUser row hrow

theorem CassandraTables.Typed.apply {t : CassandraTables Double} (h : t.Typed)
    (op : CassandraOp Double) : (op.apply t).Typed := by
  cases op with
  | insertOne o => exact h.insert o
  | insertBatch orders =>
    induction orders generalizing t with
    | nil => exact h
    | cons o orders ih => exact ih (h.insert o)
  | deleteByPrimaryKey orderId =>
    exact ⟨fun row hrow => h.ordersById row (Table.mem_erase.1 hrow).1, h.ordersByUser⟩
  | clearTable => exact ⟨List.forall_mem_nil _, List.forall_mem_nil _⟩

/-- Whatever the client has written, the cells have the types of their columns. -/
theorem typed_tablesAfter (ops : List (CassandraOp Double)) : (tablesAfter ops).Typed := by
  induction ops using List.reverseRecOn with
  | nil => exact ⟨List.forall_mem_nil _, List.forall_mem_nil _⟩
  | append_singleton ops op ih =>
    rw [tablesAfter_concat]
    exact ih.apply op

def Cluster.NextFails (c : Cluster Double) : Prop := ∃ msg, c.outcomes.head? = some (some msg)

theorem execute_id_cases (context : CppString) (c : Cluster Double) :
    (c.NextFails ∧ ∃ e c', execute id context c = .error e c') ∨
      ¬ c.NextFails ∧ ∃ c', execute id context c = .ok () c' ∧ c'.tables = c.tables ∧
        c'.unset = c.unset := by
  obtain ⟨tables, outcomes, readErrors, unset⟩ := c
  rcases outcomes with _ | ⟨_ | msg, rest⟩
  · exact .inr ⟨by simp [Cluster.NextFails], _, rfl, rfl, rfl⟩
  · exact .inr ⟨by simp [Cluster.NextFails], _, rfl, rfl, rfl⟩
  · exact .inl ⟨⟨msg, rfl⟩, _, _, rfl⟩

theorem not_fieldsDetermined_of_amount [Zero Double] {stored o : OrderObject Double}
    (h : o.amount = none) : ¬ FieldsDetermined stored o := by
  intro hfields
  have hamount := hfields.amount
  rw [h] at hamount
  exact not_determined_none hamount

theorem rowToOrder_complete {row : TableRow Double} (h : row.Typed) (hcomplete : row.Complete)
    (c : Cluster Double) : ∃ c',
      CassandraClient.rowToOrder (selectedRow selectByIdStmt row) c = .ok row.fields c' := by
  have htext (col : Column) (hcol : col ≠ .amount) (hcol' : col ≠ .quantity) :
      (cassValueGetString (some (row col))).toOption ≠ none := by
    rw [toOption_cassValueGetString]
    exact h.texts col hcol hcol' (hcomplete col)
  have hread : Triple (fun c' : Cluster Double => c'.unset = c.unset)
      (CassandraClient.rowToOrder (selectedRow selectByIdStmt row))
      (fun o c' => c'.unset = c.unset ∧ o = row.fields) (fun _ _ => False) := by
    rw [← decodedRow_selectById]
    apply rowToOrder_triple
    · simp only [List.forall_mem_cons]
      exact ⟨.inr (htext .orderId (by decide) (by decide)),
        .inr (htext .userId (by decide) (by decide)),
        .inr (htext .productId (by decide) (by decide)),
        .inr (htext .status (by decide) (by decide)),
        .inr (htext .description (by decide) (by decide)),
        .inr (htext .createdAt (by decide) (by decide)), List.forall_mem_nil _⟩
    · exact fun _ => .inr (htext .updatedAt (by decide) (by decide))
  obtain ⟨o, c', hr, -, ho⟩ := hread.returns (s := c) rfl
  exact ⟨c', ho ▸ hr⟩

/-- A lookup that is sound whatever becomes of the strings made from unset locals. -/
theorem cassandra_findSound_iff [Zero Double] {c : Cluster Double} (htyped : c.tables.Typed)
    (orderId : CppString) :
    (∀ unset, FindSound (CassandraClient.findByPrimaryKey orderId { c with unset })
        ((c.tables.ordersById.find? (some (cStr orderId))).map TableRow.fields)) ↔
      c.NextFails ∨ ∃ row, c.tables.ordersById.find? (some (cStr orderId)) = some row ∧
        row.Complete := by
  have hcases (unset : List CassError → Option CppString) :=
    execute_id_cases (lit "find_by_primary_key") { c with unset }
  constructor
  · intro h
    rcases hcases fun _ => none with ⟨hfails, -⟩ | ⟨-, c', hexec, htables, hunset⟩
    · exact .inl hfails
    have hsound := h fun _ => none
    have hget : (get : CassandraM Double _) c' = .ok c' c' := rfl
    rw [CassandraClient.findByPrimaryKey, bind_ok hexec, bind_ok hget, htables] at hsound
    cases hfind : c.tables.ordersById.find? (some (cStr orderId)) with
    | none =>
      simp only [hfind] at hsound
      have hamount := congrArg OrderObject.amount hsound
      simp [OrderObject.defaultInit, OrderObject.valueInit] at hamount
    | some row =>
      obtain ⟨o, c'', hread, -, ho⟩ :=
        (rowToOrder_returns (selectedRow selectByIdStmt row)).returns hunset
      have hrow : row.Typed := htyped.ordersById row (Table.find?_eq_some.1 hfind).1
      simp only [hfind, hread, ho, decodedRow_selectById] at hsound
      exact .inr ⟨row, rfl, hrow.fieldsDetermined_iff.1 hsound⟩
  · intro h unset
    rw [CassandraClient.findByPrimaryKey]
    rcases hcases unset with ⟨-, e, c', hexec⟩ | ⟨hfails, c', hexec, htables, -⟩
    · rw [bind_error hexec]
      trivial
    obtain ⟨row, hfind, hcomplete⟩ := h.resolve_left hfails
    have hget : (get : CassandraM Double _) c' = .ok c' c' := rfl
    have hrow : row.Typed := htyped.ordersById row (Table.find?_eq_some.1 hfind).1
    obtain ⟨c'', hread⟩ := rowToOrder_complete hrow hcomplete c'
    rw [bind_ok hexec, bind_ok hget, htables]
    simp only [hfind, hread]
    exact hrow.fieldsDetermined_iff.2 hcomplete

theorem mem_partition {t : CassandraTables Double} {userId : CppString} {row : TableRow Double}
    (h : row ∈ t.partition userId) : row ∈ t.ordersByUser.rows :=
  (List.mem_filter.1 ((List.mem_insertionSort _).1 h)).1

theorem cassandra_findAllSound_iff [Zero Double] {c : Cluster Double} (htyped : c.tables.Typed)
    (userId : CppString) :
    (∀ unset, FindAllSound (CassandraClient.findBySecondaryKey userId { c with unset })
        ((c.tables.partition (cStr userId)).map TableRow.fields)) ↔
      c.NextFails ∨ c.tables.partition (cStr userId) = [] := by
  have hcases (unset : List CassError → Option CppString) :=
    execute_id_cases (lit "find_by_secondary_key") { c with unset }
  constructor
  · intro h
    rcases hcases fun _ => none with ⟨hfails, -⟩ | ⟨-, c', hexec, htables, hunset⟩
    · exact .inl hfails
    have hget : (get : CassandraM Double _) c' = .ok c' c' := rfl
    have hrows : Triple (fun c : Cluster Double => c.unset = fun _ => none)
        ((c.tables.partition (cStr userId)).mapM fun row =>
          CassandraClient.rowToOrder (selectedRow selectByUserStmt row))
        (fun found after => (after.unset = fun _ => none) ∧ List.Forall₂
          (fun row o => o = decodedRow (selectedRow selectByUserStmt row))
          (c.tables.partition (cStr userId)) found) (fun _ _ => False) :=
      Triple.mapM (fun row => rowToOrder_returns (selectedRow selectByUserStmt row)) _
    obtain ⟨found, c'', hread, -, hfound⟩ := hrows.returns hunset
    have hsound := h fun _ => none
    rw [CassandraClient.findBySecondaryKey, bind_ok hexec, bind_ok hget, htables] at hsound
    simp only [hread, FindAllSound, List.forall₂_map_left_iff] at hsound
    cases hpart : c.tables.partition (cStr userId) with
    | nil => exact .inr rfl
    | cons row rest =>
      have hmem : row ∈ c.tables.partition (cStr userId) := hpart ▸ List.mem_cons_self
      have hamount := amount_decodedRow_selectByUser (htyped.ordersByUser row (mem_partition hmem))
      simp only [hpart] at hfound hsound
      cases hfound with
      | cons ho _ =>
        cases hsound with
        | cons hfields _ =>
          rw [ho] at hfields
          exact absurd hfields (not_fieldsDetermined_of_amount hamount)
  · intro h unset
    rw [CassandraClient.findBySecondaryKey]
    rcases hcases unset with ⟨-, e, c', hexec⟩ | ⟨hfails, c', hexec, htables, -⟩
    · rw [bind_error hexec]
      trivial
    have hget : (get : CassandraM Double _) c' = .ok c' c' := rfl
    rw [bind_ok hexec, bind_ok hget, htables, h.resolve_left hfails]
    exact .nil

/-- Exactly when the orders that the clients return have all their fields. -/
theorem finds_sound_iff [Zero Double] (orders : Collection Double) (c : Cluster Double)
    (htyped : c.tables.Typed) :
    (∀ orderId, FindSound (MongoClient.findByPrimaryKey orderId orders)
        ((orders.find? (some orderId)).map Document.fields) ↔
      ∀ doc, orders.find? (some orderId) = some doc → doc.Typed → doc.HasScalars) ∧
    (∀ userId, FindAllSound (MongoClient.findBySecondaryKey userId orders)
        ((documentsOf userId orders).map Document.fields) ↔
      ((∀ doc ∈ documentsOf userId orders, doc.Typed) →
        ∀ doc ∈ documentsOf userId orders, doc.HasScalars)) ∧
    (∀ orderId, (∀ unset, FindSound (CassandraClient.findByPrimaryKey orderId { c with unset })
        ((c.tables.ordersById.find? (some (cStr orderId))).map TableRow.fields)) ↔
      c.NextFails ∨ ∃ row, c.tables.ordersById.find? (some (cStr orderId)) = some row ∧
        row.Complete) ∧
    ∀ userId, (∀ unset, FindAllSound (CassandraClient.findBySecondaryKey userId { c with unset })
        ((c.tables.partition (cStr userId)).map TableRow.fields)) ↔
      c.NextFails ∨ c.tables.partition (cStr userId) = [] :=
  ⟨mongo_findSound_iff orders, mongo_findAllSound_iff orders, cassandra_findSound_iff htyped,
    cassandra_findAllSound_iff htyped⟩

def partialDocument : Document Rat :=
  [("_id", .string (lit "a")), ("user_id", .string (lit "u")), ("quantity", .int32 1)]

def oneRow : Cluster Rat := .healthy (tablesAfter [.insertOne (stampedOrder "a" "u" "t")])

theorem finds_sound_iff_oneRow :
    FindSound (CassandraClient.findByPrimaryKey (lit "a") oneRow)
        ((oneRow.tables.ordersById.find? (some (lit "a"))).map TableRow.fields) ∧
      ¬ FindSound (MongoClient.findByPrimaryKey (lit "a") (Table.empty.upsert partialDocument))
        (some partialDocument.fields) := by
  obtain ⟨hmongo, -, hcassandra, -⟩ := finds_sound_iff (Table.empty.upsert partialDocument) oneRow
    (typed_tablesAfter _)
  constructor
  · have hfind : oneRow.tables.ordersById.find? (some (cStr (lit "a"))) =
        some (rowById (stampedOrder "a" "u" "t")) := rfl
    exact (hcassandra (lit "a")).2 (.inr ⟨_, hfind, complete_rowById _⟩) fun _ => none
  · intro h
    have htyped : partialDocument.Typed := ⟨by decide, by decide, by decide⟩
    exact ((hmongo (lit "a")).1 h partialDocument rfl htyped).1 rfl

/-- `Order o;` is returned where no row is found, with its scalars as they happen to be. -/
theorem not_findSound_cassandra_absent :
    ¬ FindSound (CassandraClient.findByPrimaryKey (lit "a") (.healthy (.empty : CassandraTables Rat)))
      (((.empty : CassandraTables Rat).ordersById.find? (some (cStr (lit "a")))).map
        TableRow.fields) := by
  rw [findByPrimaryKey_absent rfl]
  intro h
  exact absurd (congrArg OrderObject.amount h) (by decide)

end DbBenchmark
