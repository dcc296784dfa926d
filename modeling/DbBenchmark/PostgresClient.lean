import DbBenchmark.CassandraClient

namespace DbBenchmark
open Keyed Throwing
set_option autoImplicit true

/-- How the server reads a text by the type of the column it is for, and how `pqxx` prints a
`double`. -/
structure PostgresTypes (Double Value : Type) where
  input : Column → CppString → Except CppString Value
  printDouble : Double → CppString

abbrev PostgresRow (Value : Type) := Column → Option Value

/-- PRIMARY KEY (order_id) -/
def postgresKey {Value : Type} (row : PostgresRow Value) : Option Value := row .orderId

abbrev PostgresM (Value : Type) := EStateM CppString (Table (@postgresKey Value))

variable {Double Value : Type} (types : PostgresTypes Double Value)

def PostgresTypes.row (columns : List Column) (texts : List CppString) :
    Except CppString (PostgresRow Value) := do
  let cells ← (columns.zip texts).mapM fun cell => do
    let value ← types.input cell.1 cell.2
    return (cell.1, value)
  return fun column => cells.lookup column

namespace PostgresClient

def insertOrderStmt : List Column :=
  [.orderId, .userId, .productId, .status, .amount, .quantity, .description, .createdAt, .updatedAt]

def insertOrderParams (order : Order Double) : List CppString :=
  [order.orderId, order.userId, order.productId, order.status, types.printDouble order.amount,
   decimalInt order.quantity, order.description, order.createdAt, order.updatedAt]

/-- Parameters travel as C strings. -/
def insertedRow (order : Order Double) : Except CppString (PostgresRow Value) :=
  types.row insertOrderStmt ((insertOrderParams types order).map cStr)

def streamColumns : List Column :=
  [.orderId, .userId, .productId, .status, .amount, .quantity, .description, .createdAt, .updatedAt]

def streamTuple (o : Order Double) : List CppString :=
  [o.orderId, o.userId, o.productId, o.status, types.printDouble o.amount, decimalInt o.quantity,
   o.description, o.createdAt, o.updatedAt]

/-- The stream is sent with its NUL bytes, which no text of the server can hold. -/
def streamedRow (o : Order Double) : Except CppString (PostgresRow Value) :=
  if ∀ text ∈ streamTuple types o, NulFree text then types.row streamColumns (streamTuple types o)
  else .error (lit "invalid byte sequence for encoding")

end PostgresClient

/-- The single-row path fills the columns as the stream does. -/
theorem insertedRow_of_streamedRow {types : PostgresTypes Double Value} {o : Order Double}
    {row : PostgresRow Value} (h : PostgresClient.streamedRow types o = .ok row) :
    PostgresClient.insertedRow types o = .ok row := by
  rw [PostgresClient.streamedRow] at h
  split at h
  · next hfree =>
    have hself : ∀ text ∈ PostgresClient.streamTuple types o, cStr text = id text :=
      fun text htext => cStr_of_nulFree (hfree text htext)
    have htexts : (PostgresClient.streamTuple types o).map cStr =
        PostgresClient.streamTuple types o := by
      rw [List.map_congr_left hself, List.map_id]
    rw [← h, ← htexts]
    rfl
  · cases h

variable [DecidableEq Value]

namespace PostgresClient

/-- The server rejects a second row with the same primary key. -/
def insertRow (row : PostgresRow Value) : PostgresM Value Unit :=
  Table.insertNew (lit "duplicate key value violates unique constraint") row

def insertOne (order : Order Double) : PostgresM Value Unit := do
  let row ← MonadExcept.ofExcept (insertedRow types order)
  insertRow row

def streamOrder (o : Order Double) : PostgresM Value Unit := do
  let row ← MonadExcept.ofExcept (streamedRow types o)
  insertRow row

def insertBatch (orders : List (Order Double)) : PostgresM Value Unit :=
  transaction (orders.forM (streamOrder types))

end PostgresClient

theorem ofExcept_bind_eq_ok_iff {m : Except CppString α} {f : α → EStateM CppString σ β} :
    ((MonadExcept.ofExcept m : EStateM CppString σ α) >>= f) s = .ok b s' ↔
      ∃ a, m = .ok a ∧ f a s = .ok b s' := by
  cases m with
  | ok a =>
    change f a s = .ok b s' ↔ _
    simp
  | error e =>
    change EStateM.Result.error e s = .ok b s' ↔ _
    simp

theorem streamOrder_eq_ok_iff {types : PostgresTypes Double Value} {o : Order Double}
    {t t' : Table (@postgresKey Value)} :
    PostgresClient.streamOrder types o t = .ok () t' ↔
      ∃ row, PostgresClient.streamedRow types o = .ok row ∧
        PostgresClient.insertRow row t = .ok () t' :=
  ofExcept_bind_eq_ok_iff

theorem insertOne_of_streamOrder {types : PostgresTypes Double Value} {o : Order Double}
    {t t' : Table (@postgresKey Value)} (h : PostgresClient.streamOrder types o t = .ok () t') :
    PostgresClient.insertOne types o t = .ok () t' := by
  obtain ⟨row, hrow, hinsert⟩ := streamOrder_eq_ok_iff.1 h
  exact ofExcept_bind_eq_ok_iff.2 ⟨row, insertedRow_of_streamedRow hrow, hinsert⟩

def Accepts (types : PostgresTypes Double Value) (orders : List (Order Double))
    (t : Table (@postgresKey Value)) : Prop :=
  ∃ rows, List.Forall₂ (fun o row => PostgresClient.streamedRow types o = .ok row) orders rows ∧
    (rows.map postgresKey).Nodup ∧ ∀ row ∈ rows, t.find? (postgresKey row) = none

theorem forM_streamOrder_eq_ok_iff {types : PostgresTypes Double Value}
    {orders : List (Order Double)} {t t' : Table (@postgresKey Value)} :
    orders.forM (PostgresClient.streamOrder types) t = .ok () t' ↔
      ∃ rows, List.Forall₂ (fun o row => PostgresClient.streamedRow types o = .ok row) orders rows ∧
        rows.forM PostgresClient.insertRow t = .ok () t' := by
  induction orders generalizing t with
  | nil =>
    simp only [List.forall₂_nil_left_iff, exists_eq_left]
    exact Iff.rfl
  | cons o orders ih =>
    simp only [forM_cons_eq_ok_iff, ih, streamOrder_eq_ok_iff, List.forall₂_cons_left_iff]
    constructor
    · rintro ⟨s, ⟨row, hrow, hinsert⟩, rows, hrows, hrest⟩
      exact ⟨row :: rows, ⟨row, rows, hrow, hrows, rfl⟩, forM_cons_eq_ok_iff.2 ⟨s, hinsert, hrest⟩⟩
    · rintro ⟨_, ⟨row, rows, hrow, hrows, rfl⟩, h⟩
      obtain ⟨s, hinsert, hrest⟩ := forM_cons_eq_ok_iff.1 h
      exact ⟨s, ⟨row, hrow, hinsert⟩, rows, hrows, hrest⟩

theorem postgres_insertBatch_returns_iff {types : PostgresTypes Double Value}
    {orders : List (Order Double)} {t : Table (@postgresKey Value)} :
    (∃ t', PostgresClient.insertBatch types orders t = .ok () t') ↔ Accepts types orders t := by
  simp only [PostgresClient.insertBatch, transaction_eq_ok_iff, forM_streamOrder_eq_ok_iff]
  constructor
  · rintro ⟨t', rows, hrows, h⟩
    exact ⟨rows, hrows, Table.forM_insertNew_returns_iff.1 ⟨t', h⟩⟩
  · rintro ⟨rows, hrows, hkeys⟩
    obtain ⟨t', h⟩ := Table.forM_insertNew_returns_iff.2 hkeys
    exact ⟨t', rows, hrows, h⟩

end DbBenchmark
