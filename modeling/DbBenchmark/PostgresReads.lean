import DbBenchmark.BatchInserts
import DbBenchmark.StampedOrders

namespace DbBenchmark
open Keyed Throwing
set_option autoImplicit true

variable {Double Value : Type}

/-- The order in which the server returns the rows of a query that asks for none. -/
structure RowOrder (Value : Type) where
  arrange : List (PostgresRow Value) → List (PostgresRow Value)
  arrange_perm : ∀ rows, (arrange rows).Perm rows

def RowOrder.asStored : RowOrder Value := ⟨id, fun _ => .refl _⟩

section Queries

variable (types : PostgresTypes Double Value) (rowOrder : RowOrder Value) (instant : Value → ℚ)
  (rowToOrder : PostgresRow Value → Except CppString (OrderObject Double)) [DecidableEq Value]

namespace PostgresClient

def parameter (column : Column) (text : CppString) : PostgresM Value Value :=
  MonadExcept.ofExcept (types.input column (cStr text))

/-- `... FROM orders WHERE order_id = $1` -/
def selectByPk (orderId : CppString) : PostgresM Value (List (PostgresRow Value)) := do
  let id ← parameter types .orderId orderId
  let orders ← get
  return orders.rows.filter fun row => row .orderId = some id

/-- `... FROM orders WHERE user_id = $1` -/
def selectByUser (userId : CppString) : PostgresM Value (List (PostgresRow Value)) := do
  let id ← parameter types .userId userId
  let orders ← get
  return rowOrder.arrange (orders.rows.filter fun row => row .userId = some id)

/-- The server compares the instants that two values of `TIMESTAMPTZ` stand for. -/
def createdBetween (first last : Value) (row : PostgresRow Value) : Bool :=
  match row .createdAt with
  | some createdAt => instant first ≤ instant createdAt ∧ instant createdAt ≤ instant last
  | none => false

def createdInstant (row : PostgresRow Value) : Option ℚ := (row .createdAt).map instant

def OlderFirst (a b : PostgresRow Value) : Prop :=
  (createdInstant instant a).getD 0 ≤ (createdInstant instant b).getD 0

instance : DecidableRel (OlderFirst instant) := fun a b =>
  inferInstanceAs (Decidable
    ((createdInstant instant a).getD 0 ≤ (createdInstant instant b).getD 0))

/-- `... FROM orders WHERE created_at>= $1 AND created_at <=$2 ORDER BY created_at` -/
def selectByRange (startDate endDate : CppString) :
    PostgresM Value (List (PostgresRow Value)) := do
  let first ← parameter types .createdAt startDate
  let last ← parameter types .createdAt endDate
  let orders ← get
  return (orders.rows.filter (createdBetween instant first last)).insertionSort
    (OlderFirst instant)

/-- `row_to_order` is declared without a body. -/
def findByPrimaryKey [Zero Double] (orderId : CppString) :
    PostgresM Value (OrderObject Double) := do
  let r ← selectByPk types orderId
  match r with
  | [] => return .valueInit
  | row :: _ => MonadExcept.ofExcept (rowToOrder row)

def findBySecondaryKey (userId : CppString) : PostgresM Value (List (OrderObject Double)) := do
  let r ← selectByUser types rowOrder userId
  r.mapM fun row => MonadExcept.ofExcept (rowToOrder row)

def findByRange (startDate endDate : CppString) :
    PostgresM Value (List (OrderObject Double)) := do
  let r ← selectByRange types instant startDate endDate
  r.mapM fun row => MonadExcept.ofExcept (rowToOrder row)

end PostgresClient

end Queries

theorem mapM_cells (read : Column × CppString → Except CppString Value)
    {texts : List (Column × CppString)} {cells : List (Column × Value)}
    (h : (texts.mapM fun cell => do
      let value ← read cell
      return (cell.1, value)) = .ok cells) (hnodup : (texts.map Prod.fst).Nodup)
    (hcell : cell ∈ texts) : ∃ value, read cell = .ok value ∧ cells.lookup cell.1 = some value := by
  induction texts generalizing cells with
  | nil => exact absurd hcell List.not_mem_nil
  | cons first texts ih =>
    rw [List.mapM_cons] at h
    obtain ⟨pair, hpair, h⟩ := except_bind_ok h
    obtain ⟨value, hvalue, hpair⟩ := except_bind_ok hpair
    obtain ⟨rest, hrest, h⟩ := except_bind_ok h
    cases hpair
    cases h
    obtain ⟨hfirst, hnodup⟩ := List.nodup_cons.1 hnodup
    rcases List.mem_cons.1 hcell with rfl | hcell
    · exact ⟨value, hvalue, List.lookup_cons_self⟩
    · obtain ⟨value', hvalue', hlookup⟩ := ih hrest hnodup hcell
      have hne : cell.1 ≠ first.1 := fun he => hfirst (he ▸ List.mem_map_of_mem hcell)
      refine ⟨value', hvalue', ?_⟩
      rw [List.lookup_cons, beq_false_of_ne hne]
      exact hlookup

theorem cell_of_row {types : PostgresTypes Double Value} {columns : List Column}
    {texts : List CppString} {row : PostgresRow Value} (h : types.row columns texts = .ok row)
    (hcolumns : columns.Nodup) (hlength : columns.length ≤ texts.length)
    (hcell : (column, text) ∈ columns.zip texts) :
    ∃ value, types.input column text = .ok value ∧ row column = some value := by
  obtain ⟨cells, hcells, h⟩ := except_bind_ok h
  cases h
  rw [← List.map_fst_zip hlength] at hcolumns
  exact mapM_cells (fun cell => types.input cell.1 cell.2) hcells hcolumns hcell

theorem nulFree_of_streamedRow {types : PostgresTypes Double Value} {o : Order Double}
    {row : PostgresRow Value} (h : PostgresClient.streamedRow types o = .ok row) :
    ∀ text ∈ PostgresClient.streamTuple types o, NulFree text := by
  rw [PostgresClient.streamedRow] at h
  split at h
  · next hfree => exact hfree
  · cases h

theorem row_of_streamedRow {types : PostgresTypes Double Value} {o : Order Double}
    {row : PostgresRow Value} (h : PostgresClient.streamedRow types o = .ok row) :
    types.row PostgresClient.streamColumns (PostgresClient.streamTuple types o) = .ok row := by
  rw [PostgresClient.streamedRow] at h
  split at h
  · exact h
  · cases h

theorem cell_of_streamedRow {types : PostgresTypes Double Value} {o : Order Double}
    {row : PostgresRow Value} (h : PostgresClient.streamedRow types o = .ok row)
    (hcell : (column, text) ∈ PostgresClient.streamColumns.zip (PostgresClient.streamTuple types o)) :
    ∃ value, types.input column text = .ok value ∧ row column = some value :=
  cell_of_row (row_of_streamedRow h) (by decide) le_rfl hcell

theorem createdAt_of_streamedRow {types : PostgresTypes Double Value} {o : Order Double}
    {row : PostgresRow Value} (h : PostgresClient.streamedRow types o = .ok row) :
    ∃ value, types.input .createdAt o.createdAt = .ok value ∧ row .createdAt = some value := by
  apply cell_of_streamedRow h
  simp [PostgresClient.streamColumns, PostgresClient.streamTuple]

theorem orderId_of_streamedRow {types : PostgresTypes Double Value} {o : Order Double}
    {row : PostgresRow Value} (h : PostgresClient.streamedRow types o = .ok row) :
    ∃ value, types.input .orderId o.orderId = .ok value ∧ row .orderId = some value := by
  apply cell_of_streamedRow h
  simp [PostgresClient.streamColumns, PostgresClient.streamTuple]

theorem userId_of_streamedRow {types : PostgresTypes Double Value} {o : Order Double}
    {row : PostgresRow Value} (h : PostgresClient.streamedRow types o = .ok row) :
    ∃ value, types.input .userId o.userId = .ok value ∧ row .userId = some value := by
  apply cell_of_streamedRow h
  simp [PostgresClient.streamColumns, PostgresClient.streamTuple]

def storedRow (types : PostgresTypes Double Value) (o : Order Double) : PostgresRow Value :=
  match PostgresClient.streamedRow types o with
  | .ok row => row
  | .error _ => fun _ => none

theorem eq_map_storedRow {types : PostgresTypes Double Value} {orders : List (Order Double)}
    {rows : List (PostgresRow Value)}
    (h : List.Forall₂ (fun o row => PostgresClient.streamedRow types o = .ok row) orders rows) :
    rows = orders.map (storedRow types) := by
  induction h with
  | nil => rfl
  | cons hrow _ ih => rw [List.map_cons, storedRow, hrow, ih]

theorem rows_of_postgres_insertBatch [DecidableEq Value] {types : PostgresTypes Double Value}
    {orders : List (Order Double)} {t : Table (@postgresKey Value)}
    (h : PostgresClient.insertBatch types orders .empty = .ok () t) :
    t.rows = orders.map (storedRow types) ∧
      ∀ o ∈ orders, PostgresClient.streamedRow types o = .ok (storedRow types o) := by
  rw [PostgresClient.insertBatch, transaction_eq_ok_iff, forM_streamOrder_eq_ok_iff] at h
  obtain ⟨rows, hrows, hstored⟩ := h
  have hmap := eq_map_storedRow hrows
  subst hmap
  exact ⟨Table.rows_of_forM_insertNew hstored,
    List.forall₂_same.1 (List.forall₂_map_right_iff.1 hrows)⟩

theorem nulFree_decimal (n : Nat) : NulFree (decimal n) := by
  have hdigit : ∀ d < 10, 48 + UInt8.ofNat d ≠ 0 := by decide
  intro hmem
  by_cases hn : n = 0
  · subst hn
    exact absurd hmem (by decide)
  · rw [decimal, if_neg hn] at hmem
    obtain ⟨d, hd, hzero⟩ := List.mem_map.1 hmem
    exact hdigit d (Nat.digits_lt_base (by decide) (List.mem_reverse.1 hd)) hzero

theorem StampedAt.nulFree (h : StampedAt epoch text) : NulFree text := by
  have htwo (n : Nat) : 0 ∉ twoDigits n := by
    rw [twoDigits]
    split
    · exact List.not_mem_append (by decide) (nulFree_decimal n)
    · exact nulFree_decimal n
  have hyear (tm : Tm) : 0 ∉ tm.fullYear := by
    rw [Tm.fullYear]
    apply List.not_mem_append _ (nulFree_decimal _)
    split
    · decide
    · exact List.not_mem_nil
  have hlits : ∀ c ∈ [lit "-", lit "T", lit ":", lit "Z"], 0 ∉ c := by decide +kernel
  simp only [List.forall_mem_cons] at hlits
  rw [h.eq, NulFree, DataGenerator.isoFormat]
  simp only [List.mem_append, htwo, hyear, hlits, or_self, not_false_iff]

/-- The server reads the stamp of an instant as that instant. -/
def TimedAt (types : PostgresTypes Double Value) (instant : Value → ℚ) (epoch : Int)
    (text : CppString) : Prop :=
  StampedAt epoch text ∧ ∃ value, types.input .createdAt text = .ok value ∧ instant value = epoch

/-- The orders between two instants, oldest first. -/
structure SelectedInOrder (epochOf : Order Double → Int) (s e : Int)
    (orders selected : List (Order Double)) : Prop where
  perm : selected.Perm (createdBetween epochOf s e orders)
  sorted : selected.Pairwise fun a b => epochOf a ≤ epochOf b

def OlderEpoch (epochOf : Order Double → Int) (a b : Order Double) : Prop := epochOf a ≤ epochOf b

instance (epochOf : Order Double → Int) : DecidableRel (OlderEpoch epochOf) := fun a b =>
  inferInstanceAs (Decidable (epochOf a ≤ epochOf b))

def oldestFirst (epochOf : Order Double → Int) (s e : Int) (orders : List (Order Double)) :
    List (Order Double) :=
  (createdBetween epochOf s e orders).insertionSort (OlderEpoch epochOf)

instance (epochOf : Order Double → Int) : Std.Total (OlderEpoch epochOf) :=
  ⟨fun _ _ => le_total _ _⟩

instance (epochOf : Order Double → Int) : IsTrans (Order Double) (OlderEpoch epochOf) :=
  ⟨fun _ _ _ => le_trans⟩

theorem selectedInOrder_oldestFirst (epochOf : Order Double → Int) (s e : Int)
    (orders : List (Order Double)) :
    SelectedInOrder epochOf s e orders (oldestFirst epochOf s e orders) where
  perm := List.perm_insertionSort _ _
  sorted := List.pairwise_insertionSort (OlderEpoch epochOf) _

section Range

variable {types : PostgresTypes Double Value} {instant : Value → ℚ} {epochOf : Order Double → Int}
  {orders : List (Order Double)}

theorem createdInstant_storedRow (h : TimedAt types instant (epochOf o) o.createdAt)
    (hrow : PostgresClient.streamedRow types o = .ok (storedRow types o)) :
    ∃ value, storedRow types o .createdAt = some value ∧ instant value = epochOf o := by
  obtain ⟨-, value, hvalue, hinstant⟩ := h
  obtain ⟨value', hvalue', hcell⟩ := createdAt_of_streamedRow hrow
  rw [hvalue, Except.ok.injEq] at hvalue'
  exact ⟨value, hvalue' ▸ hcell, hinstant⟩

theorem parameter_timedAt (h : TimedAt types instant epoch text) :
    ∃ value, instant value = epoch ∧ ∀ t, PostgresClient.parameter types .createdAt text t =
      .ok value t := by
  obtain ⟨hstamp, value, hvalue, hinstant⟩ := h
  refine ⟨value, hinstant, fun t => ?_⟩
  rw [PostgresClient.parameter, cStr_of_nulFree hstamp.nulFree, hvalue]
  rfl

/-- The range query finds the rows of the orders between the two instants, oldest first. -/
theorem selectByRange_eq (horders : ∀ o ∈ orders, TimedAt types instant (epochOf o) o.createdAt)
    (hs : TimedAt types instant s startDate) (he : TimedAt types instant e endDate)
    {t : Table (@postgresKey Value)} (ht : t.rows = orders.map (storedRow types))
    (hrows : ∀ o ∈ orders, PostgresClient.streamedRow types o = .ok (storedRow types o)) :
    PostgresClient.selectByRange types instant startDate endDate t =
      .ok ((oldestFirst epochOf s e orders).map (storedRow types)) t := by
  obtain ⟨first, hfirst, hstart⟩ := parameter_timedAt hs
  obtain ⟨last, hlast, hend⟩ := parameter_timedAt he
  have hfilter : t.rows.filter (PostgresClient.createdBetween instant first last) =
      (createdBetween epochOf s e orders).map (storedRow types) := by
    rw [ht, List.filter_map, createdBetween]
    congr 1
    apply List.filter_congr
    intro o ho
    obtain ⟨value, hcell, hinstant⟩ := createdInstant_storedRow (horders o ho) (hrows o ho)
    simp only [Function.comp_apply, PostgresClient.createdBetween, hcell, hinstant, hfirst, hlast,
      Int.cast_le]
  have hsort := List.map_insertionSort (OlderEpoch epochOf) (PostgresClient.OlderFirst instant)
    (storedRow types) (createdBetween epochOf s e orders) ?_
  · rw [PostgresClient.selectByRange, bind_ok (hstart t), bind_ok (hend t)]
    change EStateM.Result.ok ((t.rows.filter _).insertionSort _) t = _
    rw [hfilter, ← hsort]
    rfl
  · intro a ha b hb
    have hold (o : Order Double) (ho : o ∈ createdBetween epochOf s e orders) :
        PostgresClient.createdInstant instant (storedRow types o) = some (epochOf o : ℚ) := by
      have hmem := List.mem_of_mem_filter ho
      obtain ⟨value, hcell, hinstant⟩ := createdInstant_storedRow (horders o hmem) (hrows o hmem)
      rw [PostgresClient.createdInstant, hcell, Option.map_some, hinstant]
    rw [PostgresClient.OlderFirst, hold a ha, hold b hb, OlderEpoch]
    simp

/-- So does the range query on MongoDB, by comparing the stamps. -/
theorem mongo_findByRange_eq (horders : ∀ o ∈ orders, StampedAt (epochOf o) o.createdAt)
    (hs : StampedAt s startDate) (he : StampedAt e endDate) {c : Collection Double}
    (hc : c.rows = orders.map MongoClient.orderToBson) :
    MongoClient.findByRange startDate endDate c =
      .ok ((oldestFirst epochOf s e orders).map Order.toObject) c := by
  rw [findByRange_eq startDate endDate orders hc, cursorOrders,
    filter_within epochOf hs he horders, oldestFirst]
  have hsort := List.map_insertionSort (OlderEpoch epochOf)
    (fun a b => MongoClient.OlderFirst (MongoClient.orderToBson a) (MongoClient.orderToBson b))
    id (createdBetween epochOf s e orders) ?_
  · rw [List.map_id, List.map_id] at hsort
    rw [hsort]
  · intro a ha b hb
    exact ((horders a (List.mem_of_mem_filter ha)).le_iff
      (horders b (List.mem_of_mem_filter hb))).symm

variable [DecidableEq Value]

/-- Postgres and MongoDB, loaded with the same orders, find those between two instants, each of them
once and the oldest first. -/
theorem range_reads_alike (horders : ∀ o ∈ orders, TimedAt types instant (epochOf o) o.createdAt)
    (hs : TimedAt types instant s startDate) (he : TimedAt types instant e endDate)
    {t : Table (@postgresKey Value)} {c : Collection Double}
    (hpostgres : PostgresClient.insertBatch types orders .empty = .ok () t)
    (hmongo : orders.forM MongoClient.insertOne .empty = .ok () c) :
    (∃ selected, SelectedInOrder epochOf s e orders selected ∧
      MongoClient.findByRange startDate endDate c = .ok (selected.map Order.toObject) c) ∧
    ∃ selected, SelectedInOrder epochOf s e orders selected ∧
      ∀ rowToOrder : PostgresRow Value → Except CppString (OrderObject Double),
        PostgresClient.findByRange types instant rowToOrder startDate endDate t =
          ((selected.map (storedRow types)).mapM fun row =>
            MonadExcept.ofExcept (rowToOrder row) : PostgresM Value _) t := by
  obtain ⟨ht, hrows⟩ := rows_of_postgres_insertBatch hpostgres
  have hselected := selectedInOrder_oldestFirst epochOf s e orders
  constructor
  · rw [forM_insertOne_eq] at hmongo
    have hc := Table.rows_of_forM_insertNew hmongo
    exact ⟨_, hselected, mongo_findByRange_eq (fun o ho => (horders o ho).1) hs.1 he.1 hc⟩
  · refine ⟨_, hselected, fun rowToOrder => ?_⟩
    exact bind_ok (selectByRange_eq horders hs he ht hrows)

/-- Timestamps as the server reads them, for two of them and the ends of a day. -/
def readInstant (text : CppString) : ℚ :=
  (([("2026-03-15T00:00:00Z", 1773532800), ("2026-03-15T10:30:00Z", 1773570600),
    ("2026-03-16T00:00:00Z", 1773619200), ("2026-03-17T08:00:00Z", 1773734400)] :
      List (String × ℚ)).map fun stamp => (lit stamp.1, stamp.2)).lookup text |>.getD 0

def twoDays : List (Order Rat) :=
  [("7d444840-9dc0-41d1-b245-5ffdce74fad2", "2026-03-15T10:30:00Z"),
    ("0f8fad5b-d9cb-469f-a165-70867728950e", "2026-03-17T08:00:00Z")].map fun stamp =>
      { stampedOrder stamp.1 "c9bf9e57-1685-4c89-bafb-ff5af830be8a" stamp.2 with
        productId := lit "9c858901-8a57-4791-81fe-4c455b099bc9" }

def dayEpoch (o : Order Rat) : Int :=
  if o.createdAt = lit "2026-03-15T10:30:00Z" then 1773570600 else 1773734400

theorem range_reads_alike_twoDays : ∃ t c,
    PostgresClient.insertBatch orderTypes twoDays .empty = .ok () t ∧
    twoDays.forM MongoClient.insertOne .empty = .ok () c ∧
    (∃ selected, SelectedInOrder dayEpoch 1773532800 1773619200 twoDays selected ∧
      MongoClient.findByRange (lit "2026-03-15T00:00:00Z") (lit "2026-03-16T00:00:00Z") c =
        .ok (selected.map Order.toObject) c) ∧
    ∃ selected, SelectedInOrder dayEpoch 1773532800 1773619200 twoDays selected ∧
      ∀ rowToOrder : PostgresRow CppString → Except CppString (OrderObject Rat),
        PostgresClient.findByRange orderTypes readInstant rowToOrder (lit "2026-03-15T00:00:00Z")
            (lit "2026-03-16T00:00:00Z") t =
          ((selected.map (storedRow orderTypes)).mapM fun row =>
            MonadExcept.ofExcept (rowToOrder row) : PostgresM CppString _) t := by
  have haccepts : Accepts orderTypes twoDays .empty := postgres_insertBatch_returns_iff.1 ⟨_, rfl⟩
  obtain ⟨t, hpostgres⟩ := postgres_insertBatch_returns_iff.2 haccepts
  obtain ⟨c, hmongo⟩ := mongo_forM_insertOne_returns twoDays .empty (by decide) fun _ _ => rfl
  refine ⟨t, c, hpostgres, hmongo, ?_⟩
  have horders : ∀ o ∈ twoDays, TimedAt orderTypes readInstant (dayEpoch o) o.createdAt := by
    rw [twoDays, List.forall_mem_map, List.forall_mem_cons, List.forall_mem_singleton]
    constructor
    · exact ⟨⟨by decide +kernel, by decide +kernel⟩, _, rfl, by decide +kernel⟩
    · exact ⟨⟨by decide +kernel, by decide +kernel⟩, _, rfl, by decide +kernel⟩
  have hstart : TimedAt orderTypes readInstant 1773532800 (lit "2026-03-15T00:00:00Z") :=
    ⟨⟨by decide +kernel, by decide +kernel⟩, _, rfl, by decide +kernel⟩
  have hend : TimedAt orderTypes readInstant 1773619200 (lit "2026-03-16T00:00:00Z") :=
    ⟨⟨by decide +kernel, by decide +kernel⟩, _, rfl, by decide +kernel⟩
  exact range_reads_alike horders hstart hend hpostgres hmongo

end Range

section Keys

variable {types : PostgresTypes Double Value} {orders : List (Order Double)}
  {t : Table (@postgresKey Value)}

theorem parameter_ok (h : types.input column (cStr text) = .ok value) :
    PostgresClient.parameter types column text t = .ok value t := by
  rw [PostgresClient.parameter, h]
  rfl

theorem parameter_error (h : types.input column (cStr text) = .error what) :
    PostgresClient.parameter types column text t = .error what t := by
  rw [PostgresClient.parameter, h]
  rfl

variable [DecidableEq Value]

def ordersOfUser (types : PostgresTypes Double Value) (value : Value)
    (orders : List (Order Double)) : List (Order Double) :=
  orders.filter fun o => (types.input .userId o.userId).toOption = some value

theorem selectByPk_eq {types : PostgresTypes Double Value}
    (h : types.input .orderId (cStr orderId) = .ok value) :
    PostgresClient.selectByPk types orderId t =
      .ok (t.rows.filter fun row => row .orderId = some value) t := by
  rw [PostgresClient.selectByPk, bind_ok (parameter_ok h)]
  rfl

theorem selectByPk_stored (hpostgres : PostgresClient.insertBatch types orders .empty = .ok () t)
    (ho : o ∈ orders) :
    PostgresClient.selectByPk types o.orderId t = .ok [storedRow types o] t := by
  obtain ⟨ht, hrows⟩ := rows_of_postgres_insertBatch hpostgres
  obtain ⟨value, hid, hcell⟩ := orderId_of_streamedRow (hrows o ho)
  have hmem : storedRow types o ∈ t.rows := ht ▸ List.mem_map_of_mem ho
  have hfilter := Table.filter_key_eq hmem
  simp only [postgresKey, hcell] at hfilter
  have hfree : NulFree o.orderId := nulFree_of_streamedRow (hrows o ho) _ List.mem_cons_self
  rw [← cStr_of_nulFree hfree] at hid
  rw [selectByPk_eq hid, hfilter]

theorem selectByPk_absent (hpostgres : PostgresClient.insertBatch types orders .empty = .ok () t)
    (hid : types.input .orderId (cStr orderId) = .ok value)
    (habsent : ∀ o ∈ orders, types.input .orderId o.orderId ≠ .ok value) :
    PostgresClient.selectByPk types orderId t = .ok [] t := by
  obtain ⟨ht, hrows⟩ := rows_of_postgres_insertBatch hpostgres
  have hfilter : (t.rows.filter fun row => row .orderId = some value) = [] := by
    apply List.filter_eq_nil_iff.2
    intro row hrow hkey
    rw [ht] at hrow
    obtain ⟨o, ho, rfl⟩ := List.mem_map.1 hrow
    obtain ⟨value', hid', hcell⟩ := orderId_of_streamedRow (hrows o ho)
    rw [hcell, decide_eq_true_eq, Option.some.injEq] at hkey
    exact habsent o ho (hkey ▸ hid')
  rw [selectByPk_eq hid, hfilter]

theorem exists_perm_of_perm_map {f : α → β} (h : l.Perm (l'.map f)) :
    ∃ l'' : List α, l = l''.map f ∧ l''.Perm l' :=
  (congrFun₂ (List.eq_map_comp_perm f) l l').mpr h

theorem selectByUser_eq (hpostgres : PostgresClient.insertBatch types orders .empty = .ok () t)
    (hid : types.input .userId (cStr userId) = .ok value) (rowOrder : RowOrder Value) :
    ∃ selected : List (Order Double), selected.Perm (ordersOfUser types value orders) ∧
      PostgresClient.selectByUser types rowOrder userId t =
        .ok (selected.map (storedRow types)) t := by
  obtain ⟨ht, hrows⟩ := rows_of_postgres_insertBatch hpostgres
  have hfilter : (t.rows.filter fun row => row .userId = some value) =
      (ordersOfUser types value orders).map (storedRow types) := by
    rw [ht, List.filter_map, ordersOfUser]
    congr 1
    apply List.filter_congr
    intro o ho
    obtain ⟨value', hid', hcell⟩ := userId_of_streamedRow (hrows o ho)
    rw [Function.comp_apply, hcell, hid']
    rfl
  have hperm := rowOrder.arrange_perm (t.rows.filter fun row => row .userId = some value)
  rw [hfilter] at hperm
  obtain ⟨selected, harrange, hselected⟩ := exists_perm_of_perm_map hperm
  refine ⟨selected, hselected, ?_⟩
  rw [PostgresClient.selectByUser, bind_ok (parameter_ok hid), ← harrange, ← hfilter]
  rfl

/-- After a load a text finds the order whose id the server reads as the same value, and none where
there is no such order; a user finds all orders with the user, in some order. What is no value of
the column's type makes the read throw. -/
theorem postgres_key_reads [Zero Double]
    (hpostgres : PostgresClient.insertBatch types orders .empty = .ok () t)
    (rowOrder : RowOrder Value)
    (rowToOrder : PostgresRow Value → Except CppString (OrderObject Double)) :
    (∀ o ∈ orders, PostgresClient.findByPrimaryKey types rowToOrder o.orderId t =
      (MonadExcept.ofExcept (rowToOrder (storedRow types o)) : PostgresM Value _) t) ∧
    (∀ orderId id, types.input .orderId (cStr orderId) = .ok id →
      (∀ o ∈ orders, types.input .orderId o.orderId ≠ .ok id) →
      PostgresClient.findByPrimaryKey types rowToOrder orderId t = .ok .valueInit t) ∧
    (∀ userId id, types.input .userId (cStr userId) = .ok id →
      ∃ selected : List (Order Double), selected.Perm (ordersOfUser types id orders) ∧
        PostgresClient.findBySecondaryKey types rowOrder rowToOrder userId t =
          ((selected.map (storedRow types)).mapM fun row =>
            MonadExcept.ofExcept (rowToOrder row) : PostgresM Value _) t) ∧
    (∀ orderId what, types.input .orderId (cStr orderId) = .error what →
      PostgresClient.findByPrimaryKey types rowToOrder orderId t = .error what t) ∧
    ∀ userId what, types.input .userId (cStr userId) = .error what →
      PostgresClient.findBySecondaryKey types rowOrder rowToOrder userId t = .error what t := by
  refine ⟨?_, ?_, ?_, ?_, ?_⟩
  · intro o ho
    exact bind_ok (selectByPk_stored hpostgres ho)
  · intro orderId id hid habsent
    exact bind_ok (selectByPk_absent hpostgres hid habsent)
  · intro userId id hid
    obtain ⟨selected, hselected, hrows⟩ := selectByUser_eq hpostgres hid rowOrder
    exact ⟨selected, hselected, bind_ok hrows⟩
  · intro orderId what hwhat
    exact bind_error (bind_error (parameter_error hwhat))
  · intro userId what hwhat
    exact bind_error (bind_error (parameter_error hwhat))

/-- The server hands on the rows of the user in reverse. -/
theorem postgres_key_reads_uuidOrders : ∃ t,
    PostgresClient.insertBatch orderTypes uuidOrders .empty = .ok () t ∧
    ∀ rowToOrder,
      (∀ o ∈ uuidOrders, PostgresClient.findByPrimaryKey orderTypes rowToOrder o.orderId t =
        (MonadExcept.ofExcept (rowToOrder (storedRow orderTypes o)) : PostgresM CppString _) t) ∧
      (∃ selected : List (Order Rat), selected.Perm uuidOrders ∧
        PostgresClient.findBySecondaryKey orderTypes ⟨List.reverse, List.reverse_perm⟩ rowToOrder
            (lit "c9bf9e57-1685-4c89-bafb-ff5af830be8a") t =
          ((selected.map (storedRow orderTypes)).mapM fun row =>
            MonadExcept.ofExcept (rowToOrder row) : PostgresM CppString _) t) ∧
      PostgresClient.findByPrimaryKey orderTypes rowToOrder (lit "a") t =
        .error (lit "invalid input syntax for type uuid") t := by
  obtain ⟨t, hpostgres⟩ := postgres_insertBatch_returns_iff.2 accepts_uuidOrders
  refine ⟨t, hpostgres, fun rowToOrder => ?_⟩
  obtain ⟨hstored, -, huser, hinvalid, -⟩ :=
    postgres_key_reads hpostgres ⟨List.reverse, List.reverse_perm⟩ rowToOrder
  have hboth : ordersOfUser orderTypes (cStr (lit "c9bf9e57-1685-4c89-bafb-ff5af830be8a"))
      uuidOrders = uuidOrders := by decide
  obtain ⟨selected, hselected, hrows⟩ := huser (lit "c9bf9e57-1685-4c89-bafb-ff5af830be8a") _ rfl
  rw [hboth] at hselected
  exact ⟨hstored, ⟨selected, hselected, hrows⟩, hinvalid (lit "a") _ rfl⟩

end Keys

end DbBenchmark
