import DbBenchmark.BatchInserts
import DbBenchmark.PartialFailure

namespace DbBenchmark
open Keyed Throwing
set_option autoImplicit true

variable {Double Value : Type}

/-- An attempt in which the connection is lost: it throws, and `reached` is what has become of the
database, whose replies are lost as well. -/
def broken (reached : σ → σ) : EStateM CppString σ Unit := fun s =>
  .error (lit "connection lost") (reached s)

def CassandraClient.statements (orders : List (Order Double)) :
    List (CassandraTables Double → CassandraTables Double) :=
  orders.flatMap fun o => [(·.insertById o), (·.insertByUser o)]

/-- An attempt at a batch, with a connection that is lost behind so many statements or with none. -/
def CassandraClient.attempt (orders : List (Order Double)) :
    Option Nat → CassandraM Double Unit
  | none => insertBatch orders
  | some n => broken fun c =>
    { c with tables := ((statements orders).take n).foldl (fun t write => write t) c.tables }

/-- Here the connection is lost when the server has got to so many documents. -/
def MongoClient.attempt (orders : List (Order Double)) : Option Nat → MongoM Double Unit
  | none => insertBatch orders
  | some n => broken (finalState ((orders.take n).forM insertOne))

/-- Here the connection is lost before the commit, or in it: then it may have been carried out. -/
def PostgresClient.attempt [DecidableEq Value] (types : PostgresTypes Double Value)
    (orders : List (Order Double)) : Option Bool → PostgresM Value Unit
  | none => insertBatch types orders
  | some committed => broken fun t =>
    if committed then finalState (insertBatch types orders) t else t

def afterAttempts (attempt : ι → EStateM CppString σ Unit) (attempts : List ι) (s : σ) : σ :=
  attempts.foldl (fun s i => finalState (attempt i) s) s

theorem afterAttempts_concat (attempt : ι → EStateM CppString σ Unit) (attempts : List ι) (i : ι)
    (s : σ) : afterAttempts attempt (attempts ++ [i]) s =
      finalState (attempt i) (afterAttempts attempt attempts s) :=
  List.foldl_concat ..

def Settled (attempt : ι → EStateM CppString σ Unit) (s : σ) : Prop :=
  ∀ i, ∃ e, attempt i s = .error e s

/-- Where each attempt stores nothing or settles the matter, attempts one after another do. -/
theorem afterAttempts_cases {attempt : ι → EStateM CppString σ Unit} {Stored : σ → Prop}
    (hfirst : ∀ i, finalState (attempt i) s = s ∨ Stored (finalState (attempt i) s))
    (hsettled : ∀ s', Stored s' → Settled attempt s') (attempts : List ι) :
    afterAttempts attempt attempts s = s ∨ Stored (afterAttempts attempt attempts s) := by
  induction attempts using List.reverseRecOn with
  | nil => exact .inl rfl
  | append_singleton attempts i ih =>
    rw [afterAttempts_concat]
    rcases ih with hnothing | hstored
    · rw [hnothing]
      exact hfirst i
    · obtain ⟨e, hi⟩ := hsettled _ hstored i
      have hsame : finalState (attempt i) (afterAttempts attempt attempts s) =
          afterAttempts attempt attempts s := by
        rw [finalState, hi]
      rw [hsame]
      exact .inr hstored

/-- The tables have grown by rows of these orders, some of them written more than once. -/
def CassandraTables.Ahead (orders : List (Order Double)) (t t' : CassandraTables Double) : Prop :=
  (∃ os, os ⊆ orders ∧
    t'.ordersById = os.foldl (fun u o => u.upsert (rowById o)) t.ordersById) ∧
  ∃ os, os ⊆ orders ∧
    t'.ordersByUser = os.foldl (fun u o => u.upsert (rowByUser o)) t.ordersByUser

theorem ahead_refl (orders : List (Order Double)) (t : CassandraTables Double) : t.Ahead orders t :=
  ⟨⟨[], List.nil_subset _, rfl⟩, [], List.nil_subset _, rfl⟩

theorem ahead_insertById {orders : List (Order Double)} {t t' : CassandraTables Double}
    (h : t.Ahead orders t') (ho : o ∈ orders) : t.Ahead orders (t'.insertById o) := by
  obtain ⟨⟨os, hos, hrows⟩, huser⟩ := h
  refine ⟨⟨os ++ [o], List.append_subset.2 ⟨hos, by simpa using ho⟩, ?_⟩, huser⟩
  rw [List.foldl_append, ← hrows]
  rfl

theorem ahead_insertByUser {orders : List (Order Double)} {t t' : CassandraTables Double}
    (h : t.Ahead orders t') (ho : o ∈ orders) : t.Ahead orders (t'.insertByUser o) := by
  obtain ⟨hid, os, hos, hrows⟩ := h
  refine ⟨hid, os ++ [o], List.append_subset.2 ⟨hos, by simpa using ho⟩, ?_⟩
  rw [List.foldl_append, ← hrows]
  rfl

theorem ahead_statements {orders os : List (Order Double)} {t t' : CassandraTables Double}
    (h : t.Ahead orders t') (hos : os ⊆ orders) (n : Nat) :
    t.Ahead orders
      (((CassandraClient.statements os).take n).foldl (fun t write => write t) t') := by
  have hwrite : ∀ write ∈ CassandraClient.statements os, ∀ t', t.Ahead orders t' →
      t.Ahead orders (write t') := by
    intro write hmem t' h
    obtain ⟨o, ho, hmem⟩ := List.mem_flatMap.1 hmem
    rcases List.mem_pair.1 hmem with rfl | rfl
    · exact ahead_insertById h (hos ho)
    · exact ahead_insertByUser h (hos ho)
  exact List.foldlRecOn _ _ h fun t' h write hmem => hwrite write (List.mem_of_mem_take hmem) t' h

theorem attempt_keeps_ahead (orders : List (Order Double)) (t : CassandraTables Double)
    (i : Option Nat) :
    Keeps (fun c : Cluster Double => t.Ahead orders c.tables)
      (CassandraClient.attempt orders i) := by
  cases i with
  | none =>
    apply Keeps.forM
    intro o ho
    apply (execute_keeps _ fun _ h => ahead_insertById h ho).bind
    intro _
    exact execute_keeps _ fun _ h => ahead_insertByUser h ho
  | some n => exact fun c h => ahead_statements h (List.Subset.refl orders) n

theorem ahead_afterAttempts (orders : List (Order Double)) (attempts : List (Option Nat))
    (c : Cluster Double) : c.tables.Ahead orders
      (afterAttempts (CassandraClient.attempt orders) attempts c).tables :=
  Keeps.foldl (fun i _ => attempt_keeps_ahead orders c.tables i) (ahead_refl orders c.tables)

theorem insert_again {orders : List (Order Double)} {t t' : CassandraTables Double}
    (h : t.Ahead orders t') : orders.foldl .insert t' = orders.foldl .insert t := by
  obtain ⟨⟨os, hos, hid⟩, us, hus, huser⟩ := h
  have hById : (orders.foldl .insert t').ordersById = (orders.foldl .insert t).ordersById := by
    rw [ordersById_foldl_insert, ordersById_foldl_insert, hid]
    exact Table.foldl_upsert_again _ _ hos
  have hByUser : (orders.foldl .insert t').ordersByUser =
      (orders.foldl .insert t).ordersByUser := by
    rw [ordersByUser_foldl_insert, ordersByUser_foldl_insert, huser]
    exact Table.foldl_upsert_again _ _ hus
  cases horders : orders.foldl .insert t'
  cases horders' : orders.foldl .insert t
  rw [horders, horders'] at hById hByUser
  exact congrArg₂ CassandraTables.mk hById hByUser

theorem insertOne_inserts (o : Order Double) (t : CassandraTables Double) :
    Triple (fun c => c.tables = t) (CassandraClient.insertOne o)
      (fun _ c => c.tables = t.insert o) (fun _ _ => True) := by
  have hById := execute_triple (P := fun t' => t' = t) (Q := fun t' => t' = t.insertById o)
    (·.insertById o) (lit "insert_one orders_by_id") fun t' h => congrArg (·.insertById o) h
  have hByUser := execute_triple (P := fun t' => t' = t.insertById o)
    (Q := fun t' => t' = t.insert o) (·.insertByUser o) (lit "insert_one orders_by_user")
    fun t' h => congrArg (·.insertByUser o) h
  apply (hById.mono (fun _ h => h) (fun _ _ h => h) (fun _ _ _ => trivial)).bind
  intro _
  exact hByUser.mono (fun _ h => h) (fun _ _ h => h) (fun _ _ _ => trivial)

theorem tables_of_insertBatch {orders : List (Order Double)} {c c' : Cluster Double}
    (h : CassandraClient.insertBatch orders c = .ok () c') :
    c'.tables = orders.foldl .insert c.tables := by
  induction orders generalizing c with
  | nil =>
    cases h
    rfl
  | cons o orders ih =>
    obtain ⟨c₁, ho, hrest⟩ := forM_cons_eq_ok_iff.1 h
    rw [List.foldl_cons, ← (insertOne_inserts o c.tables).of_ok rfl ho]
    exact ih hrest

def MongoClient.PartStored (orders : List (Order Double)) (c c' : Collection Double) : Prop :=
  ∃ stored, stored ≠ [] ∧ stored <+: orders ∧ c'.rows = c.rows ++ stored.map orderToBson

theorem mongo_part_stored {orders orders' : List (Order Double)} (hbegins : orders' <+: orders)
    (c : Collection Double) :
    finalState (orders'.forM MongoClient.insertOne) c = c ∨
      MongoClient.PartStored orders c (finalState (orders'.forM MongoClient.insertOne) c) := by
  rw [forM_insertOne_eq]
  obtain ⟨docs, hdocs, hrows⟩ := Table.rows_finalState_forM_insertNew
    (lit "E11000 duplicate key error") (orders'.map MongoClient.orderToBson) c
  obtain ⟨stored, hstored, rfl⟩ := List.prefix_map_iff.1 hdocs
  by_cases hnil : stored = []
  · subst hnil
    rw [List.map_nil, List.append_nil] at hrows
    exact .inl (Table.eq_of_rows hrows)
  · exact .inr ⟨stored, hnil, hstored.trans hbegins, hrows⟩

theorem mongo_attempt_first (orders : List (Order Double)) (c : Collection Double)
    (i : Option Nat) : finalState (MongoClient.attempt orders i) c = c ∨
      MongoClient.PartStored orders c (finalState (MongoClient.attempt orders i) c) := by
  cases i with
  | some n => exact mongo_part_stored (List.take_prefix n orders) c
  | none =>
    by_cases hnil : orders = []
    · subst hnil
      exact .inl rfl
    · rw [MongoClient.attempt, mongo_batch_eq hnil]
      exact mongo_part_stored List.prefix_rfl c

/-- The key of the first order is taken then. -/
theorem mongo_settled {orders : List (Order Double)} {c c' : Collection Double}
    (h : MongoClient.PartStored orders c c') : Settled (MongoClient.attempt orders) c' := by
  obtain ⟨stored, hnil, hbegins, hrows⟩ := h
  obtain ⟨o, rest, rfl⟩ := List.exists_cons_of_ne_nil hnil
  obtain ⟨rest', rfl⟩ := hbegins
  have htaken : c'.find? (documentId (MongoClient.orderToBson o)) ≠ none := by
    intro hnone
    refine Table.find?_eq_none.1 hnone (MongoClient.orderToBson o) ?_ rfl
    rw [hrows]
    simp
  have hstop (os : List (Order Double)) : (o :: os).forM MongoClient.insertOne c' =
      .error (lit "E11000 duplicate key error") c' := by
    rw [forM_insertOne_eq]
    exact bind_error (Table.insertNew_taken htaken)
  intro i
  match i with
  | none =>
    refine ⟨lit "E11000 duplicate key error", ?_⟩
    rw [MongoClient.attempt, mongo_batch_eq (List.append_ne_nil_of_left_ne_nil hnil _)]
    exact hstop _
  | some 0 => exact ⟨_, rfl⟩
  | some (n + 1) =>
    refine ⟨lit "connection lost", congrArg (EStateM.Result.error _) ?_⟩
    rw [finalState, List.cons_append, List.take_succ_cons, hstop]

section Postgres

variable [DecidableEq Value] {types : PostgresTypes Double Value} {orders : List (Order Double)}
  {t t' : Table (@postgresKey Value)}

theorem postgres_attempts_nil (attempts : List (Option Bool)) (t : Table (@postgresKey Value)) :
    afterAttempts (PostgresClient.attempt types ([] : List (Order Double))) attempts t = t := by
  have hattempt (i : Option Bool) :
      finalState (PostgresClient.attempt types ([] : List (Order Double)) i) t = t := by
    cases i with
    | none => rfl
    | some committed => cases committed <;> rfl
  exact List.foldl_fixed' hattempt attempts

theorem postgres_batch_error (h : PostgresClient.insertBatch types orders t = .error e t') :
    t' = t := by
  rw [PostgresClient.insertBatch, transaction] at h
  split at h
  · cases h
  · cases h
    rfl

theorem postgres_attempt_first (t : Table (@postgresKey Value))
    (i : Option Bool) : finalState (PostgresClient.attempt types orders i) t = t ∨
      PostgresClient.insertBatch types orders t =
        .ok () (finalState (PostgresClient.attempt types orders i) t) := by
  have hbatch : finalState (PostgresClient.insertBatch types orders) t = t ∨
      PostgresClient.insertBatch types orders t =
        .ok () (finalState (PostgresClient.insertBatch types orders) t) := by
    rw [finalState]
    cases hr : PostgresClient.insertBatch types orders t with
    | ok u t' => exact .inr rfl
    | error e t' => exact .inl (postgres_batch_error hr)
  cases i with
  | none => exact hbatch
  | some committed =>
    cases committed with
    | true => exact hbatch
    | false => exact .inl rfl

theorem postgres_settled (hnil : orders ≠ [])
    (h : PostgresClient.insertBatch types orders t = .ok () t') :
    Settled (PostgresClient.attempt types orders) t' := by
  have hagain : ∃ e, PostgresClient.insertBatch types orders t' = .error e t' := by
    cases hr : PostgresClient.insertBatch types orders t' with
    | error e t'' =>
      rw [postgres_batch_error hr]
      exact ⟨e, rfl⟩
    | ok u t'' =>
      obtain ⟨rows, hrows, -, hfree⟩ := postgres_insertBatch_returns_iff.1 ⟨t'', hr⟩
      rw [PostgresClient.insertBatch, transaction_eq_ok_iff, forM_streamOrder_eq_ok_iff] at h
      obtain ⟨rows', hrows', hstored⟩ := h
      -- the row of the first order is in the table
      obtain ⟨o, orders, rfl⟩ := List.exists_cons_of_ne_nil hnil
      obtain ⟨row, rows, hrow, -, rfl⟩ := List.forall₂_cons_left_iff.1 hrows
      obtain ⟨row', rows', hrow', -, rfl⟩ := List.forall₂_cons_left_iff.1 hrows'
      obtain rfl : row' = row := Except.ok.inj (hrow'.symm.trans hrow)
      refine absurd rfl (Table.find?_eq_none.1 (hfree row' List.mem_cons_self) row' ?_)
      rw [Table.rows_of_forM_insertNew hstored]
      simp
  obtain ⟨e, he⟩ := hagain
  intro i
  cases i with
  | none => exact ⟨e, he⟩
  | some committed =>
    cases committed with
    | true =>
      refine ⟨lit "connection lost", congrArg (EStateM.Result.error _) ?_⟩
      change finalState (PostgresClient.insertBatch types orders) t' = t'
      rw [finalState, he]
    | false => exact ⟨_, rfl⟩

end Postgres

/-- A batch can be tried again on Cassandra however often: once an attempt returns, the tables are
those of a single run. On MongoDB and Postgres attempts have stored nothing so far, or a first part
of the batch there and the whole of it here, and no further attempt returns or changes anything. -/
theorem retried_batches [DecidableEq Value] (types : PostgresTypes Double Value)
    (orders : List (Order Double)) :
    (∀ attempts (c c' : Cluster Double), CassandraClient.insertBatch orders
        (afterAttempts (CassandraClient.attempt orders) attempts c) = .ok () c' →
      c'.tables = orders.foldl .insert c.tables) ∧
    (∀ attempts (c : Collection Double),
      afterAttempts (MongoClient.attempt orders) attempts c = c ∨
      MongoClient.PartStored orders c (afterAttempts (MongoClient.attempt orders) attempts c) ∧
        Settled (MongoClient.attempt orders)
          (afterAttempts (MongoClient.attempt orders) attempts c)) ∧
    ∀ attempts (t : Table (@postgresKey Value)),
      afterAttempts (PostgresClient.attempt types orders) attempts t = t ∨
      PostgresClient.insertBatch types orders t =
          .ok () (afterAttempts (PostgresClient.attempt types orders) attempts t) ∧
        Settled (PostgresClient.attempt types orders)
          (afterAttempts (PostgresClient.attempt types orders) attempts t) := by
  refine ⟨?_, ?_, ?_⟩
  · intro attempts c c' h
    rw [tables_of_insertBatch h]
    exact insert_again (ahead_afterAttempts orders attempts c)
  · intro attempts c
    apply (afterAttempts_cases (mongo_attempt_first orders c) (fun _ => mongo_settled)
      attempts).imp_right
    exact fun h => ⟨h, mongo_settled h⟩
  · intro attempts t
    by_cases hnil : orders = []
    · subst hnil
      exact .inl (postgres_attempts_nil attempts t)
    · apply (afterAttempts_cases (postgres_attempt_first t) (fun _ => postgres_settled hnil)
        attempts).imp_right
      exact fun h => ⟨h, postgres_settled hnil h⟩

def interruptedCluster : Cluster Rat :=
  { Cluster.healthy .empty with outcomes := [none, none, none, some (lit "timeout")] }

theorem retried_batches_uuidOrders :
    (∃ c', CassandraClient.insertBatch uuidOrders (afterAttempts
        (CassandraClient.attempt uuidOrders) [none, some 3] interruptedCluster) = .ok () c' ∧
      c'.tables = uuidOrders.foldl .insert interruptedCluster.tables) ∧
    (afterAttempts (MongoClient.attempt uuidOrders) [some 1, none] .empty = .empty ∨
      MongoClient.PartStored uuidOrders .empty
          (afterAttempts (MongoClient.attempt uuidOrders) [some 1, none] .empty) ∧
        Settled (MongoClient.attempt uuidOrders)
          (afterAttempts (MongoClient.attempt uuidOrders) [some 1, none] .empty)) ∧
    (afterAttempts (PostgresClient.attempt orderTypes uuidOrders) [some false, none] .empty =
        .empty ∨
      PostgresClient.insertBatch orderTypes uuidOrders .empty =
          .ok () (afterAttempts (PostgresClient.attempt orderTypes uuidOrders) [some false, none]
            .empty) ∧
        Settled (PostgresClient.attempt orderTypes uuidOrders)
          (afterAttempts (PostgresClient.attempt orderTypes uuidOrders) [some false, none]
            .empty)) := by
  obtain ⟨hcassandra, hmongo, hpostgres⟩ := retried_batches orderTypes uuidOrders
  obtain ⟨c', hc⟩ : ∃ c', CassandraClient.insertBatch uuidOrders (afterAttempts
      (CassandraClient.attempt uuidOrders) [none, some 3] interruptedCluster) = .ok () c' :=
    ⟨_, rfl⟩
  exact ⟨⟨c', hc, hcassandra _ _ c' hc⟩, hmongo _ _, hpostgres _ _⟩

end DbBenchmark
