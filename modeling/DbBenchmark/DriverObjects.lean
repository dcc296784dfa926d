import DbBenchmark.CassandraLifecycle
import DbBenchmark.ObjectLedger
import DbBenchmark.ReturnedFields

namespace DbBenchmark
open Ledger Ownership Throwing
set_option autoImplicit true

variable {Double : Type}

/-- What the client gets from the driver for the time of a call. -/
inductive DriverObject where
  | statement
  | future
  | result
  | iterator
deriving DecidableEq

abbrev DriverM (Double : Type) := LedgerM CppString (ClientState Double) DriverObject

namespace CassandraClient.Driver

/-- `check_future` throws before the future it is given is freed. -/
def execute (effect : CassandraTables Double → CassandraTables Double) (context : CppString) :
    DriverM Double Nat := do
  let stmt ← create .statement
  let f ← create .future
  let future ← lift (onCluster (cassSessionExecute effect))
  free stmt
  lift (onCluster (checkFuture future context))
  return f

def insertOne (o : Order Double) : DriverM Double Unit := do
  let f ← execute (·.insertById o) (lit "insert_one orders_by_id")
  free f
  let f ← execute (·.insertByUser o) (lit "insert_one orders_by_user")
  free f

def insertBatch (orders : List (Order Double)) : DriverM Double Unit := orders.forM insertOne

def deleteByPrimaryKey (orderId : CppString) : DriverM Double Unit := do
  let f ← execute (·.deleteById orderId) (lit "delete_by_primary_key")
  free f

def clearTable : DriverM Double Unit := do
  let f ← execute (·.truncateById) (lit "TRUNCATE benchmark.orders_by_id")
  free f
  let f ← execute (·.truncateByUser) (lit "TRUNCATE benchmark.orders_by_user")
  free f

def firstRow (orderId : CppString) : CassandraM Double (OrderObject Double) := do
  let c ← get
  match c.tables.ordersById.find? (some (cStr orderId)) with
  | some row => rowToOrder (selectedRow selectByIdStmt row)
  | none => return .defaultInit

def allRows (userId : CppString) : CassandraM Double (List (OrderObject Double)) := do
  let c ← get
  (c.tables.partition (cStr userId)).mapM (fun row => rowToOrder (selectedRow selectByUserStmt row))

def findByPrimaryKey (orderId : CppString) : DriverM Double (OrderObject Double) := do
  let f ← execute id (lit "find_by_primary_key")
  let result ← create .result
  free f
  let o ← lift (onCluster (firstRow orderId))
  free result
  return o

def findBySecondaryKey (userId : CppString) : DriverM Double (List (OrderObject Double)) := do
  let f ← execute id (lit "find_by_secondary_key")
  let result ← create .result
  free f
  let it ← create .iterator
  let orders ← lift (onCluster (allRows userId))
  free it
  free result
  return orders

def prepare (m : HandleMember) (query : String) : DriverM Double Unit := do
  let f ← create .future
  lift (onCluster (DbBenchmark.execute id (lit "prepare:: " ++ lit query)))
  free f
  lift (assignNew m)

def connect : DriverM Double Unit := do
  lift (assignNew .cluster)
  lift (assignNew .session)
  let connectFuture ← create .future
  lift (onCluster (DbBenchmark.execute id (lit "CassandraClient::connect")))
  free connectFuture
  preparedStatements.forM fun s => prepare s.1 s.2

def closeSession : DriverM Double Unit := do
  let s ← get
  if (s.state.handles.slots .session).isSome then
    let closeFuture ← create .future
    free closeFuture

def disconnect : DriverM Double Unit := do
  closeSession
  lift (freeMember .session)
  lift (freeMember .cluster)

def destroy : DriverM Double Unit := do
  disconnect
  lift (freeMember .insertByIdStmt)
  lift (freeMember .insertByUserStmt)
  lift (freeMember .selectByIdStmt)
  lift (freeMember .selectByUserStmt)
  lift (freeMember .deleteByIdStmt)

end CassandraClient.Driver

def CassandraOp.driverCall : CassandraOp Double → DriverM Double Unit
  | insertOne o => CassandraClient.Driver.insertOne o
  | insertBatch orders => CassandraClient.Driver.insertBatch orders
  | deleteByPrimaryKey orderId => CassandraClient.Driver.deleteByPrimaryKey orderId
  | clearTable => CassandraClient.Driver.clearTable

def ClientCall.driverCall : ClientCall Double → DriverM Double Unit
  | connect => CassandraClient.Driver.connect
  | disconnect => CassandraClient.Driver.disconnect
  | write op => op.driverCall
  | findByPrimaryKey orderId => do
    let _ ← CassandraClient.Driver.findByPrimaryKey orderId
  | findBySecondaryKey userId => do
    let _ ← CassandraClient.Driver.findBySecondaryKey userId

def driverAfter (cluster : Cluster Double) (calls : List (ClientCall Double)) :
    Ledgered (ClientState Double) DriverObject :=
  calls.foldl (fun s call => finalState call.driverCall s) (fresh ⟨cluster, .init⟩)

def driverDestroyed (cluster : Cluster Double) (calls : List (ClientCall Double)) :
    Ledgered (ClientState Double) DriverObject :=
  finalState CassandraClient.Driver.destroy (driverAfter cluster calls)

instance (c : Cluster Double) : Decidable c.NextFails :=
  match h : c.outcomes.head? with
  | some (some msg) => isTrue ⟨msg, h⟩
  | some none => isFalse fun hfails => by simp [Cluster.NextFails, h] at hfails
  | none => isFalse fun hfails => by simp [Cluster.NextFails, h] at hfails

/-- What a call leaves if it throws from this state: the future that `check_future` was given, or,
where the statement was executed, what `row_to_order` was reading from. -/
def ClientCall.leftBy (call : ClientCall Double) (c : ClientState Double) : List DriverObject :=
  match call with
  | findByPrimaryKey _ => if c.cluster.NextFails then [.future] else [.result]
  | findBySecondaryKey _ => if c.cluster.NextFails then [.future] else [.iterator, .result]
  | _ => [.future]

theorem onCluster_bind (m : CassandraM Double α) (f : α → CassandraM Double β) :
    onCluster (m >>= f) = onCluster m >>= fun a => onCluster (f a) := by
  funext c
  cases hr : m c.cluster with
  | ok a cluster =>
    have hm : onCluster m c = .ok a { c with cluster := cluster } := by rw [onCluster, hr]
    rw [bind_ok hm, onCluster, bind_ok hr]
    rfl
  | error e cluster =>
    have hm : onCluster m c = .error e { c with cluster := cluster } := by rw [onCluster, hr]
    rw [bind_error hm, onCluster, bind_error hr]

theorem onCluster_forM (m : β → CassandraM Double Unit) (xs : List β) :
    onCluster (xs.forM m) = xs.forM fun x => onCluster (m x) := by
  induction xs with
  | nil => rfl
  | cons x xs ih =>
    change onCluster (m x >>= fun _ => xs.forM m) =
      onCluster (m x) >>= fun _ => xs.forM fun x => onCluster (m x)
    rw [onCluster_bind, ih]

namespace CassandraClient.Driver

theorem erases_execute (effect : CassandraTables Double → CassandraTables Double)
    (context : CppString) : Erases (execute effect context)
      (onCluster (DbBenchmark.execute effect context)) fun _ => () := by
  rw [DbBenchmark.execute, onCluster_bind]
  apply (erases_create _).bind_silent
  intro stmt
  apply (erases_create _).bind_silent
  intro f
  apply (erases_lift _).bind
  intro future
  apply (erases_free stmt).bind_silent
  intro _
  apply (erases_lift _).bind_return
  intro _
  exact erases_pure f fun _ => ()

/-- A statement of which nothing but its effect is used. -/
theorem erases_executeOnly (effect : CassandraTables Double → CassandraTables Double)
    (context : CppString) : Erases (do
        let f ← execute effect context
        free f) (onCluster (DbBenchmark.execute effect context)) id := by
  apply (erases_execute effect context).bind_return
  intro f
  exact erases_free f

theorem erases_insertOne (o : Order Double) :
    Erases (insertOne o) (onCluster (CassandraClient.insertOne o)) id := by
  rw [CassandraClient.insertOne, onCluster_bind]
  apply (erases_execute _ _).bind
  intro f
  apply (erases_free f).bind_silent
  intro _
  exact erases_executeOnly _ _

theorem erases_insertBatch (orders : List (Order Double)) :
    Erases (insertBatch orders) (onCluster (CassandraClient.insertBatch orders)) id := by
  rw [CassandraClient.insertBatch, onCluster_forM]
  exact Erases.forM fun o _ => erases_insertOne o

theorem erases_clearTable :
    Erases clearTable (onCluster (CassandraClient.clearTable : CassandraM Double Unit)) id := by
  rw [CassandraClient.clearTable, onCluster_bind]
  apply (erases_execute _ _).bind
  intro f
  apply (erases_free f).bind_silent
  intro _
  exact erases_executeOnly _ _

theorem erases_findByPrimaryKey (orderId : CppString) :
    Erases (findByPrimaryKey orderId)
      (onCluster (CassandraClient.findByPrimaryKey orderId : CassandraM Double _)) id := by
  change Erases _ (onCluster (DbBenchmark.execute id (lit "find_by_primary_key") >>= fun _ =>
    firstRow orderId)) id
  rw [onCluster_bind]
  apply (erases_execute _ _).bind
  intro f
  apply (erases_create _).bind_silent
  intro result
  apply (erases_free f).bind_silent
  intro _
  apply (erases_lift _).bind_return
  intro o
  apply (erases_free result).bind_silent
  intro _
  exact erases_pure o id

theorem erases_findBySecondaryKey (userId : CppString) :
    Erases (findBySecondaryKey userId)
      (onCluster (CassandraClient.findBySecondaryKey userId : CassandraM Double _)) id := by
  change Erases _ (onCluster (DbBenchmark.execute id (lit "find_by_secondary_key") >>= fun _ =>
    allRows userId)) id
  rw [onCluster_bind]
  apply (erases_execute _ _).bind
  intro f
  apply (erases_create _).bind_silent
  intro result
  apply (erases_free f).bind_silent
  intro _
  apply (erases_create _).bind_silent
  intro it
  apply (erases_lift _).bind_return
  intro orders
  apply (erases_free it).bind_silent
  intro _
  apply (erases_free result).bind_silent
  intro _
  exact erases_pure orders id

theorem erases_connect : Erases connect (CassandraClient.connect : ClientM Double Unit) id := by
  have hprepare (s : HandleMember × String) :
      Erases (prepare s.1 s.2) (CassandraClient.prepare s.1 s.2 : ClientM Double Unit) id := by
    apply (erases_create _).bind_silent
    intro f
    apply (erases_lift _).bind
    intro _
    apply (erases_free f).bind_silent
    intro _
    exact erases_lift _
  apply (erases_lift _).bind
  intro _
  apply (erases_lift _).bind
  intro _
  apply (erases_create _).bind_silent
  intro connectFuture
  apply (erases_lift _).bind
  intro _
  apply (erases_free connectFuture).bind_silent
  intro _
  exact Erases.forM fun s _ => hprepare s

theorem erases_disconnect :
    Erases disconnect (CassandraClient.disconnect : ClientM Double Unit) id := by
  have hclose : Erases (closeSession : DriverM Double Unit) (pure ()) fun _ => () := by
    intro s
    have hget : (get : DriverM Double _) s = .ok s s := rfl
    rw [closeSession, bind_ok hget]
    split_ifs
    · rfl
    · rfl
  apply hclose.bind_silent
  intro _
  apply (erases_lift _).bind
  intro _
  exact erases_lift _

theorem erases_destroy :
    Erases destroy (CassandraClient.destroy : ClientM Double Unit) id := by
  apply erases_disconnect.bind
  intro _
  apply (erases_lift _).bind
  intro _
  apply (erases_lift _).bind
  intro _
  apply (erases_lift _).bind
  intro _
  apply (erases_lift _).bind
  intro _
  exact erases_lift _

end CassandraClient.Driver

/-- Without the objects a call is the one on the client alone. -/
theorem erases_driverCall (call : ClientCall Double) : Erases call.driverCall call.call id := by
  cases call with
  | connect => exact CassandraClient.Driver.erases_connect
  | disconnect => exact CassandraClient.Driver.erases_disconnect
  | write op =>
    cases op with
    | insertOne o => exact CassandraClient.Driver.erases_insertOne o
    | insertBatch orders => exact CassandraClient.Driver.erases_insertBatch orders
    | deleteByPrimaryKey orderId => exact CassandraClient.Driver.erases_executeOnly _ _
    | clearTable => exact CassandraClient.Driver.erases_clearTable
  | findByPrimaryKey orderId =>
    exact (CassandraClient.Driver.erases_findByPrimaryKey orderId).bind fun _ => erases_pure _ id
  | findBySecondaryKey userId =>
    exact (CassandraClient.Driver.erases_findBySecondaryKey userId).bind fun _ => erases_pure _ id

theorem onCluster_returns {m : CassandraM Double α} (h : ∀ s, ∃ a s', m s = .ok a s')
    (c : ClientState Double) : ∃ a c', onCluster m c = .ok a c' := by
  obtain ⟨a, cluster, hr⟩ := h c.cluster
  exact ⟨a, { c with cluster := cluster }, by rw [onCluster, hr]⟩

theorem cassSessionExecute_returns (effect : CassandraTables Double → CassandraTables Double)
    (c : Cluster Double) : ∃ a c', cassSessionExecute effect c = .ok a c' := by
  obtain ⟨tables, outcomes, readErrors, unset⟩ := c
  match outcomes with
  | [] => exact ⟨_, _, rfl⟩
  | none :: rest => exact ⟨_, _, rfl⟩
  | some msg :: rest => exact ⟨_, _, rfl⟩

namespace CassandraClient.Driver

/-- The statement is freed in any case, the future is left to the caller. -/
theorem execute_triple (effect : CassandraTables Double → CassandraTables Double)
    (context : CppString) (live : List (Nat × DriverObject)) :
    Triple (fun s => Holds live s.objects) (execute effect context)
      (fun f s => Holds ((f, .future) :: live) s.objects)
      fun _ s => HoldsMore [.future] live s.objects := by
  apply (create_triple .statement live).bind
  intro stmt
  apply (create_triple .future ((stmt, .statement) :: live)).bind
  intro f
  apply (Ledger.lift_triple (onCluster_returns (cassSessionExecute_returns effect))).bind
  intro future
  apply (free_second .statement .future live).bind
  intro _
  apply Triple.bind ((lift_keeps _).mono (fun _ h => h) (fun _ _ h => h)
    fun _ _ h => ⟨[(f, .future)], rfl, h⟩)
  intro _
  exact fun _ hs => hs

theorem leaks_executeOnly (effect : CassandraTables Double → CassandraTables Double)
    (context : CppString) : LeaksOnThrow (fun _ => [.future]) (do
        let f ← execute effect context
        free f) := by
  apply LeaksOnThrow.of_triple
  intro live
  apply (execute_triple effect context live).bind
  intro f
  exact free_triple .future live

theorem leaks_insertOne (o : Order Double) : LeaksOnThrow (fun _ => [.future]) (insertOne o) := by
  apply LeaksOnThrow.of_triple
  intro live
  apply (execute_triple _ _ live).bind
  intro f
  apply (free_triple .future live).bind
  intro _
  exact (leaks_executeOnly _ _).triple live

theorem leaks_clearTable :
    LeaksOnThrow (fun _ => [.future]) (clearTable : DriverM Double Unit) := by
  apply LeaksOnThrow.of_triple
  intro live
  apply (execute_triple _ _ live).bind
  intro f
  apply (free_triple .future live).bind
  intro _
  exact (leaks_executeOnly _ _).triple live

theorem execute_select (context : CppString) (live : List (Nat × DriverObject))
    (c : ClientState Double) (kinds : List DriverObject) :
    Triple (fun s => s.state = c ∧ Holds live s.objects) (execute id context)
      (fun f s => Holds ((f, .future) :: live) s.objects ∧ ¬ c.cluster.NextFails)
      fun _ s => HoldsMore (if c.cluster.NextFails then [.future] else kinds) live s.objects := by
  intro s hs
  obtain ⟨hstate, hholds⟩ := hs
  have herases := erases_execute id context s
  have htriple := execute_triple id context live s hholds
  rw [hstate, onCluster] at herases
  cases hr : execute id context s with
  | ok f s' =>
    rw [hr] at herases htriple
    refine ⟨htriple, ?_⟩
    rcases execute_id_cases context c.cluster with ⟨-, e, c', hfails⟩ | ⟨hnot, -⟩
    · simp only [hfails] at herases
      cases herases
    · exact hnot
  | error e s' =>
    rw [hr] at herases htriple
    rcases execute_id_cases context c.cluster with ⟨hfails, -⟩ | ⟨-, c', hreturns, -⟩
    · simp only [if_pos hfails]
      exact htriple
    · simp only [hreturns] at herases
      cases herases

theorem read_triple {α : Type} (m : CassandraM Double α) (objects live : List (Nat × DriverObject)) :
    Triple (fun s => Holds (objects ++ live) s.objects) (lift (onCluster m) : DriverM Double α)
      (fun _ s => Holds (objects ++ live) s.objects)
      fun _ s => HoldsMore (objects.map Prod.snd) live s.objects :=
  (lift_keeps _).mono (fun _ h => h) (fun _ _ h => h) fun _ _ h => ⟨objects, rfl, h⟩

theorem leaks_findByPrimaryKey (orderId : CppString) :
    LeaksOnThrow (ClientCall.findByPrimaryKey orderId).leftBy
      (findByPrimaryKey orderId : DriverM Double _) := by
  intro live c
  rw [ClientCall.leftBy]
  apply (execute_select _ live c _).bind
  intro f
  apply Triple.assuming
  intro hexecuted
  rw [if_neg hexecuted]
  apply (create_triple .result ((f, .future) :: live)).bind
  intro result
  apply (free_second .future .result live).bind
  intro _
  apply (read_triple (firstRow orderId) [(result, .result)] live).bind
  intro o
  apply (free_triple .result live).bind
  intro _
  exact Triple.skip

theorem leaks_findBySecondaryKey (userId : CppString) :
    LeaksOnThrow (ClientCall.findBySecondaryKey userId).leftBy
      (findBySecondaryKey userId : DriverM Double _) := by
  intro live c
  rw [ClientCall.leftBy]
  apply (execute_select _ live c _).bind
  intro f
  apply Triple.assuming
  intro hexecuted
  rw [if_neg hexecuted]
  apply (create_triple .result ((f, .future) :: live)).bind
  intro result
  apply (free_second .future .result live).bind
  intro _
  apply (create_triple .iterator ((result, .result) :: live)).bind
  intro it
  apply (read_triple (allRows userId) [(it, .iterator), (result, .result)] live).bind
  intro orders
  apply (free_triple .iterator ((result, .result) :: live)).bind
  intro _
  apply (free_triple .result live).bind
  intro _
  exact Triple.skip

theorem leaks_connect : LeaksOnThrow (fun _ => [.future]) (connect : DriverM Double Unit) := by
  have hassign (m : HandleMember) (c : ClientState Double) : ∃ a c', assignNew m c = .ok a c' :=
    ⟨_, _, rfl⟩
  have hprepare (s : HandleMember × String) :
      LeaksOnThrow (fun _ => [.future]) (prepare s.1 s.2 : DriverM Double Unit) := by
    apply LeaksOnThrow.of_triple
    intro live
    apply (create_triple .future live).bind
    intro f
    apply (read_triple _ [(f, .future)] live).bind
    intro _
    apply (free_triple .future live).bind
    intro _
    exact Ledger.lift_triple (hassign s.1)
  apply LeaksOnThrow.of_triple
  intro live
  apply (Ledger.lift_triple (hassign .cluster)).bind
  intro _
  apply (Ledger.lift_triple (hassign .session)).bind
  intro _
  apply (create_triple .future live).bind
  intro connectFuture
  apply (read_triple _ [(connectFuture, .future)] live).bind
  intro _
  apply (free_triple .future live).bind
  intro _
  exact (LeaksOnThrow.forM fun s _ => hprepare s).triple live

theorem free_member_triple (m : HandleMember) (live : List (Nat × DriverObject))
    {E : CppString → Ledgered (ClientState Double) DriverObject → Prop} :
    Triple (fun s => Holds live s.objects) (lift (freeMember m) : DriverM Double Unit)
      (fun _ s => Holds live s.objects) E :=
  Ledger.lift_triple fun _ => ⟨_, _, rfl⟩

theorem disconnect_triple (live : List (Nat × DriverObject))
    {E : CppString → Ledgered (ClientState Double) DriverObject → Prop} :
    Triple (fun s => Holds live s.objects) (disconnect : DriverM Double Unit)
      (fun _ s => Holds live s.objects) E := by
  have hclose : Triple (fun s => Holds live s.objects) (closeSession : DriverM Double Unit)
      (fun _ s => Holds live s.objects) E := by
    have hget : Triple (fun s => Holds live s.objects) (get : DriverM Double _)
        (fun _ s => Holds live s.objects) E := fun _ hs => hs
    apply hget.bind
    intro s
    split_ifs
    · apply (create_triple .future live).bind
      intro closeFuture
      exact free_triple .future live
    · exact Triple.skip
  apply hclose.bind
  intro _
  apply (free_member_triple .session live).bind
  intro _
  exact free_member_triple .cluster live

theorem destroy_triple (live : List (Nat × DriverObject))
    {E : CppString → Ledgered (ClientState Double) DriverObject → Prop} :
    Triple (fun s => Holds live s.objects) (destroy : DriverM Double Unit)
      (fun _ s => Holds live s.objects) E := by
  apply (disconnect_triple live).bind
  intro _
  apply (free_member_triple .insertByIdStmt live).bind
  intro _
  apply (free_member_triple .insertByUserStmt live).bind
  intro _
  apply (free_member_triple .selectByIdStmt live).bind
  intro _
  apply (free_member_triple .selectByUserStmt live).bind
  intro _
  exact free_member_triple .deleteByIdStmt live

end CassandraClient.Driver

theorem leaks_driverCall (call : ClientCall Double) :
    LeaksOnThrow call.leftBy call.driverCall := by
  cases call with
  | connect => exact CassandraClient.Driver.leaks_connect
  | disconnect =>
    exact LeaksOnThrow.of_triple fun live => CassandraClient.Driver.disconnect_triple live
  | write op =>
    cases op with
    | insertOne o => exact CassandraClient.Driver.leaks_insertOne o
    | insertBatch orders =>
      exact LeaksOnThrow.forM fun o _ => CassandraClient.Driver.leaks_insertOne o
    | deleteByPrimaryKey orderId => exact CassandraClient.Driver.leaks_executeOnly _ _
    | clearTable => exact CassandraClient.Driver.leaks_clearTable
  | findByPrimaryKey orderId =>
    exact (CassandraClient.Driver.leaks_findByPrimaryKey orderId).bind_pure _
  | findBySecondaryKey userId =>
    exact (CassandraClient.Driver.leaks_findBySecondaryKey userId).bind_pure _

/-- Whatever the calls and the failures: the client is the one without the objects, and what is left
is what each call that has thrown leaves, also when the client is gone. -/
theorem driver_objects (cluster : Cluster Double) (calls : List (ClientCall Double)) :
    ((driverAfter cluster calls).state = clientAfter cluster calls ∧
      Leaves (leftovers ClientCall.call ClientCall.leftBy ⟨cluster, .init⟩ calls)
        (driverAfter cluster calls).objects) ∧
    (driverDestroyed cluster calls).state = destroyed (clientAfter cluster calls) ∧
      Leaves (leftovers ClientCall.call ClientCall.leftBy ⟨cluster, .init⟩ calls)
        (driverDestroyed cluster calls).objects := by
  obtain ⟨hstate, leaked, hkinds, hholds⟩ :=
    holds_foldl erases_driverCall leaks_driverCall (s := fresh ⟨cluster, .init⟩) holds_nil calls
  rw [List.append_nil] at hholds
  have hdestroyed : Holds leaked (driverDestroyed cluster calls).objects :=
    (CassandraClient.Driver.destroy_triple leaked).finalState hholds
  have hfinal := CassandraClient.Driver.erases_destroy.finalState (driverAfter cluster calls)
  refine ⟨⟨hstate, hholds.leaves hkinds⟩, ?_, hdestroyed.leaves hkinds⟩
  rw [driverDestroyed, hfinal, driverAfter, hstate]
  rfl

end DbBenchmark
