import DbBenchmark.CassandraTables
import DbBenchmark.Ownership

namespace DbBenchmark
open Throwing Ownership
set_option autoImplicit true

variable {Double : Type}

/-- The members of a `CassandraClient` that hold a handle of the driver. -/
inductive HandleMember where
  | cluster
  | session
  | insertByIdStmt
  | insertByUserStmt
  | selectByIdStmt
  | selectByUserStmt
  | deleteByIdStmt
deriving DecidableEq

/-- A client with the handles it holds, and the cluster it talks to. -/
structure ClientState (Double : Type) where
  cluster : Cluster Double
  handles : Holder HandleMember

abbrev ClientM (Double : Type) := EStateM CppString (ClientState Double)

def onCluster (m : CassandraM Double α) : ClientM Double α := fun c =>
  match m c.cluster with
  | .ok a cluster => .ok a { c with cluster := cluster }
  | .error e cluster => .error e { c with cluster := cluster }

/-- `cass_cluster_new`, `cass_session_new` or `cass_future_get_prepared`, stored in a member. -/
def assignNew (m : HandleMember) : ClientM Double Unit :=
  modify fun c => { c with handles := c.handles.acquire m }

def freeMember (m : HandleMember) : ClientM Double Unit :=
  modify fun c => { c with handles := c.handles.release m }

namespace CassandraClient

def preparedStatements : List (HandleMember × String) :=
  [(.insertByIdStmt,
      "INSERT INTO benchmark.orders_by_id " ++
      "(order_id, user_id, product_id, status, amount, quantity, description, created_at, updated_at) " ++
      "VALUES (?, ?, ?, ?, ?, ?, ?, ?, ?)"),
   (.insertByUserStmt,
      "INSERT INTO benchmark.orders_by_user " ++
      "(user_id, created_at, order_id, product_id, status, amount, quantity, description) " ++
      "VALUES (?, ?, ?, ?, ?, ?, ?, ?)"),
   (.selectByIdStmt,
      "SELECT order_id, user_id, product_id, status, amount, quantity, description, created_at, " ++
      "updated_at FROM benchmark.orders_by_id WHERE order_id = ?"),
   (.selectByUserStmt,
      "SELECT user_id, created_at, order_id, product_id, status, amount, quantity, description " ++
      "FROM benchmark.orders_by_user WHERE user_id = ?"),
   (.deleteByIdStmt, "DELETE FROM benchmark.orders_by_id WHERE order_id = ?")]

def prepare (m : HandleMember) (query : String) : ClientM Double Unit := do
  onCluster (execute id (lit "prepare:: " ++ lit query))
  assignNew m

def connect : ClientM Double Unit := do
  assignNew .cluster
  assignNew .session
  onCluster (execute id (lit "CassandraClient::connect"))
  preparedStatements.forM fun s => prepare s.1 s.2

def disconnect : ClientM Double Unit := do
  freeMember .session
  freeMember .cluster

def destroy : ClientM Double Unit := do
  disconnect
  freeMember .insertByIdStmt
  freeMember .insertByUserStmt
  freeMember .selectByIdStmt
  freeMember .selectByUserStmt
  freeMember .deleteByIdStmt

end CassandraClient

inductive ClientCall (Double : Type) where
  | connect
  | disconnect
  | write (op : CassandraOp Double)
  | findByPrimaryKey (orderId : CppString)
  | findBySecondaryKey (userId : CppString)

def ClientCall.call : ClientCall Double → ClientM Double Unit
  | connect => CassandraClient.connect
  | disconnect => CassandraClient.disconnect
  | write op => onCluster op.call
  | findByPrimaryKey orderId => do
    let _ ← onCluster (CassandraClient.findByPrimaryKey orderId)
  | findBySecondaryKey userId => do
    let _ ← onCluster (CassandraClient.findBySecondaryKey userId)

/-- The client after a sequence of calls, any of which may have thrown. -/
def clientAfter (cluster : Cluster Double) (calls : List (ClientCall Double)) : ClientState Double :=
  calls.foldl (fun c call => finalState call.call c) ⟨cluster, .init⟩

def destroyed (c : ClientState Double) : ClientState Double :=
  finalState CassandraClient.destroy c

def assignedUntilFailure : List (Option CppString) → List HandleMember → List HandleMember
  | _, [] => []
  | some _ :: _, _ => []
  | none :: rest, m :: ms => m :: assignedUntilFailure rest ms
  | [], ms => ms

def assignedByConnect (outcomes : List (Option CppString)) : List HandleMember :=
  [.cluster, .session] ++ match outcomes with
    | some _ :: _ => []
    | none :: rest => assignedUntilFailure rest (CassandraClient.preparedStatements.map Prod.fst)
    | [] => CassandraClient.preparedStatements.map Prod.fst

theorem assignedUntilFailure_sublist (outcomes : List (Option CppString))
    (ms : List HandleMember) : (assignedUntilFailure outcomes ms).Sublist ms := by
  induction ms generalizing outcomes with
  | nil => simp [assignedUntilFailure]
  | cons m ms ih =>
    match outcomes with
    | [] => exact List.Sublist.refl _
    | some _ :: _ => exact List.nil_sublist _
    | none :: rest => exact (ih rest).cons_cons m

theorem nodup_assignedByConnect (outcomes : List (Option CppString)) :
    (assignedByConnect outcomes).Nodup := by
  have hall : ([.cluster, .session] ++
      CassandraClient.preparedStatements.map Prod.fst : List HandleMember).Nodup := by decide
  apply List.Sublist.nodup (List.Sublist.append_left ?_ _) hall
  match outcomes with
  | [] => exact List.Sublist.refl _
  | some _ :: _ => exact List.nil_sublist _
  | none :: rest => exact assignedUntilFailure_sublist rest _

theorem handles_onCluster (m : CassandraM Double α) (c : ClientState Double) :
    (finalState (onCluster m) c).handles = c.handles := by
  rw [finalState, onCluster]
  cases m c.cluster <;> rfl

theorem handles_discard (m : CassandraM Double α) (c : ClientState Double) :
    (finalState (do let _ ← onCluster m) c).handles = c.handles := by
  rw [← handles_onCluster m c, finalState, finalState]
  cases hr : onCluster m c with
  | ok a c' =>
    rw [bind_ok hr]
    rfl
  | error e c' => rw [bind_error hr]

theorem handles_prepareAll (stmts : List (HandleMember × String)) (c : ClientState Double) :
    (finalState (stmts.forM fun s => CassandraClient.prepare s.1 s.2) c).handles =
      (assignedUntilFailure c.cluster.outcomes (stmts.map Prod.fst)).foldl Holder.acquire
        c.handles := by
  induction stmts generalizing c with
  | nil =>
    obtain ⟨⟨tables, outcomes, readErrors, unset⟩, handles⟩ := c
    cases outcomes <;> rfl
  | cons s stmts ih =>
    obtain ⟨⟨tables, outcomes, readErrors, unset⟩, handles⟩ := c
    match outcomes with
    | some msg :: rest => rfl
    | none :: rest => exact ih ⟨⟨tables, rest, readErrors, unset⟩, handles.acquire s.1⟩
    | [] =>
      have hrest := ih ⟨⟨tables, [], readErrors, unset⟩, handles.acquire s.1⟩
      have hnil (ms : List HandleMember) : assignedUntilFailure [] ms = ms := by cases ms <;> rfl
      rw [hnil] at hrest ⊢
      exact hrest

theorem handles_connect (c : ClientState Double) :
    (finalState CassandraClient.connect c).handles =
      (assignedByConnect c.cluster.outcomes).foldl Holder.acquire c.handles := by
  obtain ⟨⟨tables, outcomes, readErrors, unset⟩, handles⟩ := c
  match outcomes with
  | some msg :: rest => rfl
  | none :: rest =>
    exact handles_prepareAll CassandraClient.preparedStatements
      ⟨⟨tables, rest, readErrors, unset⟩, (handles.acquire .cluster).acquire .session⟩
  | [] =>
    exact handles_prepareAll CassandraClient.preparedStatements
      ⟨⟨tables, [], readErrors, unset⟩, (handles.acquire .cluster).acquire .session⟩

theorem handles_disconnect (c : ClientState Double) :
    (finalState CassandraClient.disconnect c).handles =
      [.session, .cluster].foldl Holder.release c.handles := rfl

theorem handles_destroyed (c : ClientState Double) :
    (destroyed c).handles =
      [.session, .cluster, .insertByIdStmt, .insertByUserStmt, .selectByIdStmt, .selectByUserStmt,
        .deleteByIdStmt].foldl Holder.release c.handles := rfl

/-- A call that assigns no member which still holds a handle. -/
def Displaces (call : ClientCall Double) (c : ClientState Double) : Prop :=
  match call with
  | .connect => ∃ m ∈ assignedByConnect c.cluster.outcomes, c.handles.slots m ≠ none
  | _ => False

theorem owned_call_iff (call : ClientCall Double) (c : ClientState Double) :
    (finalState call.call c).handles.Owned ↔ c.handles.Owned ∧ ¬ Displaces call c := by
  cases call with
  | connect =>
    rw [ClientCall.call, handles_connect, Holder.owned_acquireAll_iff (nodup_assignedByConnect _)]
    simp only [Displaces, not_exists, not_and, not_not]
  | disconnect =>
    rw [ClientCall.call, handles_disconnect, Holder.owned_releaseAll_iff]
    exact (and_iff_left not_false).symm
  | write op =>
    rw [ClientCall.call, handles_onCluster]
    exact (and_iff_left not_false).symm
  | findByPrimaryKey orderId =>
    rw [ClientCall.call, handles_discard]
    exact (and_iff_left not_false).symm
  | findBySecondaryKey userId =>
    rw [ClientCall.call, handles_discard]
    exact (and_iff_left not_false).symm

def NoneDisplaced (cluster : Cluster Double) (calls : List (ClientCall Double)) : Prop :=
  ∀ done call, done ++ [call] <+: calls → ¬ Displaces call (clientAfter cluster done)

theorem clientAfter_concat (cluster : Cluster Double) (calls : List (ClientCall Double))
    (call : ClientCall Double) :
    clientAfter cluster (calls ++ [call]) = finalState call.call (clientAfter cluster calls) := by
  rw [clientAfter, List.foldl_append]
  rfl

theorem noneDisplaced_concat_iff {cluster : Cluster Double} {calls : List (ClientCall Double)}
    {call : ClientCall Double} : NoneDisplaced cluster (calls ++ [call]) ↔
      NoneDisplaced cluster calls ∧ ¬ Displaces call (clientAfter cluster calls) := by
  constructor
  · intro h
    constructor
    · intro done last hinit
      exact h done last (hinit.trans (List.prefix_append _ _))
    · exact h calls call List.prefix_rfl
  · intro h done last hinit
    rcases List.prefix_concat_iff.1 hinit with heq | hinit
    · obtain ⟨rfl, hlast⟩ := List.append_inj' heq rfl
      cases hlast
      exact h.2
    · exact h.1 done last hinit

theorem owned_clientAfter_iff (cluster : Cluster Double) (calls : List (ClientCall Double)) :
    (clientAfter cluster calls).handles.Owned ↔ NoneDisplaced cluster calls := by
  induction calls using List.reverseRecOn with
  | nil =>
    apply iff_of_true Holder.owned_init
    intro done call hinit
    exact absurd (List.prefix_nil.1 hinit) (List.concat_ne_nil _ _)
  | append_singleton calls call ih =>
    rw [clientAfter_concat, owned_call_iff, ih, noneDisplaced_concat_iff]

theorem freedOnce_destroyed_iff (c : ClientState Double) :
    (destroyed c).handles.FreedOnce ↔ c.handles.Owned := by
  have hclear (m : HandleMember) : (destroyed c).handles.slots m = none := by
    rw [handles_destroyed]
    apply Holder.slots_releaseAll
    cases m <;> simp
  rw [Holder.freedOnce_iff_owned hclear, handles_destroyed, Holder.owned_releaseAll_iff]

/-- Every handle is freed once, and in every state on the way the live handles are those the members
hold, exactly if no `connect` assigns a member that still holds one. -/
theorem releasesAll_iff (cluster : Cluster Double) (calls : List (ClientCall Double)) :
    ((destroyed (clientAfter cluster calls)).handles.FreedOnce ↔ NoneDisplaced cluster calls) ∧
      ((∀ done, done <+: calls → (clientAfter cluster done).handles.Owned) ↔
        NoneDisplaced cluster calls) := by
  constructor
  · rw [freedOnce_destroyed_iff, owned_clientAfter_iff]
  · constructor
    · intro h
      rw [← owned_clientAfter_iff]
      exact h calls List.prefix_rfl
    · intro h done hinit
      rw [owned_clientAfter_iff]
      intro first call hfirst
      exact h first call (hfirst.trans hinit)

/-- A client that is connected, and connected again without `disconnect` as the cold read does. -/
theorem reconnect_leaks :
    ¬ (destroyed (clientAfter (.healthy (.empty : CassandraTables Rat))
        [.connect, .connect])).handles.FreedOnce ∧
      ¬ (clientAfter (.healthy (.empty : CassandraTables Rat))
        [.connect, .connect]).handles.Owned := by
  have hleak : ¬ (clientAfter (.healthy (.empty : CassandraTables Rat))
      [.connect, .connect]).handles.Owned := by
    rw [owned_clientAfter_iff]
    intro h
    apply h [.connect] .connect List.prefix_rfl
    exact ⟨.session, by decide, by decide⟩
  exact ⟨fun h => hleak ((freedOnce_destroyed_iff _).1 h), hleak⟩

end DbBenchmark
