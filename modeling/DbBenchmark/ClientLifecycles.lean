import DbBenchmark.ConfigLoader
import DbBenchmark.CsvWriter
import DbBenchmark.Ownership
import DbBenchmark.Throwing

namespace DbBenchmark
open Ownership Throwing
set_option autoImplicit true

/-- What becomes of `make_unique<pqxx::connection>`; only `broken_connection` is caught. -/
inductive Opening where
  | opens
  | brokenConnection (what : CppString)
  | fails (what : CppString)

/-- The member `conn_`: the libpq connection that it owns, whether it points to a connection object,
what `is_open` says, and the names prepared on the connection. -/
structure PostgresHandles where
  conns : Holder Unit
  present : Bool
  isOpen : Bool
  prepared : List String

abbrev PostgresHandlesM := EStateM CppString PostgresHandles

namespace PostgresClient

def preparedStatements : List (String × String) :=
  [("insert_order",
      "INSERT INTO orders " ++
      "(order_id, user_id, product_id, status, amount, " ++
      " quantity, description, created_at, updated_at) " ++
      "VALUES ($1, $2, $3, $4, $5, $6, $7, $8, $9)"),
   ("find_by_pk",
      "SELECT order_id, user_id, product_id, status, amount, " ++
      " quantity, description, created_at, updated_at " ++
      "FROM orders WHERE order_id = $1"),
   ("find_by_user",
      "SELECT order_id, user_id, product_id, status, amount, " ++
      " quantity, description, created_at, updated_at " ++
      "FROM orders WHERE user_id = $1"),
   ("find_by_range",
      "SELECT order_id, user_id, product_id, status, amount, " ++
      " quantity, description, created_at, updated_at " ++
      " FROM orders WHERE created_at>= $1 AND created_at <=$2 " ++
      "ORDER BY created_at")]

def prepare (refusal : String × String → Option CppString) (s : String × String) :
    PostgresHandlesM Unit := do
  attempt (refusal s)
  modify fun c => { c with prepared := c.prepared ++ [s.1] }

def prepareStatements (refusal : String × String → Option CppString) : PostgresHandlesM Unit :=
  preparedStatements.forM (prepare refusal)

def connectionString (config : DatabaseConfig) : CppString :=
  lit "host=" ++ config.host ++
  lit " port=" ++ decimal config.port.toNat ++
  lit " dbname=" ++ config.databaseName ++
  lit " user=" ++ config.username ++
  lit " password=" ++ config.password ++
  lit " connect_timeout=10"

def connect (config : DatabaseConfig) (opening : CppString → Opening)
    (refusal : String × String → Option CppString) : PostgresHandlesM Unit := do
  match opening (connectionString config) with
  | .opens =>
    modify fun c => { conns := c.conns.replace (), present := true, isOpen := true, prepared := [] }
  | .brokenConnection what => throw (lit "Postgres connection failed. Error " ++ what)
  | .fails what => throw what
  prepareStatements refusal

def close : PostgresHandlesM Unit :=
  modify fun c => { c with conns := c.conns.release (), isOpen := false, prepared := [] }

def disconnect : PostgresHandlesM Unit := do
  let c ← get
  if c.present && c.isOpen then close

def destroy : PostgresHandlesM Unit := do
  let c ← get
  if c.present && c.isOpen then close
  modify fun c => { c with conns := c.conns.release (), present := false, isOpen := false }

end PostgresClient

/-- A data call touches the connection only where the server drops it. -/
inductive PostgresCall where
  | connect (opening : CppString → Opening) (refusal : String × String → Option CppString)
  | disconnect
  | data (dropped : Bool)

def PostgresCall.call (config : DatabaseConfig) : PostgresCall → PostgresHandlesM Unit
  | connect opening refusal => PostgresClient.connect config opening refusal
  | disconnect => PostgresClient.disconnect
  | data dropped => modify fun c => { c with isOpen := c.isOpen && !dropped }

namespace PostgresHandles

def init : PostgresHandles := ⟨.init, false, false, []⟩

def after (config : DatabaseConfig) (calls : List PostgresCall) : PostgresHandles :=
  calls.foldl (fun c call => finalState (call.call config) c) init

def destroyed (c : PostgresHandles) : PostgresHandles := finalState PostgresClient.destroy c

/-- Every statement can be executed on an open connection. -/
def Ready (c : PostgresHandles) : Prop :=
  c.present ∧ c.isOpen ∧ c.prepared = PostgresClient.preparedStatements.map Prod.fst

end PostgresHandles

/-- The member `client_`, and the client that `db_` and `orders_` were taken from. -/
structure MongoHandles where
  clients : Holder Unit
  orders : Option Nat

abbrev MongoHandlesM := EStateM CppString MongoHandles

namespace MongoClient

def connectionUri (config : DatabaseConfig) : CppString :=
  lit "mongodb://" ++ config.username ++ lit ":" ++ config.password ++
  lit "@" ++ config.host ++ lit ":" ++ decimal config.port.toNat ++
  lit "/" ++ config.databaseName ++ lit "?authSource=admin"

/-- `refusal` is what the URI or the client throws, and `naming` what naming the database does. -/
def connect (config : DatabaseConfig) (refusal : CppString → Option CppString)
    (naming : Option CppString) : MongoHandlesM Unit := do
  match refusal (connectionUri config) with
  | some what => throw (lit "Mongo connection failed: " ++ what)
  | none => modify fun c => { c with clients := c.clients.replace () }
  attempt naming
  modify fun c => { c with orders := c.clients.slots () }

def disconnect : MongoHandlesM Unit := modify fun c => { c with clients := c.clients.release () }

def destroy : MongoHandlesM Unit := modify fun c => { c with clients := c.clients.release () }

end MongoClient

inductive MongoCall where
  | connect (refusal : CppString → Option CppString) (naming : Option CppString)
  | disconnect
  | data

def MongoCall.call (config : DatabaseConfig) : MongoCall → MongoHandlesM Unit
  | connect refusal naming => MongoClient.connect config refusal naming
  | disconnect => MongoClient.disconnect
  | data => pure ()

namespace MongoHandles

def init : MongoHandles := ⟨.init, none⟩

def after (config : DatabaseConfig) (calls : List MongoCall) : MongoHandles :=
  calls.foldl (fun c call => finalState (call.call config) c) init

def destroyed (c : MongoHandles) : MongoHandles := finalState MongoClient.destroy c

/-- The collection belongs to a client that exists. -/
def Usable (c : MongoHandles) : Prop := ∃ client, c.orders = some client ∧ c.clients.Live client

end MongoHandles

namespace PostgresClient

def accepted (refusal : String × String → Option CppString) (stmts : List (String × String)) :
    List String :=
  (stmts.takeWhile fun s => (refusal s).isNone).map Prod.fst

theorem prepare_ok {refusal : String × String → Option CppString} (h : refusal s = none)
    (c : PostgresHandles) :
    prepare refusal s c = .ok () { c with prepared := c.prepared ++ [s.1] } := by
  rw [prepare, h]
  rfl

theorem prepare_error {refusal : String × String → Option CppString} (h : refusal s = some what)
    (c : PostgresHandles) : prepare refusal s c = .error what c := by
  rw [prepare, h]
  rfl

theorem finalState_prepareAll (refusal : String × String → Option CppString)
    (stmts : List (String × String)) (c : PostgresHandles) :
    finalState (stmts.forM (prepare refusal)) c =
      { c with prepared := c.prepared ++ accepted refusal stmts } := by
  induction stmts generalizing c with
  | nil =>
    rw [accepted, List.takeWhile_nil, List.map_nil, List.append_nil]
    rfl
  | cons s stmts ih =>
    change finalState (prepare refusal s >>= fun _ => stmts.forM (prepare refusal)) c = _
    cases hs : refusal s with
    | none =>
      have haccepted : accepted refusal (s :: stmts) = s.1 :: accepted refusal stmts := by
        simp [accepted, hs]
      rw [finalState_bind_ok (prepare_ok hs c), ih, haccepted, List.append_assoc, List.singleton_append]
    | some what =>
      have haccepted : accepted refusal (s :: stmts) = [] := by simp [accepted, hs]
      rw [finalState_bind_error (prepare_error hs c), haccepted, List.append_nil]

theorem finalState_connect (config : DatabaseConfig) (opening : CppString → Opening)
    (refusal : String × String → Option CppString) (c : PostgresHandles) :
    finalState (connect config opening refusal) c =
      match opening (connectionString config) with
      | .opens =>
        { conns := c.conns.replace ()
          present := true
          isOpen := true
          prepared := accepted refusal preparedStatements }
      | .brokenConnection _ => c
      | .fails _ => c := by
  rw [connect]
  cases opening (connectionString config) with
  | opens => exact finalState_prepareAll refusal preparedStatements ⟨c.conns.replace (), true, true, []⟩
  | brokenConnection what => rfl
  | fails what => rfl

theorem finalState_disconnect (c : PostgresHandles) :
    finalState disconnect c =
      if c.present && c.isOpen then
        { c with conns := c.conns.release (), isOpen := false, prepared := [] }
      else c := by
  obtain ⟨conns, present, isOpen, prepared⟩ := c
  cases present <;> cases isOpen <;> rfl

/-- The connection is closed where it is open, and what is left of it goes with the object. -/
theorem conns_destroyed (c : PostgresHandles) : ∃ conns : Holder Unit,
    c.destroyed.conns = conns.release () ∧ (conns.Owned ↔ c.conns.Owned) := by
  obtain ⟨conns, present, isOpen, prepared⟩ := c
  cases present
  · exact ⟨conns, rfl, Iff.rfl⟩
  · cases isOpen
    · exact ⟨conns, rfl, Iff.rfl⟩
    · exact ⟨conns.release (), rfl, Holder.owned_release_iff⟩

theorem accepted_eq_iff (refusal : String × String → Option CppString)
    (stmts : List (String × String)) :
    accepted refusal stmts = stmts.map Prod.fst ↔ ∀ s ∈ stmts, refusal s = none := by
  constructor
  · intro h
    have hlen := congrArg List.length h
    rw [accepted, List.length_map, List.length_map] at hlen
    have hself := (List.takeWhile_prefix _).eq_of_length hlen
    intro s hs
    exact Option.isNone_iff_eq_none.1 (List.takeWhile_eq_self_iff.1 hself s hs)
  · intro h
    rw [accepted, List.takeWhile_eq_self_iff.2 fun s hs => Option.isNone_iff_eq_none.2 (h s hs)]

end PostgresClient

namespace PostgresHandles

theorem owned_call_iff (config : DatabaseConfig) (call : PostgresCall) (c : PostgresHandles) :
    (finalState (call.call config) c).conns.Owned ↔ c.conns.Owned := by
  cases call with
  | connect opening refusal =>
    rw [PostgresCall.call, PostgresClient.finalState_connect]
    cases opening (PostgresClient.connectionString config) with
    | opens => exact Holder.owned_replace_iff
    | brokenConnection what => exact Iff.rfl
    | fails what => exact Iff.rfl
  | disconnect =>
    rw [PostgresCall.call, PostgresClient.finalState_disconnect]
    split
    · exact Holder.owned_release_iff
    · exact Iff.rfl
  | data dropped => exact Iff.rfl

theorem freedOnce_destroyed {c : PostgresHandles} (h : c.conns.Owned) :
    c.destroyed.conns.FreedOnce := by
  obtain ⟨conns, hconns, hiff⟩ := PostgresClient.conns_destroyed c
  rw [hconns, Holder.freedOnce_release_iff]
  exact hiff.2 h

/-- Whatever the calls and whichever of them fail: the only connection that is live is the one that
the client holds, and after its destruction each that was opened has been closed exactly once. -/
theorem releasesAll (config : DatabaseConfig) (calls : List PostgresCall) :
    (after config calls).conns.Owned ∧ (destroyed (after config calls)).conns.FreedOnce := by
  have howned : (after config calls).conns.Owned := by
    apply List.foldlRecOn (motive := fun c : PostgresHandles => c.conns.Owned) calls _ Holder.owned_init
    intro c hc call _
    exact (owned_call_iff config call c).2 hc
  exact ⟨howned, freedOnce_destroyed howned⟩

def Connects (config : DatabaseConfig) : PostgresCall → Prop
  | .connect opening refusal => opening (PostgresClient.connectionString config) = .opens ∧
      ∀ s ∈ PostgresClient.preparedStatements, refusal s = none
  | .disconnect => False
  | .data _ => False

/-- A call that leaves the connection as it is, such as a `connect` that opens no new one. -/
def Passes (config : DatabaseConfig) : PostgresCall → Prop
  | .connect opening _ => opening (PostgresClient.connectionString config) ≠ .opens
  | .disconnect => False
  | .data dropped => dropped = false

theorem ready_call_iff (config : DatabaseConfig) (call : PostgresCall) (c : PostgresHandles) :
    (finalState (call.call config) c).Ready ↔
      Connects config call ∨ Passes config call ∧ c.Ready := by
  cases call with
  | connect opening refusal =>
    rw [PostgresCall.call, PostgresClient.finalState_connect]
    cases hopening : opening (PostgresClient.connectionString config) with
    | opens => simp [Ready, Connects, Passes, hopening, PostgresClient.accepted_eq_iff]
    | brokenConnection what => simp [Connects, Passes, hopening]
    | fails what => simp [Connects, Passes, hopening]
  | disconnect =>
    rw [PostgresCall.call, PostgresClient.finalState_disconnect]
    split
    case isTrue => simp [Ready, Connects, Passes]
    case isFalse h =>
      rw [Bool.and_eq_true] at h
      simp only [Connects, Passes, false_and, or_false, iff_false]
      exact fun hready => h ⟨hready.1, hready.2.1⟩
  | data dropped =>
    have hdata : finalState (PostgresCall.call config (.data dropped)) c =
        { c with isOpen := c.isOpen && !dropped } := rfl
    rw [hdata]
    cases dropped <;> simp [Ready, Connects, Passes]

/-- All statements can be executed exactly if the last call that did more than pass was a `connect`
of which every step succeeded; a `connect` that finds no server does no harm. -/
theorem ready_iff (config : DatabaseConfig) (calls : List PostgresCall) :
    (after config calls).Ready ↔ ∃ before call rest, calls = before ++ call :: rest ∧
      Connects config call ∧ ∀ c ∈ rest, Passes config c :=
  foldl_iff_last (I := fun _ => True) (fun c call _ => ready_call_iff config call c)
    (fun _ _ _ => trivial) trivial (by simp [Ready, init]) calls

end PostgresHandles

theorem MongoClient.finalState_connect (config : DatabaseConfig)
    (refusal : CppString → Option CppString) (naming : Option CppString) (c : MongoHandles) :
    finalState (connect config refusal naming) c =
      if refusal (connectionUri config) = none then
        { clients := c.clients.replace ()
          orders := if naming = none then some c.clients.created else c.orders }
      else c := by
  rw [connect]
  cases refusal (connectionUri config) with
  | some what => rfl
  | none =>
    cases naming with
    | some what => rfl
    | none =>
      rw [if_pos rfl, if_pos rfl, ← Holder.slots_replace (s := ())]
      rfl

namespace MongoHandles

structure Sound (c : MongoHandles) : Prop where
  owned : c.clients.Owned
  created : ∀ client, c.orders = some client → client < c.clients.created

theorem usable_iff {c : MongoHandles} (hc : c.clients.Owned) :
    c.Usable ↔ ∃ client, c.orders = some client ∧ c.clients.slots () = some client := by
  have hslot (client : Nat) : c.clients.Live client ↔ c.clients.slots () = some client :=
    (hc client).trans ⟨fun ⟨_, hs⟩ => hs, fun hs => ⟨(), hs⟩⟩
  simp only [Usable, hslot]

theorem sound_call (config : DatabaseConfig) (call : MongoCall) {c : MongoHandles} (hc : c.Sound) :
    (finalState (call.call config) c).Sound := by
  cases call with
  | connect refusal naming =>
    rw [MongoCall.call, MongoClient.finalState_connect]
    split
    case isTrue =>
      refine ⟨Holder.owned_replace_iff.2 hc.owned, fun client h => ?_⟩
      split at h
      · cases h
        exact Nat.lt_succ_self _
      · exact Nat.lt_succ_of_lt (hc.created client h)
    case isFalse => exact hc
  | disconnect => exact ⟨Holder.owned_release_iff.2 hc.owned, hc.created⟩
  | data => exact hc

theorem sound_after (config : DatabaseConfig) (calls : List MongoCall) :
    (after config calls).Sound := by
  apply List.foldlRecOn (motive := Sound) calls _ ⟨Holder.owned_init, fun client h => by cases h⟩
  exact fun c hc call _ => sound_call config call hc

def Connects (config : DatabaseConfig) : MongoCall → Prop
  | .connect refusal naming => refusal (MongoClient.connectionUri config) = none ∧ naming = none
  | .disconnect => False
  | .data => False

def Passes (config : DatabaseConfig) : MongoCall → Prop
  | .connect refusal _ => refusal (MongoClient.connectionUri config) ≠ none
  | .disconnect => False
  | .data => True

theorem usable_call_iff (config : DatabaseConfig) (call : MongoCall) (c : MongoHandles)
    (hc : c.Sound) : (finalState (call.call config) c).Usable ↔
      Connects config call ∨ Passes config call ∧ c.Usable := by
  rw [usable_iff (sound_call config call hc).owned, usable_iff hc.owned]
  cases call with
  | connect refusal naming =>
    rw [MongoCall.call, MongoClient.finalState_connect]
    by_cases hrefusal : refusal (MongoClient.connectionUri config) = none
    · rw [if_pos hrefusal]
      simp only [Connects, Passes, hrefusal, Holder.slots_replace, not_true_eq_false, false_and,
        or_false, true_and, ne_eq]
      split
      case isTrue hnaming => simp [hnaming]
      case isFalse hnaming =>
        apply iff_of_false ?_ hnaming
        intro h
        obtain ⟨client, horders, hclient⟩ := h
        cases hclient
        exact absurd (hc.created _ horders) (Nat.lt_irrefl _)
    · simp [Connects, Passes, hrefusal]
  | disconnect =>
    have hslot : (finalState (MongoCall.call config .disconnect) c).clients.slots () = none :=
      Holder.slots_release
    simp [hslot, Connects, Passes]
  | data =>
    have hdata : finalState (MongoCall.call config .data) c = c := rfl
    simp [hdata, Connects, Passes]

/-- Each client that was created is destroyed exactly once, and `orders_` belongs to a client that
exists exactly if the last call that did more than pass was a `connect` that returned. After a
`disconnect` every data call goes through a client that is gone. -/
theorem releasesAll_usable_iff (config : DatabaseConfig) (calls : List MongoCall) :
    (destroyed (after config calls)).clients.FreedOnce ∧
      ((after config calls).Usable ↔ ∃ before call rest, calls = before ++ call :: rest ∧
        Connects config call ∧ ∀ c ∈ rest, Passes config c) := by
  constructor
  · exact Holder.freedOnce_release_iff.2 (sound_after config calls).owned
  · apply foldl_iff_last (I := Sound)
    · exact fun c call hc => usable_call_iff config call c hc
    · exact fun c call hc => sound_call config call hc
    · exact ⟨Holder.owned_init, fun client h => by cases h⟩
    · simp [Usable, init]

end MongoHandles

end DbBenchmark
