import DbBenchmark.ConcurrentLoad

namespace DbBenchmark
open ThreadPool Throwing
set_option autoImplicit true

namespace Experiment2

/-- What an element of `thread_connections_` points to: nothing, `db_`, or a connection of its own,
numbered in the order in which the factory makes them. -/
inductive Connection where
  | null
  | shared
  | own (n : Nat)
deriving DecidableEq

inductive ConnectionEvent where
  | made (t n : Nat)
  | inserted (t : Nat) (conn : Connection)
  | disconnected (n : Nat)
  | deleted (n : Nat)
deriving DecidableEq

/-- What a call of the factory returns where it does not throw: `db_` or a new connection. -/
inductive Product where
  | shared
  | fresh

/-- One call of `execute`, with what happens around the connections: the exceptions that `setup`,
the allocations before the threads and the report after them may throw, the results of the factory
calls, a schedule of the threads to the last `join`, and the exceptions that `disconnect` throws.
An exception in a thread ends the process. -/
structure Execution {Double : Type} (dataset : List (Order Double)) where
  config : BenchmarkConfig
  threadCount_pos : 1 ≤ config.threadCount
  setup : Option CppString
  factory : Nat → Except CppString Product
  allocation : Option CppString
  acts : List (Action UInt64)
  pool : Pool (Worker Double) (Shared Double)
  runs : runThreads dataset (totalRows dataset config) config.threadCount acts = some pool
  joined : pool.joined = config.threadCount.toNat
  report : Option CppString
  disconnect : Nat → Option CppString

structure Connections where
  threadConnections : List Connection
  made : Nat
  events : List ConnectionEvent

abbrev ConnectionsM := EStateM CppString Connections

namespace Connections

variable {Double : Type} {dataset : List (Order Double)}

def init : Connections := ⟨[], 0, []⟩

def log (e : ConnectionEvent) : ConnectionsM Unit :=
  modify fun s => { s with events := s.events ++ [e] }

def callFactory (t : Nat) (outcome : Except CppString Product) : ConnectionsM Connection :=
  match outcome with
  | .error msg => throw msg
  | .ok .shared => pure .shared
  | .ok .fresh => fun s =>
    .ok (.own s.made) { s with made := s.made + 1, events := s.events ++ [.made t s.made] }

/-- `thread_connections_.resize(n, nullptr)` -/
def resize (n : Nat) : ConnectionsM Unit :=
  modify fun s => { s with threadConnections :=
    s.threadConnections.take n ++ List.replicate (n - s.threadConnections.length) .null }

def fill (factory : Nat → Except CppString Product) (n : Nat) : ConnectionsM Unit :=
  (List.range n).forM fun i => do
    let conn ← callFactory i (factory i)
    modify fun s => { s with threadConnections := s.threadConnections.set i conn }

/-- The calls of the threads, each on the connection of its own thread. -/
def insertions (conns : List Connection) (calls : List (InsertCall Double)) :
    List ConnectionEvent :=
  calls.map fun c => .inserted c.thread (conns.getD c.thread .null)

def run (x : Execution dataset) : ConnectionsM Unit := do
  resize x.config.threadCount.toNat
  fill x.factory x.config.threadCount.toNat
  attempt x.allocation
  modify fun s => { s with
    events := s.events ++ insertions s.threadConnections x.pool.shared.inserted }
  attempt x.report

/-- A connection of a thread is disconnected and deleted; `db_` belongs to the caller. -/
def discard (x : Execution dataset) (conn : Connection) : ConnectionsM Unit :=
  match conn with
  | .own n => do
    log (.disconnected n)
    tryCatch (attempt (x.disconnect n)) fun _ => pure ()
    log (.deleted n)
  | .shared => pure ()
  | .null => pure ()

def teardown (x : Execution dataset) : ConnectionsM Unit := do
  let s ← get
  s.threadConnections.forM (discard x)
  modify fun s => { s with threadConnections := [] }

def execute (x : Execution dataset) : ConnectionsM Unit := do
  attempt x.setup
  run x
  teardown x

/-- One experiment object, executed time and again; it carries on where `execute` throws. -/
def after (xs : List (Execution dataset)) : Connections :=
  xs.foldl (fun s x => finalState (execute x) s) init

def Returns (x : Execution dataset) (s : Connections) : Prop :=
  ∃ s', execute x s = .ok () s'

end Connections

def Connection.number? : Connection → Option Nat
  | .own n => some n
  | .shared => none
  | .null => none

/-- What a call of the factory with this outcome stores. -/
def Connection.StoredFor (outcome : Except CppString Product) : Connection → Prop
  | .null => False
  | .shared => outcome = .ok .shared
  | .own _ => outcome = .ok .fresh

namespace Connections

variable {factory : Nat → Except CppString Product}

def numbers (conns : List Connection) : List Nat := conns.filterMap Connection.number?

theorem numbers_concat (conns : List Connection) (c : Connection) :
    numbers (conns ++ [c]) = numbers conns ++ c.number?.toList := by
  rw [numbers, List.filterMap_append]
  cases hc : c.number? <;> simp [numbers, hc]

def makings (conns : List Connection) : List ConnectionEvent :=
  conns.zipIdx.filterMap fun p => p.1.number?.map (.made p.2)

theorem makings_concat (conns : List Connection) (c : Connection) :
    makings (conns ++ [c]) = makings conns ++ (c.number?.map (.made conns.length)).toList := by
  rw [makings, List.zipIdx_append, List.filterMap_append]
  cases hc : c.number? <;> simp [makings, hc]

theorem number?_eq_some {c : Connection} : c.number? = some n ↔ c = .own n := by
  cases c <;> simp [Connection.number?]

theorem mem_makings {conns : List Connection} :
    .made t n ∈ makings conns ↔ conns[t]? = some (.own n) := by
  simp [makings, List.mem_zipIdx_iff_getElem?, number?_eq_some]

/-- Since `s₀` the factory has returned `conns` in this order, and `tail` has happened. -/
structure Made (factory : Nat → Except CppString Product) (s₀ : Connections)
    (conns : List Connection) (tail : List ConnectionEvent) (s : Connections) : Prop where
  numbers : numbers conns = List.range' s₀.made (numbers conns).length
  storedFor : ∀ i (c : Connection), conns[i]? = some c → c.StoredFor (factory i)
  made : s.made = s₀.made + (Connections.numbers conns).length
  events : s.events = s₀.events ++ makings conns ++ tail

theorem made_nil (hmade : s.made = s₀.made) (hevents : s.events = s₀.events) :
    Made factory s₀ [] [] s where
  numbers := rfl
  storedFor i c h := by simp at h
  made := hmade
  events := by
    rw [hevents]
    exact ((List.append_nil _).trans (List.append_nil _)).symm

theorem storedFor_concat {conns : List Connection}
    (h : ∀ i (c : Connection), conns[i]? = some c → c.StoredFor (factory i))
    (hc : c.StoredFor (factory conns.length)) :
    ∀ i (d : Connection), (conns ++ [c])[i]? = some d → d.StoredFor (factory i) := by
  intro i d hd
  rcases getElem?_concat_eq_some_iff.1 hd with ⟨rfl, rfl⟩ | hd
  · exact hc
  · exact h i d hd

namespace Made

variable {conns : List Connection}

theorem concat_none (h : Made factory s₀ conns [] s) (hc : c.number? = none)
    (hstored : c.StoredFor (factory conns.length)) : Made factory s₀ (conns ++ [c]) [] s := by
  have hnumbers : Connections.numbers (conns ++ [c]) = Connections.numbers conns := by
    rw [numbers_concat, hc]
    exact List.append_nil _
  have hmakings : makings (conns ++ [c]) = makings conns := by
    rw [makings_concat, hc]
    exact List.append_nil _
  exact {
    numbers := hnumbers ▸ h.numbers
    storedFor := storedFor_concat h.storedFor hstored
    made := hnumbers ▸ h.made
    events := hmakings ▸ h.events }

theorem concat_own (h : Made factory s₀ conns [] s)
    (hstored : (Connection.own s.made).StoredFor (factory conns.length)) :
    Made factory s₀ (conns ++ [.own s.made]) []
      { s with made := s.made + 1, events := s.events ++ [.made conns.length s.made] } := by
  have hnumbers : Connections.numbers (conns ++ [.own s.made]) =
      Connections.numbers conns ++ [s.made] := numbers_concat conns _
  have hevents := h.events
  rw [List.append_nil] at hevents
  exact {
    numbers := by
      rw [hnumbers, List.length_append, List.length_singleton, List.range'_1_concat, ← h.numbers,
        h.made]
    storedFor := storedFor_concat h.storedFor hstored
    made := by
      rw [hnumbers, List.length_append, ← Nat.add_assoc, ← h.made]
      rfl
    events := by
      rw [makings_concat, ← List.append_assoc, ← hevents, List.append_nil]
      rfl }

end Made

theorem callFactory_triple (s₀ : Connections) (factory : Nat → Except CppString Product)
    (l conns : List Connection) :
    Triple (fun s => Made factory s₀ conns [] s ∧ s.threadConnections = l)
      (callFactory conns.length (factory conns.length))
      (fun c s => Made factory s₀ (conns ++ [c]) [] s ∧ s.threadConnections = l)
      (fun _ s => ∃ conns, Made factory s₀ conns [] s) := by
  intro s hs
  obtain ⟨hmade, hl⟩ := hs
  cases hf : factory conns.length with
  | error msg => exact ⟨conns, hmade⟩
  | ok product =>
    cases product with
    | shared => exact ⟨hmade.concat_none rfl hf, hl⟩
    | fresh => exact ⟨hmade.concat_own hf, hl⟩

theorem fill_triple (n : Nat) :
    Triple (fun s => s.threadConnections.length = n ∧ Made factory s₀ [] [] s) (fill factory n)
      (fun _ s => s.threadConnections.length = n ∧ Made factory s₀ s.threadConnections [] s)
      (fun _ s => ∃ conns, Made factory s₀ conns [] s) := by
  have hloop := Triple.forRange (I := fun i s => s.threadConnections.length = n ∧
    Made factory s₀ (s.threadConnections.take i) [] s) n (f := fun i => do
      let conn ← callFactory i (factory i)
      modify fun s => { s with threadConnections := s.threadConnections.set i conn })
    (E := fun _ s => ∃ conns, Made factory s₀ conns [] s) ?_
  · apply hloop.mono (fun s hs => hs) ?_ (fun _ _ h => h)
    intro _ s hs
    obtain ⟨hlen, hmade⟩ := hs
    rw [List.take_of_length_le hlen.le] at hmade
    exact ⟨hlen, hmade⟩
  · intro i hi s hs
    obtain ⟨hlen, hmade⟩ := hs
    have hi' : (s.threadConnections.take i).length = i := by
      rw [List.length_take, hlen]
      exact Nat.min_eq_left hi.le
    have hcall := callFactory_triple s₀ factory s.threadConnections (s.threadConnections.take i)
    rw [hi'] at hcall
    apply (hcall.bind fun conn => ?_) s ⟨hmade, rfl⟩
    intro s' hs'
    obtain ⟨hmade', hl⟩ := hs'
    have htake : (s'.threadConnections.set i conn).take (i + 1) =
        s.threadConnections.take i ++ [conn] := by
      rw [hl, List.take_add_one, List.take_set_of_le (Nat.le_refl i),
        List.getElem?_set_self (hlen.symm ▸ hi)]
      rfl
    refine ⟨List.length_set.trans (hl ▸ hlen), ?_⟩
    rw [htake]
    exact ⟨hmade'.numbers, hmade'.storedFor, hmade'.made, hmade'.events⟩

def discarded (n : Nat) : List ConnectionEvent := [.disconnected n, .deleted n]

/-- What follows the calls of the factory: nothing or the calls of the threads where `execute`
throws, and `teardown` after them where it returns. -/
inductive Ended (x : Execution dataset) (conns : List Connection) :
    Bool → List ConnectionEvent → Prop
  | early : Ended x conns false []
  | late (hlen : conns.length = x.config.threadCount.toNat) :
      Ended x conns false (insertions conns x.pool.shared.inserted)
  | returned (hlen : conns.length = x.config.threadCount.toNat) :
      Ended x conns true
        (insertions conns x.pool.shared.inserted ++ (numbers conns).flatMap discarded)

theorem run_triple (x : Execution dataset) (s₀ : Connections) :
    Triple (fun s => s = s₀) (run x)
      (fun _ s => s.threadConnections.length = x.config.threadCount.toNat ∧
        Made x.factory s₀ s.threadConnections
          (insertions s.threadConnections x.pool.shared.inserted) s)
      (fun _ s => ∃ conns tail, Made x.factory s₀ conns tail s ∧ Ended x conns false tail) := by
  have hearly (msg : CppString) (s : Connections) (h : ∃ conns, Made x.factory s₀ conns [] s) :
      ∃ conns tail, Made x.factory s₀ conns tail s ∧ Ended x conns false tail := by
    obtain ⟨conns, h⟩ := h
    exact ⟨conns, [], h, .early⟩
  have hresize : Triple (fun s => s = s₀) (resize x.config.threadCount.toNat)
      (fun _ s => s.threadConnections.length = x.config.threadCount.toNat ∧
        Made x.factory s₀ [] [] s)
      (fun _ s => ∃ conns tail, Made x.factory s₀ conns tail s ∧ Ended x conns false tail) := by
    intro s hs
    subst hs
    refine ⟨?_, made_nil rfl rfl⟩
    change (s.threadConnections.take _ ++ List.replicate _ Connection.null).length = _
    rw [List.length_append, List.length_take, List.length_replicate]
    omega
  apply hresize.bind
  intro _
  apply ((fill_triple _).mono (fun _ h => h) (fun _ _ h => h) hearly).bind
  intro _
  apply (Triple.attempt fun msg s h => hearly msg s ⟨_, h.2⟩).bind
  intro _ s hs
  obtain ⟨hlen, hmade⟩ := hs
  have hinserted : Made x.factory s₀ s.threadConnections
      (insertions s.threadConnections x.pool.shared.inserted)
      { s with events := s.events ++ insertions s.threadConnections x.pool.shared.inserted } := {
    numbers := hmade.numbers
    storedFor := hmade.storedFor
    made := hmade.made
    events := by
      have hevents := hmade.events
      rw [List.append_nil] at hevents
      rw [hevents] }
  have hreport : Triple (fun s => s.threadConnections.length = x.config.threadCount.toNat ∧
      Made x.factory s₀ s.threadConnections
        (insertions s.threadConnections x.pool.shared.inserted) s) (attempt x.report)
      (fun _ s => s.threadConnections.length = x.config.threadCount.toNat ∧
        Made x.factory s₀ s.threadConnections
          (insertions s.threadConnections x.pool.shared.inserted) s)
      (fun _ s => ∃ conns tail, Made x.factory s₀ conns tail s ∧ Ended x conns false tail) :=
    Triple.attempt fun msg s h => ⟨_, _, h.2, .late h.1⟩
  exact hreport _ ⟨hlen, hinserted⟩

theorem discard_eq (x : Execution dataset) (conn : Connection) (s : Connections) :
    discard x conn s =
      .ok () { s with events := s.events ++ conn.number?.toList.flatMap discarded } := by
  cases conn with
  | null => exact congrArg (EStateM.Result.ok ()) (by simp [Connection.number?])
  | shared => exact congrArg (EStateM.Result.ok ()) (by simp [Connection.number?])
  | own n =>
    have hdiscarded : discard x (.own n) s =
        .ok () { s with events := s.events ++ [.disconnected n] ++ [.deleted n] } := by
      rw [discard]
      cases x.disconnect n <;> rfl
    rw [hdiscarded, List.append_assoc]
    rfl

theorem discardAll_eq (x : Execution dataset) (conns : List Connection) (s : Connections) :
    conns.forM (discard x) s =
      .ok ⟨⟩ { s with events := s.events ++ (numbers conns).flatMap discarded } := by
  induction conns generalizing s with
  | nil => exact congrArg (EStateM.Result.ok _) (by simp [numbers])
  | cons conn conns ih =>
    have hnumbers : numbers (conn :: conns) = conn.number?.toList ++ numbers conns := by
      cases hc : conn.number? <;> simp [numbers, hc]
    change (discard x conn >>= fun _ => conns.forM (discard x)) s = _
    rw [bind_ok (discard_eq x conn s), ih, hnumbers, List.flatMap_append, List.append_assoc]

theorem teardown_eq (x : Execution dataset) (s : Connections) :
    teardown x s = .ok () { s with
      threadConnections := []
      events := s.events ++ (numbers s.threadConnections).flatMap discarded } := by
  change (s.threadConnections.forM (discard x) >>= fun _ =>
    modify fun s => { s with threadConnections := [] }) s = _
  rw [bind_ok (discardAll_eq x s.threadConnections s)]
  rfl

theorem execute_triple (x : Execution dataset) (s₀ : Connections) :
    Triple (fun s => s = s₀) (execute x)
      (fun _ s => ∃ conns tail, Made x.factory s₀ conns tail s ∧ Ended x conns true tail)
      (fun _ s => ∃ conns tail, Made x.factory s₀ conns tail s ∧ Ended x conns false tail) := by
  have hsetup : Triple (fun s => s = s₀) (attempt x.setup) (fun _ s => s = s₀)
      (fun _ s => ∃ conns tail, Made x.factory s₀ conns tail s ∧ Ended x conns false tail) := by
    apply Triple.attempt
    intro msg s hs
    subst hs
    exact ⟨[], [], made_nil rfl rfl, .early⟩
  apply hsetup.bind
  intro _
  apply (run_triple x s₀).bind
  intro _ s hs
  obtain ⟨hlen, hmade⟩ := hs
  rw [teardown_eq]
  refine ⟨s.threadConnections, _, ?_, .returned hlen⟩
  exact {
    numbers := hmade.numbers
    storedFor := hmade.storedFor
    made := hmade.made
    events := by rw [← List.append_assoc, ← hmade.events] }

theorem after_concat (xs : List (Execution dataset)) (x : Execution dataset) :
    ∃ conns tail returned, Made x.factory (after xs) conns tail (after (xs ++ [x])) ∧
      Ended x conns returned tail ∧ (returned = true ↔ Returns x (after xs)) := by
  have hafter : after (xs ++ [x]) = finalState (execute x) (after xs) := by
    rw [after, List.foldl_append]
    rfl
  cases hx : execute x (after xs) with
  | ok u s =>
    obtain ⟨conns, tail, hmade, hended⟩ := (execute_triple x (after xs)).of_ok rfl hx
    rw [hafter, finalState_of_ok hx]
    exact ⟨conns, tail, true, hmade, hended, iff_of_true rfl ⟨s, hx⟩⟩
  | error e s =>
    obtain ⟨conns, tail, hmade, hended⟩ := (execute_triple x (after xs)).of_error rfl hx
    have hs : finalState (execute x) (after xs) = s := by rw [finalState, hx]
    rw [hafter, hs]
    refine ⟨conns, tail, false, hmade, hended, iff_of_false Bool.false_ne_true ?_⟩
    intro h
    obtain ⟨s', hs'⟩ := h
    rw [hx] at hs'
    cases hs'

def makes (events : List ConnectionEvent) : List Nat :=
  events.filterMap fun
    | .made _ n => some n
    | _ => none

def disconnections (events : List ConnectionEvent) : List Nat :=
  events.filterMap fun
    | .disconnected n => some n
    | _ => none

def deletions (events : List ConnectionEvent) : List Nat :=
  events.filterMap fun
    | .deleted n => some n
    | _ => none

@[simp] theorem makes_append (l l' : List ConnectionEvent) :
    makes (l ++ l') = makes l ++ makes l' := List.filterMap_append

@[simp] theorem disconnections_append (l l' : List ConnectionEvent) :
    disconnections (l ++ l') = disconnections l ++ disconnections l' := List.filterMap_append

@[simp] theorem deletions_append (l l' : List ConnectionEvent) :
    deletions (l ++ l') = deletions l ++ deletions l' := List.filterMap_append

@[simp] theorem effects_makings (conns : List Connection) : makes (makings conns) = numbers conns ∧
    disconnections (makings conns) = [] ∧ deletions (makings conns) = [] := by
  have hmakes : makes (makings conns) = (conns.zipIdx.map Prod.fst).filterMap Connection.number? := by
    rw [makes, makings, List.filterMap_filterMap, List.filterMap_map]
    apply List.filterMap_congr
    intro p _
    cases hp : p.1.number? <;> simp [hp]
  rw [List.zipIdx_map_fst] at hmakes
  refine ⟨hmakes, ?_, ?_⟩
  · simp [disconnections, makings, List.filterMap_filterMap, List.filterMap_eq_nil_iff]
  · simp [deletions, makings, List.filterMap_filterMap, List.filterMap_eq_nil_iff]

@[simp] theorem effects_insertions (conns : List Connection) (calls : List (InsertCall Double)) :
    makes (insertions conns calls) = [] ∧ disconnections (insertions conns calls) = [] ∧
      deletions (insertions conns calls) = [] := by
  simp [makes, disconnections, deletions, insertions, List.filterMap_map]

@[simp] theorem effects_discarded (l : List Nat) : makes (l.flatMap discarded) = [] ∧
    disconnections (l.flatMap discarded) = l ∧ deletions (l.flatMap discarded) = l := by
  simp [makes, disconnections, deletions, discarded, List.filterMap_flatMap]

theorem effects_of_made {x : Execution dataset} (h : Made x.factory s₀ conns tail s)
    (hended : Ended x conns complete tail) :
    makes s.events = makes s₀.events ++ List.range' s₀.made (s.made - s₀.made) ∧
      (disconnections s₀.events = deletions s₀.events →
        disconnections s.events = deletions s.events) ∧
      deletions s.events = deletions s₀.events ++
        if complete then List.range' s₀.made (s.made - s₀.made) else [] := by
  have hnumbers : List.range' s₀.made (s.made - s₀.made) = numbers conns := by
    rw [h.made, Nat.add_sub_cancel_left]
    exact h.numbers.symm
  rw [h.events, hnumbers]
  cases hended with
  | early =>
    rw [List.append_nil]
    simp
  | late => simp
  | returned => simp

theorem range_add (m n : Nat) : List.range m ++ List.range' m n = List.range (m + n) := by
  have happ := List.range'_append_1 (s := 0) (m := m) (n := n)
  rwa [Nat.zero_add, ← List.range_eq_range', ← List.range_eq_range'] at happ

theorem history (xs : List (Execution dataset)) :
    makes (after xs).events = List.range (after xs).made ∧
      disconnections (after xs).events = deletions (after xs).events ∧
      (deletions (after xs).events).Sublist (List.range (after xs).made) := by
  induction xs using List.reverseRecOn with
  | nil => exact ⟨rfl, rfl, List.Sublist.slnil⟩
  | append_singleton xs x ih =>
    obtain ⟨hmakes, hdisconnections, hdeletions⟩ := ih
    obtain ⟨conns, tail, complete, hmade, hended, -⟩ := after_concat xs x
    obtain ⟨hmakes', hdisconnections', hdeletions'⟩ := effects_of_made hmade hended
    have hle : (after xs).made ≤ (after (xs ++ [x])).made := by
      rw [hmade.made]
      exact Nat.le_add_right _ _
    have hrange := range_add (after xs).made ((after (xs ++ [x])).made - (after xs).made)
    rw [Nat.add_sub_cancel' hle] at hrange
    refine ⟨?_, hdisconnections' hdisconnections, ?_⟩
    · rw [hmakes', hmakes, hrange]
    · rw [hdeletions', ← hrange]
      apply hdeletions.append
      cases complete with
      | false => exact List.nil_sublist _
      | true => exact List.Sublist.refl _

/-- The number of the connection falls into what an execution that returned has made. -/
def MadeByReturning (xs : List (Execution dataset)) (n : Nat) : Prop :=
  ∃ done x, done ++ [x] <+: xs ∧ Returns x (after done) ∧ (after done).made ≤ n ∧
    n < (after (done ++ [x])).made

theorem madeByReturning_concat_iff {xs : List (Execution dataset)} {x : Execution dataset} :
    MadeByReturning (xs ++ [x]) n ↔ MadeByReturning xs n ∨
      Returns x (after xs) ∧ (after xs).made ≤ n ∧ n < (after (xs ++ [x])).made := by
  constructor
  · intro h
    obtain ⟨done, y, hinit, h⟩ := h
    rcases List.prefix_concat_iff.1 hinit with heq | hinit
    · obtain ⟨rfl, hlast⟩ := List.append_inj' heq rfl
      cases hlast
      exact .inr h
    · exact .inl ⟨done, y, hinit, h⟩
  · intro h
    rcases h with ⟨done, y, hinit, h⟩ | h
    · exact ⟨done, y, hinit.trans (List.prefix_append _ _), h⟩
    · exact ⟨xs, x, List.prefix_rfl, h⟩

theorem mem_deletions_iff (xs : List (Execution dataset)) (n : Nat) :
    n ∈ deletions (after xs).events ↔ MadeByReturning xs n := by
  induction xs using List.reverseRecOn with
  | nil =>
    apply iff_of_false List.not_mem_nil
    intro h
    obtain ⟨done, x, hinit, -⟩ := h
    exact List.concat_ne_nil _ _ (List.prefix_nil.1 hinit)
  | append_singleton xs x ih =>
    obtain ⟨conns, tail, complete, hmade, hended, hreturns⟩ := after_concat xs x
    obtain ⟨-, -, hdeletions⟩ := effects_of_made hmade hended
    rw [hdeletions, List.mem_append, ih, madeByReturning_concat_iff, ← hreturns]
    cases complete with
    | false => simp
    | true =>
      have hle : (after xs).made ≤ (after (xs ++ [x])).made := by
        rw [hmade.made]
        exact Nat.le_add_right _ _
      rw [if_pos rfl, List.mem_range'_1, Nat.add_sub_cancel' hle]
      simp

/-- Over any number of executions the connections disconnected and deleted are those that an
execution which returned has made, each once. Those of an execution that throws are never deleted,
whatever is executed after it. -/
theorem deletes_made_by_returning (xs : List (Execution dataset)) :
    disconnections (after xs).events = deletions (after xs).events ∧
      (deletions (after xs).events).Nodup ∧
      ∀ n, n ∈ deletions (after xs).events ↔ MadeByReturning xs n := by
  obtain ⟨-, hdisconnections, hdeletions⟩ := history xs
  exact ⟨hdisconnections, hdeletions.nodup List.nodup_range, mem_deletions_iff xs⟩

theorem split_append (h : l₁ ++ l₂ = pre ++ e :: post) :
    (∃ post₁, l₁ = pre ++ e :: post₁) ∨ ∃ pre₂, pre = l₁ ++ pre₂ ∧ l₂ = pre₂ ++ e :: post := by
  rcases List.append_eq_append_iff.1 h with ⟨pre₂, hpre, hl₂⟩ | ⟨post₁, hl₁, hpost⟩
  · exact .inr ⟨pre₂, hpre, hl₂⟩
  · cases post₁ with
    | nil => exact .inr ⟨[], by simpa using hl₁.symm, hpost.symm⟩
    | cons e' post₁ =>
      rw [List.cons_append, List.cons.injEq] at hpost
      obtain ⟨rfl, -⟩ := hpost
      exact .inl ⟨post₁, hl₁⟩

theorem number_mem {conns : List Connection} {t : Nat}
    (h : conns[t]? = some (Connection.own n)) : n ∈ numbers conns :=
  List.mem_filterMap.2 ⟨.own n, List.mem_of_getElem? h, rfl⟩

theorem index_of_number {conns : List Connection} {t u : Nat} (hn : (numbers conns).Nodup)
    (ht : conns[t]? = some (Connection.own n)) (hu : conns[u]? = some (Connection.own n)) :
    t = u := by
  induction conns generalizing t u with
  | nil => simp at ht
  | cons conn conns ih =>
    have hnumbers : numbers (conn :: conns) = conn.number?.toList ++ numbers conns := by
      cases hc : conn.number? <;> simp [numbers, hc]
    rw [hnumbers, List.nodup_append'] at hn
    obtain ⟨-, hn, hdisjoint⟩ := hn
    have hhead (i : Nat) (hi : conns[i]? = some (Connection.own n)) : conn ≠ .own n := by
      intro hconn
      subst hconn
      exact hdisjoint (by simp [Connection.number?]) (number_mem hi)
    cases t with
    | zero =>
      cases u with
      | zero => rfl
      | succ u => exact absurd (Option.some.inj ht) (hhead u hu)
    | succ t =>
      cases u with
      | zero => exact absurd (Option.some.inj hu) (hhead t ht)
      | succ u => exact congrArg Nat.succ (ih hn ht hu)

/-- A thread inserts through what the factory returned for it. -/
theorem conn_of_inserted {x : Execution dataset} {conns : List Connection}
    (hlen : conns.length = x.config.threadCount.toNat)
    (h : .inserted t c ∈ insertions conns x.pool.shared.inserted) : conns[t]? = some c := by
  obtain ⟨call, hcall, heq⟩ := List.mem_map.1 h
  cases heq
  have hlt : call.thread < conns.length := by
    by_contra hge
    have hview := view_of_no_thread x.runs (hlen ▸ Nat.not_lt.1 hge)
    have hnone : (x.pool.shared.inserted.filter fun c => c.thread = call.thread) = [] :=
      congrArg WorkerView.inserted hview
    exact List.filter_eq_nil_iff.1 hnone call hcall (decide_eq_true rfl)
  rw [List.getD_eq_getElem?_getD, List.getElem?_eq_getElem hlt]
  rfl

theorem makes_eq_nil {events : List ConnectionEvent} (h : makes events = []) :
    .made t n ∉ events := by
  intro hmem
  have hn : n ∈ makes events := List.mem_filterMap.2 ⟨.made t n, hmem, rfl⟩
  rw [h] at hn
  cases hn

/-- Where in an execution a thread has inserted: the connections are made by then, and none is
deleted. -/
theorem split_ended {x : Execution dataset} {pre post : List ConnectionEvent}
    (hended : Ended x conns complete tail)
    (h : makings conns ++ tail = pre ++ .inserted t c :: post) :
    conns[t]? = some c ∧ ∃ pre', pre = makings conns ++ pre' ∧ makes pre' = [] ∧
      deletions pre' = [] := by
  rcases split_append h with ⟨post', hsplit⟩ | ⟨pre', rfl, htail⟩
  · have hmem : ConnectionEvent.inserted t c ∈ makings conns := by
      rw [hsplit]
      exact List.mem_append_right _ List.mem_cons_self
    simp [makings] at hmem
  · have hinserted (hlen : conns.length = x.config.threadCount.toNat)
        (hsplit : ∃ post, insertions conns x.pool.shared.inserted = pre' ++ .inserted t c :: post) :
        conns[t]? = some c ∧ makes pre' = [] ∧ deletions pre' = [] := by
      obtain ⟨post, hsplit⟩ := hsplit
      obtain ⟨hmakes, -, hdeletions⟩ := effects_insertions conns x.pool.shared.inserted
      rw [hsplit, makes_append] at hmakes
      rw [hsplit, deletions_append] at hdeletions
      refine ⟨?_, (List.append_eq_nil_iff.1 hmakes).1, (List.append_eq_nil_iff.1 hdeletions).1⟩
      apply conn_of_inserted hlen
      rw [hsplit]
      exact List.mem_append_right _ List.mem_cons_self
    cases hended with
    | early => simp at htail
    | late hlen =>
      obtain ⟨hc, hnone⟩ := hinserted hlen ⟨post, htail⟩
      exact ⟨hc, pre', rfl, hnone⟩
    | returned hlen =>
      rcases split_append htail with hsplit | ⟨pre'', -, hsplit⟩
      · obtain ⟨hc, hnone⟩ := hinserted hlen hsplit
        exact ⟨hc, pre', rfl, hnone⟩
      · have hmem : ConnectionEvent.inserted t c ∈ (numbers conns).flatMap discarded := by
          rw [hsplit]
          exact List.mem_append_right _ List.mem_cons_self
        simp [discarded] at hmem

/-- What the factory has returned for thread `t` of an execution in which these events have
happened. -/
def HandedTo (x : Execution dataset) (t : Nat) (events : List ConnectionEvent) : Connection → Prop
  | .own n => x.factory t = .ok .fresh ∧ ∀ m, .made t m ∈ events ↔ m = n
  | .shared => x.factory t = .ok .shared
  | .null => False

theorem handedTo_of_stored {x : Execution dataset} (hc : conns[t]? = some c)
    (hstored : c.StoredFor (x.factory t)) (hmakes : makes before = []) :
    HandedTo x t (makings conns ++ before) c := by
  cases c with
  | null => exact hstored
  | shared => exact hstored
  | own n =>
    refine ⟨hstored, fun m => ?_⟩
    rw [List.mem_append, or_iff_left (makes_eq_nil hmakes), mem_makings, hc]
    simp [eq_comm]

/-- The execution in which a thread has inserted, and how far it had come by then. -/
theorem inserts_handed (xs : List (Execution dataset)) {pre post : List ConnectionEvent}
    (h : (after xs).events = pre ++ .inserted t c :: post) :
    ∃ done x rest before, xs = done ++ x :: rest ∧ pre = (after done).events ++ before ∧
      pre ++ [.inserted t c] <+: (after (done ++ [x])).events ∧ HandedTo x t before c ∧
      ∀ n, c = .own n → n ∈ makes pre ∧ n ∉ deletions pre := by
  induction xs using List.reverseRecOn generalizing post with
  | nil => simp [after, init] at h
  | append_singleton xs x ih =>
    obtain ⟨conns, tail, complete, hmade, hended, -⟩ := after_concat xs x
    have hevents := h
    rw [hmade.events, List.append_assoc] at h
    rcases split_append h with ⟨post', hold⟩ | ⟨pre', rfl, hnew⟩
    · obtain ⟨done, y, rest, before, rfl, hrest⟩ := ih hold
      exact ⟨done, y, rest ++ [x], before, by simp, hrest⟩
    · obtain ⟨hc, before, rfl, hmakes, hdeletions⟩ := split_ended hended hnew
      refine ⟨xs, x, [], _, rfl, rfl, ⟨post, by rw [hevents]; simp⟩,
        handedTo_of_stored hc (hmade.storedFor t c hc) hmakes, ?_⟩
      intro n hn
      rw [hn] at hc
      have hmem := number_mem hc
      constructor
      · simp [hmem]
      · have hge : (after xs).made ≤ n := by
          rw [hmade.numbers, List.mem_range'_1] at hmem
          exact hmem.1
        have hold : n ∉ deletions (after xs).events := by
          intro hmem
          exact absurd (List.mem_range.1 ((history xs).2.2.subset hmem)) (Nat.not_lt.2 hge)
        simp [hdeletions, hold]

theorem used_lt (xs : List (Execution dataset))
    (h : .inserted t (.own n) ∈ (after xs).events) : n < (after xs).made := by
  obtain ⟨pre, post, hsplit⟩ := List.append_of_mem h
  obtain ⟨-, -, -, -, -, -, -, -, hlive⟩ := inserts_handed xs hsplit
  obtain ⟨hmakes, -, -⟩ := history xs
  rw [← List.mem_range, ← hmakes, hsplit, makes_append]
  exact List.mem_append_left _ (hlive n rfl).1

theorem one_thread (xs : List (Execution dataset)) (ht : .inserted t (.own n) ∈ (after xs).events)
    (hu : .inserted u (.own n) ∈ (after xs).events) : t = u := by
  induction xs using List.reverseRecOn with
  | nil => cases ht
  | append_singleton xs x ih =>
    obtain ⟨conns, tail, complete, hmade, hended, -⟩ := after_concat xs x
    have hnew {v : Nat} (h : .inserted v (.own n) ∈ (after (xs ++ [x])).events) :
        .inserted v (.own n) ∈ (after xs).events ∨ conns[v]? = some (.own n) := by
      obtain ⟨pre, post, hsplit⟩ := List.append_of_mem h
      rw [hmade.events, List.append_assoc] at hsplit
      rcases split_append hsplit with ⟨post', hold⟩ | ⟨pre', -, hnew⟩
      · rw [hold]
        exact .inl (List.mem_append_right _ List.mem_cons_self)
      · exact .inr (split_ended hended hnew).1
    have hnot {v w : Nat} (hold : .inserted v (.own n) ∈ (after xs).events) :
        conns[w]? ≠ some (.own n) := by
      intro hw
      have hn := number_mem hw
      rw [hmade.numbers, List.mem_range'_1] at hn
      exact absurd (used_lt xs hold) (Nat.not_lt.2 hn.1)
    rcases hnew ht with ht | ht
    · rcases hnew hu with hu | hu
      · exact ih ht hu
      · exact absurd hu (hnot ht)
    · rcases hnew hu with hu | hu
      · exact absurd ht (hnot hu)
      · have hn : (numbers conns).Nodup := by
          rw [hmade.numbers]
          exact List.nodup_range'
        exact index_of_number hn ht hu

/-- Whatever the interleavings and whichever executions throw, every `insert_one` of a thread goes
through what the factory has returned for that thread in the same execution: a connection of its own
is the one that this call has made, is not deleted yet, and no other thread ever uses it. -/
theorem inserts_on_own_connection (xs : List (Execution dataset)) (pre post : List ConnectionEvent)
    (h : (after xs).events = pre ++ .inserted t c :: post) :
    ∃ done x rest before, xs = done ++ x :: rest ∧ pre = (after done).events ++ before ∧
      pre ++ [.inserted t c] <+: (after (done ++ [x])).events ∧ HandedTo x t before c ∧
      ∀ n, c = .own n →
        n ∉ deletions pre ∧ ∀ u, .inserted u c ∈ (after xs).events → u = t := by
  obtain ⟨done, x, rest, before, hxs, hpre, hexecution, hhanded, hlive⟩ := inserts_handed xs h
  refine ⟨done, x, rest, before, hxs, hpre, hexecution, hhanded, fun n hc => ?_⟩
  refine ⟨(hlive n hc).2, fun u hu => ?_⟩
  subst hc
  apply one_thread xs hu
  rw [h]
  exact List.mem_append_right _ List.mem_cons_self

end Connections

open Connections

def overtakingExecution (factory : Nat → Except CppString Product) : Execution threeRows where
  config := overtakingConfig
  threadCount_pos := by decide
  setup := none
  factory := factory
  allocation := none
  acts := overtaking
  pool := (runThreads threeRows (totalRows threeRows overtakingConfig)
    overtakingConfig.threadCount overtaking).get (by decide)
  runs := (Option.some_get _).symm
  joined := by decide
  report := none
  disconnect _ := none

/-- A factory that throws on its second call, and a second attempt: connection 0 is lost. -/
example : deletions (after [overtakingExecution fun i => if i = 0 then .ok .fresh else .error [],
    overtakingExecution fun _ => .ok .fresh]).events = [1, 2] := by decide

theorem inserts_on_own_connection_overtaking :
    ∃ done x rest before, [overtakingExecution fun _ => .ok .fresh] = done ++ x :: rest ∧
      [.made 0 0, .made 1 1] = (after done).events ++ before ∧
      [.made 0 0, .made 1 1] ++ [.inserted 1 (.own 1)] <+: (after (done ++ [x])).events ∧
      HandedTo x 1 before (.own 1) ∧ ∀ n, Connection.own 1 = .own n →
        n ∉ deletions [.made 0 0, .made 1 1] ∧ ∀ u, .inserted u (.own 1) ∈
          (after [overtakingExecution fun _ => .ok .fresh]).events → u = 1 :=
  inserts_on_own_connection [overtakingExecution fun _ => .ok .fresh] [.made 0 0, .made 1 1]
    ([.inserted 1 (.own 1), .inserted 0 (.own 0)] ++ discarded 0 ++ discarded 1) (by decide)

end Experiment2

end DbBenchmark
