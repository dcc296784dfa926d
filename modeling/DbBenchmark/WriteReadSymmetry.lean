import DbBenchmark.ClientInterfaces
import DbBenchmark.Experiment7

namespace DbBenchmark
open BenchM ExperimentBase Throwing Throwing.Faulty
set_option autoImplicit true

variable {Double σ Row : Type}

/-- A client whose store keeps one row under each primary key and rejects a second one. Restarting
the server, connecting and printing leave the rows as they are. -/
structure KeyedStore (db : DBInterface Double σ) (platform : Platform σ) (Row : Type) where
  rows : σ → CppString → Option Row
  rowOf : Order Double → Row
  clearTable_empties : Triple (fun _ => True) db.clearTable (fun _ s => rows s = fun _ => none)
    (fun _ _ => True)
  insertOne_adds : ∀ R o, Triple (fun s => rows s = R) (db.insertOne o)
    (fun _ s => R o.orderId = none ∧ rows s = Function.update R o.orderId (some (rowOf o)))
    (fun _ _ => True)
  findByPrimaryKey_finds : ∀ R orderId, Triple (fun s => rows s = R) (db.findByPrimaryKey orderId)
    (fun found s => rows s = R ∧ ∀ o, R orderId = some (rowOf o) → found = o.toObject)
    (fun _ _ => True)
  connect_keeps : ∀ R, Triple (fun s => rows s = R) db.connect (fun _ s => rows s = R)
    (fun _ _ => True)
  system_keeps : ∀ cmd R, Triple (fun s => rows s = R) (platform.system cmd) (fun _ s => rows s = R)
    (fun _ _ => True)
  step_keeps : ∀ R, Triple (fun s => rows s = R) platform.step (fun _ s => rows s = R)
    (fun _ _ => True)

namespace KeyedStore

variable {db : DBInterface Double σ} {platform : Platform σ} (store : KeyedStore db platform Row)

def rowsOf (orders : List (Order Double)) : CppString → Option Row :=
  orders.foldl (fun R o => Function.update R o.orderId (some (store.rowOf o))) fun _ => none

theorem rowsOf_concat (orders : List (Order Double)) (o : Order Double) :
    store.rowsOf (orders ++ [o]) =
      Function.update (store.rowsOf orders) o.orderId (some (store.rowOf o)) := by
  rw [rowsOf, List.foldl_append]
  rfl

theorem rowsOf_absent {orders : List (Order Double)} {id : CppString}
    (h : id ∉ orders.map Order.orderId) : store.rowsOf orders id = none := by
  induction orders using List.reverseRecOn with
  | nil => rfl
  | append_singleton orders o ih =>
    rw [List.map_append, List.mem_append, not_or] at h
    have hne : id ≠ o.orderId := fun he => h.2 (List.mem_singleton.2 he)
    rw [rowsOf_concat, Function.update_of_ne hne, ih h.1]

theorem rowsOf_mem {orders : List (Order Double)} (hdistinct : (orders.map Order.orderId).Nodup)
    {o : Order Double} (h : o ∈ orders) : store.rowsOf orders o.orderId = some (store.rowOf o) := by
  induction orders using List.reverseRecOn with
  | nil => cases h
  | append_singleton orders last ih =>
    rw [rowsOf_concat]
    rw [List.map_append, List.map_singleton] at hdistinct
    obtain ⟨hbefore, -, hdisjoint⟩ := List.nodup_append.1 hdistinct
    rcases List.mem_append.1 h with hmem | hmem
    · have hne : o.orderId ≠ last.orderId :=
        hdisjoint _ (List.mem_map_of_mem hmem) _ (List.mem_singleton_self _)
      rw [Function.update_of_ne hne, ih hbefore hmem]
    · rw [List.mem_singleton.1 hmem, Function.update_self]

end KeyedStore

def runCalls (orders : List (Order Double)) (ids : List CppString) : List (DbCall Double) :=
  [.clearTable] ++ orders.map .insertOne ++ [.connect] ++ ids.map .findByPrimaryKey

def EachOnce (orders : List (Order Double)) (ids : List CppString) : Prop :=
  ids.Perm (orders.map Order.orderId) ∧ ids.Nodup

variable {db : DBInterface Double σ} {platform : Platform σ}

/-- The call meets no row but those that its own run has inserted. -/
structure OwnRows (store : KeyedStore db platform Row) (orders : List (Order Double))
    (r : CallRecord Double σ) : Prop where
  fresh : ∀ o, r.call = .insertOne o → store.rows r.before o.orderId = none
  found : ∀ id, r.call = .findByPrimaryKey id → ∃ o ∈ orders, o.orderId = id ∧
    store.rows r.before id = some (store.rowOf o) ∧ (r.returned → r.answer = some o.toObject)

theorem OwnRows.of_other {store : KeyedStore db platform Row} {orders : List (Order Double)}
    {r : CallRecord Double σ} (hinsert : ∀ o, r.call ≠ .insertOne o)
    (hfind : ∀ id, r.call ≠ .findByPrimaryKey id) : OwnRows store orders r where
  fresh o ho := absurd ho (hinsert o)
  found id hid := absurd hid (hfind id)

structure RunSoFar (store : KeyedStore db platform Row) (orders : List (Order Double))
    (made : List (DbCall Double)) (calls : List (CallRecord Double σ)) : Prop where
  calls_eq : calls.map CallRecord.call = made
  ownRows : ∀ r ∈ calls, OwnRows store orders r

theorem RunSoFar.start {store : KeyedStore db platform Row} {orders : List (Order Double)} :
    RunSoFar store orders [] [] := ⟨rfl, fun _ hr => nomatch hr⟩

def CompleteRun (store : KeyedStore db platform Row) (orders : List (Order Double))
    (calls : List (CallRecord Double σ)) : Prop :=
  ∃ ids, EachOnce orders ids ∧ RunSoFar store orders (runCalls orders ids) calls ∧
    ∀ r ∈ calls, r.returned

/-- A run that an exception has ended. -/
def BrokenOffRun (store : KeyedStore db platform Row) (orders : List (Order Double))
    (calls : List (CallRecord Double σ)) : Prop :=
  ∃ ids made, EachOnce orders ids ∧ made <+: runCalls orders ids ∧
    RunSoFar store orders made calls

inductive CompleteRuns (store : KeyedStore db platform Row) (orders : List (Order Double)) :
    Nat → List (CallRecord Double σ) → Prop
  | none : CompleteRuns store orders 0 []
  | more {n : Nat} {calls current : List (CallRecord Double σ)} :
    CompleteRuns store orders n calls → CompleteRun store orders current →
      CompleteRuns store orders (n + 1) (calls ++ current)

theorem writes_isPrefix {done orders : List (Order Double)} (h : done <+: orders)
    (ids : List CppString) : [.clearTable] ++ done.map .insertOne <+: runCalls orders ids := by
  obtain ⟨rest, rfl⟩ := h
  refine ⟨rest.map .insertOne ++ [.connect] ++ ids.map .findByPrimaryKey, ?_⟩
  simp [runCalls]

theorem reads_isPrefix {done ids : List CppString} (h : done <+: ids)
    (orders : List (Order Double)) :
    [.clearTable] ++ orders.map .insertOne ++ [.connect] ++ done.map .findByPrimaryKey <+:
      runCalls orders ids := by
  obtain ⟨rest, rfl⟩ := h
  refine ⟨rest.map .findByPrimaryKey, ?_⟩
  simp [runCalls]

theorem connect_isPrefix (orders : List (Order Double)) (ids : List CppString) :
    [.clearTable] ++ orders.map .insertOne ++ [.connect] <+: runCalls orders ids :=
  ⟨ids.map .findByPrimaryKey, rfl⟩

theorem RunSoFar.concat {store : KeyedStore db platform Row} {orders : List (Order Double)}
    {made : List (DbCall Double)} {calls : List (CallRecord Double σ)}
    (h : RunSoFar store orders made calls) {r : CallRecord Double σ} (hr : OwnRows store orders r) :
    RunSoFar store orders (made ++ [r.call]) (calls ++ [r]) where
  calls_eq := by rw [List.map_append, h.calls_eq, List.map_singleton]
  ownRows := by
    intro r' hr'
    rcases List.mem_append.1 hr' with hmem | hmem
    · exact h.ownRows r' hmem
    · rw [List.mem_singleton.1 hmem]
      exact hr

/-- A run that began after the calls in `prior` has made those in `made`. -/
def Running (store : KeyedStore db platform Row) (orders : List (Order Double))
    (prior : List (CallRecord Double σ)) (made : List (DbCall Double)) (b : Bench Double σ) :
    Prop :=
  ∃ calls, b.calls = prior ++ calls ∧ RunSoFar store orders made calls ∧ ∀ r ∈ calls, r.returned

def BrokenOff (store : KeyedStore db platform Row) (orders : List (Order Double))
    (prior : List (CallRecord Double σ)) (b : Bench Double σ) : Prop :=
  ∃ calls, b.calls = prior ++ calls ∧ BrokenOffRun store orders calls

section Run

variable {store : KeyedStore db platform Row} {orders : List (Order Double)}
  {ids : List CppString} {prior : List (CallRecord Double σ)} {made : List (DbCall Double)}
  {P : σ → Prop} {m : EStateM CppString σ α} {Q : α → σ → Prop}

theorem Running.brokenOff {b : Bench Double σ} (h : Running store orders prior made b)
    (hids : EachOnce orders ids) (hmade : made <+: runCalls orders ids) :
    BrokenOff store orders prior b := by
  obtain ⟨calls, hcalls, hrun, -⟩ := h
  exact ⟨calls, hcalls, ids, made, hids, hmade, hrun⟩

variable (prior)

theorem callDb_running (hids : EachOnce orders ids) {call : DbCall Double}
    {answer : α → Option (OrderObject Double)} (hmade : made ++ [call] <+: runCalls orders ids)
    (h : Triple P m Q fun _ _ => True)
    (hok : ∀ a s s', P s → Q a s' → OwnRows store orders ⟨call, s, true, answer a⟩)
    (herr : ∀ s, P s → OwnRows store orders ⟨call, s, false, none⟩) :
    Triple (fun b => Running store orders prior made b ∧ P b.world) (callDb call answer m)
      (fun a b => Running store orders prior (made ++ [call]) b ∧ Q a b.world)
      (fun _ => BrokenOff store orders prior) := by
  apply callDb_triple
  · rintro b a s ⟨⟨calls, hcalls, hrun, hreturned⟩, hb⟩ hm
    have hworld := h.of_ok hb hm
    refine ⟨⟨_, ?_, hrun.concat (hok a b.world s hb hworld), ?_⟩, hworld⟩
    · rw [BenchM.made, hcalls, List.append_assoc]
    · intro r hr
      rcases List.mem_append.1 hr with hmem | hmem
      · exact hreturned r hmem
      · rw [List.mem_singleton.1 hmem]
  · rintro b e s ⟨⟨calls, hcalls, hrun, -⟩, hb⟩ hm
    refine ⟨_, ?_, ids, _, hids, hmade, hrun.concat (herr b.world hb)⟩
    rw [BenchM.made, hcalls, List.append_assoc]

theorem otherCall_running (hids : EachOnce orders ids) (call : DbCall Double)
    {answer : α → Option (OrderObject Double)}
    (hmade : made ++ [call] <+: runCalls orders ids) (hinsert : ∀ o, call ≠ .insertOne o)
    (hfind : ∀ id, call ≠ .findByPrimaryKey id) (h : Triple P m Q fun _ _ => True) :
    Triple (fun b => Running store orders prior made b ∧ P b.world) (callDb call answer m)
      (fun a b => Running store orders prior (made ++ [call]) b ∧ Q a b.world)
      (fun _ => BrokenOff store orders prior) :=
  callDb_running prior hids hmade h (fun _ _ _ _ _ => .of_other hinsert hfind)
    (fun _ _ => .of_other hinsert hfind)

theorem outside_running (hids : EachOnce orders ids) (hmade : made <+: runCalls orders ids)
    (h : Triple P m Q fun _ _ => True) :
    Triple (fun b => Running store orders prior made b ∧ P b.world) (outside m)
      (fun a b => Running store orders prior made b ∧ Q a b.world)
      (fun _ => BrokenOff store orders prior) :=
  outside_triple (fun _ _ _ hb hm => ⟨hb.1, h.of_ok hb.2 hm⟩)
    (fun _ _ _ hb _ => hb.1.brokenOff hids hmade)

end Run

section Phases

variable (store : KeyedStore db platform Row) {dataset : List (Order Double)}
  {config : BenchmarkConfig} (prior : List (CallRecord Double σ)) {orders : List (Order Double)}
  {ids : List CppString}

theorem step_running (hids : EachOnce orders ids) {made : List (DbCall Double)}
    (hmade : made <+: runCalls orders ids) (R : CppString → Option Row) :
    Triple (fun b => Running store orders prior made b ∧ store.rows b.world = R) (step platform)
      (fun _ b => Running store orders prior made b ∧ store.rows b.world = R)
      (fun _ => BrokenOff store orders prior) :=
  outside_running prior hids hmade (store.step_keeps R)

theorem insertOne_running (hids : EachOnce orders ids)
    (hdistinct : (orders.map Order.orderId).Nodup) {done rest : List (Order Double)}
    {o : Order Double} (hsplit : done ++ o :: rest = orders) :
    Triple (fun b => Running store orders prior ([.clearTable] ++ done.map .insertOne) b ∧
        store.rows b.world = store.rowsOf done)
      (insertOne db o)
      (fun _ b => Running store orders prior ([.clearTable] ++ (done ++ [o]).map .insertOne) b ∧
        store.rows b.world = store.rowsOf (done ++ [o]))
      (fun _ => BrokenOff store orders prior) := by
  have habsent : store.rowsOf done o.orderId = none := by
    apply store.rowsOf_absent
    intro hmem
    rw [← hsplit, List.map_append, List.map_cons] at hdistinct
    exact (List.nodup_append.1 hdistinct).2.2 _ hmem _ List.mem_cons_self rfl
  have hfresh (s : σ) (returned : Bool) (hs : store.rows s = store.rowsOf done) :
      OwnRows store orders ⟨.insertOne o, s, returned, none⟩ := {
    fresh := by
      intro o' ho'
      cases ho'
      change store.rows s o.orderId = none
      rw [hs, habsent]
    found := fun id hid => nomatch hid }
  rw [List.append_cons] at hsplit
  have hmade := writes_isPrefix ⟨rest, hsplit⟩ ids
  rw [List.map_append, List.map_singleton, ← List.append_assoc] at hmade ⊢
  have hcall := callDb_running prior hids hmade (store.insertOne_adds _ o)
    (fun _ s _ hs _ => hfresh s true hs) (fun s hs => hfresh s false hs)
  apply hcall.mono (fun _ hb => hb) ?_ (fun _ _ hb => hb)
  intro _ b hb
  rw [store.rowsOf_concat]
  exact ⟨hb.1, hb.2.2⟩

theorem findByPrimaryKey_running (hids : EachOnce orders ids)
    (hdistinct : (orders.map Order.orderId).Nodup) {done rest : List CppString}
    {id : CppString} (hsplit : done ++ id :: rest = ids) :
    Triple (fun b => Running store orders prior
        ([.clearTable] ++ orders.map .insertOne ++ [.connect] ++ done.map .findByPrimaryKey) b ∧
        store.rows b.world = store.rowsOf orders)
      (findByPrimaryKey db id)
      (fun _ b => Running store orders prior
        ([.clearTable] ++ orders.map .insertOne ++ [.connect] ++
          (done ++ [id]).map .findByPrimaryKey) b ∧
        store.rows b.world = store.rowsOf orders)
      (fun _ => BrokenOff store orders prior) := by
  obtain ⟨o, ho, rfl⟩ : ∃ o ∈ orders, o.orderId = id := by
    have hmem : id ∈ ids := by
      rw [← hsplit]
      exact List.mem_append_right _ List.mem_cons_self
    exact List.mem_map.1 (hids.1.mem_iff.1 hmem)
  have hrow := store.rowsOf_mem hdistinct ho
  have hown (s : σ) (returned : Bool) (answer : Option (OrderObject Double))
      (hs : store.rows s = store.rowsOf orders) (hanswer : returned → answer = some o.toObject) :
      OwnRows store orders ⟨.findByPrimaryKey o.orderId, s, returned, answer⟩ := {
    fresh := fun o' ho' => nomatch ho'
    found := by
      intro id hid
      cases hid
      refine ⟨o, ho, rfl, ?_, hanswer⟩
      change store.rows s o.orderId = _
      rw [hs, hrow] }
  rw [List.append_cons] at hsplit
  have hmade := reads_isPrefix ⟨rest, hsplit⟩ orders
  rw [List.map_append, List.map_singleton, ← List.append_assoc] at hmade ⊢
  have hcall := callDb_running prior hids hmade
    (store.findByPrimaryKey_finds _ o.orderId)
    (fun found s _ hs hfound => hown s true _ hs fun _ => congrArg some (hfound.2 o hrow))
    (fun s hs => hown s false none hs fun h => nomatch h)
  exact hcall.mono (fun _ hb => hb) (fun _ _ hb => ⟨hb.1, hb.2.1⟩) (fun _ _ hb => hb)

theorem writePhase_running (hids : EachOnce orders ids)
    (hdistinct : (orders.map Order.orderId).Nodup)
    (horders : dataset.take (rowsToLoad dataset config) = orders) (runNumber : Nat)
    (recorder : LatencyRecorder) :
    Triple (fun b => Running store orders prior [.clearTable] b ∧
        store.rows b.world = fun _ => none)
      (Experiment7.writePhase db platform dataset config runNumber recorder)
      (fun phase b => (Running store orders prior ([.clearTable] ++ orders.map .insertOne) b ∧
        store.rows b.world = store.rowsOf orders) ∧ phase.2 = orders.map Order.orderId)
      (fun _ => BrokenOff store orders prior) := by
  have hbody (done : List (Order Double)) (o : Order Double) (rest : List (Order Double))
      (acc : LatencyRecorder × List CppString) (hsplit : done ++ o :: rest = orders) :
      Triple (fun b => (Running store orders prior ([.clearTable] ++ done.map .insertOne) b ∧
          store.rows b.world = store.rowsOf done) ∧ acc.2 = done.map Order.orderId)
        (Experiment7.writeOrder db platform acc o)
        (fun acc' b =>
          (Running store orders prior ([.clearTable] ++ (done ++ [o]).map .insertOne) b ∧
            store.rows b.world = store.rowsOf (done ++ [o])) ∧
          acc'.2 = (done ++ [o]).map Order.orderId)
        (fun _ => BrokenOff store orders prior) := by
    apply Triple.assuming
    intro hacc
    have hstep := step_running store prior hids
      (writes_isPrefix ⟨rest, (List.append_cons done o rest).symm.trans hsplit⟩ ids)
      (store.rowsOf (done ++ [o]))
    apply (timed_triple (insertOne_running store prior hids hdistinct hsplit) hstep acc.1).bind
    intro timed
    apply (hstep.mono (fun _ hb => hb.1) (fun _ _ hb => hb) (fun _ _ hb => hb)).bind
    intro _ b hb
    refine ⟨hb, ?_⟩
    rw [hacc, List.map_append, List.map_singleton]
  have hstart := step_running store prior hids (writes_isPrefix orders.nil_prefix ids)
    fun _ => none
  have hend := step_running store prior hids (writes_isPrefix orders.prefix_rfl ids)
    (store.rowsOf orders)
  apply hstart.bind
  intro _
  rw [horders]
  apply ((Triple.foldlM hbody (platform.startTimer recorder, [])).mono (fun _ hb => ⟨hb, rfl⟩)
    (fun _ _ hb => hb) (fun _ _ hb => hb)).bind
  intro acc
  apply Triple.assuming
  intro hacc
  apply (nowNs_triple platform).bind
  intro now
  apply hend.bind
  intro _ b hb
  exact ⟨hb, hacc⟩

theorem readPhase_running (hids : EachOnce orders ids)
    (hdistinct : (orders.map Order.orderId).Nodup) {runNumber : Nat}
    (hread : Experiment7.idsToRead platform config runNumber (orders.map Order.orderId) = ids)
    (recorder : LatencyRecorder) :
    Triple (fun b => Running store orders prior
        ([.clearTable] ++ orders.map .insertOne ++ [.connect]) b ∧
        store.rows b.world = store.rowsOf orders)
      (Experiment7.readPhase db platform config runNumber recorder (orders.map Order.orderId))
      (fun _ b => Running store orders prior (runCalls orders ids) b ∧
        store.rows b.world = store.rowsOf orders)
      (fun _ => BrokenOff store orders prior) := by
  apply (step_running store prior hids (connect_isPrefix orders ids) (store.rowsOf orders)).bind
  intro _
  rw [hread]
  have hloop := timedEach_triple
    (fun done id rest hsplit => findByPrimaryKey_running store prior hids hdistinct hsplit)
    (fun done hdone =>
      step_running store prior hids (reads_isPrefix hdone orders) (store.rowsOf orders))
    (platform.startTimer recorder)
  rw [List.map_nil, List.append_nil] at hloop
  apply hloop.bind
  intro recorder'
  apply (nowNs_triple platform).bind
  intro now
  have hend := step_running store prior hids (reads_isPrefix ids.prefix_rfl orders)
    (store.rowsOf orders)
  apply (hend.mono (fun _ hb => hb.1) (fun _ _ hb => hb) (fun _ _ hb => hb)).bind
  intro _
  exact Triple.skip

theorem flushCache_running (hids : EachOnce orders ids) {made : List (DbCall Double)}
    (hmade : made <+: runCalls orders ids) (R : CppString → Option Row) :
    Triple (fun b => Running store orders prior made b ∧ store.rows b.world = R)
      (Experiment7.flushCache db platform)
      (fun _ b => Running store orders prior made b ∧ store.rows b.world = R)
      (fun _ => BrokenOff store orders prior) := by
  have hcontainer : Triple (fun b => Running store orders prior made b ∧ store.rows b.world = R)
      (Experiment7.container db)
      (fun _ b => Running store orders prior made b ∧ store.rows b.world = R)
      (fun _ => BrokenOff store orders prior) := by
    rw [Experiment7.container]
    split_ifs
    · exact Triple.skip
    · exact Triple.skip
    · exact Triple.skip
    · exact fun _ hb => hb.1.brokenOff hids hmade
  apply hcontainer.bind
  intro container
  apply (outside_running prior hids hmade (store.system_keeps _ R)).bind
  intro rc
  split
  · exact fun _ hb => hb.1.brokenOff hids hmade
  · exact Triple.skip

theorem idsToRead_eachOnce (hdistinct : (orders.map Order.orderId).Nodup)
    (platform : Platform σ) (config : BenchmarkConfig) (runNumber : Nat) :
    EachOnce orders
      (Experiment7.idsToRead platform config runNumber (orders.map Order.orderId)) := by
  have hperm := platform.shuffle_perm (config.rngSeed ^^^ (UInt64.ofNat runNumber * 0xFEEDFACE)) 0
    (orders.map Order.orderId)
  exact ⟨hperm, hperm.nodup_iff.2 hdistinct⟩

theorem start_running (hids : EachOnce orders ids) :
    Triple (fun b => b.calls = prior) (step platform)
      (fun _ b => Running store orders prior [] b ∧ True)
      (fun _ => BrokenOff store orders prior) := by
  have hstart (b : Bench Double σ) (hb : b.calls = prior) : Running store orders prior [] b :=
    ⟨[], hb.trans prior.append_nil.symm, .start, fun _ hr => nomatch hr⟩
  apply (outside_calls (C := fun calls => calls = prior) platform.step).mono (fun _ hb => hb)
  · exact fun _ b hb => ⟨hstart b hb, trivial⟩
  · exact fun _ b hb => (hstart b hb).brokenOff hids List.nil_prefix

/-- Whatever the table and `written_order_ids_` held before, the run clears and refills both. -/
theorem runOnce_complete (hdistinct : (orders.map Order.orderId).Nodup)
    (horders : dataset.take (rowsToLoad dataset config) = orders)
    (x : ExperimentObject Experiment7Members) (run : Fin numRuns) :
    Triple (fun b => b.calls = prior) (Experiment7.runOnce db platform dataset config x run)
      (fun _ b => ∃ calls, b.calls = prior ++ calls ∧ CompleteRun store orders calls)
      (fun _ => BrokenOff store orders prior) := by
  have hids := idsToRead_eachOnce hdistinct platform config (run.val + 1)
  generalize hread : Experiment7.idsToRead platform config (run.val + 1)
    (orders.map Order.orderId) = ids at hids
  have hcleared : [] ++ [.clearTable] <+: runCalls orders ids :=
    writes_isPrefix orders.nil_prefix ids
  have hwritten := writes_isPrefix orders.prefix_rfl ids
  have hconnected := connect_isPrefix orders ids
  rw [Experiment7.runOnce]
  apply (start_running store prior hids).bind
  intro _
  apply (otherCall_running prior hids .clearTable hcleared (fun _ h => nomatch h)
    (fun _ h => nomatch h) store.clearTable_empties).bind
  intro _
  apply (step_running store prior hids hcleared _).bind
  intro _
  apply (writePhase_running store prior hids hdistinct horders _ _).bind
  intro written
  apply Triple.assuming
  intro hids'
  apply (step_running store prior hids hwritten _).bind
  intro _
  apply (flushCache_running store prior hids hwritten _).bind
  intro _
  apply (otherCall_running prior hids .connect hconnected (fun _ h => nomatch h)
    (fun _ h => nomatch h) (store.connect_keeps (store.rowsOf orders))).bind
  intro _
  apply (step_running store prior hids hconnected _).bind
  intro _
  rw [hids']
  apply (readPhase_running store prior hids hdistinct hread _).bind
  intro readResult
  apply (step_running store prior hids (List.prefix_refl _) _).bind
  rintro _ b ⟨⟨calls, hcalls, hrun, hreturned⟩, -⟩
  exact ⟨calls, hcalls, ids, hids, hrun, hreturned⟩

/-- From whatever an earlier invocation has left behind, `run` makes three runs one after the other,
each of which reads back the rows that it has inserted itself, or stops at an exception within one
of them. -/
theorem run_readsBack (hdistinct : (dataset.map Order.orderId).Nodup) (config : BenchmarkConfig)
    (printFixed : Nat → ℚ → CppString) (x : ExperimentObject Experiment7Members) :
    Triple (fun b => b.calls = prior) (Experiment7.run db platform dataset config printFixed x)
      (fun _ b => ∃ calls, b.calls = prior ++ calls ∧
        CompleteRuns store (dataset.take (rowsToLoad dataset config)) numRuns calls)
      (fun _ b => ∃ n ≤ numRuns, ∃ calls,
        CompleteRuns store (dataset.take (rowsToLoad dataset config)) n calls ∧
        BrokenOff store (dataset.take (rowsToLoad dataset config)) (prior ++ calls) b) := by
  generalize horders : dataset.take (rowsToLoad dataset config) = orders
  have hdistinct' : (orders.map Order.orderId).Nodup := by
    rw [← horders]
    exact ((List.take_sublist _ _).map Order.orderId).nodup hdistinct
  have hbody (done : List (Fin numRuns)) (run : Fin numRuns) (rest : List (Fin numRuns))
      (x : ExperimentObject Experiment7Members)
      (hsplit : done ++ run :: rest = List.finRange numRuns) :
      Triple
        (fun b => ∃ calls, b.calls = prior ++ calls ∧ CompleteRuns store orders done.length calls)
        (Experiment7.runOnce db platform dataset config x run)
        (fun _ b => ∃ calls, b.calls = prior ++ calls ∧
          CompleteRuns store orders (done ++ [run]).length calls)
        (fun _ b => ∃ n ≤ numRuns, ∃ calls, CompleteRuns store orders n calls ∧
          BrokenOff store orders (prior ++ calls) b) := by
    rintro b ⟨calls, hcalls, hruns⟩
    apply (runOnce_complete store (prior ++ calls) hdistinct' horders x run).mono
      (fun _ hb => hb) ?_ ?_ b hcalls
    · rintro _ b' ⟨current, hcurrent, hrun⟩
      rw [List.length_append]
      exact ⟨calls ++ current, hcurrent.trans (List.append_assoc _ _ _), hruns.more hrun⟩
    · intro _ b' hbroken
      have hle := congrArg List.length hsplit
      rw [List.length_append, List.length_finRange] at hle
      exact ⟨done.length, (Nat.le_add_right _ _).trans_eq hle, calls, hruns, hbroken⟩
  have hloop := Triple.foldlM hbody x
  rw [List.length_finRange] at hloop
  apply (hloop.mono (fun b hb => ?_) (fun _ _ hb => hb) (fun _ _ hb => hb)).bind
  · intro x'
    have hkept := outside_calls (C := fun calls' => ∃ calls, calls' = prior ++ calls ∧
      CompleteRuns store orders numRuns calls) platform.step
    apply (hkept.mono (fun _ hb => hb) (fun _ _ hb => hb) ?_).bind fun _ => Triple.skip
    rintro _ b ⟨calls, hcalls, hruns⟩
    have hnothing : BrokenOffRun store orders [] :=
      ⟨_, [], ⟨.refl _, hdistinct'⟩, List.nil_prefix, .start⟩
    exact ⟨numRuns, le_rfl, calls, hruns, [], hcalls.trans (List.append_nil _).symm, hnothing⟩
  · exact ⟨[], hb.trans prior.append_nil.symm, .none⟩

end Phases

theorem documents_insertOne (o : Order Double) (R : CppString → Option (Document Double)) :
    Triple (fun s => (fun id => s.orders.find? (some id)) = R)
      (MongoDatabase.onOrders (MongoClient.insertOne o))
      (fun _ s => R o.orderId = none ∧ (fun id => s.orders.find? (some id)) =
        Function.update R o.orderId (some (MongoClient.orderToBson o)))
      (fun _ _ => True) := by
  rintro s rfl
  rw [MongoDatabase.onOrders]
  cases hfind : s.orders.find? (some o.orderId) with
  | none =>
    rw [insertOne_fresh o s.orders hfind]
    refine ⟨hfind, funext fun id => ?_⟩
    rw [Keyed.Table.find?_upsert, documentId_orderToBson]
    by_cases hid : id = o.orderId
    · rw [hid, Function.update_self, Function.update_self]
    · rw [Function.update_of_ne hid, Function.update_of_ne fun h => hid (Option.some.inj h)]
  | some doc =>
    simp only [MongoClient.insertOne, documentId_orderToBson, hfind]

theorem documents_findByPrimaryKey [Zero Double] (R : CppString → Option (Document Double))
    (orderId : CppString) :
    Triple (fun s => (fun id => s.orders.find? (some id)) = R)
      (MongoDatabase.onOrders (MongoClient.findByPrimaryKey orderId))
      (fun found s => (fun id => s.orders.find? (some id)) = R ∧
        ∀ o, R orderId = some (MongoClient.orderToBson o) → found = o.toObject)
      (fun _ _ => True) := by
  rintro s rfl
  have hkept := mongo_findByPrimaryKey_keeps (I := fun orders => orders = s.orders) orderId
  rw [MongoDatabase.onOrders]
  cases hfound : MongoClient.findByPrimaryKey orderId s.orders with
  | ok found orders =>
    have horders : orders = s.orders := hkept.of_ok rfl hfound
    refine ⟨by rw [horders], fun o ho => ?_⟩
    rw [mongo_findByPrimaryKey_stored ho] at hfound
    cases hfound
    rfl
  | error e orders => trivial

def mongoStore [Zero Double] :
    KeyedStore (MongoClient.dbInterface : DBInterface Double _) .calm (Document Double) where
  rows w id := w.state.orders.find? (some id)
  rowOf := MongoClient.orderToBson
  clearTable_empties := fallible_triple (P := fun _ => True)
    (Q := fun _ (s : MongoDatabase Double) => (fun id => s.orders.find? (some id)) = fun _ => none)
    (E := fun _ _ => True) (fun _ _ => rfl) fun _ _ => trivial
  insertOne_adds R o := fallible_triple (documents_insertOne o R) fun _ _ => trivial
  findByPrimaryKey_finds R orderId :=
    fallible_triple (documents_findByPrimaryKey R orderId) fun _ _ => trivial
  connect_keeps R := fallible_triple
    (P := fun s : MongoDatabase Double => (fun id => s.orders.find? (some id)) = R)
    (E := fun _ _ => True) Triple.skip fun _ _ => trivial
  system_keeps _ _ := Triple.skip
  step_keeps _ := Triple.skip

def emptyCollection : Bench Rat (Faulty (MongoDatabase Rat)) := .start (.calm ⟨.empty, []⟩)

theorem run_twoRows_returns :
    ∃ x b, Experiment7.run MongoClient.dbInterface .calm twoRows ConfigLoader.defaultConfig
      (fun _ _ => []) (.init .init) emptyCollection = .ok x b := by
  have hreturns : (value? (Experiment7.run MongoClient.dbInterface .calm twoRows
      ConfigLoader.defaultConfig (fun _ _ => []) (.init .init)) emptyCollection).isSome := by
    decide +kernel
  cases hr : Experiment7.run MongoClient.dbInterface .calm twoRows ConfigLoader.defaultConfig
      (fun _ _ => []) (.init .init) emptyCollection with
  | ok x b => exact ⟨x, b, rfl⟩
  | error e b =>
    rw [value?, hr] at hreturns
    cases hreturns

theorem run_readsBack_twoRows :
    ∃ x b, Experiment7.run MongoClient.dbInterface .calm twoRows ConfigLoader.defaultConfig
        (fun _ _ => []) (.init .init) emptyCollection = .ok x b ∧
      ∃ calls, b.calls = [] ++ calls ∧ CompleteRuns mongoStore
        (twoRows.take (rowsToLoad twoRows ConfigLoader.defaultConfig)) numRuns calls := by
  have hdistinct : (twoRows.map Order.orderId).Nodup := by decide
  have hruns := run_readsBack mongoStore [] hdistinct ConfigLoader.defaultConfig (fun _ _ => [])
    (.init .init)
  obtain ⟨x, b, hr⟩ := run_twoRows_returns
  exact ⟨x, b, hr, hruns.of_ok rfl hr⟩

end DbBenchmark
