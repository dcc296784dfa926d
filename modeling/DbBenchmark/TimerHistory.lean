import DbBenchmark.LatencyRecorder
import Mathlib.Data.List.Induction

namespace DbBenchmark
open LatencyRecorder
set_option autoImplicit true

inductive RecorderCall
  | record (durationUs : Nat)
  | startTimer
  | stopTimer
  | reset
  | computeStats
deriving DecidableEq

structure TimedCall where
  now : UInt64
  call : RecorderCall
deriving DecidableEq

namespace LatencyRecorder

/-- There is no body to read: the reading is stored as `stop_timer` stores it. -/
def startTimer (r : LatencyRecorder) (now : UInt64) : LatencyRecorder := { r with startNs := now }

def step (r : LatencyRecorder) (c : TimedCall) : LatencyRecorder :=
  match c.call with
  | .record durationUs => r.record durationUs
  | .startTimer => r.startTimer c.now
  | .stopTimer => r.stopTimer c.now
  | .reset => r.reset
  | .computeStats => r

theorem startNs_step (r : LatencyRecorder) (c : TimedCall) :
    (r.step c).startNs = match c.call with
      | .startTimer => c.now
      | .reset => 0
      | _ => r.startNs := by
  obtain ⟨now, call⟩ := c
  cases call <;> rfl

theorem endNs_step (r : LatencyRecorder) (c : TimedCall) :
    (r.step c).endNs = match c.call with
      | .stopTimer => c.now
      | .reset => 0
      | _ => r.endNs := by
  obtain ⟨now, call⟩ := c
  cases call <;> rfl

def after (calls : List TimedCall) : LatencyRecorder := calls.foldl step .init

theorem after_concat (calls : List TimedCall) (c : TimedCall) :
    after (calls ++ [c]) = (after calls).step c :=
  List.foldl_concat ..

end LatencyRecorder

/-- The clock never goes back, from the construction on. -/
def Steady (built : UInt64) (calls : List TimedCall) : Prop :=
  (built :: calls.map TimedCall.now).Pairwise (· ≤ ·)

instance (built : UInt64) (calls : List TimedCall) : Decidable (Steady built calls) :=
  inferInstanceAs (Decidable ((built :: calls.map TimedCall.now).Pairwise (· ≤ ·)))

def sinceReset (calls : List TimedCall) : List TimedCall :=
  calls.foldl (fun since c => if c.call = .reset then [] else since ++ [c]) []

/-- When the last reset was, or the construction if there was none. -/
def resetAt (built : UInt64) (calls : List TimedCall) : UInt64 :=
  calls.foldl (fun since c => if c.call = .reset then c.now else since) built

theorem sinceReset_concat (calls : List TimedCall) (c : TimedCall) :
    sinceReset (calls ++ [c]) = if c.call = .reset then [] else sinceReset calls ++ [c] :=
  List.foldl_concat ..

theorem resetAt_concat (built : UInt64) (calls : List TimedCall) (c : TimedCall) :
    resetAt built (calls ++ [c]) = if c.call = .reset then c.now else resetAt built calls :=
  List.foldl_concat ..

def lastReading (call : RecorderCall) (calls : List TimedCall) : Option UInt64 :=
  (calls.filter fun c => c.call = call).getLast?.map TimedCall.now

@[simp] theorem lastReading_nil (call : RecorderCall) : lastReading call [] = none := rfl

@[simp] theorem lastReading_concat (call : RecorderCall) (calls : List TimedCall) (c : TimedCall) :
    lastReading call (calls ++ [c]) = if c.call = call then some c.now else lastReading call calls := by
  by_cases hc : c.call = call
  · simp [lastReading, hc]
  · simp [lastReading, hc]

theorem lastReading_append (call : RecorderCall) (calls calls' : List TimedCall) :
    lastReading call (calls ++ calls') =
      (lastReading call calls').or (lastReading call calls) := by
  rw [lastReading, List.filter_append, List.getLast?_append, Option.map_or]
  rfl

theorem lastReading_eq_none_iff {calls : List TimedCall} :
    lastReading call calls = none ↔ ∀ c ∈ calls, c.call ≠ call := by
  simp [lastReading]

/-- The members hold the last readings, and zero where there is none. -/
structure Follows (r : LatencyRecorder) (since : List TimedCall) : Prop where
  startNs : r.startNs = (lastReading .startTimer since).getD 0
  endNs : r.endNs = (lastReading .stopTimer since).getD 0

theorem Follows.step (h : Follows r since) (c : TimedCall) :
    Follows (r.step c) (if c.call = .reset then [] else since ++ [c]) where
  startNs := by
    rw [startNs_step, h.startNs]
    cases hc : c.call <;> simp [hc]
  endNs := by
    rw [endNs_step, h.endNs]
    cases hc : c.call <;> simp [hc]

theorem follows_after (calls : List TimedCall) : Follows (after calls) (sinceReset calls) := by
  induction calls using List.reverseRecOn with
  | nil => exact ⟨rfl, rfl⟩
  | append_singleton calls c ih =>
    rw [after_concat, sinceReset_concat]
    exact ih.step c

theorem Steady.concat_iff {built : UInt64} {calls : List TimedCall} {c : TimedCall} :
    Steady built (calls ++ [c]) ↔
      Steady built calls ∧ ∀ reading ∈ built :: calls.map TimedCall.now, reading ≤ c.now := by
  rw [Steady, List.map_append, ← List.cons_append, List.pairwise_append, Steady]
  simp

theorem resetAt_mem (built : UInt64) (calls : List TimedCall) :
    resetAt built calls ∈ built :: calls.map TimedCall.now := by
  induction calls using List.reverseRecOn with
  | nil => exact List.mem_cons_self
  | append_singleton calls c ih =>
    rw [resetAt_concat]
    split
    · simp
    · rw [List.map_append, ← List.cons_append]
      exact List.mem_append_left _ ih

theorem sinceReset_subset (calls : List TimedCall) : sinceReset calls ⊆ calls := by
  induction calls using List.reverseRecOn with
  | nil => exact List.Subset.refl _
  | append_singleton calls c ih =>
    rw [sinceReset_concat]
    split
    · exact List.nil_subset _
    · exact List.append_subset.2 ⟨List.subset_append_of_subset_left _ ih, by simp⟩

theorem Steady.since {built : UInt64} {calls : List TimedCall} (h : Steady built calls) :
    Steady (resetAt built calls) (sinceReset calls) := by
  induction calls using List.reverseRecOn with
  | nil => exact h
  | append_singleton calls c ih =>
    obtain ⟨hcalls, hc⟩ := Steady.concat_iff.1 h
    rw [resetAt_concat, sinceReset_concat]
    split
    · exact List.pairwise_singleton _ _
    · refine Steady.concat_iff.2 ⟨ih hcalls, List.forall_mem_cons.2 ⟨hc _ (resetAt_mem _ _), ?_⟩⟩
      intro reading hreading
      obtain ⟨c', hc', rfl⟩ := List.mem_map.1 hreading
      exact hc _ (List.mem_cons_of_mem _ (List.mem_map_of_mem (sinceReset_subset calls hc')))

theorem exists_of_lastReading {calls : List TimedCall} (h : lastReading call calls = some reading) :
    ∃ c ∈ calls, c.call = call ∧ c.now = reading := by
  obtain ⟨c, hc, rfl⟩ := Option.map_eq_some_iff.1 h
  obtain ⟨hmem, hcall⟩ := List.mem_filter.1 (List.mem_of_getLast? hc)
  exact ⟨c, hmem, by simpa using hcall, rfl⟩

/-- A reading that a timer holds lies between the last reset and the present call. -/
theorem Steady.lastReading_bounds {built : UInt64} {calls : List TimedCall} {c : TimedCall}
    (h : Steady built (calls ++ [c])) (hlast : lastReading call (sinceReset calls) = some reading) :
    resetAt built calls ≤ reading ∧ reading ≤ c.now := by
  obtain ⟨hcalls, hc⟩ := Steady.concat_iff.1 h
  obtain ⟨c', hc', -, rfl⟩ := exists_of_lastReading hlast
  have hsince := (List.pairwise_cons.1 hcalls.since).1
  exact ⟨hsince _ (List.mem_map_of_mem hc'),
    hc _ (List.mem_cons_of_mem _ (List.mem_map_of_mem (sinceReset_subset calls hc')))⟩

/-- What `compute_stats` subtracts does not wrap around, and it reports no more time than has
passed since the last reset. -/
def ElapsedSound (built now : UInt64) (calls : List TimedCall) : Prop :=
  (after calls).startNs ≤ (after calls).endNs ∧
    (after calls).computeStats.totalTimeMs ≤
      (now.toNat - (resetAt built calls).toNat : Nat) / 1000000

def TimersInOrder (reset now : UInt64) (since : List TimedCall) : Prop :=
  match lastReading .startTimer since, lastReading .stopTimer since with
  | none, none => True
  | some start, none => start = 0
  | none, some stop => stop.toNat ≤ now.toNat - reset.toNat
  | some start, some stop => start ≤ stop

theorem elapsedSound_iff_nat {built now : UInt64} {calls : List TimedCall}
    (hsome : (after calls).latenciesUs ≠ []) :
    ElapsedSound built now calls ↔ (after calls).startNs ≤ (after calls).endNs ∧
      (after calls).endNs.toNat - (after calls).startNs.toNat ≤
        now.toNat - (resetAt built calls).toNat := by
  apply and_congr_right
  intro hle
  have htotal : (after calls).computeStats.totalTimeMs =
      ((after calls).endNs.toNat - (after calls).startNs.toNat : Nat) / 1000000 := by
    simp only [computeStats, hsome, if_false, UInt64.toNat_sub_of_le _ _ hle]
  rw [htotal, div_le_div_iff_of_pos_right (by norm_num), Nat.cast_le]

theorem elapsedSound_iff {built now : UInt64} {calls : List TimedCall}
    (hclock : Steady built (calls ++ [⟨now, .computeStats⟩]))
    (hsome : (after calls).latenciesUs ≠ []) :
    ElapsedSound built now calls ↔
      TimersInOrder (resetAt built calls) now (sinceReset calls) := by
  obtain ⟨hstart, hend⟩ := follows_after calls
  rw [elapsedSound_iff_nat hsome, hstart, hend, TimersInOrder]
  cases hs : lastReading .startTimer (sinceReset calls) with
  | none =>
    cases he : lastReading .stopTimer (sinceReset calls) with
    | none => simp
    | some stop => simp
  | some start =>
    cases he : lastReading .stopTimer (sinceReset calls) with
    | none => simp
    | some stop =>
      have hreset := (hclock.lastReading_bounds hs).1
      have hnow := (hclock.lastReading_bounds he).2
      simp only [Option.getD_some, UInt64.le_iff_toNat_le] at hreset hnow ⊢
      exact ⟨fun h => h.1, fun h => ⟨h, by omega⟩⟩

/-- There was no timer call, or a start, and after the last start a stop. -/
def StopsLast (since : List TimedCall) : Prop :=
  (∀ c ∈ since, c.call ≠ .startTimer ∧ c.call ≠ .stopTimer) ∨
    ∃ earlier start later, since = earlier ++ ⟨start, .startTimer⟩ :: later ∧
      (∀ c ∈ later, c.call ≠ .startTimer) ∧ ∃ c ∈ later, c.call = .stopTimer

theorem StopsLast.timersInOrder {reset : UInt64} {since : List TimedCall} (h : StopsLast since)
    (hclock : Steady reset since) (now : UInt64) : TimersInOrder reset now since := by
  rcases h with hnone | ⟨earlier, start, later, rfl, hstart, c, hc, hstop⟩
  · have hstart := lastReading_eq_none_iff.2 fun c hc => (hnone c hc).1
    have hstop := lastReading_eq_none_iff.2 fun c hc => (hnone c hc).2
    simp only [TimersInOrder, hstart, hstop]
  · have hlast : lastReading .startTimer (earlier ++ ⟨start, .startTimer⟩ :: later) =
        some start := by
      rw [List.append_cons, lastReading_append, lastReading_eq_none_iff.2 hstart, Option.none_or,
        lastReading_concat, if_pos rfl]
    have hsome : lastReading .stopTimer later ≠ none :=
      fun hnone => lastReading_eq_none_iff.1 hnone c hc hstop
    obtain ⟨stop, hreading⟩ := Option.ne_none_iff_exists'.1 hsome
    have hstopped : lastReading .stopTimer (earlier ++ ⟨start, .startTimer⟩ :: later) =
        some stop := by
      rw [List.append_cons, lastReading_append, hreading, Option.some_or]
    obtain ⟨c', hc', -, rfl⟩ := exists_of_lastReading hreading
    have hafter : (start :: later.map TimedCall.now).Pairwise (· ≤ ·) := by
      apply List.Pairwise.sublist ?_ hclock
      rw [List.map_append, List.map_cons]
      exact (List.sublist_append_right _ _).cons _
    simp only [TimersInOrder, hlast, hstopped]
    exact (List.pairwise_cons.1 hafter).1 _ (List.mem_map_of_mem hc')

/-- At every `compute_stats` of a run: the elapsed time is sound exactly when the timers are in
order, and so it is where the recorder was stopped after it was last started. -/
theorem run_elapsedSound_iff {built : UInt64} {calls : List TimedCall} (hclock : Steady built calls)
    {before rest : List TimedCall} {now : UInt64}
    (hcalls : calls = before ++ ⟨now, .computeStats⟩ :: rest)
    (hsome : (after before).latenciesUs ≠ []) :
    (ElapsedSound built now before ↔
        TimersInOrder (resetAt built before) now (sinceReset before)) ∧
      (StopsLast (sinceReset before) → ElapsedSound built now before) := by
  have hbefore : Steady built (before ++ [⟨now, .computeStats⟩]) := by
    rw [hcalls, List.append_cons] at hclock
    apply List.Pairwise.sublist ?_ hclock
    exact ((List.sublist_append_left _ _).map _).cons_cons _
  have hiff := elapsedSound_iff hbefore hsome
  exact ⟨hiff, fun h => hiff.2 (h.timersInOrder (Steady.concat_iff.1 hbefore).1.since now)⟩

def stoppedCalls : List TimedCall :=
  [⟨5, .startTimer⟩, ⟨7, .record 1⟩, ⟨8, .stopTimer⟩]

theorem run_elapsedSound_iff_stopped :
    (ElapsedSound 3 9 stoppedCalls ↔
        TimersInOrder (resetAt 3 stoppedCalls) 9 (sinceReset stoppedCalls)) ∧
      (StopsLast (sinceReset stoppedCalls) → ElapsedSound 3 9 stoppedCalls) := by
  have hclock : Steady 3 (stoppedCalls ++ [⟨9, .computeStats⟩]) := by decide
  exact run_elapsedSound_iff hclock rfl (by decide)

/-- The timer is started again after the stop and not stopped any more. -/
def restartedCalls : List TimedCall :=
  [⟨1, .startTimer⟩, ⟨2, .record 1⟩, ⟨4, .stopTimer⟩, ⟨5, .startTimer⟩]

/-- The difference wraps around, to more than five hundred years. -/
theorem not_elapsedSound_restarted :
    Steady 0 (restartedCalls ++ [⟨6, .computeStats⟩]) ∧ (after restartedCalls).latenciesUs ≠ [] ∧
      ¬ ElapsedSound 0 6 restartedCalls := by
  refine ⟨by decide, by decide, ?_⟩
  intro h
  exact absurd h.1 (by decide)

end DbBenchmark
