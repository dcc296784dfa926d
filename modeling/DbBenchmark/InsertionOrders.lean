import DbBenchmark.Interleaving
import DbBenchmark.WorkPartition

namespace DbBenchmark
open Interleaving ThreadPool Experiment2
set_option autoImplicit true

variable {Double : Type} {dataset : List (Order Double)} {totalRows numThreads : UInt32}
  {calls done : List (InsertCall Double)} {c : InsertCall Double}
  {s s' : Pool (Worker Double) (Shared Double)}

def callsOf (dataset : List (Order Double)) (totalRows numThreads : UInt32) (t : Nat) :
    List (InsertCall Double) :=
  if t < numThreads.toNat then
    (List.range' (bound totalRows numThreads t)
      (bound totalRows numThreads (t + 1) - bound totalRows numThreads t)).map fun j =>
        ⟨t, j, dataset[j]?⟩
  else []

theorem mem_callsOf_iff : c ∈ callsOf dataset totalRows numThreads t ↔
    t < numThreads.toNat ∧ c.thread = t ∧ bound totalRows numThreads t ≤ c.index ∧
      c.index < bound totalRows numThreads (t + 1) ∧ c.order = dataset[c.index]? := by
  rw [callsOf]
  split
  · next ht =>
    have hle := bound_le_succ totalRows numThreads ht
    obtain ⟨thread, index, order⟩ := c
    simp only [List.mem_map, List.mem_range'_1, InsertCall.mk.injEq]
    constructor
    · intro h
      obtain ⟨j, ⟨hj, hlt⟩, rfl, rfl, rfl⟩ := h
      exact ⟨ht, rfl, hj, by omega, rfl⟩
    · intro h
      obtain ⟨-, rfl, hj, hlt, horder⟩ := h
      exact ⟨index, ⟨hj, by omega⟩, rfl, rfl, horder.symm⟩
  · next ht => exact iff_of_false List.not_mem_nil fun h => ht h.1

theorem sequences_callsOf (dataset : List (Order Double)) (totalRows numThreads : UInt32) :
    Sequences InsertCall.thread numThreads.toNat (callsOf dataset totalRows numThreads) where
  own _ _ hc := (mem_callsOf_iff.1 hc).2.1
  absent _ ht := if_neg (Nat.not_lt.2 ht)

theorem interleaves_of_joined (h : runThreads dataset totalRows numThreads acts = some s)
    (hjoined : s.joined = numThreads.toNat) :
    Interleaves InsertCall.thread (callsOf dataset totalRows numThreads) s.shared.inserted := by
  intro t
  rw [callsOf]
  split
  · next ht => exact inserted_eq h hjoined ht
  · next ht => exact congrArg WorkerView.inserted (view_of_no_thread h (Nat.not_lt.1 ht))

/-- All threads are spawned and stand at the tests of their loops, and `done` are the calls made. -/
structure Looping (totalRows numThreads : UInt32) (done : List (InsertCall Double))
    (s : Pool (Worker Double) (Shared Double)) : Prop where
  length : s.locals.length = numThreads.toNat
  inserted : s.shared.inserted = done
  atTest : ∀ t < numThreads.toNat, ∃ w, s.locals[t]? = some w ∧ w.pc = .test ∧
    w.i.toNat = bound totalRows numThreads t + (done.filter fun c => c.thread = t).length

theorem looping_spawned (dataset : List (Order Double)) (totalRows numThreads : UInt32) :
    ∃ acts s, runThreads dataset totalRows numThreads acts = some s ∧
      Looping totalRows numThreads [] s := by
  refine ⟨_, _, Program.run_spawns (P := threads dataset totalRows numThreads) _ le_rfl, ?_, rfl, ?_⟩
  · rw [List.length_map, List.length_range]
    rfl
  · intro t ht
    have hlt : t < (threads dataset totalRows numThreads).threads := ht
    have hget : ((List.range (threads dataset totalRows numThreads).threads).map
        (threads dataset totalRows numThreads).start)[t]? =
          some ((threads dataset totalRows numThreads).start t) := by
      rw [List.getElem?_map, List.getElem?_range hlt, Option.map_some]
    exact ⟨_, hget, rfl, startIdx_toNat totalRows numThreads ht⟩

theorem run_turn (dataset : List (Order Double)) (hget : s.locals[t]? = some ⟨i, .test⟩)
    (hlt : i < endIdx totalRows numThreads (UInt32.ofNat t)) :
    ∃ acts shared, (threads dataset totalRows numThreads).run s acts =
        some { s with locals := s.locals.set t ⟨i + 1, .test⟩, shared := shared } ∧
      shared.inserted = s.shared.inserted ++ [⟨t, i.toNat, dataset[i.toNat]?⟩] := by
  have hturns : Program.Turns (threads dataset totalRows numThreads) t ⟨i, .test⟩ s.shared
      ⟨i + 1, .test⟩ ⟨s.shared.accessed ++ [(t, i.toNat)],
        s.shared.inserted ++ [⟨t, i.toNat, dataset[i.toNat]?⟩],
        s.shared.recorders.modify t fun r => r.record 0⟩ :=
    .step 0 (if_pos hlt) (.step 0 rfl (.step 0 rfl (.step 0 rfl .refl)))
  obtain ⟨acts, hrun⟩ := Program.run_turns hturns hget rfl
  exact ⟨acts, _, hrun, rfl⟩

theorem count_concat (done : List (InsertCall Double)) (c : InsertCall Double) (t : Nat) :
    ((done ++ [c]).filter fun c => c.thread = t).length =
      (done.filter fun c => c.thread = t).length + if c.thread = t then 1 else 0 := by
  rw [List.filter_append, List.length_append, List.filter_singleton]
  by_cases h : c.thread = t
  · simp [h]
  · simp [h]

theorem Looping.next (h : Looping totalRows numThreads done s) (ht : c.thread < numThreads.toNat)
    (hindex : c.index = bound totalRows numThreads c.thread +
      (done.filter fun c' => c'.thread = c.thread).length)
    (hlt : c.index < bound totalRows numThreads (c.thread + 1))
    (horder : c.order = dataset[c.index]?) :
    ∃ acts s', (threads dataset totalRows numThreads).run s acts = some s' ∧
      Looping totalRows numThreads (done ++ [c]) s' := by
  obtain ⟨⟨i, pc⟩, hget, rfl, hi⟩ := h.atTest c.thread ht
  have hi' : i.toNat = c.index := hi.trans hindex.symm
  have hstop := endIdx_toNat totalRows numThreads ht
  have htest : i < endIdx totalRows numThreads (UInt32.ofNat c.thread) := by
    rw [UInt64.lt_iff_toNat_lt, hstop, hi']
    exact hlt
  obtain ⟨acts, shared, hrun, hinserted⟩ := run_turn dataset hget htest
  refine ⟨acts, _, hrun, List.length_set.trans h.length, ?_, ?_⟩
  · rw [hinserted, h.inserted, hi', ← horder]
  · intro t htn
    rw [count_concat]
    by_cases htc : c.thread = t
    · subst htc
      refine ⟨_, List.getElem?_set_self (List.getElem?_eq_some_iff.1 hget).1, rfl, ?_⟩
      rw [toNat_succ hstop (hi' ▸ hlt), hi, if_pos rfl, Nat.add_assoc]
    · obtain ⟨w, hw, hpc, hwi⟩ := h.atTest t htn
      refine ⟨w, (List.getElem?_set_ne htc).trans hw, hpc, ?_⟩
      rw [hwi, if_neg htc, Nat.add_zero]

/-- What an interleaving goes on with is the next row of its thread's slice. -/
theorem next_of_interleaves {rest : List (InsertCall Double)}
    (h : Interleaves InsertCall.thread (callsOf dataset totalRows numThreads) (done ++ c :: rest)) :
    c.thread < numThreads.toNat ∧
      c.index = bound totalRows numThreads c.thread +
        (done.filter fun c' => c'.thread = c.thread).length ∧
      c.index < bound totalRows numThreads (c.thread + 1) ∧ c.order = dataset[c.index]? := by
  have hmem := h.mem_iff.1 (List.mem_append_right done List.mem_cons_self)
  obtain ⟨ht, -, -, hlt, horder⟩ := mem_callsOf_iff.1 hmem
  refine ⟨ht, ?_, hlt, horder⟩
  have hfilter : (c :: rest).filter (fun c' => c'.thread = c.thread) =
      c :: rest.filter fun c' => c'.thread = c.thread :=
    List.filter_cons_of_pos (decide_eq_true rfl)
  have hslice := congrArg (List.map InsertCall.index) (h c.thread)
  rw [List.filter_append, hfilter, callsOf, if_pos ht, List.map_map, List.map_append] at hslice
  have hrange : (InsertCall.index ∘ fun j => (⟨c.thread, j, dataset[j]?⟩ : InsertCall Double)) = id :=
    rfl
  rw [hrange, List.map_id, List.map_cons] at hslice
  have hget := congrArg (fun l => l[(done.filter fun c' => c'.thread = c.thread).length]?) hslice
  simp only at hget
  rw [List.getElem?_append_right (List.length_map _).le, List.length_map, Nat.sub_self,
    List.getElem?_cons_zero] at hget
  obtain ⟨_, hindex⟩ := List.getElem?_eq_some_iff.1 hget.symm
  rw [List.getElem_range', Nat.one_mul] at hindex
  exact hindex.symm

theorem inserted_isPrefix (h : (threads dataset totalRows numThreads).run s acts = some s') :
    s.shared.inserted <+: s'.shared.inserted := by
  apply Program.run_induction (fun s' => s.shared.inserted <+: s'.shared.inserted)
    List.prefix_rfl ?_ h
  intro s₁ a s₂ hs₁ ha
  cases a with
  | spawn =>
    obtain ⟨-, rfl⟩ := Program.act_spawn ha
    exact hs₁
  | advance t us =>
    obtain ⟨w, w', g', -, hstep, rfl⟩ := Program.act_advance ha
    apply hs₁.trans
    obtain ⟨i, pc⟩ := w
    cases pc with
    | test =>
      simp only [threads, workerStep] at hstep
      split at hstep
      · cases hstep
        exact List.prefix_rfl
      · cases hstep
        exact List.prefix_rfl
    | body =>
      cases hstep
      exact List.prefix_rfl
    | insert order =>
      cases hstep
      exact List.prefix_append _ _
    | record us =>
      cases hstep
      exact List.prefix_rfl
    | finished => cases hstep
  | join =>
    obtain ⟨-, -, rfl⟩ := Program.act_join ha
    exact hs₁

theorem looping_of_interleaves {rest : List (InsertCall Double)}
    (h : Interleaves InsertCall.thread (callsOf dataset totalRows numThreads) (done ++ rest)) :
    ∃ acts s, runThreads dataset totalRows numThreads acts = some s ∧
      Looping totalRows numThreads done s := by
  induction done using List.reverseRecOn generalizing rest with
  | nil => exact looping_spawned dataset totalRows numThreads
  | append_singleton done c ih =>
    rw [List.append_assoc, List.singleton_append] at h
    obtain ⟨acts, s, hrun, hloop⟩ := ih h
    obtain ⟨ht, hindex, hlt, horder⟩ := next_of_interleaves h
    obtain ⟨acts', s', hrun', hloop'⟩ := hloop.next ht hindex hlt horder
    refine ⟨acts ++ acts', s', ?_, hloop'⟩
    rw [runThreads, Program.run_append, ← runThreads, hrun]
    exact hrun'

def MakesCalls (dataset : List (Order Double)) (totalRows numThreads : UInt32)
    (calls : List (InsertCall Double)) : Prop :=
  ∃ acts s, runThreads dataset totalRows numThreads acts = some s ∧
    s.joined = numThreads.toNat ∧ s.shared.inserted = calls

/-- The orders in which the calls can come are the interleavings of the slices, and all of them. -/
theorem makesCalls_iff : MakesCalls dataset totalRows numThreads calls ↔
    Interleaves InsertCall.thread (callsOf dataset totalRows numThreads) calls := by
  constructor
  · intro h
    obtain ⟨acts, s, hrun, hjoined, rfl⟩ := h
    exact interleaves_of_joined hrun hjoined
  · intro h
    have hcalls := h
    rw [← List.append_nil calls] at hcalls
    obtain ⟨acts, s, hrun, hloop⟩ := looping_of_interleaves hcalls
    obtain ⟨acts', s', hrun', hjoined⟩ := runThreads_completes hrun
    refine ⟨acts ++ acts', s', hrun', hjoined, ?_⟩
    have hall := interleaves_of_joined hrun' hjoined
    rw [runThreads, Program.run_append, ← runThreads, hrun] at hrun'
    have hbegins := inserted_isPrefix hrun'
    rw [hloop.inserted] at hbegins
    have hseq := sequences_callsOf dataset totalRows numThreads
    have hperm := (h.perm hseq).trans (hall.perm hseq).symm
    exact (hbegins.eq_of_length hperm.length_eq).symm

/-- At any moment of any run the calls made so far begin an interleaving of the slices, and each
beginning of one is what some run has made at some moment. -/
theorem calls_so_far_iff : (∃ acts s, runThreads dataset totalRows numThreads acts = some s ∧
      s.shared.inserted = calls) ↔
    ∃ rest, Interleaves InsertCall.thread (callsOf dataset totalRows numThreads) (calls ++ rest) := by
  constructor
  · intro h
    obtain ⟨acts, s, hrun, rfl⟩ := h
    obtain ⟨acts', s', hrun', hjoined⟩ := runThreads_completes hrun
    have hall := interleaves_of_joined hrun' hjoined
    rw [runThreads, Program.run_append, ← runThreads, hrun] at hrun'
    obtain ⟨rest, hrest⟩ := inserted_isPrefix hrun'
    exact ⟨rest, hrest ▸ hall⟩
  · intro h
    obtain ⟨rest, hrest⟩ := h
    obtain ⟨acts, s, hrun, hloop⟩ := looping_of_interleaves hrest
    exact ⟨acts, s, hrun, hloop.inserted⟩

end DbBenchmark
