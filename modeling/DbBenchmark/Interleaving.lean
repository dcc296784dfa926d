import DbBenchmark.KeyedTable
import DbBenchmark.ThreadPool

namespace Interleaving
open Keyed Keyed.Table
set_option autoImplicit true

variable {α R K : Type} {thread : α → Nat} {seq : Nat → List α} {n : Nat}

/-- Each thread's sequence in its own order, and nothing else. -/
def Interleaves (thread : α → Nat) (seq : Nat → List α) (l : List α) : Prop :=
  ∀ t, (l.filter fun x => thread x = t) = seq t

structure Sequences (thread : α → Nat) (n : Nat) (seq : Nat → List α) : Prop where
  own : ∀ t, ∀ x ∈ seq t, thread x = t
  absent : ∀ t, n ≤ t → seq t = []

theorem Interleaves.mem_iff (h : Interleaves thread seq l) : x ∈ l ↔ x ∈ seq (thread x) := by
  rw [← h (thread x), List.mem_filter, decide_eq_true_eq]
  exact (and_iff_left rfl).symm

theorem Interleaves.perm (h : Interleaves thread seq l) (hseq : Sequences thread n seq) :
    l.Perm ((List.range n).flatMap seq) := by
  have hparts : ∀ t, n ≤ t → (l.filter fun x => thread x = t) = [] := fun t ht =>
    (h t).trans (hseq.absent t ht)
  have hperm := ThreadPool.flatMap_filter_perm thread n l hparts
  simp only [h _] at hperm
  exact hperm.symm

theorem filter_seq (hseq : Sequences thread n seq) (t u : Nat) :
    ((seq u).filter fun x => thread x = t) = if u = t then seq t else [] := by
  split
  · next hu =>
    subst hu
    exact List.filter_eq_self.2 fun x hx => decide_eq_true (hseq.own u x hx)
  · next hu =>
    apply List.filter_eq_nil_iff.2
    intro x hx
    rw [decide_eq_true_eq, hseq.own u x hx]
    exact hu

theorem flatMap_if_eq {ts : List Nat} (hts : ts.Nodup) (t : Nat) (l : List α) :
    (ts.flatMap fun u => if u = t then l else []) = if t ∈ ts then l else [] := by
  induction ts with
  | nil => rfl
  | cons u ts ih =>
    obtain ⟨hu, hts⟩ := List.nodup_cons.1 hts
    rw [List.flatMap_cons, ih hts]
    by_cases hut : u = t
    · subst hut
      simp [hu]
    · simp [hut, Ne.symm hut]

theorem interleaves_flatMap {ts : List Nat} (hseq : Sequences thread n seq)
    (hts : ts.Perm (List.range n)) :
    Interleaves thread seq (ts.flatMap seq) := by
  intro t
  have hnodup : ts.Nodup := hts.nodup_iff.2 List.nodup_range
  rw [List.filter_flatMap]
  simp only [filter_seq hseq]
  rw [flatMap_if_eq hnodup]
  split
  · rfl
  · next ht =>
    rw [hts.mem_iff, List.mem_range] at ht
    exact (hseq.absent t (Nat.le_of_not_lt ht)).symm

variable [DecidableEq K] {key : R → K} {row : α → R}

def KeysOwned (thread : α → Nat) (seq : Nat → List α) (key : R → K) (row : α → R) : Prop :=
  ∀ x y, x ∈ seq (thread x) → y ∈ seq (thread y) → key (row x) = key (row y) → thread x = thread y

theorem filter_key_of_owned (h : KeysOwned thread seq key row) (hl : Interleaves thread seq l)
    (hx : x ∈ seq (thread x)) : (l.filter fun y => key (row y) = key (row x)) =
      (seq (thread x)).filter fun y => key (row y) = key (row x) := by
  rw [← hl (thread x), List.filter_filter]
  apply List.filter_congr
  intro y hy
  rw [Bool.eq_iff_iff]
  simp only [decide_eq_true_eq, Bool.and_eq_true]
  exact ⟨fun hkey => ⟨hkey, h y x (hl.mem_iff.1 hy) hx hkey⟩, And.left⟩

theorem lastWritten_perm_of_owned (h : KeysOwned thread seq key row)
    (hl : Interleaves thread seq l) (hl' : Interleaves thread seq l') :
    (lastWritten key (l.map row)).Perm (lastWritten key (l'.map row)) := by
  rw [lastWritten_perm_iff]
  intro k
  rw [List.filter_map, List.filter_map]
  simp only [Function.comp_def]
  by_cases hk : ∃ x, x ∈ seq (thread x) ∧ key (row x) = k
  · obtain ⟨x, hx, hkey⟩ := hk
    subst hkey
    rw [filter_key_of_owned h hl hx, filter_key_of_owned h hl' hx]
  · have hnone {l : List α} (hl : Interleaves thread seq l) :
        (l.filter fun x => key (row x) = k) = [] := by
      apply List.filter_eq_nil_iff.2
      intro x hx hkey
      exact hk ⟨x, hl.mem_iff.1 hx, of_decide_eq_true hkey⟩
    rw [hnone hl, hnone hl']

/-- Where a thread is the last to run, its last write under a key is what is left there. -/
theorem lastWritten_of_last (key : R → K) (row : α → R) (hseq : Sequences thread n seq) (ht : t < n)
    (hx : x ∈ seq t) : ∃ l, Interleaves thread seq l ∧
      ∃ y ∈ seq t, key (row y) = key (row x) ∧ row y ∈ lastWritten key (l.map row) := by
  have hts : ((List.range n).erase t ++ [t]).Perm (List.range n) :=
    List.perm_append_comm.trans (List.perm_cons_erase (List.mem_range.2 ht)).symm
  have hmem : x ∈ (seq t).filter fun y => key (row y) = key (row x) :=
    List.mem_filter.2 ⟨hx, decide_eq_true rfl⟩
  obtain ⟨y, hy⟩ := Option.ne_none_iff_exists'.1
    (List.getLast?_eq_none_iff.not.2 (List.ne_nil_of_mem hmem))
  have hlast := List.mem_filter.1 (List.mem_of_getLast? hy)
  have hkey : key (row y) = key (row x) := of_decide_eq_true hlast.2
  refine ⟨_, interleaves_flatMap hseq hts, y, hlast.1, hkey, ?_⟩
  rw [mem_lastWritten_iff, hkey, List.filter_map, List.flatMap_append, List.filter_append,
    List.flatMap_singleton, List.map_append, List.getLast?_append, List.getLast?_map]
  simp only [Function.comp_def]
  rw [hy]
  rfl

/-- What is left of the writes is settled by the sequences exactly if no two threads write under one
key. -/
theorem settled_iff (key : R → K) {row : α → R} (hseq : Sequences thread n seq)
    (hrow : ∀ x y, x ∈ seq (thread x) → y ∈ seq (thread y) → row x = row y → thread x = thread y) :
    (∀ l l', Interleaves thread seq l → Interleaves thread seq l' →
      (lastWritten key (l.map row)).Perm (lastWritten key (l'.map row))) ↔
      KeysOwned thread seq key row := by
  constructor
  · intro h x y hx hy hkey
    have hlt {z : α} (hz : z ∈ seq (thread z)) : thread z < n := by
      by_contra hge
      rw [hseq.absent _ (Nat.le_of_not_lt hge)] at hz
      exact List.not_mem_nil hz
    obtain ⟨l, hl, x', hx', hkx, hleft⟩ :=
      lastWritten_of_last key row hseq (hlt hx) hx
    obtain ⟨l', hl', y', hy', hky, hleft'⟩ :=
      lastWritten_of_last key row hseq (hlt hy) hy
    have hsame : row x' = row y' := by
      have hmem := (h l l' hl hl').mem_iff.1 hleft
      rw [mem_lastWritten_iff] at hmem hleft'
      rw [hky, ← hkey, ← hkx, hmem] at hleft'
      exact Option.some.inj hleft'
    have hx'' := hseq.own _ x' hx'
    have hy'' := hseq.own _ y' hy'
    rw [← hx'', ← hy'']
    exact hrow x' y' (by rwa [hx'']) (by rwa [hy'']) hsame
  · intro h l l' hl hl'
    exact lastWritten_perm_of_owned h hl hl'

end Interleaving
