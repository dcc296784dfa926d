import DbBenchmark.Throwing
import Mathlib.Data.List.Lemmas
import Mathlib.Data.List.Induction
import Mathlib.Data.List.Nodup
import Mathlib.Data.List.Pairwise
import Mathlib.Data.List.Perm.Subperm
import Mathlib.Logic.Function.Basic

namespace Keyed
open Throwing

/-- A finite map from keys to rows, kept as its rows: no two rows share a key. -/
structure Table {R K : Type} (key : R → K) where
  rows : List R
  keys_nodup : (rows.map key).Nodup

namespace Table

variable {R K : Type} {key : R → K}

def empty : Table key := ⟨[], List.nodup_nil⟩

@[simp] theorem rows_empty : (empty : Table key).rows = [] := rfl

variable [DecidableEq K]

/-- Write a row; a row stored under the same key is replaced. -/
def upsert (t : Table key) (r : R) : Table key where
  rows := t.rows.filter (fun x => key x ≠ key r) ++ [r]
  keys_nodup := by
    rw [List.map_append, List.nodup_append]
    refine ⟨(List.filter_sublist.map key).nodup t.keys_nodup, List.nodup_singleton _, ?_⟩
    intro a ha b hb he
    obtain ⟨x, hx, rfl⟩ := List.mem_map.1 ha
    have hne := List.of_mem_filter hx
    simp only [List.map_cons, List.map_nil, List.mem_singleton] at hb
    simp [he, hb] at hne

def erase (t : Table key) (k : K) : Table key where
  rows := t.rows.filter (fun x => key x ≠ k)
  keys_nodup := (List.filter_sublist.map key).nodup t.keys_nodup

def find? (t : Table key) (k : K) : Option R := t.rows.find? (fun x => key x = k)

@[simp] theorem rows_upsert (t : Table key) (r : R) :
    (t.upsert r).rows = t.rows.filter (fun x => key x ≠ key r) ++ [r] := rfl

@[simp] theorem rows_erase (t : Table key) (k : K) :
    (t.erase k).rows = t.rows.filter (fun x => key x ≠ k) := rfl

theorem mem_upsert {t : Table key} {r x : R} :
    x ∈ (t.upsert r).rows ↔ x = r ∨ (x ∈ t.rows ∧ key x ≠ key r) := by
  simp [or_comm]

theorem mem_erase {t : Table key} {k : K} {x : R} :
    x ∈ (t.erase k).rows ↔ x ∈ t.rows ∧ key x ≠ k := by
  simp

theorem find?_eq_some {t : Table key} {k : K} {r : R} :
    t.find? k = some r ↔ r ∈ t.rows ∧ key r = k := by
  constructor
  · intro h
    exact ⟨List.mem_of_find?_eq_some h, by simpa using List.find?_some h⟩
  · intro h'
    obtain ⟨hr, rfl⟩ := h'
    cases hf : t.find? (key r) with
    | none =>
      have hnone := List.find?_eq_none.1 hf r hr
      simp at hnone
    | some x =>
      have hx : key x = key r := by simpa using List.find?_some hf
      rw [List.inj_on_of_nodup_map t.keys_nodup (List.mem_of_find?_eq_some hf) hr hx]

theorem find?_eq_none {t : Table key} {k : K} :
    t.find? k = none ↔ ∀ r ∈ t.rows, key r ≠ k := by
  simp [find?]

theorem filter_key_eq {t : Table key} {r : R} (hr : r ∈ t.rows) :
    (t.rows.filter fun x => key x = key r) = [r] := by
  obtain ⟨rows, hnodup⟩ := t
  simp only at hr ⊢
  induction rows with
  | nil => exact absurd hr List.not_mem_nil
  | cons x rows ih =>
    obtain ⟨hx, hnodup⟩ := List.nodup_cons.1 hnodup
    rcases List.mem_cons.1 hr with rfl | hr
    · have hrest : (rows.filter fun x => key x = key r) = [] := by
        apply List.filter_eq_nil_iff.2
        intro y hy hkey
        exact hx (of_decide_eq_true hkey ▸ List.mem_map_of_mem hy)
      rw [List.filter_cons_of_pos (by simp), hrest]
    · have hne : key x ≠ key r := fun hkey => hx (hkey ▸ List.mem_map_of_mem hr)
      rw [List.filter_cons_of_neg (by simpa using hne), ih hnodup hr]

theorem rows_upsert_of_find?_eq_none {t : Table key} {r : R} (h : t.find? (key r) = none) :
    (t.upsert r).rows = t.rows ++ [r] := by
  rw [rows_upsert, List.filter_eq_self.2]
  intro x hx
  simpa using find?_eq_none.1 h x hx

theorem find?_upsert (t : Table key) (r : R) (k : K) :
    (t.upsert r).find? k = Function.update t.find? (key r) (some r) k := by
  by_cases hk : k = key r
  · subst k
    rw [Function.update_self, find?_eq_some, mem_upsert]
    exact ⟨.inl rfl, rfl⟩
  · rw [Function.update_of_ne hk]
    apply Option.ext
    intro x
    rw [find?_eq_some, find?_eq_some, mem_upsert]
    constructor
    · rintro ⟨rfl | ⟨hx, _⟩, rfl⟩
      · exact absurd rfl hk
      · exact ⟨hx, rfl⟩
    · intro h'
      obtain ⟨hx, rfl⟩ := h'
      exact ⟨.inr ⟨hx, hk⟩, rfl⟩

theorem find?_erase (t : Table key) (k k' : K) :
    (t.erase k).find? k' = Function.update t.find? k none k' := by
  by_cases hk : k' = k
  · subst k'
    rw [Function.update_self, find?_eq_none]
    intro r hr
    exact (mem_erase.1 hr).2
  · rw [Function.update_of_ne hk]
    apply Option.ext
    intro x
    rw [find?_eq_some, find?_eq_some, mem_erase]
    constructor
    · intro h'
      obtain ⟨⟨hx, _⟩, rfl⟩ := h'
      exact ⟨hx, rfl⟩
    · intro h'
      obtain ⟨hx, rfl⟩ := h'
      exact ⟨⟨hx, hk⟩, rfl⟩

/-- Store a row, unless its key is taken. -/
def insertNew {ε : Type} (taken : ε) (r : R) : EStateM ε (Table key) Unit := fun t =>
  match t.find? (key r) with
  | none => .ok () (t.upsert r)
  | some _ => .error taken t

theorem insertNew_eq_ok_iff {ε : Type} {taken : ε} {r : R} {t t' : Table key} :
    insertNew taken r t = .ok () t' ↔ t.find? (key r) = none ∧ t' = t.upsert r := by
  rw [insertNew]
  cases t.find? (key r) <;> simp [eq_comm]

theorem find?_upsert_eq_none_iff {t : Table key} {r : R} {k : K} :
    (t.upsert r).find? k = none ↔ k ≠ key r ∧ t.find? k = none := by
  rw [find?_upsert]
  by_cases hk : k = key r
  · simp [hk]
  · simp [hk]

theorem forM_insertNew_returns_iff {ε : Type} {taken : ε} {rs : List R} {t : Table key} :
    (∃ t', rs.forM (insertNew taken) t = .ok () t') ↔
      (rs.map key).Nodup ∧ ∀ r ∈ rs, t.find? (key r) = none := by
  induction rs generalizing t with
  | nil => exact ⟨fun _ => ⟨List.nodup_nil, List.forall_mem_nil _⟩, fun _ => ⟨t, rfl⟩⟩
  | cons r rs ih =>
    have hstep : (∃ t', (r :: rs).forM (insertNew taken) t = .ok () t') ↔
        t.find? (key r) = none ∧ ∃ t', rs.forM (insertNew taken) (t.upsert r) = .ok () t' := by
      simp only [forM_cons_eq_ok_iff, insertNew_eq_ok_iff]
      grind
    have hfree : (∀ x ∈ rs, (t.upsert r).find? (key x) = none) ↔
        key r ∉ rs.map key ∧ ∀ x ∈ rs, t.find? (key x) = none := by
      simp [find?_upsert_eq_none_iff, forall_and]
    rw [hstep, ih, hfree, List.map_cons, List.nodup_cons, List.forall_mem_cons]
    tauto

theorem rows_of_forM_insertNew {ε : Type} {taken : ε} {rs : List R} {t t' : Table key}
    (h : rs.forM (insertNew taken) t = .ok () t') : t'.rows = t.rows ++ rs := by
  induction rs generalizing t with
  | nil =>
    cases h
    rw [List.append_nil]
  | cons r rs ih =>
    obtain ⟨t₁, hr, hrs⟩ := forM_cons_eq_ok_iff.1 h
    obtain ⟨hfree, rfl⟩ := insertNew_eq_ok_iff.1 hr
    rw [ih hrs, rows_upsert_of_find?_eq_none hfree, List.append_assoc, List.singleton_append]

def lastWritten (key : R → K) (rs : List R) : List R :=
  rs.pwFilter (fun a b => key a ≠ key b)

theorem lastWritten_cons (r : R) (rs : List R) :
    lastWritten key (r :: rs) =
      if ∀ x ∈ lastWritten key rs, key r ≠ key x then r :: lastWritten key rs
      else lastWritten key rs := rfl

theorem lastWritten_concat (rs : List R) (r : R) :
    lastWritten key (rs ++ [r]) = (lastWritten key rs).filter (fun x => key x ≠ key r) ++ [r] := by
  induction rs with
  | nil => rfl
  | cons a rs ih =>
    rw [List.cons_append, lastWritten_cons, lastWritten_cons, ih]
    by_cases ha : key a = key r
    · -- the new row displaces `a`, whether or not `a` had survived until now
      rw [if_neg (fun h => h r (by simp) ha)]
      split <;> simp [ha]
    · have hiff : (∀ x ∈ (lastWritten key rs).filter (fun x => key x ≠ key r) ++ [r],
          key a ≠ key x) ↔ ∀ x ∈ lastWritten key rs, key a ≠ key x := by
        constructor
        · intro h x hx he
          have hxr : key x ≠ key r := fun hxr => ha (he.trans hxr)
          exact h x (by simp [hx, hxr]) he
        · intro h x hx
          rcases List.mem_append.1 hx with hx | hx
          · exact h x (List.mem_of_mem_filter hx)
          · rw [List.mem_singleton.1 hx]
            exact ha
      simp only [hiff]
      split <;> simp [ha]

theorem lastWritten_eq_self_iff {rs : List R} :
    lastWritten key rs = rs ↔ rs.Pairwise (fun a b => key a ≠ key b) :=
  List.pwFilter_eq_self

theorem lastWritten_subset (rs : List R) : lastWritten key rs ⊆ rs :=
  List.pwFilter_subset rs

theorem lastWritten_eq_self_of_subset {rs : List R} (hn : rs.Nodup)
    (hs : rs ⊆ lastWritten key rs) : lastWritten key rs = rs := by
  have hl : rs.length ≤ (lastWritten key rs).length := (hn.subperm hs).length_le
  exact (List.pwFilter_sublist rs).eq_of_length_le hl

theorem lastWritten_map {O : Type} (f : O → R) (os : List O) :
    lastWritten key (os.map f) = (lastWritten (fun o => key (f o)) os).map f :=
  List.pwFilter_map f os

/-- Of the writes under one key the last one is left. -/
theorem mem_lastWritten_iff {r : R} {rs : List R} :
    r ∈ lastWritten key rs ↔ (rs.filter fun x => key x = key r).getLast? = some r := by
  induction rs using List.reverseRecOn with
  | nil => simp [lastWritten]
  | append_singleton rs x ih =>
    rw [lastWritten_concat, List.mem_append, List.mem_singleton, List.mem_filter, ih,
      List.filter_append]
    by_cases hx : key x = key r
    · simp [hx, eq_comm]
    · have hne : r ≠ x := fun h => hx (h ▸ rfl)
      simp [hx, hne, Ne.symm hx]

theorem exists_mem_lastWritten {r : R} {rs : List R} (h : r ∈ rs) :
    ∃ x ∈ lastWritten key rs, key x = key r := by
  have hr : r ∈ rs.filter fun x => key x = key r := List.mem_filter.2 ⟨h, decide_eq_true rfl⟩
  cases hlast : (rs.filter fun x => key x = key r).getLast? with
  | none =>
    rw [List.getLast?_eq_none_iff.1 hlast] at hr
    cases hr
  | some x =>
    have hkey : key x = key r := by simpa using List.of_mem_filter (List.mem_of_getLast? hlast)
    rw [← hkey] at hlast
    exact ⟨x, mem_lastWritten_iff.2 hlast, hkey⟩

theorem nodup_lastWritten (rs : List R) : (lastWritten key rs).Nodup := by
  have hpairwise : (lastWritten key rs).Pairwise fun a b => key a ≠ key b := List.pairwise_pwFilter rs
  exact hpairwise.imp fun h he => h (congrArg key he)

theorem lastWritten_perm_iff {rs rs' : List R} :
    (lastWritten key rs).Perm (lastWritten key rs') ↔
      ∀ k, (rs.filter fun x => key x = k).getLast? = (rs'.filter fun x => key x = k).getLast? := by
  rw [List.perm_ext_iff_of_nodup (nodup_lastWritten rs) (nodup_lastWritten rs')]
  simp only [mem_lastWritten_iff]
  constructor
  · intro h k
    have hkey {rs : List R} {r : R} (hr : (rs.filter fun x => key x = k).getLast? = some r) :
        key r = k := by
      have hmem := List.mem_of_getLast? hr
      exact of_decide_eq_true (List.mem_filter.1 hmem).2
    apply Option.ext
    intro r
    constructor
    · intro hr
      have hk := hkey hr
      subst hk
      exact (h r).1 hr
    · intro hr
      have hk := hkey hr
      subst hk
      exact (h r).2 hr
  · intro h r
    rw [h]

def HoldsLast (t : Table key) (rs : List R) : Prop := t.rows = lastWritten key rs

theorem HoldsLast.empty : HoldsLast (empty : Table key) [] := rfl

theorem HoldsLast.upsert {t : Table key} {rs : List R} (h : t.HoldsLast rs) (r : R) :
    (t.upsert r).HoldsLast (rs ++ [r]) := by
  rw [HoldsLast, rows_upsert, h, lastWritten_concat]

theorem HoldsLast.foldl_upsert {O : Type} {t : Table key} {rs : List R} (h : t.HoldsLast rs)
    (f : O → R) (os : List O) :
    (os.foldl (fun t o => t.upsert (f o)) t).HoldsLast (rs ++ os.map f) := by
  induction os generalizing t rs with
  | nil => simpa using h
  | cons o os ih => simpa using ih (h.upsert (f o))

theorem HoldsLast.eq_self {t : Table key} {rs : List R} (h : t.HoldsLast rs)
    (hp : rs.Pairwise (fun a b => key a ≠ key b)) : t.rows = rs :=
  h.trans (lastWritten_eq_self_iff.2 hp)

omit [DecidableEq K] in
theorem eq_of_rows {t t' : Table key} (h : t.rows = t'.rows) : t = t' := by
  cases t
  cases t'
  cases h
  rfl

/-- A row of writes replaces the rows under its keys by those written last. -/
theorem rows_foldl_upsert (t : Table key) (rs : List R) :
    (rs.foldl upsert t).rows =
      t.rows.filter (fun x => key x ∉ rs.map key) ++ lastWritten key rs := by
  induction rs using List.reverseRecOn with
  | nil => simp [lastWritten]
  | append_singleton rs r ih =>
    rw [List.foldl_append, List.foldl_cons, List.foldl_nil, rows_upsert, ih, lastWritten_concat,
      List.filter_append, List.filter_filter, List.append_assoc]
    congr 1
    apply List.filter_congr
    intro x _
    rw [Bool.eq_iff_iff]
    simp only [List.map_append, List.mem_append, List.map_cons, List.map_nil, List.mem_singleton,
      Bool.and_eq_true, decide_eq_true_eq, not_or]
    exact and_comm

/-- Writing some of the rows ahead makes no difference to writing them all. -/
theorem foldl_upsert_again {O : Type} (t : Table key) (f : O → R) {ahead os : List O}
    (h : ahead ⊆ os) :
    os.foldl (fun t o => t.upsert (f o)) (ahead.foldl (fun t o => t.upsert (f o)) t) =
      os.foldl (fun t o => t.upsert (f o)) t := by
  have hmap (os : List O) (t : Table key) :
      os.foldl (fun t o => t.upsert (f o)) t = (os.map f).foldl upsert t := List.foldl_map.symm
  have hkeys : (ahead.map f).map key ⊆ (os.map f).map key := List.map_subset _ (List.map_subset _ h)
  rw [hmap, hmap, hmap]
  apply eq_of_rows
  have hlast : (lastWritten key (ahead.map f)).filter (fun x => key x ∉ (os.map f).map key) = [] := by
    rw [List.filter_eq_nil_iff]
    intro x hx
    have hmem := hkeys (List.mem_map_of_mem (f := key) (lastWritten_subset _ hx))
    simpa using hmem
  rw [rows_foldl_upsert, rows_foldl_upsert, rows_foldl_upsert, List.filter_append, hlast,
    List.append_nil, List.filter_filter]
  congr 1
  apply List.filter_congr
  intro x _
  rw [Bool.eq_iff_iff]
  simp only [Bool.and_eq_true, decide_eq_true_eq, and_iff_left_iff_imp]
  exact fun hx hmem => hx (hkeys hmem)

theorem insertNew_taken {ε : Type} {taken : ε} {r : R} {t : Table key}
    (hr : t.find? (key r) ≠ none) : insertNew taken r t = .error taken t := by
  obtain ⟨x, hx⟩ := Option.ne_none_iff_exists'.1 hr
  rw [insertNew, hx]

theorem rows_finalState_forM_insertNew {ε : Type} (taken : ε) (rs : List R) (t : Table key) :
    ∃ stored, stored <+: rs ∧
      (finalState (rs.forM (insertNew taken)) t).rows = t.rows ++ stored := by
  induction rs generalizing t with
  | nil => exact ⟨[], List.prefix_rfl, (List.append_nil _).symm⟩
  | cons r rs ih =>
    have hforM : (r :: rs).forM (insertNew taken : R → EStateM ε (Table key) Unit) =
        insertNew taken r >>= fun _ => rs.forM (insertNew taken) := rfl
    by_cases hr : t.find? (key r) = none
    · obtain ⟨stored, hstored, hrows⟩ := ih (t.upsert r)
      rw [rows_upsert_of_find?_eq_none hr, List.append_assoc] at hrows
      refine ⟨r :: stored, List.cons_prefix_cons.2 ⟨rfl, hstored⟩, ?_⟩
      rw [hforM, finalState_bind_ok (insertNew_eq_ok_iff.2 ⟨hr, rfl⟩), hrows]
      rfl
    · refine ⟨[], List.nil_prefix, ?_⟩
      rw [hforM, finalState_bind_error (insertNew_taken hr), List.append_nil]

end Table

end Keyed
