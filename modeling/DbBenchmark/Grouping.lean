import Mathlib.Data.List.Dedup
import Mathlib.Data.List.Induction
import Mathlib.Data.List.Perm.Basic
import Mathlib.Data.List.Perm.Lattice

namespace Grouping
set_option autoImplicit true

variable {R : Type*} {N : Type*} [DecidableEq N]

def firstAppearances (names : List N) : List N :=
  names.foldl (fun seen name => if name ∈ seen then seen else seen ++ [name]) []

theorem firstAppearances_concat (names : List N) (name : N) :
    firstAppearances (names ++ [name]) =
      if name ∈ firstAppearances names then firstAppearances names
      else firstAppearances names ++ [name] :=
  List.foldl_concat ..

theorem mem_firstAppearances {names : List N} {name : N} :
    name ∈ firstAppearances names ↔ name ∈ names := by
  induction names using List.reverseRecOn with
  | nil => exact Iff.rfl
  | append_singleton names last ih =>
    rw [firstAppearances_concat, List.mem_append, List.mem_singleton, ← ih]
    split
    · rename_i hseen
      exact ⟨.inl, fun h => h.elim id fun he => he ▸ hseen⟩
    · rw [List.mem_append, List.mem_singleton]

theorem nodup_firstAppearances (names : List N) : (firstAppearances names).Nodup := by
  induction names using List.reverseRecOn with
  | nil => exact List.nodup_nil
  | append_singleton names last ih =>
    rw [firstAppearances_concat]
    split
    · exact ih
    · rename_i hnew
      exact List.nodup_append.2 ⟨ih, List.nodup_singleton last, by grind⟩

def AppearsBefore (names : List N) (name other : N) : Prop := names.idxOf name < names.idxOf other

theorem pairwise_firstAppearances (names : List N) :
    (firstAppearances names).Pairwise (AppearsBefore names) := by
  induction names using List.reverseRecOn with
  | nil => exact List.Pairwise.nil
  | append_singleton names last ih =>
    have hbefore : (firstAppearances names).Pairwise (AppearsBefore (names ++ [last])) := by
      apply ih.imp_of_mem
      intro name other hname hother h
      rw [AppearsBefore, List.idxOf_append_of_mem (mem_firstAppearances.1 hname),
        List.idxOf_append_of_mem (mem_firstAppearances.1 hother)]
      exact h
    rw [firstAppearances_concat]
    split
    · exact hbefore
    · rename_i hnew
      rw [mem_firstAppearances] at hnew
      refine List.pairwise_append.2 ⟨hbefore, List.pairwise_singleton _ _, ?_⟩
      intro name hname other hother
      rw [List.mem_singleton.1 hother, AppearsBefore,
        List.idxOf_append_of_mem (mem_firstAppearances.1 hname), List.idxOf_append_of_notMem hnew]
      exact Nat.lt_add_right _ (List.idxOf_lt_length_of_mem (mem_firstAppearances.1 hname))

variable {key : R → N} {l : List R} {groups : List (N × List R)} {names : List N}

/-- Every element of `l` is in one group, the one its key names; the names stand in the order of
their first appearance, and each group keeps the order of `l`. -/
structure StableGrouping (key : R → N) (l : List R) (groups : List (N × List R)) : Prop where
  perm : (groups.flatMap Prod.snd).Perm l
  once : (groups.map Prod.fst).Nodup
  byFirst : (groups.map Prod.fst).Pairwise (AppearsBefore (l.map key))
  named : ∀ g ∈ groups, ∀ x ∈ g.2, key x = g.1
  nonempty : ∀ g ∈ groups, g.2 ≠ []
  inOrder : ∀ g ∈ groups, g.2.Sublist l

def groupsOf (key : R → N) (l : List R) : List (N × List R) :=
  (firstAppearances (l.map key)).map fun name => (name, l.filter (key · = name))

theorem map_fst_groupsOf (key : R → N) (l : List R) :
    (groupsOf key l).map Prod.fst = firstAppearances (l.map key) := by
  rw [groupsOf, List.map_map]
  exact List.map_id _

theorem filter_filter_ne {name other : N} (h : other ≠ name) (l : List R) :
    (l.filter (key · ≠ name)).filter (key · = other) = l.filter (key · = other) := by
  rw [List.filter_filter]
  apply List.filter_congr
  intro x _
  by_cases hx : key x = other
  · simp [hx, h]
  · simp [hx]

/-- Filtering for each of the names in turn loses and repeats nothing. -/
theorem flatMap_filter_key_perm (hnames : names.Nodup) (hall : ∀ x ∈ l, key x ∈ names) :
    (names.flatMap fun name => l.filter (key · = name)).Perm l := by
  induction names generalizing l with
  | nil =>
    rw [List.eq_nil_iff_forall_not_mem.2 fun x hx => List.not_mem_nil (hall x hx)]
    exact List.Perm.nil
  | cons name names ih =>
    obtain ⟨hname, hnames⟩ := List.nodup_cons.1 hnames
    have hrest : (names.flatMap fun other => l.filter (key · = other)) =
        names.flatMap fun other => (l.filter (key · ≠ name)).filter (key · = other) := by
      apply List.flatMap_congr
      intro other hother
      exact (filter_filter_ne (ne_of_mem_of_not_mem hother hname) l).symm
    have hall : ∀ x ∈ l.filter (key · ≠ name), key x ∈ names := by
      intro x hx
      obtain ⟨hx, hne⟩ := List.mem_filter.1 hx
      exact (List.mem_cons.1 (hall x hx)).resolve_left (of_decide_eq_true hne)
    have hsplit := List.filter_append_perm (key · = name) l
    simp only [← decide_not] at hsplit
    rw [List.flatMap_cons, hrest]
    exact ((ih hnames hall).append_left _).trans hsplit

theorem stableGrouping_groupsOf (key : R → N) (l : List R) :
    StableGrouping key l (groupsOf key l) where
  perm := by
    rw [groupsOf, List.flatMap_map]
    apply flatMap_filter_key_perm (nodup_firstAppearances _)
    intro x hx
    exact mem_firstAppearances.2 (List.mem_map_of_mem hx)
  once := by
    rw [map_fst_groupsOf]
    exact nodup_firstAppearances _
  byFirst := by
    rw [map_fst_groupsOf]
    exact pairwise_firstAppearances _
  named := by
    intro g hg x hx
    obtain ⟨name, -, rfl⟩ := List.mem_map.1 hg
    exact of_decide_eq_true (List.mem_filter.1 hx).2
  nonempty := by
    intro g hg
    obtain ⟨name, hname, rfl⟩ := List.mem_map.1 hg
    obtain ⟨x, hx, rfl⟩ := List.mem_map.1 (mem_firstAppearances.1 hname)
    exact List.ne_nil_of_mem (List.mem_filter.2 ⟨hx, decide_eq_true rfl⟩)
  inOrder := by
    intro g hg
    obtain ⟨name, -, rfl⟩ := List.mem_map.1 hg
    exact List.filter_sublist

theorem groupsOf_ne_nil (h : l ≠ []) : groupsOf key l ≠ [] := by
  intro hnil
  have hperm := (stableGrouping_groupsOf key l).perm
  rw [hnil] at hperm
  exact h hperm.nil_eq.symm

namespace StableGrouping

theorem mem_names_iff (h : StableGrouping key l groups) {name : N} :
    name ∈ groups.map Prod.fst ↔ name ∈ l.map key := by
  constructor
  · intro hname
    obtain ⟨g, hg, rfl⟩ := List.mem_map.1 hname
    obtain ⟨x, hx⟩ := List.exists_mem_of_ne_nil _ (h.nonempty g hg)
    rw [← h.named g hg x hx]
    exact List.mem_map_of_mem ((h.inOrder g hg).mem hx)
  · intro hname
    obtain ⟨x, hx, rfl⟩ := List.mem_map.1 hname
    obtain ⟨g, hg, hxg⟩ := List.mem_flatMap.1 (h.perm.mem_iff.2 hx)
    rw [h.named g hg x hxg]
    exact List.mem_map_of_mem hg

theorem names_eq (h : StableGrouping key l groups) :
    groups.map Prod.fst = firstAppearances (l.map key) := by
  have hperm : (groups.map Prod.fst).Perm (firstAppearances (l.map key)) := by
    rw [List.perm_ext_iff_of_nodup h.once (nodup_firstAppearances _)]
    intro name
    rw [h.mem_names_iff, mem_firstAppearances]
  apply hperm.eq_of_pairwise _ h.byFirst (pairwise_firstAppearances _)
  intro name other _ _ hlt hgt
  exact absurd hlt (Nat.lt_asymm hgt)

theorem filter_flatMap_eq_nil {name : N} (hnamed : ∀ g ∈ groups, ∀ x ∈ g.2, key x = g.1)
    (hname : name ∉ groups.map Prod.fst) :
    (groups.flatMap Prod.snd).filter (key · = name) = [] := by
  rw [List.filter_eq_nil_iff]
  intro x hx heq
  obtain ⟨g, hg, hxg⟩ := List.mem_flatMap.1 hx
  apply hname
  rw [← of_decide_eq_true heq, hnamed g hg x hxg]
  exact List.mem_map_of_mem hg

theorem group_eq (h : StableGrouping key l groups) {g : N × List R} (hg : g ∈ groups) :
    g.2 = l.filter (key · = g.1) := by
  have hself : g.2.filter (key · = g.1) = g.2 :=
    List.filter_eq_self.2 fun x hx => decide_eq_true (h.named g hg x hx)
  have hsub := (h.inOrder g hg).filter (key · = g.1)
  rw [hself] at hsub
  apply hsub.eq_of_length
  -- no other group holds an element of this name
  have hperm := h.perm.filter (key · = g.1)
  have hnamed := h.named
  have honce := h.once
  obtain ⟨as, bs, rfl⟩ := List.append_of_mem hg
  rw [List.map_append, List.map_cons, List.nodup_append, List.nodup_cons] at honce
  have has : g.1 ∉ as.map Prod.fst := fun hmem => honce.2.2 _ hmem _ (List.mem_cons_self ..) rfl
  rw [List.flatMap_append, List.flatMap_cons, List.filter_append, List.filter_append, hself,
    filter_flatMap_eq_nil (fun g hg => hnamed g (List.mem_append_left _ hg)) has,
    filter_flatMap_eq_nil
      (fun g hg => hnamed g (List.mem_append_right _ (List.mem_cons_of_mem _ hg))) honce.2.1.1,
    List.nil_append, List.append_nil] at hperm
  exact hperm.length_eq

theorem eq_groupsOf (h : StableGrouping key l groups) : groups = groupsOf key l := by
  rw [groupsOf, ← h.names_eq, List.map_map]
  conv_lhs => rw [← List.map_id groups]
  apply List.map_congr_left
  intro g hg
  exact Prod.ext rfl (h.group_eq hg)

end StableGrouping

theorem stableGrouping_iff : StableGrouping key l groups ↔ groups = groupsOf key l := by
  constructor
  · exact StableGrouping.eq_groupsOf
  · rintro rfl
    exact stableGrouping_groupsOf key l

end Grouping
