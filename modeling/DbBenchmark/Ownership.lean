import Mathlib.Data.List.Nodup
import Mathlib.Logic.Function.Basic

namespace Ownership
set_option autoImplicit true

/-- Handles are numbered in the order of their creation; a slot holds at most one. No handle is in
two slots, and none that was freed is in a slot or was freed twice. -/
structure Holder (Slot : Type) where
  slots : Slot → Option Nat
  created : Nat
  freed : List Nat
  held_lt : ∀ s h, slots s = some h → h < created
  held_inj : ∀ s t h, slots s = some h → slots t = some h → s = t
  held_not_freed : ∀ s h, slots s = some h → h ∉ freed
  freed_lt : ∀ h ∈ freed, h < created
  freed_nodup : freed.Nodup

namespace Holder

variable {Slot : Type}

def init : Holder Slot where
  slots _ := none
  created := 0
  freed := []
  held_lt _ _ h := by cases h
  held_inj _ _ _ h := by cases h
  held_not_freed _ _ h := by cases h
  freed_lt _ h := by cases h
  freed_nodup := List.nodup_nil

def Live (x : Holder Slot) (h : Nat) : Prop := h < x.created ∧ h ∉ x.freed

def Owned (x : Holder Slot) : Prop := ∀ h, x.Live h ↔ ∃ s, x.slots s = some h

def FreedOnce (x : Holder Slot) : Prop := ∀ h < x.created, x.freed.count h = 1

theorem live_of_held {x : Holder Slot} (h : x.slots s = some k) : x.Live k :=
  ⟨x.held_lt s k h, x.held_not_freed s k h⟩

theorem owned_iff {x : Holder Slot} : x.Owned ↔ ∀ h, x.Live h → ∃ s, x.slots s = some h := by
  constructor
  · intro hx h hlive
    exact (hx h).1 hlive
  · intro hx h
    constructor
    · exact hx h
    · intro hheld
      obtain ⟨s, hs⟩ := hheld
      exact live_of_held hs

theorem owned_init : (init : Holder Slot).Owned := by
  rw [owned_iff]
  intro h hlive
  exact absurd hlive.1 (Nat.not_lt_zero h)

theorem freedOnce_iff_owned {x : Holder Slot} (hclear : ∀ s, x.slots s = none) :
    x.FreedOnce ↔ x.Owned := by
  rw [owned_iff]
  constructor
  · intro h k hk
    have hcount := h k hk.1
    rw [List.count_eq_zero_of_not_mem hk.2] at hcount
    cases hcount
  · intro h k hk
    by_cases hmem : k ∈ x.freed
    · exact List.count_eq_one_of_mem x.freed_nodup hmem
    · obtain ⟨s, hs⟩ := h k ⟨hk, hmem⟩
      rw [hclear s] at hs
      cases hs

variable [DecidableEq Slot]

theorem held_update {slots : Slot → Option Nat} (h : Function.update slots s (some n) t = some k) :
    (t = s ∧ k = n) ∨ (t ≠ s ∧ slots t = some k) := by
  by_cases hts : t = s
  · subst hts
    rw [Function.update_self] at h
    exact .inl ⟨rfl, (Option.some.inj h).symm⟩
  · rw [Function.update_of_ne hts] at h
    exact .inr ⟨hts, h⟩

theorem held_clear {slots : Slot → Option Nat} (h : Function.update slots s none t = some k) :
    t ≠ s ∧ slots t = some k := by
  by_cases hts : t = s
  · subst hts
    rw [Function.update_self] at h
    cases h
  · rw [Function.update_of_ne hts] at h
    exact ⟨hts, h⟩

/-- Store a new handle in a slot, whatever the slot holds. -/
def acquire (x : Holder Slot) (s : Slot) : Holder Slot where
  slots := Function.update x.slots s (some x.created)
  created := x.created + 1
  freed := x.freed
  held_lt t h ht := by
    rcases held_update ht with ⟨-, rfl⟩ | ⟨-, ht⟩
    · exact Nat.lt_succ_self _
    · exact Nat.lt_succ_of_lt (x.held_lt t h ht)
  held_inj t u h ht hu := by
    rcases held_update ht with ⟨rfl, rfl⟩ | ⟨hts, ht⟩
    · rcases held_update hu with ⟨rfl, -⟩ | ⟨-, hu⟩
      · rfl
      · exact absurd (x.held_lt u _ hu) (Nat.lt_irrefl _)
    · rcases held_update hu with ⟨-, rfl⟩ | ⟨-, hu⟩
      · exact absurd (x.held_lt t _ ht) (Nat.lt_irrefl _)
      · exact x.held_inj t u h ht hu
  held_not_freed t h ht := by
    rcases held_update ht with ⟨-, rfl⟩ | ⟨-, ht⟩
    · exact fun hmem => absurd (x.freed_lt _ hmem) (Nat.lt_irrefl _)
    · exact x.held_not_freed t h ht
  freed_lt h hmem := Nat.lt_succ_of_lt (x.freed_lt h hmem)
  freed_nodup := x.freed_nodup

def release (x : Holder Slot) (s : Slot) : Holder Slot where
  slots := Function.update x.slots s none
  created := x.created
  freed := x.freed ++ (x.slots s).toList
  held_lt t h ht := x.held_lt t h (held_clear ht).2
  held_inj t u h ht hu := x.held_inj t u h (held_clear ht).2 (held_clear hu).2
  held_not_freed t h ht := by
    obtain ⟨hts, ht⟩ := held_clear ht
    rw [List.mem_append, Option.mem_toList]
    intro hmem
    rcases hmem with hmem | hmem
    · exact x.held_not_freed t h ht hmem
    · exact hts (x.held_inj t s h ht hmem)
  freed_lt h hmem := by
    rw [List.mem_append, Option.mem_toList] at hmem
    rcases hmem with hmem | hmem
    · exact x.freed_lt h hmem
    · exact x.held_lt s h hmem
  freed_nodup := by
    have hone : (x.slots s).toList.Nodup := by cases x.slots s <;> simp
    apply List.nodup_append'.2 ⟨x.freed_nodup, hone, ?_⟩
    intro h hfreed hmem
    rw [Option.mem_toList] at hmem
    exact x.held_not_freed s h hmem hfreed

/-- Store a new handle in a slot and free what the slot held, as assigning to a `unique_ptr` does. -/
def replace (x : Holder Slot) (s : Slot) : Holder Slot := (x.release s).acquire s

/-- A new handle keeps the slots complete exactly when it displaces none. -/
theorem owned_acquire_iff {x : Holder Slot} :
    (x.acquire s).Owned ↔ x.Owned ∧ x.slots s = none := by
  constructor
  · intro h
    have hheld (k : Nat) (hk : x.Live k) : ∃ t, t ≠ s ∧ x.slots t = some k := by
      obtain ⟨t, ht⟩ := (h k).1 ⟨Nat.lt_succ_of_lt hk.1, hk.2⟩
      rcases held_update ht with ⟨-, rfl⟩ | ht
      · exact absurd hk.1 (Nat.lt_irrefl _)
      · exact ⟨t, ht⟩
    constructor
    · rw [owned_iff]
      intro k hk
      obtain ⟨t, -, ht⟩ := hheld k hk
      exact ⟨t, ht⟩
    · cases hs : x.slots s with
      | none => rfl
      | some k =>
        obtain ⟨t, hts, ht⟩ := hheld k (live_of_held hs)
        exact absurd (x.held_inj t s k ht hs) hts
  · intro h
    obtain ⟨hx, hs⟩ := h
    rw [owned_iff]
    intro k hk
    rcases Nat.lt_succ_iff_lt_or_eq.1 hk.1 with hlt | rfl
    · obtain ⟨t, ht⟩ := (hx k).1 ⟨hlt, hk.2⟩
      have hts : t ≠ s := by
        rintro rfl
        rw [hs] at ht
        cases ht
      exact ⟨t, (Function.update_of_ne hts _ _).trans ht⟩
    · exact ⟨s, Function.update_self _ _ _⟩

theorem owned_release_iff {x : Holder Slot} : (x.release s).Owned ↔ x.Owned := by
  have hlive (k : Nat) : (x.release s).Live k ↔ x.Live k ∧ x.slots s ≠ some k := by
    simp only [Live, release, List.mem_append, Option.mem_toList, not_or]
    tauto
  constructor
  · intro h
    rw [owned_iff]
    intro k hk
    by_cases hs : x.slots s = some k
    · exact ⟨s, hs⟩
    · obtain ⟨t, ht⟩ := (h k).1 ((hlive k).2 ⟨hk, hs⟩)
      exact ⟨t, (held_clear ht).2⟩
  · intro h
    rw [owned_iff]
    intro k hk
    obtain ⟨hk, hs⟩ := (hlive k).1 hk
    obtain ⟨t, ht⟩ := (h k).1 hk
    have hts : t ≠ s := fun he => hs (he ▸ ht)
    exact ⟨t, (Function.update_of_ne hts _ _).trans ht⟩

theorem owned_replace_iff {x : Holder Slot} : (x.replace s).Owned ↔ x.Owned := by
  rw [replace, owned_acquire_iff, owned_release_iff]
  exact and_iff_left (Function.update_self _ _ _)

theorem slots_release {x : Holder Slot} : (x.release s).slots s = none :=
  Function.update_self _ _ _

theorem slots_replace {x : Holder Slot} : (x.replace s).slots s = some x.created :=
  Function.update_self _ _ _

/-- Whether all that was acquired in a row is owned was settled before the first of it. -/
theorem owned_acquireAll_iff {x : Holder Slot} {ss : List Slot} (hn : ss.Nodup) :
    (ss.foldl acquire x).Owned ↔ x.Owned ∧ ∀ s ∈ ss, x.slots s = none := by
  induction ss generalizing x with
  | nil => simp
  | cons s ss ih =>
    obtain ⟨hs, hn⟩ := List.nodup_cons.1 hn
    have hrest : (∀ t ∈ ss, (x.acquire s).slots t = none) ↔ ∀ t ∈ ss, x.slots t = none := by
      apply forall₂_congr
      intro t ht
      have hts : t ≠ s := fun he => hs (he ▸ ht)
      have hslot : (x.acquire s).slots t = x.slots t := Function.update_of_ne hts _ _
      rw [hslot]
    rw [List.foldl_cons, ih hn, owned_acquire_iff, hrest, List.forall_mem_cons, and_assoc]

theorem owned_releaseAll_iff {x : Holder Slot} {ss : List Slot} :
    (ss.foldl release x).Owned ↔ x.Owned := by
  induction ss generalizing x with
  | nil => rfl
  | cons s ss ih => rw [List.foldl_cons, ih, owned_release_iff]

theorem slots_releaseAll {x : Holder Slot} {ss : List Slot} (h : x.slots s = none ∨ s ∈ ss) :
    (ss.foldl release x).slots s = none := by
  induction ss generalizing x with
  | nil => exact h.resolve_right List.not_mem_nil
  | cons t ss ih =>
    rw [List.foldl_cons]
    apply ih
    by_cases hts : s = t
    · subst hts
      exact .inl (Function.update_self _ _ _)
    · rw [List.mem_cons, or_iff_right hts] at h
      exact h.imp_left fun hs => (Function.update_of_ne hts _ _).trans hs

theorem freedOnce_release_iff {x : Holder Unit} : (x.release ()).FreedOnce ↔ x.Owned := by
  have hclear (s : Unit) : (x.release ()).slots s = none := slots_release
  rw [freedOnce_iff_owned hclear, owned_release_iff]

end Holder

end Ownership
