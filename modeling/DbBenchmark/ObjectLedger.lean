import DbBenchmark.Throwing
import Mathlib.Data.List.Nodup
import Mathlib.Data.List.Perm.Basic
import Mathlib.Data.Prod.Basic

namespace Ledger
open Throwing
set_option autoImplicit true

/-- The kinds of the objects made so far, in the order of their creation, which numbers them, and
the numbers of those that were freed. -/
structure Objects (Kind : Type) where
  made : List Kind
  freed : List Nat

structure Ledgered (σ Kind : Type) where
  state : σ
  objects : Objects Kind

abbrev LedgerM (ε σ Kind : Type) := EStateM ε (Ledgered σ Kind)

variable {ε σ Kind : Type}

def fresh (s : σ) : Ledgered σ Kind := ⟨s, [], []⟩

def create (k : Kind) : LedgerM ε σ Kind Nat := fun s =>
  .ok s.objects.made.length { s with objects := { s.objects with made := s.objects.made ++ [k] } }

def free (n : Nat) : LedgerM ε σ Kind Unit := fun s =>
  .ok () { s with objects := { s.objects with freed := s.objects.freed ++ [n] } }

def lift (m : EStateM ε σ α) : LedgerM ε σ Kind α := fun s =>
  match m s.state with
  | .ok a s' => .ok a { s with state := s' }
  | .error e s' => .error e { s with state := s' }

/-- Without its objects `d` does what `m` does, and `f` takes its value to that of `m`. -/
def Erases (d : LedgerM ε σ Kind α) (m : EStateM ε σ β) (f : α → β) : Prop :=
  ∀ s, match d s with
    | .ok a s' => m s.state = .ok (f a) s'.state
    | .error e s' => m s.state = .error e s'.state

theorem Erases.of_ok {d : LedgerM ε σ Kind α} {m : EStateM ε σ β} (h : Erases d m f)
    (hr : d s = .ok a s') : m s.state = .ok (f a) s'.state := by
  have hs := h s
  rw [hr] at hs
  exact hs

theorem Erases.of_error {d : LedgerM ε σ Kind α} {m : EStateM ε σ β} (h : Erases d m f)
    (hr : d s = .error e s') : m s.state = .error e s'.state := by
  have hs := h s
  rw [hr] at hs
  exact hs

theorem Erases.bind {d : LedgerM ε σ Kind α} {m : EStateM ε σ β} {k : α → LedgerM ε σ Kind γ}
    {l : β → EStateM ε σ δ} (h : Erases d m f) (hk : ∀ a, Erases (k a) (l (f a)) g) :
    Erases (d >>= k) (m >>= l) g := by
  intro s
  cases hr : d s with
  | ok a s' =>
    rw [bind_ok hr, bind_ok (h.of_ok hr)]
    exact hk a s'
  | error e s' =>
    rw [bind_error hr, bind_error (h.of_error hr)]

theorem Erases.bind_silent {d : LedgerM ε σ Kind α} {m : EStateM ε σ β}
    {k : α → LedgerM ε σ Kind γ} (h : Erases d (pure ()) fun _ => ())
    (hk : ∀ a, Erases (k a) m g) : Erases (d >>= k) m g := by
  have hbind := h.bind (l := fun _ => m) hk
  rwa [pure_bind] at hbind

theorem Erases.bind_return {d : LedgerM ε σ Kind α} {m : EStateM ε σ β}
    {k : α → LedgerM ε σ Kind γ} (h : Erases d m f) (hk : ∀ a, Erases (k a) (pure (f a)) g) :
    Erases (d >>= k) m g := by
  have hbind := h.bind (l := pure) hk
  rwa [bind_pure] at hbind

theorem erases_pure (a : α) (f : α → β) :
    Erases (pure a : LedgerM ε σ Kind α) (pure (f a)) f := fun _ => rfl

theorem erases_create (k : Kind) :
    Erases (create k : LedgerM ε σ Kind Nat) (pure ()) fun _ => () := fun _ => rfl

theorem erases_free (n : Nat) : Erases (free n : LedgerM ε σ Kind Unit) (pure ()) fun _ => () :=
  fun _ => rfl

theorem erases_lift (m : EStateM ε σ α) : Erases (lift m : LedgerM ε σ Kind α) m id := by
  intro s
  rw [lift]
  cases m s.state with
  | ok a s' => rfl
  | error e s' => rfl

theorem Erases.forM {d : β → LedgerM ε σ Kind PUnit} {m : β → EStateM ε σ PUnit} {xs : List β}
    (h : ∀ x ∈ xs, Erases (d x) (m x) id) : Erases (xs.forM d) (xs.forM m) id := by
  induction xs with
  | nil => exact erases_pure _ id
  | cons x xs ih =>
    exact (h x List.mem_cons_self).bind fun _ => ih fun y hy => h y (List.mem_cons_of_mem x hy)

theorem Erases.finalState {d : LedgerM ε σ Kind α} {m : EStateM ε σ β} (h : Erases d m f)
    (s : Ledgered σ Kind) : (finalState d s).state = finalState m s.state := by
  rw [Throwing.finalState, Throwing.finalState]
  cases hr : d s with
  | ok a s' => rw [h.of_ok hr]
  | error e s' => rw [h.of_error hr]

/-- The live objects are those listed, each once, and nothing was freed twice or before it was
made. -/
structure Holds (live : List (Nat × Kind)) (x : Objects Kind) : Prop where
  nodup : (live.map Prod.fst).Nodup
  mem_iff : ∀ n k, (n, k) ∈ live ↔ x.made[n]? = some k ∧ n ∉ x.freed
  freed_nodup : x.freed.Nodup
  freed_lt : ∀ n ∈ x.freed, n < x.made.length

theorem holds_nil : Holds [] (⟨[], []⟩ : Objects Kind) where
  nodup := List.nodup_nil
  mem_iff n k := iff_of_false List.not_mem_nil fun h => by cases h.1
  freed_nodup := List.nodup_nil
  freed_lt _ hn := absurd hn List.not_mem_nil

theorem Holds.perm {live live' : List (Nat × Kind)} {x : Objects Kind} (h : Holds live x)
    (hperm : live.Perm live') : Holds live' x where
  nodup := (hperm.map Prod.fst).nodup_iff.1 h.nodup
  mem_iff n k := hperm.mem_iff.symm.trans (h.mem_iff n k)
  freed_nodup := h.freed_nodup
  freed_lt := h.freed_lt

theorem Holds.lt_of_mem {live : List (Nat × Kind)} {x : Objects Kind} (h : Holds live x)
    (hn : (n, k) ∈ live) : n < x.made.length :=
  (List.getElem?_eq_some_iff.1 ((h.mem_iff n k).1 hn).1).1

theorem create_triple (k : Kind) (live : List (Nat × Kind)) {E : ε → Ledgered σ Kind → Prop} :
    Triple (fun s => Holds live s.objects) (create k)
      (fun n s => Holds ((n, k) :: live) s.objects) E := by
  intro s hs
  have hnotFreed : s.objects.made.length ∉ s.objects.freed := fun hmem =>
    absurd (hs.freed_lt _ hmem) (Nat.lt_irrefl _)
  refine ⟨?_, ?_, hs.freed_nodup, ?_⟩
  · rw [List.map_cons, List.nodup_cons]
    refine ⟨?_, hs.nodup⟩
    intro hmem
    obtain ⟨⟨n, k'⟩, hlive, rfl⟩ := List.mem_map.1 hmem
    exact absurd (hs.lt_of_mem hlive) (Nat.lt_irrefl _)
  · intro n k'
    change _ ↔ (s.objects.made ++ [k])[n]? = some k' ∧ n ∉ s.objects.freed
    rw [List.mem_cons, Prod.mk.injEq, getElem?_concat_eq_some_iff, or_and_right, hs.mem_iff]
    -- the new object is not among those freed
    have hnew : (n = s.objects.made.length ∧ k' = k) ∧ n ∉ s.objects.freed ↔
        n = s.objects.made.length ∧ k' = k :=
      and_iff_left_of_imp fun h => h.1 ▸ hnotFreed
    rw [hnew]
  · intro n hn
    exact Nat.lt_of_lt_of_le (hs.freed_lt n hn) (by simp)

theorem free_triple (k : Kind) (live : List (Nat × Kind)) {E : ε → Ledgered σ Kind → Prop} :
    Triple (fun s => Holds ((n, k) :: live) s.objects) (free n)
      (fun _ s => Holds live s.objects) E := by
  intro s hs
  obtain ⟨hnot, hnodup⟩ := List.nodup_cons.1 hs.nodup
  have hn := (hs.mem_iff n k).1 List.mem_cons_self
  refine ⟨hnodup, ?_, ?_, ?_⟩
  · intro m k'
    change _ ↔ s.objects.made[m]? = some k' ∧ m ∉ s.objects.freed ++ [n]
    rw [List.mem_append, List.mem_singleton, not_or, ← and_assoc, ← hs.mem_iff, List.mem_cons]
    constructor
    · intro hmem
      have hm : m ∈ live.map Prod.fst := List.mem_map_of_mem hmem
      exact ⟨.inr hmem, fun he => hnot (he ▸ hm)⟩
    · intro h
      rcases h.1 with he | hmem
      · exact absurd (congrArg Prod.fst he) h.2
      · exact hmem
  · exact List.nodup_append.2 ⟨hs.freed_nodup, List.nodup_singleton n, fun a ha b hb =>
      fun he => hn.2 (List.mem_singleton.1 hb ▸ he ▸ ha)⟩
  · intro m hm
    rcases List.mem_append.1 hm with hm | hm
    · exact hs.freed_lt m hm
    · rw [List.mem_singleton.1 hm]
      exact hs.lt_of_mem List.mem_cons_self

theorem free_second (k k' : Kind) (live : List (Nat × Kind)) {E : ε → Ledgered σ Kind → Prop} :
    Triple (fun s => Holds ((m, k') :: (n, k) :: live) s.objects) (free n)
      (fun _ s => Holds ((m, k') :: live) s.objects) E :=
  (free_triple k ((m, k') :: live)).mono (fun _ h => h.perm (.swap (n, k) (m, k') live))
    (fun _ _ h => h) fun _ _ h => h

def Objects.remaining (x : Objects Kind) : List Kind :=
  (x.made.zipIdx.filter fun p => p.2 ∉ x.freed).map Prod.fst

theorem Holds.remaining_perm {live : List (Nat × Kind)} {x : Objects Kind} (h : Holds live x) :
    x.remaining.Perm (live.map Prod.snd) := by
  have hperm : (x.made.zipIdx.filter fun p => p.2 ∉ x.freed).Perm (live.map Prod.swap) := by
    rw [List.perm_ext_iff_of_nodup]
    · intro p
      obtain ⟨k, n⟩ := p
      have hswap : (k, n) ∈ live.map Prod.swap ↔ (n, k) ∈ live := by simp
      rw [List.mem_filter, List.mem_zipIdx_iff_getElem?, hswap, h.mem_iff, decide_eq_true_eq]
    · have hindices : (x.made.zipIdx.map Prod.snd).Nodup := by
        rw [List.zipIdx_map_snd]
        exact List.nodup_range'
      exact hindices.of_map.filter _
    · exact h.nodup.of_map.map Prod.swap_injective
  have hkinds := hperm.map Prod.fst
  rw [List.map_map] at hkinds
  exact hkinds

/-- What is left are objects of the kinds listed; nothing was freed twice or before it was made. -/
structure Leaves (kinds : List Kind) (x : Objects Kind) : Prop where
  freed_nodup : x.freed.Nodup
  freed_lt : ∀ n ∈ x.freed, n < x.made.length
  remaining : x.remaining.Perm kinds

theorem Holds.leaves {live : List (Nat × Kind)} {x : Objects Kind} (h : Holds live x)
    (hkinds : (live.map Prod.snd).Perm kinds) : Leaves kinds x where
  freed_nodup := h.freed_nodup
  freed_lt := h.freed_lt
  remaining := h.remaining_perm.trans hkinds

def HoldsMore (kinds : List Kind) (live : List (Nat × Kind)) (x : Objects Kind) : Prop :=
  ∃ leaked, leaked.map Prod.snd = kinds ∧ Holds (leaked ++ live) x

/-- Returning, `d` has freed what it has made; throwing, all but objects of the kinds that `left`
gives for the state it has started from. -/
def LeaksOnThrow (left : σ → List Kind) (d : LedgerM ε σ Kind α) : Prop :=
  ∀ live s₀, Triple (fun s => s.state = s₀ ∧ Holds live s.objects) d
    (fun _ s => Holds live s.objects) fun _ s => HoldsMore (left s₀) live s.objects

theorem LeaksOnThrow.of_triple {d : LedgerM ε σ Kind α} {kinds : List Kind}
    (h : ∀ live, Triple (fun s => Holds live s.objects) d (fun _ s => Holds live s.objects)
      fun _ s => HoldsMore kinds live s.objects) : LeaksOnThrow (fun _ => kinds) d :=
  fun live _ => (h live).mono (fun _ hs => hs.2) (fun _ _ hs => hs) fun _ _ hs => hs

theorem LeaksOnThrow.triple {d : LedgerM ε σ Kind α} {kinds : List Kind}
    (h : LeaksOnThrow (fun _ => kinds) d) (live : List (Nat × Kind)) :
    Triple (fun s => Holds live s.objects) d (fun _ s => Holds live s.objects)
      fun _ s => HoldsMore kinds live s.objects :=
  fun s hs => h live s.state s ⟨rfl, hs⟩

theorem LeaksOnThrow.forM {d : β → LedgerM ε σ Kind PUnit} {kinds : List Kind} {xs : List β}
    (h : ∀ x ∈ xs, LeaksOnThrow (fun _ => kinds) (d x)) :
    LeaksOnThrow (fun _ => kinds) (xs.forM d) :=
  .of_triple fun live => Triple.forM fun x hx => (h x hx).triple live

/-- What is done with the value makes and frees nothing. -/
theorem LeaksOnThrow.bind_pure {left : σ → List Kind} {d : LedgerM ε σ Kind α}
    (h : LeaksOnThrow left d) (f : α → β) : LeaksOnThrow left (d >>= fun a => pure (f a)) :=
  fun live s₀ => (h live s₀).bind fun _ => Triple.skip

theorem lift_keeps (m : EStateM ε σ α) {P : Objects Kind → Prop} :
    Keeps (fun s : Ledgered σ Kind => P s.objects) (lift m) := by
  intro s hs
  rw [lift]
  cases m s.state with
  | ok a s' => exact hs
  | error e s' => exact hs

theorem lift_triple {m : EStateM ε σ α} (h : ∀ s, ∃ a s', m s = .ok a s')
    {P : Objects Kind → Prop} {E : ε → Ledgered σ Kind → Prop} :
    Triple (fun s => P s.objects) (lift m) (fun _ s => P s.objects) E := by
  intro s hs
  obtain ⟨a, s', hr⟩ := h s.state
  rw [lift, hr]
  exact hs

def throws (m : EStateM ε σ α) (s : σ) : Bool :=
  match m s with
  | .ok _ _ => false
  | .error _ _ => true

/-- What calls made one after another leave behind: those that throw, what `left` gives for the
state they are made in. -/
def leftovers (call : β → EStateM ε σ α) (left : β → σ → List Kind) (s : σ) :
    List β → List Kind
  | [] => []
  | x :: xs => (if throws (call x) s then left x s else []) ++
      leftovers call left (finalState (call x) s) xs

theorem Erases.throws_eq {d : LedgerM ε σ Kind α} {m : EStateM ε σ β} (h : Erases d m f)
    (s : Ledgered σ Kind) : throws d s = throws m s.state := by
  rw [throws, throws]
  cases hr : d s with
  | ok a s' => rw [h.of_ok hr]
  | error e s' => rw [h.of_error hr]

theorem LeaksOnThrow.finalState {left : σ → List Kind} {d : LedgerM ε σ Kind α}
    (h : LeaksOnThrow left d) {s : Ledgered σ Kind} {live : List (Nat × Kind)}
    (hs : Holds live s.objects) :
    HoldsMore (if throws d s then left s.state else []) live
      (Throwing.finalState d s).objects := by
  rw [throws, Throwing.finalState]
  cases hr : d s with
  | ok a s' => exact ⟨[], rfl, (h live s.state).of_ok ⟨rfl, hs⟩ hr⟩
  | error e s' => exact (h live s.state).of_error ⟨rfl, hs⟩ hr

/-- Calls made one after another, any of which may throw: the state is that of the calls without
their objects, and what they leave behind is live. -/
theorem holds_foldl {d : β → LedgerM ε σ Kind α} {m : β → EStateM ε σ γ} {f : β → α → γ}
    {left : β → σ → List Kind} (herases : ∀ x, Erases (d x) (m x) (f x))
    (hleaks : ∀ x, LeaksOnThrow (left x) (d x)) {s : Ledgered σ Kind}
    {live : List (Nat × Kind)} (hs : Holds live s.objects) (xs : List β) :
    (xs.foldl (fun s x => finalState (d x) s) s).state =
        xs.foldl (fun s x => finalState (m x) s) s.state ∧
      ∃ leaked : List (Nat × Kind),
        (leaked.map Prod.snd).Perm (leftovers m left s.state xs) ∧
        Holds (leaked ++ live) (xs.foldl (fun s x => finalState (d x) s) s).objects := by
  induction xs generalizing live s with
  | nil => exact ⟨rfl, [], .nil, hs⟩
  | cons x xs ih =>
    obtain ⟨first, hfirst, hx⟩ := (hleaks x).finalState hs
    obtain ⟨hstate, rest, hrest, hxs⟩ := ih hx
    rw [(herases x).finalState] at hstate hrest
    rw [(herases x).throws_eq] at hfirst
    refine ⟨hstate, rest ++ first, ?_, ?_⟩
    · rw [List.map_append, hfirst, leftovers]
      exact (hrest.append_right _).trans List.perm_append_comm
    · rw [List.append_assoc]
      exact hxs

end Ledger
