import Mathlib.Data.List.Basic
import Mathlib.Data.List.Induction

namespace Throwing
set_option autoImplicit true

def finalState (m : EStateM ε σ α) (s : σ) : σ :=
  match m s with
  | .ok _ s' => s'
  | .error _ s' => s'

def value? (m : EStateM ε σ α) (s : σ) : Option α :=
  match m s with
  | .ok a _ => some a
  | .error _ _ => none

theorem finalState_of_ok {m : EStateM ε σ α} (h : m s = .ok a s') : finalState m s = s' := by
  rw [finalState, h]

theorem value?_of_ok {m : EStateM ε σ α} (h : m s = .ok a s') : value? m s = some a := by
  rw [value?, h]

theorem returns_of_isSome {m : EStateM ε σ α} (h : (value? m s).isSome) : ∃ a s', m s = .ok a s' := by
  rw [value?] at h
  cases hr : m s with
  | ok a s' => exact ⟨a, s', rfl⟩
  | error e s' =>
    rw [hr] at h
    cases h

theorem bind_ok {m : EStateM ε σ α} {f : α → EStateM ε σ β} (h : m s = .ok a s') :
    (m >>= f) s = f a s' := by
  change EStateM.bind m f s = _
  simp only [EStateM.bind, h]

theorem bind_error {m : EStateM ε σ α} {f : α → EStateM ε σ β} (h : m s = .error e s') :
    (m >>= f) s = .error e s' := by
  change EStateM.bind m f s = _
  simp only [EStateM.bind, h]

theorem bind_eq_ok_iff {m : EStateM ε σ α} {f : α → EStateM ε σ β} :
    (m >>= f) s = .ok b s'' ↔ ∃ a s', m s = .ok a s' ∧ f a s' = .ok b s'' := by
  cases hm : m s with
  | ok a s' => simp [bind_ok hm]
  | error e s' => simp [bind_error hm]

theorem finalState_bind_ok {m : EStateM ε σ α} {f : α → EStateM ε σ β} (h : m s = .ok a s') :
    finalState (m >>= f) s = finalState (f a) s' := by
  rw [finalState, finalState, bind_ok h]

theorem finalState_bind_error {m : EStateM ε σ α} {f : α → EStateM ε σ β} (h : m s = .error e s') :
    finalState (m >>= f) s = s' := by
  rw [finalState, bind_error h]

theorem except_bind_eq_ok_iff {x : Except ε α} {f : α → Except ε β} :
    (x >>= f) = .ok b ↔ ∃ a, x = .ok a ∧ f a = .ok b := by
  cases x with
  | error e =>
    apply iff_of_false
    · intro h
      cases h
    · intro h
      obtain ⟨a, ha, -⟩ := h
      cases ha
  | ok a =>
    change f a = .ok b ↔ _
    simp

theorem except_bind_ok {x : Except ε α} {f : α → Except ε β} (h : (x >>= f) = .ok b) :
    ∃ a, x = .ok a ∧ f a = .ok b := except_bind_eq_ok_iff.1 h

theorem pure_eq_ok_iff {a b : α} : (pure a : EStateM ε σ α) s = .ok b s' ↔ a = b ∧ s = s' := by
  change EStateM.Result.ok a s = _ ↔ _
  simp

theorem tryCatch_ok {m : EStateM ε σ α} {handle : ε → EStateM ε σ α} (h : m s = .ok a s') :
    (tryCatch m handle) s = .ok a s' := by
  change EStateM.tryCatch m handle s = _
  simp only [EStateM.tryCatch, h]

theorem tryCatch_error {m : EStateM ε σ α} {handle : ε → EStateM ε σ α} (h : m s = .error e s') :
    (tryCatch m handle) s = handle e s' := by
  change EStateM.tryCatch m handle s = _
  simp only [EStateM.tryCatch, h]
  rfl

theorem forM_cons_eq_ok_iff {f : β → EStateM ε σ PUnit} :
    (x :: xs).forM f s = .ok ⟨⟩ s'' ↔ ∃ s', f x s = .ok ⟨⟩ s' ∧ xs.forM f s' = .ok ⟨⟩ s'' := by
  change (f x >>= fun _ => xs.forM f) s = _ ↔ _
  rw [bind_eq_ok_iff]
  constructor
  · rintro ⟨_, s', hx, hxs⟩
    exact ⟨s', hx, hxs⟩
  · rintro ⟨s', hx, hxs⟩
    exact ⟨⟨⟩, s', hx, hxs⟩

theorem tryCatch_throw (m : EStateM ε σ α) (s : σ) : (tryCatch m fun e => throw e) s = m s := by
  cases h : m s with
  | ok a s' => exact tryCatch_ok h
  | error e s' => exact tryCatch_error h

/-- A loop whose body always returns performs the pure fold of its body. The states `e t` are
those from which it does. -/
theorem forM_ok {f : β → EStateM ε σ PUnit} {e : τ → σ} {g : τ → β → τ}
    (hf : ∀ x t, f x (e t) = .ok ⟨⟩ (e (g t x))) (xs : List β) (t : τ) :
    xs.forM f (e t) = .ok ⟨⟩ (e (xs.foldl g t)) := by
  induction xs generalizing t with
  | nil => rfl
  | cons x xs ih =>
    change (f x >>= fun _ => xs.forM f) (e t) = _
    rw [bind_ok (hf x t), ih, List.foldl_cons]

theorem mapM_ok {f : β → EStateM ε σ α} {g : β → α} {step : σ → β → σ}
    (hf : ∀ x s, f x s = .ok (g x) (step s x)) (xs : List β) (s : σ) :
    xs.mapM f s = .ok (xs.map g) (xs.foldl step s) := by
  induction xs generalizing s with
  | nil => rfl
  | cons x xs ih =>
    rw [List.mapM_cons, bind_ok (hf x s), bind_ok (ih (step s x))]
    rfl

theorem mapM_eq_ok_iff {f : β → EStateM ε σ α} {P : β → Prop} {g : β → α}
    (hf : ∀ x a s s', f x s = .ok a s' ↔ P x ∧ a = g x ∧ s' = s) {xs : List β} :
    xs.mapM f s = .ok as s' ↔ (∀ x ∈ xs, P x) ∧ as = xs.map g ∧ s' = s := by
  induction xs generalizing as s' with
  | nil =>
    rw [List.mapM_nil, pure_eq_ok_iff]
    simp [eq_comm]
  | cons x xs ih =>
    simp only [List.mapM_cons, bind_eq_ok_iff, pure_eq_ok_iff, hf, ih, and_assoc, exists_and_left,
      exists_eq_left, List.forall_mem_cons, List.map_cons]
    simp [eq_comm]

theorem mapM_ok_of_reads {f : β → EStateM ε σ α} {g : β → α} (hf : ∀ x s, f x s = .ok (g x) s)
    (xs : List β) (s : σ) : xs.mapM f s = .ok (xs.map g) s := by
  have h := mapM_ok hf xs s
  rw [List.foldl_fixed] at h
  exact h

theorem mapM_reads {f : β → EStateM ε σ α} {xs : List β} {s : σ}
    (hf : ∀ x ∈ xs, ∃ a, f x s = .ok a s) : ∃ as, xs.mapM f s = .ok as s := by
  induction xs with
  | nil => exact ⟨[], rfl⟩
  | cons x xs ih =>
    obtain ⟨a, ha⟩ := hf x List.mem_cons_self
    obtain ⟨as, has⟩ := ih fun y hy => hf y (List.mem_cons_of_mem x hy)
    refine ⟨a :: as, ?_⟩
    rw [List.mapM_cons, bind_ok ha, bind_ok has]
    rfl

/-- The effects of `m` are published when it returns and dropped when it throws. -/
def transaction (m : EStateM ε σ α) : EStateM ε σ α := fun s =>
  match m s with
  | .ok a s' => .ok a s'
  | .error e _ => .error e s

theorem transaction_eq_ok_iff {m : EStateM ε σ α} :
    transaction m s = .ok a s' ↔ m s = .ok a s' := by
  rw [transaction]
  cases m s <;> simp

/-- A step that leaves the state alone, and throws where there is a failure. -/
def attempt {ε σ : Type} (failure : Option ε) : EStateM ε σ Unit :=
  match failure with
  | some e => throw e
  | none => pure ()

/-- What `m` guarantees from a state satisfying `P`: `Q` where it returns, `E` where it throws. -/
def Triple (P : σ → Prop) (m : EStateM ε σ α) (Q : α → σ → Prop) (E : ε → σ → Prop) : Prop :=
  ∀ s, P s → match m s with
    | .ok a s' => Q a s'
    | .error e s' => E e s'

theorem Triple.of_ok {m : EStateM ε σ α} (h : Triple P m Q E) (hs : P s) (hr : m s = .ok a s') :
    Q a s' := by
  have hm := h s hs
  rw [hr] at hm
  exact hm

theorem Triple.of_error {m : EStateM ε σ α} (h : Triple P m Q E) (hs : P s)
    (hr : m s = .error e s') : E e s' := by
  have hm := h s hs
  rw [hr] at hm
  exact hm

theorem Triple.top (m : EStateM ε σ α) :
    Triple P m (fun _ _ => True) (fun _ _ => True) := by
  intro s _
  cases m s with
  | ok a s' => exact trivial
  | error e s' => exact trivial

theorem Triple.bind {m : EStateM ε σ α} {f : α → EStateM ε σ β}
    (hm : Triple P m R E) (hf : ∀ a, Triple (R a) (f a) Q E) : Triple P (m >>= f) Q E := by
  intro s hs
  cases hr : m s with
  | ok a s' =>
    rw [bind_ok hr]
    exact hf a s' (hm.of_ok hs hr)
  | error e s' =>
    rw [bind_error hr]
    exact hm.of_error hs hr

theorem Triple.pure {Q : α → σ → Prop} {a : α} :
    Triple (Q a) (pure a : EStateM ε σ α) Q E := fun _ hs => hs

theorem Triple.skip {P : σ → Prop} {a : α} :
    Triple P (Pure.pure a : EStateM ε σ α) (fun _ => P) E := fun _ hs => hs

theorem Triple.attempt {ε σ : Type} {P : σ → Prop} {E : ε → σ → Prop} {failure : Option ε}
    (h : ∀ e s, P s → E e s) : Triple P (Throwing.attempt failure) (fun _ => P) E := by
  cases failure with
  | none => exact fun s hs => hs
  | some e => exact h e

theorem Triple.tryCatch {m : EStateM ε σ α} {handle : ε → EStateM ε σ α} (hm : Triple P m Q R)
    (hh : ∀ e, Triple (R e) (handle e) Q E) : Triple P (tryCatch m handle) Q E := by
  intro s hs
  cases hr : m s with
  | ok a s' =>
    rw [tryCatch_ok hr]
    exact hm.of_ok hs hr
  | error e s' =>
    rw [tryCatch_error hr]
    exact hh e s' (hm.of_error hs hr)

theorem Triple.assuming {m : EStateM ε σ α} {φ : Prop} (h : φ → Triple P m Q E) :
    Triple (fun s => P s ∧ φ) m Q E := fun s hs => h hs.2 s hs.1

/-- The invariant of a loop speaks of the elements that are done. -/
theorem Triple.foldlM {f : α → β → EStateM ε σ α} {I : List β → α → σ → Prop} {xs : List β}
    (hf : ∀ done x rest a, done ++ x :: rest = xs →
      Triple (I done a) (f a x) (I (done ++ [x])) E) (a : α) :
    Triple (I [] a) (xs.foldlM f a) (I xs) E := by
  have hloop : ∀ rest done a, done ++ rest = xs →
      Triple (I done a) (rest.foldlM f a) (I xs) E := by
    intro rest
    induction rest with
    | nil =>
      intro done a hdone
      rw [List.append_nil] at hdone
      rw [hdone]
      exact Triple.pure
    | cons x rest ih =>
      intro done a hdone
      rw [List.foldlM_cons]
      refine (hf done x rest a hdone).bind fun a' => ih (done ++ [x]) a' ?_
      rw [List.append_assoc, List.singleton_append, hdone]
  exact hloop xs [] a rfl

theorem Triple.forRange {f : Nat → EStateM ε σ PUnit} {I : Nat → σ → Prop} (n : Nat)
    (hf : ∀ i < n, Triple (I i) (f i) (fun _ => I (i + 1)) E) :
    Triple (I 0) ((List.range n).forM f) (fun _ => I n) E := by
  have hloop : ∀ k i, i + k = n → Triple (I i) ((List.range' i k).forM f) (fun _ => I n) E := by
    intro k
    induction k with
    | zero =>
      intro i hi
      subst hi
      exact fun s hs => hs
    | succ k ih =>
      intro i hi
      apply (hf i (by omega)).bind
      intro _
      exact ih (i + 1) (by omega)
  rw [List.range_eq_range']
  exact hloop n 0 (Nat.zero_add n)

theorem Triple.forM {f : β → EStateM ε σ PUnit} {xs : List β}
    (hf : ∀ x ∈ xs, Triple I (f x) (fun _ => I) E) : Triple I (xs.forM f) (fun _ => I) E := by
  induction xs with
  | nil => exact fun s hs => hs
  | cons x xs ih =>
    exact (hf x List.mem_cons_self).bind fun _ => ih fun y hy => hf y (List.mem_cons_of_mem x hy)

/-- What is known of the value, whatever the state. -/
theorem Triple.given {m : EStateM ε σ α} {φ : Prop} (h : φ → Triple (fun _ => True) m Q E) :
    Triple (fun _ => φ) m Q E := fun s hφ => h hφ s trivial

theorem Triple.bind_given {m : EStateM ε σ α} {f : α → EStateM ε σ β} {φ : α → Prop}
    (hm : Triple P m (fun a _ => φ a) E) (hf : ∀ a, φ a → Triple (fun _ => True) (f a) Q E) :
    Triple P (m >>= f) Q E :=
  hm.bind fun a => Triple.given (hf a)

theorem Triple.mono {m : EStateM ε σ α} (h : Triple P m Q E) (hP : ∀ s, P' s → P s)
    (hQ : ∀ a s, Q a s → Q' a s) (hE : ∀ e s, E e s → E' e s) : Triple P' m Q' E' := by
  intro s hs
  cases hr : m s with
  | ok a s' => exact hQ a s' (h.of_ok (hP s hs) hr)
  | error e s' => exact hE e s' (h.of_error (hP s hs) hr)

theorem Triple.collect {m : EStateM ε σ α} {φ : α → Prop}
    (hm : Triple (fun _ => True) m (fun a _ => φ a) E) (n : Nat) :
    Triple (fun _ => True) ((List.range n).foldlM (fun as _ => do
        let a ← m
        return as ++ [a]) [])
      (fun as _ => as.length = n ∧ ∀ a ∈ as, φ a) E := by
  have hbody : ∀ done i rest as, done ++ i :: rest = List.range n →
      Triple (fun _ => as.length = done.length ∧ ∀ a ∈ as, φ a)
        (do let a ← m
            return as ++ [a])
        (fun as' _ => as'.length = (done ++ [i]).length ∧ ∀ a ∈ as', φ a) E := by
    intro done i rest as _
    apply Triple.given
    intro has
    apply hm.bind
    intro a s ha
    refine ⟨by simp [has.1], ?_⟩
    exact List.forall_mem_append.2 ⟨has.2, List.forall_mem_singleton.2 ha⟩
  have hloop := Triple.foldlM hbody []
  refine hloop.mono (fun _ _ => ⟨rfl, List.forall_mem_nil _⟩) ?_ (fun _ _ h => h)
  intro as s h
  exact ⟨h.1.trans List.length_range, h.2⟩

theorem Triple.mapM {f : β → EStateM ε σ α} {R : β → α → Prop}
    (hf : ∀ x, Triple I (f x) (fun a s => I s ∧ R x a) E) (xs : List β) :
    Triple I (xs.mapM f) (fun as s => I s ∧ List.Forall₂ R xs as) E := by
  induction xs with
  | nil => exact fun _ hs => ⟨hs, .nil⟩
  | cons x xs ih =>
    rw [List.mapM_cons]
    apply (hf x).bind
    intro a
    apply Triple.assuming
    intro ha
    apply ih.bind
    intro as
    apply Triple.assuming
    intro has s hs
    exact ⟨hs, .cons ha has⟩

theorem Triple.finalState {m : EStateM ε σ α} {T : σ → Prop}
    (h : Triple P m (fun _ => T) (fun _ => T)) (hs : P s) : T (finalState m s) := by
  rw [Throwing.finalState]
  cases hr : m s with
  | ok a s' => exact h.of_ok hs hr
  | error e s' => exact h.of_error hs hr

theorem Triple.of_total {m : EStateM ε σ α} {Q : α → σ → Prop} {E : ε → σ → Prop}
    (h : Triple P m Q (fun _ _ => False)) : Triple P m Q E :=
  h.mono (fun _ hs => hs) (fun _ _ hs => hs) (fun _ _ hs => hs.elim)

theorem Triple.returns {m : EStateM ε σ α} {Q : α → σ → Prop}
    (h : Triple P m Q (fun _ _ => False)) (hs : P s) : ∃ a s', m s = .ok a s' ∧ Q a s' := by
  cases hr : m s with
  | ok a s' => exact ⟨a, s', rfl, h.of_ok hs hr⟩
  | error e s' => exact (h.of_error hs hr).elim

def Keeps (I : σ → Prop) (m : EStateM ε σ α) : Prop := Triple I m (fun _ => I) (fun _ => I)

theorem Keeps.bind {m : EStateM ε σ α} {f : α → EStateM ε σ β} (hm : Keeps I m)
    (hf : ∀ a, Keeps I (f a)) : Keeps I (m >>= f) :=
  Triple.bind hm hf

theorem Keeps.forM {f : β → EStateM ε σ PUnit} {xs : List β} (hf : ∀ x ∈ xs, Keeps I (f x)) :
    Keeps I (xs.forM f) :=
  Triple.forM hf

theorem Keeps.finalState {m : EStateM ε σ α} (h : Keeps I m) (hs : I s) : I (finalState m s) :=
  Triple.finalState h hs

/-- Calls made one after another, thrown exceptions notwithstanding, keep a common invariant. -/
theorem Keeps.foldl {f : β → EStateM ε σ α} {xs : List β} (hf : ∀ x ∈ xs, Keeps I (f x))
    (hs : I s) : I (xs.foldl (fun s x => Throwing.finalState (f x) s) s) := by
  induction xs generalizing s with
  | nil => exact hs
  | cons x xs ih =>
    exact ih (fun y hy => hf y (List.mem_cons_of_mem x hy))
      ((hf x List.mem_cons_self).finalState hs)

/-- What some calls establish, others keep and the rest destroy holds in the end exactly if the last
call that does not just keep it establishes it. -/
theorem foldl_iff_last {step : σ → β → σ} {P I : σ → Prop} {sets keeps : β → Prop}
    (hstep : ∀ s x, I s → (P (step s x) ↔ sets x ∨ keeps x ∧ P s)) (hI : ∀ s x, I s → I (step s x))
    (hs : I s) (hP : ¬ P s) (xs : List β) :
    P (xs.foldl step s) ↔
      ∃ before x rest, xs = before ++ x :: rest ∧ sets x ∧ ∀ y ∈ rest, keeps y := by
  have hrun : I (xs.foldl step s) ∧ (P (xs.foldl step s) ↔
      ∃ before x rest, xs = before ++ x :: rest ∧ sets x ∧ ∀ y ∈ rest, keeps y) := by
    induction xs using List.reverseRecOn with
    | nil =>
      refine ⟨hs, iff_of_false hP ?_⟩
      intro h
      obtain ⟨before, x, rest, heq, -⟩ := h
      cases before <;> cases heq
    | append_singleton xs x ih =>
      obtain ⟨hI', ih⟩ := ih
      rw [List.foldl_append]
      refine ⟨hI _ x hI', (hstep _ x hI').trans ?_⟩
      rw [ih]
      constructor
      · intro h
        rcases h with hx | ⟨hx, before, y, rest, rfl, hy, hrest⟩
        · exact ⟨xs, x, [], rfl, hx, List.forall_mem_nil _⟩
        · refine ⟨before, y, rest ++ [x], by simp, hy, ?_⟩
          intro z hz
          rcases List.mem_append.1 hz with hz | hz
          · exact hrest z hz
          · exact List.mem_singleton.1 hz ▸ hx
      · intro h
        obtain ⟨before, y, rest, heq, hy, hrest⟩ := h
        cases rest using List.reverseRecOn with
        | nil =>
          obtain ⟨-, hxy⟩ := List.append_inj' heq rfl
          cases hxy
          exact .inl hy
        | append_singleton rest z =>
          rw [← List.cons_append, ← List.append_assoc] at heq
          obtain ⟨rfl, hxz⟩ := List.append_inj' heq rfl
          cases hxz
          refine .inr ⟨hrest x (by simp), before, y, rest, rfl, hy, ?_⟩
          exact fun w hw => hrest w (List.mem_append_left _ hw)
  exact hrun.2

theorem getElem?_concat_eq_some_iff {l : List α} :
    (l ++ [a])[n]? = some b ↔ n = l.length ∧ b = a ∨ l[n]? = some b := by
  rcases Nat.lt_trichotomy n l.length with hlt | rfl | hlt
  · rw [List.getElem?_append_left hlt]
    exact (or_iff_right fun h => absurd h.1 (Nat.ne_of_lt hlt)).symm
  · rw [List.getElem?_concat_length, List.getElem?_eq_none (Nat.le_refl _)]
    simp [eq_comm]
  · have hlength : (l ++ [a]).length ≤ n := by
      rw [List.length_append, List.length_singleton]
      exact hlt
    rw [List.getElem?_eq_none hlength, List.getElem?_eq_none (Nat.le_of_lt hlt)]
    exact (or_iff_right fun h => absurd h.1 (Nat.ne_of_gt hlt)).symm

end Throwing
