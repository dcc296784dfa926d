import DbBenchmark.Throwing

namespace Throwing
set_option autoImplicit true

/-- A state with a fault set for one of the coming fallible steps: with `some n`, the `n`-th from
now, counted from zero, throws, in place of its effect or behind it. -/
structure Faulty (σ : Type) where
  state : σ
  fault : Option Nat
  takesEffect : Bool

namespace Faulty

def calm (s : σ) : Faulty σ := ⟨s, none, false⟩

def lift (m : EStateM ε σ α) : EStateM ε (Faulty σ) α := fun s =>
  match m s.state with
  | .ok a s' => .ok a { s with state := s' }
  | .error e s' => .error e { s with state := s' }

/-- What the fault makes of the state below: a request may have been served and its reply lost. -/
def struck (m : EStateM ε σ α) (s : Faulty σ) : σ :=
  if s.takesEffect then finalState m s.state else s.state

def fallible (error : ε) (m : EStateM ε σ α) : EStateM ε (Faulty σ) α := fun s =>
  match s.fault with
  | some 0 => .error error { s with state := struck m s, fault := none }
  | some (n + 1) => lift m { s with fault := some n }
  | none => lift m s

theorem lift_triple {m : EStateM ε σ α} {P : σ → Prop} {Q : α → σ → Prop} {E : ε → σ → Prop}
    (h : Triple P m Q E) (fault : Option Nat) (takesEffect : Bool) :
    Triple (fun s => P s.state ∧ s.fault = fault ∧ s.takesEffect = takesEffect) (lift m)
      (fun a s => Q a s.state ∧ s.fault = fault ∧ s.takesEffect = takesEffect)
      (fun e s => E e s.state) := by
  intro s hs
  have hm := h s.state hs.1
  rw [lift]
  cases hr : m s.state with
  | ok a s' =>
    rw [hr] at hm
    exact ⟨hm, hs.2⟩
  | error e s' =>
    rw [hr] at hm
    exact hm

theorem struck_keeps {m : EStateM ε σ α} {I : σ → Prop} (h : Keeps I m) {s : Faulty σ}
    (hs : I s.state) : I (struck m s) := by
  rw [struck]
  split_ifs
  · exact h.finalState hs
  · exact hs

theorem struck_of_not {m : EStateM ε σ α} {s : Faulty σ} (h : s.takesEffect = false) :
    struck m s = s.state := by
  rw [struck, h]
  rfl

theorem struck_of_takesEffect {m : EStateM ε σ α} {s : Faulty σ} (h : s.takesEffect = true) :
    struck m s = finalState m s.state := by
  rw [struck, h]
  rfl

/-- The fault strikes one of the next `j` fallible steps, or the one behind them in place of its
effect. -/
def Before (j : Nat) (s : Faulty σ) : Prop :=
  ∃ i, s.fault = some i ∧ (i < j ∨ i = j ∧ s.takesEffect = false)

/-- The fault is still to come behind `j` fallible steps, and the next one takes its effect. -/
def Behind (j : Nat) (s : Faulty σ) : Prop :=
  ∃ i, s.fault = some i ∧ (j < i ∨ i = j ∧ s.takesEffect = true)

def Pending (s : Faulty σ) : Prop := ∃ i, s.fault = some i

theorem behind_of_not_before {s : Faulty σ} (hfault : s.fault = some i) (h : ¬ Before j s) :
    Behind j s := by
  refine ⟨i, hfault, ?_⟩
  by_contra hnot
  rw [not_or, not_and, Bool.not_eq_true] at hnot
  refine h ⟨i, hfault, ?_⟩
  rcases Nat.lt_or_eq_of_le (Nat.le_of_not_lt hnot.1) with hlt | heq
  · exact .inl hlt
  · exact .inr ⟨heq, hnot.2 heq⟩

section Rules

variable {m : EStateM ε σ α} {error : ε} {P I : σ → Prop} {Q : α → σ → Prop} {E : ε → σ → Prop}

theorem fallible_calm (h : Triple P m Q E) :
    Triple (fun s => P s.state ∧ s.fault = none) (fallible error m)
      (fun a s => Q a s.state ∧ s.fault = none) (fun e s => E e s.state) := by
  rintro ⟨s, fault, takesEffect⟩ ⟨hs, rfl⟩
  have hlift := (lift_triple h none takesEffect).mono (fun _ hs => hs)
    (fun _ _ hs => And.intro hs.1 hs.2.1) (fun _ _ hs => hs)
  exact hlift _ ⟨hs, rfl, rfl⟩

theorem fallible_succ (h : Triple P m Q E) (i : Nat) (takesEffect : Bool) :
    Triple (fun s => P s.state ∧ s.fault = some (i + 1) ∧ s.takesEffect = takesEffect)
      (fallible error m)
      (fun a s => Q a s.state ∧ s.fault = some i ∧ s.takesEffect = takesEffect)
      (fun e s => E e s.state) := by
  rintro ⟨s, fault, effect⟩ ⟨hs, rfl, rfl⟩
  exact lift_triple h (some i) effect ⟨s, some i, effect⟩ ⟨hs, rfl, rfl⟩

theorem fallible_zero (hstruck : ∀ s : Faulty σ, P s.state → E error (struck m s)) :
    Triple (fun s => P s.state ∧ s.fault = some 0) (fallible error m) (fun _ _ => False)
      (fun e s => E e s.state) := by
  rintro ⟨s, fault, takesEffect⟩ ⟨hs, rfl⟩
  exact hstruck ⟨s, some 0, takesEffect⟩ hs

theorem fallible_zero_keeps (h : Keeps I m) :
    Triple (fun s => I s.state ∧ s.fault = some 0) (fallible error m) (fun _ _ => False)
      (fun _ s => I s.state) :=
  fallible_zero fun _ hs => struck_keeps h hs

theorem fallible_triple (h : Triple P m Q E)
    (hstruck : ∀ s : Faulty σ, P s.state → E error (struck m s)) :
    Triple (fun s => P s.state) (fallible error m) (fun a s => Q a s.state)
      (fun e s => E e s.state) := by
  intro s hs
  match hfault : s.fault with
  | none =>
    exact (fallible_calm h).mono (fun _ h => h) (fun _ _ h => h.1) (fun _ _ h => h) s ⟨hs, hfault⟩
  | some 0 =>
    exact (fallible_zero hstruck).mono (fun _ h => h) (fun _ _ h => h.elim) (fun _ _ h => h) s
      ⟨hs, hfault⟩
  | some (n + 1) =>
    exact (fallible_succ h n s.takesEffect).mono (fun _ h => h) (fun _ _ h => h.1)
      (fun _ _ h => h) s ⟨hs, hfault, rfl⟩

theorem fallible_keeps (h : Keeps I m) : Keeps (fun s => I s.state) (fallible error m) :=
  fallible_triple h fun _ hs => struck_keeps h hs

theorem fallible_before (h : Keeps I m) (j : Nat) :
    Triple (fun s => I s.state ∧ Before (j + 1) s) (fallible error m)
      (fun _ s => I s.state ∧ Before j s) (fun _ s => I s.state) := by
  intro s hs
  obtain ⟨hs, i, hfault, hi⟩ := hs
  cases i with
  | zero =>
    exact (fallible_zero_keeps h).mono (fun _ h => h) (fun _ _ h => h.elim) (fun _ _ h => h) s
      ⟨hs, hfault⟩
  | succ i =>
    apply (fallible_succ h i s.takesEffect).mono (fun _ h => h) ?_ (fun _ _ h => h) s
      ⟨hs, hfault, rfl⟩
    intro _ s' hs'
    refine ⟨hs'.1, i, hs'.2.1, ?_⟩
    rw [hs'.2.2]
    exact hi.imp Nat.lt_of_succ_lt_succ fun hlast => ⟨Nat.succ.inj hlast.1, hlast.2⟩

theorem fallible_before_zero (hE : ∀ s, P s → E error s) :
    Triple (fun s => P s.state ∧ Before 0 s) (fallible error m) (fun _ _ => False)
      (fun e s => E e s.state) := by
  intro s hs
  obtain ⟨hs, i, hfault, hi⟩ := hs
  obtain ⟨rfl, hnot⟩ := hi.resolve_left (Nat.not_lt_zero i)
  rw [fallible, hfault]
  change E error (struck m s)
  rw [struck_of_not hnot]
  exact hE s.state hs

theorem fallible_behind (h : Triple P m Q E) (j : Nat) :
    Triple (fun s => P s.state ∧ Behind (j + 1) s) (fallible error m)
      (fun a s => Q a s.state ∧ Behind j s) (fun e s => E e s.state) := by
  intro s hs
  obtain ⟨hs, i, hfault, hi⟩ := hs
  cases i with
  | zero => omega
  | succ i =>
    apply (fallible_succ h i s.takesEffect).mono (fun _ h => h) ?_ (fun _ _ h => h) s
      ⟨hs, hfault, rfl⟩
    intro a s' hs'
    refine ⟨hs'.1, i, hs'.2.1, ?_⟩
    rw [hs'.2.2]
    exact hi.imp Nat.lt_of_succ_lt_succ fun hlast => ⟨Nat.succ.inj hlast.1, hlast.2⟩

theorem fallible_behind_zero (h : Triple P m (fun _ => I) (fun _ => I)) :
    Triple (fun s => P s.state ∧ Behind 0 s) (fallible error m)
      (fun _ s => I s.state ∧ Pending s) (fun _ s => I s.state) := by
  intro s hs
  obtain ⟨hs, i, hfault, hi⟩ := hs
  cases i with
  | zero =>
    have heffect := (hi.resolve_left (Nat.lt_irrefl 0)).2
    rw [fallible, hfault]
    change I (struck m s)
    rw [struck_of_takesEffect heffect]
    exact h.finalState hs
  | succ i =>
    exact (fallible_succ h i s.takesEffect).mono (fun _ h => h) (fun _ _ h => ⟨h.1, i, h.2.1⟩)
      (fun _ _ h => h) s ⟨hs, hfault, rfl⟩

theorem fallible_pending (h : Keeps I m) :
    Triple (fun s => I s.state ∧ Pending s) (fallible error m)
      (fun _ s => I s.state ∧ Pending s) (fun _ s => I s.state) := by
  intro s hs
  obtain ⟨hs, i, hfault⟩ := hs
  cases i with
  | zero =>
    exact (fallible_zero_keeps h).mono (fun _ h => h) (fun _ _ h => h.elim) (fun _ _ h => h) s
      ⟨hs, hfault⟩
  | succ i =>
    exact (fallible_succ h i s.takesEffect).mono (fun _ h => h) (fun _ _ h => ⟨h.1, i, h.2.1⟩)
      (fun _ _ h => h) s ⟨hs, hfault, rfl⟩

end Rules

end Faulty

end Throwing
