import DbBenchmark.Throwing

namespace Throwing
set_option autoImplicit true

/-- An abstract machine: what a call does to the state, the answer it should get, and the
states in which the call may be made. -/
structure Machine (τ β γ : Type) where
  step : τ → β → τ
  answer : τ → β → γ
  allowed : τ → β → Prop

namespace Machine

def answers (M : Machine τ β γ) (t : τ) : List β → List γ
  | [] => []
  | x :: xs => M.answer t x :: M.answers (M.step t x) xs

def Allowed (M : Machine τ β γ) (t : τ) : List β → Prop
  | [] => True
  | x :: xs => M.allowed t x ∧ M.Allowed (M.step t x) xs

/-- From related states an allowed call returns, answers as expected and leaves related states. -/
def SimulatedBy (M : Machine τ β γ) (R : τ → σ → Prop) (A : γ → α → Prop)
    (f : β → EStateM ε σ α) : Prop :=
  ∀ t s x, R t s → M.allowed t x →
    ∃ a s', f x s = .ok a s' ∧ A (M.answer t x) a ∧ R (M.step t x) s'

theorem SimulatedBy.run {M : Machine τ β γ} {f : β → EStateM ε σ α} (h : M.SimulatedBy R A f)
    (xs : List β) (hR : R t s) (hx : M.Allowed t xs) :
    ∃ as s', xs.mapM f s = .ok as s' ∧ List.Forall₂ A (M.answers t xs) as := by
  induction xs generalizing t s with
  | nil => exact ⟨[], s, rfl, .nil⟩
  | cons x xs ih =>
    obtain ⟨a, s', hf, ha, hR'⟩ := h t s x hR hx.1
    obtain ⟨as, s'', hfs, has⟩ := ih hR' hx.2
    refine ⟨a :: as, s'', ?_, .cons ha has⟩
    rw [List.mapM_cons, bind_ok hf, bind_ok hfs]
    rfl

end Machine

end Throwing
