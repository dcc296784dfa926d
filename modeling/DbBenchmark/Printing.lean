import DbBenchmark.Throwing

namespace Printing
open Throwing
set_option autoImplicit true

variable {α β ε : Type} {m m' : EStateM ε (List α) PUnit} {fits fits' : Prop}
  {text text' printed printed' : List α}

def print (text : List α) : EStateM ε (List α) PUnit := modify (· ++ text)

theorem print_eq (text printed : List α) :
    (print text : EStateM ε (List α) PUnit) printed = .ok ⟨⟩ (printed ++ text) := rfl

/-- Where `fits` holds, `m` prints `text` and returns. Elsewhere it throws, or prints more. -/
structure Prints (m : EStateM ε (List α) PUnit) (fits : Prop) (text : List α) : Prop where
  returns : fits → ∀ printed, m printed = .ok ⟨⟩ (printed ++ text)
  overflows : ¬ fits → ∀ printed printed', m printed = .ok ⟨⟩ printed' →
    (printed ++ text).length < printed'.length

namespace Prints

theorem length_le (h : Prints m fits text) (hr : m printed = .ok ⟨⟩ printed') :
    (printed ++ text).length ≤ printed'.length := by
  by_cases hfits : fits
  · rw [h.returns hfits] at hr
    cases hr
    exact Nat.le_refl _
  · exact Nat.le_of_lt (h.overflows hfits _ _ hr)

theorem eq_ok_iff (h : Prints m fits text) (printed : List α) :
    m printed = .ok ⟨⟩ (printed ++ text) ↔ fits := by
  constructor
  · intro hr
    by_contra hfits
    exact Nat.lt_irrefl _ (h.overflows hfits _ _ hr)
  · exact fun hfits => h.returns hfits printed

theorem congr (h : Prints m fits text) (hfits : fits ↔ fits') (htext : text = text') :
    Prints m fits' text' := by
  rw [← htext]
  exact propext hfits ▸ h

theorem print (text : List α) :
    Prints (Printing.print text : EStateM ε (List α) PUnit) True text where
  returns _ := print_eq text
  overflows h := (h trivial).elim

theorem skip : Prints (pure ⟨⟩ : EStateM ε (List α) PUnit) True [] where
  returns _ printed := by
    rw [List.append_nil]
    rfl
  overflows h := (h trivial).elim

theorem seq (h : Prints m fits text) (h' : Prints m' fits' text') :
    Prints (m >>= fun _ => m') (fits ∧ fits') (text ++ text') where
  returns hfits printed := by
    rw [bind_ok (h.returns hfits.1 printed), h'.returns hfits.2, List.append_assoc]
  overflows hfits printed printed'' hr := by
    obtain ⟨_, printed', hm, hm'⟩ := bind_eq_ok_iff.1 hr
    have hle := h.length_le hm
    have hle' := h'.length_le hm'
    simp only [List.length_append] at hle hle' ⊢
    by_cases hfirst : fits
    · have hlt := h'.overflows (fun hsecond => hfits ⟨hfirst, hsecond⟩) _ _ hm'
      rw [List.length_append] at hlt
      omega
    · have hlt := h.overflows hfirst _ _ hm
      rw [List.length_append] at hlt
      omega

theorem made {make : EStateM ε (List α) (List α)} (h : Prints (make >>= Printing.print) fits text)
    (h' : Prints m' fits' text') :
    Prints (make >>= fun made => Printing.print made >>= fun _ => m') (fits ∧ fits')
      (text ++ text') := by
  rw [← bind_assoc]
  exact h.seq h'

theorem forM {f : β → EStateM ε (List α) PUnit} {fits : β → Prop} {text : β → List α}
    {xs : List β} (h : ∀ x ∈ xs, Prints (f x) (fits x) (text x)) :
    Prints (xs.forM f) (∀ x ∈ xs, fits x) (xs.flatMap text) := by
  induction xs with
  | nil => exact skip.congr (iff_of_true trivial (List.forall_mem_nil _)) rfl
  | cons x xs ih =>
    obtain ⟨hx, hxs⟩ := List.forall_mem_cons.1 h
    exact (hx.seq (ih hxs)).congr List.forall_mem_cons.symm rfl

theorem forM_filter {f : β → EStateM ε (List α) PUnit} {p fits : β → Prop} [DecidablePred p]
    {text : β → List α} {xs : List β} (hskip : ∀ x ∈ xs, ¬ p x → f x = pure ⟨⟩)
    (h : ∀ x ∈ xs, p x → Prints (f x) (fits x) (text x)) :
    Prints (xs.forM f) (∀ x ∈ xs, p x → fits x) ((xs.filter (p ·)).flatMap text) := by
  induction xs with
  | nil => exact skip.congr (iff_of_true trivial (List.forall_mem_nil _)) rfl
  | cons x xs ih =>
    obtain ⟨hskipx, hskipxs⟩ := List.forall_mem_cons.1 hskip
    obtain ⟨hx, hxs⟩ := List.forall_mem_cons.1 h
    have hrest := ih hskipxs hxs
    rw [List.filter_cons]
    by_cases hp : p x
    · rw [if_pos (decide_eq_true hp)]
      exact ((hx hp).seq hrest).congr (by simp [hp]) rfl
    · have hfirst : Prints (f x) True [] := by
        rw [hskipx hp]
        exact skip
      rw [if_neg (by simpa using hp)]
      exact (hfirst.seq hrest).congr (by simp [hp]) rfl

end Prints

end Printing
