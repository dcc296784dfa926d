import DbBenchmark.Throwing

namespace Plans
open Throwing
set_option autoImplicit true

variable {ε σ α β A : Type} {log : σ → List (A × Bool)} {plan next : List A}

/-- Requests on record with whether they were answered; of these all were. -/
def answered (plan : List A) : List (A × Bool) := plan.map fun a => (a, true)

/-- What is on record of a plan that was cut short, between two requests or during one. -/
inductive CutShort (plan : List A) : List (A × Bool) → Prop where
  | between (done rest : List A) : plan = done ++ rest → CutShort plan (answered done)
  | during (done : List A) (a : A) (rest : List A) :
      plan = done ++ a :: rest → CutShort plan (answered done ++ [(a, false)])

@[simp] theorem answered_nil : answered ([] : List A) = [] := rfl

@[simp] theorem answered_append (p q : List A) : answered (p ++ q) = answered p ++ answered q :=
  List.map_append

theorem map_fst_answered (plan : List A) : (answered plan).map Prod.fst = plan := by
  rw [answered, List.map_map]
  exact List.map_id plan

theorem cutShort_nil (plan : List A) : CutShort plan [] := .between [] plan rfl

theorem CutShort.of_append (h : CutShort plan made) (next : List A) :
    CutShort (plan ++ next) made := by
  cases h with
  | between done rest heq =>
    apply CutShort.between done (rest ++ next)
    rw [heq, List.append_assoc]
  | during done a rest heq =>
    apply CutShort.during done a (rest ++ next)
    rw [heq, List.append_assoc, List.cons_append]

theorem CutShort.after (h : CutShort next made) (plan : List A) :
    CutShort (plan ++ next) (answered plan ++ made) := by
  cases h with
  | between done rest heq =>
    rw [← answered_append]
    apply CutShort.between (plan ++ done) rest
    rw [heq, List.append_assoc]
  | during done a rest heq =>
    rw [← List.append_assoc, ← answered_append]
    apply CutShort.during (plan ++ done) a rest
    rw [heq, List.append_assoc]

/-- Where `m` returns it has made the requests of the plan and each was answered; where it throws,
it has cut the plan short. `Q` is what is known of the value. -/
def Performs (log : σ → List (A × Bool)) (plan : List A) (m : EStateM ε σ α) (Q : α → Prop) :
    Prop :=
  ∀ before, Triple (fun s => log s = before) m (fun a s => log s = before ++ answered plan ∧ Q a)
    fun _ s => ∃ made, CutShort plan made ∧ log s = before ++ made

/-- A step that requests nothing. -/
def Silent (log : σ → List (A × Bool)) (m : EStateM ε σ α) : Prop :=
  ∀ before, Keeps (fun s => log s = before) m

theorem Performs.of_ok {m : EStateM ε σ α} (h : Performs log plan m Q) (hr : m s = .ok a s') :
    log s' = log s ++ answered plan ∧ Q a :=
  (h (log s)).of_ok rfl hr

theorem Performs.of_error {m : EStateM ε σ α} (h : Performs log plan m Q) (hr : m s = .error e s') :
    ∃ made, CutShort plan made ∧ log s' = log s ++ made :=
  (h (log s)).of_error rfl hr

theorem Performs.imp {m : EStateM ε σ α} {Q R : α → Prop} (h : Performs log plan m Q)
    (hQ : ∀ a, Q a → R a) : Performs log plan m R := by
  intro before
  exact (h before).mono (fun _ hs => hs) (fun a _ hs => ⟨hs.1, hQ a hs.2⟩) (fun _ _ hs => hs)

theorem Performs.congr {m : EStateM ε σ α} (h : Performs log plan m Q) (heq : plan = plan') :
    Performs log plan' m Q := heq ▸ h

theorem Performs.pure {Q : α → Prop} {a : α} (h : Q a) :
    Performs log [] (Pure.pure a : EStateM ε σ α) Q := by
  intro before s hs
  exact ⟨hs.trans (List.append_nil before).symm, h⟩

theorem performs_throw (plan : List A) (e : ε) :
    Performs log plan (throw e : EStateM ε σ α) Q := by
  intro before s hs
  exact ⟨[], cutShort_nil plan, hs.trans (List.append_nil before).symm⟩

theorem Silent.performs {m : EStateM ε σ α} (h : Silent log m) :
    Performs log [] m fun _ => True := by
  intro before
  apply (h before).mono (fun _ hs => hs)
  · exact fun _ s hs => ⟨hs.trans (List.append_nil before).symm, trivial⟩
  · exact fun _ s hs => ⟨[], cutShort_nil [], hs.trans (List.append_nil before).symm⟩

theorem Performs.bind {m : EStateM ε σ α} {f : α → EStateM ε σ β} {Q : α → Prop} {R : β → Prop}
    (hm : Performs log plan m Q) (hf : ∀ a, Q a → Performs log next (f a) R) :
    Performs log (plan ++ next) (m >>= f) R := by
  intro before s hs
  cases hr : m s with
  | error e s' =>
    rw [bind_error hr]
    obtain ⟨made, hmade, hlog⟩ := (hm before).of_error hs hr
    exact ⟨made, hmade.of_append next, hlog⟩
  | ok a s' =>
    rw [bind_ok hr]
    obtain ⟨hlog, ha⟩ := (hm before).of_ok hs hr
    apply (hf a ha _).mono (fun _ h => h) ?_ ?_ s' hlog
    · intro b s'' hb
      refine ⟨?_, hb.2⟩
      rw [hb.1, answered_append, List.append_assoc]
    · intro e s'' h
      obtain ⟨made, hmade, hlog'⟩ := h
      refine ⟨answered plan ++ made, hmade.after plan, ?_⟩
      rw [hlog', List.append_assoc]

theorem Performs.bind_silent {m : EStateM ε σ α} {f : α → EStateM ε σ β} (hm : Silent log m)
    (hf : ∀ a, Performs log plan (f a) Q) : Performs log plan (m >>= f) Q :=
  hm.performs.bind fun a _ => hf a

/-- An exception that is caught only to be thrown again. -/
theorem Performs.rethrow {m : EStateM ε σ α} (hm : Performs log plan m Q) (wrap : ε → ε) :
    Performs log plan (tryCatch m fun e => throw (wrap e)) Q := by
  intro before
  apply (hm before).tryCatch
  exact fun e s hs => hs

theorem Performs.foldlM {f : α → β → EStateM ε σ α} {requests : β → List A}
    {I : List β → α → Prop} {xs : List β} (hf : ∀ done x rest a, done ++ x :: rest = xs → I done a →
      Performs log (requests x) (f a x) (I (done ++ [x]))) {a : α} (ha : I [] a) :
    Performs log (xs.flatMap requests) (xs.foldlM f a) (I xs) := by
  have hloop : ∀ rest done a, done ++ rest = xs → I done a →
      Performs log (rest.flatMap requests) (rest.foldlM f a) (I xs) := by
    intro rest
    induction rest with
    | nil =>
      intro done a hdone ha
      rw [List.append_nil] at hdone
      exact .pure (hdone ▸ ha)
    | cons x rest ih =>
      intro done a hdone ha
      rw [List.foldlM_cons, List.flatMap_cons]
      apply (hf done x rest a hdone ha).bind
      intro a' ha'
      apply ih (done ++ [x]) a' _ ha'
      rw [List.append_assoc, List.singleton_append, hdone]
  exact hloop xs [] a rfl ha

end Plans
