import DbBenchmark.Grouping
import Mathlib.Data.List.Basic
import Mathlib.Data.List.Perm.Basic
import Mathlib.Order.Basic

namespace ThreadPool
set_option autoImplicit true

/-- A main thread that starts `threads` workers in order and then joins them in order. A worker
advances by steps on its own local state and the state that all share. -/
structure Program (Local Shared Input : Type) where
  threads : Nat
  start : Nat → Local
  step : Nat → Input → Local → Shared → Option (Local × Shared)
  finished : Local → Bool

structure Pool (Local Shared : Type) where
  locals : List Local
  shared : Shared
  joined : Nat

inductive Action (Input : Type) where
  | spawn
  | advance (t : Nat) (input : Input)
  | join

namespace Program

variable {Local Shared Input : Type} (P : Program Local Shared Input)

def act (s : Pool Local Shared) : Action Input → Option (Pool Local Shared)
  | .spawn =>
    if s.locals.length < P.threads then
      some { s with locals := s.locals ++ [P.start s.locals.length] }
    else none
  | .advance t input => do
    let l ← s.locals[t]?
    let (l', shared') ← P.step t input l s.shared
    return { s with locals := s.locals.set t l', shared := shared' }
  | .join =>
    if s.locals.length = P.threads ∧ s.locals[s.joined]?.any P.finished then
      some { s with joined := s.joined + 1 }
    else none

def init (shared : Shared) : Pool Local Shared := ⟨[], shared, 0⟩

/-- The actions of a run come in any order in which each is enabled. -/
def run (s : Pool Local Shared) (acts : List (Action Input)) : Option (Pool Local Shared) :=
  acts.foldlM P.act s

variable {P} {s s' : Pool Local Shared} {shared : Shared} {acts : List (Action Input)}

theorem act_spawn (h : P.act s .spawn = some s') :
    s.locals.length < P.threads ∧
      s' = { s with locals := s.locals ++ [P.start s.locals.length] } := by
  simp only [act] at h
  split at h
  · exact ⟨‹_›, (Option.some.inj h).symm⟩
  · cases h

theorem act_advance (h : P.act s (.advance t input) = some s') :
    ∃ l l' shared', s.locals[t]? = some l ∧ P.step t input l s.shared = some (l', shared') ∧
      s' = { s with locals := s.locals.set t l', shared := shared' } := by
  simp only [act, Option.bind_eq_bind, Option.bind_eq_some_iff] at h
  obtain ⟨l, hl, ⟨l', shared'⟩, hstep, hs'⟩ := h
  exact ⟨l, l', shared', hl, hstep, (Option.some.inj hs').symm⟩

theorem act_join (h : P.act s .join = some s') :
    s.locals.length = P.threads ∧ (∃ l, s.locals[s.joined]? = some l ∧ P.finished l) ∧
      s' = { s with joined := s.joined + 1 } := by
  simp only [act] at h
  split at h
  case isTrue hc =>
    obtain ⟨hlen, hfin⟩ := hc
    rw [Option.any_eq_true] at hfin
    exact ⟨hlen, hfin, (Option.some.inj h).symm⟩
  case isFalse => cases h

theorem run_induction (I : Pool Local Shared → Prop) (hs : I s)
    (hact : ∀ s a s', I s → P.act s a = some s' → I s') (h : P.run s acts = some s') : I s' := by
  induction acts generalizing s with
  | nil =>
    cases h
    exact hs
  | cons a acts ih =>
    rw [run, List.foldlM_cons, Option.bind_eq_bind, Option.bind_eq_some_iff] at h
    obtain ⟨s₁, ha, hrun⟩ := h
    exact ih (hact s a s₁ hs ha) hrun

theorem finished_of_joined (hfin : ∀ t input l shared, P.finished l →
      P.step t input l shared = none) (h : P.run (init shared) acts = some s) :
    ∀ t < s.joined, ∃ l, s.locals[t]? = some l ∧ P.finished l := by
  refine run_induction (fun s => ∀ t < s.joined, ∃ l, s.locals[t]? = some l ∧ P.finished l)
    (fun t ht => absurd ht (Nat.not_lt_zero t)) ?_ h
  intro s a s' hs ha t ht
  cases a with
  | spawn =>
    obtain ⟨-, rfl⟩ := act_spawn ha
    obtain ⟨l, hl, hf⟩ := hs t ht
    have hlt := (List.getElem?_eq_some_iff.1 hl).1
    exact ⟨l, by rw [List.getElem?_append_left hlt, hl], hf⟩
  | advance u input =>
    obtain ⟨l, l', shared', hu, hstep, rfl⟩ := act_advance ha
    obtain ⟨m, hm, hf⟩ := hs t ht
    by_cases htu : u = t
    · subst htu
      cases hu.symm.trans hm
      rw [hfin u input l s.shared hf] at hstep
      cases hstep
    · exact ⟨m, by rw [List.getElem?_set_ne htu, hm], hf⟩
  | join =>
    obtain ⟨-, hl, rfl⟩ := act_join ha
    rcases Nat.lt_succ_iff_lt_or_eq.1 ht with hlt | rfl
    · exact hs t hlt
    · exact hl

theorem joined_le (h : P.run (init shared) acts = some s) : s.joined ≤ P.threads := by
  refine run_induction (fun s => s.joined ≤ P.threads) (Nat.zero_le _) ?_ h
  intro s a s' hs ha
  cases a with
  | spawn =>
    obtain ⟨-, rfl⟩ := act_spawn ha
    exact hs
  | advance t input =>
    obtain ⟨l, l', shared', -, -, rfl⟩ := act_advance ha
    exact hs
  | join =>
    obtain ⟨hlen, ⟨l, hl, -⟩, rfl⟩ := act_join ha
    exact hlen ▸ (List.getElem?_eq_some_iff.1 hl).1

/-- Every thread that was spawned satisfies `J` with its own view of the shared state; the views
of the others are still the initial ones. -/
structure Views {View : Type} (P : Program Local Shared Input) (view : Nat → Shared → View)
    (J : Nat → Local → View → Prop) (initial : Shared) (s : Pool Local Shared) : Prop where
  length_le : s.locals.length ≤ P.threads
  spawned : ∀ t l, s.locals[t]? = some l → J t l (view t s.shared)
  unspawned : ∀ t, s.locals.length ≤ t → view t s.shared = view t initial

section Views

variable {View : Type} {view : Nat → Shared → View} {J : Nat → Local → View → Prop}
  {initial : Shared}

theorem views_init : Views P view J initial (init initial) where
  length_le := Nat.zero_le _
  spawned t l hl := by simp [init] at hl
  unspawned _ _ := rfl

theorem views_spawn (hstart : ∀ t < P.threads, J t (P.start t) (view t initial))
    (hs : Views P view J initial s) (ha : P.act s .spawn = some s') :
    Views P view J initial s' := by
  obtain ⟨hlt, rfl⟩ := act_spawn ha
  have hlen : (s.locals ++ [P.start s.locals.length]).length = s.locals.length + 1 := by simp
  exact {
    length_le := hlen ▸ hlt
    spawned := by
      intro t l hl
      rcases Nat.lt_trichotomy t s.locals.length with ht | rfl | ht
      · rw [List.getElem?_append_left ht] at hl
        exact hs.spawned t l hl
      · rw [List.getElem?_concat_length] at hl
        cases hl
        rw [hs.unspawned _ (Nat.le_refl _)]
        exact hstart _ hlt
      · rw [List.getElem?_eq_none (hlen ▸ ht)] at hl
        cases hl
    unspawned := by
      intro t ht
      rw [hlen] at ht
      exact hs.unspawned t (Nat.le_of_succ_le ht) }

theorem views_advance
    (hown : ∀ t < P.threads, ∀ input l g l' g', J t l (view t g) →
      P.step t input l g = some (l', g') → J t l' (view t g'))
    (hframe : ∀ t u, u ≠ t → ∀ input l g l' g',
      P.step t input l g = some (l', g') → view u g' = view u g)
    (hs : Views P view J initial s) (ha : P.act s (.advance u input) = some s') :
    Views P view J initial s' := by
  obtain ⟨l, l', g', hu, hstep, rfl⟩ := act_advance ha
  have hlt := (List.getElem?_eq_some_iff.1 hu).1
  have hlen : (s.locals.set u l').length = s.locals.length := List.length_set
  exact {
    length_le := hlen ▸ hs.length_le
    spawned := by
      intro t m hm
      by_cases htu : u = t
      · subst htu
        rw [List.getElem?_set_self hlt] at hm
        cases hm
        exact hown u (Nat.lt_of_lt_of_le hlt hs.length_le) input l s.shared _ g'
          (hs.spawned u l hu) hstep
      · rw [List.getElem?_set_ne htu] at hm
        rw [hframe u t (Ne.symm htu) input l s.shared l' g' hstep]
        exact hs.spawned t m hm
    unspawned := by
      intro t ht
      rw [hlen] at ht
      have htu : t ≠ u := fun he => absurd (he ▸ hlt) (Nat.not_lt.2 ht)
      rw [hframe u t htu input l s.shared l' g' hstep]
      exact hs.unspawned t ht }

/-- What every step of a thread keeps of its own view, and no other thread touches, holds whatever
the interleaving. -/
theorem views_run (hstart : ∀ t < P.threads, J t (P.start t) (view t initial))
    (hown : ∀ t < P.threads, ∀ input l g l' g', J t l (view t g) →
      P.step t input l g = some (l', g') → J t l' (view t g'))
    (hframe : ∀ t u, u ≠ t → ∀ input l g l' g',
      P.step t input l g = some (l', g') → view u g' = view u g)
    (h : P.run (init initial) acts = some s) : Views P view J initial s := by
  apply run_induction (Views P view J initial) views_init ?_ h
  intro s a s' hs ha
  cases a with
  | spawn => exact views_spawn hstart hs ha
  | advance t input => exact views_advance hown hframe hs ha
  | join =>
    obtain ⟨-, -, rfl⟩ := act_join ha
    exact ⟨hs.length_le, hs.spawned, hs.unspawned⟩

end Views

theorem run_append (s : Pool Local Shared) (acts acts' : List (Action Input)) :
    P.run s (acts ++ acts') = (P.run s acts).bind fun s' => P.run s' acts' :=
  List.foldlM_append

theorem run_singleton (s : Pool Local Shared) (a : Action Input) : P.run s [a] = P.act s a := by
  rw [run, List.foldlM_cons]
  cases P.act s a <;> rfl

theorem run_cons (s : Pool Local Shared) (a : Action Input) (acts : List (Action Input)) :
    P.run s (a :: acts) = (P.act s a).bind fun s' => P.run s' acts :=
  List.foldlM_cons

inductive Turns (P : Program Local Shared Input) (t : Nat) :
    Local → Shared → Local → Shared → Prop where
  | refl : Turns P t l g l g
  | step (input : Input) (first : P.step t input l g = some (l', g'))
    (rest : Turns P t l' g' l'' g'') : Turns P t l g l'' g''

theorem run_turns {t : Nat} (h : Turns P t l g l' g') (hl : s.locals[t]? = some l)
    (hg : s.shared = g) :
    ∃ acts, P.run s acts = some { s with locals := s.locals.set t l', shared := g' } := by
  induction h generalizing s with
  | refl =>
    obtain ⟨hlt, hget⟩ := List.getElem?_eq_some_iff.1 hl
    refine ⟨[], congrArg some ?_⟩
    rw [← hg, ← hget, List.set_getElem_self hlt]
  | @step l g l₁ g₁ l' g' input first rest ih =>
    have hlt := (List.getElem?_eq_some_iff.1 hl).1
    obtain ⟨acts, hrun⟩ := @ih { s with locals := s.locals.set t l₁, shared := g₁ }
      (List.getElem?_set_self hlt) rfl
    have hact : P.act s (.advance t input) =
        some { s with locals := s.locals.set t l₁, shared := g₁ } := by
      rw [← hg] at first
      simp [act, hl, first]
    refine ⟨.advance t input :: acts, ?_⟩
    rw [run_cons, hact, Option.bind_some, hrun, List.set_set]

theorem run_spawns (shared : Shared) (hk : k ≤ P.threads) :
    P.run (init shared) (List.replicate k .spawn) =
      some ⟨(List.range k).map P.start, shared, 0⟩ := by
  induction k with
  | zero => rfl
  | succ k ih =>
    have hact : P.act ⟨(List.range k).map P.start, shared, 0⟩ .spawn =
        some ⟨(List.range (k + 1)).map P.start, shared, 0⟩ := by
      simp [act, List.range_succ, Nat.lt_of_succ_le hk]
    rw [List.replicate_succ', run_append, ih (Nat.le_of_succ_le hk), Option.bind_some,
      run_singleton, hact]

/-- From the states in `I` a thread that has not finished can step, and gets closer to its end. -/
structure Progresses (P : Program Local Shared Input) (I : Pool Local Shared → Prop)
    (rank : Nat → Local → Nat) : Prop where
  keeps : ∀ s a s', I s → P.act s a = some s' → I s'
  advances : ∀ s t l, I s → s.locals[t]? = some l → P.finished l = false →
    ∃ input l' shared', P.step t input l s.shared = some (l', shared') ∧ rank t l' < rank t l

section Completion

variable {I : Pool Local Shared → Prop} {rank : Nat → Local → Nat}

theorem Progresses.exists_spawned (hP : Progresses P I rank) (hs : I s)
    (hlen : s.locals.length ≤ P.threads) : ∃ acts s', P.run s acts = some s' ∧ I s' ∧
      s'.locals.length = P.threads ∧ s'.joined = s.joined := by
  induction hn : P.threads - s.locals.length generalizing s with
  | zero => exact ⟨[], s, rfl, hs, by omega, rfl⟩
  | succ n ih =>
    have hlt : s.locals.length < P.threads := by omega
    have hact : P.act s .spawn =
        some { s with locals := s.locals ++ [P.start s.locals.length] } := if_pos hlt
    have hlen' : (s.locals ++ [P.start s.locals.length]).length = s.locals.length + 1 := by simp
    obtain ⟨acts, s', hrun, hs', hall, hjoined⟩ :=
      ih (hP.keeps _ _ _ hs hact) (hlen' ▸ hlt) (by rw [hlen']; omega)
    refine ⟨.spawn :: acts, s', ?_, hs', hall, hjoined⟩
    rw [← List.singleton_append, run_append, run_singleton, hact]
    exact hrun

theorem Progresses.exists_finished {t : Nat} (hP : Progresses P I rank) (hs : I s)
    (hl : s.locals[t]? = some l) : ∃ acts s', P.run s acts = some s' ∧ I s' ∧
      s'.locals.length = s.locals.length ∧ s'.joined = s.joined ∧
      ∃ l', s'.locals[t]? = some l' ∧ P.finished l' := by
  induction hn : rank t l using Nat.strongRecOn generalizing s l with
  | ind n ih =>
    cases hfin : P.finished l with
    | true => exact ⟨[], s, rfl, hs, rfl, rfl, l, hl, hfin⟩
    | false =>
      obtain ⟨input, l₁, shared₁, hstep, hlt⟩ := hP.advances s t l hs hl hfin
      have hact : P.act s (.advance t input) =
          some { s with locals := s.locals.set t l₁, shared := shared₁ } := by
        simp [act, hl, hstep]
      have hl₁ : (s.locals.set t l₁)[t]? = some l₁ :=
        List.getElem?_set_self (List.getElem?_eq_some_iff.1 hl).1
      obtain ⟨acts, s', hrun, hs', hlen, hjoined, hdone⟩ :=
        ih _ (hn ▸ hlt) (hP.keeps _ _ _ hs hact) hl₁ rfl
      refine ⟨.advance t input :: acts, s', ?_, hs', hlen.trans List.length_set, hjoined, hdone⟩
      rw [← List.singleton_append, run_append, run_singleton, hact]
      exact hrun

theorem Progresses.exists_joined_of_spawned (hP : Progresses P I rank) (hs : I s)
    (hlen : s.locals.length = P.threads) (hjoined : s.joined ≤ P.threads) :
    ∃ acts s', P.run s acts = some s' ∧ s'.joined = P.threads := by
  induction hn : P.threads - s.joined generalizing s with
  | zero => exact ⟨[], s, rfl, by omega⟩
  | succ n ih =>
    have hlt : s.joined < s.locals.length := by omega
    obtain ⟨acts, s₁, hrun, hs₁, hlen₁, hsame, l, hl, hfin⟩ :=
      hP.exists_finished hs (List.getElem?_eq_getElem hlt)
    rw [← hsame] at hl hn hlt
    have hact : P.act s₁ .join = some { s₁ with joined := s₁.joined + 1 } := by
      apply if_pos
      exact ⟨hlen₁.trans hlen, by rw [hl, Option.any_some, hfin]⟩
    obtain ⟨acts', s', hrun', hdone⟩ := ih (hP.keeps _ _ _ hs₁ hact) (hlen₁.trans hlen)
      (show s₁.joined + 1 ≤ P.threads by omega) (show P.threads - (s₁.joined + 1) = n by omega)
    refine ⟨acts ++ .join :: acts', s', ?_, hdone⟩
    rw [run_append, hrun, Option.bind_some, ← List.singleton_append, run_append, run_singleton, hact]
    exact hrun'

/-- No state is stuck: every one can be run on until all threads are joined. -/
theorem Progresses.exists_joined (hP : Progresses P I rank) (hs : I s)
    (hlen : s.locals.length ≤ P.threads) (hjoined : s.joined ≤ P.threads) :
    ∃ acts s', P.run s acts = some s' ∧ s'.joined = P.threads := by
  obtain ⟨acts, s₁, hrun, hs₁, hall, hsame⟩ := hP.exists_spawned hs hlen
  obtain ⟨acts', s', hrun', hdone⟩ := hP.exists_joined_of_spawned hs₁ hall (hsame ▸ hjoined)
  refine ⟨acts ++ acts', s', ?_, hdone⟩
  rw [run_append, hrun]
  exact hrun'

end Completion

end Program

theorem flatMap_filter_perm (f : α → Nat) (n : Nat) (l : List α)
    (h : ∀ t, n ≤ t → (l.filter fun x => f x = t) = []) :
    ((List.range n).flatMap fun t => l.filter fun x => f x = t).Perm l := by
  apply Grouping.flatMap_filter_key_perm List.nodup_range
  intro x hx
  rw [List.mem_range]
  by_contra hge
  exact List.filter_eq_nil_iff.1 (h (f x) (Nat.le_of_not_lt hge)) x hx (decide_eq_true rfl)

theorem flatMap_slices (b : Nat → Nat) (hb : b 0 = 0) (n : Nat) (hmono : ∀ t < n, b t ≤ b (t + 1)) :
    ((List.range n).flatMap fun t => List.range' (b t) (b (t + 1) - b t)) = List.range (b n) := by
  induction n with
  | zero => simp [hb]
  | succ n ih =>
    have hn := hmono n n.lt_succ_self
    rw [List.range_succ, List.flatMap_append, ih fun t ht => hmono t (Nat.lt_succ_of_lt ht),
      List.flatMap_singleton, List.range_eq_range', List.range_eq_range']
    have happ := List.range'_append_1 (s := 0) (m := b n) (n := b (n + 1) - b n)
    rw [Nat.zero_add, Nat.add_sub_cancel' hn] at happ
    exact happ

end ThreadPool
