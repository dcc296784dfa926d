import DbBenchmark.DataGenerator
import Mathlib.Tactic.Linarith

namespace DbBenchmark
open DataGenerator Throwing
set_option autoImplicit true

variable {Engine : Type} (source : RandomSource Engine)

/-- What the schemas of the databases expect of a generated order. -/
structure WellFormedOrder (gen : DataGenerator) (o : Order ℚ) : Prop where
  orderId : IsUuidV4 o.orderId
  userId : o.userId ∈ gen.userIdPool
  productId : IsUuidV4 o.productId
  status : o.status ∈ statusPool
  amount : ∃ cents : Nat, 100 ≤ cents ∧ cents ≤ 99999 ∧ o.amount = cents / 100
  quantity : 1 ≤ o.quantity.toInt ∧ o.quantity.toInt ≤ 10
  description : o.description.length = 600
  createdAt : ∃ epoch : Int, gen.baseTimestamp ≤ epoch ∧
    epoch ≤ gen.baseTimestamp + gen.timestampRange ∧ epochToIso epoch = some o.createdAt
  updatedAt : o.updatedAt = o.createdAt

def generate (seed : UInt64) (n : Nat) : Gen Engine (DataGenerator × List (Order ℚ)) := do
  let gen ← construct source seed
  let orders ← generateN source gen n
  return (gen, orders)

/-- `DataGenerator(seed).generate_n(n)` has a defined result, and every order of it is well
formed. -/
def GeneratesWellFormed (seed : UInt64) (n : Nat) (rng : Engine) : Prop :=
  ∃ gen orders rng', generate source seed n rng = .ok (gen, orders) rng' ∧
    orders.length = n ∧ ∀ o ∈ orders, WellFormedOrder gen o

section Draws

variable {I : Engine → Prop} {E : UndefinedBehaviour → Engine → Prop}

theorem drawInt_triple {low high : Nat} (h : low ≤ high) :
    Triple (fun _ => True) (drawInt source low high) (fun i _ => low ≤ i ∧ i ≤ high) E :=
  fun rng _ => source.uniformInt_mem low high rng h

theorem drawReal_triple {low high : ℚ} (h : low ≤ high) :
    Triple (fun _ => True) (drawReal source low high) (fun x _ => low ≤ x ∧ x ≤ high) E :=
  fun rng _ => source.uniformReal_mem low high rng h

theorem drawBytes_triple (n : Nat) :
    Triple (fun _ => True) (drawBytes source n) (fun _ _ => True) E := by
  induction n with
  | zero => exact Triple.skip
  | succ n ih =>
    apply ih.bind
    intro bytes
    apply (drawInt_triple source (Nat.zero_le 255)).bind
    intro byte _ _
    trivial

theorem generateUuid_triple :
    Triple (fun _ => True) (generateUuid source) (fun id _ => IsUuidV4 id) E := by
  apply (drawBytes_triple source 16).bind
  intro bytes _ _
  exact isUuidV4_uuidText bytes

theorem randomStatus_triple :
    Triple (fun _ => True) (randomStatus source) (fun status _ => status ∈ statusPool) E := by
  apply (drawInt_triple source (Nat.zero_le _)).bind
  intro i rng hi
  have hlt : i < statusPool.length := Nat.lt_succ_of_le hi.2
  change statusPool.getD i [] ∈ statusPool
  rw [List.getD_eq_getElem?_getD, List.getElem?_eq_getElem hlt]
  exact List.getElem_mem hlt

end Draws

theorem roundHalfAway_cents {x : ℚ} (hlow : 1 ≤ x) (hhigh : x ≤ 99999 / 100) :
    ∃ cents : Nat, 100 ≤ cents ∧ cents ≤ 99999 ∧
      (roundHalfAway (x * 100) : ℚ) / 100 = cents / 100 := by
  have hnonneg : 0 ≤ x * 100 := by linarith
  have hfloor : 100 ≤ ⌊x * 100 + 1 / 2⌋ := Int.le_floor.2 (by push_cast; linarith)
  have hceil : ⌊x * 100 + 1 / 2⌋ < 100000 := Int.floor_lt.2 (by push_cast; linarith)
  obtain ⟨cents, hcents⟩ := Int.eq_ofNat_of_zero_le (le_trans (by decide) hfloor)
  rw [hcents] at hfloor hceil
  refine ⟨cents, by omega, by omega, ?_⟩
  rw [roundHalfAway, if_pos hnonneg, hcents, Int.cast_natCast]

theorem le_length_appendUntil {base : CppString} (hbase : base ≠ []) (size turns : Nat)
    (result : CppString) (h : size ≤ result.length + turns) :
    size ≤ (appendUntil size base result turns).length := by
  have hpos := List.length_pos_iff.2 hbase
  induction turns generalizing result with
  | zero => exact h
  | succ turns ih =>
    rw [appendUntil]
    split
    · apply ih
      rw [List.length_append]
      omega
    · rename_i hge
      exact not_lt.1 hge

theorem length_sharedDescription : sharedDescription.length = 600 := by
  have hne : loremIpsum ≠ [] := by decide +kernel
  have hlen := le_length_appendUntil hne 600 600 [] (Nat.le_add_left _ _)
  rw [sharedDescription, resize, List.length_append, List.length_take, List.length_replicate]
  omega

section Callees

variable (gen : DataGenerator) {E : UndefinedBehaviour → Engine → Prop}

/-- Once its two callees return what they should, every field is as the schemas expect it. -/
theorem generateOneWith_triple {randomUserId generateTimestamp : Gen Engine CppString}
    (huser : Triple (fun _ => True) randomUserId (fun id _ => id ∈ gen.userIdPool) E)
    (hstamp : Triple (fun _ => True) generateTimestamp (fun stamp _ => ∃ epoch : Int,
      gen.baseTimestamp ≤ epoch ∧ epoch ≤ gen.baseTimestamp + gen.timestampRange ∧
        epochToIso epoch = some stamp) E) :
    Triple (fun _ => True) (generateOneWith source randomUserId generateTimestamp)
      (fun o _ => WellFormedOrder gen o) E := by
  apply (generateUuid_triple source).bind_given
  intro orderId horderId
  apply huser.bind_given
  intro userId huserId
  apply (generateUuid_triple source).bind_given
  intro productId hproductId
  apply (randomStatus_triple source).bind_given
  intro status hstatus
  apply (drawReal_triple source (by norm_num)).bind_given
  intro amount hamount
  apply (drawInt_triple source (by decide)).bind_given
  intro quantity hquantity
  apply hstamp.bind
  intro createdAt rng hcreatedAt
  have hint : (Int32.ofNat quantity).toInt = quantity :=
    Int32.toInt_ofNat_of_lt (hquantity.2.trans_lt (by decide))
  exact {
    orderId := horderId
    userId := huserId
    productId := hproductId
    status := hstatus
    amount := roundHalfAway_cents hamount.1 hamount.2
    quantity := by
      change 1 ≤ (Int32.ofNat quantity).toInt ∧ (Int32.ofNat quantity).toInt ≤ 10
      rw [hint]
      omega
    description := length_sharedDescription
    createdAt := hcreatedAt
    updatedAt := rfl }

theorem generateNWith_triple {generateOne : Gen Engine (Order ℚ)}
    (hone : Triple (fun _ => True) generateOne (fun o _ => WellFormedOrder gen o) E) (n : Nat) :
    Triple (fun _ => True) (generateNWith generateOne n)
      (fun orders _ => orders.length = n ∧ ∀ o ∈ orders, WellFormedOrder gen o) E :=
  hone.collect n

theorem construct_triple (seed : UInt64) :
    Triple (fun _ => True) (construct source seed) (fun gen _ =>
      gen.userIdPool.length = numUniqueUsers ∧ ∀ id ∈ gen.userIdPool, IsUuidV4 id) E := by
  have hset : Triple (fun _ => True) (set (source.seeded seed) : Gen Engine PUnit)
      (fun _ _ => True) E := fun _ _ => trivial
  apply hset.bind
  intro _
  apply ((generateUuid_triple source).collect numUniqueUsers).bind
  intro pool rng hpool
  exact hpool

end Callees

/-- `random_user_id` returns nothing, so no order comes into being. -/
theorem generateOne_undefined (gen : DataGenerator) :
    Triple (fun _ => True) (generateOne source gen) (fun _ _ => False) (fun _ _ => True) := by
  have huser : Triple (fun _ => True) (randomUserId gen : Gen Engine CppString) (fun _ _ => False)
      (fun _ _ => True) := fun _ _ => trivial
  apply (generateUuid_triple source).bind_given
  intro orderId _
  apply huser.bind
  exact fun _ _ h => h.elim

theorem generateN_undefined (gen : DataGenerator) {n : Nat} (hn : n ≠ 0) :
    Triple (fun _ => True) (generateN source gen n) (fun _ _ => False) (fun _ _ => True) := by
  have hnone := (generateOne_undefined source gen).collect (φ := fun _ => False) n
  apply hnone.mono (fun _ h => h) ?_ (fun _ _ h => h)
  intro orders _ h
  have hempty : orders = [] := List.eq_nil_iff_forall_not_mem.2 h.2
  exact hn (by rw [← h.1, hempty, List.length_nil])

theorem generate_undefined (seed : UInt64) {n : Nat} (hn : n ≠ 0) :
    Triple (fun _ => True) (generate source seed n) (fun _ _ => False) (fun _ _ => True) := by
  apply (construct_triple source seed).bind_given
  intro gen _
  apply (generateN_undefined source gen hn).bind
  exact fun _ _ h => h.elim

/-- The two missing returns leave no order well formed: only the empty list is. -/
theorem generatesWellFormed_iff (seed : UInt64) (n : Nat) (rng : Engine) :
    GeneratesWellFormed source seed n rng ↔ n = 0 := by
  constructor
  · intro h
    obtain ⟨gen, orders, rng', hgenerate, _⟩ := h
    by_contra hn
    exact (generate_undefined source seed hn).of_ok trivial hgenerate
  · rintro rfl
    obtain ⟨gen, rng', hconstruct, _⟩ :=
      (construct_triple source seed (E := fun _ _ => False)).returns (s := rng) trivial
    exact ⟨gen, [], rng', bind_ok hconstruct, rfl, List.forall_mem_nil _⟩

def lowestDraws : RandomSource Unit where
  seeded _ := ()
  uniformInt low _ rng := (low, rng)
  uniformReal low _ rng := (low, rng)
  uniformInt_mem _ _ _ h := ⟨le_rfl, h⟩
  uniformReal_mem _ _ _ h := ⟨le_rfl, h⟩

theorem not_generatesWellFormed_one : ¬ GeneratesWellFormed lowestDraws 42 1 () := by
  intro h
  obtain ⟨gen, orders, rng', hgenerate, _⟩ := h
  exact (generate_undefined lowestDraws 42 Nat.one_ne_zero).of_ok trivial hgenerate

end DbBenchmark
