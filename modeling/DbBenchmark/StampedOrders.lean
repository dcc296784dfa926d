import DbBenchmark.RangeScan
import DbBenchmark.Timestamps

namespace DbBenchmark
open Calendar DataGenerator
set_option autoImplicit true

variable {Double : Type}

def StampedAt (epoch : Int) (text : CppString) : Prop :=
  FourDigitYear (.ofSecond epoch) ∧ epochToIso epoch = some text

theorem StampedAt.eq (h : StampedAt epoch text) : text = isoFormat (gmtime epoch) := by
  obtain ⟨hyear, htext⟩ := h
  rw [epochToIso_eq hyear, Option.some.injEq] at htext
  exact htext.symm

theorem StampedAt.lt_iff (h : StampedAt epoch text) (h' : StampedAt epoch' text') :
    text < text' ↔ epoch < epoch' := by
  rw [h.eq, h'.eq]
  exact isoFormat_lt_iff h.1 h'.1

theorem StampedAt.le_iff (h : StampedAt epoch text) (h' : StampedAt epoch' text') :
    text ≤ text' ↔ epoch ≤ epoch' := by
  rw [← List.not_lt, ← not_lt, h'.lt_iff h]

theorem within_iff (hs : StampedAt s startDate) (he : StampedAt e endDate)
    (ht : StampedAt epoch text) : within startDate endDate text ↔ s ≤ epoch ∧ epoch ≤ e := by
  simp only [within, hs.le_iff ht, ht.le_iff he, decide_eq_true_eq]

variable (epochOf : Order Double → Int)

def createdBetween (s e : Int) (orders : List (Order Double)) : List (Order Double) :=
  orders.filter fun o => s ≤ epochOf o ∧ epochOf o ≤ e

theorem filter_within (hs : StampedAt s startDate) (he : StampedAt e endDate)
    (horders : ∀ o ∈ orders, StampedAt (epochOf o) o.createdAt) :
    orders.filter (fun o => within startDate endDate o.createdAt) =
      createdBetween epochOf s e orders := by
  apply List.filter_congr
  intro o ho
  have hwithin := within_iff hs he (horders o ho)
  rw [Bool.eq_iff_iff, hwithin, decide_eq_true_eq]

theorem filter_createdWithin (hs : StampedAt s startDate) (he : StampedAt e endDate)
    (horders : ∀ o ∈ orders, StampedAt (epochOf o) o.createdAt) :
    (orders.map Order.toObject).filter (Experiment5.createdWithin startDate endDate) =
      (createdBetween epochOf s e orders).map Order.toObject := by
  rw [List.filter_map, ← filter_within epochOf hs he horders]
  rfl

theorem findByRange_perm (hs : StampedAt s startDate) (he : StampedAt e endDate)
    (horders : ∀ o ∈ orders, StampedAt (epochOf o) o.createdAt)
    (t : Collection Double) (ht : t.rows = orders.map MongoClient.orderToBson) :
    ∃ found, MongoClient.findByRange startDate endDate t = .ok found t ∧
      found.Perm ((createdBetween epochOf s e orders).map Order.toObject) := by
  refine ⟨_, findByRange_eq startDate endDate orders ht, ?_⟩
  rw [← filter_within epochOf hs he horders]
  exact (List.perm_insertionSort _ _).map Order.toObject

/-- Stamps are in the order of their epochs, so comparing the stamps selects by epoch. -/
theorem stamps_compare_as_epochs (orders : List (Order Double)) :
    (∀ e₁ e₂, FourDigitYear (.ofSecond e₁) → FourDigitYear (.ofSecond e₂) →
      ∃ text₁ text₂, epochToIso e₁ = some text₁ ∧ epochToIso e₂ = some text₂ ∧
        text₁.length = 20 ∧ text₂.length = 20 ∧ (text₁ < text₂ ↔ e₁ < e₂)) ∧
    ((∀ o ∈ orders, StampedAt (epochOf o) o.createdAt) →
      ∀ s e startDate endDate, StampedAt s startDate → StampedAt e endDate →
        (orders.map Order.toObject).filter (Experiment5.createdWithin startDate endDate) =
            (createdBetween epochOf s e orders).map Order.toObject ∧
        ∀ t : Collection Double, t.rows = orders.map MongoClient.orderToBson →
          ∃ found, MongoClient.findByRange startDate endDate t = .ok found t ∧
            found.Perm ((createdBetween epochOf s e orders).map Order.toObject)) := by
  constructor
  · intro e₁ e₂ h₁ h₂
    exact ⟨_, _, epochToIso_eq h₁, epochToIso_eq h₂, length_isoFormat h₁, length_isoFormat h₂,
      isoFormat_lt_iff h₁ h₂⟩
  · intro horders s e startDate endDate hs he
    exact ⟨filter_createdWithin epochOf hs he horders, findByRange_perm epochOf hs he horders⟩

def newYearOrders : List (Order Rat) :=
  [stampedOrder "a" "u" "2023-12-31T23:59:59Z", stampedOrder "b" "u" "2024-01-01T00:00:00Z"]

def newYearEpoch (o : Order Rat) : Int := if o.orderId = lit "a" then 1704067199 else 1704067200

theorem stamps_compare_as_epochs_newYear :
    (newYearOrders.map Order.toObject).filter (Experiment5.createdWithin
        (lit "2024-01-01T00:00:00Z") (lit "2024-02-29T00:00:00Z")) =
      (createdBetween newYearEpoch 1704067200 1709164800 newYearOrders).map Order.toObject := by
  refine ((stamps_compare_as_epochs newYearEpoch newYearOrders).2 ?_ 1704067200 1709164800 _ _
    ⟨by decide +kernel, by decide +kernel⟩ ⟨by decide +kernel, by decide +kernel⟩).1
  intro o ho
  rw [newYearOrders, List.mem_pair] at ho
  rcases ho with rfl | rfl
  · exact ⟨by decide +kernel, by decide +kernel⟩
  · exact ⟨by decide +kernel, by decide +kernel⟩

end DbBenchmark
