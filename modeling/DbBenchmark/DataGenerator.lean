import DbBenchmark.Order
import DbBenchmark.Throwing
import DbBenchmark.Timestamps
import DbBenchmark.Uuid
import Mathlib.Algebra.Order.Floor.Ring
import Mathlib.Data.Rat.Floor

namespace DbBenchmark
open Throwing
set_option autoImplicit true

/-- `std::mt19937_64` and the distributions over it: each draw is any value of its range. -/
structure RandomSource (Engine : Type) where
  seeded : UInt64 → Engine
  uniformInt : Nat → Nat → Engine → Nat × Engine
  uniformReal : ℚ → ℚ → Engine → ℚ × Engine
  uniformInt_mem : ∀ low high rng, low ≤ high →
    low ≤ (uniformInt low high rng).1 ∧ (uniformInt low high rng).1 ≤ high
  uniformReal_mem : ∀ low high rng, low ≤ high →
    low ≤ (uniformReal low high rng).1 ∧ (uniformReal low high rng).1 ≤ high

/-- Control that reaches the end of a function without the return that its type asks for. -/
inductive UndefinedBehaviour
  | flowsOffEnd
deriving DecidableEq

/-- What is computed while drawing from an engine, up to a step without defined behaviour. -/
abbrev Gen (Engine : Type) := EStateM UndefinedBehaviour Engine

variable {Engine : Type} (source : RandomSource Engine)

def drawInt (low high : Nat) : Gen Engine Nat := fun rng =>
  .ok (source.uniformInt low high rng).1 (source.uniformInt low high rng).2

def drawReal (low high : ℚ) : Gen Engine ℚ := fun rng =>
  .ok (source.uniformReal low high rng).1 (source.uniformReal low high rng).2

def flowsOffEnd {α : Type} : Gen Engine α := throw .flowsOffEnd

/-- `std::round`, which rounds half-way cases away from zero. -/
def roundHalfAway (x : ℚ) : ℤ := if 0 ≤ x then ⌊x + 1 / 2⌋ else -⌊-x + 1 / 2⌋

def resize (s : CppString) (n : Nat) : CppString := s.take n ++ List.replicate (n - s.length) 0

def loremIpsum : CppString :=
  lit "Lorem Ipsum is simply dummy text of the printing and typesetting industry. " ++
  lit "Lorem Ipsum has been the industry's standard dummy text ever since the 1500s, when an " ++
  lit "unknown printer took a galley of type and scrambled it to make a type specimen book. It " ++
  lit "has survived not only five centuries, but also the leap into electronic typesetting, " ++
  lit "remaining essentially unchanged. It was popularised in the 1960s with the release of " ++
  lit "Letraset sheets containing Lorem Ipsum passages, and more recently with desktop " ++
  lit "publishing software like Aldus PageMaker including versions of Lorem Ipsum."

/-- `while(result.size() < size) result += base;` -/
def appendUntil (size : Nat) (base result : CppString) : Nat → CppString
  | 0 => result
  | turns + 1 =>
    if result.length < size then appendUntil size base (result ++ base) turns else result

/-- Each turn adds at least one byte, so 600 turns are enough. -/
def sharedDescription : CppString := resize (appendUntil 600 loremIpsum [] 600) 600

def statusPool : List CppString :=
  [lit "pending", lit "shipped", lit "delivered", lit "cancelled"]

/-- The members of a generator other than `rng_`, which is the state of the computations. -/
structure DataGenerator where
  seed : UInt64
  userIdPool : List CppString
  baseTimestamp : Int
  timestampRange : Int

namespace DataGenerator

@[irreducible] def numUniqueUsers : Nat := 100000

def drawBytes : (n : Nat) → Gen Engine (Vector UInt8 n)
  | 0 => return #v[]
  | n + 1 => do
    let bytes ← drawBytes n
    let byte ← drawInt source 0 255
    return bytes.push (UInt8.ofNat byte)

def generateUuid : Gen Engine CppString := do
  let bytes ← drawBytes source 16
  return uuidText bytes

def randomStatus : Gen Engine CppString := do
  let i ← drawInt source 0 (statusPool.length - 1)
  return statusPool.getD i []

/-- Constructs the distribution and returns nothing. -/
def randomUserId (_this : DataGenerator) : Gen Engine CppString := flowsOffEnd

/-- Draws the epoch, declares a local variable with the name of `epoch_to_iso`, returns nothing. -/
def generateTimestamp (this : DataGenerator) : Gen Engine CppString := do
  let offset ← drawInt source 0 this.timestampRange.toNat
  let _epoch : Int := this.baseTimestamp + offset
  flowsOffEnd

/-- The body of `generate_one`, over the two callees that return nothing. -/
def generateOneWith (randomUserId generateTimestamp : Gen Engine CppString) :
    Gen Engine (Order ℚ) := do
  let orderId ← generateUuid source
  let userId ← randomUserId
  let productId ← generateUuid source
  let status ← randomStatus source
  let amount ← drawReal source 1 (99999 / 100)
  let quantity ← drawInt source 1 10
  let createdAt ← generateTimestamp
  return {
    orderId := orderId
    userId := userId
    productId := productId
    status := status
    amount := roundHalfAway (amount * 100) / 100
    quantity := Int32.ofNat quantity
    description := sharedDescription
    createdAt := createdAt
    updatedAt := createdAt }

def generateOne (this : DataGenerator) : Gen Engine (Order ℚ) :=
  generateOneWith source (randomUserId this) (generateTimestamp source this)

def generateNWith (generateOne : Gen Engine (Order ℚ)) (n : Nat) : Gen Engine (List (Order ℚ)) :=
  (List.range n).foldlM (fun orders _ => do
    let order ← generateOne
    return orders ++ [order]) []

def generateN (this : DataGenerator) (n : Nat) : Gen Engine (List (Order ℚ)) :=
  generateNWith (generateOne source this) n

def construct (seed : UInt64) : Gen Engine DataGenerator := do
  set (source.seeded seed)
  let userIdPool ← (List.range numUniqueUsers).foldlM (fun pool _ => do
    let userId ← generateUuid source
    return pool ++ [userId]) []
  return {
    seed := seed
    userIdPool := userIdPool
    baseTimestamp := 1640995200
    timestampRange := 730 * 24 * 60 * 60 }

end DataGenerator

end DbBenchmark
