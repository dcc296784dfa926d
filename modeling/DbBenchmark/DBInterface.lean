import DbBenchmark.LatencyRecorder
import DbBenchmark.Order
import DbBenchmark.Throwing

namespace DbBenchmark
open Throwing
set_option autoImplicit true

/-- The virtual functions of `DBInterface`; `σ` is the state of whatever the client talks to. -/
structure DBInterface (Double σ : Type) where
  connect : EStateM CppString σ Unit
  disconnect : EStateM CppString σ Unit
  insertOne : Order Double → EStateM CppString σ Unit
  insertBatch : List (Order Double) → EStateM CppString σ Unit
  deleteByPrimaryKey : CppString → EStateM CppString σ Unit
  findByPrimaryKey : CppString → EStateM CppString σ (OrderObject Double)
  findBySecondaryKey : CppString → EStateM CppString σ (List (OrderObject Double))
  findByRange : CppString → CppString → EStateM CppString σ (List (OrderObject Double))
  clearTable : EStateM CppString σ Unit
  createSecondaryIndex : EStateM CppString σ Unit
  dropSecondaryIndex : EStateM CppString σ Unit
  getDbName : CppString

/-- What the experiments use besides the client. A `step` is a statement that only allocates or
prints, and can throw for that. Draws and shuffles are determined by the seed of their generator,
and a shuffle also by how many elements the generator has shuffled before; `start_timer` is declared
without a body. -/
structure Platform (σ : Type) where
  nowNs : σ → UInt64
  system : CppString → EStateM CppString σ Int32
  readNumber : CppString → σ → UInt64
  step : EStateM CppString σ Unit
  draw : UInt64 → Nat → Nat → Nat
  draw_le : ∀ seed bound i, draw seed bound i ≤ bound
  shuffle : UInt64 → Nat → List CppString → List CppString
  shuffle_perm : ∀ seed before l, (shuffle seed before l).Perm l
  userIdPool : UInt64 → List CppString
  userIdPool_ne_nil : ∀ seed, userIdPool seed ≠ []
  startTimer : LatencyRecorder → LatencyRecorder
  latenciesUs_startTimer : ∀ r, (startTimer r).latenciesUs = r.latenciesUs

/-- Nothing fails, the clock stands still, and every draw is the last index. -/
def Platform.calm : Platform σ where
  nowNs _ := 0
  system _ := pure 0
  readNumber _ _ := 0
  step := pure ()
  draw _ bound _ := bound
  draw_le _ bound _ := bound.le_refl
  shuffle _ _ l := l
  shuffle_perm _ _ l := .refl l
  userIdPool _ := [lit "user"]
  userIdPool_ne_nil _ := List.cons_ne_nil _ _
  startTimer r := r
  latenciesUs_startTimer _ := rfl

inductive DbCall (Double : Type) where
  | connect
  | insertOne (order : Order Double)
  | findByPrimaryKey (orderId : CppString)
  | findBySecondaryKey (userId : CppString)
  | findByRange (startDate endDate : CppString)
  | clearTable
  | createSecondaryIndex
  | dropSecondaryIndex
deriving DecidableEq

/-- A call through the interface, with the state it was made in and the order that
`find_by_primary_key` returned; `returned` tells the calls that returned from those that threw. -/
structure CallRecord (Double σ : Type) where
  call : DbCall Double
  before : σ
  returned : Bool
  answer : Option (OrderObject Double)

/-- A benchmark process: the world outside, and what it has done so far, namely the calls made
through the interface and the integer divisors evaluated. -/
structure Bench (Double σ : Type) where
  world : σ
  calls : List (CallRecord Double σ)
  divisors : List UInt64

abbrev BenchM (Double σ : Type) := EStateM CppString (Bench Double σ)

def Bench.start (world : σ) : Bench Double σ := ⟨world, [], []⟩

namespace BenchM

/-- Anything outside but a call through the interface. -/
def outside (m : EStateM CppString σ α) : BenchM Double σ α := fun b =>
  match m b.world with
  | .ok a s => .ok a { b with world := s }
  | .error e s => .error e { b with world := s }

def made (b : Bench Double σ) (call : DbCall Double) (world : σ) (returned : Bool)
    (answer : Option (OrderObject Double)) : Bench Double σ :=
  { b with world := world, calls := b.calls ++ [⟨call, b.world, returned, answer⟩] }

def callDb (call : DbCall Double) (answer : α → Option (OrderObject Double))
    (m : EStateM CppString σ α) : BenchM Double σ α := fun b =>
  match m b.world with
  | .ok a s => .ok a (made b call s true (answer a))
  | .error e s => .error e (made b call s false none)

/-- Behind a division by zero the behaviour is undefined; the quotient is 0 here. -/
def divide (a b : UInt64) : BenchM Double σ UInt64 := fun bench =>
  .ok (a / b) { bench with divisors := bench.divisors ++ [b] }

def step (platform : Platform σ) : BenchM Double σ Unit := outside platform.step

def nowNs (platform : Platform σ) : BenchM Double σ UInt64 := fun b => .ok (platform.nowNs b.world) b

def readNumber (platform : Platform σ) (path : CppString) : BenchM Double σ UInt64 := fun b =>
  .ok (platform.readNumber path b.world) b

variable (db : DBInterface Double σ)

def connect : BenchM Double σ Unit := callDb .connect (fun _ => none) db.connect

def insertOne (o : Order Double) : BenchM Double σ Unit :=
  callDb (.insertOne o) (fun _ => none) (db.insertOne o)

def findByPrimaryKey (orderId : CppString) : BenchM Double σ (OrderObject Double) :=
  callDb (.findByPrimaryKey orderId) some (db.findByPrimaryKey orderId)

def findBySecondaryKey (userId : CppString) : BenchM Double σ (List (OrderObject Double)) :=
  callDb (.findBySecondaryKey userId) (fun _ => none) (db.findBySecondaryKey userId)

def findByRange (startDate endDate : CppString) : BenchM Double σ (List (OrderObject Double)) :=
  callDb (.findByRange startDate endDate) (fun _ => none) (db.findByRange startDate endDate)

def clearTable : BenchM Double σ Unit := callDb .clearTable (fun _ => none) db.clearTable

def createSecondaryIndex : BenchM Double σ Unit :=
  callDb .createSecondaryIndex (fun _ => none) db.createSecondaryIndex

def dropSecondaryIndex : BenchM Double σ Unit :=
  callDb .dropSecondaryIndex (fun _ => none) db.dropSecondaryIndex

theorem callDb_triple {P : Bench Double σ → Prop} {Q : α → Bench Double σ → Prop}
    {E : CppString → Bench Double σ → Prop} {call : DbCall Double}
    {answer : α → Option (OrderObject Double)} {m : EStateM CppString σ α}
    (hok : ∀ b a s, P b → m b.world = .ok a s → Q a (made b call s true (answer a)))
    (herr : ∀ b e s, P b → m b.world = .error e s → E e (made b call s false none)) :
    Triple P (callDb call answer m) Q E := by
  intro b hb
  rw [callDb]
  cases hm : m b.world with
  | ok a s => exact hok b a s hb hm
  | error e s => exact herr b e s hb hm

theorem outside_triple {P : Bench Double σ → Prop} {Q : α → Bench Double σ → Prop}
    {E : CppString → Bench Double σ → Prop} {m : EStateM CppString σ α}
    (hok : ∀ b a s, P b → m b.world = .ok a s → Q a { b with world := s })
    (herr : ∀ b e s, P b → m b.world = .error e s → E e { b with world := s }) :
    Triple P (outside m) Q E := by
  intro b hb
  rw [outside]
  cases hm : m b.world with
  | ok a s => exact hok b a s hb hm
  | error e s => exact herr b e s hb hm

theorem nowNs_triple {P : Bench Double σ → Prop} {E : CppString → Bench Double σ → Prop}
    (platform : Platform σ) : Triple P (nowNs platform) (fun _ => P) E :=
  fun _ hb => hb

theorem readNumber_triple {P : Bench Double σ → Prop} {E : CppString → Bench Double σ → Prop}
    (platform : Platform σ) (path : CppString) :
    Triple P (readNumber platform path) (fun _ => P) E :=
  fun _ hb => hb

theorem callDb_world {P : σ → Prop} {Q : α → σ → Prop} {E : CppString → σ → Prop}
    {m : EStateM CppString σ α} (h : Triple P m Q E) (call : DbCall Double)
    (answer : α → Option (OrderObject Double)) :
    Triple (fun b => P b.world) (callDb call answer m) (fun a b => Q a b.world)
      (fun e b => E e b.world) :=
  callDb_triple (fun _ _ _ hb hm => h.of_ok hb hm) (fun _ _ _ hb hm => h.of_error hb hm)

theorem outside_world {P : σ → Prop} {Q : α → σ → Prop} {E : CppString → σ → Prop}
    {m : EStateM CppString σ α} (h : Triple P m Q E) :
    Triple (fun b => P b.world) (outside m : BenchM Double σ α) (fun a b => Q a b.world)
      (fun e b => E e b.world) :=
  outside_triple (fun _ _ _ hb hm => h.of_ok hb hm) (fun _ _ _ hb hm => h.of_error hb hm)

/-- What is done outside changes no property of the calls made. -/
theorem outside_calls {C : List (CallRecord Double σ) → Prop} (m : EStateM CppString σ α) :
    Keeps (fun b => C b.calls) (outside m : BenchM Double σ α) :=
  outside_triple (fun _ _ _ hb _ => hb) (fun _ _ _ hb _ => hb)

theorem outside_divisors {D : List UInt64 → Prop} (m : EStateM CppString σ α) :
    Keeps (fun b => D b.divisors) (outside m : BenchM Double σ α) :=
  outside_triple (fun _ _ _ hb _ => hb) (fun _ _ _ hb _ => hb)

theorem callDb_divisors {D : List UInt64 → Prop} {call : DbCall Double}
    {answer : α → Option (OrderObject Double)} {m : EStateM CppString σ α} :
    Keeps (fun b => D b.divisors) (callDb call answer m : BenchM Double σ α) :=
  callDb_triple (fun _ _ _ hb _ => hb) (fun _ _ _ hb _ => hb)

theorem callDb_calls {C : List (CallRecord Double σ) → Prop} {call : DbCall Double}
    {answer : α → Option (OrderObject Double)} {m : EStateM CppString σ α}
    (h : ∀ calls r, r.call = call → C calls → C (calls ++ [r])) :
    Keeps (fun b => C b.calls) (callDb call answer m : BenchM Double σ α) :=
  callDb_triple (fun _ _ _ hb _ => h _ _ rfl hb) (fun _ _ _ hb _ => h _ _ rfl hb)

end BenchM

namespace CallRecord

def insertion (r : CallRecord Double σ) : Option (Order Double) :=
  match r.call with
  | .insertOne o => some o
  | _ => none

def lookup (r : CallRecord Double σ) : Option CppString :=
  match r.call with
  | .findByPrimaryKey orderId => some orderId
  | _ => none

end CallRecord

def insertions (calls : List (CallRecord Double σ)) : List (Order Double) :=
  calls.filterMap CallRecord.insertion

def lookups (calls : List (CallRecord Double σ)) : List CppString :=
  calls.filterMap CallRecord.lookup

theorem insertions_concat (calls : List (CallRecord Double σ)) (r : CallRecord Double σ) :
    insertions (calls ++ [r]) = insertions calls ++ r.insertion.toList := by
  rw [insertions, List.filterMap_append]
  cases hr : r.insertion <;> simp [insertions, hr]

theorem lookups_concat (calls : List (CallRecord Double σ)) (r : CallRecord Double σ) :
    lookups (calls ++ [r]) = lookups calls ++ r.lookup.toList := by
  rw [lookups, List.filterMap_append]
  cases hr : r.lookup <;> simp [lookups, hr]

end DbBenchmark
