import DbBenchmark.CppString

namespace DbBenchmark

/-- The `Order` record; `Double` stands for the values of C++ `double`. -/
structure Order (Double : Type) where
  orderId : CppString
  userId : CppString
  productId : CppString
  status : CppString
  amount : Double
  quantity : Int32
  description : CppString
  createdAt : CppString
  updatedAt : CppString
deriving DecidableEq

/-- An `Order` object in memory: a member is `none` while its value is indeterminate. -/
structure OrderObject (Double : Type) where
  orderId : Option CppString
  userId : Option CppString
  productId : Option CppString
  status : Option CppString
  amount : Option Double
  quantity : Option Int32
  description : Option CppString
  createdAt : Option CppString
  updatedAt : Option CppString
deriving DecidableEq

variable {Double : Type}

def Order.toObject (o : Order Double) : OrderObject Double where
  orderId := some o.orderId
  userId := some o.userId
  productId := some o.productId
  status := some o.status
  amount := some o.amount
  quantity := some o.quantity
  description := some o.description
  createdAt := some o.createdAt
  updatedAt := some o.updatedAt

/-- `Order o;` constructs the strings and leaves the two scalars indeterminate. -/
def OrderObject.defaultInit : OrderObject Double where
  orderId := some []
  userId := some []
  productId := some []
  status := some []
  amount := none
  quantity := none
  description := some []
  createdAt := some []
  updatedAt := some []

def OrderObject.valueInit [Zero Double] : OrderObject Double :=
  { (OrderObject.defaultInit : OrderObject Double) with amount := some 0, quantity := some 0 }

structure Order.NulFree (o : Order Double) : Prop where
  orderId : DbBenchmark.NulFree o.orderId
  userId : DbBenchmark.NulFree o.userId
  productId : DbBenchmark.NulFree o.productId
  status : DbBenchmark.NulFree o.status
  description : DbBenchmark.NulFree o.description
  createdAt : DbBenchmark.NulFree o.createdAt
  updatedAt : DbBenchmark.NulFree o.updatedAt

theorem Order.nulFree_iff (o : Order Double) : o.NulFree ↔
    ∀ s ∈ [o.orderId, o.userId, o.productId, o.status, o.description, o.createdAt, o.updatedAt],
      DbBenchmark.NulFree s := by
  simp only [List.forall_mem_cons, List.not_mem_nil, false_implies, implies_true, and_true]
  exact ⟨fun h => ⟨h.1, h.2, h.3, h.4, h.5, h.6, h.7⟩,
    fun ⟨h₁, h₂, h₃, h₄, h₅, h₆, h₇⟩ => ⟨h₁, h₂, h₃, h₄, h₅, h₆, h₇⟩⟩

instance (o : Order Double) : Decidable o.NulFree := decidable_of_iff' _ o.nulFree_iff

/-- An order of a user, stamped with a creation time; the other fields do not matter here. -/
def stampedOrder (orderId userId createdAt : String) : Order Rat where
  orderId := lit orderId
  userId := lit userId
  productId := lit "p"
  status := lit "pending"
  amount := 149
  quantity := 1
  description := lit "Lorem"
  createdAt := lit createdAt
  updatedAt := lit createdAt

def twoRows : List (Order Rat) := [stampedOrder "a" "u" "t", stampedOrder "b" "u" "t"]

end DbBenchmark
