import Mathlib.Data.List.TakeWhile

namespace DbBenchmark

/-- A `std::string` is any sequence of bytes, NUL bytes included. -/
abbrev CppString := List UInt8

def lit (s : String) : CppString := s.toList.flatMap String.utf8EncodeChar

/-- `std::to_string` of an `int`. -/
def decimalInt (n : Int32) : CppString := lit (toString n.toInt)

/-- What a callee reads through `c_str()` stops at the first NUL byte. -/
def cStr (s : CppString) : CppString := s.takeWhile (· ≠ 0)

def NulFree (s : CppString) : Prop := 0 ∉ s

instance (s : CppString) : Decidable (NulFree s) := inferInstanceAs (Decidable (0 ∉ s))

theorem nulFree_cStr (s : CppString) : NulFree (cStr s) := by
  intro h
  have hne := List.mem_takeWhile_imp h
  simp at hne

@[simp] theorem cStr_of_nulFree (h : NulFree s) : cStr s = s := by
  rw [cStr, List.takeWhile_eq_self_iff]
  intro b hb
  have hne : b ≠ 0 := fun he => h (he ▸ hb)
  simpa using hne

end DbBenchmark
