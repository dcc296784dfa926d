import DbBenchmark.DecimalNumbers
import DbBenchmark.Printing

namespace DbBenchmark
open FixedPoint NearestRounding Printing
set_option autoImplicit true

structure LengthError

/-- `std::string(count, c)`; no string is longer than `PTRDIFF_MAX`. -/
def fill (count : UInt64) (c : UInt8) : EStateM LengthError CppString CppString :=
  if count.toNat < 2 ^ 63 then pure (List.replicate count.toNat c) else throw ⟨⟩

namespace SummaryPrinter

variable (r : Nearest ℚ)

def formatLatency (us : Number) : CppString :=
  if us.below 1000 then us.print r 0 ++ lit "us"
  else if us.below 1000000 then (us.dividedBy 1000).print r 1 ++ lit "ms"
  else (us.dividedBy 1000000).print r 2 ++ lit "s"

def formatThroughput (opsSec : Number) : CppString :=
  if opsSec.atLeast 1000000 then (opsSec.dividedBy 1000000).print r 1 ++ lit "M ops/s"
  else if opsSec.atLeast 1000 then (opsSec.dividedBy 1000).print r 1 ++ lit "K ops/s"
  else opsSec.print r 0 ++ lit " ops/s"

/-- The size is compared as an `int` and subtracted as a `size_t`. -/
def pad (s : CppString) (width : Int32) : EStateM LengthError CppString CppString :=
  if Int32.ofNat s.length ≥ width then return s.take (UInt64.ofInt width.toInt).toNat
  else do
    let spaces ← fill (UInt64.ofInt width.toInt - UInt64.ofNat s.length) 32
    return s ++ spaces

def expNames (results : List (BenchmarkResult Double)) : List CppString :=
  results.foldl (fun names result =>
    if result.experimentName ∈ names then names else names ++ [result.experimentName]) []

/-- The five cells of a line, the table head as well as a row. -/
def printCells (database operation phase p99 throughput : CppString) :
    EStateM LengthError CppString PUnit := do
  print (lit "  ")
  print (← pad database 12)
  print (← pad operation 12)
  print (← pad phase 20)
  print (← pad p99 10)
  print (← pad throughput 16)
  print (lit "\n")

def printTableHead (expName : CppString) : EStateM LengthError CppString PUnit := do
  print (lit "\n  " ++ expName ++ lit "\n")
  printCells (lit "Database") (lit "Operation") (lit "Phase") (lit "p99") (lit "Throughput")
  print (lit "  " ++ List.replicate 66 45 ++ lit "\n")

def printRow (result : BenchmarkResult Binary64) : EStateM LengthError CppString PUnit :=
  printCells result.database result.operation
    (if result.phase.isEmpty then result.indexType else result.phase)
    (formatLatency r result.p99Us.1) (formatThroughput r result.throughputOpsSec.1)

def printFinalSummary (results : List (BenchmarkResult Binary64)) :
    EStateM LengthError CppString PUnit :=
  if results.isEmpty then pure ⟨⟩
  else do
    let line := List.replicate 70 61
    print (lit "\n" ++ line ++ lit "\n" ++ lit "  FINAL SUMMARY\n" ++ line ++ lit "\n")
    (expNames results).forM fun expName => do
      printTableHead expName
      results.forM fun result =>
        if result.experimentName ≠ expName then pure ⟨⟩ else printRow r result
    print (lit "\n" ++ line ++ lit "\n")

def latencyUnits : List (CppString × ℚ) := [(lit "us", 1), (lit "ms", 1000), (lit "s", 1000000)]

def throughputUnits : List (CppString × ℚ) :=
  [(lit " ops/s", 1), (lit "K ops/s", 1000), (lit "M ops/s", 1000000)]

/-- The texts denote quantities in the order of the values they are printed for, each within half
a unit of its last digit. -/
structure Faithful (units : List (CppString × ℚ)) (format : Number → CppString) : Prop where
  close : ∀ a, 0 ≤ a → ∃ quantity,
    decimals.readQuantity units (format (.finite a)) = some quantity ∧
    |quantity.value - a| ≤ quantity.lastDigit / 2
  ordered : ∀ a b, 0 ≤ a → a ≤ b → ∃ x y,
    decimals.readQuantity units (format (.finite a)) = some x ∧
    decimals.readQuantity units (format (.finite b)) = some y ∧ x.value ≤ y.value

theorem faithful_of_bands {units : List (CppString × ℚ)} {format : Number → CppString}
    {bands : Bands ℚ} (haligned : Bands.Aligned 0 bands)
    (hread : ∀ a, 0 ≤ a → decimals.readQuantity units (format (.finite a)) =
      some ⟨bands.shown r a, bands.stepAt a⟩) : Faithful units format where
  close a ha := ⟨_, hread a ha, haligned.abs_shown_sub_le a⟩
  ordered a b ha hab := ⟨_, _, hread a ha, hread b (ha.trans hab), haligned.shown_mono hab⟩

/-- Both formats print whole numbers below 1000 and tenths of 1000 below 1000000. -/
def bands (last : ℚ) : Bands ℚ :=
  .upTo 1000 (1 / 10 ^ 0) (.upTo 1000000 (1000 / 10 ^ 1) (.top last))

theorem aligned_bands {last : ℚ} (hlast : 0 < last) (hdvd : ∃ n : ℤ, 1000000 = n * last) :
    Bands.Aligned 0 (bands last) := by
  apply Bands.Aligned.upTo (by norm_num) ⟨0, by norm_num⟩ (by norm_num) ⟨1000, by norm_num⟩
  apply Bands.Aligned.upTo (by norm_num) ⟨10, by norm_num⟩ (by norm_num) ⟨10000, by norm_num⟩
  exact .top hlast hdvd

theorem readQuantity_whole {units : List (CppString × ℚ)} {name : CppString}
    (hname : ∀ c ∈ name.head?, ¬ decimals.IsNumeral c) (hunit : units.lookup name = some 1)
    {x : ℚ} (hx : 0 ≤ x) : decimals.readQuantity units (printFixed r 0 x ++ name) =
      some ⟨r.toMultiple (1 / 10 ^ 0) x, 1 / 10 ^ 0⟩ := by
  have hread := readQuantity_printFixed r hname hunit one_pos 0 hx
  rw [div_one] at hread
  exact hread

theorem readQuantity_formatLatency {us : ℚ} (hus : 0 ≤ us) :
    decimals.readQuantity latencyUnits (formatLatency r (.finite us)) = some
      ⟨(bands (1000000 / 10 ^ 2)).shown r us, (bands (1000000 / 10 ^ 2)).stepAt us⟩ := by
  simp only [formatLatency, Number.below, Number.dividedBy, Number.print, decide_eq_true_eq, bands,
    Bands.shown, Bands.stepAt]
  split
  · exact readQuantity_whole r (by decide +kernel) rfl hus
  · split
    · exact readQuantity_printFixed r (by decide +kernel) rfl (by norm_num) 1 hus
    · exact readQuantity_printFixed r (by decide +kernel) rfl (by norm_num) 2 hus

example : formatLatency halfEven (.finite 999950) = lit "1000.0ms" := by decide +kernel

theorem readQuantity_formatThroughput {opsSec : ℚ} (hops : 0 ≤ opsSec) :
    decimals.readQuantity throughputUnits (formatThroughput r (.finite opsSec)) = some
      ⟨(bands (1000000 / 10 ^ 1)).shown r opsSec, (bands (1000000 / 10 ^ 1)).stepAt opsSec⟩ := by
  simp only [formatThroughput, Number.atLeast, Number.dividedBy, Number.print, decide_eq_true_eq,
    bands, Bands.shown, Bands.stepAt]
  -- the source asks for the larger unit first
  rcases lt_or_ge opsSec 1000 with hsmall | hlarge
  · rw [if_neg (by linarith), if_neg hsmall.not_ge, if_pos hsmall]
    exact readQuantity_whole r (by decide +kernel) rfl hops
  · rw [if_neg hlarge.not_gt]
    rcases lt_or_ge opsSec 1000000 with hmiddle | hhigh
    · rw [if_neg hmiddle.not_ge, if_pos hlarge, if_pos hmiddle]
      exact readQuantity_printFixed r (by decide +kernel) rfl (by norm_num) 1 hops
    · rw [if_pos hhigh, if_neg hhigh.not_gt]
      exact readQuantity_printFixed r (by decide +kernel) rfl (by norm_num) 1 hops

theorem faithful_formatLatency : Faithful latencyUnits (formatLatency r) :=
  faithful_of_bands r (aligned_bands (by norm_num) ⟨100, by norm_num⟩) fun _ =>
    readQuantity_formatLatency r

theorem faithful_formatThroughput : Faithful throughputUnits (formatThroughput r) :=
  faithful_of_bands r (aligned_bands (by norm_num) ⟨10, by norm_num⟩) fun _ =>
    readQuantity_formatThroughput r

theorem formats_faithful :
    Faithful latencyUnits (formatLatency r) ∧ Faithful throughputUnits (formatThroughput r) :=
  ⟨faithful_formatLatency r, faithful_formatThroughput r⟩

end SummaryPrinter

end DbBenchmark
