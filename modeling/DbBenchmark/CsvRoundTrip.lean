import DbBenchmark.CsvWriter
import Mathlib.Tactic.IntervalCases

namespace DbBenchmark
open Rfc4180 CSVWriter
set_option autoImplicit true

theorem plain_iff (b : UInt8) : Plain b ↔ b ∉ lit ",\"\n\r" := by
  have hlit : lit ",\"\n\r" = [comma, dquote, lf, cr] := by decide
  simp [hlit, Plain]

theorem double_eq (b : UInt8) : (if b = dquote then lit "\"" else []) ++ [b] = double b := by
  have hlit : lit "\"" = [dquote] := by decide
  by_cases hb : b = dquote
  · simp [double, hb, hlit]
  · simp [double, hb]

theorem encodes_escape (field : CppString) : Encodes (escape field) field := by
  have hlit : lit "\"" = [dquote] := by decide
  by_cases hq : field.any fun c => c ∈ lit ",\"\n\r"
  · have hescape : escape field = dquote :: field.flatMap double ++ [dquote] := by
      simp only [escape, hq, Bool.not_true, Bool.false_eq_true, if_false, double_eq]
      rw [hlit]
      rfl
    rw [hescape]
    exact .quoted
  · have hescape : escape field = field := by simp only [escape, hq, Bool.not_false, if_true]
    rw [hescape]
    apply Encodes.plain
    intro b hb
    rw [plain_iff]
    intro hmem
    exact hq (List.any_eq_true.2 ⟨b, hb, decide_eq_true hmem⟩)

theorem plain_of_all {text : CppString} (h : text.all fun b => Plain b) : ∀ b ∈ text, Plain b := by
  intro b hb
  exact of_decide_eq_true (List.all_eq_true.1 h b hb)

theorem plain_decimal (n : Nat) : ∀ b ∈ decimal n, Plain b := by
  by_cases hn : n = 0
  · subst hn
    exact plain_of_all (by decide)
  · intro b hb
    rw [decimal, if_neg hn, List.mem_map] at hb
    obtain ⟨d, hd, rfl⟩ := hb
    have hlt : d < 10 := Nat.digits_lt_base (by norm_num) (List.mem_reverse.1 hd)
    interval_cases d <;> decide

def columns : List CppString :=
  ["run_timestamp", "database", "experiment_name", "operation", "index_type", "phase",
    "thread_count", "total_ops", "total_time_ms", "p50_us", "p95_us", "p99_us", "min_us", "max_us",
    "mean_us", "throughput_ops_sec", "sstable_count", "result_set_size", "notes"].map lit

theorem encodesRecord_header : EncodesRecord header columns := by
  refine ⟨columns, by decide, ?_, by decide +kernel⟩
  rw [List.forall₂_same]
  have hall : columns.all fun c => c.all fun b => Plain b := by decide +kernel
  intro c hc
  exact .plain (plain_of_all (List.all_eq_true.1 hall c hc))

variable {Double : Type} (printFixed : Nat → Double → CppString)

def rowFields (tm : Tm) (result : BenchmarkResult Double) : List CppString :=
  [runTimestamp tm, result.database, result.experimentName, result.operation, result.indexType,
    result.phase, decimal result.threadCount, decimal result.totalOps,
    printFixed 3 result.totalTimeMs, printFixed 3 result.p50Us, printFixed 3 result.p95Us,
    printFixed 3 result.p99Us, printFixed 3 result.minUs, printFixed 3 result.maxUs,
    printFixed 3 result.meanUs, printFixed 1 result.throughputOpsSec,
    decimal result.sstableCount, decimal result.resultSetSize, result.notes]

theorem encodesRecord_row (hfixed : ∀ precision x, ∀ b ∈ printFixed precision x, Plain b) (tm : Tm)
    (result : BenchmarkResult Double) :
    EncodesRecord (row printFixed tm result) (rowFields printFixed tm result) := by
  have hdecimal (n : Nat) : Encodes (decimal n) (decimal n) := .plain (plain_decimal n)
  have hdouble (precision : Nat) (x : Double) :
      Encodes (printFixed precision x) (printFixed precision x) := .plain (hfixed precision x)
  have hcomma : lit "," = [comma] := by decide
  have hlf : lit "\n" = [lf] := by decide
  rw [row, hcomma, hlf]
  refine ⟨_, by simp, ?_, rfl⟩
  simp only [rowFields, List.forall₂_cons, List.forall₂_nil_left_iff, encodes_escape, hdecimal,
    hdouble, and_self]

structure Decodes (result : BenchmarkResult Double) (record : List CppString) : Prop where
  length : record.length = 19
  database : record[1]? = some result.database
  experimentName : record[2]? = some result.experimentName
  operation : record[3]? = some result.operation
  indexType : record[4]? = some result.indexType
  phase : record[5]? = some result.phase
  notes : record[18]? = some result.notes

theorem decodes_rowFields (tm : Tm) (result : BenchmarkResult Double) :
    Decodes result (rowFields printFixed tm result) :=
  ⟨rfl, rfl, rfl, rfl, rfl, rfl, rfl⟩

theorem read_rows (hfixed : ∀ precision x, ∀ b ∈ printFixed precision x, Plain b)
    (rows : List (Tm × BenchmarkResult Double)) :
    Rfc4180.read (header ++ rows.flatMap fun r => row printFixed r.1 r.2) =
      some (columns :: rows.map fun r => rowFields printFixed r.1 r.2) := by
  have hrows : List.Forall₂ EncodesRecord (rows.map fun r => row printFixed r.1 r.2)
      (rows.map fun r => rowFields printFixed r.1 r.2) := by
    rw [List.forall₂_map_left_iff, List.forall₂_map_right_iff, List.forall₂_same]
    exact fun r _ => encodesRecord_row printFixed hfixed r.1 r.2
  rw [List.flatMap_def, ← List.flatten_cons]
  exact read_encoded (.cons encodesRecord_header hrows)

/-- What all the sessions on a new path wrote is one header and one record for each result. -/
theorem sessions_decode (hfixed : ∀ precision x, ∀ b ∈ printFixed precision x, Plain b)
    (first : List (CsvCall Double)) (later : List (List (CsvCall Double))) :
    ∃ text records, sessions printFixed none (first :: later) = some text ∧
      Rfc4180.read text = some (columns :: records) ∧ columns.length = 19 ∧
      List.Forall₂ (fun r record => Decodes r.2 record)
        ((first :: later).flatten.flatMap CsvCall.rows) records := by
  refine ⟨_, _, sessions_none printFixed first later, read_rows printFixed hfixed _, by decide, ?_⟩
  rw [List.forall₂_map_right_iff, List.forall₂_same]
  exact fun r _ => decodes_rowFields printFixed r.1 r.2

def printZero (precision : Nat) (_ : ℚ) : CppString := lit "0." ++ List.replicate precision 48

def awkward : BenchmarkResult ℚ :=
  { (BenchmarkResult.init : BenchmarkResult ℚ) with
    database := lit "a,\"b\""
    phase := lit "\r\n"
    notes := lit "\"" }

theorem plain_printZero (precision : Nat) (x : ℚ) : ∀ b ∈ printZero precision x, Plain b := by
  intro b hb
  rw [printZero, List.mem_append, List.mem_replicate] at hb
  rcases hb with hb | ⟨-, rfl⟩
  · exact plain_of_all (by decide) b hb
  · decide

theorem sessions_decode_awkward :
    ∃ text records, sessions printZero none
        [[.write ⟨126, 2, 15, 10, 30, 0⟩ awkward], [], [.writeAll [(⟨126, 2, 15, 10, 31, 0⟩, .init)]]] =
          some text ∧
      Rfc4180.read text = some (columns :: records) ∧ columns.length = 19 ∧
      List.Forall₂ (fun r record => Decodes r.2 record)
        ([[.write ⟨126, 2, 15, 10, 30, 0⟩ awkward], [],
          [.writeAll [(⟨126, 2, 15, 10, 31, 0⟩, .init)]]].flatten.flatMap CsvCall.rows) records :=
  sessions_decode printZero plain_printZero _ _

end DbBenchmark
