import DbBenchmark.LatencyRecorder
import DbBenchmark.Rfc4180
import Mathlib.Data.Nat.Digits.Defs

namespace DbBenchmark
open Rfc4180
set_option autoImplicit true

def decimal (n : Nat) : CppString :=
  if n = 0 then lit "0" else (Nat.digits 10 n).reverse.map fun d => 48 + UInt8.ofNat d

/-- The members of `struct tm` that `strftime` reads; years count from 1900 and months from 0. -/
structure Tm where
  year : Int
  mon : Nat
  mday : Nat
  hour : Nat
  min : Nat
  sec : Nat
deriving DecidableEq

def twoDigits (n : Nat) : CppString := if n < 10 then lit "0" ++ decimal n else decimal n

def Tm.fullYear (tm : Tm) : CppString :=
  (if tm.year + 1900 < 0 then lit "-" else []) ++ decimal (tm.year + 1900).natAbs

/-- A call of `write` or `write_all`, each row with the broken-down time at which it is written. -/
inductive CsvCall (Double : Type) where
  | write (tm : Tm) (result : BenchmarkResult Double)
  | writeAll (results : List (Tm × BenchmarkResult Double))

def CsvCall.rows : CsvCall Double → List (Tm × BenchmarkResult Double)
  | .write tm result => [(tm, result)]
  | .writeAll results => results

namespace CSVWriter

/-- `strftime` with the format `"%Y-%m-%dT%H:%m:%SZ"`, which has `%m` twice. -/
def runTimestamp (tm : Tm) : CppString :=
  tm.fullYear ++ lit "-" ++ twoDigits (tm.mon + 1) ++ lit "-" ++ twoDigits tm.mday ++
    lit "T" ++ twoDigits tm.hour ++ lit ":" ++ twoDigits (tm.mon + 1) ++ lit ":" ++
    twoDigits tm.sec ++ lit "Z"

def escape (field : CppString) : CppString :=
  let needsQuoting := field.any fun c => c ∈ lit ",\"\n\r"
  if !needsQuoting then field
  else lit "\"" ++ field.flatMap (fun c => (if c = dquote then lit "\"" else []) ++ [c]) ++ lit "\""

def header : CppString :=
  lit "run_timestamp" ++ lit ",database" ++ lit ",experiment_name" ++ lit ",operation" ++
    lit ",index_type" ++ lit ",phase" ++ lit ",thread_count" ++ lit ",total_ops" ++
    lit ",total_time_ms" ++ lit ",p50_us" ++ lit ",p95_us" ++ lit ",p99_us" ++ lit ",min_us" ++
    lit ",max_us" ++ lit ",mean_us" ++ lit ",throughput_ops_sec" ++ lit ",sstable_count" ++
    lit ",result_set_size" ++ lit ",notes" ++ lit "\n"

variable {Double : Type} (printFixed : Nat → Double → CppString)

/-- What one call of `write` streams to the file. `printFixed` is how a stream prints a `double`
with `std::fixed` and a precision. -/
def row (tm : Tm) (result : BenchmarkResult Double) : CppString :=
  (lit ",").intercalate
    [escape (runTimestamp tm),
      escape result.database,
      escape result.experimentName,
      escape result.operation,
      escape result.indexType,
      escape result.phase,
      decimal result.threadCount,
      decimal result.totalOps,
      printFixed 3 result.totalTimeMs,
      printFixed 3 result.p50Us,
      printFixed 3 result.p95Us,
      printFixed 3 result.p99Us,
      printFixed 3 result.minUs,
      printFixed 3 result.maxUs,
      printFixed 3 result.meanUs,
      printFixed 1 result.throughputOpsSec,
      decimal result.sstableCount,
      decimal result.resultSetSize,
      escape result.notes] ++ lit "\n"

/-- `std::ios::trunc`; there is no file as long as `output_path_` does not exist. -/
def writeHeader (_file : Option CppString) : Option CppString := some header

def construct (file : Option CppString) : Option CppString :=
  if file.isSome then file else writeHeader file

/-- `std::ios::app` -/
def write (file : Option CppString) (tm : Tm) (result : BenchmarkResult Double) :
    Option CppString :=
  some (file.getD [] ++ row printFixed tm result)

def writeAll (file : Option CppString) (results : List (Tm × BenchmarkResult Double)) :
    Option CppString :=
  results.foldl (fun file r => write printFixed file r.1 r.2) file

def call (file : Option CppString) : CsvCall Double → Option CppString
  | .write tm result => write printFixed file tm result
  | .writeAll results => writeAll printFixed file results

def session (file : Option CppString) (calls : List (CsvCall Double)) : Option CppString :=
  calls.foldl (call printFixed) (construct file)

def sessions (file : Option CppString) (calls : List (List (CsvCall Double))) : Option CppString :=
  calls.foldl (session printFixed) file

theorem writeAll_eq (file : Option CppString) (results : List (Tm × BenchmarkResult Double))
    (hfile : file = some text) :
    writeAll printFixed file results =
      some (text ++ results.flatMap fun r => row printFixed r.1 r.2) := by
  induction results generalizing file text with
  | nil => simpa [writeAll] using hfile
  | cons r results ih =>
    have hwrite : write printFixed file r.1 r.2 = some (text ++ row printFixed r.1 r.2) := by
      rw [hfile, write, Option.getD_some]
    have hrest := ih (write printFixed file r.1 r.2) hwrite
    rw [List.flatMap_cons, ← List.append_assoc]
    exact hrest

theorem call_eq (hfile : file = some text) (c : CsvCall Double) :
    call printFixed file c = some (text ++ c.rows.flatMap fun r => row printFixed r.1 r.2) := by
  cases c with
  | write tm result => simp [call, write, hfile, CsvCall.rows]
  | writeAll results => exact writeAll_eq printFixed file results hfile

theorem calls_eq (hfile : file = some text) (calls : List (CsvCall Double)) :
    calls.foldl (call printFixed) file =
      some (text ++ (calls.flatMap CsvCall.rows).flatMap fun r => row printFixed r.1 r.2) := by
  induction calls generalizing file text with
  | nil => simpa using hfile
  | cons c calls ih =>
    rw [List.foldl_cons, ih (call_eq printFixed hfile c), List.flatMap_cons, List.flatMap_append,
      List.append_assoc]

theorem sessions_eq (hfile : file = some text) (calls : List (List (CsvCall Double))) :
    sessions printFixed file calls =
      some (text ++ (calls.flatten.flatMap CsvCall.rows).flatMap fun r => row printFixed r.1 r.2) := by
  induction calls generalizing file text with
  | nil => simpa [sessions] using hfile
  | cons first calls ih =>
    have hconstruct : construct file = some text := by simp [construct, hfile]
    have hfirst : session printFixed file first = _ := calls_eq printFixed hconstruct first
    have hrest := ih hfirst
    rw [List.flatten_cons, List.flatMap_append, List.flatMap_append, ← List.append_assoc]
    exact hrest

/-- The first session writes the header, and no later one does. -/
theorem sessions_none (first : List (CsvCall Double)) (calls : List (List (CsvCall Double))) :
    sessions printFixed none (first :: calls) =
      some (header ++ ((first :: calls).flatten.flatMap CsvCall.rows).flatMap fun r =>
        row printFixed r.1 r.2) := by
  have hheader : writeHeader none = some header := rfl
  have h := sessions_eq printFixed hheader (first :: calls)
  exact h

end CSVWriter

end DbBenchmark
