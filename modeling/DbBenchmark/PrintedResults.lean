import DbBenchmark.FinalSummary

namespace DbBenchmark
open FixedPoint NearestRounding Printing Throwing
set_option autoImplicit true

namespace SummaryPrinter

variable (r : Nearest ℚ)

def printExperimentHeader (experimentName : CppString) : EStateM LengthError CppString PUnit :=
  let line := List.replicate 60 61
  print (lit "\n" ++ line ++ lit "\n" ++ lit "  " ++ experimentName ++ lit "\n" ++ line ++ lit "\n")

def printSeparator : EStateM LengthError CppString PUnit :=
  print (List.replicate 60 45 ++ lit "\n")

def printIf (c : Prop) [Decidable c] (text : CppString) : EStateM LengthError CppString PUnit :=
  if c then print text else pure ⟨⟩

def printResult (result : BenchmarkResult Binary64) : EStateM LengthError CppString PUnit := do
  print (lit "  [" ++ result.database ++ lit "] " ++ result.experimentName)
  printIf (¬ result.phase.isEmpty) (lit " | " ++ result.phase)
  printIf (¬ result.indexType.isEmpty ∧ result.indexType ≠ lit "none")
    (lit " | index=" ++ result.indexType)
  printIf (1 < result.threadCount) (lit " | threads=" ++ decimal result.threadCount)
  print (lit "\n")
  print (lit "    ops=" ++ decimal result.totalOps ++
    lit "  time=" ++ result.totalTimeMs.1.print r 1 ++ lit "ms" ++
    lit "  p50=" ++ formatLatency r result.p50Us.1 ++
    lit "  p95=" ++ formatLatency r result.p95Us.1 ++
    lit "  p99=" ++ formatLatency r result.p99Us.1 ++
    lit "  tput=" ++ formatThroughput r result.throughputOpsSec.1 ++ lit "\n")
  printIf (0 < result.sstableCount) (lit "    sstables=" ++ decimal result.sstableCount ++ lit "\n")
  printIf (0 < result.resultSetSize)
    (lit "    avg_result_set=" ++ decimal result.resultSetSize ++ lit "\n")
  printIf (¬ result.notes.isEmpty) (lit "    notes: " ++ result.notes ++ lit "\n")

/-- The head of the table of `print_compaction_summary` as well as its two rows. -/
def printCompactionCells (label p50 p95 p99 sstables : CppString) :
    EStateM LengthError CppString PUnit := do
  print (lit "  ")
  print (← pad label 20)
  print (← pad p50 10)
  print (← pad p95 10)
  print (← pad p99 12)
  print (sstables ++ lit "\n")

/-- The quotient that both summaries print behind their table, of a positive divisor. That of two
infinities is the NaN of x86-64, which has its sign set. -/
def ratio (a b : Binary64) : Number :=
  match a.1, b.1 with
  | .nan negative, _ => .nan negative
  | _, .nan negative => .nan negative
  | .infinity _, .infinity _ => .nan true
  | .infinity negative, _ => .infinity negative
  | .finite a, .infinity _ => if a < 0 then .negativeZero else .finite 0
  | .negativeZero, _ => .negativeZero
  | .finite a, .negativeZero => .infinity (a < 0)
  | .finite a, .finite b => .finite (a / b)

def printCompactionSummary (before after : BenchmarkResult Binary64) :
    EStateM LengthError CppString PUnit := do
  let rule := lit "  " ++ List.replicate 56 45 ++ lit "\n"
  let printPhase (label : CppString) (result : BenchmarkResult Binary64) :=
    printCompactionCells label (formatLatency r result.p50Us.1) (formatLatency r result.p95Us.1)
      (formatLatency r result.p99Us.1) (decimal result.sstableCount)
  print (lit "\n  [cassandra] Compaction Impact:\n" ++ rule)
  printCompactionCells [] (lit "p50") (lit "p95") (lit "p99") (lit "SSTables")
  print rule
  printPhase (lit "Before compaction") before
  printPhase (lit "After compaction") after
  print rule
  printIf (before.p99Us.1.exceeds 0 ∧ after.p99Us.1.exceeds 0)
    (lit "  p99 improvement after compaction: " ++
      (ratio before.p99Us after.p99Us).print r 1 ++ lit "x\n")

def printOperationCells (operation throughput p50 p95 p99 : CppString) :
    EStateM LengthError CppString PUnit := do
  print (lit "  ")
  print (← pad operation 16)
  print (← pad throughput 16)
  print (← pad p50 10)
  print (← pad p95 10)
  print (← pad p99 12)
  print (lit "\n")

def verdict (ratio : Number) : CppString :=
  if ratio.exceeds 1 then lit "  (reads faster — B+Tree behavior)"
  else lit "  (writes faster — LSM behavior)"

def printWriteVsReadSummary (avgWrite avgRead : BenchmarkResult Binary64) :
    EStateM LengthError CppString PUnit := do
  let rule := lit "  " ++ List.replicate 66 45 ++ lit "\n"
  let printOperation (operation : CppString) (result : BenchmarkResult Binary64) :=
    printOperationCells operation (formatThroughput r result.throughputOpsSec.1)
      (formatLatency r result.p50Us.1) (formatLatency r result.p95Us.1) (formatLatency r result.p99Us.1)
  print (lit "\n  [" ++ avgWrite.database ++ lit "] Write vs Read — averaged over 3 runs\n" ++ rule)
  printOperationCells (lit "Operation") (lit "Throughput") (lit "p50") (lit "p95") (lit "p99")
  print rule
  printOperation (lit "Write") avgWrite
  printOperation (lit "Read (cold)") avgRead
  print rule
  printIf (avgWrite.throughputOpsSec.1.exceeds 0)
    (let ratio := ratio avgRead.throughputOpsSec avgWrite.throughputOpsSec
     lit "  Read/Write throughput ratio: " ++ ratio.print r 2 ++ lit "x" ++ verdict ratio ++
       lit "\n")
  printIf (¬ avgWrite.notes.isEmpty) (lit "  Write runs: " ++ avgWrite.notes ++ lit "\n")
  printIf (¬ avgRead.notes.isEmpty) (lit "  Read  runs: " ++ avgRead.notes ++ lit "\n")

inductive PrinterCall where
  | experimentHeader (experimentName : CppString)
  | separator
  | result (measured : BenchmarkResult Binary64)
  | compactionSummary (before after : BenchmarkResult Binary64)
  | writeVsReadSummary (avgWrite avgRead : BenchmarkResult Binary64)
  | finalSummary (results : List (BenchmarkResult Binary64))

def perform : PrinterCall → EStateM LengthError CppString PUnit
  | .experimentHeader experimentName => printExperimentHeader experimentName
  | .separator => printSeparator
  | .result measured => printResult r measured
  | .compactionSummary before after => printCompactionSummary r before after
  | .writeVsReadSummary avgWrite avgRead => printWriteVsReadSummary r avgWrite avgRead
  | .finalSummary results => printFinalSummary r results

/-- Only the rows of the final summary hold texts of any length. -/
def PrinterCall.Fits : PrinterCall → Prop
  | .finalSummary results => ∀ result ∈ results, RowFits result
  | _ => True

def textIf (c : Prop) [Decidable c] (text : CppString) : CppString := if c then text else []

theorem prints_printIf (c : Prop) [Decidable c] (text : CppString) :
    Prints (printIf c text) True (textIf c text) := by
  rw [printIf, textIf]
  split
  · exact Prints.print text
  · exact Prints.skip

def headerText (experimentName : CppString) : CppString :=
  let line := List.replicate 60 61
  lit "\n" ++ line ++ lit "\n" ++ lit "  " ++ experimentName ++ lit "\n" ++ line ++ lit "\n"

def resultText (result : BenchmarkResult Binary64) : CppString :=
  (lit "  [" ++ result.database ++ lit "] " ++ result.experimentName) ++
  (textIf (¬ result.phase.isEmpty) (lit " | " ++ result.phase) ++
  (textIf (¬ result.indexType.isEmpty ∧ result.indexType ≠ lit "none")
    (lit " | index=" ++ result.indexType) ++
  (textIf (1 < result.threadCount) (lit " | threads=" ++ decimal result.threadCount) ++
  (lit "\n" ++
  ((lit "    ops=" ++ decimal result.totalOps ++
    lit "  time=" ++ result.totalTimeMs.1.print r 1 ++ lit "ms" ++
    lit "  p50=" ++ formatLatency r result.p50Us.1 ++
    lit "  p95=" ++ formatLatency r result.p95Us.1 ++
    lit "  p99=" ++ formatLatency r result.p99Us.1 ++
    lit "  tput=" ++ formatThroughput r result.throughputOpsSec.1 ++ lit "\n") ++
  (textIf (0 < result.sstableCount)
    (lit "    sstables=" ++ decimal result.sstableCount ++ lit "\n") ++
  (textIf (0 < result.resultSetSize)
    (lit "    avg_result_set=" ++ decimal result.resultSetSize ++ lit "\n") ++
  textIf (¬ result.notes.isEmpty) (lit "    notes: " ++ result.notes ++ lit "\n"))))))))

theorem prints_printResult (result : BenchmarkResult Binary64) :
    Prints (printResult r result) True (resultText r result) := by
  apply Prints.congr ((Prints.print _).seq ((prints_printIf _ _).seq ((prints_printIf _ _).seq
    ((prints_printIf _ _).seq ((Prints.print _).seq ((Prints.print _).seq ((prints_printIf _ _).seq
      ((prints_printIf _ _).seq (prints_printIf _ _))))))))) _ rfl
  simp only [and_self]

def rule (width : Nat) : CppString := lit "  " ++ List.replicate width 45 ++ lit "\n"

def compactionCells (label p50 p95 p99 sstables : CppString) : CppString :=
  lit "  " ++ (column 20 label ++ (column 10 p50 ++ (column 10 p95 ++ (column 12 p99 ++
    (sstables ++ lit "\n")))))

theorem prints_compactionCells {label p50 p95 p99 : CppString} (sstables : CppString)
    (hlabel : label.length < 2 ^ 31) (hp50 : p50.length < 2 ^ 31) (hp95 : p95.length < 2 ^ 31)
    (hp99 : p99.length < 2 ^ 31) : Prints (printCompactionCells label p50 p95 p99 sstables) True
      (compactionCells label p50 p95 p99 sstables) := by
  have hlabel' : Prints (pad label 20 >>= print) _ _ := prints_pad (by decide) label
  have hp50' : Prints (pad p50 10 >>= print) _ _ := prints_pad (by decide) p50
  have hp95' : Prints (pad p95 10 >>= print) _ _ := prints_pad (by decide) p95
  have hp99' : Prints (pad p99 12 >>= print) _ _ := prints_pad (by decide) p99
  have hline := (Prints.print (lit "  ")).seq (hlabel'.made (hp50'.made (hp95'.made (hp99'.made
    (Prints.print (sstables ++ lit "\n"))))))
  apply hline.congr _ rfl
  simp [fitsColumn_of_lt hlabel, fitsColumn_of_lt hp50, fitsColumn_of_lt hp95,
    fitsColumn_of_lt hp99]

def compactionRow (label : CppString) (result : BenchmarkResult Binary64) : CppString :=
  compactionCells label (formatLatency r result.p50Us.1) (formatLatency r result.p95Us.1)
    (formatLatency r result.p99Us.1) (decimal result.sstableCount)

def improvementLine (before after : BenchmarkResult Binary64) : CppString :=
  lit "  p99 improvement after compaction: " ++
    (ratio before.p99Us after.p99Us).print r 1 ++ lit "x\n"

def compactionTable (before after : BenchmarkResult Binary64) : CppString :=
  (lit "\n  [cassandra] Compaction Impact:\n" ++ rule 56) ++
  (compactionCells [] (lit "p50") (lit "p95") (lit "p99") (lit "SSTables") ++
  (rule 56 ++
  (compactionRow r (lit "Before compaction") before ++
  (compactionRow r (lit "After compaction") after ++
  rule 56))))

def compactionText (before after : BenchmarkResult Binary64) : CppString :=
  compactionTable r before after ++
    textIf (before.p99Us.1.exceeds 0 ∧ after.p99Us.1.exceeds 0) (improvementLine r before after)

theorem prints_printCompactionSummary (before after : BenchmarkResult Binary64) :
    Prints (printCompactionSummary r before after) True (compactionText r before after) := by
  have hhead := prints_compactionCells (lit "SSTables") (by decide : ([] : CppString).length < _)
    (by decide : (lit "p50").length < _) (by decide : (lit "p95").length < _)
    (by decide : (lit "p99").length < _)
  have hrow (label : CppString) (hlabel : label.length < 2 ^ 31)
      (result : BenchmarkResult Binary64) :=
    prints_compactionCells (decimal result.sstableCount) hlabel
      (length_formatLatency_lt r result.p50Us) (length_formatLatency_lt r result.p95Us)
      (length_formatLatency_lt r result.p99Us)
  apply Prints.congr ((Prints.print _).seq (hhead.seq ((Prints.print _).seq
    ((hrow (lit "Before compaction") (by decide) before).seq
      ((hrow (lit "After compaction") (by decide) after).seq
        ((Prints.print _).seq (prints_printIf _ _))))))) _ _
  · simp only [and_self]
  · simp only [compactionText, compactionTable, compactionRow, improvementLine, rule,
      List.append_assoc]

def operationCells (operation throughput p50 p95 p99 : CppString) : CppString :=
  lit "  " ++ (column 16 operation ++ (column 16 throughput ++ (column 10 p50 ++ (column 10 p95 ++
    (column 12 p99 ++ lit "\n")))))

theorem prints_operationCells {operation throughput p50 p95 p99 : CppString}
    (hoperation : operation.length < 2 ^ 31) (hthroughput : throughput.length < 2 ^ 31)
    (hp50 : p50.length < 2 ^ 31) (hp95 : p95.length < 2 ^ 31) (hp99 : p99.length < 2 ^ 31) :
    Prints (printOperationCells operation throughput p50 p95 p99) True
      (operationCells operation throughput p50 p95 p99) := by
  have hoperation' : Prints (pad operation 16 >>= print) _ _ := prints_pad (by decide) operation
  have hthroughput' : Prints (pad throughput 16 >>= print) _ _ := prints_pad (by decide) throughput
  have hp50' : Prints (pad p50 10 >>= print) _ _ := prints_pad (by decide) p50
  have hp95' : Prints (pad p95 10 >>= print) _ _ := prints_pad (by decide) p95
  have hp99' : Prints (pad p99 12 >>= print) _ _ := prints_pad (by decide) p99
  have hline := (Prints.print (lit "  ")).seq (hoperation'.made (hthroughput'.made (hp50'.made
    (hp95'.made (hp99'.made (Prints.print (lit "\n")))))))
  apply hline.congr _ rfl
  simp [fitsColumn_of_lt hoperation, fitsColumn_of_lt hthroughput, fitsColumn_of_lt hp50,
    fitsColumn_of_lt hp95, fitsColumn_of_lt hp99]

def operationRow (operation : CppString) (result : BenchmarkResult Binary64) : CppString :=
  operationCells operation (formatThroughput r result.throughputOpsSec.1)
    (formatLatency r result.p50Us.1) (formatLatency r result.p95Us.1) (formatLatency r result.p99Us.1)

def verdictLine (avgWrite avgRead : BenchmarkResult Binary64) : CppString :=
  let ratio := ratio avgRead.throughputOpsSec avgWrite.throughputOpsSec
  lit "  Read/Write throughput ratio: " ++ ratio.print r 2 ++ lit "x" ++ verdict ratio ++
    lit "\n"

def writeVsReadTable (avgWrite avgRead : BenchmarkResult Binary64) : CppString :=
  (lit "\n  [" ++ avgWrite.database ++ lit "] Write vs Read — averaged over 3 runs\n" ++ rule 66) ++
  (operationCells (lit "Operation") (lit "Throughput") (lit "p50") (lit "p95") (lit "p99") ++
  (rule 66 ++
  (operationRow r (lit "Write") avgWrite ++
  (operationRow r (lit "Read (cold)") avgRead ++
  rule 66))))

def writeVsReadText (avgWrite avgRead : BenchmarkResult Binary64) : CppString :=
  writeVsReadTable r avgWrite avgRead ++
  (textIf (avgWrite.throughputOpsSec.1.exceeds 0) (verdictLine r avgWrite avgRead) ++
  (textIf (¬ avgWrite.notes.isEmpty) (lit "  Write runs: " ++ avgWrite.notes ++ lit "\n") ++
  textIf (¬ avgRead.notes.isEmpty) (lit "  Read  runs: " ++ avgRead.notes ++ lit "\n")))

theorem prints_printWriteVsReadSummary (avgWrite avgRead : BenchmarkResult Binary64) :
    Prints (printWriteVsReadSummary r avgWrite avgRead) True
      (writeVsReadText r avgWrite avgRead) := by
  have hhead := prints_operationCells (by decide : (lit "Operation").length < _)
    (by decide : (lit "Throughput").length < _) (by decide : (lit "p50").length < _)
    (by decide : (lit "p95").length < _) (by decide : (lit "p99").length < _)
  have hrow (operation : CppString) (hoperation : operation.length < 2 ^ 31)
      (result : BenchmarkResult Binary64) :=
    prints_operationCells hoperation (length_formatThroughput_lt r result.throughputOpsSec)
      (length_formatLatency_lt r result.p50Us) (length_formatLatency_lt r result.p95Us)
      (length_formatLatency_lt r result.p99Us)
  apply Prints.congr ((Prints.print _).seq (hhead.seq ((Prints.print _).seq
    ((hrow (lit "Write") (by decide) avgWrite).seq
      ((hrow (lit "Read (cold)") (by decide) avgRead).seq
        ((Prints.print _).seq ((prints_printIf _ _).seq ((prints_printIf _ _).seq
          (prints_printIf _ _))))))))) _ _
  · simp only [and_self]
  · simp only [writeVsReadText, writeVsReadTable, operationRow, verdictLine, rule,
      List.append_assoc]

def PrinterCall.text : PrinterCall → CppString
  | .experimentHeader experimentName => headerText experimentName
  | .separator => List.replicate 60 45 ++ lit "\n"
  | .result measured => resultText r measured
  | .compactionSummary before after => compactionText r before after
  | .writeVsReadSummary avgWrite avgRead => writeVsReadText r avgWrite avgRead
  | .finalSummary results => summaryText r (Grouping.groupsOf BenchmarkResult.experimentName results)

theorem prints_perform (call : PrinterCall) : Prints (perform r call) call.Fits (call.text r) := by
  cases call with
  | experimentHeader experimentName => exact Prints.print _
  | separator => exact Prints.print _
  | result measured => exact prints_printResult r measured
  | compactionSummary before after => exact prints_printCompactionSummary r before after
  | writeVsReadSummary avgWrite avgRead => exact prints_printWriteVsReadSummary r avgWrite avgRead
  | finalSummary results => exact prints_printFinalSummary r results

/-- The printer prints its texts one after the other, whatever it is called with, unless a row of a
final summary is too long. -/
theorem session_printed_iff (calls : List PrinterCall) (printed : CppString) :
    calls.forM (perform r) printed = .ok ⟨⟩ (printed ++ calls.flatMap (PrinterCall.text r)) ↔
      ∀ call ∈ calls, call.Fits :=
  (Prints.forM fun call _ => prints_perform r call).eq_ok_iff printed

end SummaryPrinter

end DbBenchmark
