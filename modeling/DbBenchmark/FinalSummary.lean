import DbBenchmark.Grouping
import DbBenchmark.SummaryPrinter

namespace DbBenchmark
open FixedPoint Grouping NearestRounding Printing Throwing
set_option autoImplicit true

namespace SummaryPrinter

variable {s : CppString} {width : Int32}

def column (width : Nat) (s : CppString) : CppString := (s.rightpad width 32).take width

/-- A text that is wider than its column has a length that is still so as an `int`. -/
def FitsColumn (s : CppString) (width : Int32) : Prop :=
  s.length ≤ width.toInt.toNat ∨ width ≤ Int32.ofNat s.length

theorem fitsColumn_of_lt (h : s.length < 2 ^ 31) : FitsColumn s width := by
  rw [FitsColumn, Int32.le_iff_toInt_le, Int32.toInt_ofNat_of_lt h]
  omega

theorem toInt_ofNat_le (n : Nat) : (Int32.ofNat n).toInt ≤ n := by
  rw [Int32.toInt_ofNat', Int.bmod_eq_emod, Int32.size]
  split <;> omega

theorem toNat_ofInt (hwidth : 0 ≤ width) :
    (UInt64.ofInt width.toInt).toNat = width.toInt.toNat := by
  have hlt := width.toInt_lt
  have hpos : 0 ≤ width.toInt := Int32.le_iff_toInt_le.1 hwidth
  rw [UInt64.ofInt, UInt64.toNat_ofNat', Int.emod_eq_of_lt hpos (by omega)]
  omega

theorem length_column (h : width' ≤ s.length) : (column width' s).length = width' := by
  rw [column, List.length_take, List.length_rightpad]
  omega

theorem pad_of_fits (hwidth : 0 ≤ width) (h : FitsColumn s width) :
    pad s width = pure (column width.toInt.toNat s) := by
  have hlt := width.toInt_lt
  have hpos : 0 ≤ width.toInt := Int32.le_iff_toInt_le.1 hwidth
  have hle := toInt_ofNat_le s.length
  rw [pad]
  split
  · rename_i hge
    rw [ge_iff_le, Int32.le_iff_toInt_le] at hge
    rw [toNat_ofInt hwidth, column, List.rightpad, List.take_append_of_le_length (by omega)]
  · rename_i hge
    have hshort : s.length ≤ width.toInt.toNat := h.resolve_right hge
    have hcount : (UInt64.ofInt width.toInt - UInt64.ofNat s.length).toNat =
        width.toInt.toNat - s.length := by
      rw [UInt64.toNat_sub, toNat_ofInt hwidth, UInt64.toNat_ofNat']
      omega
    rw [fill, hcount, if_pos (by omega), column, List.rightpad, List.take_of_length_le]
    · rfl
    · rw [List.length_append, List.length_replicate]
      omega

theorem lt_length_of_not_fits (h : ¬ FitsColumn s width) : width.toInt.toNat < s.length :=
  not_le.1 fun hle => h (.inl hle)

/-- No `std::string` is so long that the size of the fill could be in bounds here. -/
theorem pad_throws (hwidth : 0 ≤ width) (h : ¬ FitsColumn s width) (hsize : s.length < 2 ^ 63) :
    pad s width = throw ⟨⟩ := by
  have hlt := lt_length_of_not_fits h
  have hcount : ¬ (UInt64.ofInt width.toInt - UInt64.ofNat s.length).toNat < 2 ^ 63 := by
    rw [UInt64.toNat_sub, toNat_ofInt hwidth, UInt64.toNat_ofNat']
    omega
  rw [pad, if_neg fun hge => h (.inr hge), fill, if_neg hcount]
  rfl

theorem lt_length_of_pad (h : ¬ FitsColumn s width) (hr : pad s width printed = .ok text printed') :
    printed' = printed ∧ width.toInt.toNat < text.length := by
  have hlt := lt_length_of_not_fits h
  rw [pad, if_neg fun hge => h (.inr hge), fill] at hr
  split at hr
  · cases hr
    rw [List.length_append]
    exact ⟨rfl, Nat.lt_add_right _ hlt⟩
  · cases hr

theorem prints_pad (hwidth : 0 ≤ width) (s : CppString) :
    Prints (pad s width >>= print) (FitsColumn s width) (column width.toInt.toNat s) where
  returns h printed := by
    rw [pad_of_fits hwidth h]
    rfl
  overflows h printed printed' hr := by
    obtain ⟨text, between, hpad, hprint⟩ := bind_eq_ok_iff.1 hr
    obtain ⟨rfl, hlt⟩ := lt_length_of_pad h hpad
    cases hprint
    rw [List.length_append, List.length_append, length_column (lt_length_of_not_fits h).le]
    exact Nat.add_lt_add_left hlt _

section Table

variable (r : Nearest ℚ) {result : BenchmarkResult Binary64}

def cells (database operation phase p99 throughput : CppString) : CppString :=
  lit "  " ++ (column 12 database ++ (column 12 operation ++ (column 20 phase ++
    (column 10 p99 ++ (column 16 throughput ++ lit "\n")))))

theorem prints_cells (database operation phase : CppString) {p99 throughput : CppString}
    (hp99 : p99.length < 2 ^ 31) (hthroughput : throughput.length < 2 ^ 31) :
    Prints (printCells database operation phase p99 throughput)
      (FitsColumn database 12 ∧ FitsColumn operation 12 ∧ FitsColumn phase 20)
      (cells database operation phase p99 throughput) := by
  have hdatabase : Prints (pad database 12 >>= print) _ _ := prints_pad (by decide) database
  have hoperation : Prints (pad operation 12 >>= print) _ _ := prints_pad (by decide) operation
  have hphase : Prints (pad phase 20 >>= print) _ _ := prints_pad (by decide) phase
  have hlatency : Prints (pad p99 10 >>= print) _ _ := prints_pad (by decide) p99
  have hops : Prints (pad throughput 16 >>= print) _ _ := prints_pad (by decide) throughput
  have hline := (Prints.print (lit "  ")).seq (hdatabase.made (hoperation.made (hphase.made
    (hlatency.made (hops.made (Prints.print (lit "\n")))))))
  apply hline.congr _ rfl
  simp [fitsColumn_of_lt hp99, fitsColumn_of_lt hthroughput]

def phaseText (result : BenchmarkResult Binary64) : CppString :=
  if result.phase.isEmpty then result.indexType else result.phase

def RowFits (result : BenchmarkResult Binary64) : Prop :=
  FitsColumn result.database 12 ∧ FitsColumn result.operation 12 ∧ FitsColumn (phaseText result) 20

def row (result : BenchmarkResult Binary64) : CppString :=
  cells result.database result.operation (phaseText result) (formatLatency r result.p99Us.1)
    (formatThroughput r result.throughputOpsSec.1)

theorem length_print_append_le {x : Number} (hx : x.Within k) (hprecision : precision ≤ 2)
    {name : CppString} (hname : name.length ≤ 7) :
    (x.print r precision ++ name).length ≤ k + 16 := by
  have hprinted : (x.print r precision).length ≤ k + 2 * precision + 5 :=
    Number.length_print_le r precision hx
  rw [List.length_append]
  omega

theorem length_formatLatency_le {us : Number} (hus : us.Within k) :
    (formatLatency r us).length ≤ k + 16 := by
  rw [formatLatency]
  split
  · exact length_print_append_le r hus (by decide) (by decide)
  · split
    · exact length_print_append_le r (hus.dividedBy (by norm_num)) (by decide) (by decide)
    · exact length_print_append_le r (hus.dividedBy (by norm_num)) (by decide) (by decide)

theorem length_formatThroughput_le {opsSec : Number} (hops : opsSec.Within k) :
    (formatThroughput r opsSec).length ≤ k + 16 := by
  rw [formatThroughput]
  split
  · exact length_print_append_le r (hops.dividedBy (by norm_num)) (by decide) (by decide)
  · split
    · exact length_print_append_le r (hops.dividedBy (by norm_num)) (by decide) (by decide)
    · exact length_print_append_le r hops (by decide) (by decide)

/-- The numbers are short enough for every column. -/
theorem length_formatLatency_lt (us : Binary64) : (formatLatency r us.1).length < 2 ^ 31 :=
  (length_formatLatency_le r us.2.within).trans_lt (by decide)

theorem length_formatThroughput_lt (opsSec : Binary64) :
    (formatThroughput r opsSec.1).length < 2 ^ 31 :=
  (length_formatThroughput_le r opsSec.2.within).trans_lt (by decide)

/-- The numbers always fit, so a row does if its texts do. -/
theorem prints_row (result : BenchmarkResult Binary64) :
    Prints (printRow r result) (RowFits result) (row r result) :=
  prints_cells _ _ _ (length_formatLatency_lt r result.p99Us)
    (length_formatThroughput_lt r result.throughputOpsSec)

def tableHead (expName : CppString) : CppString :=
  (lit "\n  " ++ expName ++ lit "\n") ++
    (cells (lit "Database") (lit "Operation") (lit "Phase") (lit "p99") (lit "Throughput") ++
      (lit "  " ++ List.replicate 66 45 ++ lit "\n"))

theorem prints_tableHead (expName : CppString) :
    Prints (printTableHead expName) True (tableHead expName) := by
  have hfits : ∀ s ∈ [lit "Database", lit "Operation", lit "Phase", lit "p99", lit "Throughput"],
      s.length < 2 ^ 31 := by decide
  simp only [List.forall_mem_cons] at hfits
  obtain ⟨hdatabase, hoperation, hphase, hp99, hthroughput, -⟩ := hfits
  have hcells := prints_cells (lit "Database") (lit "Operation") (lit "Phase") hp99 hthroughput
  have hhead := (Prints.print (lit "\n  " ++ expName ++ lit "\n")).seq
    (hcells.seq (Prints.print (lit "  " ++ List.replicate 66 45 ++ lit "\n")))
  apply hhead.congr _ rfl
  simp [fitsColumn_of_lt hdatabase, fitsColumn_of_lt hoperation, fitsColumn_of_lt hphase]

theorem prints_rows (results : List (BenchmarkResult Binary64)) (expName : CppString) :
    Prints (results.forM fun result =>
        if result.experimentName ≠ expName then pure ⟨⟩ else printRow r result)
      (∀ result ∈ results, result.experimentName = expName → RowFits result)
      ((results.filter (·.experimentName = expName)).flatMap (row r)) := by
  apply Prints.forM_filter
  · intro result _ hname
    exact if_pos hname
  · intro result _ hname
    rw [if_neg (not_not.2 hname)]
    exact prints_row r result

def groupText (g : CppString × List (BenchmarkResult Binary64)) : CppString :=
  tableHead g.1 ++ g.2.flatMap (row r)

def summaryText (groups : List (CppString × List (BenchmarkResult Binary64))) : CppString :=
  let line := List.replicate 70 61
  if groups.isEmpty then []
  else (lit "\n" ++ line ++ lit "\n" ++ lit "  FINAL SUMMARY\n" ++ line ++ lit "\n") ++
    (groups.flatMap (groupText r) ++ (lit "\n" ++ line ++ lit "\n"))

theorem expNames_eq (results : List (BenchmarkResult Binary64)) :
    expNames results = firstAppearances (results.map BenchmarkResult.experimentName) := by
  rw [expNames, firstAppearances, List.foldl_map]
  congr!

theorem forall_expNames_iff {results : List (BenchmarkResult Binary64)}
    {P : BenchmarkResult Binary64 → Prop} :
    (∀ expName ∈ expNames results, ∀ result ∈ results, result.experimentName = expName → P result) ↔
      ∀ result ∈ results, P result := by
  constructor
  · intro h result hresult
    have hname : result.experimentName ∈ expNames results := by
      rw [expNames_eq, mem_firstAppearances]
      exact List.mem_map_of_mem hresult
    exact h _ hname result hresult rfl
  · exact fun h _ _ result hresult _ => h result hresult

theorem prints_printFinalSummary (results : List (BenchmarkResult Binary64)) :
    Prints (printFinalSummary r results) (∀ result ∈ results, RowFits result)
      (summaryText r (groupsOf BenchmarkResult.experimentName results)) := by
  cases results with
  | nil => exact Prints.skip.congr (iff_of_true trivial (List.forall_mem_nil _)) rfl
  | cons first rest =>
    have hgroup : ∀ expName ∈ expNames (first :: rest), Prints _ _ _ := fun expName _ =>
      (prints_tableHead expName).seq (prints_rows r (first :: rest) expName)
    have hgroups : groupsOf BenchmarkResult.experimentName (first :: rest) ≠ [] :=
      groupsOf_ne_nil (List.cons_ne_nil _ _)
    rw [printFinalSummary, if_neg (by simp), summaryText, if_neg (by simpa using hgroups)]
    apply ((Prints.print _).seq ((Prints.forM hgroup).seq (Prints.print _))).congr
    · simp only [true_and, and_true, forall_expNames_iff]
    · rw [groupsOf, List.flatMap_map, ← expNames_eq]
      rfl

theorem printRow_throws (hpad : pad result.database 12 = throw ⟨⟩) (printed : CppString) :
    printRow r result printed = .error ⟨⟩ (printed ++ lit "  ") := by
  rw [printRow, printCells, bind_ok (print_eq _ _), hpad]
  rfl

/-- The title and the table head are printed, and of the row the first blanks. -/
theorem printFinalSummary_throws (hpad : pad result.database 12 = throw ⟨⟩) (printed : CppString) :
    ∃ printed', printFinalSummary r [result] printed = .error ⟨⟩ printed' := by
  have hnames : expNames [result] = [result.experimentName] := rfl
  have hhead := (prints_tableHead result.experimentName).returns trivial
  have hrow : (if result.experimentName ≠ result.experimentName then pure ⟨⟩
      else printRow r result) = printRow r result := if_neg (not_not.2 rfl)
  have hrows (printed : CppString) : ([result].forM fun other =>
      if other.experimentName ≠ result.experimentName then pure ⟨⟩ else printRow r other) printed =
        .error ⟨⟩ (printed ++ lit "  ") :=
    bind_error ((congrFun hrow printed).trans (printRow_throws r hpad printed))
  rw [printFinalSummary, if_neg (by simp), bind_ok (print_eq _ _), hnames]
  exact ⟨_, bind_error (bind_error ((bind_ok (hhead _)).trans (hrows _)))⟩

/-- One row for each result, in groups that appear in the order of their first results. -/
def Summarised (results : List (BenchmarkResult Binary64)) : Prop :=
  ∃ groups, StableGrouping BenchmarkResult.experimentName results groups ∧
    ∀ printed, printFinalSummary r results printed = .ok ⟨⟩ (printed ++ summaryText r groups)

theorem summarised_iff (results : List (BenchmarkResult Binary64)) :
    Summarised r results ↔ ∀ result ∈ results, RowFits result := by
  have hprints := prints_printFinalSummary r results
  simp only [Summarised, stableGrouping_iff, exists_eq_left]
  constructor
  · intro hprinted
    exact (hprints.eq_ok_iff []).1 (hprinted [])
  · intro hfits
    exact hprints.returns hfits

/-- The smallest length that is negative as an `int`. -/
def longNamed : BenchmarkResult Binary64 :=
  { (BenchmarkResult.init : BenchmarkResult Binary64) with
    database := List.replicate (2 ^ 31) 97 }

theorem pad_longNamed : pad longNamed.database 12 = throw ⟨⟩ := by
  have hlength : longNamed.database.length = 2 ^ 31 := List.length_replicate
  apply pad_throws (by decide)
  · rw [FitsColumn, hlength]
    decide
  · rw [hlength]
    decide

theorem not_summarised_longNamed : (∃ printed, printFinalSummary halfEven [longNamed] [] =
    .error ⟨⟩ printed) ∧ ¬ Summarised halfEven [longNamed] := by
  have hthrows := printFinalSummary_throws halfEven pad_longNamed []
  refine ⟨hthrows, ?_⟩
  rintro ⟨groups, -, hprinted⟩
  obtain ⟨printed, hthrows⟩ := hthrows
  rw [hprinted] at hthrows
  cases hthrows

end Table

end SummaryPrinter

end DbBenchmark
