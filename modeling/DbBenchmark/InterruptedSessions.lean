import DbBenchmark.CsvRoundTrip

namespace DbBenchmark
open Rfc4180 CSVWriter
set_option autoImplicit true

/-- The part of a text that reaches the file; with `none` nothing interrupts the write. -/
def upTo (cut : Option Nat) (text : CppString) : CppString :=
  match cut with
  | none => text
  | some n => text.take n

/-- A call of `write`, and how many bytes of its record reach the file. -/
structure WriteAttempt (Double : Type) where
  tm : Tm
  result : BenchmarkResult Double
  cut : Option Nat

/-- A writer's life: `headerCut` applies where it writes the header. A crash ends the session with
the write that it cuts; behind a stream error that nobody notices further writes may follow. -/
structure CsvSession (Double : Type) where
  headerCut : Option Nat
  attempts : List (WriteAttempt Double)

variable {Double : Type} (printFixed : Nat → Double → CppString)

def WriteAttempt.text (a : WriteAttempt Double) : CppString :=
  upTo a.cut (row printFixed a.tm a.result)

namespace CSVWriter

def constructUpTo (cut : Option Nat) (file : Option CppString) : Option CppString :=
  if file.isSome then file else some (upTo cut header)

def writeUpTo (file : Option CppString) (a : WriteAttempt Double) : Option CppString :=
  some (file.getD [] ++ a.text printFixed)

def sessionUpTo (file : Option CppString) (s : CsvSession Double) : Option CppString :=
  s.attempts.foldl (writeUpTo printFixed) (constructUpTo s.headerCut file)

def sessionsUpTo (file : Option CppString) (history : List (CsvSession Double)) :
    Option CppString :=
  history.foldl (sessionUpTo printFixed) file

end CSVWriter

def CsvSession.uncut (calls : List (CsvCall Double)) : CsvSession Double where
  headerCut := none
  attempts := (calls.flatMap CsvCall.rows).map fun r => ⟨r.1, r.2, none⟩

theorem writesUpTo_eq (text : CppString) (attempts : List (WriteAttempt Double)) :
    attempts.foldl (writeUpTo printFixed) (some text) =
      some (text ++ attempts.flatMap fun a => a.text printFixed) := by
  induction attempts generalizing text with
  | nil => simp
  | cons a attempts ih =>
    have hwrite : writeUpTo printFixed (some text) a = some (text ++ a.text printFixed) := rfl
    rw [List.foldl_cons, hwrite, ih, List.flatMap_cons, List.append_assoc]

theorem sessionsUpTo_eq (text : CppString) (history : List (CsvSession Double)) :
    sessionsUpTo printFixed (some text) history =
      some (text ++ (history.flatMap CsvSession.attempts).flatMap fun a => a.text printFixed) := by
  induction history generalizing text with
  | nil => simp [sessionsUpTo]
  | cons s history ih =>
    have hsession := writesUpTo_eq printFixed text s.attempts
    rw [List.flatMap_cons, List.flatMap_append, ← List.append_assoc, ← ih, ← hsession]
    rfl

theorem sessionsUpTo_none (first : CsvSession Double) (later : List (CsvSession Double)) :
    sessionsUpTo printFixed none (first :: later) =
      some (upTo first.headerCut header ++
        ((first :: later).flatMap CsvSession.attempts).flatMap fun a => a.text printFixed) := by
  have h := sessionsUpTo_eq printFixed (upTo first.headerCut header) (first :: later)
  exact h

/-- The texts of the fields behind the timestamp. -/
def resultTexts (result : BenchmarkResult Double) : List CppString :=
  [escape result.database, escape result.experimentName, escape result.operation,
    escape result.indexType, escape result.phase, decimal result.threadCount,
    decimal result.totalOps, printFixed 3 result.totalTimeMs, printFixed 3 result.p50Us,
    printFixed 3 result.p95Us, printFixed 3 result.p99Us, printFixed 3 result.minUs,
    printFixed 3 result.maxUs, printFixed 3 result.meanUs, printFixed 1 result.throughputOpsSec,
    decimal result.sstableCount, decimal result.resultSetSize, escape result.notes]

theorem plain_runTimestamp (tm : Tm) : ∀ b ∈ runTimestamp tm, Plain b := by
  have htwoDigits (n : Nat) : ∀ b ∈ twoDigits n, Plain b := by
    rw [twoDigits]
    split
    · exact List.forall_mem_append.2 ⟨plain_of_all (by decide), plain_decimal n⟩
    · exact plain_decimal n
  have hdash : ∀ b ∈ lit "-", Plain b := plain_of_all (by decide)
  have hyear : ∀ b ∈ tm.fullYear, Plain b := by
    rw [Tm.fullYear]
    split
    · exact List.forall_mem_append.2 ⟨hdash, plain_decimal _⟩
    · exact plain_decimal _
  have hcolon : ∀ b ∈ lit ":", Plain b := plain_of_all (by decide)
  have hT : ∀ b ∈ lit "T", Plain b := plain_of_all (by decide)
  have hZ : ∀ b ∈ lit "Z", Plain b := plain_of_all (by decide)
  simp only [runTimestamp, List.forall_mem_append]
  exact ⟨⟨⟨⟨⟨⟨⟨⟨⟨⟨⟨hyear, hdash⟩, htwoDigits _⟩, hdash⟩, htwoDigits _⟩, hT⟩,
    htwoDigits _⟩, hcolon⟩, htwoDigits _⟩, hcolon⟩, htwoDigits _⟩, hZ⟩

theorem escape_of_plain {text : CppString} (h : ∀ b ∈ text, Plain b) : escape text = text := by
  have hnone : (text.any fun c => c ∈ lit ",\"\n\r") = false := by
    rw [List.any_eq_false]
    intro b hb
    rw [decide_eq_true_eq]
    exact (plain_iff b).1 (h b hb)
  simp only [escape, hnone, Bool.not_false, if_true]

theorem row_eq (tm : Tm) (result : BenchmarkResult Double) : row printFixed tm result =
    [comma].intercalate (runTimestamp tm :: resultTexts printFixed result) ++ [lf] := by
  have hcomma : lit "," = [comma] := by decide
  have hlf : lit "\n" = [lf] := by decide
  rw [row, hcomma, hlf, escape_of_plain (plain_runTimestamp tm)]
  rfl

theorem encodes_resultTexts (hfixed : ∀ precision x, ∀ b ∈ printFixed precision x, Plain b)
    (tm : Tm) (result : BenchmarkResult Double) :
    List.Forall₂ Encodes (resultTexts printFixed result) (rowFields printFixed tm result).tail := by
  have hdecimal (n : Nat) : Encodes (decimal n) (decimal n) := .plain (plain_decimal n)
  have hdouble (precision : Nat) (x : Double) :
      Encodes (printFixed precision x) (printFixed precision x) := .plain (hfixed precision x)
  simp only [resultTexts, rowFields, List.tail_cons, List.forall₂_cons,
    List.forall₂_nil_left_iff, encodes_escape, hdecimal, hdouble, and_self]

def WriteAttempt.Whole (a : WriteAttempt Double) : Prop :=
  a.text printFixed = row printFixed a.tm a.result

instance (a : WriteAttempt Double) : Decidable (a.Whole printFixed) :=
  inferInstanceAs (Decidable (a.text printFixed = row printFixed a.tm a.result))

/-- The record was not cut inside or directly behind a quoted field. -/
def WriteAttempt.CutOutsideQuotes (a : WriteAttempt Double) : Prop :=
  a.Whole printFixed ∨
    CutOff (runTimestamp a.tm :: resultTexts printFixed a.result) (a.text printFixed)

/-- The results of the calls whose record is whole, as that of every uninterrupted call is, and does
not directly follow a part of another one. -/
def ownRecords (behindCut : Bool) :
    List (WriteAttempt Double) → List (Tm × BenchmarkResult Double)
  | [] => []
  | a :: attempts =>
    if a.Whole printFixed then
      (if behindCut then [] else [(a.tm, a.result)]) ++ ownRecords false attempts
    else ownRecords (behindCut || a.text printFixed ≠ []) attempts

def Recovers (rows : List (Tm × BenchmarkResult Double)) (file : Option CppString) : Prop :=
  ∃ text records, file = some text ∧ Rfc4180.read text = some (columns :: records) ∧
    (rows.map fun r => rowFields printFixed r.1 r.2).Sublist records

/-- No field is open, and where no part of a record precedes the reader stands at a line's start. -/
structure Between (behindCut : Bool) (s : Reader) : Prop where
  unquoted : s.Unquoted
  lineStart : behindCut = false → s.record = [] ∧ s.field = []

theorem feed_whole (hfixed : ∀ precision x, ∀ b ∈ printFixed precision x, Plain b)
    {behindCut : Bool} {s : Reader} (hs : Between behindCut s) (tm : Tm)
    (result : BenchmarkResult Double) :
    ∃ s' record, (row printFixed tm result).foldlM Reader.step s = some s' ∧ Between false s' ∧
      s'.records = s.records ++ [record] ∧
      (behindCut = false → record = rowFields printFixed tm result) := by
  have hfeed := Reader.feed_record_unquoted hs.unquoted (plain_runTimestamp tm)
    (by simp [resultTexts]) (encodes_resultTexts printFixed hfixed tm result)
  rw [← row_eq] at hfeed
  refine ⟨_, _, hfeed, ⟨.inl rfl, fun _ => ⟨rfl, rfl⟩⟩, rfl, ?_⟩
  intro hline
  obtain ⟨hrecord, hfield⟩ := hs.lineStart hline
  simp only [hrecord, hfield, rowFields, List.nil_append, List.tail_cons, List.singleton_append]

theorem feed_cut (hfixed : ∀ precision x, ∀ b ∈ printFixed precision x, Plain b)
    {behindCut : Bool} {s : Reader} (hs : Between behindCut s) (a : WriteAttempt Double)
    (hcut : CutOff (runTimestamp a.tm :: resultTexts printFixed a.result) (a.text printFixed)) :
    ∃ s', (a.text printFixed).foldlM Reader.step s = some s' ∧
      Between (behindCut || a.text printFixed ≠ []) s' ∧ s'.records = s.records := by
  obtain ⟨s', hfeed, hunquoted, hrecords⟩ := Reader.feed_cutOff_unquoted hs.unquoted
    (plain_runTimestamp a.tm) (encodes_resultTexts printFixed hfixed a.tm a.result) hcut
  refine ⟨s', hfeed, ⟨hunquoted, fun hline => ?_⟩, hrecords⟩
  obtain ⟨hbefore, hnothing⟩ := Bool.or_eq_false_iff.1 hline
  -- nothing was written, and the reader stands where it stood
  have hempty : a.text printFixed = [] := not_not.1 (decide_eq_false_iff_not.1 hnothing)
  rw [hempty] at hfeed
  cases hfeed
  exact hs.lineStart hbefore

theorem feed_attempts (hfixed : ∀ precision x, ∀ b ∈ printFixed precision x, Plain b)
    {attempts : List (WriteAttempt Double)}
    (hcuts : ∀ a ∈ attempts, a.CutOutsideQuotes printFixed) {behindCut : Bool} {s : Reader}
    (hs : Between behindCut s) :
    ∃ s' added, (attempts.flatMap fun a => a.text printFixed).foldlM Reader.step s = some s' ∧
      s'.Unquoted ∧ s'.records = s.records ++ added ∧
      ((ownRecords printFixed behindCut attempts).map fun r =>
        rowFields printFixed r.1 r.2).Sublist added := by
  induction attempts generalizing s behindCut with
  | nil => exact ⟨s, [], rfl, hs.unquoted, s.records.append_nil.symm, .slnil⟩
  | cons a attempts ih =>
    have hrest : ∀ b ∈ attempts, b.CutOutsideQuotes printFixed := fun b hb =>
      hcuts b (List.mem_cons_of_mem a hb)
    rw [List.flatMap_cons, List.foldlM_append, ownRecords]
    by_cases hwhole : a.Whole printFixed
    · obtain ⟨s₁, record, hfeed, hbetween, hrecords, hown⟩ :=
        feed_whole printFixed hfixed hs a.tm a.result
      obtain ⟨s₂, added, hfeed', hunquoted, hrecords', hsub⟩ := ih hrest hbetween
      refine ⟨s₂, record :: added, ?_, hunquoted, ?_, ?_⟩
      · rw [hwhole, hfeed, Option.bind_eq_bind, Option.bind_some, hfeed']
      · rw [hrecords', hrecords, List.append_assoc, List.singleton_append]
      · rw [if_pos hwhole]
        cases behindCut with
        | true => exact hsub.cons record
        | false =>
          rw [hown rfl]
          exact hsub.cons_cons _
    · have hcut := (hcuts a List.mem_cons_self).resolve_left hwhole
      obtain ⟨s₁, hfeed, hbetween, hrecords⟩ := feed_cut printFixed hfixed hs a hcut
      obtain ⟨s₂, added, hfeed', hunquoted, hrecords', hsub⟩ := ih hrest hbetween
      refine ⟨s₂, added, ?_, hunquoted, hrecords'.trans (by rw [hrecords]), ?_⟩
      · rw [hfeed, Option.bind_eq_bind, Option.bind_some, hfeed']
      · rw [if_neg hwhole]
        exact hsub

/-- The file that any number of sessions leave behind, where the first one has written the whole
header and no record was cut in quotes. -/
theorem sessionsUpTo_recovered (hfixed : ∀ precision x, ∀ b ∈ printFixed precision x, Plain b)
    (first : CsvSession Double) (later : List (CsvSession Double))
    (hheader : upTo first.headerCut header = header)
    (hcuts : ∀ a ∈ (first :: later).flatMap CsvSession.attempts, a.CutOutsideQuotes printFixed) :
    Recovers printFixed
      (ownRecords printFixed false ((first :: later).flatMap CsvSession.attempts))
      (sessionsUpTo printFixed none (first :: later)) := by
  have hstart := Reader.feed_record (s := .init) rfl rfl rfl encodesRecord_header
  obtain ⟨s, added, hfeed, hunquoted, hrecords, hsub⟩ := feed_attempts printFixed hfixed hcuts
    (⟨.inl rfl, fun _ => ⟨rfl, rfl⟩⟩ : Between false { Reader.init with records := [columns] })
  obtain ⟨last, hfinish⟩ := Reader.finish_unquoted hunquoted
  refine ⟨_, added ++ last, sessionsUpTo_none printFixed first later, ?_, ?_⟩
  · rw [Rfc4180.read, hheader, List.foldlM_append, hstart, Option.bind_eq_bind, Option.bind_some]
    rw [hrecords] at hfinish
    exact (congrArg (Option.bind · Reader.finish) hfeed).trans hfinish
  · exact hsub.trans (List.sublist_append_left added last)

def morning : Tm := ⟨126, 2, 15, 10, 30, 0⟩

def cutLater : List (CsvSession ℚ) :=
  [⟨none, [⟨morning, .init, some 10⟩]⟩, .uncut [.writeAll [(morning, .init), (morning, awkward)]]]

theorem sessionsUpTo_recovered_cutLater :
    Recovers printZero
      (ownRecords printZero false ((.uncut [.write morning awkward] :: cutLater).flatMap
        CsvSession.attempts))
      (sessionsUpTo printZero none (.uncut [.write morning awkward] :: cutLater)) := by
  apply sessionsUpTo_recovered printZero plain_printZero _ cutLater rfl
  have htimestamp : (row printZero morning .init).take 10 <+: runTimestamp morning := by
    decide +kernel
  have hcut : WriteAttempt.CutOutsideQuotes printZero ⟨morning, .init, some 10⟩ :=
    .inr (.here htimestamp fun b hb => plain_runTimestamp morning b (htimestamp.subset hb))
  exact List.forall_mem_cons.2 ⟨.inl rfl, List.forall_mem_cons.2 ⟨hcut, List.forall_mem_cons.2
    ⟨.inl rfl, List.forall_mem_singleton.2 (.inl rfl)⟩⟩⟩

def uninterrupted (history : List (CsvSession Double)) : List (Tm × BenchmarkResult Double) :=
  ((history.flatMap CsvSession.attempts).filter fun a => a.cut = none).map fun a => (a.tm, a.result)

theorem recovers_iff_any (rows : List (Tm × BenchmarkResult Double)) (file : Option CppString) :
    Recovers printFixed rows file ↔ (file.bind Rfc4180.read).any fun found =>
      found.head? = some columns ∧
        (rows.map fun r => rowFields printFixed r.1 r.2).Sublist found.tail := by
  constructor
  · rintro ⟨text, records, rfl, hread, hsub⟩
    rw [Option.bind_some, hread]
    exact decide_eq_true ⟨rfl, hsub⟩
  · intro hany
    obtain ⟨found, hread, hfound⟩ := (Option.any_eq_true _ _).1 hany
    obtain ⟨text, hfile, hread⟩ := Option.bind_eq_some_iff.1 hread
    obtain ⟨hhead, hsub⟩ := of_decide_eq_true hfound
    obtain ⟨records, rfl⟩ := List.head?_eq_some_iff.1 hhead
    exact ⟨text, records, hfile, hread, hsub⟩

instance (rows : List (Tm × BenchmarkResult Double)) (file : Option CppString) :
    Decidable (Recovers printFixed rows file) :=
  decidable_of_iff' _ (recovers_iff_any printFixed rows file)

def cutHeader : List (CsvSession ℚ) := [⟨some 13, []⟩, .uncut [.write morning .init]]

def cutInTimestamp : List (CsvSession ℚ) :=
  [⟨none, [⟨morning, .init, some 10⟩]⟩, .uncut [.write morning .init]]

/-- The cut is behind the `"a` of the first quoted field. -/
def cutInQuotes : List (CsvSession ℚ) :=
  [⟨none, [⟨morning, awkward, some 23⟩]⟩,
    .uncut [.writeAll [(morning, .init), (morning, .init), (morning, .init)]]]

theorem not_recovers_cut :
    ¬ Recovers printZero (uninterrupted cutHeader) (sessionsUpTo printZero none cutHeader) ∧
    ¬ Recovers printZero (uninterrupted cutInTimestamp)
      (sessionsUpTo printZero none cutInTimestamp) ∧
    ¬ Recovers printZero (uninterrupted cutInQuotes) (sessionsUpTo printZero none cutInQuotes) := by
  decide +kernel

end DbBenchmark
