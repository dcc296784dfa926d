import DbBenchmark.Calendar
import DbBenchmark.DecimalNumbers

namespace DbBenchmark
open Calendar MixedRadix
set_option autoImplicit true

def Tm.ofUtc (utc : DateTime) : Tm where
  year := utc.date.year - 1900
  mon := utc.date.month
  mday := utc.date.day + 1
  hour := utc.hour
  min := utc.minute
  sec := utc.second

def gmtime (t : Int) : Tm := .ofUtc (.ofSecond t)

/-- A text that does not fit with its NUL leaves the content of the array indeterminate. -/
def strftime (maxsize : Nat) (text : CppString) : Option CppString :=
  if text.length < maxsize then some text else none

namespace DataGenerator

/-- `"%Y-%m-%dT%H:%M:%SZ"` -/
def isoFormat (tm : Tm) : CppString :=
  tm.fullYear ++ lit "-" ++ twoDigits (tm.mon + 1) ++ lit "-" ++ twoDigits tm.mday ++
    lit "T" ++ twoDigits tm.hour ++ lit ":" ++ twoDigits tm.min ++ lit ":" ++
    twoDigits tm.sec ++ lit "Z"

def epochToIso (epoch : Int) : Option CppString := strftime 25 (isoFormat (gmtime epoch))

end DataGenerator

def FourDigitYear (utc : DateTime) : Prop := 1000 ≤ utc.date.year ∧ utc.date.year ≤ 9999

instance (utc : DateTime) : Decidable (FourDigitYear utc) := inferInstanceAs (Decidable (_ ∧ _))

theorem twoDigits_eq_digits (hn : n < 100) : twoDigits n = digits decimalDigit 10 2 n := by
  rw [twoDigits]
  split
  · rename_i hlt
    rw [← leftpad_numeral (by decide) hn, decimal_eq_numeral, numeral_of_lt_base hlt]
    rfl
  · rename_i hge
    exact decimal_eq_digits (by omega) hn

theorem fullYear_ofUtc (ha : FourDigitYear a) :
    (Tm.ofUtc a).fullYear = digits decimalDigit 10 4 a.date.year.toNat := by
  obtain ⟨hlow, hhigh⟩ := ha
  have hyear : (Tm.ofUtc a).year + 1900 = a.date.year := sub_add_cancel _ _
  obtain ⟨year, hyear'⟩ := Int.eq_ofNat_of_zero_le (le_trans (by decide) hlow)
  rw [hyear'] at hlow hhigh
  rw [Tm.fullYear, hyear, hyear', if_neg (by omega), List.nil_append]
  exact decimal_eq_digits (by omega) (by omega)

/-- Both timestamp formats of the program, which differ in what they print for the minutes. -/
def stampText (tm : Tm) (minutes : Nat) : CppString :=
  tm.fullYear ++ lit "-" ++ twoDigits (tm.mon + 1) ++ lit "-" ++ twoDigits tm.mday ++
    lit "T" ++ twoDigits tm.hour ++ lit ":" ++ twoDigits minutes ++ lit ":" ++
    twoDigits tm.sec ++ lit "Z"

theorem isoFormat_eq (tm : Tm) : DataGenerator.isoFormat tm = stampText tm tm.min := rfl

theorem runTimestamp_eq (tm : Tm) : CSVWriter.runTimestamp tm = stampText tm (tm.mon + 1) := rfl

def numberThen (width n : Nat) (between rest : CppString) : CppString :=
  digits decimalDigit 10 width n ++ (between ++ rest)

theorem numberThen_lt_iff (hn : n < 10 ^ width) (hm : m < 10 ^ width) :
    numberThen width n between rest < numberThen width m between rest' ↔
      n < m ∨ n = m ∧ rest < rest' := by
  have hdigits := digits_lt_iff decimalDigit_lt hn hm
  have hinj : digits decimalDigit 10 width n = digits decimalDigit 10 width m ↔ n = m :=
    ⟨digits_inj (by decide) hn hm, congrArg _⟩
  have hrest : between ++ rest < between ++ rest' ↔ rest < rest' := by
    rw [append_lt_append_iff rfl]
    simp
  rw [numberThen, numberThen, append_lt_append_iff (by simp), hdigits, hinj, hrest]

theorem numberThen_twoDigits (hn : n < 100) (between rest : CppString) :
    twoDigits n ++ (between ++ rest) = numberThen 2 n between rest := by
  rw [numberThen, twoDigits_eq_digits hn]

theorem monthLength_le (year : ℤ) (month : ℕ) : monthLength year month ≤ 31 := by
  unfold monthLength
  split
  · split <;> decide
  all_goals decide

theorem stampText_ofUtc (ha : FourDigitYear a) (hminutes : minutes < 100) :
    stampText (.ofUtc a) minutes =
      numberThen 4 a.date.year.toNat (lit "-") (numberThen 2 (a.date.month + 1) (lit "-")
        (numberThen 2 (a.date.day + 1) (lit "T") (numberThen 2 a.hour (lit ":")
          (numberThen 2 minutes (lit ":") (numberThen 2 a.second (lit "Z") []))))) := by
  have hmonth := a.date.month_lt
  have hday := a.date.day_lt
  have hlength := monthLength_le a.date.year a.date.month
  have hhour := a.hour_lt
  have hsecond := a.second_lt
  rw [← numberThen_twoDigits (by omega), ← numberThen_twoDigits hminutes,
    ← numberThen_twoDigits (by omega), ← numberThen_twoDigits (by omega),
    ← numberThen_twoDigits (by omega), numberThen, ← fullYear_ofUtc ha]
  simp only [stampText, Tm.ofUtc, List.append_assoc, List.append_nil]

theorem stampText_lt_iff (ha : FourDigitYear a) (hb : FourDigitYear b) (hx : x < 100)
    (hy : y < 100) : stampText (.ofUtc a) x < stampText (.ofUtc b) y ↔
      a.date < b.date ∨ a.date = b.date ∧
        (a.hour < b.hour ∨ a.hour = b.hour ∧ (x < y ∨ x = y ∧ a.second < b.second)) := by
  have hmonth := a.date.month_lt
  have hday := a.date.day_lt
  have hlength := monthLength_le a.date.year a.date.month
  have hhour := a.hour_lt
  have hsecond := a.second_lt
  have hmonth' := b.date.month_lt
  have hday' := b.date.day_lt
  have hlength' := monthLength_le b.date.year b.date.month
  have hhour' := b.hour_lt
  have hsecond' := b.second_lt
  obtain ⟨hyear, hyear'⟩ := ha
  obtain ⟨hyearb, hyearb'⟩ := hb
  change _ ↔ (a.date.year < b.date.year ∨ a.date.year = b.date.year ∧ (a.date.month < b.date.month ∨
    a.date.month = b.date.month ∧ a.date.day < b.date.day)) ∨ _
  rw [stampText_ofUtc ⟨hyear, hyear'⟩ hx, stampText_ofUtc ⟨hyearb, hyearb'⟩ hy,
    numberThen_lt_iff (by omega) (by omega), numberThen_lt_iff (by omega) (by omega),
    numberThen_lt_iff (by omega) (by omega), numberThen_lt_iff (by omega) (by omega),
    numberThen_lt_iff hx hy, numberThen_lt_iff (by omega) (by omega), Date.ext_iff]
  simp only [List.not_lt_nil, and_false, or_false]
  omega

theorem length_stampText (ha : FourDigitYear a) (hx : x < 100) :
    (stampText (.ofUtc a) x).length = 20 := by
  rw [stampText_ofUtc ha hx]
  simp only [numberThen, List.length_append, length_digits]
  rfl

theorem isoFormat_lt_iff (hs : FourDigitYear (.ofSecond s)) (ht : FourDigitYear (.ofSecond t)) :
    DataGenerator.isoFormat (gmtime s) < DataGenerator.isoFormat (gmtime t) ↔ s < t := by
  have hx : (DateTime.ofSecond s).minute < 100 := (DateTime.ofSecond s).minute_lt.trans (by decide)
  have hy : (DateTime.ofSecond t).minute < 100 := (DateTime.ofSecond t).minute_lt.trans (by decide)
  rw [← DateTime.ofSecond_lt_ofSecond]
  exact stampText_lt_iff hs ht hx hy

theorem length_isoFormat (ht : FourDigitYear (.ofSecond t)) :
    (DataGenerator.isoFormat (gmtime t)).length = 20 :=
  length_stampText ht ((DateTime.ofSecond t).minute_lt.trans (by decide))

/-- The buffer of 25 characters holds the text. -/
theorem epochToIso_eq (ht : FourDigitYear (.ofSecond t)) :
    DataGenerator.epochToIso t = some (DataGenerator.isoFormat (gmtime t)) := by
  rw [DataGenerator.epochToIso, strftime, length_isoFormat ht, if_pos (by decide)]

end DbBenchmark
