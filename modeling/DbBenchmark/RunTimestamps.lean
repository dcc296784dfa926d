import DbBenchmark.Timestamps

namespace DbBenchmark
open Calendar CSVWriter DataGenerator
set_option autoImplicit true

theorem ofSecond_hours (t : Int) :
    t / 3600 = 24 * (DateTime.ofSecond t).date.toDay + (DateTime.ofSecond t).hour := by
  have ht := DateTime.toSecond_ofSecond t
  have hminute := (DateTime.ofSecond t).minute_lt
  have hsecond := (DateTime.ofSecond t).second_lt
  rw [DateTime.toSecond] at ht
  omega

theorem ofSecond_seconds (t : Int) : t % 60 = (DateTime.ofSecond t).second := by
  have ht := DateTime.toSecond_ofSecond t
  have hsecond := (DateTime.ofSecond t).second_lt
  rw [DateTime.toSecond] at ht
  omega

/-- The column prints the month for the minutes: inside one hour only the seconds tell. -/
theorem runTimestamp_lt_iff (hs : FourDigitYear (.ofSecond s)) (ht : FourDigitYear (.ofSecond t))
    (hst : s < t) : runTimestamp (gmtime s) < runTimestamp (gmtime t) ↔
      s / 3600 ≠ t / 3600 ∨ s % 60 < t % 60 := by
  have hmonth := (DateTime.ofSecond s).date.month_lt
  have hmonth' := (DateTime.ofSecond t).date.month_lt
  have hhour := (DateTime.ofSecond s).hour_lt
  have hhour' := (DateTime.ofSecond t).hour_lt
  have hle : s / 3600 ≤ t / 3600 := Int.ediv_le_ediv (by decide) hst.le
  have hsame : (DateTime.ofSecond s).date = (DateTime.ofSecond t).date →
      (DateTime.ofSecond s).date.month = (DateTime.ofSecond t).date.month := congrArg _
  rw [ofSecond_hours s, ofSecond_hours t] at hle ⊢
  rw [ofSecond_seconds s, ofSecond_seconds t]
  rw [← Date.toDay_inj] at hsame
  refine (stampText_lt_iff hs ht ?_ ?_).trans ?_
  · change (DateTime.ofSecond s).date.month + 1 < 100
    omega
  · change (DateTime.ofSecond t).date.month + 1 < 100
    omega
  · change _ ∨ _ ∧ (_ ∨ _ ∧ ((DateTime.ofSecond s).date.month + 1 <
      (DateTime.ofSecond t).date.month + 1 ∨ (DateTime.ofSecond s).date.month + 1 =
      (DateTime.ofSecond t).date.month + 1 ∧ _)) ↔ _
    rw [← Date.toDay_lt_toDay, ← Date.toDay_inj]
    omega

theorem stampText_inj (ha : FourDigitYear a) (hx : x < 100) (hy : y < 100) :
    stampText (.ofUtc a) x = stampText (.ofUtc a) y ↔ x = y := by
  refine ⟨fun h => ?_, congrArg _⟩
  have hxy := stampText_lt_iff ha ha hx hy
  have hyx := stampText_lt_iff ha ha hy hx
  rw [h] at hxy hyx
  rcases lt_trichotomy x y with hlt | he | hgt
  · exact (List.lt_irrefl _ (hxy.2 (.inr ⟨rfl, .inr ⟨rfl, .inl hlt⟩⟩))).elim
  · exact he
  · exact (List.lt_irrefl _ (hyx.2 (.inr ⟨rfl, .inr ⟨rfl, .inl hgt⟩⟩))).elim

theorem runTimestamp_iso_iff (ht : FourDigitYear (.ofSecond t)) :
    epochToIso t = some (runTimestamp (gmtime t)) ↔ (gmtime t).min = (gmtime t).mon + 1 := by
  have hminute := (DateTime.ofSecond t).minute_lt
  have hmonth := (DateTime.ofSecond t).date.month_lt
  have hx : (gmtime t).min < 100 := hminute.trans (by decide)
  have hy : (gmtime t).mon + 1 < 100 := (Nat.succ_lt_succ hmonth).trans (by decide)
  rw [epochToIso_eq ht, Option.some.injEq, isoFormat_eq, runTimestamp_eq]
  exact stampText_inj ht hx hy

/-- In the order of the instants, and the text that `epoch_to_iso` gives. -/
def RunTimestampsFaithful (s t : Int) : Prop :=
  runTimestamp (gmtime s) < runTimestamp (gmtime t) ∧
    epochToIso s = some (runTimestamp (gmtime s)) ∧ epochToIso t = some (runTimestamp (gmtime t))

/-- Two instants are kept apart and in order when they lie in different hours or the later one has
more seconds; the text is the ISO text when the minutes happen to be the number of the month. -/
theorem runTimestamps_faithful_iff (hs : FourDigitYear (.ofSecond s))
    (ht : FourDigitYear (.ofSecond t)) (hst : s < t) :
    (runTimestamp (gmtime s) < runTimestamp (gmtime t) ↔ s / 3600 ≠ t / 3600 ∨ s % 60 < t % 60) ∧
    (epochToIso t = some (runTimestamp (gmtime t)) ↔ (gmtime t).min = (gmtime t).mon + 1) ∧
    (RunTimestampsFaithful s t ↔
      (gmtime s).min = (gmtime s).mon + 1 ∧ (gmtime t).min = (gmtime t).mon + 1) := by
  refine ⟨runTimestamp_lt_iff hs ht hst, runTimestamp_iso_iff ht, ?_⟩
  rw [RunTimestampsFaithful, runTimestamp_iso_iff hs, runTimestamp_iso_iff ht, and_iff_right_iff_imp]
  -- texts that are the ISO texts are in order because those are
  intro hmonths
  have hiso := (runTimestamp_iso_iff hs).2 hmonths.1
  have hiso' := (runTimestamp_iso_iff ht).2 hmonths.2
  rw [epochToIso_eq hs, Option.some.injEq] at hiso
  rw [epochToIso_eq ht, Option.some.injEq] at hiso'
  rw [← hiso, ← hiso', isoFormat_lt_iff hs ht]
  exact hst

/-- 2026-03-15, at 10:03:00 and an hour later. -/
theorem runTimestamps_faithful_iff_march : RunTimestampsFaithful 1773568980 1773572580 :=
  (runTimestamps_faithful_iff (by decide +kernel) (by decide +kernel) (by decide)).2.2.2
    (by decide +kernel)

/-- 2026-03-15, at 10:30:00 and a minute later. -/
theorem not_runTimestampsFaithful_oneMinute :
    FourDigitYear (.ofSecond 1773570600) ∧ FourDigitYear (.ofSecond 1773570660) ∧
      ¬ runTimestamp (gmtime 1773570600) < runTimestamp (gmtime 1773570660) ∧
      epochToIso 1773570600 ≠ some (runTimestamp (gmtime 1773570600)) ∧
      ¬ RunTimestampsFaithful 1773570600 1773570660 := by
  have horder : ¬ runTimestamp (gmtime 1773570600) < runTimestamp (gmtime 1773570660) := by
    decide +kernel
  exact ⟨by decide +kernel, by decide +kernel, horder, by decide +kernel, fun h => horder h.1⟩

end DbBenchmark
