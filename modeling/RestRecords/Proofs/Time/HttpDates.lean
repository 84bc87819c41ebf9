import RestRecords.Proofs.Text.Numerals
import RestRecords.Time.HttpDate
/-!
# How late dates in headers are

The years of dates in headers have at most four digits, so their seconds have at most twelve.
-/

namespace RestRecords.HttpDate

open Text

theorem lt_of_field? {cs : List Char} {n : Nat} (h : field? cs = some n) :
    n < Nat.pow 10 cs.length := by
  unfold field? readDigits? at h
  split at h
  · cases h
  · rename_i hdigits
    rw [Bool.or_eq_true, not_or, Bool.not_eq_true', Bool.not_eq_false] at hdigits
    cases h
    exact digitsValue_lt (List.all_eq_true.1 hdigits.2)

theorem daysInMonth_le (year : Int) (month : Nat) : CalendarDate.daysInMonth year month ≤ 31 := by
  unfold CalendarDate.daysInMonth
  split
  · split <;> decide
  · split <;> decide

theorem dayNumber_lt {d : CalendarDate} (hvalid : d.isValid = true) (hyear : d.year < 10000) :
    d.dayNumber < 3000000 := by
  simp only [CalendarDate.isValid, Bool.and_eq_true, decide_eq_true_eq] at hvalid
  obtain ⟨⟨⟨-, hmonth⟩, -⟩, hday⟩ := hvalid
  have hdays : d.day ≤ 31 := Nat.le_trans hday (daysInMonth_le _ _)
  unfold CalendarDate.dayNumber
  dsimp only
  split <;> omega

theorem lt_of_seconds? {weekday day month year hour minute second n : Nat}
    (hyear : year < Nat.pow 10 4)
    (h : seconds? weekday day month year hour minute second = some n) : n < Nat.pow 10 12 := by
  have hfour : Nat.pow 10 4 = 10000 := by decide
  rw [hfour] at hyear
  unfold seconds? at h
  dsimp only at h
  split at h
  · rename_i hrange
    simp only [Bool.and_eq_true, decide_eq_true_eq, beq_iff_eq] at hrange
    obtain ⟨⟨⟨⟨⟨hvalid, -⟩, -⟩, hhour⟩, hminute⟩, hsecond⟩ := hrange
    have hdays : CalendarDate.dayNumber ⟨year, month, day⟩ < 3000000 :=
      dayNumber_lt hvalid (Int.ofNat_lt.2 hyear)
    cases h
    show _ < 1000000000000
    omega
  · cases h

theorem lt_of_fixed? {cs : List Char} {n : Nat} (h : fixed? cs = some n) : n < Nat.pow 10 12 := by
  unfold fixed? at h
  split at h
  · simp only [bind, Option.bind_eq_some_iff] at h
    obtain ⟨weekday, -, month, -, clock, -, h⟩ := h
    split at h
    · cases h
    · simp only [Option.bind_eq_some_iff] at h
      obtain ⟨day, -, year, hyear, h⟩ := h
      exact lt_of_seconds? (lt_of_field? hyear) h
  · cases h

theorem lt_of_twoDigitYear? {cs : List Char} {n : Nat} (h : twoDigitYear? cs = some n) :
    n < Nat.pow 10 12 := by
  unfold twoDigitYear? at h
  simp only [bind, Option.bind_eq_some_iff] at h
  obtain ⟨weekday, -, h⟩ := h
  split at h
  · simp only [Option.bind_eq_some_iff] at h
    obtain ⟨month, -, short, hshort, clock, -, h⟩ := h
    have hlt : short < Nat.pow 10 2 := lt_of_field? hshort
    have htwo : Nat.pow 10 2 = 100 := by decide
    have hfour : Nat.pow 10 4 = 10000 := by decide
    have hyear : (if short < 70 then 2000 + short else 1900 + short) < Nat.pow 10 4 := by
      split <;> omega
    split at h
    · cases h
    · simp only [Option.bind_eq_some_iff] at h
      obtain ⟨day, -, h⟩ := h
      exact lt_of_seconds? hyear h
  · cases h

theorem lt_of_yearLast? {cs : List Char} {n : Nat} (h : yearLast? cs = some n) :
    n < Nat.pow 10 12 := by
  unfold yearLast? at h
  split at h
  · simp only [bind, Option.bind_eq_some_iff] at h
    obtain ⟨weekday, -, month, -, clock, -, day, -, h⟩ := h
    split at h
    · simp only [Option.bind_eq_some_iff] at h
      obtain ⟨year, hyear, h⟩ := h
      exact lt_of_seconds? (lt_of_field? hyear) h
    · cases h
  · cases h

/-- A date in a header has at most twelve digits as a number of seconds. -/
theorem lt_of_read? {s : String} {n : Nat} (h : read? s = some n) : n < Nat.pow 10 12 := by
  simp only [read?, Option.or_eq_some_iff] at h
  rcases h with (h | ⟨-, h⟩) | ⟨-, h⟩
  · exact lt_of_fixed? h
  · exact lt_of_twoDigitYear? h
  · exact lt_of_yearLast? h

end RestRecords.HttpDate
