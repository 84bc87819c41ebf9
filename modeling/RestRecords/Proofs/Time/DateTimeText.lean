import Mathlib.Data.List.TakeWhile
import Mathlib.Tactic.SplitIfs
import RestRecords.Proofs.Text.Numerals
import RestRecords.Time.DateTimeReader
/-!
# Date-times read back

A date-time that has been read has all its fields in range, and its text reads back as the same
date-time as long as its local year has four digits and no sign.
-/

namespace RestRecords

namespace Text

theorem not_isBlank_of_isDigit {c : Char} (h : isDigit c) : isBlank c = false := by
  have hrange : 48 ≤ c.toNat ∧ c.toNat ≤ 57 := by
    simpa [isDigit, Char.le_def, UInt32.le_iff_toNat_le] using h
  simp only [isBlank, Bool.or_eq_false_iff, Bool.and_eq_false_iff, decide_eq_false_iff_not,
    beq_eq_false_iff_ne]
  omega

/-- Nothing is stripped from a text that neither begins nor ends with such a character. -/
theorem strip_eq_self {p : Char → Bool} {cs : List Char} (hfirst : ∀ c ∈ cs.head?, ¬p c)
    (hlast : ∀ c ∈ cs.reverse.head?, ¬p c) : strip p cs = cs := by
  have hkeep : ∀ l : List Char, (∀ c ∈ l.head?, ¬p c) → l.dropWhile p = l := by
    intro l hl
    cases l with
    | nil => rfl
    | cons c l => simp [hl c (by simp)]
  rw [strip, hkeep cs hfirst, hkeep _ hlast, List.reverse_reverse]

theorem trim_eq_self_of_digits {ds mid es : List Char} (hds : ∀ c ∈ ds, isDigit c)
    (hes : ∀ c ∈ es, isDigit c) (hdsne : ds ≠ []) (hesne : es ≠ []) :
    trim (ds ++ (mid ++ es)) = ds ++ (mid ++ es) := by
  apply strip_eq_self
  · obtain ⟨d, ds, rfl⟩ := List.exists_cons_of_ne_nil hdsne
    intro c hc
    cases hc
    simp [not_isBlank_of_isDigit (hds d (by simp))]
  · intro c hc
    rw [← List.append_assoc, List.head?_reverse, List.getLast?_append,
      List.getLast?_eq_some_getLast hesne] at hc
    cases hc
    simp [not_isBlank_of_isDigit (hes _ (List.getLast_mem hesne))]

end Text

open Text

namespace DateTime

structure InRange (t : DateTime) : Prop where
  date : t.date.isValid = true
  year : minYear ≤ t.date.year ∧ t.date.year ≤ maxYear
  hour : t.hour ≤ 23
  minute : t.minute ≤ 59
  second : t.second ≤ 59
  nanos : t.nanos < 2 * secondNanos
  leap : secondNanos ≤ t.nanos → t.second = 59
  offset : t.offset.natAbs < 86400
  minutes : t.offset % 60 = 0

theorem number?_append {ds : List Char} (rest : List Char) (hds : ∀ c ∈ ds, isDigit c) :
    number? ds.length ds.length (ds ++ rest) = some (digitsValue ds, rest) := by
  have htake : ((ds ++ rest).take ds.length).takeWhile isDigit = ds := by
    rw [List.take_left, List.takeWhile_eq_self_iff]
    exact hds
  simp only [number?, htake, Nat.lt_irrefl, if_false, List.drop_left]

theorem number?_paddedDigits {width n : Nat} (rest : List Char) (hwidth : 0 < width)
    (h : n < Nat.pow 10 width) :
    number? width width (paddedDigits width n ++ rest) = some (n, rest) := by
  have hlength := length_paddedDigits hwidth h
  have hread := number?_append rest fun c (hc : c ∈ paddedDigits width n) =>
    isDigit_of_mem_paddedDigits hc
  rwa [hlength, digitsValue_paddedDigits] at hread

@[simp] theorem after?_cons (c : Char) (rest : List Char) : after? c (c :: rest) = some rest := by
  simp [after?]

/-- The fraction of a second, in as many digits as it has, is worth its nanoseconds. -/
theorem fraction?_paddedDigits {width n : Nat} {rest : List Char} (hpos : 0 < width)
    (hwidth : width ≤ 9) (h : n < Nat.pow 10 width) (hrest : ∀ c ∈ rest.head?, ¬isDigit c) :
    fraction? (paddedDigits width n ++ rest) = some (n * Nat.pow 10 (9 - width), rest) := by
  have hlength := length_paddedDigits hpos h
  have hspan : spanDigits (paddedDigits width n ++ rest) = (paddedDigits width n, rest) :=
    spanDigits_append_of_all (fun c hc => isDigit_of_mem_paddedDigits hc) hrest
  have hne : (paddedDigits width n).isEmpty = false := by
    cases hds : paddedDigits width n with
    | nil => rw [hds] at hlength; simp at hlength; omega
    | cons c cs => rfl
  have htake : (paddedDigits width n).take 9 = paddedDigits width n :=
    List.take_of_length_le (by omega)
  simp only [fraction?, hspan, hne, htake, hlength, digitsValue_paddedDigits, Bool.false_eq_true,
    if_false]

theorem offsetDigits_eq_cons (offset : Int) :
    ∃ sign rest, offsetDigits offset = sign :: rest ∧ (sign = '-' ∨ sign = '+') := by
  by_cases h : offset < 0
  · exact ⟨'-', _, by rw [offsetDigits, if_pos h, List.cons_append], .inl rfl⟩
  · exact ⟨'+', _, by rw [offsetDigits, if_neg h, List.cons_append], .inr rfl⟩

theorem nanos?_fractionDigits {nanos : Nat} (h : nanos < secondNanos) (offset : Int) :
    nanos? (fractionDigits nanos ++ offsetDigits offset) = some (nanos, offsetDigits offset) := by
  obtain ⟨sign, rest, hrest, hsign⟩ := offsetDigits_eq_cons offset
  have hdigit : ∀ c ∈ (offsetDigits offset).head?, ¬isDigit c := by
    intro c hc
    rw [hrest] at hc
    cases hc
    rcases hsign with rfl | rfl <;> decide
  have hscaled {width n : Nat} (hpos : 0 < width) (hwidth : width ≤ 9)
      (hn : n < Nat.pow 10 width) :
      nanos? ('.' :: paddedDigits width n ++ offsetDigits offset) =
        some (n * Nat.pow 10 (9 - width), offsetDigits offset) :=
    fraction?_paddedDigits hpos hwidth hn hdigit
  have h3 : Nat.pow 10 3 = 1000 := rfl
  have h6 : Nat.pow 10 6 = 1000000 := rfl
  have h9 : Nat.pow 10 9 = secondNanos := rfl
  have hsize : secondNanos = 1000000000 := rfl
  unfold fractionDigits
  split_ifs with hzero hmillis hmicros
  · rw [hrest, hzero]
    rcases hsign with rfl | rfl <;> rfl
  · rw [hscaled (by decide) (by decide) (by omega)]
    exact congrArg (fun n => some (n, _)) (Nat.div_mul_cancel (Nat.dvd_of_mod_eq_zero hmillis))
  · rw [hscaled (by decide) (by decide) (by omega)]
    exact congrArg (fun n => some (n, _)) (Nat.div_mul_cancel (Nat.dvd_of_mod_eq_zero hmicros))
  · rw [hscaled (by decide) (by decide) (by omega)]
    exact congrArg (fun n => some (n, _)) (Nat.mul_one nanos)

theorem offsetMinutes?_paddedDigits {n : Nat} (h : n < 1440) :
    offsetMinutes? (paddedDigits 2 (n / 60) ++ ':' :: paddedDigits 2 (n % 60)) = some (n, []) := by
  have htwo : Nat.pow 10 2 = 100 := rfl
  have hhours : number? 2 2 (paddedDigits 2 (n / 60) ++ ':' :: paddedDigits 2 (n % 60)) =
      some (n / 60, ':' :: paddedDigits 2 (n % 60)) :=
    number?_paddedDigits _ (by decide) (by omega)
  have hminutes : number? 2 2 (paddedDigits 2 (n % 60)) = some (n % 60, []) := by
    rw [← List.append_nil (paddedDigits 2 (n % 60))]
    exact number?_paddedDigits _ (by decide) (by omega)
  have hin : ¬(59 < n % 60 ∨ 23 < n / 60) := by omega
  have hsum : n / 60 * 60 + n % 60 = n := by omega
  simp only [offsetMinutes?, hhours, hminutes, after?_cons, Option.bind_eq_bind,
    Option.bind_some, if_neg hin, hsum]

/-- An offset of whole minutes is not rounded. -/
theorem offsetMinutes_mul {offset : Int} (h : offset % 60 = 0) :
    offsetMinutes offset * 60 = offset.natAbs := by
  unfold offsetMinutes
  omega

theorem offset?_offsetDigits {offset : Int} (h : offset.natAbs < 86400)
    (hminutes : offset % 60 = 0) : offset? (offsetDigits offset) = some (offset, []) := by
  have hmul := offsetMinutes_mul hminutes
  have hread := offsetMinutes?_paddedDigits (n := offsetMinutes offset) (by omega)
  by_cases hsign : offset < 0
  · have hminus (cs : List Char) : offset? ('-' :: cs) =
        (offsetMinutes? cs).bind fun read => some (-((read.1 * 60 : Nat) : Int), read.2) := rfl
    have habs : -(offset.natAbs : Int) = offset := by omega
    rw [offsetDigits, if_pos hsign, List.cons_append, hminus, hread, Option.bind_some, hmul, habs]
  · have hplus (cs : List Char) : offset? ('+' :: cs) =
        (offsetMinutes? cs).bind fun read => some (((read.1 * 60 : Nat) : Int), read.2) := rfl
    have habs : (offset.natAbs : Int) = offset := by omega
    rw [offsetDigits, if_neg hsign, List.cons_append, hplus, hread, Option.bind_some, hmul, habs]

theorem render_of_year {t : DateTime} (hyear : 0 ≤ t.date.year ∧ t.date.year ≤ 9999) :
    t.render = paddedDigits 4 t.date.year.natAbs ++ '-' :: (paddedDigits 2 t.date.month ++
      '-' :: (paddedDigits 2 t.date.day ++ 'T' :: (paddedDigits 2 t.hour ++
        ':' :: (paddedDigits 2 t.minute ++
          ':' :: (paddedDigits 2 (t.second + t.nanos / secondNanos) ++
            (fractionDigits (t.nanos % secondNanos) ++ offsetDigits t.offset)))))) := by
  have hsign : ¬t.date.year < 0 := by omega
  simp only [render, yearDigits, if_neg hsign, if_pos hyear.2, List.append_assoc,
    List.cons_append]

theorem checked?_of_inRange {t : DateTime} (h : t.InRange) :
    checked? t.date t.hour t.minute (t.second + t.nanos / secondNanos) (t.nanos % secondNanos)
      t.offset = some t := by
  have hsize : secondNanos = 1000000000 := rfl
  have hyear := h.year
  have hhour := h.hour
  have hminute := h.minute
  have hsecond := h.second
  have hnanos := h.nanos
  by_cases hleap : secondNanos ≤ t.nanos
  · have hlast := h.leap hleap
    have hwhole : t.nanos / secondNanos = 1 := by rw [hsize]; omega
    have hfraction : secondNanos + t.nanos % secondNanos = t.nanos := by rw [hsize]; omega
    rw [hlast, hwhole, checked?, if_pos (by simp [h.date, hyear, hhour, hminute]), if_pos rfl,
      hfraction, ← hlast]
  · have hwhole : t.nanos / secondNanos = 0 := by rw [hsize]; omega
    have hfraction : t.nanos % secondNanos = t.nanos := by rw [hsize]; omega
    have hshort : t.second ≠ 60 := by omega
    have hwithin : t.second ≤ 60 := by omega
    rw [hwhole, hfraction, checked?, Nat.add_zero,
      if_pos (by simp [h.date, hyear, hhour, hminute, hwithin]), if_neg hshort]

theorem readFull?_render {t : DateTime} (h : t.InRange)
    (hyear : 0 ≤ t.date.year ∧ t.date.year ≤ 9999) : readFull? t.render = some t := by
  have htwo : Nat.pow 10 2 = 100 := rfl
  have hfour : Nat.pow 10 4 = 10000 := rfl
  have hdate := h.date
  simp only [CalendarDate.isValid, Bool.and_eq_true, decide_eq_true_eq] at hdate
  have hdays : CalendarDate.daysInMonth t.date.year t.date.month ≤ 31 := by
    unfold CalendarDate.daysInMonth
    split_ifs <;> omega
  have hhour := h.hour
  have hminute := h.minute
  have hsecond := h.second
  have hnanos := h.nanos
  have hsize : secondNanos = 1000000000 := rfl
  have hread {n : Nat} (hn : n < 100) (rest : List Char) :
      number? 2 2 (paddedDigits 2 n ++ rest) = some (n, rest) :=
    number?_paddedDigits rest (by decide) hn
  have hyearRead (rest : List Char) :
      number? 4 4 (paddedDigits 4 t.date.year.natAbs ++ rest) = some (t.date.year.natAbs, rest) :=
    number?_paddedDigits rest (by decide) (by omega)
  have hnat : (t.date.year.natAbs : Int) = t.date.year := Int.natAbs_of_nonneg hyear.1
  rw [render_of_year hyear, readFull?]
  simp only [hyearRead, hread (show t.date.month < 100 by omega),
    hread (show t.date.day < 100 by omega), hread (show t.hour < 100 by omega),
    hread (show t.minute < 100 by omega),
    hread (show t.second + t.nanos / secondNanos < 100 by rw [hsize]; omega), after?_cons, afterTimeMark?,
    nanos?_fractionDigits (Nat.mod_lt t.nanos (show 0 < secondNanos by decide)),
    offset?_offsetDigits h.offset h.minutes, Option.bind_eq_bind, Option.bind_some, hnat,
    List.isEmpty_nil, if_true]
  exact checked?_of_inRange h

theorem trim_render {t : DateTime} (hyear : 0 ≤ t.date.year ∧ t.date.year ≤ 9999) :
    trim t.render = t.render := by
  have hne (width n : Nat) : paddedDigits width n ≠ [] := by
    simp [paddedDigits, natDigits_ne_nil]
  obtain ⟨mid, hmid⟩ : ∃ mid, t.render = paddedDigits 4 t.date.year.natAbs ++
      (mid ++ paddedDigits 2 (offsetMinutes t.offset % 60)) := by
    refine ⟨'-' :: (paddedDigits 2 t.date.month ++ '-' :: (paddedDigits 2 t.date.day ++
      'T' :: (paddedDigits 2 t.hour ++ ':' :: (paddedDigits 2 t.minute ++
        ':' :: (paddedDigits 2 (t.second + t.nanos / secondNanos) ++
          (fractionDigits (t.nanos % secondNanos) ++ (if t.offset < 0 then '-' else '+') ::
            (paddedDigits 2 (offsetMinutes t.offset / 60) ++ [':']))))))), ?_⟩
    simp only [render_of_year hyear, offsetDigits, List.append_assoc, List.cons_append,
      List.nil_append]
  rw [hmid]
  exact trim_eq_self_of_digits (fun c hc => isDigit_of_mem_paddedDigits hc)
    (fun c hc => isDigit_of_mem_paddedDigits hc) (hne _ _) (hne _ _)

/-- The text of a date-time reads back as the date-time. -/
theorem read?_text {t : DateTime} (h : t.InRange)
    (hyear : 0 ≤ t.date.year ∧ t.date.year ≤ 9999) : read? t.text = some t := by
  rw [read?, text, String.toList_ofList, trim_render hyear, readFull?_render h hyear,
    Option.some_or, Option.some_or]

/-! ## What has been read is in range -/

theorem lt_of_nanos? {cs rest : List Char} {n : Nat} (h : nanos? cs = some (n, rest)) :
    n < secondNanos := by
  unfold nanos? at h
  split at h
  · rename_i digits
    unfold fraction? at h
    dsimp only at h
    split at h
    · cases h
    have hkept : ∀ c ∈ (spanDigits digits).1.take 9, isDigit c := fun c hc =>
      List.mem_takeWhile_imp (List.mem_of_mem_take hc)
    have hlength : ((spanDigits digits).1.take 9).length ≤ 9 := by
      rw [List.length_take]
      omega
    generalize (spanDigits digits).1.take 9 = kept at h hkept hlength
    cases h
    calc
      _ < Nat.pow 10 kept.length * Nat.pow 10 (9 - kept.length) :=
        Nat.mul_lt_mul_of_pos_right (digitsValue_lt hkept) (Nat.pow_pos (by decide))
      _ = Nat.pow 10 (kept.length + (9 - kept.length)) := (Nat.pow_add 10 _ _).symm
      _ = Nat.pow 10 9 := by rw [Nat.add_sub_cancel' hlength]
      _ = secondNanos := rfl
  · cases h
    decide

/-- An offset that is read is one of whole minutes, of less than a day. -/
theorem natAbs_lt_of_offset? {cs rest : List Char} {offset : Int}
    (h : offset? cs = some (offset, rest)) : offset.natAbs < 86400 ∧ offset % 60 = 0 := by
  have hminutes {cs rest : List Char} {n : Nat} (h : offsetMinutes? cs = some (n, rest)) :
      n < 1440 := by
    simp only [offsetMinutes?, Option.bind_eq_bind, Option.bind_eq_some_iff] at h
    obtain ⟨hours, -, cs, -, minutes, -, h⟩ := h
    split at h
    · cases h
    · cases h
      omega
  unfold offset? at h
  split at h
  · cases h
    decide
  · cases h
    decide
  · simp only [Option.bind_eq_bind, Option.bind_eq_some_iff] at h
    obtain ⟨negative, -, ⟨n, rest⟩, hn, h⟩ := h
    have hn := hminutes hn
    cases h
    split <;> omega
  · cases h

theorem inRange_of_checked? {date : CalendarDate} {hour minute second nanos : Nat} {offset : Int}
    {t : DateTime} (h : checked? date hour minute second nanos offset = some t)
    (hnanos : nanos < secondNanos) (hoffset : offset.natAbs < 86400 ∧ offset % 60 = 0) :
    t.InRange := by
  unfold checked? at h
  split at h
  · rename_i hfields
    simp only [Bool.and_eq_true, decide_eq_true_eq] at hfields
    obtain ⟨⟨⟨⟨⟨hdate, hmin⟩, hmax⟩, hhour⟩, hminute⟩, hsecond⟩ := hfields
    split at h
    · cases h
      refine ⟨hdate, ⟨hmin, hmax⟩, hhour, hminute, Nat.le_refl _, ?_, fun _ => rfl,
        hoffset.1, hoffset.2⟩
      dsimp only
      omega
    · rename_i hshort
      cases h
      exact ⟨hdate, ⟨hmin, hmax⟩, hhour, hminute, by dsimp only; omega, by dsimp only; omega,
        fun hleap => absurd hnanos (Nat.not_lt.2 hleap), hoffset.1, hoffset.2⟩
  · cases h

theorem inRange_of_readFull? {cs : List Char} {t : DateTime} (h : readFull? cs = some t) :
    t.InRange := by
  simp only [readFull?, Option.bind_eq_bind, Option.bind_eq_some_iff] at h
  obtain ⟨year, -, cs, -, month, -, cs, -, day, -, cs, -, hour, -, cs, -, minute, -, cs, -, second,
    -, nanos, hnanos, offset, hoffset, h⟩ := h
  split at h
  · exact inRange_of_checked? h (lt_of_nanos? hnanos) (natAbs_lt_of_offset? hoffset)
  · cases h

theorem inRange_of_readUniversal? {cs : List Char} {t : DateTime}
    (h : readUniversal? cs = some t) : t.InRange := by
  simp only [readUniversal?, Option.bind_eq_bind, Option.bind_eq_some_iff] at h
  obtain ⟨date, -, hour, -, cs, -, minute, -, cs, -, second, -, h⟩ := h
  split at h
  · exact inRange_of_checked? h (by decide) (by decide)
  · cases h

theorem inRange_of_readDate? {cs : List Char} {t : DateTime} (h : readDate? cs = some t) :
    t.InRange := by
  simp only [readDate?, Option.bind_eq_bind, Option.bind_eq_some_iff] at h
  obtain ⟨date, -, h⟩ := h
  split at h
  · exact inRange_of_checked? h (by decide) (by decide)
  · cases h

theorem inRange_of_read? {s : String} {t : DateTime} (h : read? s = some t) : t.InRange := by
  simp only [read?, Option.or_eq_some_iff] at h
  rcases h with (h | ⟨-, h⟩) | ⟨-, h⟩
  · exact inRange_of_readFull? h
  · exact inRange_of_readUniversal? h
  · exact inRange_of_readDate? h

end DateTime

end RestRecords
