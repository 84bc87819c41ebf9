import RestRecords.Proofs.Binding.RoundTrip
/-!
# Date-times that are stored and bound again

A date-time is stored as a full one. If its year has four digits and no sign, it is bound again as it
was. The forms of a date alone and of universal time also take years with a sign, and a date-time of
such a year is stored as a text that none of the three forms takes.
-/

namespace RestRecords

open Text

/-- Whether a year is written in four digits and without a sign. -/
def DateTime.HasPlainYear (t : DateTime) : Prop :=
  0 ≤ t.date.year ∧ t.date.year ≤ 9999

namespace DateTime

/-! ## A time mark is in no lenient form -/

theorem mem_of_number? {min max n : Nat} {cs rest : List Char}
    (h : number? min max cs = some (n, rest)) (hmark : 'T' ∈ cs) : 'T' ∈ rest := by
  unfold number? at h
  dsimp only at h
  split at h
  · cases h
  cases h
  have hfront : (cs.take max).takeWhile isDigit <+: cs :=
    (List.takeWhile_prefix _).trans (List.take_prefix max cs)
  obtain ⟨behind, hbehind⟩ := hfront
  have hdigits : 'T' ∉ (cs.take max).takeWhile isDigit := fun hmem =>
    absurd (List.mem_takeWhile_imp hmem) (by decide)
  generalize (cs.take max).takeWhile isDigit = ds at hbehind hdigits
  subst hbehind
  rw [List.drop_left]
  exact (List.mem_append.1 hmark).resolve_left hdigits

theorem mem_of_after? {c : Char} {cs rest : List Char} (h : after? c cs = some rest) (hc : c ≠ 'T')
    (hmark : 'T' ∈ cs) : 'T' ∈ rest := by
  cases cs with
  | nil => cases h
  | cons d cs =>
    rw [after?] at h
    split at h
    · rename_i hd
      cases h
      have hne : 'T' ≠ d := fun heq => hc (hd ▸ heq.symm)
      exact List.mem_of_ne_of_mem hne hmark
    · cases h

theorem mem_dropBlanks {cs : List Char} (hmark : 'T' ∈ cs) : 'T' ∈ cs.dropWhile isBlank := by
  rw [← List.takeWhile_append_dropWhile (p := isBlank) (l := cs)] at hmark
  have hblank : 'T' ∉ cs.takeWhile isBlank := fun hmem =>
    absurd (List.mem_takeWhile_imp hmem) (by decide)
  exact (List.mem_append.1 hmark).resolve_left hblank

theorem mem_of_looseNumber? {n : Nat} {cs rest : List Char} (h : looseNumber? cs = some (n, rest))
    (hmark : 'T' ∈ cs) : 'T' ∈ rest :=
  mem_of_number? h (mem_dropBlanks hmark)

theorem mem_of_looseYear? {year : Int} {cs rest : List Char} (h : looseYear? cs = some (year, rest))
    (hmark : 'T' ∈ cs) : 'T' ∈ rest := by
  have hdropped := mem_dropBlanks hmark
  have hread : ∀ {min max : Nat} {ds : List Char} {f : Nat × List Char → Int × List Char},
      'T' ∈ ds → (∀ read, (f read).2 = read.2) →
        (number? min max ds).map f = some (year, rest) → 'T' ∈ rest := by
    intro min max ds f hds hf hmap
    obtain ⟨⟨n, behind⟩, hnumber, heq⟩ := Option.map_eq_some_iff.1 hmap
    obtain rfl : behind = rest := (hf (n, behind)).symm.trans (congrArg Prod.snd heq)
    exact mem_of_number? hnumber hds
  unfold looseYear? at h
  split at h
  · rename_i digits hminus
    rw [hminus] at hdropped
    exact hread (List.mem_of_ne_of_mem (by decide) hdropped) (fun _ => rfl) h
  · rename_i digits hplus
    rw [hplus] at hdropped
    exact hread (List.mem_of_ne_of_mem (by decide) hdropped) (fun _ => rfl) h
  · exact hread hdropped (fun _ => rfl) h

theorem mem_of_looseDate? {date : CalendarDate} {cs rest : List Char}
    (h : looseDate? cs = some (date, rest)) (hmark : 'T' ∈ cs) : 'T' ∈ rest := by
  simp only [looseDate?, Option.bind_eq_bind, Option.bind_eq_some_iff] at h
  obtain ⟨⟨year, cs₁⟩, hyear, cs₂, hfirst, ⟨month, cs₃⟩, hmonth, cs₄, hsecond, ⟨day, cs₅⟩, hday, h⟩ := h
  cases h
  have h₁ := mem_of_looseYear? hyear hmark
  have h₂ := mem_of_after? hfirst (by decide) h₁
  have h₃ := mem_of_looseNumber? hmonth h₂
  have h₄ := mem_of_after? hsecond (by decide) h₃
  exact mem_of_looseNumber? hday h₄

theorem readUniversal?_of_mark {cs : List Char} (hmark : 'T' ∈ cs) : readUniversal? cs = none := by
  rw [Option.eq_none_iff_forall_ne_some]
  intro t h
  simp only [readUniversal?, Option.bind_eq_bind, Option.bind_eq_some_iff] at h
  obtain ⟨⟨date, cs₁⟩, hdate, ⟨hour, cs₂⟩, hhour, cs₃, hfirst, ⟨minute, cs₄⟩, hminute, cs₅, hsecond,
    ⟨second, rest⟩, hlast, h⟩ := h
  have h₁ := mem_of_looseDate? hdate hmark
  have h₂ := mem_of_looseNumber? hhour h₁
  have h₃ := mem_of_after? hfirst (by decide) h₂
  have h₄ := mem_of_looseNumber? hminute h₃
  have h₅ := mem_of_after? hsecond (by decide) h₄
  have hrest := mem_of_looseNumber? hlast h₅
  rw [if_neg (by simpa using List.ne_nil_of_mem hrest)] at h
  cases h

theorem readDate?_of_mark {cs : List Char} (hmark : 'T' ∈ cs) : readDate? cs = none := by
  rw [Option.eq_none_iff_forall_ne_some]
  intro t h
  simp only [readDate?, Option.bind_eq_bind, Option.bind_eq_some_iff] at h
  obtain ⟨⟨date, rest⟩, hdate, h⟩ := h
  have hrest := mem_of_looseDate? hdate hmark
  rw [if_neg (by simpa using List.ne_nil_of_mem hrest)] at h
  cases h

/-! ## Years with a sign -/

theorem exists_render_eq_cons {t : DateTime} (hyear : ¬t.HasPlainYear) :
    ∃ sign front, (sign = '-' ∨ sign = '+') ∧ 'T' ∈ front ∧
      t.render = sign :: (front ++ paddedDigits 2 (offsetMinutes t.offset % 60)) := by
  obtain ⟨sign, hsign, hdigits⟩ : ∃ sign, (sign = '-' ∨ sign = '+') ∧
      yearDigits t.date.year = sign :: paddedDigits 4 t.date.year.natAbs := by
    by_cases hnegative : t.date.year < 0
    · exact ⟨'-', .inl rfl, by rw [yearDigits, if_pos hnegative]⟩
    · have hlong : ¬t.date.year ≤ 9999 := fun hle => hyear ⟨by omega, hle⟩
      exact ⟨'+', .inr rfl, by rw [yearDigits, if_neg hnegative, if_neg hlong]⟩
  refine ⟨sign, paddedDigits 4 t.date.year.natAbs ++ '-' :: (paddedDigits 2 t.date.month ++
    '-' :: (paddedDigits 2 t.date.day ++ 'T' :: (paddedDigits 2 t.hour ++
      ':' :: (paddedDigits 2 t.minute ++
        ':' :: (paddedDigits 2 (t.second + t.nanos / secondNanos) ++
          (fractionDigits (t.nanos % secondNanos) ++ (if t.offset < 0 then '-' else '+') ::
            (paddedDigits 2 (offsetMinutes t.offset / 60) ++ [':']))))))), hsign, ?_, ?_⟩
  · simp
  · simp only [render, offsetDigits, hdigits, List.append_assoc, List.cons_append, List.nil_append]

theorem trim_render_of_signed {t : DateTime} (hyear : ¬t.HasPlainYear) :
    trim t.render = t.render := by
  obtain ⟨sign, front, hsign, -, hrender⟩ := exists_render_eq_cons hyear
  have hne : paddedDigits 2 (offsetMinutes t.offset % 60) ≠ [] := by
    simp [paddedDigits, natDigits_ne_nil]
  rw [hrender]
  apply strip_eq_self
  · rintro c ⟨⟩
    rcases hsign with rfl | rfl <;> decide
  · intro c hc
    rw [← List.cons_append, List.head?_reverse, List.getLast?_append,
      List.getLast?_eq_some_getLast hne] at hc
    cases hc
    have hdigit := isDigit_of_mem_paddedDigits (List.getLast_mem hne)
    simp [not_isBlank_of_isDigit hdigit]

/-- No form takes the text of a date-time whose year is written with a sign. -/
theorem read?_text_of_signed {t : DateTime} (hyear : ¬t.HasPlainYear) :
    read? t.text = none := by
  obtain ⟨sign, front, hsign, hmark, hrender⟩ := exists_render_eq_cons hyear
  have hfull : readFull? t.render = none := by
    rw [hrender]
    rcases hsign with rfl | rfl <;> rfl
  have hmarked : 'T' ∈ t.render := by
    rw [hrender]
    exact List.mem_cons_of_mem _ (List.mem_append_left _ hmark)
  rw [read?, text, String.toList_ofList, trim_render_of_signed hyear, hfull,
    readUniversal?_of_mark hmarked, readDate?_of_mark hmarked]
  rfl

theorem lt_of_number? {min max n : Nat} {cs rest : List Char}
    (h : number? min max cs = some (n, rest)) : n < Nat.pow 10 max := by
  unfold number? at h
  dsimp only at h
  split at h
  · cases h
  cases h
  have hlength : ((cs.take max).takeWhile isDigit).length ≤ max :=
    Nat.le_trans (List.takeWhile_prefix _).length_le (List.length_take_le max cs)
  have hvalue := digitsValue_lt fun c (hc : c ∈ (cs.take max).takeWhile isDigit) =>
    List.mem_takeWhile_imp hc
  exact Nat.lt_of_lt_of_le hvalue (Nat.pow_le_pow_right (by decide) hlength)

theorem hasPlainYear_of_readFull? {cs : List Char} {t : DateTime} (h : readFull? cs = some t) :
    t.HasPlainYear := by
  have hfour : Nat.pow 10 4 = 10000 := rfl
  simp only [readFull?, Option.bind_eq_bind, Option.bind_eq_some_iff] at h
  obtain ⟨⟨year, cs⟩, hyear, cs, -, month, -, cs, -, day, -, cs, -, hour, -, cs, -, minute, -, cs, -,
    second, -, nanos, -, offset, -, h⟩ := h
  have hlt : year < 10000 := hfour ▸ lt_of_number? hyear
  split at h
  · unfold checked? at h
    split at h
    · split at h
      all_goals
        cases h
        constructor <;> dsimp only <;> omega
    · cases h
  · cases h

end DateTime

/-! ## Binding again -/

namespace FieldValue

variable (Δ : Catalog)

theorem asKind_str_of_dateTime (s : String) (place : Step) (nullable : Bool) :
    Bind.asKind Δ place .dateTime nullable (.str s) = Bind.dateTime place (.str s) :=
  rfl

theorem asKind_of_plainYear {t : DateTime} (h : t.InRange) (hyear : t.HasPlainYear) (place : Step)
    (nullable : Bool) :
    (Bind.asKind Δ place .dateTime nullable ((FieldValue.dateTime t).toJson Δ)).outcome =
      .ok (some (.dateTime t)) :=
  dateTime_text (DateTime.read?_text h hyear) _ place nullable

theorem asKind_of_signedYear {t : DateTime} (hyear : ¬t.HasPlainYear) (place : Step)
    (nullable : Bool) :
    (Bind.asKind Δ place .dateTime nullable ((FieldValue.dateTime t).toJson Δ)).outcome =
      Outcome.fail (Bind.fault place .dateTime (.unrecognizedDateTime (.str t.text))) := by
  have hread := DateTime.read?_text_of_signed hyear
  rw [toJson, asKind_str_of_dateTime, Bind.dateTime, Json.str?, Option.bind_some, hread]
  rfl

end FieldValue

/-- A date-time that was read, in whichever form, is the same instant with the same offset when its
text is read again, or is bound again, exactly if its year has no sign. Otherwise its text is refused.
Full date-times always have such a year. -/
theorem dateTime_returns_iff {s : String} {t : DateTime} (h : DateTime.read? s = some t)
    (Δ : Catalog) (place : Step) (nullable : Bool) :
    ((∃ u, DateTime.read? t.text = some u ∧ u.sameInstant t = true ∧ u.offset = t.offset) ↔
      t.HasPlainYear) ∧
    ((∃ u, (Bind.asKind Δ place .dateTime nullable ((FieldValue.dateTime t).toJson Δ)).outcome =
        .ok (some (.dateTime u)) ∧ u.sameInstant t = true ∧ u.offset = t.offset) ↔
      t.HasPlainYear) ∧
    (t.HasPlainYear → DateTime.read? t.text = some t ∧
      (Bind.asKind Δ place .dateTime nullable ((FieldValue.dateTime t).toJson Δ)).outcome =
        .ok (some (.dateTime t))) ∧
    (¬t.HasPlainYear → DateTime.read? t.text = none ∧
      (Bind.asKind Δ place .dateTime nullable ((FieldValue.dateTime t).toJson Δ)).outcome =
        Outcome.fail (Bind.fault place .dateTime (.unrecognizedDateTime (.str t.text)))) ∧
    (DateTime.readFull? (trim s.toList) = some t → t.HasPlainYear) := by
  have hrange := DateTime.inRange_of_read? h
  have hsame : t.sameInstant t = true := by simp [DateTime.sameInstant]
  have hplain : t.HasPlainYear → DateTime.read? t.text = some t := DateTime.read?_text hrange
  have hbound := fun (hyear : t.HasPlainYear) =>
    FieldValue.asKind_of_plainYear Δ hrange hyear place nullable
  have hsigned : ¬t.HasPlainYear → DateTime.read? t.text = none := DateTime.read?_text_of_signed
  have hrefused := fun (hyear : ¬t.HasPlainYear) =>
    FieldValue.asKind_of_signedYear Δ hyear place nullable
  refine ⟨⟨?_, fun hyear => ⟨t, hplain hyear, hsame, rfl⟩⟩,
    ⟨?_, fun hyear => ⟨t, hbound hyear, hsame, rfl⟩⟩, fun hyear => ⟨hplain hyear, hbound hyear⟩,
    fun hyear => ⟨hsigned hyear, hrefused hyear⟩, DateTime.hasPlainYear_of_readFull?⟩
  · rintro ⟨u, hread, -, -⟩
    by_contra hyear
    rw [hsigned hyear] at hread
    cases hread
  · rintro ⟨u, hagain, -, -⟩
    by_contra hyear
    rw [hrefused hyear] at hagain
    cases hagain

namespace Sample

/-- A leap second with a fraction, west of universal time, in the first year. -/
def leap : DateTime := ⟨⟨0, 12, 31⟩, 23, 59, 59, 1123456000, -34200⟩

/-- A date alone, of a year with five digits. -/
def remote : DateTime := ⟨⟨12345, 1, 1⟩, 0, 0, 0, 0, 0⟩

end Sample

open Sample in
theorem dateTime_returns_leap :
    DateTime.read? " 0000-12-31 23:59:60.1234560009-09:30" = some leap ∧
    leap.text = "0000-12-31T23:59:60.123456-09:30" ∧
    DateTime.read? leap.text = some leap ∧
    (Bind.asKind ⟨[], []⟩ (.field "at") .dateTime false
      ((FieldValue.dateTime leap).toJson ⟨[], []⟩)).outcome = .ok (some (.dateTime leap)) := by
  have hread : DateTime.read? " 0000-12-31 23:59:60.1234560009-09:30" = some leap := by
    decide +kernel
  have hyear : leap.HasPlainYear := by
    constructor <;> decide
  obtain ⟨-, -, hreturns, -⟩ := dateTime_returns_iff hread ⟨[], []⟩ (.field "at") false
  exact ⟨hread, by decide +kernel, hreturns hyear⟩

open Sample in
/-- A date that is read and bound, but not from the text that is written for it. -/
theorem not_dateTime_returns_remote :
    DateTime.read? "+12345-01-01" = some remote ∧
    (Bind.asKind ⟨[], []⟩ (.field "at") .dateTime false (.str "+12345-01-01")).outcome =
      .ok (some (.dateTime remote)) ∧
    remote.text = "+12345-01-01T00:00:00+00:00" ∧
    ¬(∃ u, DateTime.read? remote.text = some u ∧ u.sameInstant remote = true ∧
      u.offset = remote.offset) := by
  have hread : DateTime.read? "+12345-01-01" = some remote := by
    decide +kernel
  have hyear : ¬remote.HasPlainYear := fun h => absurd h.2 (by decide)
  refine ⟨hread, ?_, by decide +kernel, ?_⟩
  · rw [FieldValue.asKind_str_of_dateTime, Bind.dateTime, Json.str?, Option.bind_some, hread]
    rfl
  · rw [DateTime.read?_text_of_signed hyear]
    rintro ⟨u, hu, -, -⟩
    cases hu

end RestRecords
