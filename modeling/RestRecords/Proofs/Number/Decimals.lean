import RestRecords.Number.Decimal
import RestRecords.Proofs.Number.Rounding
import RestRecords.Proofs.Text.Numerals
/-!
# Decimal texts and their doubles

Digits with a point among them are read as the double nearest to the number they write, and with a
sign in front as that or as its negative.
-/

namespace RestRecords

open Text

namespace Text

def decimals (mark : Char) : Option (List Char) → List Char
  | none => []
  | some ds => mark :: ds

def InNumeral (c : Char) : Prop :=
  isDigit c ∨ c = '.' ∨ c = ','

instance (c : Char) : Decidable (InNumeral c) :=
  inferInstanceAs (Decidable (_ ∨ _))

/-- The digits of a decimal, before and behind its point; there is at least one. -/
structure Numeral where
  whole : List Char
  fraction : Option (List Char)
  digits_whole : ∀ c ∈ whole, isDigit c
  digits_fraction : ∀ ds ∈ fraction, ∀ c ∈ ds, isDigit c
  nonempty : whole ++ fraction.getD [] ≠ []

namespace Numeral

def digits (x : Numeral) : List Char :=
  x.whole ++ x.fraction.getD []

def plain (x : Numeral) : List Char :=
  x.whole ++ decimals '.' x.fraction

def scale (x : Numeral) : Nat :=
  (x.fraction.getD []).length

end Numeral

theorem not_isDigit_of_decimals (mark : Char) (hmark : isDigit mark = false)
    (d : Option (List Char)) : ∀ c ∈ (decimals mark d).head?, ¬isDigit c := by
  cases d with
  | none => exact nofun
  | some ds =>
    rintro c ⟨⟩
    rw [hmark]
    exact Bool.false_ne_true

theorem inNumeral_decimals {mark : Char} (hmark : InNumeral mark) {d : Option (List Char)}
    (hd : ∀ ds ∈ d, ∀ c ∈ ds, isDigit c) : ∀ c ∈ decimals mark d, InNumeral c := by
  cases d with
  | none => exact nofun
  | some ds =>
    intro c hc
    rcases List.mem_cons.1 hc with rfl | hc
    · exact hmark
    · exact .inl (hd ds rfl c hc)

theorem Numeral.inNumeral_plain (x : Numeral) : ∀ c ∈ x.plain, InNumeral c :=
  List.forall_mem_append.2 ⟨fun c hc => .inl (x.digits_whole c hc),
    inNumeral_decimals (.inr (.inl rfl)) x.digits_fraction⟩

/-! ## Commas and points -/

def marks (cs : List Char) : List Char :=
  cs.filter fun c => c = ',' ∨ c = '.'

theorem marks_append (cs ds : List Char) : marks (cs ++ ds) = marks cs ++ marks ds :=
  List.filter_append ..

theorem marks_of_digits {cs : List Char} (h : ∀ c ∈ cs, isDigit c) : marks cs = [] := by
  rw [marks, List.filter_eq_nil_iff]
  intro c hc hmark
  have hdigit := h c hc
  rcases of_decide_eq_true hmark with rfl | rfl <;> cases hdigit

theorem marks_readSign (cs : List Char) : marks (readSign cs).2 = marks cs := by
  unfold readSign
  split <;> rfl

theorem notMem_and_count_of_marks {cs : List Char} (h : marks cs = [] ∨ marks cs = ['.']) :
    ',' ∉ cs ∧ cs.count '.' ≤ 1 := by
  have hcount : cs.count '.' = (marks cs).count '.' := by
    rw [marks, List.count_filter (by decide)]
  constructor
  · intro hmem
    have hmark : ',' ∈ marks cs := List.mem_filter.2 ⟨hmem, rfl⟩
    rcases h with h | h <;> simp [h] at hmark
  · rw [hcount]
    rcases h with h | h <;> simp [h]

theorem digits_of_readDigits? {cs : List Char} {n : Nat} (h : readDigits? cs = some n) :
    ∀ c ∈ cs, isDigit c := by
  unfold readDigits? at h
  split at h
  · cases h
  · rename_i hdigits
    simp only [Bool.or_eq_true, Bool.not_eq_true', not_or, Bool.not_eq_false,
      List.all_eq_true] at hdigits
    exact hdigits.2

end Text

/-! ## Nearest doubles -/

namespace Binary64

theorem ofRatio_eq (negative : Bool) (num den : Nat) : ofRatio negative num den =
    (FiniteDouble.ofRatio? negative num den).elim (.infinite negative) .finite := by
  -- The definition is opened as a function: applied, it would be evaluated as far as can be.
  have hfun : ofRatio = fun negative num den =>
      (FiniteDouble.ofRatio? negative num den).elim (.infinite negative) .finite := by
    delta ofRatio
    funext negative num den
    generalize FiniteDouble.ofRatio? negative num den = nearest
    cases nearest <;> rfl
  exact congrFun (congrFun (congrFun hfun negative) num) den

theorem finite?_ofRatio (negative : Bool) (num den : Nat) :
    (ofRatio negative num den).finite? = FiniteDouble.ofRatio? negative num den := by
  rw [ofRatio_eq]
  generalize FiniteDouble.ofRatio? negative num den = nearest
  cases nearest <;> rfl

end Binary64

namespace FiniteDouble

open Binary64

theorem ofRatio?_true (num den : Nat) :
    ofRatio? true num den = (ofRatio? false num den).map neg := by
  rw [ofRatio?, ofRatio?]
  by_cases h : Representable (roundUnits num den)
  · simp only [ofUnits?, dif_pos h, Option.map_some, neg, Bool.not_false]
  · simp only [ofUnits?, dif_neg h, Option.map_none]

theorem neg_inj {x y : FiniteDouble} : x.neg = y.neg ↔ x = y := by
  cases x
  cases y
  simp [neg]

end FiniteDouble

namespace Decimal

open Binary64

/-- What is far below the smallest double is less than half a unit, whatever its digits. -/
theorem twice_lt_ten_pow {m k : Nat} (h : m.log2 + 331 < k) :
    2 * (m * unitsPerOne) < Nat.pow 10 k := by
  obtain ⟨j, hj, hunits⟩ : ∃ j, j = 331 ∧ 2 * unitsPerOne ≤ Nat.pow 10 j :=
    ⟨331, rfl, by decide +kernel⟩
  have hpos : 0 < Nat.pow 10 j := Nat.pow_pos (by decide)
  have hm : m < Nat.pow 10 (m.log2 + 1) :=
    Nat.lt_of_lt_of_le Nat.lt_log2_self (Nat.pow_le_pow_left (by decide) _)
  generalize unitsPerOne = unit at hunits ⊢
  calc 2 * (m * unit)
    _ = m * (2 * unit) := Nat.mul_left_comm 2 m unit
    _ ≤ m * Nat.pow 10 j := Nat.mul_le_mul_left m hunits
    _ < Nat.pow 10 (m.log2 + 1) * Nat.pow 10 j := Nat.mul_lt_mul_of_pos_right hm hpos
    _ = Nat.pow 10 (m.log2 + 1 + j) := (Nat.pow_add ..).symm
    _ ≤ Nat.pow 10 k := Nat.pow_le_pow_right (by decide) (by omega)

theorem finite?_toBinary64 (negative : Bool) (m k : Nat) :
    (toBinary64 ⟨negative, m, -(k : Int)⟩).finite? =
      FiniteDouble.ofRatio? negative m (Nat.pow 10 k) := by
  have hpos : 0 < Nat.pow 10 k := Nat.pow_pos (by decide)
  have hround {num den : Nat} (h : roundUnits m (Nat.pow 10 k) = roundUnits num den) :
      (ofRatio negative num den).finite? = FiniteDouble.ofRatio? negative m (Nat.pow 10 k) := by
    rw [finite?_ofRatio, FiniteDouble.ofRatio?, FiniteDouble.ofRatio?, h]
  unfold toBinary64
  split
  · rename_i hzero
    obtain rfl : m = 0 := hzero
    apply hround
    rw [roundUnits_zero hpos, roundUnits_zero Nat.one_pos]
  split
  · rename_i hlarge
    have hexponent : (310 : Int) < -(k : Int) := hlarge
    omega
  split
  · rename_i hsmall
    have hexponent : -(k : Int) + (m.log2 : Int) + 1 < -330 := hsmall
    apply hround
    rw [roundUnits_zero Nat.one_pos, roundUnits_of_lt (twice_lt_ten_pow (by omega))]
  split
  · rename_i hwhole
    have hexponent : (0 : Int) ≤ -(k : Int) := hwhole
    obtain rfl : k = 0 := by omega
    have hone : Nat.pow 10 (-((0 : Nat) : Int)).toNat = 1 := rfl
    apply hround
    rw [hone, Nat.mul_one]
  · have hnat : (-(-(k : Int))).toNat = k := by omega
    show (ofRatio negative m (Nat.pow 10 (-(-(k : Int))).toNat)).finite? = _
    rw [hnat]
    exact hround rfl

/-! ## Decimal texts -/

variable {cs body : List Char} {negative : Bool}

theorem read?_of_sign {x : Numeral} (hsign : readSign cs = (negative, x.plain)) :
    read? cs = some ⟨negative, digitsValue x.digits, -(x.scale : Int)⟩ := by
  obtain ⟨whole, fraction, hwhole, hfraction, hany⟩ := x
  have hspan := spanDigits_append_of_all hwhole (not_isDigit_of_decimals '.' rfl fraction)
  unfold read?
  rw [hsign]
  simp only [Numeral.plain, hspan]
  cases fraction with
  | none =>
    have hempty : whole.isEmpty = false := by simpa using hany
    simp [decimals, hempty, Numeral.digits, Numeral.scale]
  | some ds =>
    have hempty : (whole.isEmpty && ds.isEmpty) = false := by simpa using hany
    have hrest : spanDigits ds = (ds, []) := by
      have hend : ∀ c ∈ ([] : List Char).head?, ¬isDigit c := nofun
      have hspan := spanDigits_append_of_all (hfraction ds rfl) hend
      rwa [List.append_nil] at hspan
    simp [decimals, hrest, hempty, Numeral.digits, Numeral.scale]

theorem exists_plain_of_read? {d : Decimal} (hsign : readSign cs = (negative, body))
    (hbody : ∀ c ∈ body, InNumeral c) (h : read? cs = some d) : ∃ x : Numeral, body = x.plain := by
  obtain ⟨whole, rest, rfl, hwhole, hstop⟩ := exists_digits_append body
  have hrest : ∀ c ∈ rest, InNumeral c := fun c hc => hbody c (List.mem_append_right _ hc)
  unfold read? at h
  rw [hsign] at h
  simp only [spanDigits_append_of_all hwhole hstop] at h
  cases rest with
  | nil =>
    have hany : whole ≠ [] := by
      rintro rfl
      cases h
    exact ⟨⟨whole, none, hwhole, nofun, by simpa using hany⟩, rfl⟩
  | cons c tail =>
    rcases hrest c List.mem_cons_self with hdigit | rfl | rfl
    · exact absurd hdigit (hstop c rfl)
    · obtain ⟨fraction, left, rfl, hfraction, hleft⟩ := exists_digits_append tail
      simp only [spanDigits_append_of_all hfraction hleft] at h
      split at h
      · cases h
      rename_i hany
      cases left with
      | nil =>
        have hdigits : ∀ ds ∈ some fraction, ∀ c ∈ ds, isDigit c := by
          rintro ds ⟨⟩
          exact hfraction
        rw [List.append_nil]
        exact ⟨⟨whole, some fraction, hwhole, hdigits, by simpa using hany⟩, rfl⟩
      | cons e left =>
        have he : InNumeral e := hrest e (by simp)
        exfalso
        -- No power of ten follows, since its mark is none of these characters.
        split at h
        · rename_i heq
          cases heq
        · rename_i heq
          cases heq
          exact absurd he (by decide)
        · rename_i heq
          cases heq
          exact absurd he (by decide)
        · cases h
    · simp at h

theorem marks_of_readExponent? {cs : List Char} {e : Int} (h : readExponent? cs = some e) :
    marks cs = [] := by
  unfold readExponent? at h
  rw [← marks_readSign]
  generalize readSign cs = signed at h ⊢
  obtain ⟨n, hn, -⟩ := Option.map_eq_some_iff.1 h
  obtain ⟨value, hvalue, -⟩ := Option.bind_eq_some_iff.1 hn
  exact marks_of_digits (digits_of_readDigits? hvalue)

theorem marks_of_power {plain d : Decimal} {scaled : Int → Decimal} {rest : List Char}
    (h : (match rest with
      | [] => some plain
      | 'e' :: tail | 'E' :: tail => (readExponent? tail).map scaled
      | _ => none) = some d) : marks rest = [] := by
  split at h
  case h_1 => rfl
  case h_2 | h_3 =>
    rename_i tail
    obtain ⟨e, he, -⟩ := Option.map_eq_some_iff.1 h
    -- The letter in front is no mark itself.
    exact (marks_of_readExponent? he : marks tail = [])
  case h_4 => cases h

theorem marks_of_read? {cs : List Char} {d : Decimal} (h : read? cs = some d) :
    marks cs = [] ∨ marks cs = ['.'] := by
  unfold read? at h
  rw [← marks_readSign]
  generalize readSign cs = signed at h ⊢
  obtain ⟨negative, body⟩ := signed
  obtain ⟨whole, tail, rfl, hwhole, hstop⟩ := exists_digits_append body
  simp only [spanDigits_append_of_all hwhole hstop] at h
  rw [marks_append, marks_of_digits hwhole, List.nil_append]
  split at h <;> split at h
  · cases h
  · rename_i behind _
    obtain ⟨fraction, rest, rfl, hfraction, hrest⟩ := exists_digits_append behind
    rw [spanDigits_append_of_all hfraction hrest] at h
    right
    show '.' :: marks (fraction ++ rest) = _
    rw [marks_append, marks_of_digits hfraction, marks_of_power h]
    rfl
  · cases h
  · left
    exact marks_of_power h

theorem marks_of_readFinite? {x : FiniteDouble} (h : readFinite? cs = some x) :
    ',' ∉ cs ∧ cs.count '.' ≤ 1 := by
  obtain ⟨d, hd, -⟩ := Option.bind_eq_some_iff.1 h
  exact notMem_and_count_of_marks (marks_of_read? hd)

theorem readFinite?_of_sign {x : Numeral} (hsign : readSign cs = (negative, x.plain)) :
    readFinite? cs =
      FiniteDouble.ofRatio? negative (digitsValue x.digits) (Nat.pow 10 x.scale) := by
  rw [readFinite?, read?_of_sign hsign, Option.bind_some, finite?_toBinary64]

theorem readFinite?_eq_none_of_sign (hsign : readSign cs = (negative, body))
    (hbody : ∀ c ∈ body, InNumeral c) (hplain : ∀ x : Numeral, body ≠ x.plain) :
    readFinite? cs = none := by
  have hread : read? cs = none := by
    cases h : read? cs with
    | none => rfl
    | some d =>
      obtain ⟨x, hx⟩ := exists_plain_of_read? hsign hbody h
      exact absurd hx (hplain x)
  rw [readFinite?, hread, Option.bind_none]

theorem readSign_of_numeral (hbody : ∀ c ∈ body, InNumeral c) : readSign body = (false, body) := by
  unfold readSign
  split
  · exact absurd (hbody '+' List.mem_cons_self) (by decide)
  · exact absurd (hbody '-' List.mem_cons_self) (by decide)
  · rfl

theorem readFinite?_plain (x : Numeral) :
    readFinite? x.plain =
      FiniteDouble.ofRatio? false (digitsValue x.digits) (Nat.pow 10 x.scale) :=
  readFinite?_of_sign (readSign_of_numeral x.inNumeral_plain)

/-- The sign in front of a text of digits, points and commas is that of its double. -/
theorem readFinite?_sign (hbody : ∀ c ∈ body, InNumeral c) :
    readFinite? ('+' :: body) = readFinite? body ∧
      readFinite? ('-' :: body) = (readFinite? body).map FiniteDouble.neg := by
  have hnone := readSign_of_numeral hbody
  have hplus : readSign ('+' :: body) = (false, body) := rfl
  have hminus : readSign ('-' :: body) = (true, body) := rfl
  by_cases hplain : ∃ x : Numeral, body = x.plain
  · obtain ⟨x, rfl⟩ := hplain
    rw [readFinite?_plain, readFinite?_of_sign hplus, readFinite?_of_sign hminus]
    exact ⟨rfl, FiniteDouble.ofRatio?_true _ _⟩
  · have hplain := not_exists.1 hplain
    rw [readFinite?_eq_none_of_sign hnone hbody hplain,
      readFinite?_eq_none_of_sign hplus hbody hplain,
      readFinite?_eq_none_of_sign hminus hbody hplain]
    exact ⟨rfl, rfl⟩

end Decimal

end RestRecords
