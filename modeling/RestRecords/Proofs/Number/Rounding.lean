import RestRecords.Number.Binary64
/-!
# Rounding to doubles

The nearest double never lies beyond a double on either side of the number, and it is the number
itself where that is a double. Rounding keeps the order of numbers; whole numbers up to `2 ^ 53` are
rounded to themselves, larger ones may share a double with their neighbours.
-/

namespace RestRecords

namespace Binary64

/-- Whether a number of units is a multiple of the spacing of the doubles around it. -/
def IsSpaced (units : Nat) : Prop :=
  Nat.pow 2 (spacing units) ∣ units

/-! ## Whole numbers nearest to a fraction -/

theorem roundDiv_le {num den q : Nat} (hden : 0 < den) (h : num ≤ den * q) :
    roundDiv num den ≤ q := by
  have hdiv : num / den ≤ q := Nat.div_le_of_le_mul h
  have hsplit : den * (num / den) + num % den = num := Nat.div_add_mod num den
  rcases Nat.lt_or_ge (num / den) q with hlt | hge
  · have hparity := Nat.mod_lt (num / den) Nat.two_pos
    simp only [roundDiv]
    split
    · omega
    · split <;> omega
  · have hq : num / den = q := by omega
    have hzero : num % den = 0 := by
      rw [hq] at hsplit
      omega
    simp only [roundDiv, hzero, Nat.mul_zero, if_pos hden]
    omega

theorem div_le_roundDiv (num den : Nat) : num / den ≤ roundDiv num den := by
  simp only [roundDiv]
  split
  · omega
  · split <;> omega

theorem le_roundDiv {num den q : Nat} (hden : 0 < den) (h : den * q ≤ num) :
    q ≤ roundDiv num den := by
  have hdiv : q ≤ num / den := (Nat.le_div_iff_mul_le hden).2 (by rwa [Nat.mul_comm])
  exact Nat.le_trans hdiv (div_le_roundDiv num den)

theorem roundDiv_of_lt {num den : Nat} (h : 2 * num < den) : roundDiv num den = 0 := by
  have hlt : num < den := by omega
  simp only [roundDiv, Nat.div_eq_of_lt hlt, Nat.mod_eq_of_lt hlt, if_pos h]

theorem roundDiv_mono {a b : Nat} (den : Nat) (h : a ≤ b) : roundDiv a den ≤ roundDiv b den := by
  have hdiv : a / den ≤ b / den := Nat.div_le_div_right h
  have hlower := div_le_roundDiv b den
  have hparity := Nat.mod_lt (a / den) Nat.two_pos
  rcases Nat.lt_or_ge (a / den) (b / den) with hlt | hge
  · have hupper : roundDiv a den ≤ a / den + 1 := by
      simp only [roundDiv]
      split
      · omega
      · split <;> omega
    omega
  · have hq : b / den = a / den := by omega
    have hrest : a % den ≤ b % den := by
      have ha := Nat.div_add_mod a den
      have hb := Nat.div_add_mod b den
      rw [hq] at hb
      omega
    simp only [roundDiv, hq]
    split
    · split
      · omega
      · split <;> omega
    · split
      · have hlow : ¬2 * (b % den) < den := by omega
        have hhigh : den < 2 * (b % den) := by omega
        simp only [if_neg hlow, if_pos hhigh, Nat.le_refl]
      · rw [if_neg (by omega)]
        split <;> omega

/-! ## The spacing of doubles -/

theorem two_pow_add (j k : Nat) : Nat.pow 2 (j + k) = Nat.pow 2 j * Nat.pow 2 k :=
  Nat.pow_add 2 j k

theorem two_pow_le_two_pow {j k : Nat} (h : j ≤ k) : Nat.pow 2 j ≤ Nat.pow 2 k :=
  Nat.pow_le_pow_right Nat.two_pos h

theorem two_pow_pos (k : Nat) : 0 < Nat.pow 2 k :=
  Nat.two_pow_pos k

theorem lt_two_pow_spacing (units : Nat) : units < Nat.pow 2 (spacing units + 53) := by
  have hlog : units < Nat.pow 2 (units.log2 + 1) := Nat.lt_log2_self
  refine Nat.lt_of_lt_of_le hlog (two_pow_le_two_pow ?_)
  unfold spacing
  omega

theorem two_pow_spacing_le {units : Nat} (h : 0 < spacing units) :
    Nat.pow 2 (spacing units + 52) ≤ units := by
  unfold spacing at h ⊢
  have hne : units ≠ 0 := by
    rintro rfl
    rw [Nat.log2_zero] at h
    omega
  have hlog : units.log2 - 52 + 52 = units.log2 := by omega
  rw [hlog]
  exact Nat.log2_self_le hne

theorem spacing_le_of_lt {units k : Nat} (h : units < Nat.pow 2 (k + 53)) : spacing units ≤ k := by
  unfold spacing
  by_cases hzero : units = 0
  · rw [hzero, Nat.log2_zero]
    omega
  · have hlog : units.log2 < k + 53 := (Nat.log2_lt hzero).2 h
    omega

theorem spacing_mono {a b : Nat} (h : a ≤ b) : spacing a ≤ spacing b :=
  spacing_le_of_lt (Nat.lt_of_le_of_lt h (lt_two_pow_spacing b))

theorem isSpaced_mul {m : Nat} (h : m ≤ Nat.pow 2 53) (k : Nat) : IsSpaced (m * Nat.pow 2 k) := by
  unfold IsSpaced
  rcases Nat.lt_or_eq_of_le h with hlt | rfl
  · have hsmall : m * Nat.pow 2 k < Nat.pow 2 (k + 53) := by
      rw [two_pow_add, Nat.mul_comm]
      exact Nat.mul_lt_mul_of_pos_left hlt (two_pow_pos k)
    have hdvd : Nat.pow 2 (spacing (m * Nat.pow 2 k)) ∣ Nat.pow 2 k :=
      Nat.pow_dvd_pow 2 (spacing_le_of_lt hsmall)
    exact Nat.dvd_trans hdvd (Nat.dvd_mul_left _ m)
  · rw [← two_pow_add]
    apply Nat.pow_dvd_pow
    apply spacing_le_of_lt
    exact Nat.pow_lt_pow_right (by decide) (by omega)

theorem isSpaced_two_pow (k : Nat) : IsSpaced (Nat.pow 2 k) := by
  have h := isSpaced_mul (m := 1) (by decide) k
  rwa [Nat.one_mul] at h

/-! ## The double nearest to a fraction -/

/-- There is a power of two of units in one, and the magnitudes of doubles reach far beyond. -/
theorem exists_unitsPerOne_eq : ∃ k, unitsPerOne = Nat.pow 2 k ∧ k + 1024 = unitBits := by
  refine ⟨1074, ?_, rfl⟩
  unfold unitsPerOne
  rfl

theorem unitsPerOne_pos : 0 < unitsPerOne := by
  obtain ⟨k, hk, -⟩ := exists_unitsPerOne_eq
  rw [hk]
  exact two_pow_pos k

variable {num den r : Nat}

/-- The nearest double is not above a double that the number is not above. -/
theorem roundUnits_le (hden : 0 < den) (h : num * unitsPerOne ≤ den * r) (hr : IsSpaced r) :
    roundUnits num den ≤ r := by
  simp only [roundUnits]
  generalize num * unitsPerOne = scaled at h ⊢
  have hspacing : spacing (scaled / den) ≤ spacing r := spacing_mono (Nat.div_le_of_le_mul h)
  generalize spacing (scaled / den) = k at hspacing ⊢
  obtain ⟨q, rfl⟩ : Nat.pow 2 k ∣ r := Nat.dvd_trans (Nat.pow_dvd_pow 2 hspacing) hr
  have hround : roundDiv scaled (den * Nat.pow 2 k) ≤ q := by
    apply roundDiv_le (Nat.mul_pos hden (two_pow_pos k))
    rwa [Nat.mul_assoc]
  calc roundDiv scaled (den * Nat.pow 2 k) * Nat.pow 2 k
    _ ≤ q * Nat.pow 2 k := Nat.mul_le_mul_right _ hround
    _ = Nat.pow 2 k * q := Nat.mul_comm q _

theorem le_roundUnits (hden : 0 < den) (h : den * r ≤ num * unitsPerOne) (hr : IsSpaced r) :
    r ≤ roundUnits num den := by
  simp only [roundUnits]
  generalize num * unitsPerOne = scaled at h ⊢
  have hlower := @two_pow_spacing_le (scaled / den)
  generalize spacing (scaled / den) = k at hlower ⊢
  have hpos : 0 < den * Nat.pow 2 k := Nat.mul_pos hden (two_pow_pos k)
  rcases Nat.lt_or_ge (spacing r) k with hlt | hge
  · -- The doubles around the number lie further apart than those around `r`, so that the power of
    -- two from which on they do so is a double between the two.
    have hfloor : Nat.pow 2 (k + 52) * den ≤ scaled :=
      (Nat.le_div_iff_mul_le hden).1 (hlower (Nat.zero_lt_of_lt hlt))
    have hround : Nat.pow 2 52 ≤ roundDiv scaled (den * Nat.pow 2 k) := by
      apply le_roundDiv hpos
      rwa [Nat.mul_assoc, ← two_pow_add, Nat.mul_comm]
    calc r
      _ ≤ Nat.pow 2 (spacing r + 53) := Nat.le_of_lt (lt_two_pow_spacing r)
      _ ≤ Nat.pow 2 (52 + k) := two_pow_le_two_pow (by omega)
      _ = Nat.pow 2 52 * Nat.pow 2 k := two_pow_add 52 k
      _ ≤ _ := Nat.mul_le_mul_right _ hround
  · obtain ⟨q, rfl⟩ : Nat.pow 2 k ∣ r := Nat.dvd_trans (Nat.pow_dvd_pow 2 hge) hr
    have hround : q ≤ roundDiv scaled (den * Nat.pow 2 k) := by
      apply le_roundDiv hpos
      rwa [Nat.mul_assoc]
    calc Nat.pow 2 k * q
      _ = q * Nat.pow 2 k := Nat.mul_comm _ q
      _ ≤ _ := Nat.mul_le_mul_right _ hround

theorem roundUnits_of_lt (h : 2 * (num * unitsPerOne) < den) : roundUnits num den = 0 := by
  simp only [roundUnits]
  generalize num * unitsPerOne = scaled at h ⊢
  generalize spacing (scaled / den) = k
  have hlt : 2 * scaled < den * Nat.pow 2 k :=
    Nat.lt_of_lt_of_le h (Nat.le_mul_of_pos_right den (two_pow_pos k))
  rw [roundDiv_of_lt hlt, Nat.zero_mul]

theorem roundUnits_zero (hden : 0 < den) : roundUnits 0 den = 0 := by
  apply roundUnits_of_lt
  rwa [Nat.zero_mul]

theorem roundUnits_eq (hden : 0 < den) (h : num * unitsPerOne = den * r) (hr : IsSpaced r) :
    roundUnits num den = r :=
  Nat.le_antisymm (roundUnits_le hden (Nat.le_of_eq h) hr)
    (le_roundUnits hden (Nat.le_of_eq h.symm) hr)

theorem isSpaced_roundUnits (num : Nat) (hden : 0 < den) : IsSpaced (roundUnits num den) := by
  simp only [roundUnits]
  generalize num * unitsPerOne = scaled
  have hupper := lt_two_pow_spacing (scaled / den)
  generalize spacing (scaled / den) = k at hupper ⊢
  apply isSpaced_mul
  apply roundDiv_le (Nat.mul_pos hden (two_pow_pos k))
  have hlt := (Nat.div_lt_iff_lt_mul hden).1 hupper
  rw [Nat.mul_assoc, ← two_pow_add, Nat.mul_comm]
  exact Nat.le_of_lt hlt

theorem roundUnits_mono {num num' : Nat} (hden : 0 < den) (h : num ≤ num') :
    roundUnits num den ≤ roundUnits num' den := by
  have hscaled : num * unitsPerOne ≤ num' * unitsPerOne := Nat.mul_le_mul_right _ h
  have hspacing : spacing (num * unitsPerOne / den) ≤ spacing (num' * unitsPerOne / den) :=
    spacing_mono (Nat.div_le_div_right hscaled)
  rcases Nat.lt_or_eq_of_le hspacing with hlt | heq
  · -- A power of two, which is a double, lies between the numbers.
    have hupper := lt_two_pow_spacing (num * unitsPerOne / den)
    have hlower := two_pow_spacing_le (Nat.zero_lt_of_lt hlt)
    have hbelow : num * unitsPerOne ≤
        den * Nat.pow 2 (spacing (num * unitsPerOne / den) + 53) := by
      rw [Nat.mul_comm den]
      exact Nat.le_of_lt ((Nat.div_lt_iff_lt_mul hden).1 hupper)
    have habove : den * Nat.pow 2 (spacing (num' * unitsPerOne / den) + 52) ≤
        num' * unitsPerOne := by
      rw [Nat.mul_comm den]
      exact (Nat.le_div_iff_mul_le hden).1 hlower
    calc roundUnits num den
      _ ≤ _ := roundUnits_le hden hbelow (isSpaced_two_pow _)
      _ ≤ _ := two_pow_le_two_pow (by omega)
      _ ≤ roundUnits num' den := le_roundUnits hden habove (isSpaced_two_pow _)
  · simp only [roundUnits, heq]
    exact Nat.mul_le_mul_right _ (roundDiv_mono _ hscaled)

theorem roundUnits_of_le {n : Nat} (h : n ≤ Nat.pow 2 53) : roundUnits n 1 = n * unitsPerOne := by
  obtain ⟨k, hk, -⟩ := exists_unitsPerOne_eq
  have hspaced : IsSpaced (n * unitsPerOne) := hk ▸ isSpaced_mul h k
  exact roundUnits_eq Nat.one_pos (Nat.one_mul _).symm hspaced

theorem representable_roundUnits (hden : 0 < den) (h : num ≤ den * Nat.pow 2 64) :
    Representable (roundUnits num den) := by
  refine ⟨?_, Nat.mod_eq_zero_of_dvd (isSpaced_roundUnits num hden)⟩
  obtain ⟨k, hk, hbits⟩ := exists_unitsPerOne_eq
  have hbound : num * unitsPerOne ≤ den * Nat.pow 2 (64 + k) := by
    calc num * unitsPerOne
      _ ≤ den * Nat.pow 2 64 * unitsPerOne := Nat.mul_le_mul_right _ h
      _ = den * (Nat.pow 2 64 * Nat.pow 2 k) := by rw [hk, Nat.mul_assoc]
      _ = den * Nat.pow 2 (64 + k) := by rw [two_pow_add]
  have hround : roundUnits num den ≤ Nat.pow 2 (64 + k) :=
    roundUnits_le hden hbound (isSpaced_two_pow _)
  unfold unitLimit
  rw [← hbits]
  exact Nat.lt_of_le_of_lt hround (Nat.pow_lt_pow_right (by decide) (by omega))

end Binary64

namespace FiniteDouble

open Binary64

theorem ofRatio?_eq_some_iff {negative : Bool} {num den : Nat} {x : FiniteDouble} :
    ofRatio? negative num den = some x ↔ x.negative = negative ∧ x.units = roundUnits num den := by
  unfold ofRatio? ofUnits?
  split
  · rename_i h
    rw [Option.some.injEq]
    constructor
    · rintro rfl
      exact ⟨rfl, rfl⟩
    · rintro ⟨hsign, hunits⟩
      cases x
      cases hsign
      cases hunits
      rfl
  · rename_i h
    constructor
    · exact nofun
    · rintro ⟨-, hunits⟩
      exact absurd (hunits ▸ x.representable) h

theorem exists_ofInt? {i : Int} (h : i.natAbs ≤ Nat.pow 2 64) : ∃ x, ofInt? i = some x := by
  have hfinite : Representable (roundUnits i.natAbs 1) :=
    representable_roundUnits Nat.one_pos (by rwa [Nat.one_mul])
  exact ⟨⟨decide (i < 0), roundUnits i.natAbs 1, hfinite⟩, ofRatio?_eq_some_iff.2 ⟨rfl, rfl⟩⟩

variable {i j : Int} {x y : FiniteDouble}

theorem toInt_of_ofInt? (h : ofInt? i = some x) :
    x.toInt = if i < 0 then -(roundUnits i.natAbs 1 : Int) else roundUnits i.natAbs 1 := by
  obtain ⟨hsign, hunits⟩ := ofRatio?_eq_some_iff.1 h
  rw [toInt, hsign, hunits]
  simp only [decide_eq_true_eq]

theorem toInt_le_toInt (hi : ofInt? i = some x) (hj : ofInt? j = some y) (h : i ≤ j) :
    x.toInt ≤ y.toInt := by
  rw [toInt_of_ofInt? hi, toInt_of_ofInt? hj]
  split
  · split
    · have hmono : roundUnits j.natAbs 1 ≤ roundUnits i.natAbs 1 :=
        roundUnits_mono Nat.one_pos (by omega)
      omega
    · omega
  · rw [if_neg (by omega)]
    have hmono : roundUnits i.natAbs 1 ≤ roundUnits j.natAbs 1 :=
      roundUnits_mono Nat.one_pos (by omega)
    omega

theorem toInt_of_natAbs_le (h : ofInt? i = some x) (hi : i.natAbs ≤ Nat.pow 2 53) :
    x.toInt = i * unitsPerOne := by
  rw [toInt_of_ofInt? h, roundUnits_of_le hi, Int.natCast_mul]
  generalize (unitsPerOne : Int) = unit
  split
  · have habs : (i.natAbs : Int) = -i := by omega
    rw [habs, Int.neg_mul, Int.neg_neg]
  · have habs : (i.natAbs : Int) = i := by omega
    rw [habs]

theorem unitsPerOne_le_units (h : ofInt? i = some x) (hi : i ≠ 0) : unitsPerOne ≤ x.units := by
  obtain ⟨-, hunits⟩ := ofRatio?_eq_some_iff.1 h
  have hone : roundUnits 1 1 ≤ roundUnits i.natAbs 1 := roundUnits_mono Nat.one_pos (by omega)
  rw [roundUnits_of_le (by decide), Nat.one_mul] at hone
  rwa [hunits]

theorem eq_of_toInt_eq (hi : ofInt? i = some x) (hj : ofInt? j = some y)
    (h : x.toInt = y.toInt) : x = y := by
  obtain ⟨hsigni, hunitsi⟩ := ofRatio?_eq_some_iff.1 hi
  obtain ⟨hsignj, hunitsj⟩ := ofRatio?_eq_some_iff.1 hj
  have hpos := unitsPerOne_pos
  have hxi := @unitsPerOne_le_units i x hi
  have hyj := @unitsPerOne_le_units j y hj
  have hvaluei := toInt_of_ofInt? hi
  have hvaluej := toInt_of_ofInt? hj
  rw [← hunitsi] at hvaluei
  rw [← hunitsj] at hvaluej
  have hsame : (i < 0 ↔ j < 0) ∧ x.units = y.units := by
    generalize unitsPerOne = unit at hpos hxi hyj
    split at hvaluei <;> split at hvaluej <;> omega
  have hsign : x.negative = y.negative := by
    rw [hsigni, hsignj, decide_eq_decide]
    exact hsame.1
  rw [← Option.some.injEq, ← hi]
  exact ofRatio?_eq_some_iff.2 ⟨hsign.symm.trans hsigni, hsame.2.symm.trans hunitsi⟩

/-- An integer below `2 ^ 53` in magnitude shares its double with no other integer. -/
theorem eq_of_ofInt?_eq (hj : j.natAbs < Nat.pow 2 53) (h : ofInt? i = ofInt? j) : i = j := by
  have hsmall : ∀ {k : Int}, k.natAbs ≤ Nat.pow 2 53 → k.natAbs ≤ Nat.pow 2 64 :=
    fun hk => Nat.le_trans hk (two_pow_le_two_pow (by decide))
  have hlarge : (1 : Int) ≤ unitsPerOne := by
    have := unitsPerOne_pos
    omega
  obtain ⟨x, hx⟩ := exists_ofInt? (hsmall (Nat.le_of_lt hj))
  have hvalue := toInt_of_natAbs_le hx (Nat.le_of_lt hj)
  rw [hx] at h
  rcases Int.lt_trichotomy i j with hlt | heq | hgt
  · exfalso
    have hnext : (j - 1).natAbs ≤ Nat.pow 2 53 := by omega
    obtain ⟨y, hy⟩ := exists_ofInt? (hsmall hnext)
    have hle := toInt_le_toInt h hy (by omega)
    rw [hvalue, toInt_of_natAbs_le hy hnext, Int.sub_mul] at hle
    omega
  · exact heq
  · exfalso
    have hnext : (j + 1).natAbs ≤ Nat.pow 2 53 := by omega
    obtain ⟨y, hy⟩ := exists_ofInt? (hsmall hnext)
    have hle := toInt_le_toInt hy h (by omega)
    rw [hvalue, toInt_of_natAbs_le hy hnext, Int.add_mul] at hle
    omega

end FiniteDouble

end RestRecords
