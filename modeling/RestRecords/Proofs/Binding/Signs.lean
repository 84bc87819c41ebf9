import RestRecords.Proofs.Binding.Notations
/-!
# Signs of decimals

Behind a sign a numeral is read as it is written: neither groups nor a comma are looked for. With a
sign it is therefore refused where it has a comma or several points, and where its only point stands
before a group it is worth a thousandth of what it is worth without.
-/

namespace RestRecords

open Text

namespace Text

/-- Whether a text is one to three digits and, behind a point, three more. -/
def IsOneGroup (cs : List Char) : Prop :=
  ∃ first group, cs = first ++ '.' :: group ∧ (∀ c ∈ first, isDigit c) ∧ (∀ c ∈ group, isDigit c) ∧
    1 ≤ first.length ∧ first.length ≤ 3 ∧ group.length = 3

/-- Whether a numeral that is worth `x` is worth the same as it is written: it has no comma and at
most one point, and none that separates a group, unless it is worth zero. -/
structure IsLiteral (cs : List Char) (x : FiniteDouble) : Prop where
  comma : ',' ∉ cs
  points : cs.count '.' ≤ 1
  group : IsOneGroup cs → x.units = 0

end Text

namespace FiniteDouble

open Binary64

theorem ofRatio?_thousandth_iff {n : Nat} (hn : n ≤ Nat.pow 2 53) {x : FiniteDouble}
    (h : ofRatio? false n 1 = some x) : ofRatio? false n 1000 = some x ↔ x.units = 0 := by
  obtain ⟨k, hunit⟩ : ∃ k, unitsPerOne = Nat.pow 2 (k + 1) := by
    obtain ⟨k, hk, hbits⟩ := exists_unitsPerOne_eq
    have hlarge : unitBits = 2098 := rfl
    exact ⟨k - 1, by rw [hk, Nat.sub_add_cancel (by omega)]⟩
  have hdouble : Nat.pow 2 (k + 1) = Nat.pow 2 k * 2 := rfl
  have hpos := two_pow_pos k
  obtain ⟨hsign, hunits⟩ := ofRatio?_eq_some_iff.1 h
  rw [roundUnits_of_le hn, hunit, hdouble] at hunits
  have hspaced : IsSpaced (n * Nat.pow 2 k) := isSpaced_mul hn k
  have hhalf : roundUnits n 1000 ≤ n * Nat.pow 2 k := by
    refine roundUnits_le (by decide) ?_ hspaced
    rw [hunit, hdouble, ← Nat.mul_assoc]
    omega
  rw [ofRatio?_eq_some_iff, and_iff_right hsign, hunits]
  rcases Nat.eq_zero_or_pos n with rfl | hn'
  · rw [roundUnits_zero (by decide), Nat.zero_mul]
  · have hprod : 0 < n * Nat.pow 2 k := Nat.mul_pos hn' hpos
    rw [← Nat.mul_assoc]
    omega

end FiniteDouble

namespace Coerce

variable {cs : List Char}

/-- What follows the first digits of a grouped numeral: nothing, a group or a comma. -/
theorem cases_of_isGrouped {rest : List Char} (h : isGrouped rest = true) :
    rest = [] ∨ ',' ∈ rest ∨ ∃ a b c rest', rest = '.' :: a :: b :: c :: rest' ∧ isDigit a ∧
      isDigit b ∧ isDigit c ∧ isGrouped rest' = true := by
  unfold isGrouped at h
  split at h
  · exact .inl rfl
  · simp only [Bool.and_eq_true] at h
    obtain ⟨⟨⟨ha, hb⟩, hc⟩, hrest⟩ := h
    exact .inr (.inr ⟨_, _, _, _, rfl, ha, hb, hc, hrest⟩)
  · exact .inr (.inl List.mem_cons_self)
  · cases h

theorem plainNumeral_of_digits (hcs : ∀ c ∈ cs, isDigit c) : plainNumeral cs = cs := by
  rw [plainNumeral, filter_point_of_digits hcs, pointForComma_of_digits hcs, ite_self, ite_self]

/-- Behind a sign neither groups nor a comma are looked for. -/
theorem plainNumeral_sign {sign : Char} (hsign : isDigit sign = false) :
    plainNumeral (sign :: cs) = sign :: cs := by
  have hspan : spanDigits (sign :: cs) = ([], sign :: cs) := by simp [spanDigits, hsign]
  have hgroups : ¬hasGroups (sign :: cs) = true := by simp [hasGroups, hspan]
  have hpair : ¬hasComma (sign :: cs) = true := by
    rw [hasComma, hspan]
    dsimp only
    split
    · simp
    · exact Bool.false_ne_true
  rw [plainNumeral, if_neg hgroups, if_neg hpair]

theorem isOneGroup_or_plainNumeral_eq (hcomma : ',' ∉ cs) (hpoints : cs.count '.' ≤ 1) :
    IsOneGroup cs ∨ plainNumeral cs = cs := by
  obtain ⟨first, rest, rfl, hfirst, hstop⟩ := exists_digits_append cs
  have hspan := spanDigits_append_of_all hfirst hstop
  by_cases hgroups : hasGroups (first ++ rest) = true
  · rw [hasGroups, hspan] at hgroups
    simp only [Bool.and_eq_true, decide_eq_true_eq] at hgroups
    obtain ⟨⟨hleast, hmost⟩, hrest⟩ := hgroups
    rcases cases_of_isGrouped hrest with rfl | hmem | ⟨a, b, c, rest, rfl, ha, hb, hc, hrest⟩
    · rw [List.append_nil]
      exact .inr (plainNumeral_of_digits hfirst)
    · exact absurd (List.mem_append_right _ hmem) hcomma
    rcases cases_of_isGrouped hrest with rfl | hmem | ⟨_, _, _, _, rfl, -⟩
    · exact .inl ⟨first, [a, b, c], rfl, hfirst, by simp [ha, hb, hc], hleast, hmost, rfl⟩
    · exact absurd (by simp [hmem]) hcomma
    · simp only [List.count_append, List.count_cons, beq_self_eq_true, if_true] at hpoints
      omega
  · have hpair : ¬hasComma (first ++ rest) = true := by
      intro h
      rw [hasComma, hspan] at h
      dsimp only at h
      split at h
      · exact hcomma (by simp)
      · cases h
    exact .inr (by rw [plainNumeral, if_neg hgroups, if_neg hpair])

theorem plainNumeral_of_isOneGroup (h : IsOneGroup cs) :
    plainNumeral cs = cs.filter (· ≠ '.') := by
  obtain ⟨first, group, rfl, hfirst, hgroup, hleast, hmost, hlength⟩ := h
  obtain ⟨a, b, c, rfl⟩ := List.length_eq_three.1 hlength
  have hstop : ∀ d ∈ ('.' :: [a, b, c]).head?, ¬isDigit d := by
    rintro d ⟨⟩
    decide
  have hgroups : hasGroups (first ++ '.' :: [a, b, c]) = true := by
    rw [hasGroups, spanDigits_append_of_all hfirst hstop]
    simp [isGrouped, hleast, hmost, hgroup a, hgroup b, hgroup c]
  rw [plainNumeral, if_pos hgroups, filter_point_append hfirst hgroup,
    pointForComma_of_digits (List.forall_mem_append.2 ⟨hfirst, hgroup⟩)]

end Coerce

namespace Decimal

variable {cs : List Char}

/-- The readings of a numeral of one group: without its point, and as it is written. -/
theorem readFinite?_of_isOneGroup (h : IsOneGroup cs) :
    digitsValue (cs.filter (· ≠ '.')) ≤ Nat.pow 2 53 ∧
      readFinite? (Coerce.plainNumeral cs) =
        FiniteDouble.ofRatio? false (digitsValue (cs.filter (· ≠ '.'))) 1 ∧
      readFinite? cs = FiniteDouble.ofRatio? false (digitsValue (cs.filter (· ≠ '.'))) 1000 := by
  rw [Coerce.plainNumeral_of_isOneGroup h]
  obtain ⟨first, group, rfl, hfirst, hgroup, hleast, hmost, hlength⟩ := h
  have hdigits : ∀ c ∈ first ++ group, isDigit c := List.forall_mem_append.2 ⟨hfirst, hgroup⟩
  have hany : first ++ group ≠ [] := by
    rw [← List.length_pos_iff, List.length_append]
    omega
  rw [filter_point_append hfirst hgroup]
  refine ⟨?_, ?_, ?_⟩
  · have hlt := digitsValue_lt hdigits
    have hpow : Nat.pow 10 (first ++ group).length ≤ Nat.pow 10 6 := by
      apply Nat.pow_le_pow_right (by decide)
      rw [List.length_append]
      omega
    have hmillion : Nat.pow 10 6 ≤ Nat.pow 2 53 := by decide
    omega
  · have hplain := readFinite?_plain ⟨first ++ group, none, hdigits, nofun, by simpa using hany⟩
    simpa [Numeral.plain, Numeral.digits, Numeral.scale, decimals] using hplain
  · have hfraction : ∀ ds ∈ some group, ∀ c ∈ ds, isDigit c := by
      rintro ds ⟨⟩
      exact hgroup
    have hplain := readFinite?_plain ⟨first, some group, hfirst, hfraction, hany⟩
    rwa [Numeral.scale, Option.getD_some, hlength] at hplain

theorem readFinite?_of_marks (hmarks : ',' ∈ cs ∨ 1 < cs.count '.') : readFinite? cs = none := by
  cases h : readFinite? cs with
  | none => rfl
  | some x =>
    obtain ⟨hcomma, hpoints⟩ := marks_of_readFinite? h
    rcases hmarks with hmem | hlt
    · exact absurd hmem hcomma
    · exact absurd hlt (Nat.not_lt.2 hpoints)

/-- A numeral is worth the same as it is written exactly if it is literal. -/
theorem readFinite?_iff_isLiteral {x : FiniteDouble}
    (h : readFinite? (Coerce.plainNumeral cs) = some x) :
    readFinite? cs = some x ↔ IsLiteral cs x := by
  by_cases hmarks : ',' ∈ cs ∨ 1 < cs.count '.'
  · rw [readFinite?_of_marks hmarks]
    refine iff_of_false nofun fun hlit => ?_
    rcases hmarks with hcomma | hpoints
    · exact hlit.comma hcomma
    · exact Nat.not_lt.2 hlit.points hpoints
  rw [not_or, Nat.not_lt] at hmarks
  obtain ⟨hcomma, hpoints⟩ := hmarks
  by_cases hgroup : IsOneGroup cs
  · obtain ⟨hbound, hread, hwritten⟩ := readFinite?_of_isOneGroup hgroup
    rw [hread] at h
    rw [hwritten, FiniteDouble.ofRatio?_thousandth_iff hbound h]
    exact ⟨fun hzero => ⟨hcomma, hpoints, fun _ => hzero⟩, fun hlit => hlit.group hgroup⟩
  · rcases Coerce.isOneGroup_or_plainNumeral_eq hcomma hpoints with hone | heq
    · exact absurd hone hgroup
    · rw [heq] at h
      exact iff_of_true h ⟨hcomma, hpoints, fun hone => absurd hone hgroup⟩

end Decimal

namespace Bind

variable {Δ : Catalog} {place : Step} {nullable : Bool} {cs : List Char}

theorem float?_numeral (hcs : ∀ c ∈ cs, InNumeral c) :
    Coerce.float? (.str (String.ofList cs)) =
      Decimal.readFinite? (Coerce.plainNumeral cs) := by
  rw [float?_str, String.toList_ofList, trim_of_not_blank fun c hc => (hcs c hc).not_isBlank]

theorem float?_sign (hcs : ∀ c ∈ cs, InNumeral c) {sign : Char} (hsign : isDigit sign = false)
    (hblank : isBlank sign = false) :
    Coerce.float? (.str (String.ofList (sign :: cs))) = Decimal.readFinite? (sign :: cs) := by
  have hall : ∀ c ∈ sign :: cs, isBlank c = false := by
    intro c hc
    rcases List.mem_cons.1 hc with rfl | hc
    · exact hblank
    · exact (hcs c hc).not_isBlank
  rw [float?_str, String.toList_ofList, trim_of_not_blank hall, Coerce.plainNumeral_sign hsign]

theorem float?_plus (hcs : ∀ c ∈ cs, InNumeral c) :
    Coerce.float? (.str (String.ofList ('+' :: cs))) = Decimal.readFinite? cs := by
  rw [float?_sign hcs rfl rfl, (Decimal.readFinite?_sign hcs).1]

theorem float?_minus (hcs : ∀ c ∈ cs, InNumeral c) :
    Coerce.float? (.str (String.ofList ('-' :: cs))) =
      (Decimal.readFinite? cs).map FiniteDouble.neg := by
  rw [float?_sign hcs rfl rfl, (Decimal.readFinite?_sign hcs).2]

/-- A numeral that is bound to a double is bound to its negative behind a minus sign, and to the same
behind a plus sign, exactly if it is literal. Otherwise it is refused behind either sign, if it has a
comma or several points, or its point stands before a group: then it is bound to the double nearest to
the thousandth, with that sign. -/
theorem float_of_sign {x : FiniteDouble} (hcs : ∀ c ∈ cs, InNumeral c)
    (h : (asKind Δ place .float nullable (.str (String.ofList cs))).outcome =
      .ok (some (.float (.finite x)))) :
    ((asKind Δ place .float nullable (.str (String.ofList ('-' :: cs)))).outcome =
        .ok (some (.float (.finite x.neg))) ↔ IsLiteral cs x) ∧
      ((asKind Δ place .float nullable (.str (String.ofList ('+' :: cs)))).outcome =
        .ok (some (.float (.finite x))) ↔ IsLiteral cs x) ∧
      (',' ∈ cs ∨ 1 < cs.count '.' → ∀ sign ∈ ['-', '+'],
        (asKind Δ place .float nullable (.str (String.ofList (sign :: cs)))).outcome =
          if nullable then .ok (some .null)
          else Outcome.fail
            (fault place .float (.invalidValue (.str (String.ofList (sign :: cs)))))) ∧
      (IsOneGroup cs → ∃ y,
        FiniteDouble.ofRatio? false (digitsValue (cs.filter (· ≠ '.'))) 1000 = some y ∧
          (asKind Δ place .float nullable (.str (String.ofList ('-' :: cs)))).outcome =
            .ok (some (.float (.finite y.neg))) ∧
          (asKind Δ place .float nullable (.str (String.ofList ('+' :: cs)))).outcome =
            .ok (some (.float (.finite y)))) := by
  rw [outcome_asKind_float_iff, float?_numeral hcs] at h
  simp only [outcome_asKind_float_iff, float?_plus hcs, float?_minus hcs]
  refine ⟨?_, Decimal.readFinite?_iff_isLiteral h, fun hmarks sign hsign => ?_,
    fun hgroup => ?_⟩
  · rw [← Decimal.readFinite?_iff_isLiteral h, Option.map_eq_some_iff]
    constructor
    · rintro ⟨y, hy, heq⟩
      rw [hy, FiniteDouble.neg_inj.1 heq]
    · intro hx
      exact ⟨x, hx, rfl⟩
  · have hnone := Decimal.readFinite?_of_marks hmarks
    apply outcome_asKind_float_of_none
    rcases List.mem_pair.1 hsign with rfl | rfl
    · rw [float?_minus hcs, hnone, Option.map_none]
    · rw [float?_plus hcs, hnone]
  · obtain ⟨hbound, -, hwritten⟩ := Decimal.readFinite?_of_isOneGroup hgroup
    rw [hwritten]
    generalize digitsValue (cs.filter (· ≠ '.')) = n at hbound
    have hfinite : Binary64.Representable (Binary64.roundUnits n 1000) := by
      apply Binary64.representable_roundUnits (by decide)
      have hsmall : Nat.pow 2 53 ≤ 1000 * Nat.pow 2 64 := by decide
      omega
    have hthousandth : FiniteDouble.ofRatio? false n 1000 = some ⟨false, _, hfinite⟩ :=
      FiniteDouble.ofRatio?_eq_some_iff.2 ⟨rfl, rfl⟩
    exact ⟨_, hthousandth, by rw [hthousandth, Option.map_some], hthousandth⟩

/-- A group behind a point is bound as thousands, but as thousandths with a sign in front. -/
theorem float_of_sign_group :
    ∃ x y, FiniteDouble.ofRatio? false 1234 1 = some x ∧
      FiniteDouble.ofRatio? false 1234 1000 = some y ∧
      (asKind ⟨[], []⟩ (.field "price") .float false (.str (String.ofList "1.234".toList))).outcome =
        .ok (some (.float (.finite x))) ∧
      (asKind ⟨[], []⟩ (.field "price") .float false
        (.str (String.ofList ('-' :: "1.234".toList)))).outcome =
          .ok (some (.float (.finite y.neg))) ∧
      (asKind ⟨[], []⟩ (.field "price") .float false
        (.str (String.ofList ('-' :: "1.234".toList)))).outcome ≠
          .ok (some (.float (.finite x.neg))) := by
  have hnumeral : ∀ c ∈ "1.234".toList, InNumeral c := by simp [InNumeral, isDigit]
  have hgroup : IsOneGroup "1.234".toList :=
    ⟨['1'], ['2', '3', '4'], rfl, by simp [isDigit], by simp [isDigit], by decide, by decide, rfl⟩
  have hread : (FiniteDouble.ofRatio? false 1234 1).isSome ∧
      Coerce.float? (.str (String.ofList "1.234".toList)) = FiniteDouble.ofRatio? false 1234 1 := by
    decide +kernel
  obtain ⟨x, hx⟩ := Option.isSome_iff_exists.1 hread.1
  have hbound : (asKind ⟨[], []⟩ (.field "price") .float false
      (.str (String.ofList "1.234".toList))).outcome = .ok (some (.float (.finite x))) :=
    outcome_asKind_float_iff.2 (hread.2.trans hx)
  obtain ⟨hminus, -, -, hthousandth⟩ := float_of_sign hnumeral hbound
  obtain ⟨y, hy, hyminus, -⟩ := hthousandth hgroup
  refine ⟨x, y, hx, hy, hbound, hyminus, fun hneg => ?_⟩
  have hzero := (hminus.1 hneg).group hgroup
  obtain ⟨-, hunits⟩ := FiniteDouble.ofRatio?_eq_some_iff.1 hx
  rw [Binary64.roundUnits_of_le (by decide), hzero] at hunits
  have hpos := Binary64.unitsPerOne_pos
  omega

/-- Twelve and a half are bound, but refused behind a minus sign. -/
theorem not_float_of_sign_comma :
    ∃ x, (asKind ⟨[], []⟩ (.field "price") .float false (.str "12,5")).outcome =
        .ok (some (.float (.finite x))) ∧
      (asKind ⟨[], []⟩ (.field "price") .float false (.str "-12,5")).outcome =
        Outcome.fail (.binding ⟨[.field "price"], "float", .invalidValue (.str "-12,5")⟩) := by
  have hread : (Coerce.float? (.str "12,5")).isSome := by decide +kernel
  have hnone : Coerce.float? (.str "-12,5") = none := by decide +kernel
  obtain ⟨x, hx⟩ := Option.isSome_iff_exists.1 hread
  exact ⟨x, outcome_asKind_float_iff.2 hx, outcome_asKind_float_of_none hnone⟩

end Bind

end RestRecords
