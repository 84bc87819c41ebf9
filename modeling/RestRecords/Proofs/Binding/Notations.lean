import Mathlib.Data.List.Basic
import RestRecords.Binding.Bind
import RestRecords.Proofs.Number.Decimals
import RestRecords.Proofs.Text.Grouping
import RestRecords.Proofs.Time.DateTimeText
/-!
# Notations of decimals

A number in a text may have its digits in groups and a comma as its decimal mark. Where a double is
expected it is bound to the one nearest to the number, as if it were written plainly with a point.
-/

namespace RestRecords

open Text

namespace Text

/-- Whether a text writes the number `n` with the decimals `d`: the digits of `n`, plain or in groups,
and the decimals behind a comma, with blanks around. -/
def IsWritten (n : Nat) (d : Option (List Char)) (cs : List Char) : Prop :=
  ∃ before whole after, cs = before ++ (whole ++ decimals ',' d) ++ after ∧
    (∀ c ∈ before, isBlank c) ∧ (∀ c ∈ after, isBlank c) ∧
    (whole = natDigits n ∨ whole = groupedDigits n)

theorem InNumeral.not_isBlank {c : Char} (h : InNumeral c) : isBlank c = false := by
  rcases h with h | rfl | rfl
  · exact not_isBlank_of_isDigit h
  · rfl
  · rfl

theorem inNumeral_groupedDigits {n : Nat} : ∀ c ∈ groupedDigits n, InNumeral c := by
  obtain ⟨first, groups, heq, -, -⟩ := exists_groupedDigits_eq n
  rw [heq]
  intro c hc
  rcases List.mem_append.1 hc with hc | hc
  · exact .inl (isDigit_of_mem_natDigits hc)
  · obtain ⟨k, -, hc⟩ := List.mem_flatMap.1 hc
    rcases List.mem_cons.1 hc with rfl | hc
    · exact .inr (.inl rfl)
    · exact .inl (isDigit_of_mem_paddedDigits hc)

/-- The blanks around a text without blanks are removed. -/
theorem trim_blanks {before cs after : List Char} (hbefore : ∀ c ∈ before, isBlank c)
    (hafter : ∀ c ∈ after, isBlank c) (hcs : ∀ c ∈ cs, isBlank c = false) :
    trim (before ++ cs ++ after) = cs := by
  have hkeep {ds : List Char} (hds : ∀ c ∈ ds, isBlank c = false) (rest : List Char) :
      ds ≠ [] → (ds ++ rest).dropWhile isBlank = ds ++ rest := by
    intro hne
    obtain ⟨d, ds, rfl⟩ := List.exists_cons_of_ne_nil hne
    simp [hds d]
  have hafter' : ∀ c ∈ after.reverse, isBlank c := by simpa using hafter
  rw [trim, strip, List.append_assoc, List.dropWhile_append_of_pos hbefore]
  rcases eq_or_ne cs [] with rfl | hne
  · rw [List.nil_append, List.dropWhile_eq_nil_iff.2 hafter]
    rfl
  · have hrev : cs.reverse ≠ [] := by simpa using hne
    have hcs' : ∀ c ∈ cs.reverse, isBlank c = false := by simpa using hcs
    have hend := hkeep hcs' [] hrev
    rw [List.append_nil] at hend
    rw [hkeep hcs after hne, List.reverse_append, List.dropWhile_append_of_pos hafter', hend,
      List.reverse_reverse]

theorem trim_of_not_blank {cs : List Char} (hcs : ∀ c ∈ cs, isBlank c = false) : trim cs = cs := by
  have htrim := trim_blanks (List.forall_mem_nil _) (List.forall_mem_nil _) hcs
  rwa [List.nil_append, List.append_nil] at htrim

end Text

namespace Coerce

/-! ## The plain numeral -/

theorem isGrouped_pointGroups {groups : List Nat} (hgroups : ∀ k ∈ groups, k < 1000)
    (rest : List Char) : isGrouped (pointGroups groups ++ rest) = isGrouped rest := by
  induction groups with
  | nil => rfl
  | cons k groups ih =>
    have hlength : (paddedDigits 3 k).length = 3 :=
      length_paddedDigits (by decide) (hgroups k List.mem_cons_self)
    obtain ⟨x, y, z, hdigits⟩ := List.length_eq_three.1 hlength
    have hall : ∀ c ∈ [x, y, z], isDigit c := fun c hc =>
      isDigit_of_mem_paddedDigits (hdigits ▸ hc)
    have hsplit : pointGroups (k :: groups) ++ rest =
        '.' :: x :: y :: z :: (pointGroups groups ++ rest) := by
      rw [pointGroups, List.flatMap_cons, hdigits]
      rfl
    rw [hsplit, isGrouped, ih fun j hj => hgroups j (List.mem_cons_of_mem k hj)]
    simp [hall x, hall y, hall z]

theorem pointForComma_of_digits {cs : List Char} (hcs : ∀ c ∈ cs, isDigit c) :
    pointForComma cs = cs := by
  have hid : ∀ c ∈ cs, (if c = ',' then '.' else c) = id c := fun c hc =>
    if_neg (ne_of_mem_of_not_mem hc (notMem_of_digits rfl hcs))
  rw [pointForComma, List.map_congr_left hid, List.map_id]

variable {d : Option (List Char)} (hd : ∀ ds ∈ d, ds ≠ [] ∧ ∀ c ∈ ds, isDigit c)

include hd

theorem isGrouped_decimals : isGrouped (decimals ',' d) = true := by
  cases d with
  | none => rfl
  | some ds =>
    obtain ⟨hne, hdigits⟩ := hd ds rfl
    simpa [decimals, isGrouped, hne] using hdigits

theorem hasGroups_groupedDigits (n : Nat) :
    hasGroups (groupedDigits n ++ decimals ',' d) = true := by
  obtain ⟨first, groups, heq, hfirst, hgroups⟩ := exists_groupedDigits_eq n
  have hstop : ∀ c ∈ (pointGroups groups ++ decimals ',' d).head?, ¬isDigit c := by
    intro c hc
    cases groups with
    | nil => exact not_isDigit_of_decimals ',' rfl d c hc
    | cons k groups =>
      cases hc
      decide
  have hleast : 1 ≤ (natDigits first).length := List.length_pos_iff.2 (natDigits_ne_nil first)
  have hmost : (natDigits first).length ≤ 3 := length_natDigits_le (by decide) hfirst
  rw [heq, List.append_assoc, hasGroups,
    spanDigits_append_of_all (fun c => isDigit_of_mem_natDigits) hstop]
  simp only [isGrouped_pointGroups hgroups, isGrouped_decimals hd, hleast, hmost, decide_true,
    Bool.and_self]

theorem pointForComma_append {whole : List Char} (hwhole : ∀ c ∈ whole, isDigit c) :
    pointForComma (whole ++ decimals ',' d) = whole ++ decimals '.' d := by
  rw [pointForComma, List.map_append, ← pointForComma, ← pointForComma,
    pointForComma_of_digits hwhole]
  cases d with
  | none => rfl
  | some ds =>
    have hds := pointForComma_of_digits (hd ds rfl).2
    rw [pointForComma] at hds
    simp [decimals, pointForComma, hds]

theorem plainNumeral_groupedDigits (n : Nat) :
    plainNumeral (groupedDigits n ++ decimals ',' d) = natDigits n ++ decimals '.' d := by
  have hmark : (decimals ',' d).filter (· ≠ '.') = decimals ',' d := by
    cases d with
    | none => rfl
    | some ds => rw [decimals, List.filter_cons_of_pos (by decide),
        filter_point_of_digits (hd ds rfl).2]
  rw [plainNumeral, if_pos (hasGroups_groupedDigits hd n), List.filter_append,
    filter_point_groupedDigits, hmark, pointForComma_append hd fun c => isDigit_of_mem_natDigits]

theorem plainNumeral_natDigits (n : Nat) :
    plainNumeral (natDigits n ++ decimals ',' d) = natDigits n ++ decimals '.' d := by
  rcases Nat.lt_or_ge n 1000 with hsmall | hlarge
  · rw [← groupedDigits_of_lt hsmall, plainNumeral_groupedDigits hd n, groupedDigits_of_lt hsmall]
  have hspan : spanDigits (natDigits n ++ decimals ',' d) = (natDigits n, decimals ',' d) :=
    spanDigits_append_of_all (fun c => isDigit_of_mem_natDigits) (not_isDigit_of_decimals ',' rfl d)
  have hlength : ¬(natDigits n).length ≤ 3 := by
    intro hle
    have hlt : n < Nat.pow 10 3 := (Nat.length_toDigits_le_iff (by decide) (by decide)).1 hle
    have hthousand : Nat.pow 10 3 = 1000 := rfl
    omega
  have hgroups : hasGroups (natDigits n ++ decimals ',' d) = false := by
    simp [hasGroups, hspan, hlength]
  rw [plainNumeral, hgroups, if_neg Bool.false_ne_true]
  cases d with
  | none =>
    have hcomma : hasComma (natDigits n ++ decimals ',' none) = false := by
      rw [hasComma, hspan]
      rfl
    rw [hcomma, if_neg Bool.false_ne_true]
    rfl
  | some ds =>
    obtain ⟨hne, hdigits⟩ := hd ds rfl
    have hcomma : hasComma (natDigits n ++ decimals ',' (some ds)) = true := by
      rw [hasComma, hspan]
      show (!(natDigits n).isEmpty && !ds.isEmpty && ds.all isDigit) = true
      simpa [natDigits_ne_nil, hne] using hdigits
    rw [if_pos hcomma, pointForComma_append hd fun c => isDigit_of_mem_natDigits]

end Coerce

namespace Bind

variable {Δ : Catalog} {place : Step} {nullable : Bool} {s : String}

/-! ## Binding a numeral -/

theorem float?_str : Coerce.float? (.str s) =
    Decimal.readFinite? (Coerce.plainNumeral (trim s.toList)) :=
  rfl

theorem asKind_float_str : asKind Δ place .float nullable (.str s) =
    number .float place nullable (.str s)
      ((Coerce.float? (.str s)).map fun x => .float (.finite x)) := by
  rw [asKind, depthFor, kindWithin]
  generalize Coerce.float? (.str s) = read
  rfl

theorem outcome_asKind_float_iff {x : FiniteDouble} :
    (asKind Δ place .float nullable (.str s)).outcome = .ok (some (.float (.finite x))) ↔
      Coerce.float? (.str s) = some x := by
  rw [asKind_float_str]
  generalize Coerce.float? (.str s) = read
  cases read with
  | some y =>
    constructor
    · rintro ⟨⟩
      rfl
    · rintro ⟨⟩
      rfl
  | none =>
    refine iff_of_false (fun h => ?_) nofun
    cases nullable <;> cases h

/-- A text that is no finite double is refused, or reported and bound as null where that may be. -/
theorem outcome_asKind_float_of_none (h : Coerce.float? (.str s) = none) :
    (asKind Δ place .float nullable (.str s)).outcome =
      if nullable then .ok (some .null) else
        Outcome.fail (fault place .float (.invalidValue (.str s))) := by
  rw [asKind_float_str, h]
  cases nullable <;> rfl

theorem float?_of_isWritten {n : Nat} {d : Option (List Char)} (h : IsWritten n d s.toList)
    (hd : ∀ ds ∈ d, ds ≠ [] ∧ ∀ c ∈ ds, isDigit c) :
    Coerce.float? (.str s) = Decimal.readFinite? (natDigits n ++ decimals '.' d) := by
  obtain ⟨before, whole, after, heq, hbefore, hafter, hwhole⟩ := h
  have hcomma := inNumeral_decimals (.inr (.inr rfl)) fun ds hds => (hd ds hds).2
  have hdigits : ∀ c ∈ whole, InNumeral c := by
    rcases hwhole with rfl | rfl
    · exact fun c hc => .inl (isDigit_of_mem_natDigits hc)
    · exact inNumeral_groupedDigits
  have hblank : ∀ c ∈ whole ++ decimals ',' d, isBlank c = false := fun c hc =>
    (List.forall_mem_append.2 ⟨hdigits, hcomma⟩ c hc).not_isBlank
  rw [float?_str, heq, trim_blanks hbefore hafter hblank]
  rcases hwhole with rfl | rfl
  · rw [Coerce.plainNumeral_natDigits hd n]
  · rw [Coerce.plainNumeral_groupedDigits hd n]

/-- A number in any of its notations is bound to the double that its plain text with a point is read
as, which is the one nearest to it; where there is none, it is refused, or bound as null where that
may be. -/
theorem float_of_isWritten {n : Nat} {d : Option (List Char)} (h : IsWritten n d s.toList)
    (hd : ∀ ds ∈ d, ds ≠ [] ∧ ∀ c ∈ ds, isDigit c) :
    Decimal.readFinite? (natDigits n ++ decimals '.' d) =
        FiniteDouble.ofRatio? false
          (n * Nat.pow 10 (d.getD []).length + digitsValue (d.getD []))
          (Nat.pow 10 (d.getD []).length) ∧
      (∀ x, Decimal.readFinite? (natDigits n ++ decimals '.' d) = some x →
        (asKind Δ place .float nullable (.str s)).outcome = .ok (some (.float (.finite x)))) ∧
      (Decimal.readFinite? (natDigits n ++ decimals '.' d) = none →
        (asKind Δ place .float nullable (.str s)).outcome =
          if nullable then .ok (some .null)
          else Outcome.fail (fault place .float (.invalidValue (.str s)))) := by
  have hread := float?_of_isWritten h hd
  refine ⟨?_, fun x hx => ?_, fun hnone => ?_⟩
  · have hplain := Decimal.readFinite?_plain ⟨natDigits n, d, fun c => isDigit_of_mem_natDigits,
      fun ds hds => (hd ds hds).2, by simp [natDigits_ne_nil]⟩
    rwa [Numeral.digits, digitsValue_append, digitsValue_natDigits] at hplain
  · exact outcome_asKind_float_iff.2 (hread.trans hx)
  · exact outcome_asKind_float_of_none (hread.trans hnone)

/-- Millions in groups, with blanks around. -/
theorem float_of_isWritten_millions :
    ∃ x, FiniteDouble.ofRatio? false 2469135 2 = some x ∧
      IsWritten 1234567 (some ['5', '0']) "\t1.234.567,50 ".toList ∧
      (asKind ⟨[], []⟩ (.field "price") .float false (.str "\t1.234.567,50 ")).outcome =
        .ok (some (.float (.finite x))) := by
  have hgrouped : groupedDigits 1234567 = "1.234.567".toList := by
    rw [groupedDigits_of_le (by decide), groupedDigits_of_le (by decide),
      groupedDigits_of_lt (by decide)]
    rfl
  have hwritten : IsWritten 1234567 (some ['5', '0']) "\t1.234.567,50 ".toList := by
    refine ⟨['\t'], groupedDigits 1234567, [' '], ?_, by simp [isBlank], by simp [isBlank],
      .inr rfl⟩
    rw [hgrouped]
    rfl
  have hdigits : ∀ ds ∈ some ['5', '0'], ds ≠ [] ∧ ∀ c ∈ ds, isDigit c := by
    rintro ds ⟨⟩
    simp [isDigit]
  have hread : (FiniteDouble.ofRatio? false 2469135 2).isSome ∧
      Decimal.readFinite? (natDigits 1234567 ++ decimals '.' (some ['5', '0'])) =
        FiniteDouble.ofRatio? false 2469135 2 := by
    decide +kernel
  obtain ⟨x, hx⟩ := Option.isSome_iff_exists.1 hread.1
  refine ⟨x, hx, hwritten, ?_⟩
  exact (float_of_isWritten hwritten hdigits).2.1 x (hread.2.trans hx)

end Bind

end RestRecords
