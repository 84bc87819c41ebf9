import Mathlib.Data.List.Basic
import RestRecords.Collection.Search
import RestRecords.Proofs.Json.Numbers
import RestRecords.Proofs.Number.Rounding
/-!
# Comparisons in a search

Equality is one of values first and one of numbers second, while the orders are of numbers only.
They fit together nevertheless: what is equal as a value is equal as a number, so the items found
to be equal, greater and less are different ones. With a number as the needle these are all items
whose field reads as a number.
-/

namespace RestRecords

open Text

/-- Whether a value is a number as a document has one: a word of 64 bits or a double. -/
def Json.IsNumber : Json → Prop
  | .int i => IsWord i
  | .float _ => True
  | _ => False

/-- Whether a value is a number, or a text that reads as a finite one. -/
def Json.isNumeric : Json → Bool
  | .int i => (FiniteDouble.ofInt? i).isSome
  | .float _ => true
  | .str s => (Decimal.readFinite? (trim s.toList)).isSome
  | _ => false

namespace FieldValue

def HasValueAt (Δ : Catalog) (field : String) (v : FieldValue) : Prop :=
  ∃ r w, v.record? = some r ∧ r.get? Δ field = some w ∧ w ≠ .null

/-- Whether an item is an entity whose field is stored as a number, or a text that reads as one. -/
def isNumericAt (Δ : Catalog) (field : String) (v : FieldValue) : Bool :=
  (v.record?.bind fun r => r.get? Δ field).any fun w => (w.toJson Δ).isNumeric

end FieldValue

theorem filter_append_filter_perm {α : Type} {p q s : α → Bool} (l : List α)
    (hs : ∀ a, s a = (p a || q a)) (hpq : ∀ a, p a → q a = false) :
    (l.filter p ++ l.filter q).Perm (l.filter s) := by
  have hleft : (l.filter s).filter p = l.filter p := by
    rw [List.filter_filter]
    exact List.filter_congr fun a _ => by cases hp : p a <;> simp [hs, hp]
  have hright : (l.filter s).filter (fun a => !p a) = l.filter q := by
    rw [List.filter_filter]
    apply List.filter_congr
    intro a _
    cases hp : p a with
    | true => simp [hpq a hp]
    | false => simp [hs, hp]
  have hsplit := List.filter_append_perm p (l.filter s)
  rwa [hleft, hright] at hsplit

namespace Comparison

/-! ## Values as numbers -/

def inUnits? (raw : Json) : Option Int :=
  (number? raw).map FiniteDouble.toInt

theorem isSome_inUnits? (raw : Json) : (inUnits? raw).isSome = raw.isNumeric := by
  unfold inUnits?
  rw [Option.isSome_map]
  cases raw <;> rfl

theorem isNumeric_of_isNumber {raw : Json} (h : raw.IsNumber) : raw.isNumeric = true := by
  cases raw with
  | int i =>
    obtain ⟨hlow, hhigh⟩ : Json.IsWord i := h
    have hbound : i.natAbs ≤ Nat.pow 2 64 := by
      have hleast : Int64.minValue.toInt = -9223372036854775808 := by decide
      have hsize : UInt64.size = 18446744073709551616 := rfl
      have hpow : Nat.pow 2 64 = 18446744073709551616 := rfl
      omega
    obtain ⟨x, hx⟩ := FiniteDouble.exists_ofInt? hbound
    rw [Json.isNumeric, hx]
    rfl
  | float x => rfl
  | _ => cases h

theorem isNumber_of_isNumber {raw : Json} (h : raw.IsNumber) : isNumber raw = true := by
  cases raw <;> first | rfl | cases h

theorem inUnits?_eq_of_equal {a b : Json} (h : a.equal b = true) : inUnits? a = inUnits? b := by
  cases a <;> cases b <;> try cases h
  case null => rfl
  case int i j =>
    rw [Json.equal, beq_iff_eq] at h
    rw [h]
  case float x y =>
    rw [Json.equal, FiniteDouble.numEq_iff] at h
    exact congrArg some h
  case str s t =>
    rw [Json.equal, beq_iff_eq] at h
    rw [h]
  all_goals rfl

/-! ## The three comparisons -/

variable {a b : Json}

theorem holds_greaterThan_iff_inUnits? :
    Test.holds a (.greaterThan b) = true ↔
      ∃ m n, inUnits? a = some m ∧ inUnits? b = some n ∧ n < m := by
  rw [Test.holds, inUnits?, inUnits?]
  cases number? a <;> cases number? b <;> simp [FiniteDouble.lt_iff]

theorem holds_lessThan_iff_inUnits? :
    Test.holds a (.lessThan b) = true ↔
      ∃ m n, inUnits? a = some m ∧ inUnits? b = some n ∧ m < n := by
  rw [Test.holds, inUnits?, inUnits?]
  cases number? a <;> cases number? b <;> simp [FiniteDouble.lt_iff]

theorem inUnits?_eq_of_holds_equals (h : Test.holds a (.equals b) = true) :
    inUnits? a = inUnits? b := by
  rw [Test.holds, looselyEqual] at h
  split at h
  case isTrue hequal => exact inUnits?_eq_of_equal hequal
  split at h
  · split at h
    · rename_i hx hy
      rw [inUnits?, inUnits?, hx, hy, Option.map_some, Option.map_some, FiniteDouble.numEq_iff.1 h]
    · cases h
  · cases h

section

variable {m n : Int} (ha : inUnits? a = some m) (hb : inUnits? b = some n)

include ha hb

theorem holds_greaterThan_iff_lt : Test.holds a (.greaterThan b) = true ↔ n < m := by
  simp [holds_greaterThan_iff_inUnits?, ha, hb]

theorem holds_lessThan_iff_lt : Test.holds a (.lessThan b) = true ↔ m < n := by
  simp [holds_lessThan_iff_inUnits?, ha, hb]

theorem holds_equals_iff_eq (hnum : (isNumber a || isNumber b) = true) :
    Test.holds a (.equals b) = true ↔ m = n := by
  constructor
  · intro h
    have heq := inUnits?_eq_of_holds_equals h
    rwa [ha, hb, Option.some.injEq] at heq
  · rintro rfl
    obtain ⟨x, hx, hxm⟩ := Option.map_eq_some_iff.1 ha
    obtain ⟨y, hy, hym⟩ := Option.map_eq_some_iff.1 hb
    rw [Test.holds, looselyEqual]
    simp [hnum, hx, hy, FiniteDouble.numEq_iff, hxm, hym]

end

theorem not_greaterThan_of_equals (h : Test.holds a (.equals b) = true) :
    Test.holds a (.greaterThan b) = false := by
  rw [Bool.eq_false_iff, Ne, holds_greaterThan_iff_inUnits?, inUnits?_eq_of_holds_equals h]
  rintro ⟨m, n, hm, hn, hlt⟩
  rw [hm, Option.some.injEq] at hn
  omega

theorem not_lessThan_of_equals (h : Test.holds a (.equals b) = true) :
    Test.holds a (.lessThan b) = false := by
  rw [Bool.eq_false_iff, Ne, holds_lessThan_iff_inUnits?, inUnits?_eq_of_holds_equals h]
  rintro ⟨m, n, hm, hn, hlt⟩
  rw [hm, Option.some.injEq] at hn
  omega

theorem not_lessThan_of_greaterThan (h : Test.holds a (.greaterThan b) = true) :
    Test.holds a (.lessThan b) = false := by
  rw [Bool.eq_false_iff, Ne, holds_lessThan_iff_inUnits?]
  obtain ⟨m, n, hm, hn, hgreater⟩ := holds_greaterThan_iff_inUnits?.1 h
  rintro ⟨m', n', hm', hn', hless⟩
  rw [hm, Option.some.injEq] at hm'
  rw [hn, Option.some.injEq] at hn'
  omega

/-- A number is above, below or equal to every value that reads as a number, and nothing else is
compared with it. -/
theorem isNumeric_eq_holds (hb : b.IsNumber) :
    a.isNumeric = (Test.holds a (.equals b) ||
      (Test.holds a (.greaterThan b) || Test.holds a (.lessThan b))) := by
  have hnum : (isNumber a || isNumber b) = true := by rw [isNumber_of_isNumber hb, Bool.or_true]
  have hsome : (inUnits? b).isSome = true := (isSome_inUnits? b).trans (isNumeric_of_isNumber hb)
  obtain ⟨n, hn⟩ := Option.isSome_iff_exists.1 hsome
  rw [← isSome_inUnits?, Bool.eq_iff_iff, Bool.or_eq_true, Bool.or_eq_true,
    Option.isSome_iff_exists, holds_greaterThan_iff_inUnits?, holds_lessThan_iff_inUnits?]
  constructor
  · rintro ⟨m, hm⟩
    rcases Int.lt_trichotomy m n with hlt | rfl | hgt
    · exact .inr (.inr ⟨m, n, hm, hn, hlt⟩)
    · exact .inl ((holds_equals_iff_eq hm hn hnum).2 rfl)
    · exact .inr (.inl ⟨m, n, hm, hn, hgt⟩)
  · rintro (heq | ⟨m, -, hm, -⟩ | ⟨m, -, hm, -⟩)
    · exact ⟨n, (inUnits?_eq_of_holds_equals heq).trans hn⟩
    · exact ⟨m, hm⟩
    · exact ⟨m, hm⟩

end Comparison

/-! ## What is found -/

namespace Collection

open FieldValue

variable {Δ : Catalog} {field : String}

theorem hasValueAt_of_comparedValue? {v : FieldValue} {value : Json}
    (h : comparedValue? Δ field v = some value) : v.HasValueAt Δ field := by
  obtain ⟨w, hw, -⟩ := Option.map_eq_some_iff.1 h
  obtain ⟨hget, hnull⟩ := Option.filter_eq_some_iff.1 hw
  obtain ⟨r, hr, hslot⟩ := Option.bind_eq_some_iff.1 hget
  refine ⟨r, w, hr, hslot, ?_⟩
  rintro rfl
  cases hnull

theorem isNumericAt_eq (v : FieldValue) :
    v.isNumericAt Δ field = (comparedValue? Δ field v).any Json.isNumeric := by
  unfold isNumericAt comparedValue?
  cases v.record?.bind fun r => r.get? Δ field with
  | none => rfl
  | some w => cases w <;> rfl

section

variable {first second : Comparison.Test}

theorem isHit_eq_false (h : ∀ {value}, first.holds value → second.holds value = false)
    (v : FieldValue) (hv : isHit Δ field first v) : isHit Δ field second v = false := by
  obtain ⟨value, hvalue, hholds⟩ := (Option.any_eq_true _ _).1 hv
  rw [isHit, hvalue, Option.any_some, h hholds]

/-- Tests that exclude each other for every value find different items. -/
theorem disjoint_filter_isHit (h : ∀ {value}, first.holds value → second.holds value = false)
    (items : List FieldValue) :
    (items.filter (isHit Δ field first)).Disjoint (items.filter (isHit Δ field second)) := by
  intro v hfirst hsecond
  have hmiss := isHit_eq_false h v (List.mem_filter.1 hfirst).2
  rw [(List.mem_filter.1 hsecond).2] at hmiss
  cases hmiss

end

/-- What is found is a part of the items, in their order and each item at most once, where the field
is set and not null. No item is found as equal, as greater and as less than one needle; and if the
needle is a number, every item whose field is a number, or a text that reads as one, is found as one
of the three, and no other. -/
theorem search_coherent (Δ : Catalog) (c : Collection) (field : String) (needle : Json) :
    (∀ comparison found, c.search Δ field needle comparison = .ok found →
      found.Sublist c.items ∧ ∀ v ∈ found, v.HasValueAt Δ field) ∧
    ∃ equal greater less,
      c.search Δ field needle .equals = .ok equal ∧
      c.search Δ field needle .greaterThan = .ok greater ∧
      c.search Δ field needle .lessThan = .ok less ∧
      equal.Disjoint greater ∧ equal.Disjoint less ∧ greater.Disjoint less ∧
      (needle.IsNumber →
        (equal ++ (greater ++ less)).Perm (c.items.filter (isNumericAt Δ field))) := by
  constructor
  · intro comparison found h
    unfold search at h
    cases hprepare : comparison.prepare needle with
    | error e =>
      rw [hprepare] at h
      cases h
    | ok test =>
      rw [hprepare] at h
      cases h
      refine ⟨List.filter_sublist, fun v hv => ?_⟩
      obtain ⟨value, hvalue, -⟩ := (Option.any_eq_true _ _).1 (List.mem_filter.1 hv).2
      exact hasValueAt_of_comparedValue? hvalue
  refine ⟨_, _, _, rfl, rfl, rfl, ?_, ?_, ?_, fun hneedle => ?_⟩
  · exact disjoint_filter_isHit Comparison.not_greaterThan_of_equals c.items
  · exact disjoint_filter_isHit Comparison.not_lessThan_of_equals c.items
  · exact disjoint_filter_isHit Comparison.not_lessThan_of_greaterThan c.items
  · have hnumbers : ∀ v, v.isNumericAt Δ field = (isHit Δ field (.equals needle) v ||
        (isHit Δ field (.greaterThan needle) v || isHit Δ field (.lessThan needle) v)) := by
      intro v
      rw [isNumericAt_eq, isHit, isHit, isHit]
      cases comparedValue? Δ field v with
      | none => rfl
      | some value => exact Comparison.isNumeric_eq_holds hneedle
    have horders : ((c.items.filter (isHit Δ field (.greaterThan needle))) ++
        c.items.filter (isHit Δ field (.lessThan needle))).Perm
          (c.items.filter fun v => isHit Δ field (.greaterThan needle) v ||
            isHit Δ field (.lessThan needle) v) :=
      filter_append_filter_perm c.items (fun _ => rfl)
        (isHit_eq_false Comparison.not_lessThan_of_greaterThan)
    refine (horders.append_left _).trans (filter_append_filter_perm c.items hnumbers ?_)
    intro v hv
    rw [isHit_eq_false Comparison.not_greaterThan_of_equals v hv,
      isHit_eq_false Comparison.not_lessThan_of_equals v hv]
    rfl

end Collection

namespace Sample

def gauges : Catalog :=
  ⟨[⟨[⟨"reading", .str, true, none⟩], none⟩], [⟨.entity ⟨"Gauge", 0⟩, false⟩]⟩

def gauge (reading : Option String) : FieldValue :=
  .entity ⟨"Gauge", 0⟩ [reading.map .str]

def readings : List (Option String) :=
  [some " 5.0 ", some "4", some "off", some "7e0", none, some "5"]

def panel : Collection :=
  ⟨⟨"Panel", 0⟩, readings.map gauge⟩

theorem search_panel {test : Comparison.Test} {comparison : Comparison} {needle : Json}
    (hprepare : comparison.prepare needle = .ok test) (found : List (Option String))
    (h : readings.filter (fun t => Collection.isHit gauges "reading" test (gauge t)) = found) :
    panel.search gauges "reading" needle comparison = .ok (found.map gauge) := by
  rw [Collection.search, hprepare, ← h]
  exact congrArg Except.ok List.filter_map

end Sample

open Sample in
/-- Readings around five: each that is a number is found once. -/
theorem Collection.search_coherent_panel :
    (Json.int 5).IsNumber ∧
      panel.search gauges "reading" (.int 5) .equals =
        .ok [gauge (some " 5.0 "), gauge (some "5")] ∧
      panel.search gauges "reading" (.int 5) .greaterThan = .ok [gauge (some "7e0")] ∧
      panel.search gauges "reading" (.int 5) .lessThan = .ok [gauge (some "4")] ∧
      [gauge (some " 5.0 "), gauge (some "5"), gauge (some "7e0"), gauge (some "4")].Perm
        (panel.items.filter (FieldValue.isNumericAt gauges "reading")) := by
  have hequal : panel.search gauges "reading" (.int 5) .equals =
      .ok [gauge (some " 5.0 "), gauge (some "5")] :=
    search_panel rfl [some " 5.0 ", some "5"] (by decide +kernel)
  have hgreater : panel.search gauges "reading" (.int 5) .greaterThan = .ok [gauge (some "7e0")] :=
    search_panel rfl [some "7e0"] (by decide +kernel)
  have hless : panel.search gauges "reading" (.int 5) .lessThan = .ok [gauge (some "4")] :=
    search_panel rfl [some "4"] (by decide +kernel)
  obtain ⟨-, equal, greater, less, hequal', hgreater', hless', -, -, -, hnumbers⟩ :=
    search_coherent gauges panel "reading" (.int 5)
  cases hequal.symm.trans hequal'
  cases hgreater.symm.trans hgreater'
  cases hless.symm.trans hless'
  have hnumber : (Json.int 5).IsNumber := by
    constructor <;> decide
  exact ⟨hnumber, hequal, hgreater, hless, hnumbers hnumber⟩

end RestRecords
