import RestRecords.Json.Reader
import RestRecords.Json.Writer
import RestRecords.Proofs.Text.Numerals
/-!
# Written numbers read back

The digits of a word of 64 bits are read as that word, whatever follows them. The text of a double is
read as the double if the reader gives it back when nothing follows; it does not give back every one,
since it rounds more than once.
-/

namespace RestRecords

open Text

/-- Whether the reader gives a double back from its own text. -/
def FiniteDouble.IsReadBack (x : FiniteDouble) : Prop :=
  Json.readValue 0 (Json.write (.float x)) = some (.float x, [])

namespace Json

def givesDouble (x : FiniteDouble) : Reading Json → Bool
  | some (.float y, []) => y = x
  | _ => false

theorem givesDouble_iff {x : FiniteDouble} {reading : Reading Json} :
    givesDouble x reading = true ↔ reading = some (.float x, []) := by
  unfold givesDouble
  split
  · simp
  · rename_i hother
    constructor
    · exact nofun
    · rintro rfl
      exact absurd rfl (hother x)

instance (x : FiniteDouble) : Decidable x.IsReadBack :=
  decidable_of_iff (givesDouble x (readValue 0 (write (.float x))) = true) givesDouble_iff

-- The double below `2 ^ 63` is read as `2 ^ 63` itself.
example : ¬(FiniteDouble.mk false (9223372036854774784 * Binary64.unitsPerOne)
    (by decide +kernel)).IsReadBack := by
  decide +kernel

/-- Whether an integer is a signed or an unsigned word of 64 bits. -/
def IsWord (i : Int) : Prop :=
  Int64.minValue.toInt ≤ i ∧ i < UInt64.size

def EndsNumber (rest : List Char) : Prop :=
  ∀ c ∈ rest.head?, isDigit c = false ∧ c ≠ '.' ∧ c ≠ 'e' ∧ c ≠ 'E'

theorem EndsNumber.cons {c : Char} (h : isDigit c = false ∧ c ≠ '.' ∧ c ≠ 'e' ∧ c ≠ 'E')
    (rest : List Char) : EndsNumber (c :: rest) := by
  rintro d ⟨⟩
  exact h

theorem EndsNumber.nil : EndsNumber [] := nofun

theorem skipSpace_cons {c : Char} (h : isSpace c = false) (cs : List Char) :
    skipSpace (c :: cs) = c :: cs := by
  rw [skipSpace, List.dropWhile_cons, h]
  rfl

/-! ## Integers -/

theorem le_digitsValueFrom (acc : Nat) (cs : List Char) : acc ≤ digitsValueFrom acc cs := by
  induction cs generalizing acc with
  | nil => exact Nat.le_refl acc
  | cons c cs ih =>
    calc acc
      _ ≤ 10 * acc + digitValue c := by omega
      _ ≤ digitsValueFrom (10 * acc + digitValue c) cs := ih _

theorem absorb_eq {acc : Nat} {cs : List Char} (h : digitsValueFrom acc cs < UInt64.size) :
    absorb acc cs = (digitsValueFrom acc cs, []) := by
  induction cs generalizing acc with
  | nil => rfl
  | cons c cs ih =>
    have hstep : digitsValueFrom acc (c :: cs) = digitsValueFrom (acc * 10 + digitValue c) cs := by
      rw [Nat.mul_comm]
      rfl
    rw [hstep] at h ⊢
    have hnext : acc * 10 + digitValue c < UInt64.size :=
      Nat.lt_of_le_of_lt (le_digitsValueFrom _ cs) h
    rw [absorb, if_pos hnext]
    exact ih h

theorem leadsWithZero_natDigits (n : Nat) : leadsWithZero (natDigits n) = false := by
  unfold leadsWithZero
  split
  case h_2 => rfl
  case h_1 c cs h =>
  exfalso
  have hdigits : ∀ d ∈ c :: cs, isDigit d := fun d hd =>
    isDigit_of_mem_natDigits (h ▸ List.mem_cons_of_mem _ hd)
  have hvalue : n = digitsValue (c :: cs) := by
    rw [← digitsValue_natDigits n, h]
    rfl
  have hlength : (natDigits n).length ≤ (c :: cs).length :=
    length_natDigits_le (Nat.succ_pos _) (hvalue ▸ digitsValue_lt hdigits)
  rw [h, List.length_cons] at hlength
  omega

/-- A numeral is read as a whole number. -/
theorem readNumber_natDigits (negative : Bool) {n : Nat} (hn : n < UInt64.size) {rest : List Char}
    (hrest : EndsNumber rest) :
    readNumber negative (natDigits n ++ rest) = (whole? negative n 0).map (·, rest) := by
  have hspan : spanDigits (natDigits n ++ rest) = (natDigits n, rest) := by
    refine spanDigits_append_of_all (fun c => isDigit_of_mem_natDigits) fun c hc => ?_
    rw [(hrest c hc).1]
    exact Bool.false_ne_true
  have habsorb : absorb 0 (natDigits n) = (n, []) := by
    have hvalue : digitsValueFrom 0 (natDigits n) = n := digitsValue_natDigits n
    rw [absorb_eq (by rw [hvalue]; exact hn), hvalue]
  have hempty : (natDigits n).isEmpty = false := by
    rw [List.isEmpty_eq_false_iff]
    exact natDigits_ne_nil n
  rw [readNumber]
  simp only [hspan, habsorb, hempty, leadsWithZero_natDigits, Bool.or_self, Bool.false_eq_true,
    if_false, List.length_nil]
  split
  · exact absurd rfl (hrest '.' rfl).2.1
  · exact absurd rfl (hrest 'e' rfl).2.2.1
  · exact absurd rfl (hrest 'E' rfl).2.2.2
  · rfl

theorem readNumber_nat {n : Nat} (hn : n < UInt64.size) {rest : List Char} (hrest : EndsNumber rest) :
    readNumber false (natDigits n ++ rest) = some (.int n, rest) :=
  readNumber_natDigits false hn hrest

theorem readNumber_neg {n : Nat} (hpos : 0 < n) (hn : n ≤ Nat.pow 2 63) {rest : List Char}
    (hrest : EndsNumber rest) :
    readNumber true (natDigits n ++ rest) = some (.int (-n), rest) := by
  have hsize : Nat.pow 2 63 < UInt64.size := by decide
  have hrange : ¬(n = 0 ∨ Nat.pow 2 63 < n) := by
    omega
  rw [readNumber_natDigits true (by omega) hrest, whole?, if_neg (by decide), if_neg (by decide),
    if_neg hrange]
  rfl

/-! ## Doubles -/

theorem spanDigits_append_of_head (cs : List Char) {rest : List Char}
    (hrest : ∀ c ∈ rest.head?, isDigit c = false) :
    spanDigits (cs ++ rest) = ((spanDigits cs).1, (spanDigits cs).2 ++ rest) := by
  obtain ⟨ds, left, rfl, hds, hleft⟩ := exists_digits_append cs
  have hhead : ∀ c ∈ (left ++ rest).head?, ¬isDigit c := by
    cases left with
    | nil =>
      intro c hc
      rw [hrest c hc]
      exact Bool.false_ne_true
    | cons d left => exact hleft
  rw [List.append_assoc, spanDigits_append_of_all hds hhead, spanDigits_append_of_all hds hleft]

theorem readSign_append {cs : List Char} (h : (spanDigits (readSign cs).2).1.isEmpty = false)
    (rest : List Char) : readSign (cs ++ rest) = ((readSign cs).1, (readSign cs).2 ++ rest) := by
  cases cs with
  | nil => cases h
  | cons c cs =>
    rw [List.cons_append]
    by_cases hplus : c = '+'
    · subst hplus
      rfl
    by_cases hminus : c = '-'
    · subst hminus
      rfl
    have hplain : ∀ ds, readSign (c :: ds) = (false, c :: ds) := by
      intro ds
      rw [readSign]
      · exact fun _ h => hplus (List.cons.inj h).1
      · exact fun _ h => hminus (List.cons.inj h).1
    rw [hplain, hplain, List.cons_append]

theorem readPower_append {negative : Bool} {significand : Nat} {exponent : Int} {cs rest : List Char}
    {j : Json} (h : readPower negative significand exponent cs = some (j, []))
    (hrest : EndsNumber rest) :
    readPower negative significand exponent (cs ++ rest) = some (j, rest) := by
  have hspan : ∀ ds, spanDigits (ds ++ rest) = ((spanDigits ds).1, (spanDigits ds).2 ++ rest) :=
    fun ds => spanDigits_append_of_head ds fun c hc => (hrest c hc).1
  unfold readPower at h ⊢
  split at h
  case h_1 tail | h_2 tail =>
    dsimp only at h
    split at h
    · cases h
    · rename_i hpower
      obtain ⟨x, hx, heq⟩ := Option.map_eq_some_iff.1 h
      obtain ⟨rfl, hleft⟩ := Prod.mk.inj heq
      simp only [List.cons_append, readSign_append (Bool.eq_false_iff.2 hpower), hspan, hpower,
        Bool.false_eq_true, if_false, hx, hleft, Option.map_some, List.nil_append]
  case h_3 =>
    obtain ⟨x, hx, heq⟩ := Option.map_eq_some_iff.1 h
    obtain ⟨rfl, rfl⟩ := Prod.mk.inj heq
    rw [List.nil_append, hx]
    split
    · exact absurd rfl (hrest 'e' rfl).2.2.1
    · exact absurd rfl (hrest 'E' rfl).2.2.2
    · rfl

theorem readNumber_append {negative : Bool} {cs rest : List Char} {j : Json}
    (h : readNumber negative cs = some (j, [])) (hrest : EndsNumber rest) :
    readNumber negative (cs ++ rest) = some (j, rest) := by
  have hspan : ∀ ds, spanDigits (ds ++ rest) = ((spanDigits ds).1, (spanDigits ds).2 ++ rest) :=
    fun ds => spanDigits_append_of_head ds fun c hc => (hrest c hc).1
  unfold readNumber at h ⊢
  rw [hspan]
  generalize spanDigits cs = spanned at h ⊢
  obtain ⟨digits, left⟩ := spanned
  dsimp only at h ⊢
  split at h
  · cases h
  rename_i hdigits
  rw [if_neg hdigits]
  split at h
  · rename_i tail
    split at h
    · cases h
    · rename_i hfraction
      rw [List.cons_append]
      simp only [hspan, if_neg hfraction]
      exact readPower_append h hrest
  · exact readPower_append h hrest
  · exact readPower_append h hrest
  · obtain ⟨x, hx, heq⟩ := Option.map_eq_some_iff.1 h
    obtain ⟨rfl, rfl⟩ := Prod.mk.inj heq
    rw [List.nil_append, hx]
    split
    · exact absurd rfl (hrest '.' rfl).2.1
    · exact absurd rfl (hrest 'e' rfl).2.2.1
    · exact absurd rfl (hrest 'E' rfl).2.2.2
    · rfl

/-! ## Numbers as values -/

theorem isSpace_of_isDigit {c : Char} (h : isDigit c) : isSpace c = false := by
  have hne : c ≠ ' ' ∧ c ≠ '\n' ∧ c ≠ '\t' ∧ c ≠ '\r' := by
    refine ⟨?_, ?_, ?_, ?_⟩ <;> rintro rfl <;> cases h
  simp [isSpace, hne]

theorem readValue_digit {c : Char} (h : isDigit c) (n : Nat) (cs : List Char) :
    readValue n (c :: cs) = readNumber false (c :: cs) := by
  rw [readValue.eq_def]
  dsimp only
  rw [skipSpace_cons (isSpace_of_isDigit h)]
  split
  case h_8 => rfl
  -- No other value begins with a digit.
  all_goals
    rename_i heq
    cases heq
    cases h

theorem readValue_minus (n : Nat) (cs : List Char) : readValue n ('-' :: cs) = readNumber true cs := by
  rw [readValue.eq_def]
  rfl

theorem natDigits_eq_cons (n : Nat) : ∃ c cs, natDigits n = c :: cs ∧ isDigit c := by
  obtain ⟨c, cs, h⟩ := List.exists_cons_of_ne_nil (natDigits_ne_nil n)
  exact ⟨c, cs, h, isDigit_of_mem_natDigits (h ▸ List.mem_cons_self)⟩

theorem readValue_intDigits {i : Int} (h : IsWord i) (n : Nat) {rest : List Char}
    (hrest : EndsNumber rest) : readValue n (intDigits i ++ rest) = some (.int i, rest) := by
  obtain ⟨hlow, hhigh⟩ := h
  unfold intDigits
  split
  · rename_i hneg
    have hleast : Int64.minValue.toInt = -(Nat.pow 2 63 : Nat) := by decide
    have hnat : -(i.natAbs : Int) = i := by omega
    rw [List.cons_append, readValue_minus, readNumber_neg (by omega) (by omega) hrest, hnat]
  · rename_i hpos
    have hnat : (i.natAbs : Int) = i := by omega
    obtain ⟨c, cs, hcons, hdigit⟩ := natDigits_eq_cons i.natAbs
    have hread : readNumber false (natDigits i.natAbs ++ rest) = some (.int i.natAbs, rest) :=
      readNumber_nat (by omega) hrest
    rw [hcons, List.cons_append] at hread ⊢
    rw [readValue_digit hdigit, hread, hnat]

theorem format_eq_cons (significand : Nat) (exponent : Int) : ∃ c cs,
    Shortest.format significand exponent = c :: cs ∧ isDigit c := by
  obtain ⟨c, cs, hcons, hdigit⟩ := natDigits_eq_cons significand
  unfold Shortest.format
  rw [hcons]
  dsimp only
  split
  · exact ⟨c, _, rfl, hdigit⟩
  split
  · rename_i hpoint
    obtain ⟨k, hk⟩ : ∃ k, (((c :: cs).length : Int) + exponent).toNat = k + 1 :=
      ⟨(((c :: cs).length : Int) + exponent).toNat - 1, by omega⟩
    rw [hk, List.take_succ_cons]
    exact ⟨c, _, rfl, hdigit⟩
  split
  · exact ⟨'0', _, rfl, rfl⟩
  · split
    · rename_i h
      cases h
      exact ⟨c, _, rfl, hdigit⟩
    · rename_i h
      cases h
      exact ⟨c, _, rfl, hdigit⟩
    · rename_i h
      cases h

theorem render_eq_cons (x : FiniteDouble) : ∃ c cs,
    Shortest.render x = c :: cs ∧ (c = '-' ∨ isDigit c) := by
  unfold Shortest.render
  dsimp only
  split
  · exact ⟨'-', _, rfl, .inl rfl⟩
  split
  · exact ⟨'0', _, rfl, .inr rfl⟩
  · obtain ⟨c, cs, hcons, hdigit⟩ :=
      format_eq_cons (Shortest.ofUnits x.units).1 (Shortest.ofUnits x.units).2
    exact ⟨c, cs, hcons, .inr hdigit⟩

theorem readValue_render {x : FiniteDouble} (h : x.IsReadBack) (n : Nat) {rest : List Char}
    (hrest : EndsNumber rest) :
    readValue n (Shortest.render x ++ rest) = some (.float x, rest) := by
  have hread : readValue 0 (Shortest.render x) = some (.float x, []) := h
  obtain ⟨c, cs, hcons, rfl | hdigit⟩ := render_eq_cons x
  · rw [hcons, readValue_minus] at hread
    rw [hcons, List.cons_append, readValue_minus, readNumber_append hread hrest]
  · rw [hcons, readValue_digit hdigit] at hread
    rw [hcons, List.cons_append, readValue_digit hdigit, ← List.cons_append,
      readNumber_append hread hrest]

end Json

end RestRecords
