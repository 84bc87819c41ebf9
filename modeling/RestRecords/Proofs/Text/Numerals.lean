import RestRecords.Text.Numeral
/-!
# Written numerals read back

The digits of a natural number, padded or not, are digits, are worth that number, and end where
another character follows.
-/

namespace RestRecords.Text

theorem isDigit_eq (c : Char) : isDigit c = c.isDigit := by
  simp only [isDigit, Char.isDigit, Char.le_def, ge_iff_le]

theorem digitsValueFrom_eq_ofDigitChars (acc : Nat) (cs : List Char) :
    digitsValueFrom acc cs = Nat.ofDigitChars 10 cs acc := by
  simp only [digitsValueFrom, digitValue, Nat.ofDigitChars_eq_foldl]

theorem digitsValue_natDigits (n : Nat) : digitsValue (natDigits n) = n := by
  rw [digitsValue, digitsValueFrom_eq_ofDigitChars, natDigits, Nat.ofDigitChars_ten_toDigits]

theorem digitsValue_append (cs ds : List Char) :
    digitsValue (cs ++ ds) = digitsValue cs * Nat.pow 10 ds.length + digitsValue ds := by
  simp only [digitsValue, digitsValueFrom_eq_ofDigitChars]
  rw [Nat.ofDigitChars_append, Nat.ofDigitChars_eq_ofDigitChars_zero, Nat.mul_comm]
  rfl

theorem isDigit_of_mem_natDigits {n : Nat} {c : Char} (h : c ∈ natDigits n) : isDigit c := by
  rw [isDigit_eq]
  exact Nat.isDigit_of_mem_toDigits (by decide) (by decide) h

theorem length_natDigits_le {n width : Nat} (hwidth : 0 < width) (h : n < Nat.pow 10 width) :
    (natDigits n).length ≤ width :=
  (Nat.length_toDigits_le_iff (by decide) hwidth).2 h

theorem natDigits_ne_nil (n : Nat) : natDigits n ≠ [] :=
  Nat.toDigits_ne_nil

theorem notMem_of_digits {c : Char} {cs : List Char} (hc : isDigit c = false)
    (hcs : ∀ c ∈ cs, isDigit c) : c ∉ cs := by
  intro hmem
  rw [hcs c hmem] at hc
  cases hc

theorem isDigit_of_mem_paddedDigits {width n : Nat} {c : Char} (h : c ∈ paddedDigits width n) :
    isDigit c := by
  rw [paddedDigits, List.mem_append] at h
  rcases h with h | h
  · rw [List.eq_of_mem_replicate h]
    rfl
  · exact isDigit_of_mem_natDigits h

theorem digitsValue_paddedDigits (width n : Nat) : digitsValue (paddedDigits width n) = n := by
  rw [digitsValue, digitsValueFrom_eq_ofDigitChars, paddedDigits, Nat.ofDigitChars_append,
    Nat.ofDigitChars_replicate_zero, Nat.mul_zero]
  exact Nat.ofDigitChars_ten_toDigits

theorem length_paddedDigits {width n : Nat} (hwidth : 0 < width) (h : n < Nat.pow 10 width) :
    (paddedDigits width n).length = width := by
  have hle := length_natDigits_le hwidth h
  rw [paddedDigits, List.length_append, List.length_replicate]
  omega

theorem digitValue_lt {c : Char} (h : isDigit c) : digitValue c < 10 := by
  have hrange : 48 ≤ c.toNat ∧ c.toNat ≤ 57 := by
    simpa [isDigit, Char.le_def, UInt32.le_iff_toNat_le] using h
  have hzero : '0'.toNat = 48 := rfl
  rw [digitValue]
  omega

theorem digitsValue_lt {cs : List Char} (h : ∀ c ∈ cs, isDigit c) :
    digitsValue cs < Nat.pow 10 cs.length := by
  rw [digitsValue, digitsValueFrom_eq_ofDigitChars]
  induction cs with
  | nil => simp
  | cons c cs ih =>
    have hc := digitValue_lt (h c (by simp))
    have hcs := ih fun d hd => h d (by simp [hd])
    rw [Nat.ofDigitChars_cons, Nat.ofDigitChars_eq_ofDigitChars_zero, Nat.mul_zero, Nat.zero_add,
      ← digitValue]
    calc
      _ < Nat.pow 10 cs.length * digitValue c + Nat.pow 10 cs.length := Nat.add_lt_add_left hcs _
      _ = Nat.pow 10 cs.length * (digitValue c + 1) := by rw [Nat.mul_add, Nat.mul_one]
      _ ≤ Nat.pow 10 cs.length * 10 := Nat.mul_le_mul_left _ hc

theorem spanDigits_append_of_all {ds rest : List Char} (hds : ∀ c ∈ ds, isDigit c)
    (hrest : ∀ c ∈ rest.head?, ¬isDigit c) : spanDigits (ds ++ rest) = (ds, rest) := by
  have hstop : rest.takeWhile isDigit = [] ∧ rest.dropWhile isDigit = rest := by
    cases rest with
    | nil => exact ⟨rfl, rfl⟩
    | cons c rest =>
      have hc := hrest c (by simp)
      simp [hc]
  rw [spanDigits, List.takeWhile_append_of_pos hds, List.dropWhile_append_of_pos hds, hstop.1,
    hstop.2, List.append_nil]

theorem exists_digits_append (cs : List Char) : ∃ ds rest, cs = ds ++ rest ∧
    (∀ c ∈ ds, isDigit c) ∧ ∀ c ∈ rest.head?, ¬isDigit c := by
  refine ⟨cs.takeWhile isDigit, cs.dropWhile isDigit, List.takeWhile_append_dropWhile.symm,
    List.all_eq_true.1 List.all_takeWhile, fun c hc => ?_⟩
  have hstop := List.head?_dropWhile_not isDigit cs
  rw [Option.mem_def] at hc
  simpa [hc] using hstop

end RestRecords.Text
