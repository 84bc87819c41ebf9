import RestRecords.Proofs.Text.Numerals
/-!
# Digits in groups

The numeral of a number with its digits in groups of three: without the points between them it is the
plain numeral.
-/

namespace RestRecords.Text

/-- The numeral of `n`, with a point before every third digit from the right that is not the first of
all. -/
def groupedDigits (n : Nat) : List Char :=
  if n < 1000 then natDigits n
  else groupedDigits (n / 1000) ++ '.' :: paddedDigits 3 (n % 1000)

def pointGroups (groups : List Nat) : List Char :=
  groups.flatMap fun k => '.' :: paddedDigits 3 k

/-! ## The last digits of a numeral -/

theorem natDigits_of_lt {n : Nat} (h : n < 10) : natDigits n = [n.digitChar] :=
  Nat.toDigits_of_lt_base h

theorem natDigits_of_le {n : Nat} (h : 10 ≤ n) :
    natDigits n = natDigits (n / 10) ++ [(n % 10).digitChar] :=
  Nat.toDigits_of_base_le (by decide) h

theorem paddedDigits_succ {width : Nat} (hwidth : 0 < width) (n : Nat) :
    paddedDigits (width + 1) n = paddedDigits width (n / 10) ++ [(n % 10).digitChar] := by
  rcases Nat.lt_or_ge n 10 with h | h
  · obtain ⟨w, rfl⟩ : ∃ w, width = w + 1 := ⟨width - 1, by omega⟩
    have hdiv : n / 10 = 0 := by omega
    have hmod : n % 10 = n := by omega
    have hzero : natDigits 0 = ['0'] := rfl
    rw [paddedDigits, paddedDigits, natDigits_of_lt h, hdiv, hmod, hzero]
    simp only [List.length_singleton, Nat.add_sub_cancel, List.replicate_succ', List.append_assoc]
  · simp only [paddedDigits, natDigits_of_le h, List.length_append, List.length_singleton,
      Nat.add_sub_add_right, List.append_assoc]

theorem natDigits_eq_append {width n : Nat} (hwidth : 0 < width) (h : Nat.pow 10 width ≤ n) :
    natDigits n = natDigits (n / Nat.pow 10 width) ++ paddedDigits width (n % Nat.pow 10 width) := by
  induction width generalizing n with
  | zero => cases hwidth
  | succ width ih =>
    have hpow : Nat.pow 10 (width + 1) = Nat.pow 10 width * 10 := rfl
    rw [hpow] at h ⊢
    rcases Nat.eq_zero_or_pos width with rfl | hpos
    · have hone : Nat.pow 10 0 = 1 := rfl
      have hlast : paddedDigits 1 (n % 10) = [(n % 10).digitChar] := by
        rw [paddedDigits, natDigits_of_lt (by omega)]
        rfl
      rw [hone, Nat.one_mul] at h ⊢
      rw [hlast, natDigits_of_le h]
    · have hten : 10 ≤ n := by
        have hle : 1 ≤ Nat.pow 10 width := Nat.pow_pos (by decide)
        omega
      have hdiv : n / 10 / Nat.pow 10 width = n / (Nat.pow 10 width * 10) := by
        rw [Nat.div_div_eq_div_mul, Nat.mul_comm]
      have hmod : n % (Nat.pow 10 width * 10) / 10 = n / 10 % Nat.pow 10 width :=
        Nat.mod_mul_left_div_self ..
      have hlast : n % (Nat.pow 10 width * 10) % 10 = n % 10 :=
        Nat.mod_mod_of_dvd n (Nat.dvd_mul_left 10 _)
      calc natDigits n
        _ = natDigits (n / 10) ++ [(n % 10).digitChar] := natDigits_of_le hten
        _ = natDigits (n / 10 / Nat.pow 10 width) ++
              paddedDigits width (n / 10 % Nat.pow 10 width) ++ [(n % 10).digitChar] := by
          rw [← ih hpos ((Nat.le_div_iff_mul_le (by decide)).2 h)]
        _ = _ := by
          rw [paddedDigits_succ hpos, hdiv, hmod, hlast, List.append_assoc]

/-! ## Groups -/

theorem groupedDigits_of_lt {n : Nat} (h : n < 1000) : groupedDigits n = natDigits n := by
  rw [groupedDigits, if_pos h]

theorem groupedDigits_of_le {n : Nat} (h : 1000 ≤ n) :
    groupedDigits n = groupedDigits (n / 1000) ++ '.' :: paddedDigits 3 (n % 1000) := by
  rw [groupedDigits, if_neg (Nat.not_lt.2 h)]

theorem exists_groupedDigits_eq (n : Nat) : ∃ first groups,
    groupedDigits n = natDigits first ++ pointGroups groups ∧ first < 1000 ∧
      ∀ k ∈ groups, k < 1000 := by
  induction n using groupedDigits.induct with
  | case1 n h => exact ⟨n, [], by simp [groupedDigits_of_lt h, pointGroups], h, nofun⟩
  | case2 n h ih =>
    obtain ⟨first, groups, heq, hfirst, hgroups⟩ := ih
    refine ⟨first, groups ++ [n % 1000], ?_, hfirst, ?_⟩
    · rw [groupedDigits_of_le (Nat.not_lt.1 h), heq]
      simp [pointGroups]
    · intro k hk
      rcases List.mem_append.1 hk with hk | hk
      · exact hgroups k hk
      · rw [List.mem_singleton.1 hk]
        omega

theorem filter_point_of_digits {cs : List Char} (h : ∀ c ∈ cs, isDigit c) :
    cs.filter (· ≠ '.') = cs := by
  rw [List.filter_eq_self]
  intro c hc
  exact decide_eq_true (ne_of_mem_of_not_mem hc (notMem_of_digits rfl h))

theorem filter_point_append {cs ds : List Char} (hcs : ∀ c ∈ cs, isDigit c)
    (hds : ∀ c ∈ ds, isDigit c) : (cs ++ '.' :: ds).filter (· ≠ '.') = cs ++ ds := by
  rw [List.filter_append, List.filter_cons_of_neg (by decide), filter_point_of_digits hcs,
    filter_point_of_digits hds]

theorem filter_point_groupedDigits (n : Nat) :
    (groupedDigits n).filter (· ≠ '.') = natDigits n := by
  induction n using groupedDigits.induct with
  | case1 n h =>
    rw [groupedDigits_of_lt h]
    exact filter_point_of_digits fun c => isDigit_of_mem_natDigits
  | case2 n h ih =>
    have hpadded := filter_point_of_digits fun c (hc : c ∈ paddedDigits 3 (n % 1000)) =>
      isDigit_of_mem_paddedDigits hc
    have hsplit : natDigits n = natDigits (n / 1000) ++ paddedDigits 3 (n % 1000) :=
      natDigits_eq_append (Nat.succ_pos 2) (Nat.not_lt.1 h)
    rw [groupedDigits_of_le (Nat.not_lt.1 h), hsplit, List.filter_append, ih,
      List.filter_cons_of_neg (by decide), hpadded]

end RestRecords.Text
