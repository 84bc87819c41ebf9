import RestRecords.Url.Punycode
import Mathlib.Data.Nat.Basic
import Mathlib.Order.Basic
/-!
# Punycode read back

If the ASCII form of a label can be read at all, what is read is the label. The reader puts the
characters into the label in the order in which they are written, so that in the midst of a pass it
has all characters of lower code points, and those of the one that is due as far as the pass has
come.
-/

namespace RestRecords.Url.Punycode

/-! ## Numbers -/

theorem digitValue?_digit : ∀ v < 36, digitValue? (digit v) = some v := by
  decide

theorem digit_ne_mark : ∀ v < 36, digit v ≠ '-' := by
  decide

theorem threshold_bounds (bias k : Nat) : 1 ≤ threshold bias k ∧ threshold bias k ≤ 26 := by
  unfold threshold
  omega

theorem digits_ne_nil (bias k n : Nat) : digits bias k n ≠ [] := by
  rw [digits]
  split <;> simp

theorem exists_of_mem_digits {bias k n : Nat} {c : Char} (h : c ∈ digits bias k n) :
    ∃ v < 36, c = digit v := by
  fun_induction digits bias k n with
  | case1 k n t hlt =>
    have ht : 1 ≤ t ∧ t ≤ 26 := threshold_bounds bias k
    exact ⟨n, by omega, List.mem_singleton.1 h⟩
  | case2 k n t hge ih =>
    have ht : 1 ≤ t ∧ t ≤ 26 := threshold_bounds bias k
    rcases List.mem_cons.1 h with rfl | h
    · have hlt := Nat.mod_lt (n - t) (show 0 < 36 - t by omega)
      exact ⟨_, by omega, rfl⟩
    · exact ih h

theorem number?_cons {bias k weight acc d : Nat} {c : Char} {rest : List Char}
    {r : Nat × List Char} (hc : digitValue? c = some d)
    (h : number? bias k weight acc (c :: rest) = some r) :
    if d < threshold bias k then r = (acc + d * weight, rest)
    else number? bias (k + 36) (weight * (36 - threshold bias k)) (acc + d * weight) rest =
      some r := by
  rw [number?, hc] at h
  simp only [Option.bind_eq_bind, Option.bind_some, Option.pure_def, Option.bind_none] at h
  split at h
  · cases h
  split at h
  · rename_i hlt
    cases h
    rw [if_pos hlt]
  · rename_i hge
    rw [if_neg hge]
    split at h
    · cases h
    · exact h

theorem eq_of_number?_digits {bias k n : Nat} {rest : List Char} {r : Nat × List Char} :
    ∀ {weight acc : Nat}, number? bias k weight acc (digits bias k n ++ rest) = some r →
      r = (acc + n * weight, rest) := by
  fun_induction digits bias k n
  case case1 k n t hlt =>
    intro weight acc h
    have ht : 1 ≤ t ∧ t ≤ 26 := threshold_bounds bias k
    have hr := number?_cons (digitValue?_digit _ (by omega)) h
    rwa [if_pos hlt] at hr
  case case2 k n t hge ih =>
    intro weight acc h
    have ht : 1 ≤ t ∧ t ≤ 26 := threshold_bounds bias k
    have hpos : 0 < 36 - t := by omega
    have hlt := Nat.mod_lt (n - t) hpos
    have hr := number?_cons (digitValue?_digit _ (by omega)) h
    rw [if_neg (Nat.not_lt.2 (Nat.le_add_right t _))] at hr
    rw [ih hr]
    -- The digit and the number behind it make up the whole again.
    have hwhole : t + (n - t) % (36 - t) + (n - t) / (36 - t) * (36 - t) = n := by
      have hdiv := Nat.mod_add_div' (n - t) (36 - t)
      omega
    have hvalue : n * weight =
        (t + (n - t) % (36 - t)) * weight + (n - t) / (36 - t) * (weight * (36 - t)) := by
      rw [Nat.mul_comm weight, ← Nat.mul_assoc, ← Nat.add_mul, hwhole]
    rw [hvalue, Nat.add_assoc]

/-! ## Characters put into a label -/

theorem toNat_of_codePoint? {n : Nat} {c : Char} (h : codePoint? n = some c) : c.toNat = n := by
  unfold codePoint? at h
  split at h
  · rename_i hn
    have hvalid : n.isValidChar := by
      unfold Nat.isValidChar
      omega
    cases h
    rw [Char.ofNat, dif_pos hvalid]
    rfl
  · cases h

theorem insertAll?_of_ne_nil {count n i bias : Nat} {label text result : List Char}
    (htext : text ≠ []) (h : insertAll? count n i bias label text = some result) :
    ∃ left steps rest c, number? bias 36 1 i text = some (steps, rest) ∧
      c.toNat = n + steps / (label.length + 1) ∧
      insertAll? left c.toNat (steps % (label.length + 1) + 1)
        (adapt (i == 0) (steps - i) (label.length + 1))
        (label.take (steps % (label.length + 1)) ++ c :: label.drop (steps % (label.length + 1)))
        rest = some result := by
  cases text with
  | nil => exact absurd rfl htext
  | cons d text =>
    cases count with
    | zero => cases h
    | succ left =>
      rw [insertAll?] at h
      · simp only [Option.bind_eq_bind, Option.bind_eq_some_iff] at h
        obtain ⟨⟨steps, rest⟩, hnumber, c, hc, hresult⟩ := h
        have hcode := toNat_of_codePoint? hc
        rw [← hcode] at hresult
        exact ⟨left, steps, rest, c, hnumber, hcode, hresult⟩
      · exact htext

/-- The characters of a label stay where others are put into it, and those are no ASCII characters.
-/
theorem mem_of_insertAll? {count n i bias : Nat} {label text result : List Char} (hn : 128 ≤ n)
    (h : insertAll? count n i bias label text = some result) :
    (∀ c ∈ label, c ∈ result) ∧ (∀ c ∈ result, c ∈ label ∨ 128 ≤ c.toNat) ∧
      (text ≠ [] → ∃ c ∈ result, 128 ≤ c.toNat) := by
  induction count generalizing n i bias label text with
  | zero =>
    cases text with
    | nil =>
      cases h
      exact ⟨fun c hc => hc, fun c hc => .inl hc, fun hne => absurd rfl hne⟩
    | cons d text => cases h
  | succ count ih =>
    cases text with
    | nil =>
      cases h
      exact ⟨fun c hc => hc, fun c hc => .inl hc, fun hne => absurd rfl hne⟩
    | cons d text =>
      rw [insertAll?] at h
      · simp only [Option.bind_eq_bind, Option.bind_eq_some_iff] at h
        obtain ⟨⟨steps, rest⟩, -, c, hc, hresult⟩ := h
        have hcode := toNat_of_codePoint? hc
        have hlarge : 128 ≤ c.toNat := by
          rw [hcode]
          exact Nat.le_add_right_of_le hn
        obtain ⟨hold, hnew, -⟩ := ih (Nat.le_add_right_of_le hn) hresult
        have hmem : ∀ e, e ∈ label.take (steps % (label.length + 1)) ++
            c :: label.drop (steps % (label.length + 1)) ↔ e = c ∨ e ∈ label := by
          intro e
          rw [List.mem_append, List.mem_cons, or_left_comm, ← List.mem_append,
            List.take_append_drop]
        refine ⟨fun e he => hold e ((hmem e).2 (.inr he)), fun e he => ?_,
          fun _ => ⟨c, hold c ((hmem c).2 (.inl rfl)), hlarge⟩⟩
        rcases hnew e he with he | he
        · rcases (hmem e).1 he with rfl | he
          · exact .inr hlarge
          · exact .inl he
        · exact .inr he
      · simp

/-! ## What is written in a pass -/

/-- Whoever reads `written`, behind the characters `start`, comes to `label`, where `n` is the code
point of the last character and `i` the place behind it. -/
def ReadsTo (start written : List Char) (n i bias : Nat) (label : List Char) : Prop :=
  ∀ count more result, insertAll? count 128 0 72 start (written ++ more) = some result →
    ∃ left, insertAll? left n i bias label more = some result

/-- The characters of a label that are written when the code point `n` is due and the pass has come
over `before`. -/
def dueUpTo (n : Nat) (before behind : List Char) : List Char :=
  before.filter (·.toNat ≤ n) ++ behind.filter (·.toNat < n)

/-- What has been written in the midst of a pass is read up to the characters that the pass has come
to, and the steps since the last of them lead to the place where the pass is. -/
structure KeepsUp (head start : List Char) (n : Nat) (before behind : List Char) (s : Progress)
    (written : List Char) (m i : Nat) : Prop where
  out : s.out = head ++ written
  areDigits : ∀ c ∈ written, ∃ v < 36, c = digit v
  readsTo : ReadsTo start written m i s.bias (dueUpTo n before behind)
  le : m ≤ n
  count : s.count = (dueUpTo n before behind).length
  first : (i == 0) = (s.count == start.length)
  start_le : start.length ≤ s.count
  steps : i + s.steps = (n - m) * (s.count + 1) + (before.filter (·.toNat ≤ n)).length

variable {head start written before behind label : List Char} {n m i bias : Nat} {s : Progress}

theorem ReadsTo.next (h : ReadsTo start written m i bias label) {steps place : Nat} {c : Char}
    (hn : c.toNat = m + (i + steps) / (label.length + 1))
    (hplace : place = (i + steps) % (label.length + 1)) :
    ReadsTo start (written ++ digits bias 36 steps) c.toNat (place + 1)
      (adapt (i == 0) steps (label.length + 1)) (label.take place ++ c :: label.drop place) := by
  intro count more result hresult
  rw [List.append_assoc] at hresult
  obtain ⟨left, hleft⟩ := h count _ result hresult
  have hne : digits bias 36 steps ++ more ≠ [] := by simp [digits_ne_nil]
  obtain ⟨left, total, rest, d, hnumber, hd, hrest⟩ := insertAll?_of_ne_nil hne hleft
  cases eq_of_number?_digits hnumber
  rw [Nat.mul_one] at hd hrest
  have hsame : d = c := Char.toNat_inj.1 (hd.trans hn.symm)
  rw [hsame, ← hplace, Nat.add_sub_cancel_left] at hrest
  exact ⟨left, hrest⟩

/-- A character of a lower code point has been written before; the place moves over it. -/
theorem KeepsUp.passOver {c : Char} (h : KeepsUp head start n before (c :: behind) s written m i)
    (hc : c.toNat < n) :
    KeepsUp head start n (before ++ [c]) behind { s with steps := s.steps + 1 } written m i := by
  obtain ⟨hout, hdigits, hreads, hle, hcount, hfirst, hstart, hsteps⟩ := h
  have hdue : dueUpTo n (before ++ [c]) behind = dueUpTo n before (c :: behind) := by
    simp [dueUpTo, hc, hc.le]
  have hlength : ((before ++ [c]).filter (·.toNat ≤ n)).length =
      (before.filter (·.toNat ≤ n)).length + 1 := by
    simp [hc.le]
  refine ⟨hout, hdigits, ?_, hle, ?_, hfirst, hstart, ?_⟩
  · rw [hdue]
    exact hreads
  · rw [hdue]
    exact hcount
  · rw [hlength, ← Nat.add_assoc, ← Nat.add_assoc, hsteps]

/-- A character of a higher code point has to wait. -/
theorem KeepsUp.leave {c : Char} (h : KeepsUp head start n before (c :: behind) s written m i)
    (hc : n < c.toNat) : KeepsUp head start n (before ++ [c]) behind s written m i := by
  obtain ⟨hout, hdigits, hreads, hle, hcount, hfirst, hstart, hsteps⟩ := h
  have hdue : dueUpTo n (before ++ [c]) behind = dueUpTo n before (c :: behind) := by
    simp [dueUpTo, hc.not_ge, hc.not_gt]
  have hbefore : (before ++ [c]).filter (·.toNat ≤ n) = before.filter (·.toNat ≤ n) := by
    simp [hc.not_ge]
  refine ⟨hout, hdigits, ?_, hle, ?_, hfirst, hstart, ?_⟩
  · rw [hdue]
    exact hreads
  · rw [hdue]
    exact hcount
  · rw [hbefore]
    exact hsteps

/-- A character that is due is written, by the steps since the last one. -/
theorem KeepsUp.write {c : Char} (h : KeepsUp head start n before (c :: behind) s written m i)
    (hc : c.toNat = n) :
    KeepsUp head start n (before ++ [c]) behind
      { out := s.out ++ digits s.bias 36 s.steps, steps := 0
        bias := adapt (s.count == start.length) s.steps (s.count + 1), count := s.count + 1 }
      (written ++ digits s.bias 36 s.steps) n ((before.filter (·.toNat ≤ n)).length + 1) := by
  obtain ⟨hout, hdigits, hreads, hle, hcount, hfirst, hstart, hsteps⟩ := h
  have hdue : dueUpTo n before (c :: behind) = dueUpTo n before behind := by
    simp [dueUpTo, hc]
  have hbefore : (before ++ [c]).filter (·.toNat ≤ n) = before.filter (·.toNat ≤ n) ++ [c] := by
    simp [hc.le]
  rw [hdue] at hreads hcount
  have hplace : (before.filter (·.toNat ≤ n)).length < (dueUpTo n before behind).length + 1 := by
    rw [dueUpTo, List.length_append]
    omega
  -- The reader divides the steps into whole rounds over the label and the place in it.
  have hdiv : (i + s.steps) / ((dueUpTo n before behind).length + 1) = n - m := by
    rw [hsteps, hcount, Nat.mul_comm, Nat.mul_add_div (Nat.succ_pos _), Nat.div_eq_of_lt hplace,
      Nat.add_zero]
  have hmod : (before.filter (·.toNat ≤ n)).length =
      (i + s.steps) % ((dueUpTo n before behind).length + 1) := by
    rw [hsteps, hcount, Nat.mul_comm, Nat.mul_add_mod, Nat.mod_eq_of_lt hplace]
  have hcode : c.toNat = m + (i + s.steps) / ((dueUpTo n before behind).length + 1) := by
    rw [hdiv]
    omega
  have hput : (dueUpTo n before behind).take (before.filter (·.toNat ≤ n)).length ++
      c :: (dueUpTo n before behind).drop (before.filter (·.toNat ≤ n)).length =
        dueUpTo n (before ++ [c]) behind := by
    rw [dueUpTo, List.take_left, List.drop_left, dueUpTo, hbefore, List.append_assoc]
    rfl
  have hnext := hreads.next hcode hmod
  rw [hput, hc, hfirst, ← hcount] at hnext
  refine ⟨?_, fun d hd => ?_, hnext, le_refl n, ?_, ?_, Nat.le_add_right_of_le hstart, ?_⟩
  · rw [hout, List.append_assoc]
  · rcases List.mem_append.1 hd with hd | hd
    · exact hdigits d hd
    · exact exists_of_mem_digits hd
  · rw [← hput, List.length_append, List.length_cons, ← Nat.add_assoc, ← List.length_append,
      List.take_append_drop, hcount]
  · rw [Bool.eq_iff_iff, beq_iff_eq, beq_iff_eq]
    dsimp only
    omega
  · rw [hbefore, Nat.sub_self, Nat.zero_mul, List.length_append, Nat.zero_add]
    rfl

theorem KeepsUp.pass {c : Char}
    (h : KeepsUp head start n before (c :: behind) s written m i) :
    ∃ written' m' i', KeepsUp head start n (before ++ [c]) behind (pass start.length n s c)
      written' m' i' := by
  unfold Punycode.pass
  rcases Nat.lt_trichotomy c.toNat n with hlt | heq | hgt
  · rw [if_pos hlt]
    exact ⟨_, _, _, h.passOver hlt⟩
  · rw [if_neg heq.not_lt, if_pos heq]
    exact ⟨_, _, _, h.write heq⟩
  · rw [if_neg hgt.not_gt, if_neg hgt.ne']
    exact ⟨_, _, _, h.leave hgt⟩

theorem KeepsUp.foldl (h : KeepsUp head start n before behind s written m i) :
    ∃ written' m' i', KeepsUp head start n (before ++ behind) []
      (behind.foldl (Punycode.pass start.length n) s) written' m' i' := by
  induction behind generalizing before s written m i with
  | nil => exact ⟨written, m, i, by rwa [List.append_nil]⟩
  | cons c behind ih =>
    obtain ⟨written', m', i', hnext⟩ := h.pass
    obtain ⟨written', m', i', hlast⟩ := ih hnext
    rw [List.append_assoc] at hlast
    exact ⟨written', m', i', hlast⟩

/-- The steps up to the next code point, if no character of the label is in between. -/
theorem KeepsUp.skip {k : Nat} (h : KeepsUp head start n [] label s written m i) (hk : n ≤ k)
    (hnone : ∀ c ∈ label, n ≤ c.toNat → k ≤ c.toNat) :
    KeepsUp head start k [] label { s with steps := s.steps + (k - n) * (s.count + 1) }
      written m i := by
  obtain ⟨hout, hdigits, hreads, hle, hcount, hfirst, hstart, hsteps⟩ := h
  have hdue : dueUpTo k [] label = dueUpTo n [] label := by
    refine congrArg (_ ++ ·) (List.filter_congr fun c hc => ?_)
    have hc := hnone c hc
    rw [decide_eq_decide]
    omega
  refine ⟨hout, hdigits, ?_, hle.trans hk, ?_, hfirst, hstart, ?_⟩
  · rw [hdue]
    exact hreads
  · rw [hdue]
    exact hcount
  · have hsum : k - m = n - m + (k - n) := by omega
    dsimp only
    rw [← Nat.add_assoc, hsteps, hsum, Nat.add_mul]
    rfl

theorem KeepsUp.over (h : KeepsUp head start n label [] s written m i) :
    KeepsUp head start (n + 1) [] label { s with steps := s.steps + 1 } written m i := by
  obtain ⟨hout, hdigits, hreads, hle, hcount, hfirst, hstart, hsteps⟩ := h
  have hdue : dueUpTo (n + 1) [] label = dueUpTo n label [] := by
    rw [dueUpTo, dueUpTo, List.filter_nil, List.filter_nil, List.nil_append, List.append_nil]
    exact List.filter_congr fun c _ => decide_eq_decide.2 Nat.lt_succ_iff
  refine ⟨hout, hdigits, ?_, Nat.le_succ_of_le hle, ?_, hfirst, hstart, ?_⟩
  · rw [hdue]
    exact hreads
  · rw [hdue]
    exact hcount
  · have hall : s.count = (label.filter (·.toNat ≤ n)).length := by
      rw [hcount, dueUpTo, List.filter_nil, List.append_nil]
    rw [← hall] at hsteps
    have hsum : n + 1 - m = n - m + 1 := by omega
    dsimp only
    rw [← Nat.add_assoc, hsteps, hsum, Nat.add_mul, Nat.one_mul]
    rfl

theorem KeepsUp.passAll {codes : List Nat} (h : KeepsUp head start n [] label s written m i)
    (hcodes : codes.Pairwise (· < ·)) (hleast : ∀ k ∈ codes, n ≤ k)
    (hall : ∀ c ∈ label, n ≤ c.toNat → c.toNat ∈ codes) :
    ∃ written m i bias, (passAll label start.length n codes s).out = head ++ written ∧
      (∀ c ∈ written, ∃ v < 36, c = digit v) ∧ ReadsTo start written m i bias label := by
  induction codes generalizing n s written m i with
  | nil =>
    have hdue : dueUpTo n [] label = label := by
      refine List.filter_eq_self.2 fun c hc => decide_eq_true ?_
      by_contra hge
      exact List.not_mem_nil (hall c hc (Nat.le_of_not_lt hge))
    have hreads := h.readsTo
    rw [hdue] at hreads
    exact ⟨written, m, i, s.bias, h.out, h.areDigits, hreads⟩
  | cons k codes ih =>
    obtain ⟨hfirst, hcodes⟩ := List.pairwise_cons.1 hcodes
    have hnone : ∀ c ∈ label, n ≤ c.toNat → k ≤ c.toNat := by
      intro c hc hn
      rcases List.mem_cons.1 (hall c hc hn) with hc | hc
      · exact hc.ge
      · exact (hfirst _ hc).le
    obtain ⟨written, m, i, hpass⟩ := (h.skip (hleast k List.mem_cons_self) hnone).foldl
    refine ih hpass.over hcodes hfirst fun c hc hk => ?_
    rcases List.mem_cons.1 (hall c hc (by have := hleast k List.mem_cons_self; omega)) with hc | hc
    · omega
    · exact hc

/-! ## A label -/

theorem nodup_eraseDups (codes : List Nat) : codes.eraseDups.Nodup := by
  induction hlength : codes.length using Nat.strongRecOn generalizing codes with
  | _ length ih =>
    cases codes with
    | nil => exact List.nodup_nil
    | cons k codes =>
      rw [List.eraseDups_cons, List.nodup_cons, List.mem_eraseDups, List.mem_filter]
      refine ⟨fun h => by simp at h, ih _ ?_ _ rfl⟩
      have hle := List.length_filter_le (fun b => !b == k) codes
      rw [List.length_cons] at hlength
      omega

theorem pairwise_sorted_eraseDups (codes : List Nat) :
    codes.eraseDups.mergeSort.Pairwise (· < ·) := by
  have hsorted : codes.eraseDups.mergeSort.Pairwise fun a b => decide (a ≤ b) = true :=
    List.pairwise_mergeSort (fun a b c hab hbc => by simp at *; omega)
      (fun a b => by simp; omega) codes.eraseDups
  have hnodup := (List.mergeSort_perm codes.eraseDups (· ≤ ·)).nodup_iff.2 (nodup_eraseDups codes)
  refine (hsorted.and hnodup).imp fun {a b} h => ?_
  exact Nat.lt_of_le_of_ne (of_decide_eq_true h.1) h.2

def asciiPart (label : List Char) : List Char :=
  label.filter (·.toNat < 128)

/-- A label is written as its ASCII characters, the mark behind them, and digits that lead a reader
to the label. -/
theorem exists_encode_eq (label : List Char) : ∃ written,
    encode label =
      (if (asciiPart label).isEmpty then [] else asciiPart label ++ ['-']) ++ written ∧
    (∀ c ∈ written, ∃ v < 36, c = digit v) ∧
    ∀ count result, insertAll? count 128 0 72 (asciiPart label) written = some result →
      result = label := by
  have hdue : dueUpTo 128 [] label = asciiPart label := rfl
  have hstart : KeepsUp (if (asciiPart label).isEmpty then [] else asciiPart label ++ ['-'])
      (asciiPart label) 128 [] label
      ⟨if (asciiPart label).isEmpty then [] else asciiPart label ++ ['-'], 0, 72,
        (asciiPart label).length⟩ [] 128 0 := by
    refine ⟨(List.append_nil _).symm, nofun, fun count more result h => ⟨count, ?_⟩, le_rfl, ?_, ?_,
      le_rfl, by simp⟩
    · rwa [hdue]
    · rw [hdue]
    · simp
  obtain ⟨written, m, i, bias, hout, hdigits, hreads⟩ :=
    hstart.passAll (pairwise_sorted_eraseDups ((label.map Char.toNat).filter (128 ≤ ·)))
      (fun k hk => by
        rw [List.mem_mergeSort, List.mem_eraseDups, List.mem_filter] at hk
        exact of_decide_eq_true hk.2)
      (fun c hc hlarge => by
        rw [List.mem_mergeSort, List.mem_eraseDups, List.mem_filter]
        exact ⟨List.mem_map_of_mem hc, decide_eq_true hlarge⟩)
  refine ⟨written, hout, hdigits, fun count result h => ?_⟩
  obtain ⟨left, hleft⟩ := hreads count [] result (by rwa [List.append_nil])
  cases left <;> exact (Option.some.inj hleft).symm

theorem decode?_append {start written : List Char} (hstart : start ≠ [])
    (hwritten : '-' ∉ written) :
    decode? (start ++ '-' :: written) = insertAll? written.length 128 0 72 start written := by
  have hbehind : ∀ c ∈ written.reverse, decide (c ≠ '-') = true := fun c hc =>
    decide_eq_true (ne_of_mem_of_not_mem (List.mem_reverse.1 hc) hwritten)
  have hdigits : ((start ++ '-' :: written).reverse.takeWhile (· ≠ '-')).reverse = written := by
    rw [List.reverse_append, List.reverse_cons, List.append_assoc,
      List.takeWhile_append_of_pos hbehind]
    simp
  have htake : (start ++ '-' :: written).take ((start ++ '-' :: written).length - written.length) =
      start ++ ['-'] := by
    rw [List.append_cons, List.length_append, Nat.add_sub_cancel, List.take_left]
  unfold decode?
  dsimp only
  rw [hdigits, htake]
  split
  · rename_i h
    simp at h
  · rename_i h
    simp [hstart] at h
  · rw [List.dropLast_concat]

theorem decode?_of_notMem {written : List Char} (hwritten : '-' ∉ written) :
    decode? written = insertAll? written.length 128 0 72 [] written := by
  have hbehind : ∀ c ∈ written.reverse, decide (c ≠ '-') = true := fun c hc =>
    decide_eq_true (ne_of_mem_of_not_mem (List.mem_reverse.1 hc) hwritten)
  have hdigits : (written.reverse.takeWhile (· ≠ '-')).reverse = written := by
    rw [← List.append_nil written.reverse, List.takeWhile_append_of_pos hbehind]
    simp
  unfold decode?
  dsimp only
  rw [hdigits, Nat.sub_self, List.take_zero]

/-- If the ASCII form of a label can be read, it is read as the label. -/
theorem eq_of_decode?_encode {label result : List Char} (h : decode? (encode label) = some result) :
    result = label := by
  obtain ⟨written, hencode, hdigits, hreads⟩ := exists_encode_eq label
  have hmark : '-' ∉ written := by
    intro hmem
    obtain ⟨v, hv, hdigit⟩ := hdigits _ hmem
    exact digit_ne_mark v hv hdigit.symm
  rw [hencode] at h
  by_cases hascii : asciiPart label = []
  · rw [hascii, List.isEmpty_nil, if_pos rfl, List.nil_append, decode?_of_notMem hmark] at h
    rw [hascii] at hreads
    exact hreads _ _ h
  · rw [if_neg (by simpa using hascii), List.append_assoc, List.singleton_append,
      decode?_append hascii hmark] at h
    exact hreads _ _ h

/-- The ASCII form of a label has its ASCII characters, the mark behind them, and digits. -/
theorem mem_encode {label : List Char} {c : Char} (h : c ∈ encode label) :
    (c ∈ label ∧ c.toNat < 128) ∨ c = '-' ∨ ∃ v < 36, c = digit v := by
  obtain ⟨written, hencode, hdigits, -⟩ := exists_encode_eq label
  rw [hencode] at h
  rcases List.mem_append.1 h with h | h
  · split at h
    · cases h
    rcases List.mem_append.1 h with h | h
    · obtain ⟨hc, hsmall⟩ := List.mem_filter.1 h
      exact .inl ⟨hc, of_decide_eq_true hsmall⟩
    · exact .inr (.inl (List.mem_singleton.1 h))
  · exact .inr (.inr (hdigits c h))

/-- A text that does not end in a mark stands for a label with characters that are not in ASCII.
Those in ASCII are all in the text. -/
theorem mem_of_decode? {cs label : List Char} (h : decode? cs = some label) :
    (∀ c ∈ label, c ∈ cs ∨ 128 ≤ c.toNat) ∧
      (cs ≠ [] → cs.getLast? ≠ some '-' → ∃ c ∈ label, 128 ≤ c.toNat) := by
  have hdigits : cs ≠ [] → cs.getLast? ≠ some '-' →
      (cs.reverse.takeWhile (· ≠ '-')).reverse ≠ [] := by
    intro hne hlast
    rw [List.getLast?_eq_head?_reverse] at hlast
    cases hcs : cs.reverse with
    | nil => exact absurd (List.reverse_eq_nil_iff.1 hcs) hne
    | cons c rest =>
      have hc : c ≠ '-' := by simpa [hcs] using hlast
      simp [hc]
  unfold decode? at h
  dsimp only at h
  split at h
  · obtain ⟨-, hnew, hlarge⟩ := mem_of_insertAll? le_rfl h
    refine ⟨fun c hc => .inr ?_, fun hne hlast => hlarge (hdigits hne hlast)⟩
    exact (hnew c hc).resolve_left (List.not_mem_nil)
  · cases h
  · obtain ⟨-, hnew, hlarge⟩ := mem_of_insertAll? le_rfl h
    refine ⟨fun c hc => ?_, fun hne hlast => hlarge (hdigits hne hlast)⟩
    exact (hnew c hc).imp_left fun hc => List.mem_of_mem_take ((List.dropLast_sublist _).subset hc)

end RestRecords.Url.Punycode
