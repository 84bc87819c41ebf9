import RestRecords.Text.Blank
import RestRecords.Text.Split
import Mathlib.Data.List.Basic
/-!
# Texts cut again

What a text is cut into when it is put together from parts in which the separator does not occur,
and what is left of it when its ends are stripped.
-/

namespace RestRecords.Text

variable {separator c : Char} {part before after rest : List Char} {parts : List (List Char)}
  {p : Char → Bool}

/-! ## Every separator -/

theorem splitWhere_eq_splitOnP (p : Char → Bool) (cs : List Char) :
    splitWhere p cs = cs.splitOnP p := by
  induction cs with
  | nil => rfl
  | cons c cs ih =>
    rw [splitWhere, List.splitOnP_cons_eq_if_modifyHead, ← ih]
    cases h : splitWhere p cs with
    | nil => exact absurd h (splitWhere_ne_nil p cs)
    | cons part parts => rfl

theorem splitWhere_intercalate (hne : parts ≠ []) (h : ∀ part ∈ parts, separator ∉ part) :
    splitWhere (· == separator) ([separator].intercalate parts) = parts := by
  rw [splitWhere_eq_splitOnP]
  exact List.splitOn_intercalate separator h hne

theorem mem_intercalate (h : c ∈ [separator].intercalate parts) :
    c = separator ∨ ∃ part ∈ parts, c ∈ part := by
  induction parts with
  | nil => cases h
  | cons part parts ih =>
    cases parts with
    | nil =>
      rw [List.intercalate_singleton] at h
      exact .inr ⟨part, List.mem_cons_self, h⟩
    | cons next parts =>
      rw [List.intercalate_cons_cons, List.append_assoc, List.mem_append, List.singleton_append,
        List.mem_cons] at h
      rcases h with h | h | h
      · exact .inr ⟨part, List.mem_cons_self, h⟩
      · exact .inl h
      · refine (ih h).imp_right fun ⟨other, hother, hc⟩ => ?_
        exact ⟨other, List.mem_cons_of_mem part hother, hc⟩

theorem mem_of_mem_splitWhere {cs : List Char} (h : part ∈ splitWhere p cs) :
    ∀ c ∈ part, c ∈ cs ∧ p c = false := by
  induction cs generalizing part with
  | nil =>
    rw [List.mem_singleton.1 h]
    exact fun c hc => absurd hc List.not_mem_nil
  | cons d cs ih =>
    have hlater : part ∈ splitWhere p cs → ∀ c ∈ part, c ∈ d :: cs ∧ p c = false :=
      fun h c hc => (ih h c hc).imp_left (List.mem_cons_of_mem d)
    rw [splitWhere] at h
    split at h
    · rcases List.mem_cons.1 h with rfl | h
      · exact fun c hc => absurd hc List.not_mem_nil
      · exact hlater h
    · rename_i hd
      cases hparts : splitWhere p cs with
      | nil => exact absurd hparts (splitWhere_ne_nil p cs)
      | cons first others =>
        rw [hparts] at h hlater ih
        rcases List.mem_cons.1 h with rfl | h
        · refine List.forall_mem_cons.2 ⟨⟨List.mem_cons_self, by simpa using hd⟩, fun c hc => ?_⟩
          exact (ih List.mem_cons_self c hc).imp_left (List.mem_cons_of_mem d)
        · exact hlater (List.mem_cons_of_mem first h)

/-! ## One separator -/

theorem splitFirst_append (h : separator ∉ before) (rest : List Char) :
    splitFirst separator (before ++ rest) =
      (before ++ (splitFirst separator rest).1, (splitFirst separator rest).2) := by
  induction before with
  | nil => rfl
  | cons c before ih =>
    obtain ⟨hc, hbefore⟩ := List.ne_and_not_mem_of_not_mem_cons h
    rw [List.cons_append, splitFirst, if_neg hc.symm, ih hbefore]
    rfl

theorem splitFirst_append_cons (h : separator ∉ before) (after : List Char) :
    splitFirst separator (before ++ separator :: after) = (before, some after) := by
  rw [splitFirst_append h, splitFirst, if_pos rfl, List.append_nil]

theorem splitFirst_of_notMem (h : separator ∉ before) :
    splitFirst separator before = (before, none) := by
  have hsplit := splitFirst_append h []
  rwa [splitFirst, List.append_nil] at hsplit

theorem splitLast?_of_notMem (h : separator ∉ after) : splitLast? separator after = none := by
  induction after with
  | nil => rfl
  | cons c after ih =>
    obtain ⟨hc, hafter⟩ := List.ne_and_not_mem_of_not_mem_cons h
    rw [splitLast?, ih hafter]
    exact if_neg hc.symm

theorem splitLast?_append_cons (before : List Char) (h : separator ∉ after) :
    splitLast? separator (before ++ separator :: after) = some (before, after) := by
  induction before with
  | nil =>
    rw [List.nil_append, splitLast?, splitLast?_of_notMem h]
    exact if_pos rfl
  | cons c before ih =>
    rw [List.cons_append, splitLast?, ih]

/-! ## The ends of a text -/

theorem stripEnd_append (h : ∀ c ∈ before.getLast?, p c = false) :
    stripEnd p (before ++ after) = before ++ stripEnd p after := by
  have hkeep : before.reverse.dropWhile p = before.reverse := by
    rw [List.getLast?_eq_head?_reverse] at h
    cases hreverse : before.reverse with
    | nil => rfl
    | cons c rest =>
      rw [hreverse] at h
      exact List.dropWhile_cons_of_neg (by simp [h c rfl])
  rw [stripEnd, List.reverse_append, List.dropWhile_append]
  split
  · rename_i hempty
    rw [hkeep, List.reverse_reverse, stripEnd, List.isEmpty_iff.1 hempty, List.reverse_nil,
      List.append_nil]
  · rw [List.reverse_append, List.reverse_reverse, stripEnd]

theorem strip_append_cons (hbefore : ∀ c ∈ before.head?, p c = false) (hc : p c = false)
    (after : List Char) : strip p (before ++ c :: after) = before ++ c :: stripEnd p after := by
  have hkeep : (before ++ c :: after).dropWhile p = before ++ c :: after := by
    cases before with
    | nil => exact List.dropWhile_cons_of_neg (by simp [hc])
    | cons d before => exact List.dropWhile_cons_of_neg (by simp [hbefore d rfl])
  have hlast : ∀ d ∈ (before ++ [c]).getLast?, p d = false := by simp [hc]
  rw [strip, hkeep, ← stripEnd, List.append_cons, stripEnd_append hlast, List.append_assoc,
    List.singleton_append]

end RestRecords.Text
