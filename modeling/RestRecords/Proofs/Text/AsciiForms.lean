import RestRecords.Text.CaseFold
import RestRecords.Text.Normal
import Mathlib.Data.List.Basic
/-!
# Forms of ASCII characters

Nothing in ASCII is put together, so a text in ASCII is its own normal form, and whatever is put
together or folds to something has no capital letter of ASCII.
-/

namespace RestRecords.Text

/-! ## Tables -/

theorem mem_of_getElem?_ofList {α β : Type} [BEq α] [LawfulBEq α] [Hashable α]
    {entries : List (α × β)} {k : α} {v : β} (h : (Std.HashMap.ofList entries)[k]? = some v) :
    (k, v) ∈ entries := by
  rw [Std.HashMap.ofList_eq_insertMany_empty, Std.HashMap.getElem?_insertMany_list,
    Std.HashMap.getElem?_empty, Option.or_none, List.findSomeRev?_eq_findSome?_reverse] at h
  obtain ⟨⟨k', v'⟩, hmem, hentry⟩ := List.exists_of_findSome?_eq_some h
  dsimp only at hentry
  split at hentry
  · rename_i hkey
    cases hentry
    exact eq_of_beq hkey ▸ List.mem_reverse.1 hmem
  · cases hentry

inductive Spells : List String → List (List Char) → Prop where
  | nil : Spells [] []
  | cons (cs : List Char) {lines : List String} {css : List (List Char)} (rest : Spells lines css) :
    Spells (String.ofList cs :: lines) (cs :: css)

def readChars (css : List (List Char)) : List (Nat × List Nat) :=
  let read := fun (r : EntryReader) (cs : List Char) => (cs.foldl EntryReader.step r).close
  (css.foldl read {}).done.flatMap fun (first, last, targets) =>
    (List.range (last + 1 - first)).map fun i => (first + i, targets.map (· + i))

theorem all_of_spells {lines : List String} {css : List (List Char)} {p : Nat × List Nat → Bool}
    (h : Spells lines css) (hall : (readChars css).all p) : (readEntries lines).all p := by
  have hread : ∀ r : EntryReader,
      lines.foldl (fun r line => (line.foldl EntryReader.step r).close) r =
        css.foldl (fun r cs => (cs.foldl EntryReader.step r).close) r := by
    clear hall
    induction h with
    | nil => exact fun r => rfl
    | cons cs rest ih =>
      intro r
      rw [List.foldl_cons, List.foldl_cons, String.foldl_eq_foldl_toList, String.toList_ofList, ih]
  rw [readEntries, hread]
  exact hall

set_option maxRecDepth 100000 in
theorem all_pairEntries : pairEntries.all fun e => 128 ≤ e.1 && e.2.any (128 ≤ ·) := by
  unfold pairEntries
  apply all_of_spells
  · repeat constructor
  · decide +kernel

theorem codes_of_mem_pairEntries {n : Nat} {pair : List Nat} (h : (n, pair) ∈ pairEntries) :
    128 ≤ n ∧ ∃ k ∈ pair, 128 ≤ k := by
  have hentry := List.all_eq_true.1 all_pairEntries _ h
  simpa using hentry

/-! ## Small letters -/

theorem toLower_eq_self {c : Char} (h : c.toNat < 65 ∨ 90 < c.toNat) : c.toLower = c := by
  unfold Char.toLower
  rw [dif_neg]
  rintro ⟨hlow, hhigh⟩
  have hlow : 65 ≤ c.toNat := hlow
  have hhigh : c.toNat ≤ 90 := hhigh
  omega

theorem toLower_ofNat {n : Nat} (h : 128 ≤ n) : (Char.ofNat n).toLower = Char.ofNat n := by
  by_cases hvalid : n.isValidChar
  · have hcode : (Char.ofNat n).toNat = n := by
      rw [Char.ofNat, dif_pos hvalid]
      rfl
    exact toLower_eq_self (.inr (by omega))
  · rw [Char.ofNat, dif_neg hvalid]
    rfl

theorem all_foldPairs : foldPairs.all fun e => (Char.ofNat e.2).toLower == Char.ofNat e.2 := by
  decide +kernel

theorem capitals_mem_foldPairs : ∀ n < 26, 65 + n ∈ foldPairs.map Prod.fst := by
  decide +kernel

theorem toLower_foldCase (c : Char) : (foldCase c).toLower = foldCase c := by
  unfold foldCase
  rw [Std.HashMap.getD_eq_getD_getElem?]
  cases hfold : foldTable[c.toNat]? with
  | some n =>
    have hmem := List.all_eq_true.1 all_foldPairs _ (mem_of_getElem?_ofList hfold)
    exact eq_of_beq hmem
  | none =>
    rw [Option.getD_none, Char.ofNat_toNat]
    refine toLower_eq_self (Classical.byContradiction fun hcapital => ?_)
    have hkey := capitals_mem_foldPairs (c.toNat - 65) (by omega)
    rw [show 65 + (c.toNat - 65) = c.toNat by omega] at hkey
    have hsome : foldTable.contains c.toNat := by
      rw [foldTable, Std.HashMap.contains_ofList]
      exact List.contains_iff_mem.2 hkey
    rw [Std.HashMap.contains_eq_isSome_getElem?, hfold] at hsome
    cases hsome

/-! ## Putting characters together -/

theorem toLower_of_composed? {c d e : Char} (h : composed? c d = some e) : e.toLower = e := by
  obtain ⟨n, hn, rfl⟩ := Option.map_eq_some_iff.1 h
  rcases Option.or_eq_some_iff.1 hn with hsyllable | ⟨-, hpair⟩
  · unfold syllable? at hsyllable
    split at hsyllable
    · have hcode := Option.some.inj hsyllable
      exact toLower_ofNat (by omega)
    split at hsyllable
    · have hcode := Option.some.inj hsyllable
      exact toLower_ofNat (by omega)
    · cases hsyllable
  · obtain ⟨⟨m, pair⟩, hmem, hentry⟩ := List.mem_map.1 (mem_of_getElem?_ofList hpair)
    cases hentry
    exact toLower_ofNat (codes_of_mem_pairEntries hmem).1

theorem composed?_of_ascii {c d : Char} (hc : c.toNat < 128) (hd : d.toNat < 128) :
    composed? c d = none := by
  have hsyllable : syllable? c.toNat d.toNat = none := by
    rw [syllable?, if_neg (by omega), if_neg (by omega)]
  have hpair : pairTable[[c.toNat, d.toNat]]? = none := by
    cases hpair : pairTable[[c.toNat, d.toNat]]? with
    | none => rfl
    | some n =>
      obtain ⟨⟨m, pair⟩, hmem, hentry⟩ := List.mem_map.1 (mem_of_getElem?_ofList hpair)
      cases hentry
      obtain ⟨-, k, hk, hlarge⟩ := codes_of_mem_pairEntries hmem
      simp only [List.mem_cons, List.not_mem_nil, or_false] at hk
      omega
  rw [composed?, hsyllable, hpair]
  rfl

/-! ## The normal form -/

theorem mem_sortMarks {marks cs : List Char} {c : Char} :
    c ∈ sortMarks marks cs ↔ c ∈ marks ∨ c ∈ cs := by
  induction cs generalizing marks with
  | nil => simp [sortMarks]
  | cons d cs ih =>
    rw [sortMarks]
    split
    · simp [ih]
    · rw [ih]
      simp [or_assoc]

namespace Composing

variable {p : Char → Prop} {g : Composing} {c : Char} {cs : List Char}

theorem forall_chars_push (hcomposed : ∀ c d e, composed? c d = some e → p e)
    (hg : ∀ d ∈ g.chars, p d) (hc : p c) : ∀ d ∈ (g.push c).chars, p d := by
  unfold push
  dsimp only
  split
  · rename_i joined hjoined
    obtain ⟨starter, -, hjoined⟩ := Option.bind_eq_some_iff.1 hjoined
    split at hjoined
    · intro d hd
      simp only [chars, List.mem_append, Option.toList_some, List.mem_singleton] at hd hg
      rcases hd with (hd | rfl) | hd
      · exact hg d (.inl (.inl hd))
      · exact hcomposed _ _ _ hjoined
      · exact hg d (.inr hd)
    · cases hjoined
  · split
    · exact List.forall_mem_cons.2 ⟨hc, hg⟩
    · exact List.forall_mem_cons.2 ⟨hc, hg⟩

theorem forall_chars_foldl (hcomposed : ∀ c d e, composed? c d = some e → p e)
    (hg : ∀ d ∈ g.chars, p d) (hcs : ∀ c ∈ cs, p c) : ∀ d ∈ (cs.foldl push g).chars, p d := by
  induction cs generalizing g with
  | nil => exact hg
  | cons c cs ih =>
    obtain ⟨hc, hcs⟩ := List.forall_mem_cons.1 hcs
    exact ih (forall_chars_push hcomposed hg hc) hcs

end Composing

/-- What holds for the characters of a text, and for everything that is put together, holds for the
characters of its normal form. -/
theorem forall_mem_recomposed {p : Char → Prop} {cs : List Char} (hcs : ∀ c ∈ cs, p c)
    (hcomposed : ∀ c d e, composed? c d = some e → p e) : ∀ c ∈ recomposed cs, p c := by
  have hsorted : ∀ c ∈ sortMarks [] cs, p c := fun c hc =>
    hcs c ((mem_sortMarks.1 hc).resolve_left List.not_mem_nil)
  have hnone : ∀ c ∈ Composing.chars {}, p c := fun c hc => absurd hc List.not_mem_nil
  intro c hc
  exact Composing.forall_chars_foldl hcomposed hnone hsorted c (List.mem_reverse.1 hc)

theorem combiningClass_of_ascii {c : Char} (h : c.toNat < 128) : combiningClass c = 0 :=
  if_pos (by omega)

theorem sortMarks_of_ascii {cs : List Char} (h : ∀ c ∈ cs, c.toNat < 128) :
    sortMarks [] cs = cs := by
  induction cs with
  | nil => simp [sortMarks]
  | cons c cs ih =>
    obtain ⟨hc, hcs⟩ := List.forall_mem_cons.1 h
    rw [sortMarks, if_pos (combiningClass_of_ascii hc), ih hcs, List.mergeSort_nil,
      List.nil_append]

namespace Composing

variable {g : Composing} {c : Char} {cs : List Char}

theorem push_of_ascii (hstarter : ∀ d ∈ g.starter, d.toNat < 128) (hc : c.toNat < 128) :
    g.push c = { before := g.chars, starter := some c } := by
  have hnone : (g.starter.bind fun s =>
      if g.marks.head?.all fun mark => combiningClass mark < combiningClass c then composed? s c
      else none) = none := by
    cases hs : g.starter with
    | none => rfl
    | some s => rw [Option.bind_some, composed?_of_ascii (hstarter s hs) hc, ite_self]
  unfold push
  dsimp only
  rw [hnone]
  exact if_pos (combiningClass_of_ascii hc)

theorem chars_foldl_of_ascii (hstarter : ∀ d ∈ g.starter, d.toNat < 128)
    (hcs : ∀ c ∈ cs, c.toNat < 128) : (cs.foldl push g).chars = cs.reverse ++ g.chars := by
  induction cs generalizing g with
  | nil => rfl
  | cons c cs ih =>
    obtain ⟨hc, hcs⟩ := List.forall_mem_cons.1 hcs
    rw [List.foldl_cons, push_of_ascii hstarter hc, ih (by rintro d ⟨⟩; exact hc) hcs,
      List.reverse_cons, List.append_assoc]
    rfl

end Composing

/-- A text in ASCII is its own normal form. -/
theorem recomposed_of_ascii {cs : List Char} (h : ∀ c ∈ cs, c.toNat < 128) :
    recomposed cs = cs := by
  have hnone : ∀ d ∈ (none : Option Char), d.toNat < 128 := by simp
  rw [recomposed, sortMarks_of_ascii h, Composing.chars_foldl_of_ascii hnone h, List.reverse_append,
    List.reverse_reverse]
  rfl

end RestRecords.Text
