import RestRecords.Proofs.Binding.StoredForm
import RestRecords.Proofs.Json.Numbers
/-!
# Written texts read back

The text of a value reads as that value, as long as lists and objects nest no deeper than the reader
goes, and as no value otherwise. Integers must be words of 64 bits, keys must ascend, and doubles must
be among those that the reader gives back.
-/

namespace RestRecords.Json

open Text

/-- The values that can be read from their texts, if these are not too deep. -/
inductive Legible : Json → Prop where
  | null : Legible .null
  | bool (b : Bool) : Legible (.bool b)
  | int {i : Int} (word : IsWord i) : Legible (.int i)
  | float {x : FiniteDouble} (readBack : x.IsReadBack) : Legible (.float x)
  | str (s : String) : Legible (.str s)
  | arr {items : List Json} (parts : ∀ a ∈ items, Legible a) : Legible (.arr items)
  | obj {entries : List (String × Json)} (ascend : Ascends entries)
    (parts : ∀ e ∈ entries, Legible e.2) : Legible (.obj entries)

/-! ## Strings -/

theorem hexValue?_hexDigit : ∀ d < 16, hexValue? (hexDigit d) = some d := by
  decide

theorem codeUnit?_hexDigits {n : Nat} (h : n < UInt16.size) : ∃ a b c d,
    hexDigits 4 n = [a, b, c, d] ∧ codeUnit? a b c d = some n := by
  have hsize : UInt16.size = 65536 := rfl
  have hmod : ∀ m : Nat, m % 16 < 16 := fun m => Nat.mod_lt m (by decide)
  refine ⟨_, _, _, _, rfl, ?_⟩
  simp only [codeUnit?, hexValue?_hexDigit _ (hmod _), Option.bind_eq_bind, Option.bind_some,
    Option.pure_def, Option.some.injEq]
  omega

theorem readStringBody_escape (c : Char) (rest : List Char) :
    readStringBody (escape c ++ rest) =
      (readStringBody rest).map fun (s, r) => (c :: s, r) := by
  unfold escape
  split
  all_goals try rfl
  rename_i hquote hbackslash _ _ _ _ _
  split
  · rename_i hcontrol
    have hsmall : c.toNat < UInt16.size := Nat.lt_trans hcontrol (by decide)
    obtain ⟨a, b, e, d, hdigits, hunit⟩ := codeUnit?_hexDigits hsmall
    have hlow : c.toNat < 0xD800 ∨ 0xDFFF < c.toNat := by omega
    rw [hdigits]
    show readStringBody ('\\' :: 'u' :: a :: b :: e :: d :: rest) = _
    rw [readStringBody, hunit]
    simp only [if_pos hlow, Char.ofNat_toNat]
  · rename_i hplain
    show readStringBody (c :: rest) = _
    rw [readStringBody, if_neg hplain]
    · exact hquote
    · exact fun _ _ _ _ _ h _ => hbackslash h
    · exact fun _ _ h _ => hbackslash h

theorem readStringBody_flatMap (cs rest : List Char) :
    readStringBody (cs.flatMap escape ++ '"' :: rest) = some (cs, rest) := by
  induction cs with
  | nil => rfl
  | cons c cs ih =>
    rw [List.flatMap_cons, List.append_assoc, readStringBody_escape, ih]
    rfl

theorem writeString_append (s : String) (rest : List Char) :
    writeString s ++ rest = '"' :: (s.toList.flatMap escape ++ '"' :: rest) := by
  simp [writeString]

/-! ## What a text begins with -/

/-- What the text of a value begins with: no blank, and no bracket that closes. -/
def BeginsValue (cs : List Char) : Prop :=
  ∃ c rest, cs = c :: rest ∧ isSpace c = false ∧ c ≠ ']' ∧ c ≠ '\x7d'

theorem BeginsValue.append {cs : List Char} (h : BeginsValue cs) (rest : List Char) :
    BeginsValue (cs ++ rest) := by
  obtain ⟨c, left, rfl, hc⟩ := h
  exact ⟨c, left ++ rest, rfl, hc⟩

theorem beginsValue_of_isDigit {c : Char} (h : isDigit c) (rest : List Char) :
    BeginsValue (c :: rest) := by
  refine ⟨c, rest, rfl, isSpace_of_isDigit h, ?_, ?_⟩ <;> rintro rfl <;> cases h

theorem beginsValue_write (j : Json) : BeginsValue (write j) := by
  have hopen : ∀ {c : Char} (rest : List Char), isSpace c = false ∧ c ≠ ']' ∧ c ≠ '\x7d' →
      BeginsValue (c :: rest) := fun rest h => ⟨_, rest, rfl, h⟩
  cases j with
  | null => exact hopen _ (by decide)
  | bool b => cases b <;> exact hopen _ (by decide)
  | int i =>
    rw [write, intDigits]
    split
    · exact hopen _ (by decide)
    · obtain ⟨c, cs, hcons, hdigit⟩ := natDigits_eq_cons i.natAbs
      rw [hcons]
      exact beginsValue_of_isDigit hdigit cs
  | float x =>
    obtain ⟨c, cs, hcons, rfl | hdigit⟩ := render_eq_cons x
    · rw [write, hcons]
      exact hopen _ (by decide)
    · rw [write, hcons]
      exact beginsValue_of_isDigit hdigit cs
  | str s => exact hopen _ (by decide)
  | arr items => exact hopen _ (by decide)
  | obj entries => exact hopen _ (by decide)

/-- Whether a reader gives the values of depth `n` or less back from their texts, and nothing for
deeper ones. -/
def ReadsUpTo (n : Nat) (item : List Char → Reading Json) (a : Json) : Prop :=
  ∀ rest, EndsNumber rest →
    item (write a ++ rest) = if a.depth ≤ n then some (a, rest) else none

theorem readItems_writeItems {item : List Char → Reading Json} {n : Nat} {a : Json}
    {items : List Json} (h : ∀ b ∈ a :: items, ReadsUpTo n item b) {fuel : Nat}
    (hfuel : items.length ≤ fuel) (rest : List Char) :
    readItems item (fuel + 1) (writeItems (a :: items) ++ ']' :: rest) =
      if depthItems (a :: items) ≤ n then some (a :: items, rest) else none := by
  have hdepth : ∀ {a items}, depthItems (a :: items) ≤ n ↔ a.depth ≤ n ∧ depthItems items ≤ n :=
    Nat.max_le
  induction items generalizing a fuel with
  | nil =>
    have hread := h a List.mem_cons_self (']' :: rest) (.cons (by decide) rest)
    have hempty : depthItems [] ≤ n := Nat.zero_le n
    rw [writeItems, readItems, hread]
    by_cases hfirst : a.depth ≤ n
    · rw [if_pos hfirst, if_pos (hdepth.2 ⟨hfirst, hempty⟩)]
      rfl
    · rw [if_neg hfirst, if_neg fun hall => hfirst (hdepth.1 hall).1]
  | cons b items ih =>
    obtain ⟨fuel, rfl⟩ : ∃ left, fuel = left + 1 := ⟨fuel - 1, by simp at hfuel; omega⟩
    have hread := h a List.mem_cons_self (',' :: (writeItems (b :: items) ++ ']' :: rest))
      (.cons (by decide) _)
    have hrest := ih (fun e he => h e (List.mem_cons_of_mem a he))
      (show items.length ≤ fuel by simpa using hfuel)
    have htext : writeItems (a :: b :: items) ++ ']' :: rest =
        write a ++ ',' :: (writeItems (b :: items) ++ ']' :: rest) := by
      rw [writeItems, List.append_assoc, List.cons_append]
      exact nofun
    rw [htext, readItems, hread]
    by_cases hfirst : a.depth ≤ n
    · rw [if_pos hfirst]
      dsimp only
      rw [skipSpace_cons (by decide)]
      show (readItems item (fuel + 1) (writeItems (b :: items) ++ ']' :: rest)).map _ = _
      rw [hrest]
      by_cases hothers : depthItems (b :: items) ≤ n
      · rw [if_pos hothers, if_pos (hdepth.2 ⟨hfirst, hothers⟩)]
        rfl
      · rw [if_neg hothers, if_neg fun hall => hothers (hdepth.1 hall).2]
        rfl
    · rw [if_neg hfirst, if_neg fun hall => hfirst (hdepth.1 hall).1]

theorem readEntries_entry {item : List Char → Reading Json} {n : Nat} {a : Json} (key : String)
    (h : ReadsUpTo n item a) (fuel : Nat) {rest : List Char} (hrest : EndsNumber rest) :
    readEntries item (fuel + 1) (writeString key ++ ':' :: (write a ++ rest)) =
      if a.depth ≤ n then
        match skipSpace rest with
        | ',' :: rest => (readEntries item fuel rest).map fun (es, r) => ((key, a) :: es, r)
        | '\x7d' :: rest => some ([(key, a)], rest)
        | _ => none
      else none := by
  have hkey := readStringBody_flatMap key.toList (':' :: (write a ++ rest))
  have hcolon : skipSpace (':' :: (write a ++ rest)) = ':' :: (write a ++ rest) :=
    skipSpace_cons (by decide) _
  rw [writeString_append, readEntries, skipSpace_cons (by decide)]
  simp only [hkey, hcolon, h rest hrest, String.ofList_toList]
  by_cases hdepth : a.depth ≤ n
  · rw [if_pos hdepth]
    exact (if_pos hdepth).symm
  · rw [if_neg hdepth]
    exact (if_neg hdepth).symm

theorem readEntries_writeEntries {item : List Char → Reading Json} {n : Nat} {e : String × Json}
    {entries : List (String × Json)} (h : ∀ f ∈ e :: entries, ReadsUpTo n item f.2) {fuel : Nat}
    (hfuel : entries.length ≤ fuel) (rest : List Char) :
    readEntries item (fuel + 1) (writeEntries (e :: entries) ++ '\x7d' :: rest) =
      if depthEntries (e :: entries) ≤ n then some (e :: entries, rest) else none := by
  have hdepth : ∀ {e : String × Json} {entries},
      depthEntries (e :: entries) ≤ n ↔ e.2.depth ≤ n ∧ depthEntries entries ≤ n :=
    Nat.max_le
  induction entries generalizing e fuel with
  | nil =>
    have hread := readEntries_entry e.1 (h e List.mem_cons_self) fuel
      (.cons (c := '\x7d') (by decide) rest)
    have hempty : depthEntries [] ≤ n := Nat.zero_le n
    have htext : writeEntries [e] ++ '\x7d' :: rest =
        writeString e.1 ++ ':' :: (write e.2 ++ '\x7d' :: rest) := by
      rw [writeEntries, List.append_assoc, List.cons_append]
    rw [htext, hread]
    by_cases hfirst : e.2.depth ≤ n
    · rw [if_pos hfirst, if_pos (hdepth.2 ⟨hfirst, hempty⟩)]
      rfl
    · rw [if_neg hfirst, if_neg fun hall => hfirst (hdepth.1 hall).1]
  | cons f entries ih =>
    obtain ⟨fuel, rfl⟩ : ∃ left, fuel = left + 1 := ⟨fuel - 1, by simp at hfuel; omega⟩
    have hread := readEntries_entry e.1 (h e List.mem_cons_self) (fuel + 1)
      (.cons (c := ',') (by decide) (writeEntries (f :: entries) ++ '\x7d' :: rest))
    have hrest := ih (fun g hg => h g (List.mem_cons_of_mem e hg))
      (show entries.length ≤ fuel by simpa using hfuel)
    have htext : writeEntries (e :: f :: entries) ++ '\x7d' :: rest =
        writeString e.1 ++ ':' ::
          (write e.2 ++ ',' :: (writeEntries (f :: entries) ++ '\x7d' :: rest)) := by
      rw [writeEntries]
      simp only [List.append_assoc, List.cons_append]
      exact nofun
    rw [htext, hread]
    by_cases hfirst : e.2.depth ≤ n
    · rw [if_pos hfirst, skipSpace_cons (by decide)]
      show (readEntries item (fuel + 1) (writeEntries (f :: entries) ++ '\x7d' :: rest)).map _ = _
      rw [hrest]
      by_cases hothers : depthEntries (f :: entries) ≤ n
      · rw [if_pos hothers, if_pos (hdepth.2 ⟨hfirst, hothers⟩)]
        rfl
      · rw [if_neg hothers, if_neg fun hall => hothers (hdepth.1 hall).2]
        rfl
    · rw [if_neg hfirst, if_neg fun hall => hfirst (hdepth.1 hall).1]

theorem length_le_writeItems (items : List Json) :
    items.length ≤ (writeItems items).length + 1 := by
  induction items with
  | nil => exact Nat.zero_le _
  | cons a items ih =>
    cases items with
    | nil => simp
    | cons b items =>
      rw [writeItems]
      · simp only [List.length_append, List.length_cons] at ih ⊢
        omega
      · exact nofun

theorem length_le_writeEntries (entries : List (String × Json)) :
    entries.length ≤ (writeEntries entries).length + 1 := by
  induction entries with
  | nil => exact Nat.zero_le _
  | cons e entries ih =>
    cases entries with
    | nil => simp
    | cons f entries =>
      rw [writeEntries]
      · simp only [List.length_append, List.length_cons] at ih ⊢
        omega
      · exact nofun

theorem readValue_list {cs : List Char} (h : BeginsValue cs) (n : Nat) :
    readValue (n + 1) ('[' :: cs) =
      (readItems (readValue n) (cs.length + 1) cs).map fun (vs, r) => (.arr vs, r) := by
  obtain ⟨c, left, rfl, hspace, hclose, -⟩ := h
  rw [readValue.eq_def]
  simp only [skipSpace_cons (show isSpace '[' = false from rfl), skipSpace_cons hspace]
  split
  · rename_i heq
    cases heq
    exact absurd rfl hclose
  · rfl

theorem readValue_object {cs : List Char} (h : BeginsValue cs) (n : Nat) :
    readValue (n + 1) ('\x7b' :: cs) =
      (readEntries (readValue n) (cs.length + 1) cs).map fun (es, r) => (ofEntries es, r) := by
  obtain ⟨c, left, rfl, hspace, -, hclose⟩ := h
  rw [readValue.eq_def]
  simp only [skipSpace_cons (show isSpace '\x7b' = false from rfl), skipSpace_cons hspace]
  split
  · rename_i heq
    cases heq
    exact absurd rfl hclose
  · rfl

theorem beginsValue_writeItems (a : Json) (items : List Json) :
    BeginsValue (writeItems (a :: items)) := by
  cases items with
  | nil => exact beginsValue_write a
  | cons b items =>
    rw [writeItems]
    · exact (beginsValue_write a).append _
    · exact nofun

theorem beginsValue_writeEntries (e : String × Json) (entries : List (String × Json)) :
    BeginsValue (writeEntries (e :: entries)) := by
  have hquote : ∀ rest, BeginsValue (writeString e.1 ++ rest) := by
    intro rest
    rw [writeString_append]
    exact ⟨'"', _, rfl, by decide⟩
  cases entries with
  | nil => exact hquote _
  | cons f entries =>
    rw [writeEntries]
    · rw [List.append_assoc]
      exact hquote _
    · exact nofun

theorem readsUpTo_arr {items : List Json} {n : Nat}
    (h : ∀ a ∈ items, ReadsUpTo n (readValue n) a) :
    ReadsUpTo (n + 1) (readValue (n + 1)) (.arr items) := by
  intro rest _
  have htext : write (.arr items) ++ rest = '[' :: (writeItems items ++ ']' :: rest) := by
    simp [write]
  rw [htext, depth]
  cases items with
  | nil =>
    rw [readValue.eq_def]
    rfl
  | cons a items =>
    have hfuel : items.length ≤ (writeItems (a :: items) ++ ']' :: rest).length := by
      have hlength := length_le_writeItems (a :: items)
      simp only [List.length_cons, List.length_append] at hlength ⊢
      omega
    rw [readValue_list ((beginsValue_writeItems a items).append _), readItems_writeItems h hfuel]
    by_cases hdepth : depthItems (a :: items) ≤ n
    · rw [if_pos hdepth, if_pos (Nat.succ_le_succ hdepth)]
      rfl
    · rw [if_neg hdepth, if_neg fun h => hdepth (Nat.le_of_succ_le_succ h)]
      rfl

theorem readsUpTo_obj {entries : List (String × Json)} {n : Nat} (ascend : Ascends entries)
    (h : ∀ e ∈ entries, ReadsUpTo n (readValue n) e.2) :
    ReadsUpTo (n + 1) (readValue (n + 1)) (.obj entries) := by
  intro rest _
  have htext : write (.obj entries) ++ rest =
      '\x7b' :: (writeEntries entries ++ '\x7d' :: rest) := by
    simp [write]
  rw [htext, depth]
  cases entries with
  | nil =>
    rw [readValue.eq_def]
    rfl
  | cons e entries =>
    have hfuel : entries.length ≤ (writeEntries (e :: entries) ++ '\x7d' :: rest).length := by
      have hlength := length_le_writeEntries (e :: entries)
      simp only [List.length_cons, List.length_append] at hlength ⊢
      omega
    rw [readValue_object ((beginsValue_writeEntries e entries).append _),
      readEntries_writeEntries h hfuel]
    by_cases hdepth : depthEntries (e :: entries) ≤ n
    · rw [if_pos hdepth, if_pos (Nat.succ_le_succ hdepth), Option.map_some]
      dsimp only
      rw [ofEntries_eq, ascend.sortEntries_eq]
    · rw [if_neg hdepth, if_neg fun h => hdepth (Nat.le_of_succ_le_succ h)]
      rfl

/-- The text of a value is read up to its end, unless lists and objects nest too deep in it. -/
theorem Legible.readsUpTo {j : Json} (h : Legible j) (n : Nat) : ReadsUpTo n (readValue n) j := by
  induction h generalizing n with
  | null =>
    intro rest _
    rw [readValue.eq_def]
    rfl
  | bool b =>
    intro rest _
    rw [readValue.eq_def]
    cases b <;> rfl
  | int word =>
    intro rest hrest
    exact readValue_intDigits word n hrest
  | float readBack =>
    intro rest hrest
    exact readValue_render readBack n hrest
  | str s =>
    intro rest _
    rw [write, writeString_append, readValue.eq_def]
    dsimp only
    rw [skipSpace_cons (by decide)]
    show (readStringBody (s.toList.flatMap escape ++ '"' :: rest)).map _ = _
    rw [readStringBody_flatMap, Option.map_some, String.ofList_toList]
    rfl
  | arr parts ih =>
    cases n with
    | zero =>
      intro rest _
      rw [readValue.eq_def]
      rfl
    | succ n => exact readsUpTo_arr fun a ha => ih a ha n
  | obj ascend parts ih =>
    cases n with
    | zero =>
      intro rest _
      rw [readValue.eq_def]
      rfl
    | succ n => exact readsUpTo_obj ascend fun e he => ih e he n

/-- The text of a value is read as the value, unless lists and objects nest too deep in it. -/
theorem Legible.read?_text {j : Json} (h : Legible j) :
    read? j.text = if j.depth ≤ maxDepth then some j else none := by
  have hread := h.readsUpTo maxDepth [] .nil
  rw [List.append_nil] at hread
  rw [read?, text, String.toList_ofList, hread]
  by_cases hdepth : j.depth ≤ maxDepth
  · rw [if_pos hdepth, if_pos hdepth]
    rfl
  · rw [if_neg hdepth, if_neg hdepth]

end RestRecords.Json
