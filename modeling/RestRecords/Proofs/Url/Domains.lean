import RestRecords.Proofs.Text.AsciiForms
import RestRecords.Proofs.Text.Splitting
import RestRecords.Proofs.Url.Punycode
import RestRecords.Url.Domain
import Mathlib.Data.List.Forall2
/-!
# Domain names read again

The ASCII form of a domain name is read as itself, if it can be read at all: it has no capital
letters and nothing that stands for something else, and what its labels in Punycode stand for is
written in the same way again.
-/

namespace RestRecords.Url.Domain

open Text

/-! ## Characters -/

/-- Whether a character may stand in the ASCII form of a domain name, between two points. -/
structure IsPlain (c : Char) : Prop where
  isAscii : c.toNat < 128
  isSmall : c.toLower = c
  ne_point : c ≠ '.'
  isAllowed : isForbiddenInDomain c = false

theorem IsPlain.ne {c d : Char} (h : IsPlain c) (hd : isForbiddenInDomain d = true) : c ≠ d := by
  rintro rfl
  rw [h.isAllowed] at hd
  cases hd

theorem isPlain_digit {v : Nat} (h : v < 36) : IsPlain (Punycode.digit v) := by
  have hall : ∀ v < 36, (Punycode.digit v).toNat < 128 ∧
      (Punycode.digit v).toLower = Punycode.digit v ∧ Punycode.digit v ≠ '.' ∧
        isForbiddenInDomain (Punycode.digit v) = false := by
    decide
  obtain ⟨hascii, hsmall, hpoint, hallowed⟩ := hall v h
  exact ⟨hascii, hsmall, hpoint, hallowed⟩

theorem isPlain_of_isDigit {c : Char} (h : isDigit c = true) : IsPlain c := by
  have hall : ∀ n < 10, (Char.ofNat (48 + n)).toNat < 128 ∧
      (Char.ofNat (48 + n)).toLower = Char.ofNat (48 + n) ∧ Char.ofNat (48 + n) ≠ '.' ∧
        isForbiddenInDomain (Char.ofNat (48 + n)) = false := by
    decide
  have hrange : 48 ≤ c.toNat ∧ c.toNat ≤ 57 := by
    simpa [isDigit, Char.le_def, UInt32.le_iff_toNat_le] using h
  have hc := hall (c.toNat - 48) (by omega)
  rw [Nat.add_sub_cancel' hrange.1, Char.ofNat_toNat] at hc
  obtain ⟨hascii, hsmall, hpoint, hallowed⟩ := hc
  exact ⟨hascii, hsmall, hpoint, hallowed⟩

theorem isPlain_mark : IsPlain '-' := by
  constructor <;> decide

theorem isPlain_of_mem_announcement : ∀ c ∈ announcement, IsPlain c := by
  intro c hc
  simp only [announcement, List.mem_cons, List.not_mem_nil, or_false] at hc
  rcases hc with rfl | rfl | rfl | rfl <;> constructor <;> decide

theorem toLower_of_mem_mapChar? {c d : Char} {cs : List Char} (h : mapChar? c = some cs)
    (hd : d ∈ cs) : d.toLower = d := by
  unfold mapChar? at h
  split at h
  · cases h
    rw [List.mem_singleton.1 hd]
    unfold Char.toLower
    grind
  rename_i hlarge
  split at h
  · cases h
    rw [List.mem_singleton.1 hd]
    exact toLower_eq_self (.inr (by omega))
  split at h
  · cases h
    cases hd
  split at h
  · cases h
  · cases h
    simp only [lowered, List.mem_flatMap, List.mem_map] at hd
    obtain ⟨e, -, f, ⟨g, -, rfl⟩, rfl⟩ := hd
    split
    · decide
    · exact toLower_foldCase g

theorem forall₂_of_mapM {α β : Type} {f : α → Option β} {as : List α} {bs : List β}
    (h : as.mapM f = some bs) : List.Forall₂ (fun a b => f a = some b) as bs := by
  induction as generalizing bs with
  | nil =>
    cases h
    exact .nil
  | cons a as ih =>
    simp only [List.mapM_cons, Option.bind_eq_bind, Option.pure_def, Option.bind_eq_some_iff] at h
    obtain ⟨b, hb, others, hothers, heq⟩ := h
    cases heq
    exact .cons hb (ih hothers)

theorem exists_of_mem_mapM {α β : Type} {f : α → Option β} {as : List α} {bs : List β}
    (h : as.mapM f = some bs) : ∀ b ∈ bs, ∃ a ∈ as, f a = some b := by
  intro b hb
  obtain ⟨i, hi, rfl⟩ := List.mem_iff_getElem.1 hb
  have hlength := (forall₂_of_mapM h).length_eq
  exact ⟨as[i], List.getElem_mem _, (forall₂_of_mapM h).get (by omega) hi⟩

/-- What a text of a domain name stands for has no capital letters of ASCII. -/
theorem toLower_of_mapped? {cs out : List Char} (h : mapped? cs = some out) :
    ∀ c ∈ out, c.toLower = c := by
  obtain ⟨parts, hparts, rfl⟩ := Option.map_eq_some_iff.1 h
  refine forall_mem_recomposed (fun c hc => ?_) fun _ _ _ => toLower_of_composed?
  obtain ⟨part, hpart, hc⟩ := List.mem_flatten.1 hc
  obtain ⟨d, -, hd⟩ := exists_of_mem_mapM hparts part hpart
  exact toLower_of_mem_mapChar? hd hc

theorem mapped?_of_ascii {cs : List Char} (hascii : ∀ c ∈ cs, c.toNat < 128)
    (hsmall : ∀ c ∈ cs, c.toLower = c) : mapped? cs = some cs := by
  have hparts : cs.mapM mapChar? = some (cs.map fun c => [c]) := by
    induction cs with
    | nil => rfl
    | cons c cs ih =>
      obtain ⟨hc, hcs⟩ := List.forall_mem_cons.1 hascii
      obtain ⟨hc', hcs'⟩ := List.forall_mem_cons.1 hsmall
      have hfirst : mapChar? c = some [c] := by rw [mapChar?, if_pos hc, hc']
      rw [List.mapM_cons, hfirst, ih hcs hcs']
      rfl
  rw [mapped?, hparts, Option.map_some, ← List.flatMap_def, List.flatMap_singleton',
    recomposed_of_ascii hascii]

/-! ## Labels -/

/-- Whether a label is in its ASCII form: its characters stand for themselves, and what is read of
it is written as the label again. -/
structure IsWritten (label : List Char) : Prop where
  isPlain : ∀ c ∈ label, IsPlain c
  asciiLabel_eq : ∀ m, meant? label = some m → asciiLabel m = label

theorem asciiLabel_of_ascii {label : List Char} (h : isAscii label = true) :
    asciiLabel label = label := if_pos h

theorem asciiLabel_of_not_ascii {label : List Char} (h : isAscii label = false) :
    asciiLabel label = announcement ++ Punycode.encode label := by
  rw [asciiLabel, if_neg (by simp [h])]

theorem isWritten_of_digits {label : List Char} (h : ∀ c ∈ label, isDigit c = true) :
    IsWritten label := by
  have hascii : isAscii label = true :=
    List.all_eq_true.2 fun c hc => decide_eq_true (isPlain_of_isDigit (h c hc)).isAscii
  have hunannounced : label.take 4 ≠ announcement := by
    intro htake
    have hx : 'x' ∈ label.take 4 := by simp [htake, announcement]
    exact absurd (h 'x' (List.mem_of_mem_take hx)) (by decide)
  refine ⟨fun c hc => isPlain_of_isDigit (h c hc), fun m hm => ?_⟩
  rw [meant?, if_pos hunannounced] at hm
  cases hm
  exact asciiLabel_of_ascii hascii

theorem isWritten_encode {label : List Char} (hascii : isAscii label = false)
    (hplain : ∀ c ∈ label, c.toNat < 128 → IsPlain c) :
    IsWritten (announcement ++ Punycode.encode label) := by
  refine ⟨fun c hc => ?_, fun m hm => ?_⟩
  · rcases List.mem_append.1 hc with hc | hc
    · exact isPlain_of_mem_announcement c hc
    · rcases Punycode.mem_encode hc with ⟨hc, hsmall⟩ | rfl | ⟨v, hv, rfl⟩
      · exact hplain c hc hsmall
      · exact isPlain_mark
      · exact isPlain_digit hv
  · have htake : (announcement ++ Punycode.encode label).take 4 = announcement := rfl
    have hdrop : (announcement ++ Punycode.encode label).drop 4 = Punycode.encode label := rfl
    rw [meant?, htake, if_neg (by simp), hdrop] at hm
    split at hm
    · cases hm
    obtain ⟨decoded, hdecoded, hm⟩ := Option.bind_eq_some_iff.1 hm
    split at hm
    · cases hm
      rw [Punycode.eq_of_decode?_encode hdecoded, asciiLabel_of_not_ascii hascii]
    · cases hm

theorem isWritten_of_meant_self {label : List Char} (hmeant : meant? label = some label)
    (hplain : ∀ c ∈ label, c.toNat < 128 → IsPlain c) : IsWritten (asciiLabel label) := by
  cases hascii : isAscii label with
  | false =>
    rw [asciiLabel_of_not_ascii hascii]
    exact isWritten_encode hascii hplain
  | true =>
    rw [asciiLabel_of_ascii hascii]
    refine ⟨fun c hc => hplain c hc (of_decide_eq_true (List.all_eq_true.1 hascii c hc)),
      fun m hm => ?_⟩
    rw [hmeant] at hm
    cases hm
    exact asciiLabel_of_ascii hascii

/-- What a label in Punycode stands for is not in ASCII, and its ASCII characters are in the label.
-/
theorem mem_of_meant? {label m : List Char} (hannounced : label.take 4 = announcement)
    (h : meant? label = some m) :
    isAscii m = false ∧ ∀ c ∈ m, c.toNat < 128 → c ∈ label := by
  rw [meant?, if_neg (not_not.2 hannounced)] at h
  split at h
  · cases h
  rename_i hbounds
  obtain ⟨decoded, hdecoded, h⟩ := Option.bind_eq_some_iff.1 h
  split at h
  · cases h
    obtain ⟨hmem, hlarge⟩ := Punycode.mem_of_decode? hdecoded
    -- The label does not end in the mark, so there is something behind the announcement.
    have hend : label.getLast? ≠ some '-' := by
      simp only [Bool.or_eq_true, beq_iff_eq, not_or] at hbounds
      exact hbounds.1.2
    have hlabel := List.take_append_drop 4 label
    rw [hannounced] at hlabel
    have hne : label.drop 4 ≠ [] := by
      intro hnil
      rw [hnil] at hlabel
      exact hend (hlabel ▸ rfl)
    have hlast : (label.drop 4).getLast? ≠ some '-' := by
      rwa [← hlabel, List.getLast?_append_of_ne_nil _ hne] at hend
    obtain ⟨c, hc, hcode⟩ := hlarge hne hlast
    refine ⟨List.all_eq_false.2 ⟨c, hc, by simpa using hcode⟩, fun d hd hsmall => ?_⟩
    exact List.mem_of_mem_drop ((hmem d hd).resolve_right (by omega))
  · cases h

theorem isWritten_asciiLabel {label m : List Char} (hmeant : meant? label = some m)
    (hplain : ∀ c ∈ label, c.toNat < 128 → IsPlain c) : IsWritten (asciiLabel m) := by
  by_cases hannounced : label.take 4 = announcement
  · obtain ⟨hascii, hmem⟩ := mem_of_meant? hannounced hmeant
    rw [asciiLabel_of_not_ascii hascii]
    exact isWritten_encode hascii fun c hc hsmall => hplain c (hmem c hc hsmall) hsmall
  · have hself : meant? label = some label := if_pos hannounced
    rw [hself] at hmeant
    cases hmeant
    exact isWritten_of_meant_self hself hplain

/-! ## Names -/

/-- Whether a text is the ASCII form of a domain name, as far as reading it again goes. -/
def IsWrittenName (cs : List Char) : Prop :=
  ∃ labels, labels ≠ [] ∧ (∀ label ∈ labels, IsWritten label) ∧ cs = ['.'].intercalate labels

theorem exists_of_ascii? {cs out : List Char} (h : ascii? cs = some out) :
    ∃ decoded mapped labels, decodedText? cs = some decoded ∧ mapped? decoded = some mapped ∧
      mapped.any isForbiddenInDomain = false ∧
      (splitWhere (· == '.') mapped).mapM meant? = some labels ∧
      out = ['.'].intercalate (labels.map asciiLabel) := by
  unfold ascii? at h
  simp only [Option.bind_eq_bind, Option.bind_eq_some_iff, Option.pure_def, Option.bind_none] at h
  obtain ⟨decoded, hdecoded, mapped, hmapped, h⟩ := h
  split at h
  · cases h
  rename_i hallowed
  obtain ⟨labels, hlabels, h⟩ := Option.bind_eq_some_iff.1 h
  split at h
  · cases h
  split at h
  · cases h
  · cases h
    exact ⟨decoded, mapped, labels, hdecoded, hmapped, by simpa using hallowed, hlabels, rfl⟩

theorem isWrittenName_of_ascii? {cs out : List Char} (h : ascii? cs = some out) :
    IsWrittenName out := by
  obtain ⟨decoded, mapped, labels, -, hmapped, hallowed, hlabels, rfl⟩ := exists_of_ascii? h
  have hlower := toLower_of_mapped? hmapped
  rw [List.any_eq_false] at hallowed
  refine ⟨labels.map asciiLabel, ?_, ?_, rfl⟩
  · have hlength := (forall₂_of_mapM hlabels).length_eq
    rintro hnil
    rw [List.map_eq_nil_iff.1 hnil, List.length_nil, List.length_eq_zero_iff] at hlength
    exact splitWhere_ne_nil _ _ hlength
  · intro written hwritten
    obtain ⟨m, hm, rfl⟩ := List.mem_map.1 hwritten
    obtain ⟨label, hlabel, hmeant⟩ := exists_of_mem_mapM hlabels m hm
    have hmem := mem_of_mem_splitWhere hlabel
    refine isWritten_asciiLabel hmeant fun c hc hascii => ?_
    obtain ⟨hc, hpoint⟩ := hmem c hc
    exact ⟨hascii, hlower c hc, by simpa using hpoint, by simpa using hallowed c hc⟩

theorem IsWrittenName.isPlain_or_point {cs : List Char} (h : IsWrittenName cs) :
    ∀ c ∈ cs, IsPlain c ∨ c = '.' := by
  obtain ⟨labels, -, hlabels, rfl⟩ := h
  intro c hc
  rcases mem_intercalate hc with rfl | ⟨label, hlabel, hc⟩
  · exact .inr rfl
  · exact .inl ((hlabels label hlabel).isPlain c hc)

theorem IsWrittenName.notMem {cs : List Char} {d : Char} (h : IsWrittenName cs)
    (hd : isForbiddenInDomain d = true) : d ∉ cs := by
  intro hmem
  rcases h.isPlain_or_point d hmem with hc | rfl
  · exact hc.ne hd rfl
  · exact absurd hd (by decide)

/-- The ASCII form of a domain name is read as itself, if it can be read. -/
theorem IsWrittenName.eq_of_ascii? {cs out : List Char} (h : IsWrittenName cs)
    (hout : ascii? cs = some out) : out = cs := by
  have hplain := h.isPlain_or_point
  obtain ⟨decoded, mapped, labels, hdecoded, hmapped, -, hlabels, rfl⟩ := exists_of_ascii? hout
  rw [decodedText?, if_neg (mt List.contains_iff_mem.1 (h.notMem (by decide)))] at hdecoded
  cases hdecoded
  have hself : mapped? cs = some cs := by
    refine mapped?_of_ascii (fun c hc => ?_) fun c hc => ?_
    · rcases hplain c hc with hc | rfl
      · exact hc.isAscii
      · decide
    · rcases hplain c hc with hc | rfl
      · exact hc.isSmall
      · decide
  rw [hself] at hmapped
  cases hmapped
  obtain ⟨written, hne, hwritten, rfl⟩ := h
  rw [splitWhere_intercalate hne fun label hlabel hmem =>
    ((hwritten label hlabel).isPlain _ hmem).ne_point rfl] at hlabels
  congr 1
  have hsame := forall₂_of_mapM hlabels
  clear hout hplain hself hne hlabels
  induction hsame with
  | nil => rfl
  | cons hm rest ih =>
    obtain ⟨hlabel, hwritten⟩ := List.forall_mem_cons.1 hwritten
    rw [List.map_cons, hlabel.asciiLabel_eq _ hm, ih hwritten]

end RestRecords.Url.Domain
