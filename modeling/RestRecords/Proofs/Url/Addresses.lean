import RestRecords.Proofs.Text.Numerals
import RestRecords.Proofs.Text.Splitting
import RestRecords.Url.Ipv4
import RestRecords.Url.Ipv6
/-!
# Addresses read again

The written form of an address is read as the address.
-/

namespace RestRecords.Url

open Text

/-! ## IPv4 addresses -/

namespace Ipv4

def bytes (address : UInt32) : List Nat :=
  [3, 2, 1, 0].map fun k => address.toNat / Nat.pow 256 k % 256

theorem lt_of_mem_bytes {address : UInt32} {n : Nat} (h : n ∈ bytes address) : n < 256 := by
  obtain ⟨k, -, rfl⟩ := List.mem_map.1 h
  exact Nat.mod_lt _ (by decide)

theorem text_eq_intercalate (address : UInt32) :
    text address = ['.'].intercalate ((bytes address).map natDigits) := by
  simp [text, bytes, List.intercalate, List.intersperse]

theorem parts_eq_splitWhere {cs : List Char}
    (h : (splitWhere (· == '.') cs).getLast? ≠ some []) : parts cs = splitWhere (· == '.') cs := by
  unfold parts
  dsimp only
  split
  · rename_i hreverse
    rw [List.getLast?_eq_head?_reverse, hreverse] at h
    exact absurd rfl h
  · rfl

theorem parts_text (address : UInt32) : parts (text address) = (bytes address).map natDigits := by
  have hsplit : splitWhere (· == '.') (text address) = (bytes address).map natDigits := by
    rw [text_eq_intercalate]
    refine splitWhere_intercalate (by simp [bytes]) fun part hpart => ?_
    obtain ⟨n, -, rfl⟩ := List.mem_map.1 hpart
    exact notMem_of_digits (by decide) fun c => isDigit_of_mem_natDigits
  rw [← hsplit]
  apply parts_eq_splitWhere
  rw [hsplit, List.getLast?_map]
  intro hlast
  obtain ⟨n, -, hnil⟩ := Option.map_eq_some_iff.1 hlast
  exact natDigits_ne_nil n hnil

theorem readPart?_natDigits : ∀ n < 256, readPart? (natDigits n) = some n := by
  decide +kernel

theorem isNumeric_text (address : UInt32) : isNumeric (text address) = true := by
  rw [isNumeric, parts_text, List.getLast?_map]
  cases hlast : (bytes address).getLast? with
  | none => simp [bytes] at hlast
  | some n =>
    have hlt := lt_of_mem_bytes (List.mem_of_getLast? hlast)
    simp [readPart?_natDigits n hlt]

theorem read?_text (address : UInt32) : read? (text address) = some address := by
  have hparts : ∀ ns : List Nat, (∀ n ∈ ns, n < 256) →
      (ns.map natDigits).mapM readPart? = some ns := by
    intro ns hns
    induction ns with
    | nil => rfl
    | cons n ns ih =>
      obtain ⟨hn, hns⟩ := List.forall_mem_cons.1 hns
      rw [List.map_cons, List.mapM_cons, readPart?_natDigits n hn, ih hns]
      rfl
  have hvalue : combine? 4 (bytes address) = some address.toNat := by
    have hlt := address.toNat_lt
    simp only [bytes, List.map_cons, List.map_nil, combine?, Nat.pow_eq]
    rw [if_pos (by omega), if_pos (by omega), if_pos (by omega), if_pos (by omega)]
    simp only [Option.map_some, Option.some.injEq]
    omega
  rw [read?, parts_text, hparts _ fun n => lt_of_mem_bytes, Option.bind_some, hvalue,
    Option.map_some, UInt32.ofNat_toNat]

end Ipv4

/-! ## IPv6 addresses -/

namespace Ipv6

def groupText (g : UInt16) : List Char :=
  Nat.toDigits 16 g.toNat

theorem hexValue?_digitChar : ∀ d < 16, hexValue? d.digitChar = some d := by
  decide

theorem exists_toDigits_eq (n : Nat) : ∃ ds : List Nat, Nat.toDigits 16 n = ds.map Nat.digitChar ∧
    (∀ d ∈ ds, d < 16) ∧ ds.foldl (fun n d => 16 * n + d) 0 = n := by
  induction n using Nat.strongRecOn with
  | _ n ih =>
    by_cases hsmall : n < 16
    · exact ⟨[n], Nat.toDigits_of_lt_base hsmall, by simp [hsmall], by simp⟩
    · obtain ⟨ds, hds, hlt, hvalue⟩ := ih (n / 16) (Nat.div_lt_self (by omega) (by decide))
      have hlast := Nat.mod_lt n (show 0 < 16 by decide)
      refine ⟨ds ++ [n % 16], ?_, ?_, ?_⟩
      · rw [Nat.toDigits_of_base_le (by decide) (by omega), hds, List.map_append]
        rfl
      · exact List.forall_mem_append.2 ⟨hlt, by simpa using hlast⟩
      · rw [List.foldl_append, hvalue, List.foldl_cons, List.foldl_nil]
        omega

theorem mapM_hexValue?_map {ds : List Nat} (h : ∀ d ∈ ds, d < 16) :
    (ds.map Nat.digitChar).mapM hexValue? = some ds := by
  induction ds with
  | nil => rfl
  | cons d ds ih =>
    obtain ⟨hd, hds⟩ := List.forall_mem_cons.1 h
    rw [List.map_cons, List.mapM_cons, hexValue?_digitChar d hd, ih hds]
    rfl

theorem groupText_ne_nil (g : UInt16) : groupText g ≠ [] :=
  Nat.toDigits_ne_nil

theorem exists_of_mem_groupText {g : UInt16} {c : Char} (h : c ∈ groupText g) :
    ∃ d < 16, c = d.digitChar := by
  obtain ⟨ds, hds, hlt, -⟩ := exists_toDigits_eq g.toNat
  rw [groupText, hds] at h
  obtain ⟨d, hd, rfl⟩ := List.mem_map.1 h
  exact ⟨d, hlt d hd, rfl⟩

theorem marks_notMem_groupText (g : UInt16) : ':' ∉ groupText g ∧ '.' ∉ groupText g := by
  have hall : ∀ d < 16, d.digitChar ≠ ':' ∧ d.digitChar ≠ '.' := by decide
  have hne : ∀ c ∈ groupText g, c ≠ ':' ∧ c ≠ '.' := by
    intro c hc
    obtain ⟨d, hd, rfl⟩ := exists_of_mem_groupText hc
    exact hall d hd
  exact ⟨fun h => (hne _ h).1 rfl, fun h => (hne _ h).2 rfl⟩

theorem readGroup?_groupText (g : UInt16) : readGroup? (groupText g) = some g := by
  have hlength : (groupText g).length ≤ 4 :=
    (Nat.length_toDigits_le_iff (by decide) (by decide)).2 g.toNat_lt
  obtain ⟨ds, hds, hlt, hvalue⟩ := exists_toDigits_eq g.toNat
  have hempty : (groupText g).isEmpty = false := by simp [groupText_ne_nil]
  rw [readGroup?, if_neg (by simp [hempty, hlength]), groupText, hds, mapM_hexValue?_map hlt,
    Option.map_some, hvalue, UInt16.ofNat_toNat]

/-! ### Groups -/

theorem groupsText_singleton (g : UInt16) : groupsText [g] = groupText g :=
  List.intercalate_singleton

theorem groupsText_cons_cons (g next : UInt16) (groups : List UInt16) :
    groupsText (g :: next :: groups) = groupText g ++ ':' :: groupsText (next :: groups) := by
  rw [groupsText, List.map_cons, List.map_cons, List.intercalate_cons_cons, List.append_assoc]
  rfl

theorem exists_groupsText_eq_cons (g : UInt16) (groups : List UInt16) :
    ∃ c rest, groupsText (g :: groups) = c :: rest ∧ c ≠ ':' := by
  obtain ⟨c, rest, hg⟩ := List.exists_cons_of_ne_nil (groupText_ne_nil g)
  have hc : c ≠ ':' := fun hc => (marks_notMem_groupText g).1 (by rw [hg, hc]; simp)
  cases groups with
  | nil => exact ⟨c, rest, by rw [groupsText_singleton, hg], hc⟩
  | cons next groups => exact ⟨c, _, by rw [groupsText_cons_cons, hg]; rfl, hc⟩

theorem readGroups?_map (last : Bool) (groups : List UInt16) :
    readGroups? last (groups.map groupText) = some groups := by
  induction groups with
  | nil => rfl
  | cons g groups ih =>
    cases groups with
    | nil =>
      have hpoint : (groupText g).contains '.' = false := by
        simpa using (marks_notMem_groupText g).2
      rw [List.map_singleton, readGroups?, hpoint, Bool.and_false, readGroup?_groupText]
      rfl
    | cons next groups =>
      rw [List.map_cons, List.map_cons, readGroups?, readGroup?_groupText, ← List.map_cons, ih]
      · rfl
      · simp

theorem readGroups?_groupsText (last : Bool) {groups : List UInt16} (h : groups ≠ []) :
    readGroups? last (splitWhere (· == ':') (groupsText groups)) = some groups := by
  have hsplit : splitWhere (· == ':') (groupsText groups) = groups.map groupText := by
    refine splitWhere_intercalate (by simpa using h) fun part hpart => ?_
    obtain ⟨g, -, rfl⟩ := List.mem_map.1 hpart
    exact (marks_notMem_groupText g).1
  rw [hsplit, readGroups?_map]

theorem readSide?_groupsText (last : Bool) (groups : List UInt16) :
    readSide? last (groupsText groups) = some groups := by
  cases groups with
  | nil => rfl
  | cons g groups =>
    obtain ⟨c, rest, hcons, -⟩ := exists_groupsText_eq_cons g groups
    have hempty : ¬(groupsText (g :: groups)).isEmpty := by simp [hcons]
    rw [readSide?, if_neg hempty, readGroups?_groupsText last (List.cons_ne_nil g groups)]

/-! ### The run that is left out -/

theorem splitRun?_cons {c : Char} {rest : List Char} (h : c ≠ ':' ∨ rest.head? ≠ some ':') :
    splitRun? (c :: rest) =
      (splitRun? rest).map fun (before, after) => (c :: before, after) := by
  rw [splitRun?]
  rintro after rfl rfl
  rcases h with h | h <;> exact h rfl

theorem splitRun?_append {part : List Char} (h : ':' ∉ part) (rest : List Char) :
    splitRun? (part ++ rest) =
      (splitRun? rest).map fun (before, after) => (part ++ before, after) := by
  induction part with
  | nil => simp
  | cons c part ih =>
    obtain ⟨hc, hpart⟩ := List.ne_and_not_mem_of_not_mem_cons h
    rw [List.cons_append, splitRun?_cons (.inl hc.symm), ih hpart, Option.map_map]
    rfl

theorem splitRun?_groupsText (groups : List UInt16) (rest : List Char) :
    splitRun? (groupsText groups ++ rest) =
      (splitRun? rest).map fun (before, after) => (groupsText groups ++ before, after) := by
  induction groups with
  | nil => simp [groupsText]
  | cons g groups ih =>
    have hcolon := (marks_notMem_groupText g).1
    cases groups with
    | nil =>
      rw [groupsText_singleton]
      exact splitRun?_append hcolon rest
    | cons next groups =>
      obtain ⟨c, more, hcons, hc⟩ := exists_groupsText_eq_cons next groups
      have hhead : (groupsText (next :: groups) ++ rest).head? ≠ some ':' := by
        simpa [hcons] using hc
      rw [groupsText_cons_cons, List.append_assoc, splitRun?_append hcolon, List.cons_append,
        splitRun?_cons (.inr hhead), ih, Option.map_map, Option.map_map]
      congr 1
      funext ⟨before, after⟩
      simp

theorem take_leadingZeros (groups : List UInt16) :
    groups.take (leadingZeros groups) = List.replicate (leadingZeros groups) 0 := by
  rw [leadingZeros, ← List.prefix_iff_eq_take.1 (List.takeWhile_prefix _)]
  refine List.eq_replicate_iff.2 ⟨rfl, fun g hg => ?_⟩
  simpa using List.all_eq_true.1 List.all_takeWhile g hg

theorem take_longestRun (groups : List UInt16) :
    (groups.drop (longestRun groups).1).take (longestRun groups).2 =
      List.replicate (longestRun groups).2 0 := by
  induction groups with
  | nil => rfl
  | cons g groups ih =>
    rw [longestRun]
    dsimp only
    split
    · exact take_leadingZeros (g :: groups)
    · exact ih

/-- The groups on both sides of a run are read, and the run fills them up. -/
theorem read?_groupsText_run {left right : List UInt16} (h : left.length + right.length < 8) :
    read? (groupsText left ++ [':', ':'] ++ groupsText right) =
      ofGroups? (left ++ List.replicate (8 - left.length - right.length) 0 ++ right) := by
  have hsplit : splitRun? (groupsText left ++ [':', ':'] ++ groupsText right) =
      some (groupsText left, groupsText right) := by
    have hrun : splitRun? ([':', ':'] ++ groupsText right) = some ([], groupsText right) := by
      simp [splitRun?]
    rw [List.append_assoc, splitRun?_groupsText, hrun]
    simp
  rw [read?, hsplit]
  simp only [readSide?_groupsText, Option.bind_eq_bind, Option.bind_some]
  exact if_pos h

/-- Without its longest run an address has less than eight groups. -/
theorem longestRun_spec {address : Ipv6} {start length : Nat}
    (hrun : longestRun address.groups = (start, length)) (hlong : 2 ≤ length) :
    length = 8 - (address.groups.take start).length -
        (address.groups.drop (start + length)).length ∧
      (address.groups.take start).length + (address.groups.drop (start + length)).length < 8 ∧
      address.groups.take start ++ List.replicate length 0 ++ address.groups.drop (start + length) =
        address.groups := by
  have hzeros := take_longestRun address.groups
  rw [hrun] at hzeros
  have hlength := congrArg List.length hzeros
  simp only [List.length_take, List.length_drop, List.length_replicate, address.length_groups]
    at hlength ⊢
  refine ⟨by omega, by omega, ?_⟩
  rw [← hzeros, List.append_assoc, ← List.drop_drop, List.take_append_drop, List.take_append_drop]

/-- The written form is read as the address. -/
theorem read?_text (address : Ipv6) : read? (text address) = some address := by
  rcases hrun : longestRun address.groups with ⟨start, length⟩
  rw [text, hrun]
  dsimp only
  split
  · rename_i hlong
    obtain ⟨hlength, hlt, hfill⟩ := longestRun_spec hrun hlong
    rw [read?_groupsText_run hlt, ← hlength, hfill]
    exact dif_pos address.length_groups
  · have hne : address.groups ≠ [] := by
      intro hnil
      have hlength := address.length_groups
      rw [hnil] at hlength
      cases hlength
    have hnone : splitRun? (groupsText address.groups) = none := by
      have hsplit := splitRun?_groupsText address.groups []
      rwa [List.append_nil] at hsplit
    rw [read?, hnone]
    dsimp only
    rw [readGroups?_groupsText true hne]
    exact dif_pos address.length_groups

theorem mem_groupsText {groups : List UInt16} {c : Char} (h : c ∈ groupsText groups) :
    c = ':' ∨ ∃ d < 16, c = d.digitChar := by
  rcases mem_intercalate h with hc | ⟨part, hpart, hc⟩
  · exact .inl hc
  · obtain ⟨g, -, rfl⟩ := List.mem_map.1 hpart
    exact .inr (exists_of_mem_groupText hc)

theorem mem_text {address : Ipv6} {c : Char} (h : c ∈ text address) :
    c = ':' ∨ ∃ d < 16, c = d.digitChar := by
  unfold text at h
  dsimp only at h
  split at h
  · rcases List.mem_append.1 h with h | h
    · rcases List.mem_append.1 h with h | h
      · exact mem_groupsText h
      · exact .inl (by simpa using h)
    · exact mem_groupsText h
  · exact mem_groupsText h

end Ipv6

end RestRecords.Url
