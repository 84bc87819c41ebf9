import RestRecords.Proofs.Url.Authorities
/-!
# Where a URL leads

The scheme and the authority of a URL of the web are told by the text up to the first slash,
question mark or number sign behind the authority: whatever comes from there on, the text is read
with this scheme and this authority, or not at all.
-/

namespace RestRecords.Url

open Text

def IsWeb (scheme : String) : Prop :=
  scheme = "http" ∨ scheme = "https"

def originText (scheme : String) (a : Authority) : List Char :=
  scheme.toList ++ ':' :: '/' :: '/' :: a.text

/-- Whether a text does not go on with the authority behind which it stands. -/
def EndsAuthority (cs : List Char) : Prop :=
  ∀ c ∈ cs.head?, c = '/' ∨ c = '?' ∨ c = '#'

/-- A URL that is read of a text with a scheme of the web. -/
structure IsServed (u : Url) (a : Authority) : Prop where
  isWeb : IsWeb u.scheme
  authority : u.authority = some a
  isServed : a.IsServed u.scheme
  route : ∃ list, u.route = .segments list

theorem IsWeb.isSpecial {scheme : String} (h : IsWeb scheme) :
    Url.isSpecial scheme = true ∧ (scheme == "file") = false := by
  rcases h with rfl | rfl <;> decide

/-! ## What is read -/

variable {u : Url} {a : Authority} {scheme : String} {cs rest : List Char} {isLast : Bool}

theorem exists_readRoute (scheme : String) (cs : List Char) :
    ∃ list, (readRoute scheme cs).1 = .segments list := by
  unfold readRoute
  split
  · split <;> exact ⟨_, rfl⟩
  · exact ⟨_, rfl⟩

theorem exists_of_map_eq_ok {ε α β : Type} {x : Except ε α} {f : α → β} {b : β}
    (h : x.map f = .ok b) : ∃ a, x = .ok a ∧ f a = b := by
  cases x with
  | error e => cases h
  | ok a => exact ⟨a, rfl, Except.ok.inj h⟩

theorem of_readPlain (h : readPlain cs = .ok u) : ∃ rest isLast,
    readScheme? cs = some (u.scheme, rest) ∧
      readPlace u.scheme isLast (splitFirst '?' (splitFirst '#' rest).1).1 =
        .ok (u.authority, u.route) := by
  unfold readPlain at h
  split at h
  · cases h
  · rename_i scheme rest hscheme
    dsimp only at h
    obtain ⟨⟨authority, route⟩, hplace, h⟩ := exists_of_map_eq_ok h
    cases h
    exact ⟨rest, _, hscheme, hplace⟩

theorem of_readPlace (hweb : IsWeb scheme) {authority : Option Authority} {route : Route}
    (h : readPlace scheme isLast cs = .ok (authority, route)) : ∃ a rest isLast,
      authority = some a ∧ (∃ list, route = .segments list) ∧
        readAuthority scheme isLast ((cs.dropWhile (isSlash scheme)).takeWhile
          (!isSlash scheme ·)) = .ok (a, rest) := by
  obtain ⟨hspecial, hfile⟩ := hweb.isSpecial
  unfold readPlace at h
  rw [hfile, if_neg Bool.false_ne_true, hspecial, if_pos rfl, readServedPlace] at h
  obtain ⟨⟨a, rest⟩, hread, h⟩ := exists_of_map_eq_ok h
  cases h
  exact ⟨a, rest, _, rfl, exists_readRoute scheme _, hread⟩

theorem exists_isServed_of_read {s : String} (hweb : IsWeb u.scheme) (h : read s = .ok u) :
    ∃ a, u.IsServed a := by
  obtain ⟨rest, isLast, -, hplace⟩ := of_readPlain h
  obtain ⟨a, rest, isLast, hauthority, hroute, hread⟩ := of_readPlace hweb hplace
  exact ⟨a, hweb, hauthority, Authority.isServed_of_readAuthority hweb.isSpecial.1 hread, hroute⟩

/-! ## Reading what goes on behind an authority -/

theorem lt_of_mem_originText (hweb : IsWeb scheme) (ha : a.IsServed scheme) :
    ∀ c ∈ originText scheme a, 0x20 < c.toNat := by
  have hscheme : scheme.toList.all (fun c => 0x20 < c.toNat) = true := by
    rcases hweb with rfl | rfl <;> decide
  refine List.forall_mem_append.2 ⟨fun c hc => of_decide_eq_true (List.all_eq_true.1 hscheme c hc),
    List.forall_mem_cons.2 ⟨by decide, List.forall_mem_cons.2 ⟨by decide,
      List.forall_mem_cons.2 ⟨by decide, fun c hc => ?_⟩⟩⟩⟩
  have hserving := ha.isServing_text c hc
  exact of_decide_eq_true (Bool.and_eq_true_iff.1 hserving).1

/-- The characters that are dropped leave the text up to the end of the authority as it is. -/
theorem filter_strip_originText (hweb : IsWeb scheme) (ha : a.IsServed scheme) {tail : List Char}
    (hne : tail ≠ []) (htail : EndsAuthority tail) : ∃ rest, EndsAuthority rest ∧
      (strip isOuterBlank (originText scheme a ++ tail)).filter (!isIgnored ·) =
        originText scheme a ++ rest := by
  obtain ⟨c, tail, rfl⟩ := List.exists_cons_of_ne_nil hne
  have hlarge := lt_of_mem_originText hweb ha
  have hc := htail c rfl
  have hkept : isOuterBlank c = false ∧ isIgnored c = false := by
    rcases hc with rfl | rfl | rfl <;> decide
  have hfirst : ∀ d ∈ (originText scheme a).head?, isOuterBlank d = false := by
    intro d hd
    exact decide_eq_false (Nat.not_le.2 (hlarge d (List.mem_of_head? hd)))
  have hall : (originText scheme a).filter (!isIgnored ·) = originText scheme a := by
    refine List.filter_eq_self.2 fun d hd => ?_
    have hd := hlarge d hd
    simp only [isIgnored, Bool.not_eq_true', Bool.or_eq_false_iff, beq_eq_false_iff_ne]
    refine ⟨⟨?_, ?_⟩, ?_⟩ <;> rintro rfl <;> exact absurd hd (by decide)
  refine ⟨c :: (stripEnd isOuterBlank tail).filter (!isIgnored ·), ?_, ?_⟩
  · rintro d ⟨⟩
    exact hc
  · rw [strip_append_cons hfirst hkept.1, List.filter_append, hall,
      List.filter_cons_of_pos (by simp [hkept.2])]

theorem readScheme?_append (hweb : IsWeb scheme) (rest : List Char) :
    readScheme? (scheme.toList ++ ':' :: rest) = some (scheme, rest) := by
  rcases hweb with rfl | rfl <;> rfl

theorem head?_splitFirst {separator c : Char} (h : c ∈ (splitFirst separator cs).1.head?) :
    c ∈ cs.head? ∧ c ≠ separator := by
  cases cs with
  | nil => cases h
  | cons d cs =>
    rw [splitFirst] at h
    split at h
    · cases h
    · cases h
      exact ⟨rfl, ‹_›⟩

theorem ne_of_isServing {c d : Char} (hc : isServing c = true) (hd : isServing d = false) :
    c ≠ d := by
  rintro rfl
  rw [hd] at hc
  cases hc

theorem isSlash_of_isServing {c : Char} (h : isServing c = true) : isSlash scheme c = false := by
  have hslash := ne_of_isServing h (show isServing '/' = false by decide)
  have hback := ne_of_isServing h (show isServing '\\' = false by decide)
  simp [isSlash, hslash, hback]

theorem exists_place_eq (ha : a.IsServed scheme) {tail : List Char} (htail : EndsAuthority tail) :
    ∃ path, (splitFirst '?' (splitFirst '#' ('/' :: '/' :: a.text ++ tail)).1).1 =
        '/' :: '/' :: a.text ++ path ∧ ∀ c ∈ path.head?, isSlash scheme c = true := by
  have hnotMem : ∀ {d : Char}, isServing d = false → d ≠ '/' → d ∉ '/' :: '/' :: a.text := by
    intro d hd hslash hmem
    simp only [List.mem_cons, hslash, false_or] at hmem
    exact ne_of_isServing (ha.isServing_text d hmem) hd rfl
  rw [splitFirst_append (hnotMem (by decide) (by decide)),
    splitFirst_append (hnotMem (by decide) (by decide))]
  refine ⟨_, rfl, fun c hc => ?_⟩
  obtain ⟨hc, hquery⟩ := head?_splitFirst hc
  obtain ⟨hc, hfragment⟩ := head?_splitFirst hc
  rcases htail c hc with rfl | rfl | rfl
  · rfl
  · exact absurd rfl hquery
  · exact absurd rfl hfragment

theorem takeWhile_place (ha : a.IsServed scheme) {path : List Char}
    (hpath : ∀ c ∈ path.head?, isSlash scheme c = true) :
    (('/' :: '/' :: a.text ++ path).dropWhile (isSlash scheme)).takeWhile (!isSlash scheme ·) =
      a.text := by
  have hkeep : ∀ c ∈ a.text, (!isSlash scheme c) = true := fun c hc => by
    rw [isSlash_of_isServing (ha.isServing_text c hc)]
    rfl
  have hdrop : ('/' :: '/' :: a.text ++ path).dropWhile (isSlash scheme) = a.text ++ path := by
    obtain ⟨first, text, hfirst⟩ := List.exists_cons_of_ne_nil ha.text_ne_nil
    have hstop : ¬isSlash scheme first = true := by
      simpa using hkeep first (by simp [hfirst])
    rw [hfirst]
    exact (List.dropWhile_cons_of_pos rfl).trans
      ((List.dropWhile_cons_of_pos rfl).trans (List.dropWhile_cons_of_neg hstop))
  have hrest : path.takeWhile (!isSlash scheme ·) = [] := by
    cases path with
    | nil => rfl
    | cons c path => exact List.takeWhile_cons_of_neg (by simp [hpath c rfl])
  rw [hdrop, List.takeWhile_append_of_pos hkeep, hrest, List.append_nil]

theorem eq_of_readPlain (hweb : IsWeb scheme) (ha : a.IsServed scheme) {tail : List Char}
    (htail : EndsAuthority tail) (h : readPlain (originText scheme a ++ tail) = .ok u) :
    u.scheme = scheme ∧ u.authority = some a := by
  obtain ⟨rest, isLast, hscheme, hplace⟩ := of_readPlain h
  rw [originText, List.append_assoc, List.cons_append, readScheme?_append hweb] at hscheme
  obtain ⟨rfl, rfl⟩ := Prod.mk.inj (Option.some.inj hscheme)
  obtain ⟨a', rest, isLast, hauthority, -, hread⟩ := of_readPlace hweb hplace
  obtain ⟨path, hpath, hslash⟩ := exists_place_eq ha htail
  rw [hpath, takeWhile_place ha hslash] at hread
  rw [hauthority, ha.eq_of_readAuthority hweb.isSpecial.1 hread]
  exact ⟨rfl, rfl⟩

/-- Whatever stands behind an authority, a URL is read with this authority, if it is read. -/
theorem eq_of_read (hweb : IsWeb scheme) (ha : a.IsServed scheme) {tail : List Char}
    (hne : tail ≠ []) (htail : EndsAuthority tail)
    (h : read (String.ofList (originText scheme a ++ tail)) = .ok u) :
    u.scheme = scheme ∧ u.authority = some a := by
  obtain ⟨rest, hrest, hkept⟩ := filter_strip_originText hweb ha hne htail
  rw [read, String.toList_ofList, hkept] at h
  exact eq_of_readPlain hweb ha hrest h

/-! ## What is written -/

theorem EndsAuthority.append {before after : List Char} (hbefore : EndsAuthority before)
    (hafter : EndsAuthority after) : EndsAuthority (before ++ after) := by
  cases before with
  | nil => exact hafter
  | cons c before => exact hbefore

theorem endsAuthority_segments (list : List String) : EndsAuthority (Route.segments list).text := by
  cases list with
  | nil => exact nofun
  | cons s list =>
    rintro c ⟨⟩
    exact .inl rfl

theorem exists_query_fragment (u : Url) : ∃ query fragment, EndsAuthority query ∧
    EndsAuthority fragment ∧
      u.chars = u.scheme.toList ++ ':' :: u.placeText ++ query ++ fragment := by
  refine ⟨_, _, ?_, ?_, rfl⟩
  · split
    · rintro c ⟨⟩
      exact .inr (.inl rfl)
    · exact nofun
  · split
    · rintro c ⟨⟩
      exact .inr (.inr rfl)
    · exact nofun

/-- The text of a URL goes on behind the authority with the path, the query or the fragment. -/
theorem IsServed.exists_chars_eq (h : u.IsServed a) :
    ∃ tail, EndsAuthority tail ∧ u.chars = originText u.scheme a ++ tail := by
  obtain ⟨-, hauthority, -, list, hroute⟩ := h
  have hplace : u.placeText = '/' :: '/' :: a.text ++ u.route.text := by
    rw [placeText, hauthority]
  obtain ⟨query, fragment, hquery, hfragment, hchars⟩ := exists_query_fragment u
  refine ⟨u.route.text ++ (query ++ fragment), ?_, ?_⟩
  · rw [hroute]
    exact (endsAuthority_segments list).append (hquery.append hfragment)
  · rw [hchars, hplace, originText]
    simp only [List.append_assoc, List.cons_append]

theorem EndsAuthority.of_prefix {before cs : List Char} (hcs : EndsAuthority cs)
    (h : before <+: cs) : EndsAuthority before := by
  obtain ⟨after, rfl⟩ := h
  cases before with
  | nil => exact nofun
  | cons c before => exact hcs

theorem stripEnd_originText (ha : a.IsServed scheme) (tail : List Char) :
    stripEnd (· == '/') (originText scheme a ++ tail) =
      originText scheme a ++ stripEnd (· == '/') tail := by
  have hsplit : originText scheme a = (scheme.toList ++ [':', '/', '/']) ++ a.text := by
    simp [originText]
  refine stripEnd_append fun c hc => ?_
  rw [hsplit, List.getLast?_append_of_ne_nil _ ha.text_ne_nil] at hc
  have hserving := ha.isServing_text c (List.mem_of_getLast? hc)
  exact beq_eq_false_iff_ne.2 (ne_of_isServing hserving (by decide))

/-- Behind the text of a URL, without the slashes at its end, and another slash anything may follow.
-/
theorem IsServed.exists_joined_eq (h : u.IsServed a) (more : List Char) : ∃ tail, tail ≠ [] ∧
    EndsAuthority tail ∧
      stripEnd (· == '/') u.chars ++ '/' :: more = originText u.scheme a ++ tail := by
  obtain ⟨tail, htail, hchars⟩ := h.exists_chars_eq
  have hprefix : stripEnd (· == '/') tail <+: tail := by
    have hsuffix : tail.reverse.dropWhile (· == '/') <:+ tail.reverse := List.dropWhile_suffix _
    simpa [stripEnd] using List.reverse_prefix.2 hsuffix
  refine ⟨stripEnd (· == '/') tail ++ '/' :: more, by simp, (htail.of_prefix hprefix).append ?_, ?_⟩
  · rintro c ⟨⟩
    exact .inl rfl
  · rw [hchars, stripEnd_originText h.isServed, List.append_assoc]

end RestRecords.Url
