import RestRecords.Proofs.Url.Addresses
import RestRecords.Proofs.Url.Domains
import RestRecords.Url.Reader
/-!
# Authorities read again

The written form of an authority of the web, with nothing of a path, a query or a fragment in it, is
read as the authority, if it can be read at all.
-/

namespace RestRecords.Url

open Text

/-! ## Hosts -/

namespace Host

/-- The hosts that are read of the texts of web schemes. -/
inductive IsServed : Host → Prop where
  | named {name : List Char} (written : Domain.IsWrittenName name) (ne_nil : name ≠ [])
    (notNumeric : Ipv4.isNumeric name = false) : IsServed (.named (String.ofList name))
  | ipv4 (address : UInt32) : IsServed (.ipv4 address)
  | ipv6 (address : Ipv6) : IsServed (.ipv6 address)

theorem readDomain_of_bracket {cs : List Char} : readDomain ('[' :: cs) = readBracketed cs := rfl

theorem readDomain_of_name {cs : List Char} (h : cs.head? ≠ some '[') :
    readDomain cs = match Domain.ascii? cs with
      | none => .error .invalidDomain
      | some [] => .error .emptyHost
      | some name =>
        if Ipv4.isNumeric name then
          match Ipv4.read? name with
          | some address => .ok (.ipv4 address)
          | none => .error .invalidIpv4
        else .ok (.named (String.ofList name)) := by
  unfold readDomain
  split
  · exact absurd rfl h
  · rfl

theorem exists_of_readBracketed {inner : List Char} {host : Host}
    (h : readBracketed (inner ++ [']']) = .ok host) :
    ∃ address, Ipv6.read? inner = some address ∧ host = .ipv6 address := by
  rw [readBracketed, List.reverse_append, List.reverse_singleton, List.singleton_append] at h
  simp only [List.reverse_reverse] at h
  split at h
  · rename_i address haddress
    cases h
    exact ⟨address, haddress, rfl⟩
  · cases h

theorem cases_of_readDomain {cs : List Char} {host : Host} (hhead : cs.head? ≠ some '[')
    (h : readDomain cs = .ok host) : ∃ name, Domain.ascii? cs = some name ∧ name ≠ [] ∧
      if Ipv4.isNumeric name then ∃ address, Ipv4.read? name = some address ∧ host = .ipv4 address
      else host = .named (String.ofList name) := by
  rw [readDomain_of_name hhead] at h
  split at h
  · cases h
  · cases h
  · rename_i name hne hname
    refine ⟨name, hname, hne, ?_⟩
    split at h
    · rename_i hnumeric
      rw [if_pos hnumeric]
      split at h
      · rename_i address haddress
        cases h
        exact ⟨address, haddress, rfl⟩
      · cases h
    · rename_i hnumeric
      rw [if_neg hnumeric]
      cases h
      rfl

theorem isServed_of_readDomain {cs : List Char} {host : Host} (h : readDomain cs = .ok host) :
    IsServed host := by
  by_cases hhead : cs.head? = some '['
  · obtain ⟨rest, rfl⟩ := List.head?_eq_some_iff.1 hhead
    rw [readDomain_of_bracket, readBracketed] at h
    split at h
    · split at h
      · cases h
        exact .ipv6 _
      · cases h
    · cases h
  · obtain ⟨name, hname, hne, hcases⟩ := cases_of_readDomain hhead h
    split at hcases
    · obtain ⟨address, -, rfl⟩ := hcases
      exact .ipv4 address
    · rename_i hnumeric
      rw [hcases]
      exact .named (Domain.isWrittenName_of_ascii? hname) hne (by simpa using hnumeric)

/-! ### The text of a host -/

theorem isWrittenName_ipv4 (address : UInt32) : Domain.IsWrittenName (Ipv4.text address) := by
  refine ⟨(Ipv4.bytes address).map natDigits, by simp [Ipv4.bytes], fun label hlabel => ?_,
    Ipv4.text_eq_intercalate address⟩
  obtain ⟨n, -, rfl⟩ := List.mem_map.1 hlabel
  exact Domain.isWritten_of_digits fun c => isDigit_of_mem_natDigits

theorem IsServed.written_or_ipv6 {host : Host} (h : IsServed host) :
    Domain.IsWrittenName host.text ∨ ∃ address, host = .ipv6 address := by
  cases h with
  | named written ne_nil notNumeric =>
    refine .inl ?_
    rw [text, String.toList_ofList]
    exact written
  | ipv4 address => exact .inl (isWrittenName_ipv4 address)
  | ipv6 address => exact .inr ⟨address, rfl⟩

theorem IsServed.text_ne_nil {host : Host} (h : IsServed host) : host.text ≠ [] := by
  cases h with
  | named written ne_nil notNumeric => rwa [text, String.toList_ofList]
  | ipv4 address =>
    rw [text, Ipv4.text_eq_intercalate, Ipv4.bytes]
    simp
  | ipv6 address => exact List.cons_ne_nil _ _

theorem head?_ne_bracket {cs : List Char} (h : Domain.IsWrittenName cs) : cs.head? ≠ some '[' :=
  fun hhead => h.notMem (by decide) (List.mem_of_head? hhead)

/-- The text of a host is read as the host, if it can be read. -/
theorem IsServed.eq_of_readDomain {host other : Host} (h : IsServed host)
    (hread : readDomain host.text = .ok other) : other = host := by
  cases h with
  | @named name written ne_nil notNumeric =>
    rw [text, String.toList_ofList] at hread
    obtain ⟨again, hagain, -, hcases⟩ := cases_of_readDomain (head?_ne_bracket written) hread
    rw [written.eq_of_ascii? hagain, notNumeric] at hcases
    exact hcases
  | ipv4 address =>
    have written := isWrittenName_ipv4 address
    obtain ⟨again, hagain, -, hcases⟩ := cases_of_readDomain (head?_ne_bracket written) hread
    rw [written.eq_of_ascii? hagain, Ipv4.isNumeric_text, if_pos rfl, Ipv4.read?_text] at hcases
    obtain ⟨same, hsame, heq⟩ := hcases
    cases hsame
    exact heq
  | ipv6 address =>
    obtain ⟨again, hagain, rfl⟩ := exists_of_readBracketed hread
    rw [Ipv6.read?_text] at hagain
    cases hagain
    rfl

theorem splitPort_bracketed {inner : List Char} (h : ']' ∉ inner) (rest : List Char) :
    splitPort true (inner ++ rest) =
      (inner ++ (splitPort true rest).1, (splitPort true rest).2) := by
  induction inner with
  | nil => rfl
  | cons c inner ih =>
    obtain ⟨hc, hinner⟩ := List.ne_and_not_mem_of_not_mem_cons h
    have hopen : (c == '[' || (true && c != ']')) = true := by simp [hc.symm]
    rw [List.cons_append, splitPort, if_neg (by simp), hopen, ih hinner]
    rfl

theorem splitPort_unbracketed {name : List Char} (hcolon : ':' ∉ name) (hbracket : '[' ∉ name)
    (rest : List Char) :
    splitPort false (name ++ rest) =
      (name ++ (splitPort false rest).1, (splitPort false rest).2) := by
  induction name with
  | nil => rfl
  | cons c name ih =>
    obtain ⟨hc, hname⟩ := List.ne_and_not_mem_of_not_mem_cons hcolon
    obtain ⟨hc', hname'⟩ := List.ne_and_not_mem_of_not_mem_cons hbracket
    have hclosed : (c == '[' || (false && c != ']')) = false := by simp [hc'.symm]
    rw [List.cons_append, splitPort, if_neg (by simp [hc.symm]), hclosed, ih hname hname']
    rfl

theorem IsServed.splitPort_text {host : Host} (h : IsServed host) (rest : List Char) :
    splitPort false (host.text ++ rest) =
      (host.text ++ (splitPort false rest).1, (splitPort false rest).2) := by
  rcases h.written_or_ipv6 with written | ⟨address, rfl⟩
  · exact splitPort_unbracketed (written.notMem (by decide)) (written.notMem (by decide)) rest
  · have hinner : ']' ∉ Ipv6.text address := by
      intro hmem
      have hall : ∀ d < 16, ']' ≠ d.digitChar := by decide
      rcases Ipv6.mem_text hmem with hc | ⟨d, hd, hc⟩
      · exact absurd hc (by decide)
      · exact hall d hd hc
    have hclose : splitPort true (']' :: rest) =
        (']' :: (splitPort false rest).1, (splitPort false rest).2) := rfl
    have hopen : splitPort false ('[' :: (Ipv6.text address ++ ']' :: rest)) =
        ('[' :: (splitPort true (Ipv6.text address ++ ']' :: rest)).1,
          (splitPort true (Ipv6.text address ++ ']' :: rest)).2) := rfl
    have htext : text (.ipv6 address) ++ rest = '[' :: (Ipv6.text address ++ ']' :: rest) := by
      simp [text]
    rw [htext, hopen, splitPort_bracketed hinner, hclose]
    simp [text]

end Host

/-! ## Authorities -/

def isServing (c : Char) : Bool :=
  0x20 < c.toNat && !(['#', '/', '?', '\\'].contains c)

theorem isServing_of_ne {c : Char} (h : 0x20 ≤ c.toNat)
    (hne : ∀ d ∈ [' ', '#', '/', '?', '\\'], c ≠ d) : isServing c = true := by
  have hblank : c.toNat ≠ 0x20 := fun hcode =>
    hne ' ' (by simp) (Char.toNat_inj.1 hcode)
  simp only [List.forall_mem_cons] at hne
  simp only [isServing, Bool.and_eq_true, decide_eq_true_eq, Bool.not_eq_true',
    List.contains_eq_mem, decide_eq_false_iff_not, List.mem_cons, not_or, List.not_mem_nil,
    not_false_eq_true, and_true]
  exact ⟨by omega, hne.2.1, hne.2.2.1, hne.2.2.2.1, hne.2.2.2.2.1⟩

theorem isServing_of_isPlain {c : Char} (h : Domain.IsPlain c) : isServing c = true := by
  refine isServing_of_ne ?_ fun d hd => h.ne ?_
  · have hallowed := h.isAllowed
    simp only [isForbiddenInDomain, Bool.or_eq_false_iff, decide_eq_false_iff_not] at hallowed
    omega
  · have hall : [' ', '#', '/', '?', '\\'].all isForbiddenInDomain = true := by decide
    exact List.all_eq_true.1 hall d hd

theorem Host.IsServed.isServing_text {host : Host} (h : host.IsServed) :
    ∀ c ∈ host.text, isServing c = true ∧ c ≠ '@' := by
  rcases h.written_or_ipv6 with written | ⟨address, rfl⟩
  · intro c hc
    rcases written.isPlain_or_point c hc with hc | rfl
    · exact ⟨isServing_of_isPlain hc, hc.ne (by decide)⟩
    · decide
  · have hdigits : ∀ d < 16, isServing d.digitChar = true ∧ d.digitChar ≠ '@' := by decide
    have hinner : ∀ c ∈ Ipv6.text address, isServing c = true ∧ c ≠ '@' := by
      intro c hc
      rcases Ipv6.mem_text hc with rfl | ⟨d, hd, rfl⟩
      · decide
      · exact hdigits d hd
    refine List.forall_mem_cons.2 ⟨by decide, List.forall_mem_append.2 ⟨hinner, ?_⟩⟩
    simp only [List.mem_singleton, forall_eq]
    decide

/-! ## Users and passwords -/

theorem encodesUserinfo_of_mem_percentEncode {cs : List Char} {c : Char}
    (h : c ∈ percentEncode encodesUserinfo cs) : encodesUserinfo c = false := by
  obtain ⟨d, -, h⟩ := List.mem_flatMap.1 h
  split at h
  · obtain ⟨b, -, h⟩ := List.mem_flatMap.1 h
    have hdigits : ∀ n < 16, encodesUserinfo (hexDigit n).toUpper = false := by decide
    simp only [encodedByte, hexDigits, List.nil_append, List.singleton_append, List.map_cons,
      List.map_nil, List.mem_cons, List.not_mem_nil, or_false] at h
    rcases h with rfl | rfl | rfl
    · decide
    · exact hdigits _ (Nat.mod_lt _ (by decide))
    · exact hdigits _ (Nat.mod_lt _ (by decide))
  · rename_i hd
    rw [List.mem_singleton.1 h]
    simpa using hd

theorem ne_of_encodesUserinfo {c d : Char} (hc : encodesUserinfo c = false)
    (hd : encodesUserinfo d = true) : c ≠ d := by
  rintro rfl
  rw [hc] at hd
  cases hd

theorem isServing_of_encodesUserinfo {c : Char} (h : encodesUserinfo c = false) :
    isServing c = true := by
  refine isServing_of_ne ?_ fun d hd => ne_of_encodesUserinfo h ?_
  · simp only [encodesUserinfo, encodesPath, encodesQuery, encodesControl, Bool.or_eq_false_iff,
      decide_eq_false_iff_not] at h
    omega
  · have hall : [' ', '#', '/', '?', '\\'].all encodesUserinfo = true := by decide
    exact List.all_eq_true.1 hall d hd

theorem percentEncode_of_forall {s : String} (h : ∀ c ∈ s.toList, encodesUserinfo c = false) :
    String.ofList (percentEncode encodesUserinfo s.toList) = s := by
  rw [percentEncode_eq_self h, String.ofList_toList]

/-! ## Ports -/

theorem of_readPort {scheme : String} {cs rest : List Char} {port : Option Nat}
    (h : readPort scheme cs = .ok (port, rest)) :
    ∀ n ∈ port, n ≤ 65535 ∧ defaultPort? scheme ≠ some n := by
  unfold readPort at h
  dsimp only at h
  split at h
  · cases h
  split at h
  · cases h
  rename_i hbound _
  cases h
  intro n hn
  split at hn
  · cases hn
  · rename_i hother
    cases hn
    simp only [Bool.or_eq_true, beq_iff_eq, not_or] at hother
    exact ⟨by omega, hother.2⟩

theorem readPort_nil (scheme : String) : readPort scheme [] = .ok (none, []) := rfl

theorem readPort_natDigits {scheme : String} {n : Nat} (hn : n ≤ 65535)
    (hother : defaultPort? scheme ≠ some n) :
    readPort scheme (natDigits n) = .ok (some n, []) := by
  have hspan : spanDigits (natDigits n) = (natDigits n, []) := by
    have hall := spanDigits_append_of_all
      (fun c (hc : c ∈ natDigits n) => isDigit_of_mem_natDigits hc)
      (show ∀ c ∈ ([] : List Char).head?, ¬isDigit c by simp)
    rwa [List.append_nil] at hall
  have hempty : (natDigits n).isEmpty = false := by simpa using natDigits_ne_nil n
  have hunusual : (defaultPort? scheme == some n) = false := by simpa using hother
  rw [readPort, hspan]
  dsimp only
  rw [digitsValue_natDigits, if_neg (by omega), hempty, hunusual]
  rfl

/-! ## Authorities -/

theorem exists_of_bind_eq_ok {ε α β : Type} {x : Except ε α} {f : α → Except ε β} {b : β}
    (h : x >>= f = .ok b) : ∃ a, x = .ok a ∧ f a = .ok b := by
  cases x with
  | error e => cases h
  | ok a => exact ⟨a, rfl, h⟩

theorem of_readHostAndPort {scheme : String} {cs rest : List Char} {host : Host}
    {port : Option Nat} (hspecial : isSpecial scheme = true)
    (h : readHostAndPort scheme cs = .ok (host, port, rest)) :
    Host.readDomain (splitPort false cs).1 = .ok host ∧
      readPort scheme ((splitPort false cs).2.getD []) = .ok (port, rest) := by
  unfold readHostAndPort at h
  simp only [hspecial, if_true] at h
  split at h
  · cases h
  obtain ⟨read, hhost, h⟩ := exists_of_bind_eq_ok h
  obtain ⟨found, hport, h⟩ := exists_of_bind_eq_ok h
  cases h
  exact ⟨hhost, hport⟩

namespace Authority

/-- An authority that is read of the text of a web scheme. -/
structure IsServed (scheme : String) (a : Authority) : Prop where
  user : ∀ c ∈ a.user.toList, encodesUserinfo c = false
  password : ∀ c ∈ a.password.toList, encodesUserinfo c = false
  host : a.host.IsServed
  port : ∀ n ∈ a.port, n ≤ 65535 ∧ defaultPort? scheme ≠ some n

variable {scheme : String} {a other : Authority} {cs userinfo place rest : List Char}
  {isLast : Bool}

theorem of_readAuthority (hsplit : (splitLast? '@' cs).getD ([], cs) = (userinfo, place))
    (h : readAuthority scheme isLast cs = .ok (a, rest)) :
    a.user = String.ofList (percentEncode encodesUserinfo (splitFirst ':' userinfo).1) ∧
      a.password =
        String.ofList (percentEncode encodesUserinfo ((splitFirst ':' userinfo).2.getD [])) ∧
      readHostAndPort scheme place = .ok (a.host, a.port, rest) := by
  unfold readAuthority at h
  cases hlast : splitLast? '@' cs
  all_goals
    rw [hlast] at hsplit
    cases hsplit
    simp only [hlast] at h
    split at h
    · cases h
    obtain ⟨⟨host, port, behind⟩, hplace, h⟩ := exists_of_bind_eq_ok h
    dsimp only at h
    split at h
    · cases h
    · cases h
      exact ⟨rfl, rfl, hplace⟩

theorem isServed_of_readAuthority (hspecial : isSpecial scheme = true)
    (h : readAuthority scheme isLast cs = .ok (a, rest)) : a.IsServed scheme := by
  obtain ⟨huser, hpassword, hplace⟩ := of_readAuthority rfl h
  obtain ⟨hhost, hport⟩ := of_readHostAndPort hspecial hplace
  refine ⟨fun c hc => ?_, fun c hc => ?_, Host.isServed_of_readDomain hhost, of_readPort hport⟩
  · rw [huser, String.toList_ofList] at hc
    exact encodesUserinfo_of_mem_percentEncode hc
  · rw [hpassword, String.toList_ofList] at hc
    exact encodesUserinfo_of_mem_percentEncode hc

/-! ### The text of an authority -/

def portText (a : Authority) : List Char :=
  match a.port with
  | some n => ':' :: natDigits n
  | .none => []

def userText (a : Authority) : List Char :=
  a.user.toList ++ if a.password.isEmpty then [] else ':' :: a.password.toList

theorem text_eq (a : Authority) : a.text =
    (if a.user.isEmpty && a.password.isEmpty then [] else a.userText ++ ['@']) ++ a.host.text ++
      a.portText := rfl

theorem splitPort_portText (a : Authority) :
    splitPort false a.portText = ([], a.port.map natDigits) := by
  unfold portText
  split <;> rename_i hport <;> rw [hport] <;> rfl

theorem isServing_portText (a : Authority) : ∀ c ∈ a.portText, isServing c = true ∧ c ≠ '@' := by
  unfold portText
  split
  · refine List.forall_mem_cons.2 ⟨by decide, fun c hc => ?_⟩
    have hplain := Domain.isPlain_of_isDigit (isDigit_of_mem_natDigits hc)
    exact ⟨isServing_of_isPlain hplain, hplain.ne (by decide)⟩
  · exact fun c hc => absurd hc List.not_mem_nil

namespace IsServed

variable (h : a.IsServed scheme)
include h

theorem isServing_userText : ∀ c ∈ a.userText, isServing c = true := by
  refine List.forall_mem_append.2 ⟨fun c hc => isServing_of_encodesUserinfo (h.user c hc), ?_⟩
  split
  · exact fun c hc => absurd hc List.not_mem_nil
  · exact List.forall_mem_cons.2 ⟨by decide, fun c hc =>
      isServing_of_encodesUserinfo (h.password c hc)⟩

theorem isServing_text : ∀ c ∈ a.text, isServing c = true := by
  rw [text_eq]
  refine List.forall_mem_append.2 ⟨List.forall_mem_append.2 ⟨?_, fun c hc => ?_⟩, fun c hc => ?_⟩
  · split
    · exact fun c hc => absurd hc List.not_mem_nil
    · exact List.forall_mem_append.2 ⟨h.isServing_userText,
        List.forall_mem_singleton.2 (by decide)⟩
  · exact (h.host.isServing_text c hc).1
  · exact (isServing_portText a c hc).1

theorem text_ne_nil : a.text ≠ [] := by
  have hhost := h.host.text_ne_nil
  rw [text_eq]
  simp [hhost]

theorem splitFirst_userText : (splitFirst ':' a.userText).1 = a.user.toList ∧
    (splitFirst ':' a.userText).2.getD [] = a.password.toList := by
  have hcolon : ':' ∉ a.user.toList := fun hmem => absurd (h.user _ hmem) (by decide)
  unfold userText
  split
  · rename_i hempty
    have hnone : a.password.toList = [] := by simpa using hempty
    rw [List.append_nil, splitFirst_of_notMem hcolon, hnone]
    exact ⟨rfl, rfl⟩
  · rw [splitFirst_append_cons hcolon]
    exact ⟨rfl, rfl⟩

theorem eq_of_readHostAndPort (hspecial : isSpecial scheme = true) {host : Host}
    {port : Option Nat}
    (hread : readHostAndPort scheme (a.host.text ++ a.portText) = .ok (host, port, rest)) :
    host = a.host ∧ port = a.port := by
  obtain ⟨hhost, hport⟩ := of_readHostAndPort hspecial hread
  rw [h.host.splitPort_text, splitPort_portText] at hhost hport
  rw [List.append_nil] at hhost
  refine ⟨h.host.eq_of_readDomain hhost, ?_⟩
  cases hgiven : a.port with
  | none =>
    rw [hgiven, Option.map_none, Option.getD_none, readPort_nil] at hport
    cases hport
    rfl
  | some n =>
    obtain ⟨hbound, hother⟩ := h.port n hgiven
    rw [hgiven, Option.map_some, Option.getD_some, readPort_natDigits hbound hother] at hport
    cases hport
    rfl

theorem splitLast?_text : (splitLast? '@' a.text).getD ([], a.text) =
    (a.userText, a.host.text ++ a.portText) := by
  have hplace : '@' ∉ a.host.text ++ a.portText := by
    refine fun hmem => (List.mem_append.1 hmem).elim (fun hmem => ?_) fun hmem => ?_
    · exact (h.host.isServing_text _ hmem).2 rfl
    · exact (isServing_portText a _ hmem).2 rfl
  rw [text_eq]
  split
  · rename_i hempty
    obtain ⟨huser, hpassword⟩ := Bool.and_eq_true_iff.1 hempty
    have hnone : a.userText = [] := by
      rw [userText, if_pos hpassword]
      simpa using huser
    rw [List.nil_append, splitLast?_of_notMem hplace, hnone]
    rfl
  · rw [List.append_assoc, List.append_assoc, List.singleton_append,
      splitLast?_append_cons _ hplace]
    rfl

/-- The text of an authority is read as the authority, if it can be read. -/
theorem eq_of_readAuthority (hspecial : isSpecial scheme = true)
    (hread : readAuthority scheme isLast a.text = .ok (other, rest)) : other = a := by
  obtain ⟨huser, hpassword, hplace⟩ := of_readAuthority h.splitLast?_text hread
  obtain ⟨hsame, hsame'⟩ := h.splitFirst_userText
  obtain ⟨hhost, hport⟩ := h.eq_of_readHostAndPort hspecial hplace
  rw [hsame, percentEncode_of_forall h.user] at huser
  rw [hsame', percentEncode_of_forall h.password] at hpassword
  cases a
  cases other
  dsimp only at huser hpassword hhost hport
  rw [huser, hpassword, hhost, hport]

end IsServed

end Authority

end RestRecords.Url
