import RestRecords.Proofs.Client.Retry
/-!
# Where the headers of a call come from

The headers of a call lie in layers: the user agent, what the credentials show, what the request
brings, and what the client adds to every request. A name has the values of the highest layer that
mentions it, in whatever case, and nothing of the layers below. The credentials are asked before
every call, so what they show may change from one call of a request to the next.
-/

namespace RestRecords

namespace Headers

def IsPair (p : String × String) : Prop :=
  (name? p.1).isSome ∧ isValue p.2 = true

def valuesIn (pairs : List (String × String)) (name : String) : List String :=
  (pairs.filter fun p => sameName p.1 name).map Prod.snd

def highest (layers : List (List String)) : List String :=
  (layers.find? fun values => !values.isEmpty).getD []

def IsLower (h : Headers) : Prop :=
  ∀ name ∈ h.names, lowerCase name = name

/-- Headers with pairs put into them one after the other, each in place of one of the same name. -/
def insertAll (h : Headers) (pairs : List (String × String)) : Headers :=
  pairs.foldl (fun h p => h.insert (lowerCase p.1) p.2) h

def appendAll (h : Headers) (pairs : List (String × String)) : Headers :=
  pairs.foldl (fun h p => h.append (lowerCase p.1) p.2) h

end Headers

namespace Client

/-- The values of a name in the highest layer that mentions it: the user agent, then the last pair of
what the credentials show, then all pairs of the request, then the last pair of the client. -/
def layered (c : Client) (shown : Option Showing) (own defaults : List (String × String))
    (name : String) : List String :=
  Headers.highest [
    if Headers.sameName name "user-agent" then c.userAgent.toList else [],
    (Headers.valuesIn (Showing.counted shown) name).getLast?.toList,
    Headers.valuesIn own name,
    (Headers.valuesIn defaults name).getLast?.toList]

end Client

/-- Whether the headers that a client adds to every request are those that were given to it. -/
def Client.Adds (c : Client) (given : List (String × String)) : Prop :=
  ∃ built : Client, given.foldlM (fun (c : Client) p => c.withDefaultHeader p.1 p.2) {} = .ok built ∧
    c.defaultHeaders = built.defaultHeaders

def RequestOptions.Brings (o : RequestOptions) (given : List (String × String)) : Prop :=
  ∃ built : RequestOptions,
    given.foldlM (fun (o : RequestOptions) p => o.withHeader p.1 p.2) {} = .ok built ∧
      o.headers = built.headers

/-- Whether all headers that count of what credentials show are well formed. -/
def Showing.IsSound (shown : Option Showing) : Prop :=
  ∀ p ∈ Showing.counted shown, Headers.IsPair p

/-- Whether a call has the headers and the query that its layers say, and no others. -/
structure Call.IsLayered (c : Client) (shown : Option Showing) (options : RequestOptions)
    (own defaults : List (String × String)) (call : Call) : Prop where
  values : ∀ name, call.headers.values (Headers.lowerCase name) = c.layered shown own defaults name
  names : ∀ name ∈ call.headers.names,
    Headers.lowerCase name = name ∧ c.layered shown own defaults name ≠ []
  query : call.query =
    (c.defaultQuery.filter fun p => p.1 ∉ options.query.map Prod.fst) ++ options.query

namespace Headers

/-! ## Names -/

private theorem toLower_toLower (c : Char) : c.toLower.toLower = c.toLower := by
  unfold Char.toLower
  grind

theorem lowerCase_lowerCase (s : String) : lowerCase (lowerCase s) = lowerCase s := by
  have htwice : Char.toLower ∘ Char.toLower = Char.toLower := funext toLower_toLower
  simp only [lowerCase, String.toList_ofList, List.map_map, htwice]

theorem mem_names_iff {h : Headers} {name : String} : name ∈ h.names ↔ h.values name ≠ [] := by
  simp [names, values]

/-! ## One layer -/

theorem values_remove (h : Headers) (name other : String) :
    (h.remove name).values other = if name = other then [] else h.values other := by
  by_cases hn : name = other
  · simp [remove, values, hn]
  · have hkept (e : String × String) : (e.1 == other && e.1 != name) = (e.1 == other) := by
      by_cases he : e.1 = other
      · simp [he, Ne.symm hn]
      · simp [he]
    simp [remove, values, hn, List.filter_filter, hkept]

theorem values_insert (h : Headers) (name value other : String) :
    (h.insert name value).values other = if name = other then [value] else h.values other := by
  rw [insert, values_append, values_remove]
  split <;> simp

/-- The names of a layer have its values, and the others keep theirs. -/
theorem values_overlay (h layer : Headers) (name : String) :
    (h.overlay layer).values name =
      if layer.values name = [] then h.values name else layer.values name := by
  have hsplit : (h.overlay layer).values name =
      ((h.entries.filter fun e => !layer.names.contains e.1).filter fun e => e.1 == name).map
        Prod.snd ++ layer.values name := by
    rw [overlay, values, List.filter_append, List.map_append, values]
  rw [hsplit, List.filter_filter]
  split
  · rename_i hnone
    have hkept (e : String × String) :
        (e.1 == name && !layer.names.contains e.1) = (e.1 == name) := by
      by_cases he : e.1 = name
      · have habsent : name ∉ layer.names := fun hmem => mem_names_iff.1 hmem hnone
        simp [he, habsent]
      · simp [he]
    simp only [hkept]
    rw [hnone, List.append_nil, values]
  · rename_i hsome
    have hdropped : (h.entries.filter fun e => e.1 == name && !layer.names.contains e.1) = [] := by
      refine List.filter_eq_nil_iff.2 fun e _ he => ?_
      obtain ⟨hname, habsent⟩ := Bool.and_eq_true_iff.1 he
      rw [beq_iff_eq.1 hname] at habsent
      simp [mem_names_iff.2 hsome] at habsent
    rw [hdropped, List.map_nil, List.nil_append]

theorem valuesIn_cons (p : String × String) (pairs : List (String × String)) (name : String) :
    valuesIn (p :: pairs) name =
      if lowerCase p.1 = lowerCase name then p.2 :: valuesIn pairs name else valuesIn pairs name := by
  by_cases hp : lowerCase p.1 = lowerCase name <;> simp [valuesIn, sameName, hp]

theorem values_insertAll (h : Headers) (pairs : List (String × String)) (name : String) :
    (h.insertAll pairs).values (lowerCase name) =
      match (valuesIn pairs name).getLast? with
      | some value => [value]
      | none => h.values (lowerCase name) := by
  induction pairs generalizing h with
  | nil => rfl
  | cons p pairs ih =>
    rw [insertAll, List.foldl_cons, ← insertAll, ih, valuesIn_cons, values_insert]
    by_cases hp : lowerCase p.1 = lowerCase name
    · rw [if_pos hp, if_pos hp, List.getLast?_cons]
      cases (valuesIn pairs name).getLast? <;> rfl
    · rw [if_neg hp, if_neg hp]

/-- Pairs that are put behind headers all count. -/
theorem values_appendAll (h : Headers) (pairs : List (String × String)) (name : String) :
    (h.appendAll pairs).values (lowerCase name) =
      h.values (lowerCase name) ++ valuesIn pairs name := by
  induction pairs generalizing h with
  | nil => exact (List.append_nil _).symm
  | cons p pairs ih =>
    rw [appendAll, List.foldl_cons, ← appendAll, ih, valuesIn_cons, values_append]
    split <;> simp

theorem values_insertAll_empty (pairs : List (String × String)) (name : String) :
    (Headers.empty.insertAll pairs).values (lowerCase name) =
      (valuesIn pairs name).getLast?.toList := by
  rw [values_insertAll]
  cases (valuesIn pairs name).getLast? <;> rfl

theorem values_crown (h : Headers) (userAgent : Option String) (name : String) :
    (h.crown userAgent).values (lowerCase name) =
      if (if sameName name "user-agent" then userAgent.toList else []) = [] then
        h.values (lowerCase name)
      else if sameName name "user-agent" then userAgent.toList else [] := by
  have hname : sameName name "user-agent" = true ↔ "user-agent" = lowerCase name := by
    rw [sameName, beq_iff_eq, eq_comm]
    rfl
  cases userAgent with
  | none => simp [crown]
  | some userAgent =>
    rw [crown, values_insert]
    by_cases heq : "user-agent" = lowerCase name
    · rw [if_pos heq, if_pos (hname.2 heq)]
      rfl
    · rw [if_neg heq, if_neg (mt hname.1 heq), if_pos rfl]

theorem highest_cons (values : List String) (layers : List (List String)) :
    highest (values :: layers) = if values = [] then highest layers else values := by
  cases values <;> rfl

theorem highest_singleton (values : List String) : highest [values] = values := by
  cases values <;> rfl

/-! ## Lower case -/

theorem isLower_append {h : Headers} (hh : h.IsLower) {name : String}
    (hname : lowerCase name = name) (value : String) : (h.append name value).IsLower := by
  intro key hkey
  rw [names, append, List.map_append] at hkey
  rcases List.mem_append.1 hkey with hkey | hkey
  · exact hh key hkey
  · rwa [List.mem_singleton.1 hkey]

theorem IsLower.filter {h : Headers} (hh : h.IsLower) (p : String × String → Bool) :
    IsLower ⟨h.entries.filter p⟩ := by
  intro key hkey
  obtain ⟨e, he, rfl⟩ := List.mem_map.1 hkey
  exact hh e.1 (List.mem_map_of_mem (List.mem_filter.1 he).1)

theorem isLower_insert {h : Headers} (hh : h.IsLower) {name : String}
    (hname : lowerCase name = name) (value : String) : (h.insert name value).IsLower :=
  isLower_append (hh.filter _) hname value

theorem isLower_overlay {h layer : Headers} (hh : h.IsLower) (hlayer : layer.IsLower) :
    (h.overlay layer).IsLower := by
  intro key hkey
  rw [names, overlay, List.map_append] at hkey
  rcases List.mem_append.1 hkey with hkey | hkey
  · exact hh.filter _ key hkey
  · exact hlayer key hkey

theorem isLower_crown {h : Headers} (hh : h.IsLower) (userAgent : Option String) :
    (h.crown userAgent).IsLower := by
  cases userAgent with
  | none => exact hh
  | some userAgent => exact isLower_insert hh rfl userAgent

theorem isLower_insertAll {h : Headers} (hh : h.IsLower) (pairs : List (String × String)) :
    (h.insertAll pairs).IsLower := by
  induction pairs generalizing h with
  | nil => exact hh
  | cons p pairs ih => exact ih (isLower_insert hh (lowerCase_lowerCase p.1) p.2)

theorem isLower_appendAll {h : Headers} (hh : h.IsLower) (pairs : List (String × String)) :
    (h.appendAll pairs).IsLower := by
  induction pairs generalizing h with
  | nil => exact hh
  | cons p pairs ih => exact ih (isLower_append hh (lowerCase_lowerCase p.1) p.2)

end Headers

/-! ## Pairs that are checked -/

theorem RequestOptions.checkHeader_of_isPair {p : String × String} (h : Headers.IsPair p) :
    checkHeader p.1 p.2 = .ok (Headers.lowerCase p.1, p.2) := by
  obtain ⟨hname, hvalue⟩ := h
  unfold checkHeader Headers.name? at *
  dsimp only at *
  split at hname
  · cases hname
  · rename_i hsound
    simp only [if_neg hsound, hvalue, if_true]

theorem RequestOptions.checkHeader_of_not_isPair {p : String × String} (h : ¬Headers.IsPair p) :
    ∃ fault, checkHeader p.1 p.2 = .error (.configuration fault) := by
  unfold checkHeader
  cases hname : Headers.name? p.1 with
  | none => exact ⟨_, rfl⟩
  | some name =>
    have hvalue : ¬Headers.isValue p.2 = true := fun hvalue => h ⟨by rw [hname]; rfl, hvalue⟩
    exact ⟨_, if_neg hvalue⟩

theorem RequestOptions.eq_of_checkHeader {p q : String × String}
    (h : checkHeader p.1 p.2 = .ok q) : q = (Headers.lowerCase p.1, p.2) := by
  by_cases hp : Headers.IsPair p
  · exact Except.ok.inj (h.symm.trans (checkHeader_of_isPair hp))
  · obtain ⟨fault, hfault⟩ := checkHeader_of_not_isPair hp
    rw [hfault] at h
    cases h

theorem Client.defaultHeaders_of_foldlM {c c' : Client} {pairs : List (String × String)}
    (h : pairs.foldlM (fun (c : Client) p => c.withDefaultHeader p.1 p.2) c = .ok c') :
    c'.defaultHeaders = c.defaultHeaders.insertAll pairs := by
  induction pairs generalizing c with
  | nil =>
    cases h
    rfl
  | cons p pairs ih =>
    rw [List.foldlM_cons] at h
    cases hcheck : RequestOptions.checkHeader p.1 p.2 with
    | error e =>
      rw [withDefaultHeader, hcheck] at h
      cases h
    | ok q =>
      rw [withDefaultHeader, hcheck] at h
      obtain rfl := RequestOptions.eq_of_checkHeader hcheck
      exact ih h

theorem RequestOptions.headers_of_foldlM {o o' : RequestOptions} {pairs : List (String × String)}
    (h : pairs.foldlM (fun (o : RequestOptions) p => o.withHeader p.1 p.2) o = .ok o') :
    o'.headers = o.headers.appendAll pairs := by
  induction pairs generalizing o with
  | nil =>
    cases h
    rfl
  | cons p pairs ih =>
    rw [List.foldlM_cons] at h
    cases hcheck : checkHeader p.1 p.2 with
    | error e =>
      rw [withHeader, hcheck] at h
      cases h
    | ok q =>
      rw [withHeader, hcheck] at h
      obtain rfl := eq_of_checkHeader hcheck
      exact ih h

namespace Client

theorem credentialHeaders_of_forall {pairs : List (String × String)} {headers : Headers}
    (h : ∀ p ∈ pairs, Headers.IsPair p) :
    credentialHeaders pairs headers = .ok (headers.insertAll pairs) := by
  induction pairs generalizing headers with
  | nil => rfl
  | cons p pairs ih =>
    have hcheck := RequestOptions.checkHeader_of_isPair (h p List.mem_cons_self)
    rw [credentialHeaders, hcheck]
    exact ih fun q hq => h q (List.mem_cons_of_mem p hq)

theorem credentialHeaders_of_exists {pairs : List (String × String)}
    (h : ∃ p ∈ pairs, ¬Headers.IsPair p) (headers : Headers) :
    ∃ fault, credentialHeaders pairs headers = .error (.configuration fault) := by
  induction pairs generalizing headers with
  | nil =>
    obtain ⟨p, hp, -⟩ := h
    cases hp
  | cons q pairs ih =>
    by_cases hq : Headers.IsPair q
    · have hrest : ∃ p ∈ pairs, ¬Headers.IsPair p := by
        obtain ⟨p, hp, hbad⟩ := h
        rcases List.mem_cons.1 hp with rfl | hp
        · exact absurd hq hbad
        · exact ⟨p, hp, hbad⟩
      rw [credentialHeaders, RequestOptions.checkHeader_of_isPair hq]
      exact ih hrest _
    · obtain ⟨fault, hfault⟩ := RequestOptions.checkHeader_of_not_isPair hq
      rw [credentialHeaders, hfault]
      exact ⟨fault, rfl⟩

/-! ## Composing a call -/

variable {c : Client} {env : Environment} {method uri : String} {options : RequestOptions}

theorem composeHeadersShown_of_isSound {shown : Option Showing} (h : Showing.IsSound shown)
    (own : Headers) : c.composeHeadersShown shown own =
      .ok (((c.defaultHeaders.overlay own).overlay
        (Headers.empty.insertAll (Showing.counted shown))).crown c.userAgent) := by
  rw [composeHeadersShown, credentialHeaders_of_forall h, Except.map]

theorem composeHeadersShown_of_not_isSound {shown : Option Showing} (h : ¬Showing.IsSound shown)
    (own : Headers) : ∃ fault, c.composeHeadersShown shown own = .error (.configuration fault) := by
  have hbad : ∃ p ∈ Showing.counted shown, ¬Headers.IsPair p := by
    simpa [Showing.IsSound] using h
  obtain ⟨fault, hfault⟩ := credentialHeaders_of_exists hbad .empty
  rw [composeHeadersShown, hfault]
  exact ⟨fault, rfl⟩

/-- The call that a request makes without credentials, which is how all but its headers are. -/
theorem exists_compose_none {url : Url} (hurl : c.resolve uri = .ok url) :
    ∃ call, c.compose none method uri options = .ok call ∧
      call.query = c.composeQuery options.query := by
  rw [compose, hurl]
  exact ⟨_, rfl, rfl⟩

theorem composeShown_of_isSound {shown : Option Showing} {url : Url}
    (hurl : c.resolve uri = .ok url) (h : Showing.IsSound shown) :
    ∃ call, c.composeShown shown method uri options = .ok call := by
  obtain ⟨call, hcall, -⟩ := exists_compose_none hurl
  rw [composeShown, hcall, composeHeadersShown_of_isSound h]
  exact ⟨_, rfl⟩

theorem composeShown_of_not_isSound {shown : Option Showing} {url : Url}
    (hurl : c.resolve uri = .ok url) (h : ¬Showing.IsSound shown) :
    ∃ fault, c.composeShown shown method uri options = .error (.configuration fault) := by
  obtain ⟨call, hcall, -⟩ := exists_compose_none hurl
  obtain ⟨fault, hfault⟩ := composeHeadersShown_of_not_isSound (c := c) h options.headers
  rw [composeShown, hcall, hfault]
  exact ⟨fault, rfl⟩

theorem exists_of_composeShown {shown : Option Showing} {call : Call}
    (h : c.composeShown shown method uri options = .ok call) :
    (∃ url, c.resolve uri = .ok url) ∧ Showing.IsSound shown ∧
      c.composeHeadersShown shown options.headers = .ok call.headers ∧
      call.query = c.composeQuery options.query := by
  cases hurl : c.resolve uri with
  | error e =>
    rw [composeShown, compose, hurl] at h
    cases h
  | ok url =>
    have hsound : Showing.IsSound shown := by
      apply Classical.byContradiction
      intro hnot
      obtain ⟨fault, hfault⟩ := composeShown_of_not_isSound hurl hnot
      rw [hfault] at h
      cases h
    obtain ⟨bare, hbare, hquery⟩ := exists_compose_none hurl
    rw [composeShown, hbare, composeHeadersShown_of_isSound hsound] at h
    rw [composeHeadersShown_of_isSound hsound]
    cases h
    exact ⟨⟨url, rfl⟩, hsound, rfl, hquery⟩

theorem values_layers {own defaults : List (String × String)}
    (hdefaults : c.defaultHeaders = Headers.empty.insertAll defaults) (shown : Option Showing)
    (name : String) :
    (((c.defaultHeaders.overlay (Headers.empty.appendAll own)).overlay
      (Headers.empty.insertAll (Showing.counted shown))).crown c.userAgent).values
        (Headers.lowerCase name) = c.layered shown own defaults name := by
  have hown : (Headers.empty.appendAll own).values (Headers.lowerCase name) =
      Headers.valuesIn own name := Headers.values_appendAll _ _ _
  rw [Headers.values_crown, Headers.values_overlay, Headers.values_overlay,
    Headers.values_insertAll_empty, hown, hdefaults, Headers.values_insertAll_empty, layered,
    Headers.highest_cons, Headers.highest_cons, Headers.highest_cons, Headers.highest_singleton]

theorem isLower_layers {own defaults : List (String × String)}
    (hdefaults : c.defaultHeaders = Headers.empty.insertAll defaults) (shown : Option Showing) :
    (((c.defaultHeaders.overlay (Headers.empty.appendAll own)).overlay
      (Headers.empty.insertAll (Showing.counted shown))).crown c.userAgent).IsLower := by
  have hempty : Headers.empty.IsLower := nofun
  have hlower := Headers.isLower_overlay (Headers.isLower_insertAll hempty defaults)
    (Headers.isLower_appendAll hempty own)
  rw [hdefaults]
  exact Headers.isLower_crown
    (Headers.isLower_overlay hlower (Headers.isLower_insertAll hempty _)) _

theorem composeQuery_eq (own : List (String × String)) :
    c.composeQuery own = (c.defaultQuery.filter fun p => p.1 ∉ own.map Prod.fst) ++ own := by
  have hused (p : String × String) :
      (!own.any fun q => q.1 == p.1) = decide (p.1 ∉ own.map Prod.fst) := by
    rw [Bool.eq_iff_iff]
    simp only [Bool.not_eq_true', List.any_eq_false, beq_iff_eq, decide_eq_true_eq, List.mem_map,
      not_exists, not_and]
  simp only [composeQuery, hused]

theorem isLayered_of_composeShown {shown : Option Showing} {call : Call}
    {own defaults : List (String × String)}
    (hdefaults : c.defaultHeaders = Headers.empty.insertAll defaults)
    (hown : options.headers = Headers.empty.appendAll own)
    (h : c.composeShown shown method uri options = .ok call) :
    call.IsLayered c shown options own defaults := by
  obtain ⟨-, hsound, hheaders, hquery⟩ := exists_of_composeShown h
  rw [hown, composeHeadersShown_of_isSound hsound, Except.ok.injEq] at hheaders
  have hvalues (name : String) : call.headers.values (Headers.lowerCase name) =
      c.layered shown own defaults name := by
    rw [← hheaders]
    exact values_layers hdefaults shown name
  refine ⟨hvalues, fun name hname => ?_, hquery.trans (composeQuery_eq _)⟩
  have hlower : Headers.lowerCase name = name := by
    rw [← hheaders] at hname
    exact isLower_layers hdefaults shown name hname
  have hsome := Headers.mem_names_iff.1 hname
  rw [← hlower, hvalues] at hsome
  exact ⟨hlower, hsome⟩

/-! ## Every call of a request -/

/-- Where what the credentials show is not well formed, no call is made, then or later. -/
theorem length_calls_le {shown : Nat → Option Showing} {start : Duration} {left attempt i : Nat}
    {s : Session} (h : ¬Showing.IsSound (shown (attempt + i))) :
    (c.executeFromShown env shown method uri options start left attempt s).calls.length ≤ i := by
  apply Nat.le_of_not_lt
  intro hlong
  have hcompose := (c.tried env shown method uri options start left attempt s).composed
    (List.getElem?_eq_getElem hlong)
  exact h (exists_of_composeShown hcompose).2.1

end Client

/-- Where the headers and the query of each call come from, whatever the credentials show before it;
those of a session show the same every time. The headers are those of the highest layer that mentions
their name, and there are no others. A request is sent if its address can be resolved and what the
credentials show is well formed; where that is not well formed, nothing is sent, then or later. -/
theorem isLayered_of_call {c : Client} {options : RequestOptions}
    {own defaults : List (String × String)} (hdefaults : c.Adds defaults) (hown : options.Brings own)
    (env : Environment) (shown : Nat → Option Showing) (method uri : String) (s : Session) :
    (c.execute env method uri options s =
        c.executeShown env (fun _ => s.credentials.map Credentials.showing) method uri options s ∧
      c.dispatch env method uri options s =
        c.dispatchShown env (s.credentials.map Credentials.showing) method uri options s) ∧
    (∀ (i : Nat) (t : SentCall),
      (c.executeShown env shown method uri options s).calls[i]? = some t →
        t.call.IsLayered c (shown (i + 1)) options own defaults) ∧
    (∀ i, ¬Showing.IsSound (shown (i + 1)) →
      (c.executeShown env shown method uri options s).calls.length ≤ i) ∧
    (∀ url, c.resolve uri = .ok url → ∀ w,
      (Showing.IsSound w → ∃ t : SentCall,
        (c.dispatchShown env w method uri options s).calls = [t] ∧
          t.call.IsLayered c w options own defaults) ∧
      (¬Showing.IsSound w → ∃ fault, c.dispatchShown env w method uri options s =
        ⟨Outcome.fail (.configuration fault), [], [], s⟩)) := by
  obtain ⟨built, hbuilt, hadded⟩ := hdefaults
  have hdefaults : c.defaultHeaders = Headers.empty.insertAll defaults :=
    hadded.trans (Client.defaultHeaders_of_foldlM hbuilt)
  obtain ⟨given, hgiven, hbrought⟩ := hown
  have hown : options.headers = Headers.empty.appendAll own :=
    hbrought.trans (RequestOptions.headers_of_foldlM hgiven)
  refine ⟨⟨c.execute_eq_shown env method uri options s,
    c.dispatch_eq_shown env method uri options s⟩, fun i t ht => ?_, fun i h => ?_, fun url hurl w => ⟨fun h => ?_, fun h => ?_⟩⟩
  · have hcompose := (c.tried env shown method uri options s.now _ 1 s).composed ht
    rw [Nat.add_comm] at hcompose
    exact Client.isLayered_of_composeShown hdefaults hown hcompose
  · rw [Nat.add_comm] at h
    exact Client.length_calls_le h
  · obtain ⟨call, hcall⟩ := Client.composeShown_of_isSound hurl h
    refine ⟨(Client.turn call s).sent, ?_, Client.isLayered_of_composeShown hdefaults hown hcall⟩
    rw [Client.dispatchShown_of_ok hcall, Client.calls_send]
  · obtain ⟨fault, hfault⟩ := Client.composeShown_of_not_isSound hurl h
    exact ⟨fault, Client.dispatchShown_of_error hfault env s⟩

namespace Sample

def branded : Client where
  defaultHeaders := ⟨[("accept", "text/plain"), ("x-api-key", "default"), ("user-agent", "none")]⟩
  defaultQuery := [("lang", "de"), ("format", "json")]
  userAgent := some "pinned/1.0"
  policy := ⟨2, .ofSeconds 1, true⟩

def brands : List (String × String) :=
  [("Accept", "*/*"), ("accept", "text/plain"), ("X-API-Key", "default"), ("User-Agent", "none")]

/-- Credentials that show a header twice and can be used for the first call only. -/
def expiring : Nat → Option Showing
  | 1 => some ⟨true, [("X-API-Key", "old"), ("x-api-key", "new")]⟩
  | _ => some ⟨false, [("X-API-Key", "old")]⟩

def wanted : RequestOptions where
  headers := ⟨[("accept", "a/b"), ("accept", "c/d")]⟩
  query := [("format", "xml"), ("format", "csv")]

def wishes : List (String × String) :=
  [("ACCEPT", "a/b"), ("Accept", "c/d")]

theorem adds_branded : branded.Adds brands := ⟨_, rfl, rfl⟩

theorem brings_wanted : wanted.Brings wishes := ⟨_, rfl, rfl⟩

end Sample

open Sample in
/-- The second call of a request has a default back whose place a key took in the first one. -/
theorem isLayered_of_call_expiring :
    (branded.executeShown (busyOnce .empty) expiring "GET" "mock://api/orders" wanted
      idle).calls.map (fun t => t.call.headers.values "x-api-key") = [["new"], ["default"]] ∧
    branded.layered (expiring 1) wishes brands "Accept" = ["a/b", "c/d"] ∧
    branded.layered (expiring 1) wishes brands "USER-AGENT" = ["pinned/1.0"] ∧
    ∀ (i : Nat) (t : SentCall),
      (branded.executeShown (busyOnce .empty) expiring "GET" "mock://api/orders" wanted
        idle).calls[i]? = some t →
          t.call.IsLayered branded (expiring (i + 1)) wanted wishes brands := by
  obtain ⟨-, hlayered, -⟩ := isLayered_of_call adds_branded brings_wanted (busyOnce .empty) expiring
    "GET" "mock://api/orders" idle
  exact ⟨by decide +kernel, by decide +kernel, by decide +kernel, hlayered⟩

end RestRecords
