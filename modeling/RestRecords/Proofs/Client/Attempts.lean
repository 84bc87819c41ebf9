import RestRecords.Client.Providers
/-!
# Requests, attempt by attempt

A request is tried until an attempt cannot be composed, or a call is not to be followed by another
one. Credentials of any kind are asked before every attempt; those of a session show the same each
time, so a request that is sent with them is one of these.
-/

namespace RestRecords

/-- A call, and the time at which its request was ready to go. -/
structure Turn where
  ready : Duration
  sent : SentCall

def Event.terminal (e : Error) (attempts : Nat) (method uri : String) : Event :=
  if e.isTransient then .retriesSpent e attempts method uri
  else .requestFailed e attempts method uri

namespace Client

def turn (call : Call) (s : Session) : Turn :=
  ⟨s.now, s.now.plus (s.pacer.wait s.now), call⟩

/-- The session in which a request is sent again behind a call, if that fails in a way that is
expected to pass. -/
def resume? (c : Client) (env : Environment) (attempt : Nat) (r : Run Response) : Option Session :=
  match r.outcome with
  | .error (.error e) =>
    if e.isTransient then some (r.session.wait (c.retryWait env e attempt)) else none
  | _ => none

/-- The turns of a request, where the credentials show `shown n` before the attempt of number `n`. -/
def turnsFromShown (c : Client) (env : Environment) (shown : Nat → Option Showing)
    (method uri : String) (options : RequestOptions) : Nat → Nat → Session → List Turn
  | 0, attempt, s =>
    (c.dispatchShown env (shown attempt) method uri options s).calls.map fun sent => ⟨s.now, sent⟩
  | left + 1, attempt, s =>
    let r := c.dispatchShown env (shown attempt) method uri options s
    (r.calls.map fun sent => ⟨s.now, sent⟩) ++
      match c.resume? env attempt r with
      | some s' => turnsFromShown c env shown method uri options left (attempt + 1) s'
      | none => []

def ending (method uri : String) (attempt : Nat) : Outcome Response → List Event
  | .error (.error e) => [.terminal e attempt method uri]
  | _ => []

def finish (method uri : String) (start : Duration) (attempt : Nat) (r : Run Response) :
    Run Response :=
  { r with
    outcome := r.outcome.map fun response =>
      { response with attempts := attempt, latency := r.session.now.minus start }
    events := r.events ++ ending method uri attempt r.outcome }

/-- What a request comes to from its attempt of number `attempt` on, which begins in the session `s`
and behind which `left` further ones may follow. The attempt cannot be composed, or its call is the
last one, or it fails in a way that is expected to pass, and the request is tried again. -/
inductive Tried (c : Client) (env : Environment) (shown : Nat → Option Showing)
    (method uri : String) (options : RequestOptions) (start : Duration) :
    Nat → Nat → Session → List Turn → Run Response → Prop where
  | unsent {left attempt : Nat} {s : Session} {e : Error}
    (composed : c.composeShown (shown attempt) method uri options = .error e) :
    Tried c env shown method uri options start left attempt s []
      ⟨Outcome.fail e, [], [.terminal e attempt method uri], s⟩
  | last {left attempt : Nat} {s : Session} {call : Call}
    (composed : c.composeShown (shown attempt) method uri options = .ok call)
    (stops : ∀ e, (send env call s).outcome = Outcome.fail e → e.isTransient = true → left = 0) :
    Tried c env shown method uri options start left attempt s [turn call s]
      (finish method uri start attempt (send env call s))
  | next {left attempt : Nat} {s : Session} {call : Call} {e : Error} {ts : List Turn}
    {rest : Run Response}
    (composed : c.composeShown (shown attempt) method uri options = .ok call)
    (failed : (send env call s).outcome = Outcome.fail e) (transient : e.isTransient = true)
    (goes : Tried c env shown method uri options start left (attempt + 1)
      ((send env call s).session.wait (c.retryWait env e attempt)) ts rest) :
    Tried c env shown method uri options start (left + 1) attempt s (turn call s :: ts)
      ⟨rest.outcome, (turn call s).sent :: rest.calls,
        (send env call s).events ++ c.retryEvents env e attempt ++ rest.events, rest.session⟩

/-- What comes behind the call `t`, which a request that comes to `r` makes in the session `s` as the
attempt of number `attempt`: the end of the run, an attempt that is not composed, or the call `u`. -/
inductive Behind (c : Client) (env : Environment) (shown : Nat → Option Showing)
    (method uri : String) (options : RequestOptions) (attempt : Nat) (s : Session) (t : SentCall)
    (r : Run Response) : Option SentCall → Prop where
  | last (session : r.session = (send env t.call s).session) :
    Behind c env shown method uri options attempt s t r none
  | unsent {e f : Error} (failed : (send env t.call s).outcome = Outcome.fail e)
    (transient : e.isTransient = true)
    (composed : c.composeShown (shown (attempt + 1)) method uri options = .error f)
    (outcome : r.outcome = Outcome.fail f)
    (session : r.session = (send env t.call s).session.wait (c.retryWait env e attempt)) :
    Behind c env shown method uri options attempt s t r none
  | next {e : Error} {u : SentCall} (failed : (send env t.call s).outcome = Outcome.fail e)
    (transient : e.isTransient = true)
    (made : u = (turn u.call
      ((send env t.call s).session.wait (c.retryWait env e attempt))).sent) :
    Behind c env shown method uri options attempt s t r (some u)

variable {c : Client} {env : Environment} {method uri : String} {options : RequestOptions}

/-! ## Attempts that are not composed -/

theorem isTransient_of_checkHeader {name value : String} {e : Error}
    (h : RequestOptions.checkHeader name value = .error e) : e.isTransient = false := by
  unfold RequestOptions.checkHeader at h
  split at h
  · cases h
    rfl
  · split at h <;> cases h
    rfl

theorem isTransient_of_credentialHeaders {pairs : List (String × String)} {headers : Headers}
    {e : Error} (h : credentialHeaders pairs headers = .error e) : e.isTransient = false := by
  induction pairs generalizing headers with
  | nil => cases h
  | cons pair rest ih =>
    obtain ⟨name, value⟩ := pair
    rw [credentialHeaders] at h
    cases hcheck : RequestOptions.checkHeader name value with
    | error fault =>
      rw [hcheck] at h
      cases h
      exact isTransient_of_checkHeader hcheck
    | ok checked =>
      rw [hcheck] at h
      exact ih h

theorem isTransient_of_resolve {e : Error} (h : c.resolve uri = .error e) :
    e.isTransient = false := by
  unfold resolve at h
  split at h
  · cases h
  · split at h
    · unfold readUrl at h
      rename_i base _
      cases hread : Url.read (joined base uri) with
      | ok url =>
        rw [hread] at h
        cases h
      | error fault =>
        rw [hread] at h
        cases h
        rfl
    · cases h
      rfl
  · cases h
    rfl

/-- No failure to compose a call is expected to pass. -/
theorem isTransient_of_composeShown {shown : Option Showing} {e : Error}
    (h : c.composeShown shown method uri options = .error e) : e.isTransient = false := by
  unfold composeShown compose at h
  cases hurl : c.resolve uri with
  | error fault =>
    rw [hurl] at h
    cases h
    exact isTransient_of_resolve hurl
  | ok url =>
    rw [hurl] at h
    cases hheaders : credentialHeaders (Showing.counted shown) .empty with
    | error fault =>
      simp only [composeHeadersShown, hheaders] at h
      cases h
      exact isTransient_of_credentialHeaders hheaders
    | ok layer =>
      simp only [composeHeadersShown, hheaders] at h
      cases h

theorem dispatchShown_of_error {shown : Option Showing} {e : Error}
    (h : c.composeShown shown method uri options = .error e) (env : Environment) (s : Session) :
    c.dispatchShown env shown method uri options s = ⟨Outcome.fail e, [], [], s⟩ := by
  rw [dispatchShown, h]

theorem dispatchShown_of_ok {shown : Option Showing} {call : Call}
    (h : c.composeShown shown method uri options = .ok call) (env : Environment) (s : Session) :
    c.dispatchShown env shown method uri options s = send env call s := by
  rw [dispatchShown, h]

/-! ## One call -/

theorem calls_send (env : Environment) (call : Call) (s : Session) :
    (send env call s).calls = [(turn call s).sent] := by
  unfold send
  dsimp only
  split <;> rfl

theorem sent_send (env : Environment) (call : Call) (s : Session) :
    (send env call s).session.sent = s.sent + 1 := by
  unfold send
  dsimp only
  split <;> rfl

theorem credentials_send (env : Environment) (call : Call) (s : Session) :
    (send env call s).session.credentials = s.credentials := by
  unfold send
  dsimp only
  split <;> rfl

theorem pacer_send (env : Environment) (call : Call) (s : Session) :
    (send env call s).session.pacer = s.pacer.record (turn call s).sent.time := by
  unfold send
  dsimp only
  split <;> rfl

/-! ## Every attempt of a request -/

theorem terminal_of_fatal {e : Error} (h : e.isTransient = false) (attempts : Nat)
    (method uri : String) :
    Event.terminal e attempts method uri = .requestFailed e attempts method uri := by
  rw [Event.terminal, h]
  rfl

theorem terminal_of_transient {e : Error} (h : e.isTransient = true) (attempts : Nat)
    (method uri : String) :
    Event.terminal e attempts method uri = .retriesSpent e attempts method uri := by
  rw [Event.terminal, h]
  rfl

theorem follow_of_stop {start : Duration} {attempt : Nat} {next : Option (Session → Run Response)}
    {r : Run Response}
    (h : ∀ e, r.outcome = Outcome.fail e → e.isTransient = true → next = none) :
    c.follow env method uri start attempt next r = finish method uri start attempt r := by
  obtain ⟨outcome, calls, events, session⟩ := r
  cases outcome with
  | ok response => simp [follow, finish, ending, Except.map]
  | error failure =>
    cases failure with
    | abort a => simp [follow, finish, ending, Except.map]
    | error e =>
      cases htransient : e.isTransient with
      | false => simp [follow, finish, ending, Except.map, htransient, terminal_of_fatal]
      | true =>
        obtain rfl := h e rfl htransient
        simp [follow, finish, ending, Except.map, htransient, terminal_of_transient]

theorem follow_of_next {start : Duration} {attempt : Nat} {next : Session → Run Response}
    {r : Run Response} {e : Error} (h : r.outcome = Outcome.fail e) (htransient : e.isTransient = true) :
    c.follow env method uri start attempt (some next) r =
      let rest := next (r.session.wait (c.retryWait env e attempt))
      ⟨rest.outcome, r.calls ++ rest.calls, r.events ++ c.retryEvents env e attempt ++ rest.events,
        rest.session⟩ := by
  simp [follow, h, Outcome.fail, htransient]

theorem resume?_of_fail {attempt : Nat} {r : Run Response} {e : Error}
    (h : r.outcome = Outcome.fail e) (htransient : e.isTransient = true) :
    c.resume? env attempt r = some (r.session.wait (c.retryWait env e attempt)) := by
  simp [resume?, h, Outcome.fail, htransient]

theorem resume?_of_stop {attempt : Nat} {r : Run Response}
    (h : ∀ e, r.outcome = Outcome.fail e → e.isTransient = false) :
    c.resume? env attempt r = none := by
  unfold resume?
  split
  · rename_i e he
    rw [h e he]
    rfl
  · rfl

variable {shown : Nat → Option Showing} {start : Duration} {left attempt : Nat} {s : Session}
  {call : Call}

theorem isTransient_of_unsent {e : Error} (h : c.composeShown (shown attempt) method uri options = .error e)
    (f : Error) (hf : (Outcome.fail e : Outcome Response) = Outcome.fail f) : f.isTransient = false := by
  cases hf
  exact isTransient_of_composeShown h

theorem executeFromShown_of_error {e : Error}
    (h : c.composeShown (shown attempt) method uri options = .error e) :
    c.executeFromShown env shown method uri options start left attempt s =
      ⟨Outcome.fail e, [], [.terminal e attempt method uri], s⟩ := by
  have hstop (next : Option (Session → Run Response)) :
      c.follow env method uri start attempt next ⟨Outcome.fail e, [], [], s⟩ =
        finish method uri start attempt ⟨Outcome.fail e, [], [], s⟩ :=
    follow_of_stop fun f hf htransient => by
      rw [isTransient_of_unsent h f hf] at htransient
      cases htransient
  cases left with
  | zero =>
    rw [executeFromShown, dispatchShown_of_error h, hstop]
    rfl
  | succ left =>
    rw [executeFromShown, dispatchShown_of_error h, hstop]
    rfl

theorem turnsFromShown_of_error {e : Error}
    (h : c.composeShown (shown attempt) method uri options = .error e) :
    c.turnsFromShown env shown method uri options left attempt s = [] := by
  cases left with
  | zero =>
    rw [turnsFromShown, dispatchShown_of_error h]
    rfl
  | succ left =>
    rw [turnsFromShown, dispatchShown_of_error h, resume?_of_stop (isTransient_of_unsent h)]
    rfl

section Last

variable (h : c.composeShown (shown attempt) method uri options = .ok call)
  (hstops : ∀ e, (send env call s).outcome = Outcome.fail e → e.isTransient = true → left = 0)

include h hstops

theorem executeFromShown_of_last :
    c.executeFromShown env shown method uri options start left attempt s =
      finish method uri start attempt (send env call s) := by
  cases left with
  | zero => rw [executeFromShown, dispatchShown_of_ok h, follow_of_stop fun _ _ _ => rfl]
  | succ left =>
    rw [executeFromShown, dispatchShown_of_ok h,
      follow_of_stop fun e he htransient => absurd (hstops e he htransient) (Nat.succ_ne_zero left)]

theorem turnsFromShown_of_last :
    c.turnsFromShown env shown method uri options left attempt s = [turn call s] := by
  cases left with
  | zero =>
    rw [turnsFromShown, dispatchShown_of_ok h, calls_send]
    rfl
  | succ left =>
    have hfatal : ∀ e, (send env call s).outcome = Outcome.fail e → e.isTransient = false :=
      fun e he => Bool.eq_false_iff.2 fun htransient => Nat.succ_ne_zero left (hstops e he htransient)
    rw [turnsFromShown, dispatchShown_of_ok h, calls_send, resume?_of_stop hfatal]
    rfl

end Last

section Next

variable {e : Error} (h : c.composeShown (shown attempt) method uri options = .ok call)
  (hfails : (send env call s).outcome = Outcome.fail e) (htransient : e.isTransient = true)

include h hfails htransient

theorem executeFromShown_of_next :
    let rest := c.executeFromShown env shown method uri options start left (attempt + 1)
      ((send env call s).session.wait (c.retryWait env e attempt))
    c.executeFromShown env shown method uri options start (left + 1) attempt s =
      ⟨rest.outcome, (turn call s).sent :: rest.calls,
        (send env call s).events ++ c.retryEvents env e attempt ++ rest.events, rest.session⟩ := by
  rw [executeFromShown, dispatchShown_of_ok h, follow_of_next hfails htransient, calls_send]
  rfl

theorem turnsFromShown_of_next :
    c.turnsFromShown env shown method uri options (left + 1) attempt s =
      turn call s :: c.turnsFromShown env shown method uri options left (attempt + 1)
        ((send env call s).session.wait (c.retryWait env e attempt)) := by
  rw [turnsFromShown, dispatchShown_of_ok h, resume?_of_fail hfails htransient, calls_send]
  rfl

end Next

theorem tried (c : Client) (env : Environment) (shown : Nat → Option Showing) (method uri : String)
    (options : RequestOptions) (start : Duration) (left attempt : Nat) (s : Session) :
    c.Tried env shown method uri options start left attempt s
      (c.turnsFromShown env shown method uri options left attempt s)
      (c.executeFromShown env shown method uri options start left attempt s) := by
  induction left generalizing attempt s with
  | zero =>
    cases hcompose : c.composeShown (shown attempt) method uri options with
    | error e =>
      rw [executeFromShown_of_error hcompose, turnsFromShown_of_error hcompose]
      exact .unsent hcompose
    | ok call =>
      have hstops : ∀ e, (send env call s).outcome = Outcome.fail e → e.isTransient = true →
          0 = 0 := fun _ _ _ => rfl
      rw [executeFromShown_of_last hcompose hstops, turnsFromShown_of_last hcompose hstops]
      exact .last hcompose hstops
  | succ left ih =>
    cases hcompose : c.composeShown (shown attempt) method uri options with
    | error e =>
      rw [executeFromShown_of_error hcompose, turnsFromShown_of_error hcompose]
      exact .unsent hcompose
    | ok call =>
      by_cases hagain : ∃ e, (send env call s).outcome = Outcome.fail e ∧ e.isTransient = true
      · obtain ⟨e, hfails, htransient⟩ := hagain
        rw [executeFromShown_of_next hcompose hfails htransient,
          turnsFromShown_of_next hcompose hfails htransient]
        exact .next hcompose hfails htransient (ih _ _)
      · have hstops : ∀ e, (send env call s).outcome = Outcome.fail e → e.isTransient = true →
            left + 1 = 0 := fun e he htransient => absurd ⟨e, he, htransient⟩ hagain
        rw [executeFromShown_of_last hcompose hstops, turnsFromShown_of_last hcompose hstops]
        exact .last hcompose hstops

/-! ## What holds of every attempt -/

theorem Behind.congr {t : SentCall} {next : Option SentCall} {r q : Run Response}
    (h : c.Behind env shown method uri options attempt s t r next) (houtcome : q.outcome = r.outcome)
    (hsession : q.session = r.session) :
    c.Behind env shown method uri options attempt s t q next := by
  cases h with
  | last session => exact .last (hsession.trans session)
  | unsent failed transient composed outcome session =>
    exact .unsent failed transient composed (houtcome.trans outcome) (hsession.trans session)
  | next failed transient made => exact .next failed transient made

namespace Tried

variable {ts : List Turn} {r : Run Response}

theorem sent_turns (h : c.Tried env shown method uri options start left attempt s ts r) :
    ts.map Turn.sent = r.calls := by
  induction h with
  | unsent => rfl
  | last => exact (calls_send env _ _).symm
  | next _ _ _ _ ih => exact congrArg _ ih

theorem composed (h : c.Tried env shown method uri options start left attempt s ts r) {i : Nat}
    {t : SentCall} (ht : r.calls[i]? = some t) :
    c.composeShown (shown (attempt + i)) method uri options = .ok t.call := by
  induction h generalizing i with
  | unsent => cases ht
  | last composed =>
    rw [finish, calls_send] at ht
    cases i with
    | zero =>
      cases ht
      exact composed
    | succ i => cases ht
  | next composed _ _ _ ih =>
    cases i with
    | zero =>
      cases ht
      exact composed
    | succ i =>
      have hcomposed := ih ht
      rwa [Nat.add_right_comm] at hcomposed

theorem sent_session (h : c.Tried env shown method uri options start left attempt s ts r) :
    r.session.sent = s.sent + r.calls.length := by
  induction h with
  | unsent => rfl
  | last => rw [finish, calls_send, sent_send, List.length_singleton]
  | next _ _ _ _ ih =>
    rw [ih, Session.wait, sent_send, List.length_cons, Nat.add_assoc, Nat.add_comm 1]

theorem first_of_composed (h : c.Tried env shown method uri options start left attempt s ts r)
    (hcompose : c.composeShown (shown attempt) method uri options = .ok call) :
    r.calls[0]? = some (turn call s).sent := by
  cases h with
  | unsent composed =>
    rw [composed] at hcompose
    cases hcompose
  | last composed =>
    rw [composed] at hcompose
    cases hcompose
    rw [finish, calls_send]
    rfl
  | next composed =>
    rw [composed] at hcompose
    cases hcompose
    rfl

theorem eq_of_first (h : c.Tried env shown method uri options start left attempt s ts r)
    {t : SentCall} (ht : r.calls[0]? = some t) : t = (turn t.call s).sent := by
  have hfirst := h.first_of_composed (h.composed ht)
  rw [ht] at hfirst
  exact Option.some.inj hfirst

/-- Each call is made in a session of its own, with the settings of the first one. -/
theorem behind (h : c.Tried env shown method uri options start left attempt s ts r) {i : Nat}
    {t : SentCall} (ht : r.calls[i]? = some t) : ∃ s' : Session, s'.sent = s.sent + i ∧
      s'.pacer.interval = s.pacer.interval ∧ s'.pacer.pauses = s.pacer.pauses ∧
      t = (turn t.call s').sent ∧
      c.Behind env shown method uri options (attempt + i) s' t r r.calls[i + 1]? := by
  induction h generalizing i with
  | unsent => cases ht
  | @last _ _ s call =>
    rw [finish, calls_send] at ht ⊢
    cases i with
    | zero =>
      cases ht
      exact ⟨s, rfl, rfl, rfl, rfl, .last rfl⟩
    | succ i => cases ht
  | @next left attempt s call e ts rest composed failed transient goes ih =>
    cases i with
    | zero =>
      cases ht
      refine ⟨s, rfl, rfl, rfl, rfl, ?_⟩
      show c.Behind env shown method uri options attempt s _ _ rest.calls[0]?
      cases hfirst : rest.calls[0]? with
      | some u => exact .next failed transient (goes.eq_of_first hfirst)
      | none =>
        cases goes with
        | unsent composed => exact .unsent failed transient composed rfl rfl
        | last =>
          rw [finish, calls_send] at hfirst
          cases hfirst
        | next => cases hfirst
    | succ i =>
      obtain ⟨s', hsent, hinterval, hpauses, hturn, hbehind⟩ := ih ht
      rw [Session.wait, sent_send] at hsent
      rw [Session.wait, pacer_send] at hinterval hpauses
      rw [show attempt + 1 + i = attempt + (i + 1) by omega] at hbehind
      exact ⟨s', by omega, hinterval, hpauses, hturn, hbehind.congr rfl rfl⟩

end Tried

theorem composeShown_of_mem {shown : Option Showing} {t : SentCall}
    (h : t ∈ (c.dispatchShown env shown method uri options s).calls) :
    c.composeShown shown method uri options = .ok t.call := by
  cases hcompose : c.composeShown shown method uri options with
  | error e =>
    rw [dispatchShown_of_error hcompose] at h
    cases h
  | ok call =>
    rw [dispatchShown_of_ok hcompose, calls_send, List.mem_singleton] at h
    rw [h]
    rfl

/-! ## The credentials of a session -/

theorem overlay_empty (h : Headers) : h.overlay .empty = h := by
  have hall : (h.entries.filter fun e => !(Headers.empty.names.contains e.1)) = h.entries :=
    List.filter_eq_self.2 fun _ _ => rfl
  rw [Headers.overlay, hall]
  exact congrArg Headers.mk (List.append_nil h.entries)

theorem composeHeaders_of_unusable {credentials : Option Credentials}
    (h : credentials.filter Credentials.isUsable = none) (own : Headers) :
    c.composeHeaders credentials own = .ok ((c.defaultHeaders.overlay own).crown c.userAgent) := by
  unfold composeHeaders
  simp only [h]
  cases c.userAgent <;> rfl

theorem composeHeaders_of_usable {credentials : Option Credentials} {usable : Credentials}
    (h : credentials.filter Credentials.isUsable = some usable) (own : Headers) :
    c.composeHeaders credentials own = (credentialHeaders usable.headers .empty).map fun layer =>
      ((c.defaultHeaders.overlay own).overlay layer).crown c.userAgent := by
  unfold composeHeaders
  simp only [h]
  cases credentialHeaders usable.headers .empty with
  | error e => rfl
  | ok layer => cases c.userAgent <;> rfl

theorem composeHeaders_eq_shown (credentials : Option Credentials) (own : Headers) :
    c.composeHeaders credentials own =
      c.composeHeadersShown (credentials.map Credentials.showing) own := by
  cases credentials with
  | none =>
    rw [composeHeaders_of_unusable rfl, composeHeadersShown, Option.map_none, Showing.counted,
      credentialHeaders, Except.map, overlay_empty]
  | some credentials =>
    cases husable : credentials.isUsable with
    | false =>
      have hcounted : Showing.counted (some credentials.showing) = [] :=
        if_neg (by simp [Credentials.showing, husable])
      rw [composeHeaders_of_unusable (by simp [husable]), composeHeadersShown, Option.map_some,
        hcounted, credentialHeaders, Except.map, overlay_empty]
    | true =>
      have hcounted : Showing.counted (some credentials.showing) = credentials.headers :=
        if_pos husable
      have husable : (some credentials).filter Credentials.isUsable = some credentials := by
        simp [husable]
      rw [composeHeaders_of_usable husable, composeHeadersShown, Option.map_some, hcounted]

theorem compose_eq_shown (credentials : Option Credentials) (method uri : String)
    (options : RequestOptions) : c.compose credentials method uri options =
      c.composeShown (credentials.map Credentials.showing) method uri options := by
  unfold composeShown compose
  rw [composeHeaders_eq_shown]
  cases c.resolve uri with
  | error e => rfl
  | ok url => rfl

theorem dispatch_eq_shown (c : Client) (env : Environment) (method uri : String)
    (options : RequestOptions) (s : Session) : c.dispatch env method uri options s =
      c.dispatchShown env (s.credentials.map Credentials.showing) method uri options s := by
  have hcompose := compose_eq_shown (c := c) s.credentials method uri options
  cases hcall : c.composeShown (s.credentials.map Credentials.showing) method uri options <;>
    simp only [dispatch, dispatchShown, hcompose, hcall]

theorem credentials_dispatchShown (shown : Option Showing) (s : Session) :
    (c.dispatchShown env shown method uri options s).session.credentials = s.credentials := by
  unfold dispatchShown
  split
  · rfl
  · exact credentials_send env _ s

theorem executeFrom_zero (start : Duration) (attempt : Nat) (s : Session) :
    c.executeFrom env method uri options start 0 attempt s =
      c.follow env method uri start attempt none (c.dispatch env method uri options s) := by
  rw [executeFrom.eq_def]
  rfl

theorem executeFrom_succ (start : Duration) (left attempt : Nat) (s : Session) :
    c.executeFrom env method uri options start (left + 1) attempt s =
      c.follow env method uri start attempt
        (some (c.executeFrom env method uri options start left (attempt + 1)))
        (c.dispatch env method uri options s) := by
  rw [executeFrom.eq_def]
  rfl

/-- What follows a call depends on what would be done in the session behind it. -/
theorem follow_congr {next next' : Session → Run Response} {r : Run Response}
    (h : ∀ d, next (r.session.wait d) = next' (r.session.wait d)) :
    c.follow env method uri start attempt (some next) r =
      c.follow env method uri start attempt (some next') r := by
  simp only [follow, h]

/-- While a request is sent, the credentials of a session show the same before every call. -/
theorem executeFrom_eq_shown {shown : Option Showing}
    (h : s.credentials.map Credentials.showing = shown) :
    c.executeFrom env method uri options start left attempt s =
      c.executeFromShown env (fun _ => shown) method uri options start left attempt s := by
  induction left generalizing attempt s with
  | zero => rw [executeFrom_zero, executeFromShown, dispatch_eq_shown, h]
  | succ left ih =>
    rw [executeFrom_succ, executeFromShown, dispatch_eq_shown, h]
    refine follow_congr fun d => ih ?_
    rw [Session.wait, credentials_dispatchShown, h]

theorem execute_eq_shown (c : Client) (env : Environment) (method uri : String)
    (options : RequestOptions) (s : Session) : c.execute env method uri options s =
      c.executeShown env (fun _ => s.credentials.map Credentials.showing) method uri options s :=
  executeFrom_eq_shown rfl

theorem dispatch_eq_send (h : c.compose s.credentials method uri options = .ok call)
    (env : Environment) : c.dispatch env method uri options s = send env call s := by
  rw [compose_eq_shown] at h
  rw [dispatch_eq_shown, dispatchShown_of_ok h]

end Client

end RestRecords
