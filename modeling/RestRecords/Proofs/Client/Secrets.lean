import RestRecords.Proofs.Client.Layers
import RestRecords.Proofs.Client.Pauses
import Mathlib.Data.List.Forall2
/-!
# Where secrets do not show

Two clients that differ in the secret of their credentials alone, and get the same replies, cannot
be told apart by what they answer, report, send or wait, but for the values of the one header that
carries the secret.
-/

namespace RestRecords

/-! ## What is alike -/

namespace Credentials

/-- The name of the header that carries the secret, in lower case. -/
def ownName : Credentials → String
  | .apiKey _ header => Headers.lowerCase header
  | .bearer .. | .basic .. => "authorization"

/-- Credentials with another secret: a key, a token, or a user and a password. -/
inductive Reissued : Credentials → Credentials → Prop where
  | apiKey (key key' header : String) : Reissued (.apiKey key header) (.apiKey key' header)
  | bearer (token token' : String) (extra : List (String × String)) :
    Reissued (.bearer token extra) (.bearer token' extra)
  | basic (user user' password password' : String) :
    Reissued (.basic user password) (.basic user' password')

/-- Whether credentials can be used and all their headers are well formed. -/
def IsSound (a : Credentials) : Prop :=
  a.isUsable = true ∧ ∀ p ∈ a.headers, Headers.IsPair p

/-- Whether two clients have the same credentials, if any, or sound ones that differ in their
secret. -/
inductive Alike : Option Credentials → Option Credentials → Prop where
  | same (a : Option Credentials) : Alike a a
  | reissued {a b : Credentials} (other : Reissued a b) (left : a.IsSound) (right : b.IsSound) :
    Alike (some a) (some b)

end Credentials

/-- Whether two lists of headers have the same names, and the same values but under one name. -/
def Headers.AgreeBut (own : Option String) (h h' : Headers) : Prop :=
  List.Forall₂ (fun e e' => e.1 = e'.1 ∧ (some e.1 ≠ own → e.2 = e'.2)) h.entries h'.entries

def Call.AgreeBut (own : Option String) (a b : Call) : Prop :=
  b = { a with headers := b.headers } ∧ Headers.AgreeBut own a.headers b.headers

/-- Whether two calls are made at the same time and are the same but for the values of one header.
-/
def SentCall.AgreeBut (own : Option String) (t u : SentCall) : Prop :=
  t.time = u.time ∧ t.call.AgreeBut own u.call

/-- Whether two sessions differ in the secret of their credentials at most. -/
structure Session.Alike (s t : Session) : Prop where
  rest : t = { s with credentials := t.credentials }
  credentials : Credentials.Alike s.credentials t.credentials

/-- Whether two operations come to the same, but for the values of one header of their calls. -/
structure Run.Alike {α : Type} (own : Option String) (r q : Run α) : Prop where
  outcome : r.outcome = q.outcome
  events : r.events = q.events
  calls : List.Forall₂ (SentCall.AgreeBut own) r.calls q.calls
  session : r.session.Alike q.session

/-- Whether the replies to the calls of two runs are the same, call by call, where the first ones
have the number `n`. -/
def SameReplies (env env' : Environment) (n : Nat) (calls calls' : List SentCall) : Prop :=
  ∀ i t u, calls[i]? = some t → calls'[i]? = some u →
    env.send (n + i) t.call = env'.send (n + i) u.call

/-! ## Operations -/

/-- What is done with a client: nothing for some time, a change of credentials, a request, or a
request of an endpoint, whose answer is taken as it is or bound. -/
inductive Operation (α : Type) where
  | idle (d : Duration)
  | authenticate (credentials : Option Credentials)
  | request (q : Request)
  | ask (p : Endpoint) (verb : Verb) (request : EndpointRequest)
  | fetch (p : Endpoint) (bind : Json → Traced α) (request : EndpointRequest)

inductive Result (α : Type) where
  | done
  | response (r : Response)
  | content (x : Content)
  | bound (a : α)

/-- Whether two operations differ in the secret of the credentials they set at most. -/
inductive Operation.Alike {α : Type} : Operation α → Operation α → Prop where
  | same (o : Operation α) : Alike o o
  | authenticate {a b : Option Credentials} (other : Credentials.Alike a b) :
    Alike (.authenticate a) (.authenticate b)

namespace Client

variable {α : Type}

def carryOut (c : Client) (env : Environment) : Operation α → Session → Run (Result α)
  | .idle d, s => ⟨.ok .done, [], [], s.wait d⟩
  | .authenticate credentials, s =>
    (s.setCredentials credentials).andThen fun _ => .ok .done
  | .request q, s => (c.perform env q s).andThen fun r => .ok (.response r)
  | .ask p verb request, s => (p.ask c env verb request s).andThen fun x => .ok (.content x)
  | .fetch p bind request, s => (p.fetchBound c env bind request s).andThen fun a => .ok (.bound a)

/-- What operations come to that are carried out one after the other, each with the credentials it
begins with. -/
def carryOutAll (c : Client) (env : Environment) :
    List (Operation α) → Session → List (Option Credentials × Run (Result α))
  | [], _ => []
  | o :: rest, s =>
    (s.credentials, c.carryOut env o s) :: carryOutAll c env rest (c.carryOut env o s).session

def allCalls (c : Client) (env : Environment) (operations : List (Operation α)) (s : Session) :
    List SentCall :=
  (c.carryOutAll env operations s).flatMap fun p => p.2.calls

end Client

/-! ## Headers -/

namespace Credentials

theorem Alike.events_eq {a b : Option Credentials} (h : Alike a b) :
    (a.toList.map fun c => Event.authenticationSet c.scheme) =
      b.toList.map fun c => Event.authenticationSet c.scheme := by
  cases h with
  | same => rfl
  | reissued other => cases other <;> rfl

/-- The headers of credentials that differ in their secret have the same names, and the same values
but under the name that carries it. -/
theorem Reissued.headers {a b : Credentials} (h : Reissued a b) :
    List.Forall₂ (fun p q => p.1 = q.1 ∧
      (some (Headers.lowerCase p.1) ≠ some a.ownName → p.2 = q.2)) a.headers b.headers := by
  have hsame : ∀ (own : Option String) (pairs : List (String × String)),
      List.Forall₂ (fun p q : String × String => p.1 = q.1 ∧
        (some (Headers.lowerCase p.1) ≠ own → p.2 = q.2)) pairs pairs :=
    fun own pairs => List.forall₂_same.2 fun _ _ => ⟨rfl, fun _ => rfl⟩
  have hname : some (Headers.lowerCase "Authorization") = some "authorization" := by decide
  cases h with
  | apiKey key key' header => exact .cons ⟨rfl, fun h => absurd rfl h⟩ .nil
  | bearer token token' extra => exact .cons ⟨rfl, fun h => absurd hname h⟩ (hsame _ extra)
  | basic user user' password password' => exact .cons ⟨rfl, fun h => absurd hname h⟩ .nil

end Credentials

namespace Headers

variable {own : Option String} {h h' layer layer' : Headers}

theorem AgreeBut.refl (own : Option String) (h : Headers) : AgreeBut own h h :=
  List.forall₂_same.2 fun _ _ => ⟨rfl, fun _ => rfl⟩

theorem AgreeBut.names_eq (hh : AgreeBut own h h') : h.names = h'.names :=
  List.forall₂_eq_eq_eq ▸ List.rel_map (fun _ _ he => he.1) hh

theorem AgreeBut.filter (hh : AgreeBut own h h') (p : String → Bool) :
    AgreeBut own ⟨h.entries.filter fun e => p e.1⟩ ⟨h'.entries.filter fun e => p e.1⟩ :=
  List.rel_filter (fun _ _ he => by simp only [he.1]) hh

theorem AgreeBut.append (hh : AgreeBut own h h') (name : String) {value value' : String}
    (hvalue : some name ≠ own → value = value') :
    AgreeBut own (h.append name value) (h'.append name value') :=
  List.rel_append hh (.cons ⟨rfl, hvalue⟩ .nil)

theorem AgreeBut.insert (hh : AgreeBut own h h') (name : String) {value value' : String}
    (hvalue : some name ≠ own → value = value') :
    AgreeBut own (h.insert name value) (h'.insert name value') :=
  (hh.filter fun key => key != name).append name hvalue

theorem AgreeBut.overlay (hh : AgreeBut own h h') (hlayer : AgreeBut own layer layer') :
    AgreeBut own (h.overlay layer) (h'.overlay layer') := by
  have hrest := hh.filter fun name => !layer.names.contains name
  rw [Headers.overlay, Headers.overlay, ← hlayer.names_eq]
  exact List.rel_append hrest hlayer

theorem AgreeBut.crown (hh : AgreeBut own h h') (userAgent : Option String) :
    AgreeBut own (h.crown userAgent) (h'.crown userAgent) := by
  cases userAgent with
  | none => exact hh
  | some userAgent => exact hh.insert "user-agent" fun _ => rfl

theorem AgreeBut.insertAll {pairs pairs' : List (String × String)} (hh : AgreeBut own h h')
    (hpairs : List.Forall₂ (fun p q => p.1 = q.1 ∧ (some (lowerCase p.1) ≠ own → p.2 = q.2))
      pairs pairs') : AgreeBut own (h.insertAll pairs) (h'.insertAll pairs') := by
  induction hpairs generalizing h h' with
  | nil => exact hh
  | @cons p q _ _ hp _ ih =>
    have hinsert := hh.insert (lowerCase p.1) hp.2
    refine ih ?_
    dsimp only
    rwa [← hp.1]

end Headers

/-! ## Composing a call -/

namespace Client

variable {c : Client} {env env' : Environment} {method uri : String} {options : RequestOptions}
  {a b : Option Credentials}

theorem composeHeaders_of_isSound {a : Credentials} (h : a.IsSound) (own : Headers) :
    c.composeHeaders (some a) own = .ok (((c.defaultHeaders.overlay own).overlay
      (Headers.empty.insertAll a.headers)).crown c.userAgent) := by
  have husable : (some a).filter Credentials.isUsable = some a := by
    simp [h.1]
  rw [composeHeaders_of_usable husable, credentialHeaders_of_forall h.2]
  rfl

theorem composeHeaders_alike (h : Credentials.Alike a b) (own : Headers) :
    (∃ e, c.composeHeaders a own = .error e ∧ c.composeHeaders b own = .error e) ∨
      ∃ g g', c.composeHeaders a own = .ok g ∧ c.composeHeaders b own = .ok g' ∧
        Headers.AgreeBut (a.map Credentials.ownName) g g' := by
  cases h with
  | same =>
    cases hheaders : c.composeHeaders a own with
    | error e => exact .inl ⟨e, rfl, rfl⟩
    | ok g => exact .inr ⟨g, g, rfl, rfl, .refl _ g⟩
  | reissued other left right =>
    refine .inr ⟨_, _, composeHeaders_of_isSound left own, composeHeaders_of_isSound right own, ?_⟩
    exact ((Headers.AgreeBut.refl _ _).overlay
      ((Headers.AgreeBut.refl _ _).insertAll other.headers)).crown _

theorem compose_alike (c : Client) (method uri : String) (options : RequestOptions)
    (h : Credentials.Alike a b) :
    (∃ e, c.compose a method uri options = .error e ∧ c.compose b method uri options = .error e) ∨
      ∃ call call', c.compose a method uri options = .ok call ∧
        c.compose b method uri options = .ok call' ∧
          call.AgreeBut (a.map Credentials.ownName) call' := by
  unfold compose
  cases c.resolve uri with
  | error e => exact .inl ⟨e, rfl, rfl⟩
  | ok url =>
    rcases composeHeaders_alike (c := c) h options.headers with
      ⟨e, ha, hb⟩ | ⟨g, g', ha, hb, hagree⟩
    · rw [ha, hb]
      exact .inl ⟨e, rfl, rfl⟩
    · rw [ha, hb]
      exact .inr ⟨_, _, rfl, rfl, rfl, hagree⟩

end Client

/-! ## One call -/

theorem Session.Alike.wait {s t : Session} (h : s.Alike t) (d : Duration) :
    (s.wait d).Alike (t.wait d) := by
  obtain ⟨hrest, hcredentials⟩ := h
  refine ⟨?_, hcredentials⟩
  rw [hrest]
  rfl

namespace SameReplies

variable {env env' : Environment} {n : Nat} {calls calls' more more' : List SentCall}

theorem left (h : SameReplies env env' n (calls ++ more) (calls' ++ more')) :
    SameReplies env env' n calls calls' := by
  intro i t u ht hu
  have hi : i < calls.length := (List.getElem?_eq_some_iff.1 ht).1
  have hi' : i < calls'.length := (List.getElem?_eq_some_iff.1 hu).1
  exact h i t u (by rw [List.getElem?_append_left hi, ht])
    (by rw [List.getElem?_append_left hi', hu])

theorem right (h : SameReplies env env' n (calls ++ more) (calls' ++ more'))
    (hlength : calls.length = calls'.length) :
    SameReplies env env' (n + calls.length) more more' := by
  intro i t u ht hu
  have hsame := h (calls.length + i) t u
    (by rw [List.getElem?_append_right (Nat.le_add_right _ _), Nat.add_sub_cancel_left, ht])
    (by rw [hlength, List.getElem?_append_right (Nat.le_add_right _ _), Nat.add_sub_cancel_left,
      hu])
  rwa [← Nat.add_assoc] at hsame

theorem tail {t u : SentCall} (h : SameReplies env env' n (t :: more) (u :: more')) :
    SameReplies env env' (n + 1) more more' :=
  right (show SameReplies env env' n ([t] ++ more) ([u] ++ more') from h) rfl

end SameReplies

namespace Client

variable {c : Client} {env env' : Environment} {method uri : String} {options : RequestOptions}
  {s t : Session} {own : Option String}

theorem send_alike {call call' : Call} (hs : s.Alike t) (hdate : env.date = env'.date)
    (hcall : call.AgreeBut own call')
    (hreply : env.send s.sent call = env'.send t.sent call') :
    (send env call s).Alike own (send env' call' t) := by
  obtain ⟨hrest, hcredentials⟩ := hs
  obtain ⟨hsame, hheaders⟩ := hcall
  have hnow : t.now = s.now := by rw [hrest]
  have hpacer : t.pacer = s.pacer := by rw [hrest]
  have hsent : t.sent = s.sent := by rw [hrest]
  have hmethod : call'.method = call.method := by rw [hsame]
  have hurl : call'.url = call.url := by rw [hsame]
  have hcalls : ∀ time, List.Forall₂ (SentCall.AgreeBut own) [⟨time, call⟩] [⟨time, call'⟩] :=
    fun time => .cons ⟨rfl, hsame, hheaders⟩ .nil
  unfold send
  rw [← hreply, hnow, hpacer, hsent, hmethod, hurl]
  dsimp only
  cases (env.send s.sent call).outcome with
  | error e => exact ⟨rfl, rfl, hcalls _, rfl, hcredentials⟩
  | ok answer =>
    dsimp only
    have hclassify : classify env' answer (env.send s.sent call).delay =
        classify env answer (env.send s.sent call).delay := by
      rw [classify, classify, hdate]
    rw [hclassify]
    exact ⟨rfl, rfl, hcalls _, rfl, hcredentials⟩

theorem send_eq_of_sameReplies {calls calls' : List SentCall} {call call' : Call} (hs : s.Alike t)
    (hreplies : SameReplies env env' s.sent calls calls') (hfirst : calls[0]? = some (turn call s).sent)
    (hfirst' : calls'[0]? = some (turn call' t).sent) :
    env.send s.sent call = env'.send t.sent call' := by
  have hsent : t.sent = s.sent := by rw [hs.rest]
  rw [hsent]
  exact hreplies 0 _ _ hfirst hfirst'

theorem dispatch_alike (hs : s.Alike t) (hdate : env.date = env'.date)
    (hreplies : SameReplies env env' s.sent (c.dispatch env method uri options s).calls
      (c.dispatch env' method uri options t).calls) :
    (c.dispatch env method uri options s).Alike (s.credentials.map Credentials.ownName)
      (c.dispatch env' method uri options t) := by
  rcases compose_alike c method uri options hs.credentials with
    ⟨e, hfails, hfails'⟩ | ⟨call, call', hcall, hcall', hagree⟩
  · rw [dispatch, dispatch, hfails, hfails']
    exact ⟨rfl, rfl, .nil, hs⟩
  · rw [dispatch_eq_send hcall, dispatch_eq_send hcall', calls_send, calls_send] at hreplies
    rw [dispatch_eq_send hcall, dispatch_eq_send hcall']
    exact send_alike hs hdate hagree (send_eq_of_sameReplies hs hreplies rfl rfl)

/-! ## A request -/

theorem retryEvents_of_date (hdate : env.date = env'.date) (e : Error) (failures : Nat) :
    c.retryWait env' e failures = c.retryWait env e failures ∧
      c.retryEvents env' e failures = c.retryEvents env e failures := by
  unfold retryEvents retryWait askedWait
  rw [hdate]
  exact ⟨rfl, rfl⟩

theorem finish_alike {r q : Run Response} (method uri : String) (start : Duration) (attempt : Nat)
    (h : r.Alike own q) :
    (finish method uri start attempt r).Alike own (finish method uri start attempt q) := by
  obtain ⟨houtcome, hevents, hcalls, hsession⟩ := h
  have hnow : q.session.now = r.session.now := by rw [hsession.rest]
  unfold finish
  rw [← houtcome, ← hevents, hnow]
  exact ⟨rfl, rfl, hcalls, hsession⟩

/-- Whether every attempt of a request is composed alike where the credentials show `shown n` and where
they show `shown' n`. -/
def ComposesAlike (c : Client) (own : Option String) (shown shown' : Nat → Option Showing)
    (method uri : String) (options : RequestOptions) : Prop :=
  ∀ n, (∃ e, c.composeShown (shown n) method uri options = .error e ∧
      c.composeShown (shown' n) method uri options = .error e) ∨
    ∃ call call', c.composeShown (shown n) method uri options = .ok call ∧
      c.composeShown (shown' n) method uri options = .ok call' ∧ call.AgreeBut own call'

theorem Tried.alike {shown shown' : Nat → Option Showing} {start : Duration} {left attempt : Nat}
    {ts : List Turn} {r : Run Response} (hdate : env.date = env'.date)
    (hcompose : c.ComposesAlike own shown shown' method uri options)
    (h : c.Tried env shown method uri options start left attempt s ts r) (hs : s.Alike t)
    (hreplies : SameReplies env env' s.sent r.calls
      (c.executeFromShown env' shown' method uri options start left attempt t).calls) :
    r.Alike own (c.executeFromShown env' shown' method uri options start left attempt t) := by
  induction h generalizing t with
  | @unsent left attempt s e composed =>
    rcases hcompose attempt with ⟨f, hfails, hfails'⟩ | ⟨call, -, hcall, -⟩
    · rw [composed] at hfails
      cases hfails
      rw [executeFromShown_of_error hfails']
      exact ⟨rfl, rfl, .nil, hs⟩
    · rw [composed] at hcall
      cases hcall
  | @last left attempt s call composed stops =>
    rcases hcompose attempt with ⟨f, hfails, -⟩ | ⟨first, call', hcall, hcall', hagree⟩
    · rw [composed] at hfails
      cases hfails
    · rw [composed] at hcall
      cases hcall
      have halike : (send env call s).Alike own (send env' call' t) :=
        send_alike hs hdate hagree (send_eq_of_sameReplies hs hreplies
          (by rw [finish, calls_send]; rfl)
          ((c.tried env' shown' method uri options start left attempt t).first_of_composed hcall'))
      rw [executeFromShown_of_last hcall' fun e he => stops e (halike.outcome.trans he)]
      exact finish_alike method uri start attempt halike
  | @next left attempt s call e ts rest composed failed transient goes ih =>
    rcases hcompose attempt with ⟨f, hfails, -⟩ | ⟨first, call', hcall, hcall', hagree⟩
    · rw [composed] at hfails
      cases hfails
    · rw [composed] at hcall
      cases hcall
      have halike : (send env call s).Alike own (send env' call' t) :=
        send_alike hs hdate hagree (send_eq_of_sameReplies hs hreplies rfl
          ((c.tried env' shown' method uri options start _ attempt t).first_of_composed hcall'))
      obtain ⟨hwait, hevents⟩ := retryEvents_of_date (c := c) hdate e attempt
      rw [executeFromShown_of_next hcall' (halike.outcome ▸ failed) transient, hwait, hevents]
        at hreplies ⊢
      have hrest := SameReplies.tail hreplies
      rw [← sent_send env call s] at hrest
      obtain ⟨houtcome, hlog, hcalls, hsession⟩ := ih (halike.session.wait _) hrest
      refine ⟨houtcome, ?_, ?_, hsession⟩
      · rw [halike.events, hlog]
      · have hfirst := halike.calls
        rw [calls_send, calls_send] at hfirst
        exact List.rel_append hfirst hcalls

theorem composesAlike_of_credentials (c : Client) (method uri : String) (options : RequestOptions)
    (h : Credentials.Alike a b) : c.ComposesAlike (a.map Credentials.ownName)
      (fun _ => a.map Credentials.showing) (fun _ => b.map Credentials.showing) method uri options := by
  intro n
  have halike := compose_alike c method uri options h
  rwa [compose_eq_shown, compose_eq_shown] at halike

theorem perform_alike {q : Request} (hdate : env.date = env'.date) (hs : s.Alike t)
    (hreplies : SameReplies env env' s.sent (c.perform env q s).calls (c.perform env' q t).calls) :
    (c.perform env q s).Alike (s.credentials.map Credentials.ownName) (c.perform env' q t) := by
  cases q with
  | execute method uri options =>
    have hnow : t.now = s.now := by rw [hs.rest]
    rw [perform, perform, execute_eq_shown, execute_eq_shown, executeShown, executeShown, hnow]
      at hreplies ⊢
    exact (c.tried env _ method uri options s.now _ 1 s).alike hdate
      (composesAlike_of_credentials c method uri options hs.credentials) hs hreplies
  | dispatch method uri options => exact dispatch_alike hs hdate hreplies

theorem sent_perform (c : Client) (env : Environment) (q : Request) (s : Session) :
    (c.perform env q s).session.sent = s.sent + (c.perform env q s).calls.length := by
  rw [perform_eq_shown]
  cases q with
  | execute method uri options =>
    exact (c.tried env _ method uri options s.now (c.policy.budget - 1) 1 s).sent_session
  | dispatch method uri options =>
    obtain ⟨hcalls, hsession⟩ := c.dispatchShown_eq env
      (fun _ => s.credentials.map Credentials.showing) method uri options s
    rw [performShown, hcalls, hsession]
    exact (c.tried env _ method uri options s.now 0 1 s).sent_session

end Client

/-! ## Every operation -/

theorem Run.Alike.andThen {α β : Type} {own : Option String} {r q : Run α} (h : r.Alike own q)
    (f : α → Traced β) : (r.andThen f).Alike own (q.andThen f) := by
  obtain ⟨houtcome, hevents, hcalls, hsession⟩ := h
  unfold Run.andThen
  rw [← houtcome, ← hevents]
  split <;> exact ⟨rfl, rfl, hcalls, hsession⟩

theorem Run.session_andThen {α β : Type} (r : Run α) (f : α → Traced β) :
    (r.andThen f).session = r.session := by
  unfold Run.andThen
  split <;> rfl

namespace Client

variable {α : Type} {c : Client} {env env' : Environment} {s t : Session}

theorem ask_alike {p : Endpoint} {verb : Verb} {request : EndpointRequest}
    (hdate : env.date = env'.date) (hs : s.Alike t)
    (hreplies : SameReplies env env' s.sent (p.ask c env verb request s).calls
      (p.ask c env' verb request t).calls) :
    (p.ask c env verb request s).Alike (s.credentials.map Credentials.ownName)
      (p.ask c env' verb request t) := by
  cases huri : p.uri request.suffix with
  | error fault =>
    simp only [Endpoint.ask, huri]
    exact ⟨rfl, rfl, .nil, hs⟩
  | ok uri =>
    simp only [Endpoint.ask, huri, Run.calls_andThen] at hreplies ⊢
    exact
      (perform_alike (q := .execute verb.method uri request.options) hdate hs hreplies).andThen _

theorem sent_ask (c : Client) (env : Environment) (p : Endpoint) (verb : Verb)
    (request : EndpointRequest) (s : Session) :
    (p.ask c env verb request s).session.sent =
      s.sent + (p.ask c env verb request s).calls.length := by
  unfold Endpoint.ask
  cases p.uri request.suffix with
  | error fault => rfl
  | ok uri =>
    dsimp only
    rw [Run.calls_andThen, Run.session_andThen]
    exact sent_perform c env (.execute verb.method uri request.options) s

theorem setCredentials_alike {a b : Option Credentials} (h : Credentials.Alike a b) (hs : s.Alike t)
    (own : Option String) : (s.setCredentials a).Alike own (t.setCredentials b) := by
  refine ⟨rfl, h.events_eq, .nil, ?_, h⟩
  unfold Session.setCredentials
  rw [hs.rest]

theorem carryOut_alike {o o' : Operation α} (hdate : env.date = env'.date) (ho : o.Alike o')
    (hs : s.Alike t)
    (hreplies :
      SameReplies env env' s.sent (c.carryOut env o s).calls (c.carryOut env' o' t).calls) :
    (c.carryOut env o s).Alike (s.credentials.map Credentials.ownName) (c.carryOut env' o' t) := by
  cases ho with
  | authenticate other =>
    rw [carryOut, carryOut]
    exact (setCredentials_alike other hs _).andThen _
  | same =>
    cases o with
    | idle d => exact ⟨rfl, rfl, .nil, hs.wait d⟩
    | authenticate credentials =>
      rw [carryOut, carryOut]
      exact (setCredentials_alike (.same credentials) hs _).andThen _
    | request q =>
      rw [carryOut, carryOut, Run.calls_andThen, Run.calls_andThen] at hreplies
      exact (perform_alike hdate hs hreplies).andThen _
    | ask p verb request =>
      rw [carryOut, carryOut, Run.calls_andThen, Run.calls_andThen] at hreplies
      exact (ask_alike hdate hs hreplies).andThen _
    | fetch p bind request =>
      rw [carryOut, carryOut, Run.calls_andThen, Run.calls_andThen, Endpoint.fetchBound,
        Endpoint.fetchBound, Run.calls_andThen, Run.calls_andThen] at hreplies
      exact ((ask_alike hdate hs hreplies).andThen _).andThen _

theorem sent_carryOut (c : Client) (env : Environment) (o : Operation α) (s : Session) :
    (c.carryOut env o s).session.sent = s.sent + (c.carryOut env o s).calls.length := by
  cases o with
  | idle d => rfl
  | authenticate credentials => rfl
  | request q =>
    rw [carryOut, Run.calls_andThen, Run.session_andThen]
    exact sent_perform c env q s
  | ask p verb request =>
    rw [carryOut, Run.calls_andThen, Run.session_andThen]
    exact sent_ask c env p verb request s
  | fetch p bind request =>
    rw [carryOut, Run.calls_andThen, Run.session_andThen, Endpoint.fetchBound, Run.calls_andThen,
      Run.session_andThen]
    exact sent_ask c env p .fetch request s

theorem allCalls_cons (c : Client) (env : Environment) (o : Operation α)
    (operations : List (Operation α)) (s : Session) :
    c.allCalls env (o :: operations) s =
      (c.carryOut env o s).calls ++ c.allCalls env operations (c.carryOut env o s).session :=
  rfl

theorem carryOutAll_alike {operations operations' : List (Operation α)}
    (hdate : env.date = env'.date)
    (hoperations : List.Forall₂ Operation.Alike operations operations') (hs : s.Alike t)
    (hreplies : SameReplies env env' s.sent (c.allCalls env operations s)
      (c.allCalls env' operations' t)) :
    List.Forall₂ (fun p p' => p.2.Alike (p.1.map Credentials.ownName) p'.2)
      (c.carryOutAll env operations s) (c.carryOutAll env' operations' t) := by
  induction hoperations generalizing s t with
  | nil => exact .nil
  | cons ho _ ih =>
    rw [allCalls_cons, allCalls_cons] at hreplies
    have hfirst := carryOut_alike hdate ho hs hreplies.left
    have hrest := hreplies.right hfirst.calls.length_eq
    rw [← sent_carryOut] at hrest
    exact .cons hfirst (ih hfirst.session hrest)

/-! ## Another secret in the settings -/

/-- The credentials a client starts with do not count for what is done with it later. -/
theorem executeFrom_reissue (credentials : Option Credentials) (env : Environment)
    (method uri : String) (options : RequestOptions) (start : Duration) (left attempt : Nat)
    (s : Session) :
    executeFrom { c with credentials } env method uri options start left attempt s =
      c.executeFrom env method uri options start left attempt s := by
  induction left generalizing attempt s with
  | zero =>
    rw [executeFrom_zero, executeFrom_zero]
    rfl
  | succ left ih =>
    rw [executeFrom_succ, executeFrom_succ]
    exact follow_congr (c := c) fun d => ih _ _

theorem carryOut_reissue (credentials : Option Credentials) (env : Environment) (o : Operation α)
    (s : Session) : carryOut { c with credentials } env o s = c.carryOut env o s := by
  have hperform : ∀ q, perform { c with credentials } env q s = c.perform env q s := by
    intro q
    cases q with
    | execute method uri options =>
      exact executeFrom_reissue credentials env method uri options s.now _ 1 s
    | dispatch method uri options => rfl
  have hask : ∀ (p : Endpoint) verb request,
      p.ask { c with credentials } env verb request s = p.ask c env verb request s := by
    intro p verb request
    unfold Endpoint.ask
    cases p.uri request.suffix with
    | error fault => rfl
    | ok uri =>
      exact congrArg (Run.andThen · _) (hperform (.execute verb.method uri request.options))
  cases o with
  | idle d => rfl
  | authenticate credentials => rfl
  | request q => rw [carryOut, carryOut, hperform]
  | ask p verb request => rw [carryOut, carryOut, hask]
  | fetch p bind request => rw [carryOut, carryOut, Endpoint.fetchBound, Endpoint.fetchBound, hask]

theorem carryOutAll_reissue (credentials : Option Credentials) (env : Environment)
    (operations : List (Operation α)) (s : Session) :
    carryOutAll { c with credentials } env operations s = c.carryOutAll env operations s := by
  induction operations generalizing s with
  | nil => rfl
  | cons o rest ih => rw [carryOutAll, carryOutAll, carryOut_reissue, ih]

/-- A client starts alike with one secret and with another. -/
theorem start_reissue {credentials : Option Credentials}
    (h : Credentials.Alike c.credentials credentials) :
    (start { c with credentials }).events = c.start.events ∧
    (∀ f, c.start.outcome = .error f → (start { c with credentials }).outcome = .error f) ∧
    ∀ s, c.start.outcome = .ok s →
      ∃ t, (start { c with credentials }).outcome = .ok t ∧ s.Alike t := by
  have hstart : ∀ c : Client, c.start = (Pacer.create c.interval c.pauses).andThen fun pacer =>
      let r := Session.setCredentials ⟨.zero, pacer, none, 0⟩ c.credentials
      ⟨.ok r.session, r.events⟩ := fun _ => rfl
  rw [hstart, hstart]
  unfold Traced.andThen
  dsimp only
  cases (Pacer.create c.interval c.pauses).outcome with
  | error f => exact ⟨rfl, fun _ hf => hf, nofun⟩
  | ok pacer =>
    refine ⟨?_, nofun, ?_⟩
    · exact congrArg (_ ++ ·) h.events_eq.symm
    · rintro s ⟨⟩
      exact ⟨_, rfl, rfl, h⟩

end Client

/-- Secrets show in headers alone. Two clients that differ in the secret of their credentials at
most, are used for the same and get the same replies have the same results, errors and events and
make the same calls at the same times, but for the values of the header that carries the secret at
that time. On the way they may change their credentials for others that differ in the secret at
most. -/
theorem carryOutAll_alike_of_start {α : Type} {c c' : Client}
    (hsettings : c' = { c with credentials := c'.credentials })
    (hsecret : Credentials.Alike c.credentials c'.credentials) {env env' : Environment}
    (hdate : env.date = env'.date) {operations operations' : List (Operation α)}
    (hoperations : List.Forall₂ Operation.Alike operations operations') :
    c'.start.events = c.start.events ∧
    (∀ f, c.start.outcome = .error f → c'.start.outcome = .error f) ∧
    ∀ s, c.start.outcome = .ok s → ∃ t, c'.start.outcome = .ok t ∧ s.Alike t ∧
      (SameReplies env env' s.sent (c.allCalls env operations s) (c'.allCalls env' operations' t) →
        List.Forall₂ (fun p p' => p.2.Alike (p.1.map Credentials.ownName) p'.2)
          (c.carryOutAll env operations s) (c'.carryOutAll env' operations' t)) := by
  obtain ⟨hevents, hfails, hstarts⟩ := Client.start_reissue hsecret
  rw [← hsettings] at hevents hfails hstarts
  refine ⟨hevents, hfails, fun s hs => ?_⟩
  obtain ⟨t, ht, halike⟩ := hstarts s hs
  have hrun : ∀ s, c'.carryOutAll env' operations' s = c.carryOutAll env' operations' s := by
    rw [hsettings]
    exact Client.carryOutAll_reissue _ env' operations'
  refine ⟨t, ht, halike, fun hreplies => ?_⟩
  rw [Client.allCalls, Client.allCalls, hrun] at hreplies
  rw [hrun]
  exact Client.carryOutAll_alike hdate hoperations halike hreplies

namespace Sample

def holder (token : String) : Client where
  policy := ⟨2, .ofSeconds 1, true⟩
  credentials := some (.bearer token [("X-Team", "north")])

/-- A request with the token, and one with a key in its place. -/
def chores (key : String) : List (Operation Unit) :=
  [.request orders, .authenticate (some (.ofKey key)), .request orders]

end Sample

open Sample in
/-- The first request is sent twice. -/
theorem carryOutAll_alike_holder : ∃ s t,
    (holder "alpha").start.outcome = .ok s ∧ (holder "beta").start.outcome = .ok t ∧
    ((holder "alpha").allCalls (busyOnce .empty) (chores "k1") s).map (·.call.headers.entries) =
      [[("authorization", "Bearer alpha"), ("x-team", "north")],
        [("authorization", "Bearer alpha"), ("x-team", "north")], [("x-api-key", "k1")]] ∧
    ((holder "beta").allCalls (busyOnce .empty) (chores "k2") t).map (·.call.headers.entries) =
      [[("authorization", "Bearer beta"), ("x-team", "north")],
        [("authorization", "Bearer beta"), ("x-team", "north")], [("x-api-key", "k2")]] ∧
    List.Forall₂ (fun p p' => p.2.Alike (p.1.map Credentials.ownName) p'.2)
      ((holder "alpha").carryOutAll (busyOnce .empty) (chores "k1") s)
      ((holder "beta").carryOutAll (busyOnce .empty) (chores "k2") t) := by
  have hsound : ∀ token ∈ ["alpha", "beta"],
      (Credentials.bearer token [("X-Team", "north")]).IsSound := by
    intro token htoken
    simp only [List.mem_cons, List.not_mem_nil, or_false] at htoken
    rcases htoken with rfl | rfl
    all_goals
      refine ⟨by decide, fun p hp => ?_⟩
      simp only [Credentials.headers, List.mem_cons, List.not_mem_nil, or_false] at hp
      rcases hp with rfl | rfl <;> exact ⟨by decide +kernel, by decide +kernel⟩
  have hkey : ∀ key ∈ ["k1", "k2"], (Credentials.ofKey key).IsSound := by
    intro key hkey
    simp only [List.mem_cons, List.not_mem_nil, or_false] at hkey
    rcases hkey with rfl | rfl
    all_goals
      refine ⟨by decide, fun p hp => ?_⟩
      rw [List.mem_singleton.1 hp]
      exact ⟨by decide +kernel, by decide +kernel⟩
  have hoperations : List.Forall₂ Operation.Alike (chores "k1") (chores "k2") :=
    .cons (.same _) (.cons (.authenticate (.reissued (.apiKey _ _ _) (hkey _ (by simp))
      (hkey _ (by simp)))) (.cons (.same _) .nil))
  have hsettings : holder "beta" =
    { holder "alpha" with credentials := (holder "beta").credentials } := rfl
  have hdate : (busyOnce .empty).date = (busyOnce .empty).date := rfl
  obtain ⟨-, -, hstarts⟩ := carryOutAll_alike_of_start hsettings
    (.reissued (.bearer _ _ _) (hsound _ (by simp)) (hsound _ (by simp))) hdate hoperations
  have hstart : (holder "alpha").start.outcome =
    .ok ⟨.zero, ⟨Pacer.defaultInterval, false, none⟩, (holder "alpha").credentials, 0⟩ := rfl
  obtain ⟨t, ht, -, halike⟩ := hstarts _ hstart
  cases ht
  exact ⟨_, _, rfl, rfl, by decide +kernel, by decide +kernel, halike fun _ _ _ _ _ => rfl⟩

end RestRecords
