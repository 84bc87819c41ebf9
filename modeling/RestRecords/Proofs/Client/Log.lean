import RestRecords.Proofs.Client.Layers
import RestRecords.Proofs.Client.Pauses
/-!
# What the log tells of a request

The events that a request reports are enough to follow it: every call has its event, so has every
answer that is a failure and every wait before the next attempt, and the last event names the error
that the request ends with, if it ends with one. Where what the credentials show changes on the way
and is not well formed any more, the last attempt has no call, but is counted all the same.
-/

namespace RestRecords

namespace Event

def isOf (level : Level) (message : String) (ev : Event) : Bool :=
  ev.level == level && ev.message == message

def isSending : Event → Bool :=
  isOf .debug "Sending request"

def isFailure : Event → Bool :=
  isOf .error "API error response"

def isRetrying : Event → Bool :=
  isOf .warn "Retrying request"

def isTerminal (ev : Event) : Bool :=
  isOf .error "Request failed" ev || isOf .error "Max retries reached" ev

def marks (log : List Event) : List Event :=
  log.filter fun ev => ev.isSending || ev.isRetrying

end Event

def Turn.sending (t : Turn) : Event :=
  .sendingRequest t.sent.call.method t.sent.call.url.text (t.sent.time.minus t.ready)

def Reply.failure? (r : Reply) : Option Event :=
  match r.outcome with
  | .ok answer =>
    if 400 ≤ answer.status.code then some (.failureReceived answer.status answer.body) else none
  | .error _ => none

def Environment.replies (env : Environment) (n : Nat) (calls : List SentCall) : List Reply :=
  calls.mapIdx fun i t => env.send (n + i) t.call

/-- Whether the events of a request tell what became of it: of the turns `ts`, which are its calls
and the first of which counts as the attempt of number `first`, and of the error it ends with, as the
attempt of number `last`. -/
structure Client.IsLogged (c : Client) (env : Environment) (method uri : String) (s : Session)
    (first last : Nat) (ts : List Turn) (r : Run Response) : Prop where
  calls : ts.map Turn.sent = r.calls
  first_le : first ≤ last
  sendings : r.events.filter Event.isSending = ts.map Turn.sending
  failures : r.events.filter Event.isFailure = (env.replies s.sent r.calls).filterMap Reply.failure?
  /-- Of the events for calls and retries, every other one is for a call. -/
  sends : ∀ i t, ts[i]? = some t → (Event.marks r.events)[2 * i]? = some t.sending
  /-- The one behind each call but that of the last attempt names its failure, and the time from its
  end to the instant at which the next call is ready, or at which the run ends if there is none. -/
  retries : ∀ i t, ts[i]? = some t → first + i < last → ∃ e d,
    (Event.marks r.events)[2 * i + 1]? = some (.retrying e (first + i) c.policy.budget d) ∧
    (env.send (s.sent + i) t.sent.call).Gives (first + i) (Outcome.fail e) ∧
    (∀ u, ts[i + 1]? = some u →
      u.ready = ((env.send (s.sent + i) t.sent.call).overAt s.pacer.pause t.sent.time).plus d) ∧
    (ts[i + 1]? = none →
      r.session.now =
        ((env.send (s.sent + i) t.sent.call).overAt s.pacer.pause t.sent.time).plus d)
  length_marks : (Event.marks r.events).length = ts.length + (last - first)
  failed : ∀ e, r.outcome = Outcome.fail e →
    r.events.getLast? = some (.terminal e last method uri) ∧
      r.events.filter Event.isTerminal = [.terminal e last method uri]
  unfailed : (∀ e, r.outcome ≠ Outcome.fail e) → r.events.filter Event.isTerminal = []

/-! ## The events of one call -/

namespace Event

@[simp] theorem isSending_terminal (e : Error) (attempts : Nat) (method uri : String) :
    (terminal e attempts method uri).isSending = false := by
  unfold terminal
  split <;> rfl

@[simp] theorem isFailure_terminal (e : Error) (attempts : Nat) (method uri : String) :
    (terminal e attempts method uri).isFailure = false := by
  unfold terminal
  split <;> rfl

@[simp] theorem isRetrying_terminal (e : Error) (attempts : Nat) (method uri : String) :
    (terminal e attempts method uri).isRetrying = false := by
  unfold terminal
  split <;> rfl

@[simp] theorem isTerminal_terminal (e : Error) (attempts : Nat) (method uri : String) :
    (terminal e attempts method uri).isTerminal = true := by
  unfold terminal
  split <;> rfl

theorem marks_append (log log' : List Event) : marks (log ++ log') = marks log ++ marks log' :=
  List.filter_append _ _

end Event

namespace Turn

@[simp] theorem isSending_sending (t : Turn) : t.sending.isSending = true := rfl

@[simp] theorem marks_sending (t : Turn) (log : List Event) :
    Event.marks (t.sending :: log) = t.sending :: Event.marks log := rfl

end Turn

def Reply.told (r : Reply) : List Event :=
  match r.outcome with
  | .ok answer =>
    [if 400 ≤ answer.status.code then .failureReceived answer.status answer.body
      else .responseReceived answer.status r.delay]
  | .error _ => []

namespace Reply

theorem filter_told (r : Reply) :
    r.told.filter Event.isSending = [] ∧ r.told.filter Event.isFailure = r.failure?.toList ∧
      Event.marks r.told = [] ∧ r.told.filter Event.isTerminal = [] := by
  unfold told failure?
  split
  · split <;> exact ⟨rfl, rfl, rfl, rfl⟩
  · exact ⟨rfl, rfl, rfl, rfl⟩

end Reply

namespace Client

variable {c : Client} {env : Environment} {method uri : String} {options : RequestOptions}
  {call : Call}

theorem events_send (env : Environment) (call : Call) (s : Session) :
    (send env call s).events = (turn call s).sending :: (env.send s.sent call).told := by
  have hwaited : (s.now.plus (s.pacer.wait s.now)).minus s.now = s.pacer.wait s.now := by
    simp only [Duration.plus, Duration.minus, Nat.add_sub_cancel_left]
  unfold send turn Turn.sending Reply.told
  dsimp only
  rw [hwaited]
  cases (env.send s.sent call).outcome with
  | error e => rfl
  | ok answer =>
    dsimp only
    unfold classify
    by_cases hfailure : 400 ≤ answer.status.code
    · rw [if_pos (by simpa [Status.isFailure] using hfailure), if_pos hfailure]
    · rw [if_neg (by simpa [Status.isFailure] using hfailure), if_neg hfailure]

/-- A call adds to the log the event for itself, and one for the reply if that is a failure. -/
theorem filter_send (env : Environment) (call : Call) (s : Session) (log : List Event) :
    ((send env call s).events ++ log).filter Event.isSending =
        (turn call s).sending :: log.filter Event.isSending ∧
      ((send env call s).events ++ log).filter Event.isFailure =
        (env.send s.sent call).failure?.toList ++ log.filter Event.isFailure ∧
      Event.marks ((send env call s).events ++ log) = (turn call s).sending :: Event.marks log ∧
      ((send env call s).events ++ log).filter Event.isTerminal = log.filter Event.isTerminal := by
  obtain ⟨hsendings, hfailures, hmarks, hterminals⟩ := (env.send s.sent call).filter_told
  rw [events_send, List.cons_append]
  refine ⟨?_, ?_, ?_, ?_⟩
  · rw [List.filter_cons_of_pos (Turn.isSending_sending _), List.filter_append, hsendings,
      List.nil_append]
  · rw [List.filter_cons_of_neg Bool.false_ne_true, List.filter_append, hfailures]
  · rw [Turn.marks_sending, Event.marks_append, hmarks, List.nil_append]
  · rw [List.filter_cons_of_neg Bool.false_ne_true, List.filter_append, hterminals, List.nil_append]

theorem filter_retryEvents (c : Client) (env : Environment) (e : Error) (failures : Nat)
    (log : List Event) :
    (c.retryEvents env e failures ++ log).filter Event.isSending = log.filter Event.isSending ∧
      (c.retryEvents env e failures ++ log).filter Event.isFailure =
        log.filter Event.isFailure ∧
      Event.marks (c.retryEvents env e failures ++ log) =
        .retrying e failures c.policy.budget (c.retryWait env e failures) :: Event.marks log ∧
      (c.retryEvents env e failures ++ log).filter Event.isTerminal =
        log.filter Event.isTerminal := by
  unfold retryEvents
  cases c.askedWait env e <;> exact ⟨rfl, rfl, rfl, rfl⟩

theorem ending_fail (e : Error) (attempt : Nat) :
    ending method uri attempt (Outcome.fail e) = [.terminal e attempt method uri] :=
  rfl

theorem ending_eq_nil {outcome : Outcome Response} (h : ∀ e, outcome ≠ Outcome.fail e)
    (attempt : Nat) : ending method uri attempt outcome = [] := by
  unfold ending
  split
  · rename_i e
    exact absurd rfl (h e)
  · rfl

theorem filter_ending (method uri : String) (attempt : Nat) (outcome : Outcome Response) :
    (ending method uri attempt outcome).filter Event.isSending = [] ∧
      (ending method uri attempt outcome).filter Event.isFailure = [] ∧
      Event.marks (ending method uri attempt outcome) = [] ∧
      (ending method uri attempt outcome).filter Event.isTerminal =
        ending method uri attempt outcome := by
  unfold ending
  split
  · simp [Event.marks]
  · exact ⟨rfl, rfl, rfl, rfl⟩

/-! ## The end of a request -/

theorem replies_cons (n : Nat) (t : SentCall) (calls : List SentCall) :
    env.replies n (t :: calls) = env.send n t.call :: env.replies (n + 1) calls := by
  simp only [Environment.replies, List.mapIdx_cons, Nat.add_zero, Nat.add_right_comm n 1,
    Nat.add_assoc]

theorem filterMap_failure?_cons (r : Reply) (rs : List Reply) :
    (r :: rs).filterMap Reply.failure? = r.failure?.toList ++ rs.filterMap Reply.failure? := by
  rw [List.filterMap_cons]
  cases r.failure? <;> rfl

theorem isLogged_of_unsent (c : Client) (env : Environment) (method uri : String) (s : Session)
    (attempt : Nat) (e : Error) : c.IsLogged env method uri s attempt attempt []
      ⟨Outcome.fail e, [], [.terminal e attempt method uri], s⟩ := by
  refine ⟨rfl, Nat.le_refl _, by simp, by simp [Environment.replies], by simp, by simp,
    by simp [Event.marks], fun f hf => ?_, fun h => absurd rfl (h e)⟩
  cases hf
  exact ⟨rfl, by simp⟩

theorem finish_fail_iff {start : Duration} {attempt : Nat} {r : Run Response} {e : Error} :
    (finish method uri start attempt r).outcome = Outcome.fail e ↔ r.outcome = Outcome.fail e := by
  rw [finish]
  cases r.outcome with
  | ok response => exact iff_of_false (fun h => by cases h) (fun h => by cases h)
  | error failure => exact Iff.rfl

/-- A request that ends with a call is logged by the events of this call and the one for its error. -/
theorem isLogged_finish (c : Client) (env : Environment) (method uri : String) (start : Duration)
    (attempt : Nat) (call : Call) (s : Session) :
    c.IsLogged env method uri s attempt attempt [turn call s]
      (finish method uri start attempt (send env call s)) := by
  obtain ⟨hsendings, hfailures, hmarks, hterminals⟩ :=
    filter_send env call s (ending method uri attempt (send env call s).outcome)
  obtain ⟨hendSendings, hendFailures, hendMarks, hendTerminals⟩ :=
    filter_ending method uri attempt (send env call s).outcome
  rw [hendSendings] at hsendings
  rw [hendFailures, List.append_nil] at hfailures
  rw [hendMarks] at hmarks
  rw [hendTerminals] at hterminals
  refine ⟨(calls_send env call s).symm, Nat.le_refl _, hsendings, ?_, fun i t ht => ?_,
    fun i t _ hi => by omega, ?_, fun e he => ?_, fun h => ?_⟩
  · rw [finish, hfailures, calls_send, replies_cons, filterMap_failure?_cons]
    exact (List.append_nil _).symm
  · rw [finish, hmarks]
    cases i with
    | zero =>
      cases ht
      rfl
    | succ i => simp at ht
  · rw [finish, hmarks, Nat.sub_self]
    rfl
  · rw [finish, hterminals, finish_fail_iff.1 he, ending_fail]
    exact ⟨List.getLast?_concat, rfl⟩
  · rw [finish, hterminals, ending_eq_nil fun e he => h e (finish_fail_iff.2 he)]

/-- A request that is tried again is logged by the events of its first call, the one for the wait and
those of the attempts behind it. -/
theorem IsLogged.next {s' : Session} {e : Error} {first last : Nat} {ts : List Turn}
    {rest : Run Response} (failed : (send env call s).outcome = Outcome.fail e)
    (hs' : s' = (send env call s).session.wait (c.retryWait env e first))
    (hrest : c.IsLogged env method uri s' (first + 1) last ts rest)
    (hready : ∀ u, ts[0]? = some u → u.ready = s'.now)
    (hend : ts[0]? = none → rest.session.now = s'.now) :
    c.IsLogged env method uri s first last (turn call s :: ts)
      ⟨rest.outcome, (turn call s).sent :: rest.calls,
        (send env call s).events ++ c.retryEvents env e first ++ rest.events, rest.session⟩ := by
  rw [List.append_assoc]
  obtain ⟨hsendings, hfailures, hmarks, hterminals⟩ :=
    filter_send env call s (c.retryEvents env e first ++ rest.events)
  obtain ⟨hwaitSendings, hwaitFailures, hwaitMarks, hwaitTerminals⟩ :=
    filter_retryEvents c env e first rest.events
  rw [hwaitSendings, hrest.sendings] at hsendings
  rw [hwaitFailures, hrest.failures] at hfailures
  rw [hwaitMarks] at hmarks
  rw [hwaitTerminals] at hterminals
  have hsent : s'.sent = s.sent + 1 := by rw [hs', Session.wait, sent_send]
  have hpause : s'.pacer.pause = s.pacer.pause := by
    rw [hs', Session.wait, pacer_send]
    rfl
  have hnow : s'.now = ((env.send s.sent call).overAt s.pacer.pause (turn call s).sent.time).plus
      (c.retryWait env e first) := by
    rw [hs', Session.wait, now_send]
  have hle := hrest.first_le
  refine ⟨congrArg _ hrest.calls, by omega, hsendings, ?_, fun i t ht => ?_, fun i t ht hi => ?_, ?_,
    fun f hf => ?_, fun h => ?_⟩
  · rw [hfailures, hsent, replies_cons, filterMap_failure?_cons]
    rfl
  · rw [hmarks]
    cases i with
    | zero =>
      cases ht
      rfl
    | succ i => exact hrest.sends i t ht
  · rw [hmarks]
    cases i with
    | zero =>
      cases ht
      exact ⟨e, c.retryWait env e first, rfl, (gives_of_outcome_send failed).2.2 first,
        fun u hu => (hready u hu).trans hnow, fun hnone => (hend hnone).trans hnow⟩
    | succ i =>
      obtain ⟨f, d, hmark, hgives, hnext, hlast⟩ := hrest.retries i t ht (by omega)
      rw [hsent, Nat.add_right_comm s.sent] at hgives hnext hlast
      rw [Nat.add_right_comm first] at hmark hgives
      rw [hpause] at hnext hlast
      exact ⟨f, d, hmark, hgives, hnext, hlast⟩
  · rw [hmarks, List.length_cons, List.length_cons, hrest.length_marks, List.length_cons]
    omega
  · obtain ⟨hlast, honly⟩ := hrest.failed f hf
    rw [hterminals, List.getLast?_append, List.getLast?_append, hlast]
    exact ⟨rfl, honly⟩
  · rw [hterminals]
    exact hrest.unfailed h

/-! ## The whole request -/

variable {shown : Nat → Option Showing} {start : Duration} {left attempt : Nat} {ts : List Turn}
  {r : Run Response}

/-- The first turn is ready in the session at the start, which is also the one left if there is none. -/
theorem Tried.ready_of_first (h : c.Tried env shown method uri options start left attempt s ts r) :
    (∀ u, ts[0]? = some u → u.ready = s.now) ∧ (ts[0]? = none → r.session.now = s.now) := by
  cases h with
  | unsent => exact ⟨by simp, fun _ => rfl⟩
  | last =>
    refine ⟨?_, by simp⟩
    rintro u ⟨⟩
    rfl
  | next =>
    refine ⟨?_, by simp⟩
    rintro u ⟨⟩
    rfl

/-- Every request is logged. Its attempts are as many as its turns, or one more that is not composed. -/
theorem Tried.isLogged (h : c.Tried env shown method uri options start left attempt s ts r) :
    ∃ last, c.IsLogged env method uri s attempt last ts r ∧
      (last + 1 = attempt + ts.length ∨ last = attempt + ts.length ∧
        ∃ e, c.composeShown (shown last) method uri options = .error e ∧
          r.outcome = Outcome.fail e) := by
  induction h with
  | @unsent left attempt s e composed =>
    exact ⟨attempt, isLogged_of_unsent c env method uri s attempt e, .inr ⟨rfl, e, composed, rfl⟩⟩
  | @last left attempt s call composed stops =>
    exact ⟨attempt, isLogged_finish c env method uri start attempt call s, .inl rfl⟩
  | @next left attempt s call e ts rest composed failed transient goes ih =>
    obtain ⟨last, hlogged, hlast⟩ := ih
    obtain ⟨hready, hend⟩ := goes.ready_of_first
    refine ⟨last, hlogged.next failed rfl hready hend, ?_⟩
    rw [List.length_cons]
    rcases hlast with hsent | ⟨hunsent, hwhy⟩
    · exact .inl (by omega)
    · exact .inr ⟨by omega, hwhy⟩

/-- The attempts of a request are its calls, or one more that is not composed. -/
theorem exists_isLogged (c : Client) (env : Environment) (shown : Nat → Option Showing)
    (method uri : String) (options : RequestOptions) (s : Session) : ∃ tries,
    c.IsLogged env method uri s 1 tries (c.turns env shown (.execute method uri options) s)
      (c.executeShown env shown method uri options s) ∧
    (tries = (c.executeShown env shown method uri options s).calls.length ∨
      tries = (c.executeShown env shown method uri options s).calls.length + 1 ∧
        ∃ e, c.composeShown (shown tries) method uri options = .error e ∧
          (c.executeShown env shown method uri options s).outcome = Outcome.fail e) := by
  obtain ⟨last, hlogged, hlast⟩ :=
    (c.tried env shown method uri options s.now (c.policy.budget - 1) 1 s).isLogged
  have hlength := congrArg List.length hlogged.calls
  rw [List.length_map] at hlength
  refine ⟨last, hlogged, ?_⟩
  rw [executeShown]
  rcases hlast with hsent | ⟨hunsent, hwhy⟩
  · exact .inl (by omega)
  · exact .inr ⟨by omega, hwhy⟩

end Client

/-- The log tells a request. In the order of the calls there is one event for each of them, and behind
each but the last attempt one event for the wait, with the number of the attempt that failed, its
failure and the time that then passes. Every answer with a failure status has one event with the status
and the body. There is an event for the end exactly if the request ends with an error; it is the last one
and names the error and the number of attempts. With the credentials of a session the attempts are the
calls, or one if there was none. Others may fail to be well formed behind the first call: then the last
attempt is one that was not sent, and the attempts are one more than the calls. -/
theorem isLogged_execute (c : Client) (env : Environment) (method uri : String)
    (options : RequestOptions) (s : Session) :
    c.IsLogged env method uri s 1 (max 1 (c.execute env method uri options s).calls.length)
      (c.turns env (fun _ => s.credentials.map Credentials.showing) (.execute method uri options) s)
      (c.execute env method uri options s) ∧
    ∀ shown, ∃ tries,
      c.IsLogged env method uri s 1 tries (c.turns env shown (.execute method uri options) s)
        (c.executeShown env shown method uri options s) ∧
      (tries = (c.executeShown env shown method uri options s).calls.length ∨
        tries = (c.executeShown env shown method uri options s).calls.length + 1 ∧
          ∃ e, c.composeShown (shown tries) method uri options = .error e ∧
            (c.executeShown env shown method uri options s).outcome = Outcome.fail e) := by
  refine ⟨?_, fun shown => c.exists_isLogged env shown method uri options s⟩
  obtain ⟨tries, htries, hcount⟩ :=
    c.exists_isLogged env (fun _ => s.credentials.map Credentials.showing) method uri options s
  rw [c.execute_eq_shown]
  suffices hmax : tries = max 1 (c.executeShown env
      (fun _ => s.credentials.map Credentials.showing) method uri options s).calls.length by
    rwa [← hmax]
  have hfirst := htries.first_le
  rcases hcount with hsent | ⟨hunsent, e, hcompose, -⟩
  · omega
  · -- The first call would have been composed of the same headers as the attempt that is not.
    cases hcalls : (c.executeShown env (fun _ => s.credentials.map Credentials.showing) method uri
      options s).calls with
    | nil => rw [hunsent, hcalls]; rfl
    | cons t rest =>
      have ht := (c.tried env (fun _ => s.credentials.map Credentials.showing) method uri options
        s.now (c.policy.budget - 1) 1 s).composed (i := 0) (congrArg (·[0]?) hcalls)
      rw [hcompose] at ht
      cases ht

open Sample in
/-- The log of a request whose first call is answered with status 429, with a key that is used for
the first call only. -/
theorem isLogged_execute_expiring :
    (branded.executeShown (busyOnce .empty) expiring "GET" "mock://api/orders" wanted
      idle).events.map Event.message =
        ["Sending request", "API error response", "Retrying request", "Sending request",
          "Received response"] ∧
    ∃ tries, branded.IsLogged (busyOnce .empty) "GET" "mock://api/orders" idle 1 tries
      (branded.turns (busyOnce .empty) expiring (.execute "GET" "mock://api/orders" wanted) idle)
      (branded.executeShown (busyOnce .empty) expiring "GET" "mock://api/orders" wanted idle) := by
  obtain ⟨tries, hlogged, -⟩ := (isLogged_execute branded (busyOnce .empty) "GET"
    "mock://api/orders" wanted idle).2 expiring
  exact ⟨by decide +kernel, tries, hlogged⟩

namespace Sample

/-- Credentials that show nothing before the first call, and then a header without a good name. -/
def rotten : Nat → Option Showing
  | 1 => none
  | _ => some ⟨true, [("bad name", "x")]⟩

end Sample

open Sample in
/-- Credentials that are not well formed behind the first call: an attempt is counted that has no call.
And where a window ends beyond the last instant, the log ends without an event for the end. -/
theorem not_isLogged_rotten :
    (twice.executeShown (busyOnce .empty) rotten "GET" "mock://api/orders" {} idle).calls.length = 1 ∧
    (twice.executeShown (busyOnce .empty) rotten "GET" "mock://api/orders" {} idle).events.map
      Event.message = ["Sending request", "API error response", "Retrying request", "Request failed"] ∧
    ¬twice.IsLogged (busyOnce .empty) "GET" "mock://api/orders" idle 1
      (max 1 (twice.executeShown (busyOnce .empty) rotten "GET" "mock://api/orders" {}
        idle).calls.length)
      (twice.turns (busyOnce .empty) rotten (.execute "GET" "mock://api/orders" {}) idle)
      (twice.executeShown (busyOnce .empty) rotten "GET" "mock://api/orders" {} idle) ∧
    (twice.execute (busyOnce lateReset) "GET" "mock://api/orders" {} idle).events.map
      Event.message = ["Sending request", "API error response"] := by
  have hlength : (twice.executeShown (busyOnce .empty) rotten "GET" "mock://api/orders" {}
      idle).calls.length = 1 := by decide +kernel
  refine ⟨hlength, by decide +kernel, fun h => ?_, by decide +kernel⟩
  -- Of one attempt and one turn there would be one event for a call or a retry, but there are two.
  have hmarks := h.length_marks
  rw [hlength] at hmarks
  revert hmarks
  decide +kernel

end RestRecords
