import RestRecords.Endpoint
import RestRecords.Proofs.Client.Attempts
import Mathlib.Data.Nat.Find
import Mathlib.Logic.ExistsUnique
/-!
# How often a request is sent

A request is sent until a reply comes that is not expected to pass, or until the budget is spent,
and the last reply is what the caller gets. Only a failure whose headers name an instant that cannot
be told ends the run without an answer. This holds whatever the credentials show before each call, as
long as the call can be composed.
-/

namespace RestRecords

/-- The policies that can be configured. -/
inductive RetryPolicy.Configured : RetryPolicy → Prop where
  | default : Configured .default
  | budget {p q : RetryPolicy} {calls : Nat} (before : Configured p)
    (done : (p.withBudget calls).outcome = .ok q) : Configured q
  | base {p q : RetryPolicy} {base : Duration} (before : Configured p)
    (done : (p.withBase base).outcome = .ok q) : Configured q
  | exponential {p : RetryPolicy} (before : Configured p) (exponential : Bool) :
    Configured (p.withExponential exponential)

theorem RetryPolicy.Configured.one_le_budget {p : RetryPolicy} (h : p.Configured) :
    1 ≤ p.budget := by
  induction h with
  | default => decide
  | budget _ done _ =>
    unfold withBudget at done
    split at done
    · cases done
    · rename_i hcalls
      cases done
      exact Nat.not_lt.1 hcalls
  | base _ done ih =>
    unfold withBase at done
    split at done
    · cases done
    · cases done
      exact ih
  | exponential _ _ ih => exact ih

/-! ## Replies -/

/-- Whether a status is expected to pass: rate limiting and temporary unavailability. -/
def Status.IsTransient (s : Status) : Prop :=
  s.code = 429 ∨ s.code = 503 ∨ s.code = 504

namespace Reply

/-- Whether a reply is a failure that is expected to pass. -/
def IsTransient (r : Reply) : Prop :=
  match r.outcome with
  | .ok answer => answer.status.IsTransient
  | .error (.api status _ _ _) => status.IsTransient
  | .error _ => False

/-- Whether the hints in the headers of a failure can be read. -/
def IsReadable (now : Duration) (r : Reply) : Prop :=
  ∀ answer, r.outcome = .ok answer → 400 ≤ answer.status.code →
    (RateLimit.ofHeaders? now answer.headers).isSome

/-- Whether an outcome is that of a reply: a response with what was answered and the number of calls
that were made, a failure with the status, body and headers of the answer, or the error that came
instead of an answer. -/
def Gives (r : Reply) (attempts : Nat) (outcome : Outcome Response) : Prop :=
  match r.outcome with
  | .ok answer =>
    if answer.status.code < 400 then
      ∃ latency, outcome = .ok ⟨answer.status, answer.headers, answer.body, latency, attempts⟩
    else
      ∃ hints, outcome = Outcome.fail (.api answer.status answer.body answer.headers hints)
  | .error e => outcome = Outcome.fail e

theorem Gives.ne_abort {r : Reply} {attempts : Nat} {outcome : Outcome Response}
    (h : r.Gives attempts outcome) (a : Abort) : outcome ≠ .error (.abort a) := by
  unfold Gives at h
  split at h
  · split at h
    · obtain ⟨_, rfl⟩ := h
      exact nofun
    · obtain ⟨_, rfl⟩ := h
      exact nofun
  · subst h
    exact nofun

end Reply

/-- Whether the reply at `n` is the one that a request with a budget of calls comes to: all before
it are expected to pass, and so is not it itself, unless it is the last that the budget allows. -/
structure IsFinal (replies : Nat → Reply) (budget n : Nat) : Prop where
  within : n < budget
  before : ∀ i < n, (replies i).IsTransient
  stops : n + 1 < budget → ¬(replies n).IsTransient

theorem exists_isFinal (replies : Nat → Reply) (left : Nat) :
    ∃ n, IsFinal replies (left + 1) n := by
  induction left generalizing replies with
  | zero => exact ⟨0, by omega, fun i hi => absurd hi (Nat.not_lt_zero i), by omega⟩
  | succ left ih =>
    by_cases hfirst : (replies 0).IsTransient
    · obtain ⟨n, hn⟩ := ih fun i => replies (i + 1)
      refine ⟨n + 1, by have := hn.within; omega, fun i hi => ?_, fun h => hn.stops (by omega)⟩
      cases i with
      | zero => exact hfirst
      | succ i => exact hn.before i (by omega)
    · exact ⟨0, by omega, fun i hi => absurd hi (Nat.not_lt_zero i), fun _ => hfirst⟩

theorem IsFinal.le {replies : Nat → Reply} {budget m n : Nat} (hm : IsFinal replies budget m)
    (hn : IsFinal replies budget n) : m ≤ n := by
  apply Nat.le_of_not_lt
  intro h
  have hwithin := hm.within
  exact hn.stops (by omega) (hm.before n h)

theorem IsFinal.unique {replies : Nat → Reply} {budget m n : Nat} (hm : IsFinal replies budget m)
    (hn : IsFinal replies budget n) : m = n :=
  Nat.le_antisymm (hm.le hn) (hn.le hm)

theorem existsUnique_isFinal (replies : Nat → Reply) {budget : Nat} (h : 1 ≤ budget) :
    ∃! n, IsFinal replies budget n := by
  obtain ⟨n, hn⟩ := exists_isFinal replies (budget - 1)
  rw [Nat.sub_add_cancel h] at hn
  exact ⟨n, hn, fun m hm => hm.unique hn⟩

variable {c : Client} {env : Environment} {method uri : String} {options : RequestOptions}

namespace Client

def replies (env : Environment) (call : Nat → Call) (s : Session) (i : Nat) : Reply :=
  env.send (s.sent + i) (call i)

/-- Whether a request comes to its attempt of number `n`, counted from zero: the budget allows it, and
every attempt before it is composed, and its call fails in a way that is expected to pass. -/
structure ComesTo (c : Client) (env : Environment) (shown : Nat → Option Showing)
    (method uri : String) (options : RequestOptions) (call : Nat → Call) (s : Session) (n : Nat) :
    Prop where
  within : n < c.policy.budget
  composed : ∀ i < n, c.composeShown (shown (i + 1)) method uri options = .ok (call i)
  before : ∀ i < n,
    (replies env call s i).IsTransient ∧ (replies env call s i).IsReadable env.date

/-- Whether a request was answered with the reply of number `n`, by one call more than that. -/
structure Answered (call : Nat → Call) (reply : Reply) (n : Nat) (r : Run Response) : Prop where
  calls : r.calls.map SentCall.call = (List.range (n + 1)).map call
  gives : reply.Gives (n + 1) r.outcome

/-! ## One call -/

theorem outcome_send_of_error {call : Call} {s : Session} {e : Error}
    (h : (env.send s.sent call).outcome = .error e) : (send env call s).outcome = Outcome.fail e := by
  simp only [send, h]

theorem outcome_send_of_ok {call : Call} {s : Session} {answer : Answer}
    (h : (env.send s.sent call).outcome = .ok answer) :
    (send env call s).outcome = (classify env answer (env.send s.sent call).delay).outcome := by
  simp only [send, h]

theorem isTransient_error_iff {r : Reply} {e : Error} (h : r.outcome = .error e) :
    e.isTransient = true ↔ r.IsTransient := by
  unfold Reply.IsTransient
  rw [h]
  cases e <;> simp [Error.isTransient, FailureKind.isTransient_ofStatus_iff, Status.IsTransient]

theorem isTransient_api_iff {r : Reply} {answer : Answer} (h : r.outcome = .ok answer)
    (hints : Option RateLimit) :
    (Error.api answer.status answer.body answer.headers hints).isTransient = true ↔
      r.IsTransient := by
  unfold Reply.IsTransient
  rw [h, Error.isTransient, FailureKind.isTransient_ofStatus_iff]
  exact Iff.rfl

/-- What one call comes to: the end of the run, a response, or an error that is transient exactly if
the reply is. -/
theorem outcome_send_cases (env : Environment) (call : Call) (s : Session) :
    (¬(env.send s.sent call).IsReadable env.date ∧
      (send env call s).outcome = .error (.abort .clockOverflow)) ∨
    (env.send s.sent call).IsReadable env.date ∧
      ((∃ response, (send env call s).outcome = .ok response ∧
        ¬(env.send s.sent call).IsTransient ∧ ∀ attempts latency,
          (env.send s.sent call).Gives attempts (.ok { response with attempts, latency })) ∨
      ∃ e, (send env call s).outcome = Outcome.fail e ∧
        (e.isTransient = true ↔ (env.send s.sent call).IsTransient) ∧
          ∀ attempts, (env.send s.sent call).Gives attempts (Outcome.fail e)) := by
  cases hreply : (env.send s.sent call).outcome with
  | error e =>
    refine .inr ⟨fun answer h => by simp [hreply] at h, .inr ⟨e, outcome_send_of_error hreply,
      isTransient_error_iff hreply, fun attempts => ?_⟩⟩
    simp only [Reply.Gives, hreply]
  | ok answer =>
    have hself : ∀ other, (env.send s.sent call).outcome = .ok other → other = answer := by
      intro other hother
      rw [hreply] at hother
      exact (Except.ok.inj hother).symm
    have houtcome := outcome_send_of_ok hreply
    rw [classify] at houtcome
    by_cases hfailure : 400 ≤ answer.status.code
    · rw [if_pos (by simpa [Status.isFailure] using hfailure), Error.ofResponse] at houtcome
      cases hhints : RateLimit.ofHeaders? env.date answer.headers with
      | none =>
        rw [hhints] at houtcome
        refine .inl ⟨fun h => ?_, houtcome⟩
        simpa [hhints] using h answer hreply hfailure
      | some hints =>
        rw [hhints] at houtcome
        refine .inr ⟨?_, .inr ⟨_, houtcome, isTransient_api_iff hreply _, fun attempts => ?_⟩⟩
        · intro other hother _
          rw [hself other hother, hhints]
          rfl
        · simp only [Reply.Gives, hreply, if_neg (Nat.not_lt.2 hfailure)]
          exact ⟨_, rfl⟩
    · rw [if_neg (by simpa [Status.isFailure] using hfailure)] at houtcome
      refine .inr ⟨?_, .inl ⟨_, houtcome, ?_, fun attempts latency => ?_⟩⟩
      · intro other hother h
        rw [hself other hother] at h
        exact absurd h hfailure
      · simp only [Reply.IsTransient, hreply, Status.IsTransient]
        omega
      · simp only [Reply.Gives, hreply, if_pos (Nat.not_le.1 hfailure)]
        exact ⟨latency, rfl⟩

theorem gives_of_outcome_send {call : Call} {e : Error}
    (h : (send env call s).outcome = Outcome.fail e) :
    (env.send s.sent call).IsReadable env.date ∧
      (e.isTransient = true ↔ (env.send s.sent call).IsTransient) ∧
      ∀ attempts, (env.send s.sent call).Gives attempts (Outcome.fail e) := by
  rcases outcome_send_cases env call s with
    ⟨-, habort⟩ | ⟨hreadable, ⟨_, hok, -⟩ | ⟨f, hfails, htransient, hgives⟩⟩
  · rw [habort] at h
    cases h
  · rw [hok] at h
    cases h
  · rw [hfails] at h
    cases h
    exact ⟨hreadable, htransient, hgives⟩

/-- A call fails in a way that is expected to pass exactly if its reply does and can be read. -/
theorem exists_transient_iff (env : Environment) (call : Call) (s : Session) :
    (∃ e, (send env call s).outcome = Outcome.fail e ∧ e.isTransient = true) ↔
      (env.send s.sent call).IsTransient ∧ (env.send s.sent call).IsReadable env.date := by
  constructor
  · rintro ⟨e, hfails, htransient⟩
    obtain ⟨hreadable, hiff, -⟩ := gives_of_outcome_send hfails
    exact ⟨hiff.1 htransient, hreadable⟩
  · rintro ⟨htransient, hreadable⟩
    rcases outcome_send_cases env call s with
      ⟨hunreadable, -⟩ | ⟨-, ⟨_, -, hstop, -⟩ | ⟨e, hfails, hiff, -⟩⟩
    · exact absurd hreadable hunreadable
    · exact absurd htransient hstop
    · exact ⟨e, hfails, hiff.2 htransient⟩

/-! ## A run of calls -/

variable {shown : Nat → Option Showing} {start : Duration} {left attempt n : Nat} {s : Session}
  {call : Nat → Call}

/-- A request that comes to its attempt of number `n` goes on as one with `n` calls less. -/
theorem exists_reached (hcomposed :
      ∀ i < n, c.composeShown (shown (attempt + i)) method uri options = .ok (call i))
    (hbefore : ∀ i < n,
      (replies env call s i).IsTransient ∧ (replies env call s i).IsReadable env.date)
    (hn : n ≤ left) (start : Duration) : ∃ s' front, s'.sent = s.sent + n ∧ (n = 0 → s' = s) ∧
      front.map SentCall.call = (List.range n).map call ∧
      (c.executeFromShown env shown method uri options start left attempt s).calls = front ++
        (c.executeFromShown env shown method uri options start (left - n) (attempt + n) s').calls ∧
      (c.executeFromShown env shown method uri options start left attempt s).outcome =
        (c.executeFromShown env shown method uri options start (left - n) (attempt + n) s').outcome ∧
      (c.executeFromShown env shown method uri options start left attempt s).session =
        (c.executeFromShown env shown method uri options start (left - n) (attempt + n)
          s').session := by
  induction n with
  | zero => exact ⟨s, [], rfl, fun _ => rfl, rfl, rfl, rfl, rfl⟩
  | succ n ih =>
    obtain ⟨s', front, hsent, -, hfront, hcalls, houtcome, hsession⟩ :=
      ih (fun i hi => hcomposed i (by omega)) (fun i hi => hbefore i (by omega)) (by omega)
    have hreply := hbefore n (Nat.lt_succ_self n)
    rw [replies, ← hsent] at hreply
    -- The reply is a failure behind which the request is tried again.
    obtain ⟨e, hfails, htransient⟩ := (exists_transient_iff env (call n) s').2 hreply
    have hleft : left - n = left - (n + 1) + 1 := by omega
    rw [hleft, executeFromShown_of_next (hcomposed n (Nat.lt_succ_self n)) hfails htransient]
      at hcalls houtcome hsession
    refine ⟨_, front ++ [(turn (call n) s').sent], ?_, nofun, ?_, ?_, houtcome, hsession⟩
    · rw [Session.wait, sent_send, hsent, Nat.add_assoc]
    · rw [List.map_append, hfront, List.range_succ, List.map_append]
      rfl
    · rw [hcalls, List.append_assoc front]
      rfl

theorem executeFromShown_of_unsent {e : Error} (hcomposed :
      ∀ i < n, c.composeShown (shown (attempt + i)) method uri options = .ok (call i))
    (hbefore : ∀ i < n,
      (replies env call s i).IsTransient ∧ (replies env call s i).IsReadable env.date)
    (hn : n ≤ left) (h : c.composeShown (shown (attempt + n)) method uri options = .error e) :
    let r := c.executeFromShown env shown method uri options start left attempt s
    r.outcome = Outcome.fail e ∧ r.calls.map SentCall.call = (List.range n).map call ∧
      (n = 0 → r.session = s) := by
  obtain ⟨s', front, -, hs', hfront, hcalls, houtcome, hsession⟩ :=
    exists_reached hcomposed hbefore hn start
  rw [executeFromShown_of_error h] at hcalls houtcome hsession
  refine ⟨houtcome, ?_, fun hzero => hsession.trans (hs' hzero)⟩
  rw [hcalls, List.append_nil, hfront]

theorem executeFromShown_of_unreadable (hcomposed :
      ∀ i ≤ n, c.composeShown (shown (attempt + i)) method uri options = .ok (call i))
    (hbefore : ∀ i < n,
      (replies env call s i).IsTransient ∧ (replies env call s i).IsReadable env.date)
    (hn : n ≤ left) (h : ¬(replies env call s n).IsReadable env.date) :
    let r := c.executeFromShown env shown method uri options start left attempt s
    r.outcome = .error (.abort .clockOverflow) ∧ r.calls.length = n + 1 := by
  obtain ⟨s', front, hsent, -, hfront, hcalls, houtcome, -⟩ :=
    exists_reached (fun i hi => hcomposed i (Nat.le_of_lt hi)) hbefore hn start
  rw [replies, ← hsent] at h
  have habort : (send env (call n) s').outcome = .error (.abort .clockOverflow) := by
    rcases outcome_send_cases env (call n) s' with ⟨-, habort⟩ | ⟨hreadable, -⟩
    · exact habort
    · exact absurd hreadable h
  have hlast : ∀ e, (send env (call n) s').outcome = Outcome.fail e → e.isTransient = true →
      left - n = 0 := by
    intro e he
    rw [habort] at he
    cases he
  rw [executeFromShown_of_last (hcomposed n (Nat.le_refl n)) hlast] at hcalls houtcome
  refine ⟨houtcome.trans (by rw [finish, habort]; rfl), ?_⟩
  have hlength : front.length = n := by simpa using congrArg List.length hfront
  rw [hcalls, finish, calls_send, List.length_append, hlength, List.length_singleton]

/-- A request that comes to its final reply is answered with that, if it can be read. -/
theorem answered_executeFromShown (hfinal : IsFinal (replies env call s) (left + 1) n) (hcomposed :
      ∀ i ≤ n, c.composeShown (shown (1 + i)) method uri options = .ok (call i))
    (hreadable : ∀ i ≤ n, (replies env call s i).IsReadable env.date) :
    Answered call (replies env call s n) n
      (c.executeFromShown env shown method uri options start left 1 s) := by
  have hn : n ≤ left := Nat.le_of_lt_succ hfinal.within
  obtain ⟨s', front, hsent, -, hfront, hcalls, houtcome, -⟩ := exists_reached
    (fun i hi => hcomposed i (Nat.le_of_lt hi))
    (fun i hi => ⟨hfinal.before i hi, hreadable i (Nat.le_of_lt hi)⟩) hn start
  have hstops := hfinal.stops
  have hreads := hreadable n (Nat.le_refl n)
  rw [replies, ← hsent] at hstops hreads ⊢
  have hlast : ∀ e, (send env (call n) s').outcome = Outcome.fail e → e.isTransient = true →
      left - n = 0 := by
    intro e he htransient
    apply Classical.byContradiction
    intro hleft
    exact hstops (by omega) ((exists_transient_iff env (call n) s').1 ⟨e, he, htransient⟩).1
  rw [executeFromShown_of_last (hcomposed n (Nat.le_refl n)) hlast] at hcalls houtcome
  refine ⟨?_, ?_⟩
  · rw [hcalls, finish, calls_send, List.map_append, hfront, List.range_succ, List.map_append]
    rfl
  · rw [houtcome, finish, Nat.add_comm n]
    rcases outcome_send_cases env (call n) s' with
      ⟨hunreadable, -⟩ | ⟨-, ⟨response, hok, -, hgives⟩ | ⟨e, hfails, -, hgives⟩⟩
    · exact absurd hreads hunreadable
    · rw [hok]
      exact hgives (1 + n) _
    · rw [hfails]
      exact hgives (1 + n)

/-- A request is answered with its final reply exactly if no reply up to that one is unreadable. -/
theorem answered_executeFromShown_iff (hfinal : IsFinal (replies env call s) (left + 1) n) (hcomposed :
      ∀ i ≤ n, c.composeShown (shown (1 + i)) method uri options = .ok (call i)) :
    Answered call (replies env call s n) n
        (c.executeFromShown env shown method uri options start left 1 s) ↔
      ∀ i ≤ n, (replies env call s i).IsReadable env.date := by
  refine ⟨fun h => ?_, answered_executeFromShown hfinal hcomposed⟩
  apply Classical.byContradiction
  intro hnot
  have hsome : ∃ i, i ≤ n ∧ ¬(replies env call s i).IsReadable env.date := by
    simpa [Classical.not_forall] using hnot
  -- The run ends at the first reply that cannot be read.
  classical
  obtain ⟨hle, hunreadable⟩ := Nat.find_spec hsome
  have hfirst : ∀ i < Nat.find hsome, (replies env call s i).IsReadable env.date := by
    intro i hi
    apply Classical.byContradiction
    intro hbad
    exact Nat.find_min hsome hi ⟨by omega, hbad⟩
  have hwithin := hfinal.within
  have habort : (c.executeFromShown env shown method uri options start left 1 s).outcome =
      .error (.abort .clockOverflow) :=
    (executeFromShown_of_unreadable (fun i hi => hcomposed i (by omega))
      (fun i hi => ⟨hfinal.before i (by omega), hfirst i hi⟩) (by omega) hunreadable).1
  exact h.gives.ne_abort _ habort

/-! ## The numbers of calls that are reported -/

end Client

/-- The number of a call that an event reports. -/
def Event.attempt? : Event → Option Nat
  | .requestFailed _ n _ _ | .retriesSpent _ n _ _ | .retrying _ n _ _ => some n
  | _ => none

namespace Client

variable {start : Duration} {left attempt : Nat} {s : Session}

theorem attempt?_send {call : Call} {ev : Event} (h : ev ∈ (send env call s).events) :
    ev.attempt? = none := by
  unfold send at h
  dsimp only at h
  split at h
  · rw [List.mem_singleton.1 h]
    rfl
  · unfold classify at h
    split at h
    all_goals
      simp only [List.mem_cons, List.not_mem_nil, or_false] at h
      rcases h with rfl | rfl <;> rfl

theorem attempt?_terminal (e : Error) (attempts : Nat) (method uri : String) :
    (Event.terminal e attempts method uri).attempt? = some attempts := by
  unfold Event.terminal
  split <;> rfl

theorem attempt?_ending {outcome : Outcome Response} {ev : Event}
    (h : ev ∈ ending method uri attempt outcome) : ev.attempt? = some attempt := by
  unfold ending at h
  split at h
  · rw [List.mem_singleton.1 h, attempt?_terminal]
  · cases h

theorem attempt?_retryEvents {e : Error} {failures : Nat} {ev : Event}
    (h : ev ∈ c.retryEvents env e failures) : ev.attempt? = none ∨ ev.attempt? = some failures := by
  unfold retryEvents at h
  rcases List.mem_append.1 h with h | h
  · obtain ⟨d, -, rfl⟩ := List.mem_map.1 h
    exact .inl rfl
  · rw [List.mem_singleton.1 h]
    exact .inr rfl

/-- Every number of a call that a request reports is among those its budget allows. -/
theorem Tried.attempt?_le {ts : List Turn} {r : Run Response}
    (h : c.Tried env shown method uri options start left attempt s ts r) {ev : Event}
    (hev : ev ∈ r.events) {k : Nat} (hk : ev.attempt? = some k) :
    attempt ≤ k ∧ k ≤ attempt + left := by
  have hown : ∀ {left attempt : Nat}, ev.attempt? = none ∨ ev.attempt? = some attempt →
      attempt ≤ k ∧ k ≤ attempt + left := by
    rintro left attempt (hnone | hsome)
    · simp [hk] at hnone
    · obtain rfl : k = attempt := by simpa [hk] using hsome
      omega
  induction h with
  | unsent =>
    rw [List.mem_singleton.1 hev] at hown
    exact hown (.inr (attempt?_terminal _ _ _ _))
  | last =>
    rcases List.mem_append.1 hev with hev | hev
    · exact hown (.inl (attempt?_send hev))
    · exact hown (.inr (attempt?_ending hev))
  | next _ _ _ _ ih =>
    rcases List.mem_append.1 hev with hev | hev
    · rcases List.mem_append.1 hev with hev | hev
      · exact hown (.inl (attempt?_send hev))
      · exact hown (attempt?_retryEvents hev)
    · have hrest := ih hev
      omega

end Client

/-! ## Endpoints -/

theorem Run.calls_andThen {α β : Type} (r : Run α) (f : α → Traced β) :
    (r.andThen f).calls = r.calls := by
  unfold Run.andThen
  split <;> rfl

/-- The calls of the one request that an endpoint makes; none if it has no address. -/
def Endpoint.requestCalls (p : Endpoint) (c : Client) (env : Environment) (verb : Verb)
    (request : EndpointRequest) (s : Session) : List SentCall :=
  match p.uri request.suffix with
  | .ok uri => (c.execute env verb.method uri request.options s).calls
  | .error _ => []

theorem Endpoint.calls_ask (p : Endpoint) (c : Client) (env : Environment) (verb : Verb)
    (request : EndpointRequest) (s : Session) :
    (p.ask c env verb request s).calls = p.requestCalls c env verb request s := by
  unfold ask requestCalls
  split
  · rename_i fault hfault
    rw [hfault]
    rfl
  · rename_i uri huri
    rw [huri]
    exact Run.calls_andThen _ _

theorem Endpoint.calls_fetchBound {α : Type} (p : Endpoint) (c : Client) (env : Environment)
    (bind : Json → Traced α) (request : EndpointRequest) (s : Session) :
    (p.fetchBound c env bind request s).calls = p.requestCalls c env .fetch request s := by
  rw [fetchBound, Run.calls_andThen, calls_ask]

/-! ## Every request -/

/-- A request is sent up to its final reply and answered with that one, exactly if no reply up to there
is unreadable. Otherwise the run ends at the first reply that is, or at the first attempt that is not
composed: that one is not sent, and the first one leaves everything as it was. No number of a call
goes beyond the budget. What an endpoint asks is one request. Whatever the credentials show before
each call, all this holds; those of a session show the same every time. -/
theorem execute_answered_iff (hpolicy : c.policy.Configured) (env : Environment)
    (method uri : String) (options : RequestOptions) (s : Session) :
    c.execute env method uri options s =
      c.executeShown env (fun _ => s.credentials.map Credentials.showing) method uri options s ∧
    (∀ (shown : Nat → Option Showing) (call : Nat → Call),
      (∃! n, IsFinal (Client.replies env call s) c.policy.budget n) ∧
      (∀ n, IsFinal (Client.replies env call s) c.policy.budget n →
        (∀ i ≤ n, c.composeShown (shown (i + 1)) method uri options = .ok (call i)) →
          (Client.Answered call (Client.replies env call s n) n
              (c.executeShown env shown method uri options s) ↔
            ∀ i ≤ n, (Client.replies env call s i).IsReadable env.date)) ∧
      ∀ n, c.ComesTo env shown method uri options call s n →
        (c.composeShown (shown (n + 1)) method uri options = .ok (call n) →
          ¬(Client.replies env call s n).IsReadable env.date →
            (c.executeShown env shown method uri options s).outcome =
                .error (.abort .clockOverflow) ∧
              (c.executeShown env shown method uri options s).calls.length = n + 1) ∧
        ∀ e, c.composeShown (shown (n + 1)) method uri options = .error e →
          (c.executeShown env shown method uri options s).outcome = Outcome.fail e ∧
            (c.executeShown env shown method uri options s).calls.map SentCall.call =
              (List.range n).map call ∧
            (n = 0 → (c.executeShown env shown method uri options s).session = s)) ∧
    (∀ (shown : Nat → Option Showing),
      ∀ ev ∈ (c.executeShown env shown method uri options s).events, ∀ n, ev.attempt? = some n →
        1 ≤ n ∧ n ≤ c.policy.budget) ∧
    ∀ (p : Endpoint) (verb : Verb) (request : EndpointRequest),
      (p.ask c env verb request s).calls = p.requestCalls c env verb request s ∧
        ∀ (α : Type) (bind : Json → Traced α),
          (p.fetchBound c env bind request s).calls = p.requestCalls c env .fetch request s := by
  have hbudget : 1 ≤ c.policy.budget := hpolicy.one_le_budget
  refine ⟨c.execute_eq_shown env method uri options s, fun shown call =>
    ⟨existsUnique_isFinal _ hbudget, fun n hfinal hcomposed => ?_, fun n hcomes =>
      ⟨fun hcomposed hunreadable => ?_, fun e he => ?_⟩⟩, fun shown ev hev n hn => ?_,
    fun p verb request => ⟨p.calls_ask c env verb request s,
      fun α bind => p.calls_fetchBound c env bind request s⟩⟩
  · simp only [Nat.add_comm _ 1] at hcomposed
    rw [← Nat.sub_add_cancel hbudget] at hfinal
    exact Client.answered_executeFromShown_iff hfinal hcomposed
  · have hwithin := hcomes.within
    refine Client.executeFromShown_of_unreadable (fun i hi => ?_) hcomes.before (by omega) hunreadable
    rw [Nat.add_comm]
    rcases Nat.lt_or_eq_of_le hi with hlt | rfl
    · exact hcomes.composed i hlt
    · exact hcomposed
  · have hwithin := hcomes.within
    refine Client.executeFromShown_of_unsent (fun i hi => ?_) hcomes.before (by omega)
      (by rwa [Nat.add_comm])
    rw [Nat.add_comm]
    exact hcomes.composed i hi
  · obtain ⟨hlow, hhigh⟩ :=
      (c.tried env shown method uri options s.now (c.policy.budget - 1) 1 s).attempt?_le hev hn
    exact ⟨hlow, by omega⟩

namespace Sample

def twice : Client where
  policy := ⟨2, .ofSeconds 1, true⟩

/-- A first failure that is expected to pass, with the given headers, and then a response. -/
def busyOnce (headers : Headers) : Environment where
  date := .zero
  send i _ := ⟨.zero, .ok (if i = 0 then ⟨⟨429⟩, headers, "slow"⟩ else ⟨.ok, .empty, "done"⟩)⟩

/-- The hint that a window ends beyond the last instant. -/
def lateReset : Headers :=
  Headers.empty.insert "x-ratelimit-reset" "9223372036854775808"

def idle : Session := ⟨.zero, ⟨Pacer.defaultInterval, false, none⟩, none, 0⟩

theorem configured_twice : twice.policy.Configured := by
  have hbudget : (RetryPolicy.default.withBudget 2).outcome = .ok twice.policy := rfl
  exact .budget .default hbudget

theorem isFinal_busyOnce (headers : Headers) (call : Nat → Call) :
    IsFinal (Client.replies (busyOnce headers) call idle) 2 1 := by
  refine ⟨by decide, fun i hi => ?_, fun h => absurd h (by decide)⟩
  obtain rfl : i = 0 := by omega
  exact .inl rfl

end Sample

open Sample in
theorem execute_answered_busyOnce : ∃ call,
    twice.compose none "GET" "mock://api/orders" {} = .ok call ∧
    Client.Answered (fun _ => call) ⟨.zero, .ok ⟨.ok, .empty, "done"⟩⟩ 1
      (twice.execute (busyOnce .empty) "GET" "mock://api/orders" {} idle) := by
  obtain ⟨call, hcall⟩ : ∃ call, twice.compose none "GET" "mock://api/orders" {} = .ok call :=
    ⟨_, rfl⟩
  have hreadable : ∀ i ≤ 1,
      (Client.replies (busyOnce .empty) (fun _ => call) idle i).IsReadable .zero := by
    intro i _ answer h _
    cases h
    cases i <;> rfl
  obtain ⟨hshown, hanswered, -⟩ := execute_answered_iff configured_twice (busyOnce .empty) "GET"
    "mock://api/orders" {} idle
  obtain ⟨-, hfinal, -⟩ := hanswered (fun _ => none) fun _ => call
  rw [hshown]
  refine ⟨call, hcall, (hfinal 1 (isFinal_busyOnce .empty _) fun _ _ => ?_).2 hreadable⟩
  rw [Client.compose_eq_shown] at hcall
  exact hcall

open Sample in
/-- A window that ends beyond the last instant keeps a request from its final reply. -/
theorem not_answered_of_lateReset : ∃ call,
    twice.compose none "GET" "mock://api/orders" {} = .ok call ∧
    IsFinal (Client.replies (busyOnce lateReset) (fun _ => call) idle) twice.policy.budget 1 ∧
    ¬Client.Answered (fun _ => call)
      (Client.replies (busyOnce lateReset) (fun _ => call) idle 1) 1
      (twice.execute (busyOnce lateReset) "GET" "mock://api/orders" {} idle) := by
  obtain ⟨call, hcall⟩ : ∃ call, twice.compose none "GET" "mock://api/orders" {} = .ok call :=
    ⟨_, rfl⟩
  have hfinal : IsFinal (Client.replies (busyOnce lateReset) (fun _ => call) idle) (1 + 1) 1 :=
    isFinal_busyOnce lateReset fun _ => call
  have hreset : RateLimit.ofHeaders? .zero lateReset = none := by decide
  refine ⟨call, hcall, hfinal, fun h => ?_⟩
  rw [Client.compose_eq_shown] at hcall
  rw [Client.execute_eq_shown] at h
  have hreadable : (RateLimit.ofHeaders? .zero lateReset).isSome = true :=
    (Client.answered_executeFromShown_iff hfinal fun _ _ => hcall).1 h 0 (by decide)
      ⟨⟨429⟩, lateReset, "slow"⟩ rfl (by decide)
  rw [hreset] at hreadable
  cases hreadable

end RestRecords
