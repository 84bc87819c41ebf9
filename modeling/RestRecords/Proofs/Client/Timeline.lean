import RestRecords.Proofs.Client.Fleet
import RestRecords.Proofs.Client.Hints
/-!
# The timeline of a request

Between two calls of one request lie the time the first one takes, the pause after it, and the time
to wait before a retry; or the interval of the client, if that is longer. What an answer says besides
its status counts only for a client that respects it, except for an answer that ends the run.
-/

namespace RestRecords

/-- The time that the headers of a failure ask to wait: the one they name, else the one until the
window ends, if that is not past. -/
def Headers.askedWait? (date : Duration) (headers : Headers) : Option Duration :=
  ((headers.lookup? "retry-after").bind (RateLimit.readWait? date)).or
    (headers.reset?.bind (RateLimit.left? date))

/-- The time that a policy lets pass after a number of failures: the base, times two to the power of
the failures before, as far as the factor is a 32-bit word and the product a duration. -/
def RetryPolicy.backoff (p : RetryPolicy) (failures : Nat) : Duration :=
  if p.exponential then
    Duration.least ⟨p.base.nanos * min (Nat.pow 2 (failures - 1)) (UInt32.size - 1)⟩ .max
  else p.base

/-- The time between the failure of a number of calls and the next one: what the headers ask for, as
far as the limit of the client goes, else what its policy says. -/
def Client.patience (c : Client) (date : Duration) (headers : Headers) (failures : Nat) : Duration :=
  match c.retryAfterCap, headers.askedWait? date with
  | some cap, some asked => asked.least cap
  | _, _ => c.policy.backoff failures

/-- The reply without headers and body. -/
def Reply.bare (r : Reply) : Reply :=
  { r with outcome := r.outcome.map fun answer => ⟨answer.status, .empty, ""⟩ }

def Environment.bare (env : Environment) : Environment :=
  { env with send := fun n call => (env.send n call).bare }

/-- The instant at which a call is over that was made at `time`: its reply has come and, if that is an
answer, the pause behind it has passed. -/
def Reply.overAt (r : Reply) (pause time : Duration) : Duration :=
  match r.outcome with
  | .ok _ => (time.plus r.delay).plus pause
  | .error _ => time.plus r.delay

theorem Duration.plus_minus {d e : Duration} (h : d ≤ e) : d.plus (e.minus d) = e := by
  have hle : d.nanos ≤ e.nanos := h
  exact congrArg Duration.mk (Nat.add_sub_of_le hle)

theorem Duration.latest_eq_left {d e : Duration} (h : e ≤ d) : d.latest e = d := by
  have hle : e.nanos ≤ d.nanos := h
  exact congrArg Duration.mk (Nat.max_eq_left hle)

namespace RetryPolicy

theorem delay_eq_backoff (p : RetryPolicy) (failures : Nat) :
    p.delay failures = p.backoff failures := by
  have hfactor : multiplier failures = min (Nat.pow 2 (failures - 1)) (UInt32.size - 1) :=
    multiplier_eq_min failures
  unfold delay backoff Duration.times Duration.least
  rw [hfactor]
  split
  · dsimp only
    split
    · rename_i h
      rw [Nat.min_eq_left h]
    · rename_i h
      rw [Nat.min_eq_right (Nat.le_of_not_le h)]
  · rfl

end RetryPolicy

namespace RateLimit

theorem waitHint_of_ofHeaders? {date : Duration} {headers : Headers} {hints : RateLimit}
    (h : ofHeaders? date headers = some hints) (cap : Duration) :
    hints.waitHint date cap = (headers.askedWait? date).map (·.least cap) := by
  rw [ofHeaders?_eq] at h
  split at h
  · cases h
  cases h
  rfl

theorem waitHint_of_not_isPresent {hints : RateLimit} (h : hints.isPresent = false)
    (date cap : Duration) : hints.waitHint date cap = none := by
  obtain ⟨retryAfter, resetAt, remaining⟩ := hints
  cases retryAfter with
  | some wait => cases h
  | none =>
    cases resetAt with
    | some reset => cases h
    | none => rfl

end RateLimit

namespace Client

variable {c : Client} {env : Environment} {method uri : String} {options : RequestOptions}
  {call : Call}

/-! ## One call -/

theorem retryWait_of_ofHeaders? {answer : Answer} {hints : RateLimit}
    (h : RateLimit.ofHeaders? env.date answer.headers = some hints) (failures : Nat) :
    c.retryWait env (.api answer.status answer.body answer.headers
        (if hints.isPresent then some hints else none)) failures =
      c.patience env.date answer.headers failures := by
  have hasked : ∀ cap, ((if hints.isPresent then some hints else none).bind
      fun r => r.waitHint env.date cap) =
        (answer.headers.askedWait? env.date).map (·.least cap) := by
    intro cap
    rw [← RateLimit.waitHint_of_ofHeaders? h cap]
    split
    · rfl
    · rename_i habsent
      rw [RateLimit.waitHint_of_not_isPresent (Bool.eq_false_iff.2 habsent)]
      rfl
  unfold retryWait askedWait patience
  rw [RetryPolicy.delay_eq_backoff]
  cases c.retryAfterCap with
  | none => rfl
  | some cap =>
    show ((if hints.isPresent then some hints else none).bind
      fun r => r.waitHint env.date cap).getD _ = _
    rw [hasked]
    cases answer.headers.askedWait? env.date <;> rfl

theorem retryWait_of_ok {s : Session} {answer : Answer} {e : Error}
    (hanswer : (env.send s.sent call).outcome = .ok answer)
    (h : (send env call s).outcome = Outcome.fail e) (failures : Nat) :
    c.retryWait env e failures = c.patience env.date answer.headers failures := by
  rw [outcome_send_of_ok hanswer, classify, Error.ofResponse] at h
  split at h
  · cases hhints : RateLimit.ofHeaders? env.date answer.headers with
    | none =>
      rw [hhints] at h
      cases h
    | some hints =>
      rw [hhints] at h
      cases h
      exact retryWait_of_ofHeaders? hhints failures
  · cases h

theorem now_send (env : Environment) (call : Call) (s : Session) :
    (send env call s).session.now =
      (env.send s.sent call).overAt s.pacer.pause (turn call s).sent.time := by
  unfold send Reply.overAt turn
  dsimp only
  cases (env.send s.sent call).outcome <;> rfl

theorem le_overAt (r : Reply) (pause time : Duration) : time ≤ r.overAt pause time := by
  show time.nanos ≤ (r.overAt pause time).nanos
  unfold Reply.overAt
  split
  all_goals
    simp only [Duration.plus]
    omega

/-! ## The times of calls -/

/-- A call behind another one is made when that is over, the time to wait has passed, and the interval
is over. -/
theorem time_of_next (env : Environment) (call u : Call) (s : Session) (d : Duration) :
    (turn u ((send env call s).session.wait d)).sent.time =
      (((env.send s.sent call).overAt s.pacer.pause (turn call s).sent.time).plus d).latest
        ((turn call s).sent.time.plus s.pacer.interval) := by
  have hnow : ((send env call s).session.wait d).now =
      ((env.send s.sent call).overAt s.pacer.pause (turn call s).sent.time).plus d := by
    rw [Session.wait, now_send]
  have hpacer : ((send env call s).session.wait d).pacer =
      s.pacer.record (turn call s).sent.time := pacer_send env call s
  have hpast : ∀ t ∈ ((send env call s).session.wait d).pacer.last,
      t ≤ ((send env call s).session.wait d).now := by
    rw [hpacer, hnow]
    rintro t ⟨⟩
    exact Nat.le_trans (le_overAt _ _ _) (Nat.le_add_right _ _)
  rw [turn, Pacer.plus_wait hpast, hpacer, hnow]
  rfl

/-- The settings of a pacer last as long as its client is used. -/
theorem Course.settings {s s' : Session} {ts : List Turn} (h : Course c env s ts s') :
    s'.pacer.interval = s.pacer.interval ∧ s'.pacer.pauses = s.pacer.pauses := by
  induction h with
  | stay => exact ⟨rfl, rfl⟩
  | pass _ _ ih => exact ih
  | authenticate _ _ ih => exact ih
  | @dispatch s _ _ shown method uri options _ ih =>
    have hdispatch : (c.dispatchShown env shown method uri options s).session.pacer.interval =
          s.pacer.interval ∧
        (c.dispatchShown env shown method uri options s).session.pacer.pauses =
          s.pacer.pauses := by
      cases hcompose : c.composeShown shown method uri options with
      | error e =>
        rw [dispatchShown_of_error hcompose]
        exact ⟨rfl, rfl⟩
      | ok call =>
        rw [dispatchShown_of_ok hcompose, pacer_send]
        exact ⟨rfl, rfl⟩
    exact ⟨ih.1.trans hdispatch.1, ih.2.trans hdispatch.2⟩

/-! ## Headers and bodies -/

theorem session_bare (env : Environment) (call : Call) (s : Session) :
    (send env.bare call s).session = (send env call s).session := by
  unfold send Environment.bare Reply.bare
  dsimp only
  cases (env.send s.sent call).outcome <;> rfl

theorem isReadable_bare (date : Duration) (n : Nat) (env : Environment) (call : Call) :
    (env.bare.send n call).IsReadable date := by
  intro answer hanswer _
  unfold Environment.bare Reply.bare at hanswer
  dsimp only at hanswer
  cases hreply : (env.send n call).outcome with
  | error e =>
    rw [hreply] at hanswer
    cases hanswer
  | ok other =>
    rw [hreply] at hanswer
    cases hanswer
    rfl

theorem isTransient_bare_iff (n : Nat) (env : Environment) (call : Call) :
    (env.bare.send n call).IsTransient ↔ (env.send n call).IsTransient := by
  unfold Environment.bare Reply.bare Reply.IsTransient
  dsimp only
  cases (env.send n call).outcome <;> rfl

theorem retryWait_of_retryAfterCap (hcap : c.retryAfterCap = none) (env : Environment) (e : Error)
    (failures : Nat) : c.retryWait env e failures = c.policy.delay failures := by
  unfold retryWait askedWait
  rw [hcap]
  rfl

/-- Whether the calls of a run are those of another one, up to the first reply that is not fine. Where
all replies are fine, both leave the same behind; and so they do where the calls are the same and what
the credentials show is `steady`. -/
structure Follows (fine : Nat → Prop) (steady : Prop) (heard unheard : Run Response) : Prop where
  front : heard.calls <+: unheard.calls
  calls_iff : heard.calls = unheard.calls ↔ ∀ i, i + 1 < unheard.calls.length → fine i
  session : heard.calls = unheard.calls → steady ∨ (∀ i < unheard.calls.length, fine i) →
    heard.session = unheard.session

namespace Follows

variable {fine : Nat → Prop} {steady : Prop} {heard unheard : Run Response} {t : SentCall}

theorem same (hcalls : heard.calls = unheard.calls) (hlength : unheard.calls.length ≤ 1)
    (hsession : heard.session = unheard.session) : Follows fine steady heard unheard :=
  ⟨hcalls ▸ List.prefix_rfl, iff_of_true hcalls fun i hi => by omega, fun _ _ => hsession⟩

theorem stop {rest : List SentCall} (hheard : heard.calls = [t]) (hunheard : unheard.calls = t :: rest)
    (hfine : ¬fine 0) (hsteady : steady → rest ≠ []) : Follows fine steady heard unheard := by
  have hcalls : heard.calls = unheard.calls ↔ rest = [] := by
    rw [hheard, hunheard, List.cons.injEq, and_iff_right rfl, eq_comm]
  refine ⟨?_, ?_, fun heq h => ?_⟩
  · rw [hheard, hunheard]
    exact ⟨rest, rfl⟩
  · rw [hcalls, hunheard]
    cases rest with
    | nil => simp
    | cons u rest => exact iff_of_false nofun fun h => hfine (h 0 (by simp))
  · rcases h with h | h
    · exact absurd (hcalls.1 heq) (hsteady h)
    · refine absurd (h 0 ?_) hfine
      rw [hunheard]
      exact Nat.succ_pos _

theorem next {heard' unheard' : Run Response}
    (h : Follows (fun i => fine (i + 1)) steady heard' unheard') (hfine : fine 0)
    (hheard : heard.calls = t :: heard'.calls) (hsession : heard.session = heard'.session)
    (hunheard : unheard.calls = t :: unheard'.calls)
    (hsession' : unheard.session = unheard'.session) : Follows fine steady heard unheard := by
  have hcalls : heard.calls = unheard.calls ↔ heard'.calls = unheard'.calls := by
    rw [hheard, hunheard, List.cons.injEq, and_iff_right rfl]
  refine ⟨?_, ?_, fun heq hsame => ?_⟩
  · rw [hheard, hunheard]
    exact (List.cons_prefix_cons).2 ⟨rfl, h.front⟩
  · rw [hcalls, h.calls_iff, hunheard, List.length_cons]
    constructor
    · intro hall i hi
      cases i with
      | zero => exact hfine
      | succ i => exact hall i (by omega)
    · exact fun hall i hi => hall (i + 1) (by omega)
  · rw [hsession, hsession']
    refine h.session (hcalls.1 heq) (hsame.imp_right fun hall i hi => hall (i + 1) ?_)
    rw [hunheard, List.length_cons]
    exact Nat.succ_lt_succ hi

end Follows

/-- Without a limit for what headers may ask, the calls are those that bare answers lead to, up to
the first answer that cannot be read. -/
theorem Tried.follows {shown : Nat → Option Showing} {start : Duration} {left attempt : Nat}
    {s : Session} {ts : List Turn} {r : Run Response}
    (h : c.Tried env.bare shown method uri options start left attempt s ts r)
    (hcap : c.retryAfterCap = none) :
    Follows (fun i => ∀ t, r.calls[i]? = some t → (env.send (s.sent + i) t.call).IsReadable env.date)
      (∀ i j, shown i = shown j)
      (c.executeFromShown env shown method uri options start left attempt s) r := by
  induction h with
  | unsent composed =>
    rw [executeFromShown_of_error composed]
    exact .same rfl (Nat.zero_le 1) rfl
  | @last left attempt s call composed stops =>
    have hstops : ∀ e, (send env call s).outcome = Outcome.fail e → e.isTransient = true →
        left = 0 := by
      intro e he htransient
      have hreply := ((exists_transient_iff env call s).1 ⟨e, he, htransient⟩).1
      obtain ⟨f, hf, hfatal⟩ := (exists_transient_iff env.bare call s).2
        ⟨(isTransient_bare_iff s.sent env call).2 hreply, isReadable_bare _ _ env call⟩
      exact stops f hf hfatal
    rw [executeFromShown_of_last composed hstops]
    have hcalls : ∀ env, (finish method uri start attempt (send env call s)).calls =
        [(turn call s).sent] := fun env => calls_send env call s
    refine .same ((hcalls env).trans (hcalls env.bare).symm) ?_ (session_bare env call s).symm
    rw [hcalls]
    exact Nat.le_refl 1
  | @next left attempt s call e ts rest composed failed transient goes ih =>
    rw [retryWait_of_retryAfterCap hcap, session_bare] at goes ih
    by_cases hreadable : (env.send s.sent call).IsReadable env.date
    · have hreply := ((exists_transient_iff env.bare call s).1 ⟨e, failed, transient⟩).1
      obtain ⟨f, hf, hfatal⟩ := (exists_transient_iff env call s).2
        ⟨(isTransient_bare_iff s.sent env call).1 hreply, hreadable⟩
      rw [executeFromShown_of_next composed hf hfatal]
      simp only [retryWait_of_retryAfterCap hcap]
      have hsent : ((send env call s).session.wait (c.policy.delay attempt)).sent = s.sent + 1 :=
        sent_send env call s
      simp only [hsent, Nat.add_assoc, Nat.add_comm 1] at ih
      refine ih.next (fun t ht => ?_) rfl rfl rfl rfl
      cases ht
      exact hreadable
    · have hstops : ∀ f, (send env call s).outcome = Outcome.fail f → f.isTransient = true →
          left + 1 = 0 := fun f hf hfatal =>
        absurd ((exists_transient_iff env call s).1 ⟨f, hf, hfatal⟩).2 hreadable
      rw [executeFromShown_of_last composed hstops]
      refine .stop (calls_send env call s) rfl (fun h => hreadable (h _ rfl)) fun hsteady => ?_
      -- Credentials that are steady do not keep the next attempt from being composed.
      cases goes with
      | unsent composed' =>
        rw [hsteady (attempt + 1) attempt, composed] at composed'
        cases composed'
      | last =>
        rw [finish, calls_send]
        exact List.cons_ne_nil _ _
      | next => exact List.cons_ne_nil _ _

/-! ## The time a response takes -/

/-- A response has taken the time from the start to the end of the run. -/
theorem Tried.latency {shown : Nat → Option Showing} {start : Duration} {left attempt : Nat}
    {s : Session} {ts : List Turn} {r : Run Response}
    (h : c.Tried env shown method uri options start left attempt s ts r) {response : Response}
    (hresponse : r.outcome = .ok response) : response.latency = r.session.now.minus start := by
  induction h with
  | unsent => cases hresponse
  | @last _ _ s call =>
    cases houtcome : (send env call s).outcome with
    | ok first =>
      rw [finish, houtcome] at hresponse
      cases hresponse
      rfl
    | error failure =>
      rw [finish, houtcome] at hresponse
      cases hresponse
  | next _ _ _ _ ih => exact ih hresponse

end Client

/-- When the calls of a request are made. Behind an answered call the next one, if there is one, is
made when the answer has come, the pause and the time to wait are over, and so is the interval. The time
left until a second is counted in nanoseconds, and is zero at the instant at which the second begins. A
client that does not respect what headers ask for makes its calls as if all answers were bare, exactly
if no answer before the last one names a window that ends too late to be told. A response has taken
the time from the start to the end of the run. -/
theorem execute_timeline {c : Client} {env : Environment} {s₀ s : Session} {ts : List Turn}
    (hstart : c.start.outcome = .ok s₀) (hcourse : Client.Course c env s₀ ts s)
    (shown : Nat → Option Showing) (method uri : String) (options : RequestOptions) :
    c.execute env method uri options s =
      c.executeShown env (fun _ => s.credentials.map Credentials.showing) method uri options s ∧
    (∀ (i : Nat) (t u : SentCall) (answer : Answer),
      (c.executeShown env shown method uri options s).calls[i]? = some t →
      (c.executeShown env shown method uri options s).calls[i + 1]? = some u →
      (env.send (s.sent + i) t.call).outcome = .ok answer →
        u.time = Duration.latest
          (((t.time.plus (env.send (s.sent + i) t.call).delay).plus
            (if c.pauses then .ofMillis 200 else .zero)).plus
            (c.patience env.date answer.headers (i + 1)))
          (t.time.plus c.interval)) ∧
    (∀ second d, RateLimit.left? env.date second = some d ↔
      env.date.plus d = .ofSeconds second) ∧
    (c.retryAfterCap = none →
      Client.Follows
        (fun i => ∀ t, (c.executeShown env.bare shown method uri options s).calls[i]? = some t →
          ¬(env.send (s.sent + i) t.call).ResetsTooLate)
        (∀ i j, shown i = shown j)
        (c.executeShown env shown method uri options s)
        (c.executeShown env.bare shown method uri options s)) ∧
    ∀ response, (c.executeShown env shown method uri options s).outcome = .ok response →
      s.now.plus response.latency = (c.executeShown env shown method uri options s).session.now := by
  have htried := c.tried env shown method uri options s.now (c.policy.budget - 1) 1 s
  refine ⟨c.execute_eq_shown env method uri options s, fun i t u answer ht hu hanswer => ?_,
    fun second d => RateLimit.left?_eq_some_iff, fun hcap => ?_, fun response h => ?_⟩
  · obtain ⟨s', hsent, hinterval, hpauses, hturn, hbehind⟩ := htried.behind ht
    obtain ⟨hpacer, -⟩ := Client.pacer_of_start hstart
    obtain ⟨hsettledInterval, hsettledPauses⟩ := hcourse.settings
    rw [hsettledInterval, hpacer] at hinterval
    rw [hsettledPauses, hpacer] at hpauses
    rw [← hsent] at hanswer ⊢
    have hu : (c.executeFromShown env shown method uri options s.now (c.policy.budget - 1) 1
      s).calls[i + 1]? = some u := hu
    rw [hu] at hbehind
    cases hbehind with
    | next failed transient made =>
      have hover : (env.send s'.sent t.call).overAt s'.pacer.pause t.time =
          (t.time.plus (env.send s'.sent t.call).delay).plus
            (if c.pauses then .ofMillis 200 else .zero) := by
        rw [Reply.overAt, hanswer, Pacer.pause, hpauses]
        rfl
      rw [made, Client.time_of_next, Client.retryWait_of_ok hanswer failed, ← hturn, hover,
        hinterval, Nat.add_comm 1]
  · simp only [← Reply.not_isReadable_iff env.date, Classical.not_not]
    exact (c.tried env.bare shown method uri options s.now _ 1 s).follows hcap
  · rw [htried.latency h]
    exact Duration.plus_minus htried.course.now_le

open Sample in
/-- The hint that a window ends at the last instant changes nothing. -/
theorem execute_timeline_lastReset : ∃ call,
    twice.compose none "GET" "mock://api/orders" {} = .ok call ∧
    (twice.execute (busyOnce lastReset) "GET" "mock://api/orders" {} idle).calls =
      (twice.execute (busyOnce lastReset).bare "GET" "mock://api/orders" {} idle).calls ∧
    ∀ t u, (twice.execute (busyOnce lastReset) "GET" "mock://api/orders" {} idle).calls[0]? = some t →
      (twice.execute (busyOnce lastReset) "GET" "mock://api/orders" {} idle).calls[1]? = some u →
        u.time = t.time.plus (.ofSeconds 1) := by
  obtain ⟨call, hcall⟩ : ∃ call, twice.compose none "GET" "mock://api/orders" {} = .ok call :=
    ⟨_, rfl⟩
  have hstart : twice.start.outcome = .ok idle := rfl
  have hcourse : Client.Course twice (busyOnce lastReset) idle [] idle := .stay idle
  obtain ⟨hshown, htimes, -, hfollows, -⟩ :=
    execute_timeline hstart hcourse (fun _ => none) "GET" "mock://api/orders" {}
  have hfine : ∀ i call, ¬((busyOnce lastReset).send i call).ResetsTooLate := by
    rintro i call ⟨answer, hanswer, hfailure, hlate⟩
    cases i with
    | zero =>
      cases hanswer
      exact not_resetsTooLate_lastReset hlate
    | succ i =>
      cases hanswer
      have hcode : 400 ≤ 200 := hfailure
      omega
  refine ⟨call, hcall, ?_, fun t u ht hu => ?_⟩
  · rw [hshown, Client.execute_eq_shown]
    exact (hfollows rfl).calls_iff.2 fun i _ t _ => hfine _ _
  rw [hshown] at ht hu
  have hnext := htimes 0 t u ⟨⟨429⟩, lastReset, "slow"⟩ ht hu rfl
  have hpatience : twice.patience .zero lastReset 1 = .ofSeconds 1 := rfl
  have hlater : t.time.plus Pacer.defaultInterval ≤ t.time.plus (.ofSeconds 1) :=
    Nat.add_le_add_left (by decide) t.time.nanos
  calc u.time
    _ = Duration.latest (((t.time.plus .zero).plus .zero).plus (twice.patience .zero lastReset 1))
          (t.time.plus Pacer.defaultInterval) := hnext
    _ = (t.time.plus (.ofSeconds 1)).latest (t.time.plus Pacer.defaultInterval) := by
      rw [hpatience]
      rfl
    _ = t.time.plus (.ofSeconds 1) := Duration.latest_eq_left hlater

open Sample in
/-- The hint that a window ends beyond the last instant keeps a request from its second call. -/
theorem times_of_lateReset :
    twice.retryAfterCap = none ∧
    ((twice.execute (busyOnce lateReset) "GET" "mock://api/orders" {} idle).calls.map
      SentCall.time) = [.zero] ∧
    ((twice.execute (busyOnce lateReset).bare "GET" "mock://api/orders" {} idle).calls.map
      SentCall.time) = [.zero, .ofSeconds 1] := by
  refine ⟨rfl, ?_, ?_⟩ <;> decide +kernel

end RestRecords
