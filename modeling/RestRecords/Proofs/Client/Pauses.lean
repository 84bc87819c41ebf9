import RestRecords.Proofs.Client.Timeline
/-!
# The pause behind a call

A client that pauses does so behind every call that is answered, whatever the answer says: until the
pause is over it makes no further call, and its caller does not get control back. Behind a call that is
not answered there is no pause.
-/

namespace RestRecords

/-- Whether a call has been answered at all. -/
def Reply.IsAnswered (r : Reply) : Prop :=
  ∃ answer, r.outcome = .ok answer

/-- Whether the call of number `i` in a run, made at `time`, is followed by a full pause: neither the
next call nor the end of the run comes before 200 ms have passed since the reply. -/
structure Run.PausesBehind (r : Run Response) (i : Nat) (time : Duration) (reply : Reply) : Prop where
  next : ∀ u, r.calls[i + 1]? = some u → (time.plus reply.delay).plus (.ofMillis 200) ≤ u.time
  last : r.calls[i + 1]? = none → (time.plus reply.delay).plus (.ofMillis 200) ≤ r.session.now

/-- The call that a request makes where the credentials show `shown`, or why it makes none. -/
def Request.composeShown (c : Client) (shown : Option Showing) : Request → Except Error Call
  | .execute method uri options | .dispatch method uri options =>
    c.composeShown shown method uri options

namespace Reply

theorem overAt_of_isAnswered {r : Reply} (h : r.IsAnswered) (pause time : Duration) :
    r.overAt pause time = (time.plus r.delay).plus pause := by
  obtain ⟨answer, hanswer⟩ := h
  simp only [overAt, hanswer]

theorem overAt_of_not_isAnswered {r : Reply} (h : ¬r.IsAnswered) (pause time : Duration) :
    r.overAt pause time = time.plus r.delay := by
  cases houtcome : r.outcome with
  | ok answer => exact absurd ⟨answer, houtcome⟩ h
  | error e => simp only [overAt, houtcome]

end Reply

namespace Client

variable {c : Client} {env : Environment} {shown : Nat → Option Showing}

theorem dispatchShown_eq (c : Client) (env : Environment) (shown : Nat → Option Showing)
    (method uri : String) (options : RequestOptions) (s : Session) :
    (c.dispatchShown env (shown 1) method uri options s).calls =
        (c.executeFromShown env shown method uri options s.now 0 1 s).calls ∧
      (c.dispatchShown env (shown 1) method uri options s).session =
        (c.executeFromShown env shown method uri options s.now 0 1 s).session := by
  cases hcompose : c.composeShown (shown 1) method uri options with
  | error e =>
    rw [dispatchShown_of_error hcompose, executeFromShown_of_error hcompose]
    exact ⟨rfl, rfl⟩
  | ok call =>
    rw [dispatchShown_of_ok hcompose, executeFromShown_of_last hcompose fun _ _ _ => rfl]
    exact ⟨rfl, rfl⟩

/-- What comes behind a call of a request that is tried: the next call, or the end of the run at the
instant at which the call is over, or at which an attempt behind it is not composed. -/
theorem Tried.time_behind {method uri : String} {options : RequestOptions} {start : Duration}
    {left attempt : Nat} {s : Session} {ts : List Turn} {r : Run Response}
    (h : c.Tried env shown method uri options start left attempt s ts r) {i : Nat} {t : SentCall}
    (ht : r.calls[i]? = some t) :
    (∀ u, r.calls[i + 1]? = some u →
      ∃ e, (env.send (s.sent + i) t.call).Gives (attempt + i) (Outcome.fail e) ∧
        u.time = (((env.send (s.sent + i) t.call).overAt s.pacer.pause t.time).plus
          (c.retryWait env e (attempt + i))).latest (t.time.plus s.pacer.interval)) ∧
    (r.calls[i + 1]? = none →
      r.session.now = (env.send (s.sent + i) t.call).overAt s.pacer.pause t.time ∨
      ∃ e f, (env.send (s.sent + i) t.call).Gives (attempt + i) (Outcome.fail e) ∧
        e.isTransient = true ∧
        c.composeShown (shown (attempt + i + 1)) method uri options = .error f ∧
        r.outcome = Outcome.fail f ∧
        r.session.now = ((env.send (s.sent + i) t.call).overAt s.pacer.pause t.time).plus
          (c.retryWait env e (attempt + i))) := by
  obtain ⟨s', hsent, hinterval, hpauses, hturn, hbehind⟩ := h.behind ht
  have hpause : s'.pacer.pause = s.pacer.pause := by
    rw [Pacer.pause, Pacer.pause, hpauses]
  rw [← hsent, ← hpause, ← hinterval]
  have hnow : (send env t.call s').session.now =
      (env.send s'.sent t.call).overAt s'.pacer.pause t.time := by
    rw [now_send, ← hturn]
  generalize r.calls[i + 1]? = next at hbehind
  cases hbehind with
  | last session =>
    refine ⟨fun u hu => absurd hu.symm (Option.some_ne_none u), fun _ => .inl ?_⟩
    rw [session, hnow]
  | unsent failed transient composed outcome session =>
    refine ⟨fun u hu => absurd hu.symm (Option.some_ne_none u), fun _ => .inr ⟨_, _,
      (gives_of_outcome_send failed).2.2 _, transient, composed, outcome, ?_⟩⟩
    rw [session, Session.wait, hnow]
  | next failed transient made =>
    refine ⟨?_, fun h => absurd h (Option.some_ne_none _)⟩
    rintro u ⟨⟩
    refine ⟨_, (gives_of_outcome_send failed).2.2 _, ?_⟩
    rw [made, time_of_next, ← hturn]

theorem time_behind_performShown {q : Request} {s : Session} {i : Nat} {t : SentCall}
    (ht : (c.performShown env shown q s).calls[i]? = some t) :
    (∀ u, (c.performShown env shown q s).calls[i + 1]? = some u →
      ∃ e, (env.send (s.sent + i) t.call).Gives (i + 1) (Outcome.fail e) ∧
        u.time = (((env.send (s.sent + i) t.call).overAt s.pacer.pause t.time).plus
          (c.retryWait env e (i + 1))).latest (t.time.plus s.pacer.interval)) ∧
    ((c.performShown env shown q s).calls[i + 1]? = none →
      (c.performShown env shown q s).session.now =
          (env.send (s.sent + i) t.call).overAt s.pacer.pause t.time ∨
      ∃ e f, (env.send (s.sent + i) t.call).Gives (i + 1) (Outcome.fail e) ∧
        e.isTransient = true ∧ q.composeShown c (shown (i + 2)) = .error f ∧
        (c.performShown env shown q s).outcome = Outcome.fail f ∧
        (c.performShown env shown q s).session.now =
          ((env.send (s.sent + i) t.call).overAt s.pacer.pause t.time).plus
            (c.retryWait env e (i + 1))) := by
  cases q with
  | execute method uri options =>
    have hbehind := (c.tried env shown method uri options s.now (c.policy.budget - 1) 1 s).time_behind ht
    rw [Nat.add_comm 1 i] at hbehind
    exact hbehind
  | dispatch method uri options =>
    obtain ⟨hcalls, hsession⟩ := c.dispatchShown_eq env shown method uri options s
    rw [performShown] at ht ⊢
    rw [hcalls] at ht ⊢
    rw [hsession]
    obtain ⟨hnext, hlast⟩ := (c.tried env shown method uri options s.now 0 1 s).time_behind ht
    rw [Nat.add_comm 1 i] at hnext hlast
    refine ⟨hnext, fun hnone => .inl ?_⟩
    -- No attempt is behind a call that is sent once.
    cases hcompose : c.composeShown (shown 1) method uri options with
    | error e =>
      rw [executeFromShown_of_error hcompose] at ht
      cases ht
    | ok call =>
      rw [executeFromShown_of_last hcompose fun _ _ _ => rfl, finish, calls_send] at ht
      rw [executeFromShown_of_last hcompose fun _ _ _ => rfl, finish, now_send]
      cases i with
      | zero =>
        cases ht
        rfl
      | succ i => cases ht

end Client

/-- When control comes back behind the calls of a client that pauses, whatever its credentials show. A
call that is answered is followed by a full pause, and one that is not ends as soon as that is known;
what comes next is the wait before the request is sent again, or the end of the run. So the last call
of a request is followed by a pause exactly if it is answered, unless the request waits for an attempt
that then cannot be composed. -/
theorem pausesBehind_of_isAnswered {c : Client} {env : Environment} {s₀ s : Session}
    {ts : List Turn} (hpauses : c.pauses = true) (hstart : c.start.outcome = .ok s₀)
    (hcourse : Client.Course c env s₀ ts s) (shown : Nat → Option Showing) {q : Request} {i : Nat}
    {t : SentCall} (ht : (c.performShown env shown q s).calls[i]? = some t) :
    c.perform env q s =
      c.performShown env (fun _ => s.credentials.map Credentials.showing) q s ∧
    ((env.send (s.sent + i) t.call).IsAnswered →
      (c.performShown env shown q s).PausesBehind i t.time (env.send (s.sent + i) t.call)) ∧
    (∀ u, (c.performShown env shown q s).calls[i + 1]? = some u →
      ∃ e, (env.send (s.sent + i) t.call).Gives (i + 1) (Outcome.fail e) ∧
        u.time = (((env.send (s.sent + i) t.call).overAt (.ofMillis 200) t.time).plus
          (c.retryWait env e (i + 1))).latest (t.time.plus c.interval)) ∧
    ((c.performShown env shown q s).calls[i + 1]? = none →
      (c.performShown env shown q s).session.now =
          (env.send (s.sent + i) t.call).overAt (.ofMillis 200) t.time ∧
        ((c.performShown env shown q s).PausesBehind i t.time (env.send (s.sent + i) t.call) ↔
          (env.send (s.sent + i) t.call).IsAnswered) ∨
      ∃ e f, (env.send (s.sent + i) t.call).Gives (i + 1) (Outcome.fail e) ∧
        e.isTransient = true ∧ q.composeShown c (shown (i + 2)) = .error f ∧
        (c.performShown env shown q s).outcome = Outcome.fail f ∧
        (c.performShown env shown q s).session.now =
          ((env.send (s.sent + i) t.call).overAt (.ofMillis 200) t.time).plus
            (c.retryWait env e (i + 1))) := by
  obtain ⟨hpacer, -⟩ := Client.pacer_of_start hstart
  obtain ⟨hinterval, hsettled⟩ := hcourse.settings
  have hpause : s.pacer.pause = .ofMillis 200 := by
    rw [Pacer.pause, hsettled, hpacer, if_pos hpauses]
    rfl
  rw [hpacer] at hinterval
  obtain ⟨hnext, hlast⟩ := Client.time_behind_performShown ht
  rw [hpause] at hnext hlast
  rw [hinterval] at hnext
  have hanswered : (env.send (s.sent + i) t.call).IsAnswered →
      (c.performShown env shown q s).PausesBehind i t.time (env.send (s.sent + i) t.call) := by
    intro h
    have hover := Reply.overAt_of_isAnswered h (.ofMillis 200) t.time
    refine ⟨fun u hu => ?_, fun hnone => ?_⟩
    · obtain ⟨e, -, htime⟩ := hnext u hu
      rw [htime, hover]
      exact Nat.le_trans (Nat.le_add_right _ _) (Nat.le_max_left _ _)
    · rcases hlast hnone with hnow | ⟨e, f, -, -, -, -, hnow⟩
      · rw [hnow, hover]
        exact Nat.le_refl _
      · rw [hnow, hover]
        exact Nat.le_add_right _ _
  refine ⟨c.perform_eq_shown env q s, hanswered, hnext, fun hnone => ?_⟩
  rcases hlast hnone with hnow | hunsent
  · refine .inl ⟨hnow, fun hpaused => ?_, hanswered⟩
    apply Classical.byContradiction
    intro hunanswered
    have hover := Reply.overAt_of_not_isAnswered hunanswered (.ofMillis 200) t.time
    have hlate := hpaused.last hnone
    rw [hnow, hover] at hlate
    have hfull : t.time.nanos + (env.send (s.sent + i) t.call).delay.nanos + 200 * 1000000 ≤
        t.time.nanos + (env.send (s.sent + i) t.call).delay.nanos := hlate
    omega
  · exact .inr hunsent

namespace Sample

def unhurried : Client where
  pauses := true
  policy := ⟨2, .ofSeconds 1, true⟩

def rested : Session := ⟨.zero, ⟨Pacer.defaultInterval, true, none⟩, none, 0⟩

/-- Every connection breaks after 30 ms. -/
def broken : Environment where
  date := .zero
  send _ _ := ⟨.ofMillis 30, .error (.transport "connection reset by peer")⟩

def orders : Request := .execute "GET" "mock://api/orders" {}

end Sample

open Sample in
/-- Both calls of a request that fails once are answered, and each is followed by a pause. -/
theorem pausesBehind_busyOnce :
    (unhurried.perform (busyOnce .empty) orders rested).calls.map SentCall.time =
      [.zero, .ofMillis 1200] ∧
    (∀ i t, (unhurried.perform (busyOnce .empty) orders rested).calls[i]? = some t →
      (unhurried.perform (busyOnce .empty) orders rested).PausesBehind i t.time
        ⟨.zero, .ok (if i = 0 then ⟨⟨429⟩, .empty, "slow"⟩ else ⟨.ok, .empty, "done"⟩)⟩) := by
  have hstart : unhurried.start.outcome = .ok rested := rfl
  refine ⟨by decide +kernel, fun i t ht => ?_⟩
  rw [Client.perform_eq_shown] at ht
  obtain ⟨hshown, hpaused, -⟩ :=
    pausesBehind_of_isAnswered rfl hstart (.stay rested) (fun _ => none) ht
  have hreply : (busyOnce .empty).send (rested.sent + i) t.call =
      ⟨.zero, .ok (if i = 0 then ⟨⟨429⟩, .empty, "slow"⟩ else ⟨.ok, .empty, "done"⟩)⟩ := by
    cases i <;> rfl
  rw [hreply] at hpaused
  rw [hshown]
  exact hpaused ⟨_, rfl⟩

open Sample in
/-- A call whose connection breaks is followed by no pause. -/
theorem not_pausesBehind_broken :
    unhurried.pauses = true ∧ unhurried.start.outcome = .ok rested ∧
    ∃ call, (unhurried.perform broken (.dispatch "GET" "mock://api/orders" {}) rested).calls =
        [⟨.zero, call⟩] ∧
      ¬(unhurried.perform broken (.dispatch "GET" "mock://api/orders" {}) rested).PausesBehind 0
        .zero (broken.send 0 call) := by
  obtain ⟨call, hcall⟩ : ∃ call, unhurried.compose rested.credentials "GET" "mock://api/orders" {} =
      .ok call := ⟨_, rfl⟩
  have hrun : unhurried.perform broken (.dispatch "GET" "mock://api/orders" {}) rested =
      Client.send broken call rested := Client.dispatch_eq_send hcall broken
  have hend : (Client.send broken call rested).session.now = .ofMillis 30 := by
    simp [Client.send, broken, rested, Pacer.wait, Duration.plus, Duration.zero, Duration.ofMillis]
  have hdelay : (broken.send 0 call).delay = .ofMillis 30 := rfl
  refine ⟨rfl, rfl, call, ?_, fun h => ?_⟩
  · rw [hrun]
    rfl
  · have hlast := h.last (by rw [hrun]; rfl)
    rw [hrun, hend, hdelay] at hlast
    have hfull : (30 + 200) * 1000000 ≤ 30 * 1000000 := hlast
    omega

end RestRecords
