import RestRecords.Proofs.Client.Pacing
/-!
# Clients in use side by side

Several clients are used one call at a time, each through its own copies, and share nothing but the
clock. In every run the calls of one client keep its interval, none of them is later than that takes,
and the other clients could as well be time that passes.
-/

namespace RestRecords

/-- Clients, what each of them meets outside, and to which one each handle belongs: a copy of a
client is a further handle. -/
structure Fleet where
  client : Nat → Client
  env : Nat → Environment
  owner : Nat → Nat

/-- A request, which is sent again or not where it fails in a way that is expected to pass. -/
inductive Request where
  | execute (method uri : String) (options : RequestOptions)
  | dispatch (method uri : String) (options : RequestOptions)

/-- What happens in a run: nothing for some time, a request, or a change of credentials. A request asks
the credentials of its client, or others of any kind, which show `shown n` before the call of number
`n`. -/
inductive Action where
  | idle (d : Duration)
  | request (handle : Nat) (shown : Option (Nat → Option Showing)) (q : Request)
  | authenticate (handle : Nat) (credentials : Option Credentials)

/-- What is shown to a request before each call: by others than the credentials of the session, if
there are any. -/
def Session.shows (s : Session) (others : Option (Nat → Option Showing)) : Nat → Option Showing :=
  others.getD fun _ => s.credentials.map Credentials.showing

namespace Client

def perform (c : Client) (env : Environment) : Request → Session → Run Response
  | .execute method uri options, s => c.execute env method uri options s
  | .dispatch method uri options, s => c.dispatch env method uri options s

def performShown (c : Client) (env : Environment) (shown : Nat → Option Showing) :
    Request → Session → Run Response
  | .execute method uri options, s => c.executeShown env shown method uri options s
  | .dispatch method uri options, s => c.dispatchShown env (shown 1) method uri options s

def performWith (c : Client) (env : Environment) (others : Option (Nat → Option Showing))
    (q : Request) (s : Session) : Run Response :=
  match others with
  | some shown => c.performShown env shown q s
  | none => c.perform env q s

def turns (c : Client) (env : Environment) (shown : Nat → Option Showing) :
    Request → Session → List Turn
  | .execute method uri options, s =>
    c.turnsFromShown env shown method uri options (c.policy.budget - 1) 1 s
  | .dispatch method uri options, s => c.dispatchTurns env (shown 1) method uri options s

variable {c : Client} {env : Environment} {shown : Nat → Option Showing}

theorem perform_eq_shown (c : Client) (env : Environment) (q : Request) (s : Session) :
    c.perform env q s =
      c.performShown env (fun _ => s.credentials.map Credentials.showing) q s := by
  cases q with
  | execute method uri options => exact c.execute_eq_shown env method uri options s
  | dispatch method uri options => exact c.dispatch_eq_shown env method uri options s

theorem performWith_eq_shown (c : Client) (env : Environment)
    (others : Option (Nat → Option Showing)) (q : Request) (s : Session) :
    c.performWith env others q s = c.performShown env (s.shows others) q s := by
  cases others with
  | none => exact c.perform_eq_shown env q s
  | some shown => rfl

theorem sent_turns (q : Request) (s : Session) :
    (c.turns env shown q s).map Turn.sent = (c.performShown env shown q s).calls := by
  cases q with
  | execute method uri options =>
    exact (c.tried env shown method uri options s.now _ 1 s).sent_turns
  | dispatch method uri options => exact sent_dispatchTurns _ s

theorem course_performShown (q : Request) (s : Session) :
    Course c env s (c.turns env shown q s) (c.performShown env shown q s).session := by
  cases q with
  | execute method uri options => exact (c.tried env shown method uri options s.now _ 1 s).course
  | dispatch method uri options => exact course_dispatch _ s

theorem pacer_of_start {s : Session} (h : c.start.outcome = .ok s) :
    s.pacer = ⟨c.interval, c.pauses, none⟩ ∧ Pacer.leastInterval ≤ c.interval := by
  obtain ⟨pacer, hpacer, hs⟩ := Traced.outcome_bind_eq_ok_iff.1 h
  obtain ⟨interval, hinterval, hcreated⟩ := Traced.outcome_bind_eq_ok_iff.1 hpacer
  cases hs
  cases hcreated
  unfold Pacer.checkInterval at hinterval
  split at hinterval
  · cases hinterval
  · rename_i hleast
    cases hinterval
    exact ⟨rfl, Nat.le_of_not_lt hleast⟩

end Client

/-- The one clock, and the sessions of the clients. -/
structure World where
  now : Duration
  sessions : Nat → Session

namespace World

def session (w : World) (k : Nat) : Session :=
  { w.sessions k with now := w.now }

def after (w : World) (k : Nat) (s : Session) : World :=
  ⟨s.now, Function.update w.sessions k s⟩

theorem session_after_self (w : World) (k : Nat) (s : Session) : (w.after k s).session k = s := by
  simp only [session, after, Function.update_self]

theorem session_after_of_ne (w : World) {j k : Nat} (h : k ≠ j) {s : Session}
    (hnow : w.now ≤ s.now) :
    (w.after j s).session k = (w.session k).wait (s.now.minus w.now) := by
  have hle : w.now.nanos ≤ s.now.nanos := hnow
  have hsum : w.now.plus (s.now.minus w.now) = s.now := by
    simp only [Duration.plus, Duration.minus, Nat.add_sub_cancel' hle]
  simp only [session, after, Function.update_of_ne h, Session.wait, hsum]

end World

namespace Fleet

def step (f : Fleet) (w : World) : Action → World
  | .idle d => { w with now := w.now.plus d }
  | .request handle shown q =>
    let k := f.owner handle
    w.after k ((f.client k).performWith (f.env k) shown q (w.session k)).session
  | .authenticate handle credentials =>
    let k := f.owner handle
    w.after k ((w.session k).setCredentials credentials).session

def actor? (f : Fleet) : Action → Option Nat
  | .idle _ => none
  | .request handle _ _ | .authenticate handle _ => some (f.owner handle)

def stepCalls (f : Fleet) (k : Nat) (w : World) : Action → List SentCall
  | .request handle shown q =>
    if f.owner handle = k then
      ((f.client k).performWith (f.env k) shown q (w.session k)).calls
    else []
  | _ => []

def stepTurns (f : Fleet) (k : Nat) (w : World) : Action → List Turn
  | .request handle shown q =>
    if f.owner handle = k then
      (f.client k).turns (f.env k) ((w.session k).shows shown) q (w.session k)
    else []
  | _ => []

def calls (f : Fleet) (k : Nat) : World → List Action → List SentCall
  | _, [] => []
  | w, a :: rest => f.stepCalls k w a ++ f.calls k (f.step w a) rest

def turns (f : Fleet) (k : Nat) : World → List Action → List Turn
  | _, [] => []
  | w, a :: rest => f.stepTurns k w a ++ f.turns k (f.step w a) rest

/-- A run as client `k` sees it: whatever others do is time that passes. -/
def alone (f : Fleet) (k : Nat) : World → List Action → List Action
  | _, [] => []
  | w, a :: rest =>
    (if f.actor? a = some k then a else .idle ((f.step w a).now.minus w.now)) ::
      f.alone k (f.step w a) rest

variable {f : Fleet} {k : Nat}

theorem sent_stepTurns (w : World) (a : Action) :
    (f.stepTurns k w a).map Turn.sent = f.stepCalls k w a := by
  cases a with
  | request handle shown q =>
    rw [stepTurns, stepCalls]
    split
    · rw [Client.performWith_eq_shown]
      exact Client.sent_turns q _
    · rfl
  | _ => rfl

theorem sent_turns (w : World) (actions : List Action) :
    (f.turns k w actions).map Turn.sent = f.calls k w actions := by
  induction actions generalizing w with
  | nil => rfl
  | cons a rest ih => rw [turns, calls, List.map_append, sent_stepTurns, ih]

theorem now_le_step (w : World) (a : Action) : w.now ≤ (f.step w a).now := by
  cases a with
  | idle d => exact Nat.le_add_right _ _
  | request handle shown q =>
    have hle : (w.session (f.owner handle)).now ≤ ((f.client (f.owner handle)).performShown
        (f.env (f.owner handle)) ((w.session (f.owner handle)).shows shown) q
        (w.session (f.owner handle))).session.now := (Client.course_performShown q _).now_le
    rwa [← Client.performWith_eq_shown] at hle
  | authenticate handle credentials => exact Nat.le_refl _

theorem session_step_of_other {w : World} {a : Action} (h : f.actor? a ≠ some k) :
    (f.step w a).session k = (w.session k).wait ((f.step w a).now.minus w.now) := by
  have hnow := now_le_step (f := f) w a
  cases a with
  | idle d =>
    have hd : (w.now.plus d).minus w.now = d := by
      simp only [Duration.plus, Duration.minus, Nat.add_sub_cancel_left]
    simp only [step, hd]
    rfl
  | request handle shown q => exact w.session_after_of_ne (fun hk => h (congrArg some hk.symm)) hnow
  | authenticate handle credentials =>
    exact w.session_after_of_ne (fun hk => h (congrArg some hk.symm)) hnow

theorem stepTurns_of_other {w : World} {a : Action} (h : f.actor? a ≠ some k) :
    f.stepTurns k w a = [] := by
  cases a with
  | request handle shown q => exact if_neg fun hk => h (congrArg some hk)
  | _ => rfl

theorem step_congr {v w : World} (h : v.session k = w.session k) {a : Action}
    (ha : f.actor? a = some k) :
    f.stepTurns k v a = f.stepTurns k w a ∧ (f.step v a).session k = (f.step w a).session k := by
  cases a with
  | idle d => cases ha
  | request handle shown q =>
    obtain rfl : f.owner handle = k := Option.some.inj ha
    simp only [stepTurns, step, World.session_after_self, h, and_self]
  | authenticate handle credentials =>
    obtain rfl : f.owner handle = k := Option.some.inj ha
    simp only [stepTurns, step, World.session_after_self, h, and_self]

theorem course_step (w : World) (a : Action) :
    Client.Course (f.client k) (f.env k) (w.session k) (f.stepTurns k w a)
      ((f.step w a).session k) := by
  by_cases ha : f.actor? a = some k
  · cases a with
    | idle d => cases ha
    | request handle shown q =>
      obtain rfl : f.owner handle = k := Option.some.inj ha
      simp only [stepTurns, step, World.session_after_self, if_true, Client.performWith_eq_shown]
      exact Client.course_performShown q _
    | authenticate handle credentials =>
      obtain rfl : f.owner handle = k := Option.some.inj ha
      simp only [stepTurns, step, World.session_after_self]
      exact .authenticate credentials (.stay _)
  · rw [stepTurns_of_other ha, session_step_of_other ha]
    exact .pass _ (.stay _)

theorem exists_course (w : World) (actions : List Action) :
    ∃ s, Client.Course (f.client k) (f.env k) (w.session k) (f.turns k w actions) s := by
  induction actions generalizing w with
  | nil => exact ⟨_, .stay _⟩
  | cons a rest ih =>
    obtain ⟨s, hs⟩ := ih (f.step w a)
    exact ⟨s, (course_step w a).append hs⟩

theorem turns_alone {v w : World} (h : v.session k = w.session k) (actions : List Action) :
    f.turns k v (f.alone k w actions) = f.turns k w actions := by
  induction actions generalizing v w with
  | nil => rfl
  | cons a rest ih =>
    rw [alone, turns, turns]
    by_cases ha : f.actor? a = some k
    · obtain ⟨hturns, hsession⟩ := step_congr h ha
      rw [if_pos ha, hturns, ih hsession]
    · rw [if_neg ha, stepTurns_of_other ha]
      have hsession : (f.step v (.idle ((f.step w a).now.minus w.now))).session k =
          (f.step w a).session k := by
        rw [session_step_of_other ha, ← h]
        rfl
      rw [ih hsession]
      rfl

end Fleet

/-- In every run of clients that have just been made, each client makes its first call as soon as the
request is ready to go, and every further one then or when its interval since the call before is over,
whichever is later; so two calls are at least that interval apart, which is 200 ms or more. The calls
are the same if nothing is left of the other clients but the time they take. Credentials of any kind
may be asked before them. -/
theorem Fleet.calls_are_paced (f : Fleet) (w : World)
    (hstart : ∀ k, (f.client k).start.outcome = .ok (w.sessions k)) (actions : List Action)
    (k : Nat) :
    (f.turns k w actions).map Turn.sent = f.calls k w actions ∧
    (∀ t, (f.turns k w actions)[0]? = some t → t.sent.time = t.ready) ∧
    (∀ i t u, (f.turns k w actions)[i]? = some t → (f.turns k w actions)[i + 1]? = some u →
      u.sent.time = u.ready.latest (t.sent.time.plus (f.client k).interval) ∧
        t.sent.time.plus (f.client k).interval ≤ u.sent.time) ∧
    Pacer.leastInterval ≤ (f.client k).interval ∧
    ∀ v : World, v.session k = w.session k →
      f.turns k v (f.alone k w actions) = f.turns k w actions := by
  obtain ⟨hpacer, hleast⟩ := Client.pacer_of_start (hstart k)
  have hkeeps : (w.session k).Keeps (f.client k).interval none := by
    refine ⟨?_, ?_, nofun⟩
    · show (w.sessions k).pacer.interval = _
      rw [hpacer]
    · show (w.sessions k).pacer.last = _
      rw [hpacer]
  obtain ⟨s, hcourse⟩ := exists_course (f := f) (k := k) w actions
  obtain ⟨final, hpaced, -⟩ := hcourse.paced hkeeps
  refine ⟨sent_turns w actions, fun t => hpaced.time_of_first, fun i t u ht hu => ?_, hleast,
    fun v hv => turns_alone hv actions⟩
  have htime := hpaced.time_of_next ht hu
  refine ⟨htime, ?_⟩
  rw [htime]
  exact Nat.le_max_right _ _

namespace Sample

/-- Two clients with two handles each. The first call of each takes 100 ms and is answered with
status 503. -/
def pair : Fleet where
  client _ := {}
  env _ := {
    date := .zero
    send i _ := ⟨.ofMillis 100, .ok ⟨if i = 0 then ⟨503⟩ else .ok, .empty, ""⟩⟩ }
  owner handle := handle / 2

/-- Nobody has called yet. -/
def dawn : World where
  now := .ofMillis 5
  sessions _ := ⟨.zero, ⟨Pacer.defaultInterval, false, none⟩, none, 0⟩

/-- The first client is used through both of its handles, and the other one in between. -/
def errands : List Action :=
  [.request 0 none (.execute "GET" "mock://api/orders" {}),
    .request 2 none (.dispatch "GET" "mock://api/orders" {}),
    .idle (.ofMillis 10),
    .request 1 (some fun _ => some ⟨true, [("x-visit", "3")]⟩) (.dispatch "GET" "mock://api/orders" {})]

end Sample

open Sample in
theorem Fleet.calls_are_paced_errands :
    (pair.calls 0 dawn errands).map SentCall.time = [.ofMillis 5, .ofMillis 1105, .ofMillis 1355] ∧
    ∀ i t u, (pair.turns 0 dawn errands)[i]? = some t →
      (pair.turns 0 dawn errands)[i + 1]? = some u →
      t.sent.time.plus (.ofMillis 250) ≤ u.sent.time :=
  ⟨by decide +kernel, fun i t u ht hu =>
    ((Fleet.calls_are_paced pair dawn (fun _ => rfl) errands 0).2.2.1 i t u ht hu).2⟩

end RestRecords
