import RestRecords.Client.Session
import RestRecords.Json.Reader
/-!
# Sending requests

A request is sent when its turn comes, and its answer is a response or, from status `400` on, a
failure. After a failure that is expected to pass it is sent again, until the budget of the policy
is spent.
-/

namespace RestRecords

open Text

/-- A response to a request: the answer, the time it took and the number of calls that were made. -/
structure Response where
  status : Status
  headers : Headers
  body : String
  latency : Duration
  attempts : Nat

namespace Response

def wasRetried (r : Response) : Bool :=
  1 < r.attempts

def json (r : Response) : Except Error Json :=
  match Json.read? r.body with
  | some value => .ok value
  | none => .error .json

end Response

namespace Client

def classify (env : Environment) (answer : Answer) (latency : Duration) : Traced Response :=
  if answer.status.isFailure then
    ⟨(Error.ofResponse env.date answer.status answer.body answer.headers).bind Outcome.fail,
      [.failureReceived answer.status answer.body]⟩
  else
    ⟨.ok ⟨answer.status, answer.headers, answer.body, latency, 1⟩,
      [.responseReceived answer.status latency]⟩

/-- Sends a call when its turn comes. No pause follows a call that is not answered. -/
def send (env : Environment) (call : Call) (s : Session) : Run Response :=
  let waited := s.pacer.wait s.now
  let time := s.now.plus waited
  let reply := env.send s.sent call
  let pacer := s.pacer.record time
  let after : Session :=
    { s with now := time.plus reply.delay, pacer, sent := s.sent + 1 }
  let sending : Event := .sendingRequest call.method call.url.text waited
  match reply.outcome with
  | .error e => ⟨Outcome.fail e, [⟨time, call⟩], [sending], after⟩
  | .ok answer =>
    let result := classify env answer reply.delay
    ⟨result.outcome, [⟨time, call⟩], sending :: result.events, after.wait pacer.pause⟩

/-- Sends a request once. Nothing is sent, and no time passes, if it is not well formed. -/
def dispatch (c : Client) (env : Environment) (method uri : String) (options : RequestOptions)
    (s : Session) : Run Response :=
  match c.compose s.credentials method uri options with
  | .error e => ⟨Outcome.fail e, [], [], s⟩
  | .ok call => send env call s

/-- The time that a failed response asks to wait, where the client respects that. -/
def askedWait (c : Client) (env : Environment) (e : Error) : Option Duration := do
  let cap ← c.retryAfterCap
  let hints ← e.rateLimit?
  hints.waitHint env.date cap

def retryWait (c : Client) (env : Environment) (e : Error) (failures : Nat) : Duration :=
  (c.askedWait env e).getD (c.policy.delay failures)

def retryEvents (c : Client) (env : Environment) (e : Error) (failures : Nat) : List Event :=
  ((c.askedWait env e).toList.map .waitRequested) ++
    [.retrying e failures c.policy.budget (c.retryWait env e failures)]

/-- Sends a request whose earlier calls have failed. It counts as the call of number `attempt`, and
`left` further ones may follow. -/
def executeFrom (c : Client) (env : Environment) (method uri : String) (options : RequestOptions)
    (start : Duration) : Nat → Nat → Session → Run Response
  | left, attempt, s =>
    let r := c.dispatch env method uri options s
    match r.outcome with
    | .ok response =>
      { r with outcome := .ok { response with
          attempts := attempt, latency := r.session.now.minus start } }
    | .error (.abort _) => r
    | .error (.error e) =>
      if !e.isTransient then
        { r with events := r.events ++ [.requestFailed e attempt method uri] }
      else
        match left with
        | 0 => { r with events := r.events ++ [.retriesSpent e attempt method uri] }
        | left + 1 =>
          let rest := executeFrom c env method uri options start left (attempt + 1)
            (r.session.wait (c.retryWait env e attempt))
          { rest with
            calls := r.calls ++ rest.calls
            events := r.events ++ c.retryEvents env e attempt ++ rest.events }

/-- Sends a request, and sends it again while it fails in a way that is expected to pass and the
budget lasts. -/
def execute (c : Client) (env : Environment) (method uri : String) (options : RequestOptions)
    (s : Session) : Run Response :=
  c.executeFrom env method uri options s.now (c.policy.budget - 1) 1 s

end Client

end RestRecords
