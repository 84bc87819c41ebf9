import RestRecords.Client.Execution
/-!
# Credentials of any kind

A client may be given credentials of a kind of its own. They are asked before every call whether they
can be used and which headers they bring, and need not answer the same every time. Those of a session
always do.
-/

namespace RestRecords

/-- What credentials show when they are asked: whether they can be used, and their headers. -/
structure Showing where
  isUsable : Bool
  headers : List (String × String)

/-- The headers that count of what credentials show: all if they can be used, else none. -/
def Showing.counted (shown : Option Showing) : List (String × String) :=
  match shown with
  | some shown => if shown.isUsable then shown.headers else []
  | none => []

def Credentials.showing (credentials : Credentials) : Showing :=
  ⟨credentials.isUsable, credentials.headers⟩

def Headers.crown (h : Headers) (userAgent : Option String) : Headers :=
  match userAgent with
  | some userAgent => h.insert "user-agent" userAgent
  | none => h

namespace Client

def composeHeadersShown (c : Client) (shown : Option Showing) (own : Headers) :
    Except Error Headers :=
  (credentialHeaders (Showing.counted shown) .empty).map fun layer =>
    ((c.defaultHeaders.overlay own).overlay layer).crown c.userAgent

def composeShown (c : Client) (shown : Option Showing) (method uri : String)
    (options : RequestOptions) : Except Error Call := do
  let call ← c.compose none method uri options
  return { call with headers := ← c.composeHeadersShown shown options.headers }

def dispatchShown (c : Client) (env : Environment) (shown : Option Showing) (method uri : String)
    (options : RequestOptions) (s : Session) : Run Response :=
  match c.composeShown shown method uri options with
  | .error e => ⟨Outcome.fail e, [], [], s⟩
  | .ok call => send env call s

/-- What follows the call of number `attempt`: `next` behind a failure that is expected to pass, if
further calls are left, else the end of the run. -/
def follow (c : Client) (env : Environment) (method uri : String) (start : Duration)
    (attempt : Nat) (next : Option (Session → Run Response)) (r : Run Response) : Run Response :=
  match r.outcome with
  | .ok response =>
    { r with outcome := .ok { response with
        attempts := attempt, latency := r.session.now.minus start } }
  | .error (.abort _) => r
  | .error (.error e) =>
    if !e.isTransient then
      { r with events := r.events ++ [.requestFailed e attempt method uri] }
    else
      match next with
      | none => { r with events := r.events ++ [.retriesSpent e attempt method uri] }
      | some next =>
        let rest := next (r.session.wait (c.retryWait env e attempt))
        { rest with
          calls := r.calls ++ rest.calls
          events := r.events ++ c.retryEvents env e attempt ++ rest.events }

/-- Sends a request whose earlier calls have failed, where the credentials show `shown n` before the
call of number `n`. -/
def executeFromShown (c : Client) (env : Environment) (shown : Nat → Option Showing)
    (method uri : String) (options : RequestOptions) (start : Duration) :
    Nat → Nat → Session → Run Response
  | 0, attempt, s =>
    c.follow env method uri start attempt none
      (c.dispatchShown env (shown attempt) method uri options s)
  | left + 1, attempt, s =>
    c.follow env method uri start attempt
      (some (executeFromShown c env shown method uri options start left (attempt + 1)))
      (c.dispatchShown env (shown attempt) method uri options s)

/-- Sends a request as long as its policy says, where the credentials show `shown n` before the call
of number `n`. -/
def executeShown (c : Client) (env : Environment) (shown : Nat → Option Showing)
    (method uri : String) (options : RequestOptions) (s : Session) : Run Response :=
  c.executeFromShown env shown method uri options s.now (c.policy.budget - 1) 1 s

end Client

end RestRecords
