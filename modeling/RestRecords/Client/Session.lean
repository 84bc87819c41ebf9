import RestRecords.Client.Call
/-!
# Sessions

What changes while a client is used, and what it meets outside: the clock and the answers to its
calls. All copies of a client share one session. Time passes only while the client sleeps, while an
answer is awaited, and between two operations.
-/

namespace RestRecords

structure Answer where
  status : Status
  headers : Headers
  body : String

/-- What comes back from a call, and how long that takes. -/
structure Reply where
  delay : Duration
  outcome : Except Error Answer

/-- What a client meets outside: the instant that its clock shows, as the time from the beginning of
1970, and the reply to the call of each number. -/
structure Environment where
  date : Duration
  send : Nat → Call → Reply

/-- The state of a client in use: the time, when it may call again, whom it calls as, and how many
calls it has made. -/
structure Session where
  now : Duration
  pacer : Pacer
  credentials : Option Credentials
  sent : Nat

/-- A call and the time at which it is made. -/
structure SentCall where
  time : Duration
  call : Call

/-- What an operation leads to: its outcome, the calls and events it makes in order, and the state
it leaves. -/
structure Run (α : Type) where
  outcome : Outcome α
  calls : List SentCall
  events : List Event
  session : Session

namespace Run

variable {α β : Type}

def ofTraced (session : Session) (t : Traced α) : Run α :=
  ⟨t.outcome, [], t.events, session⟩

def andThen (r : Run α) (f : α → Traced β) : Run β :=
  match r.outcome with
  | .ok a => ⟨(f a).outcome, r.calls, r.events ++ (f a).events, r.session⟩
  | .error e => ⟨.error e, r.calls, r.events, r.session⟩

end Run

namespace Session

def wait (s : Session) (d : Duration) : Session :=
  { s with now := s.now.plus d }

def setCredentials (s : Session) (credentials : Option Credentials) : Run Unit where
  outcome := .ok ()
  calls := []
  events := credentials.toList.map fun c => .authenticationSet c.scheme
  session := { s with credentials }

end Session

def Client.start (c : Client) : Traced Session := do
  let pacer ← Pacer.create c.interval c.pauses
  let s : Session := ⟨.zero, pacer, none, 0⟩
  let r := s.setCredentials c.credentials
  ⟨.ok r.session, r.events⟩

end RestRecords
