import RestRecords.Error
/-!
# Events

What is reported while an operation runs, and computations that report.
-/

namespace RestRecords

open Text

inductive Level where
  | debug
  | info
  | warn
  | error
  deriving DecidableEq, Repr

def Level.label : Level → String
  | .debug => "DEBUG"
  | .info => "INFO"
  | .warn => "WARN"
  | .error => "ERROR"

inductive Event where
  | undeclaredField (entity field : String)
  | defaultRejected (entity field valueName : String) (error : Error)
  | unknownCase (place : Step) (raw : Json) (enumeration : String)
  | invalidScalar (place : Step) (raw : Json) (kind : String)
  | stringified (place : Step) (raw : Json)
  | ruleFailed (error : FieldError)
  | retryBudgetRejected (calls : Nat)
  | retryDelayRejected (delay : Duration)
  | intervalRejected (interval least : Duration)
  | authenticationSet (scheme : String)
  | sendingRequest (method url : String) (waited : Duration)
  | failureReceived (status : Status) (body : String)
  | responseReceived (status : Status) (latency : Duration)
  | requestFailed (error : Error) (attempts : Nat) (method uri : String)
  | retriesSpent (error : Error) (attempts : Nat) (method uri : String)
  | retrying (error : Error) (attempt budget : Nat) (delay : Duration)
  | waitRequested (delay : Duration)
  | endpointAnswered (method url : String) (status : Status)

namespace Event

def level : Event → Level
  | .stringified .. | .authenticationSet .. | .sendingRequest .. | .responseReceived ..
  | .endpointAnswered .. => .debug
  | .waitRequested .. => .info
  | .undeclaredField .. | .ruleFailed .. | .retrying .. => .warn
  | _ => .error

def message : Event → String
  | .undeclaredField .. => "Skipping undeclared field"
  | .defaultRejected _ _ valueName _ => "Failed to initialize " ++ valueName
  | .unknownCase _ _ enumeration =>
    "Failed to instantiate " ++ enumeration ++ ": no case with this backing value"
  | .invalidScalar _ _ kind => "Invalid " ++ kind ++ " value"
  | .stringified .. => "Stringifying scalar"
  | .ruleFailed e => "validation -> " ++ e.message
  | .retryBudgetRejected _ => "Rejected retry configuration"
  | .retryDelayRejected _ => "Rejected retry configuration"
  | .intervalRejected .. => "Rejected request interval"
  | .authenticationSet _ => "Authentication set"
  | .sendingRequest .. => "Sending request"
  | .failureReceived .. => "API error response"
  | .responseReceived .. => "Received response"
  | .requestFailed .. => "Request failed"
  | .retriesSpent .. => "Max retries reached"
  | .retrying .. => "Retrying request"
  | .waitRequested _ => "Server asked to wait before retrying"
  | .endpointAnswered .. => "Endpoint call succeeded"

def fields : Event → List (String × String)
  | .undeclaredField entity field => [("entity", entity), ("field", field)]
  | .defaultRejected entity field _ error =>
    [("entity", entity), ("field", field), ("error", error.message)]
  | .unknownCase place raw _ => [("field", place.text), ("value", raw.text)]
  | .invalidScalar place raw _ => [("field", place.text), ("value", raw.text)]
  | .stringified place raw => [("field", place.text), ("value", raw.text)]
  | .ruleFailed e => [("path", e.place)]
  | .retryBudgetRejected calls => [("max_retries", natText calls)]
  | .retryDelayRejected delay => [("base_delay_ms", natText delay.wordMillis)]
  | .intervalRejected interval least =>
    [("interval_ms", natText interval.wordMillis), ("min_ms", natText least.wordMillis)]
  | .authenticationSet scheme => [("auth_type", scheme)]
  | .sendingRequest method url waited =>
    [("method", method), ("url", url), ("waited_ms", natText waited.wordMillis)]
  | .failureReceived status body => [("status", natText status.code), ("response", body)]
  | .responseReceived status latency =>
    [("status", natText status.code), ("latency_ms", natText latency.wordMillis)]
  | .requestFailed error attempts method uri | .retriesSpent error attempts method uri =>
    [("error", error.message), ("attempts", natText attempts), ("method", method), ("uri", uri)]
  | .retrying error attempt budget delay =>
    [("error", error.message), ("attempt", natText attempt), ("max_retries", natText budget),
      ("delay_ms", natText delay.wordMillis)]
  | .waitRequested delay => [("delay_ms", natText delay.wordMillis)]
  | .endpointAnswered method url status =>
    [("method", method), ("url", url), ("status", natText status.code)]

end Event

/-- The outcome of a computation and the events it reported, in order. -/
structure Traced (α : Type) where
  outcome : Outcome α
  events : List Event

namespace Traced

variable {α β : Type}

def ok (a : α) : Traced α := ⟨.ok a, []⟩

def fail (e : Error) : Traced α := ⟨Outcome.fail e, []⟩

def abort (a : Abort) : Traced α := ⟨.error (.abort a), []⟩

def report (e : Event) : Traced Unit := ⟨.ok (), [e]⟩

def andThen (x : Traced α) (f : α → Traced β) : Traced β :=
  match x.outcome with
  | .ok a => ⟨(f a).outcome, x.events ++ (f a).events⟩
  | .error e => ⟨.error e, x.events⟩

instance : Monad Traced where
  pure := ok
  bind := andThen

def mapError (f : Error → Error) (x : Traced α) : Traced α :=
  match x.outcome with
  | .error (.error e) => ⟨.error (.error (f e)), x.events⟩
  | _ => x

@[simp] theorem outcome_pure (a : α) : (pure a : Traced α).outcome = .ok a := rfl

@[simp] theorem outcome_bind (x : Traced α) (f : α → Traced β) :
    (x >>= f).outcome = x.outcome.bind fun a => (f a).outcome := by
  show (andThen x f).outcome = _
  unfold andThen
  cases x.outcome <;> rfl

end Traced

end RestRecords
