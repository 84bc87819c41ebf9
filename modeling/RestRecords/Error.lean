import RestRecords.Http.RateLimit
import RestRecords.Http.Status
import RestRecords.Json.Writer
import RestRecords.Path
import RestRecords.Url.Fault
/-!
# Errors

The causes for which an operation fails, and the one wording of each. A run that has no answer at
all is told apart from a failure: it is aborted.
-/

namespace RestRecords

inductive ConfigurationFault where
  | headerName
  | headerValue
  | userAgent
  | retryBudget
  | retryDelay
  | requestInterval
  | patternNotText
  | invalidPattern (source complaint : String)
  | unknownComparison (name : String)
  | endpointName
  | missingBase (uri : String)
  | invalidProxy (proxy : String)
  deriving DecidableEq, Repr

def ConfigurationFault.message : ConfigurationFault → String
  | .headerName => "Invalid header name: invalid HTTP header name"
  | .headerValue => "Invalid header value: failed to parse header value"
  | .userAgent => "Invalid user agent: failed to parse header value"
  | .retryBudget => "Max retries must be at least 1"
  | .retryDelay => "Base retry delay must be at least 1 second"
  | .requestInterval => "Request interval must be at least 200 ms"
  | .patternNotText => "regex comparison needs a string pattern"
  | .invalidPattern source complaint => "invalid pattern " ++ source ++ ": " ++ complaint
  | .unknownComparison name => "Unsupported comparison type: " ++ name
  | .endpointName => "The endpoint name must be set"
  | .missingBase uri => "Relative URI \x60" ++ uri ++ "\x60 requires a base URL"
  | .invalidProxy proxy => "Invalid proxy " ++ proxy ++ ": builder error"

inductive BindingCause where
  | notAMap
  | nullRefused
  | invalidValue (raw : Json)
  | listRefused
  | mapRefused
  | unrecognizedDateTime (raw : Json)
  | unknownName (key : String)
  | notAScalar
  | rejected (complaint : String)
  | undeclaredField
  | fieldMismatch
  | elementMismatch

def BindingCause.message : BindingCause → String
  | .notAMap => "data must be a map"
  | .nullRefused => "field cannot be null"
  | .invalidValue raw => "invalid value " ++ raw.text
  | .listRefused => "cannot bind a list"
  | .mapRefused => "cannot bind a map"
  | .unrecognizedDateTime raw => "unrecognized date-time " ++ raw.text
  | .unknownName key => "name " ++ key ++ " does not exist"
  | .notAScalar => "value must be a scalar or null"
  | .rejected complaint => complaint
  | .undeclaredField => "no such field"
  | .fieldMismatch => "value does not match the declared type"
  | .elementMismatch => "value does not match the element type"

/-- Data that cannot be bound: the place, the name of the kind expected there, and the cause. -/
structure BindingFault where
  path : Path
  target : String
  cause : BindingCause

inductive ReadOnlyTarget where
  | value (name : String)
  | collection (name : String)
  deriving DecidableEq, Repr

def ReadOnlyTarget.message : ReadOnlyTarget → String
  | .value name => "value " ++ name
  | .collection name => "collection " ++ name

/-- One rule that a value fails, and the place of the value. -/
structure FieldError where
  path : Path
  message : String
  deriving DecidableEq, Repr

namespace FieldError

def place (e : FieldError) : String :=
  e.path.textOmittingEmpty

def under (s : Step) (e : FieldError) : FieldError :=
  { e with path := s :: e.path }

def text (e : FieldError) : String :=
  e.place ++ ": " ++ e.message

end FieldError

inductive Error where
  | configuration (fault : ConfigurationFault)
  | api (status : Status) (body : String) (headers : Headers) (rateLimit : Option RateLimit)
  | unexpectedStatus (expected status : Status) (body : String)
  | network
  | transport (message : String)
  | binding (fault : BindingFault)
  | readOnly (target : ReadOnlyTarget)
  | validation (failures : List FieldError)
  | json
  | invalidUrl (fault : Url.Fault)

namespace Error

def message : Error → String
  | .configuration fault => "Configuration error: " ++ fault.message
  | .api status body _ _ =>
    (FailureKind.ofStatus status).message ++ " (status " ++ status.text ++ "): " ++ body
  | .unexpectedStatus expected status _ =>
    "Unexpected response status " ++ status.text ++ " (expected " ++ expected.text ++ ")"
  | .network => "Network error"
  | .transport text => "Transport error: " ++ text
  | .binding fault =>
    "Cannot bind \x60" ++ fault.path.text ++ "\x60 as " ++ fault.target ++ ": " ++
      fault.cause.message
  | .readOnly target => "Cannot modify read-only " ++ target.message
  | .validation failures =>
    "Validation failed: " ++ "; ".intercalate (failures.map FieldError.text)
  | .json => "JSON error"
  | .invalidUrl fault => "Invalid URL: " ++ fault.message

def isTransient : Error → Bool
  | .api status _ _ _ => (FailureKind.ofStatus status).isTransient
  | _ => false

def rateLimit? : Error → Option RateLimit
  | .api _ _ _ rateLimit => rateLimit
  | _ => none

end Error

/-- Why a run ends without an answer. -/
inductive Abort where
  /-- An instant lies beyond the last one that can be told. -/
  | clockOverflow
  /-- A declaration refers to itself without end. -/
  | endlessSchema
  deriving DecidableEq, Repr

/-- Why an operation gives no result: an error that its caller may handle, or an aborted run. -/
inductive Failure where
  | error (e : Error)
  | abort (a : Abort)

abbrev Outcome (α : Type) := Except Failure α

def Outcome.fail {α : Type} (e : Error) : Outcome α :=
  .error (.error e)

def Error.ofResponse (now : Duration) (status : Status) (body : String) (headers : Headers) :
    Outcome Error :=
  match RateLimit.ofHeaders? now headers with
  | none => .error (.abort .clockOverflow)
  | some hints => .ok (.api status body headers (if hints.isPresent then some hints else none))

end RestRecords
