import RestRecords.Text.Numeral
/-!
# Response statuses

Status codes with their reason phrases, and the kinds of failure among those from `400` on.
-/

namespace RestRecords

open Text

structure Status where
  code : Nat
  deriving DecidableEq, Repr

namespace Status

def ok : Status := ⟨200⟩

def created : Status := ⟨201⟩

def noContent : Status := ⟨204⟩

def reason? (s : Status) : Option String :=
  match s.code with
  | 100 => "Continue"
  | 101 => "Switching Protocols"
  | 102 => "Processing"
  | 103 => "Early Hints"
  | 200 => "OK"
  | 201 => "Created"
  | 202 => "Accepted"
  | 203 => "Non Authoritative Information"
  | 204 => "No Content"
  | 205 => "Reset Content"
  | 206 => "Partial Content"
  | 207 => "Multi-Status"
  | 208 => "Already Reported"
  | 226 => "IM Used"
  | 300 => "Multiple Choices"
  | 301 => "Moved Permanently"
  | 302 => "Found"
  | 303 => "See Other"
  | 304 => "Not Modified"
  | 305 => "Use Proxy"
  | 307 => "Temporary Redirect"
  | 308 => "Permanent Redirect"
  | 400 => "Bad Request"
  | 401 => "Unauthorized"
  | 402 => "Payment Required"
  | 403 => "Forbidden"
  | 404 => "Not Found"
  | 405 => "Method Not Allowed"
  | 406 => "Not Acceptable"
  | 407 => "Proxy Authentication Required"
  | 408 => "Request Timeout"
  | 409 => "Conflict"
  | 410 => "Gone"
  | 411 => "Length Required"
  | 412 => "Precondition Failed"
  | 413 => "Payload Too Large"
  | 414 => "URI Too Long"
  | 415 => "Unsupported Media Type"
  | 416 => "Range Not Satisfiable"
  | 417 => "Expectation Failed"
  | 418 => "I'm a teapot"
  | 421 => "Misdirected Request"
  | 422 => "Unprocessable Entity"
  | 423 => "Locked"
  | 424 => "Failed Dependency"
  | 425 => "Too Early"
  | 426 => "Upgrade Required"
  | 428 => "Precondition Required"
  | 429 => "Too Many Requests"
  | 431 => "Request Header Fields Too Large"
  | 451 => "Unavailable For Legal Reasons"
  | 500 => "Internal Server Error"
  | 501 => "Not Implemented"
  | 502 => "Bad Gateway"
  | 503 => "Service Unavailable"
  | 504 => "Gateway Timeout"
  | 505 => "HTTP Version Not Supported"
  | 506 => "Variant Also Negotiates"
  | 507 => "Insufficient Storage"
  | 508 => "Loop Detected"
  | 510 => "Not Extended"
  | 511 => "Network Authentication Required"
  | _ => none

def text (s : Status) : String :=
  natText s.code ++ " " ++ s.reason?.getD "<unknown status code>"

def isFailure (s : Status) : Bool :=
  400 ≤ s.code

end Status

inductive FailureKind where
  | badRequest
  | unauthorized
  | paymentRequired
  | forbidden
  | notFound
  | methodNotAllowed
  | notAcceptable
  | requestTimeout
  | conflict
  | unsupportedMediaType
  | unprocessableEntity
  | tooManyRequests
  | internalServerError
  | badGateway
  | serviceUnavailable
  | gatewayTimeout
  | other
  deriving DecidableEq, Repr

namespace FailureKind

def ofStatus (s : Status) : FailureKind :=
  match s.code with
  | 400 => .badRequest
  | 401 => .unauthorized
  | 402 => .paymentRequired
  | 403 => .forbidden
  | 404 => .notFound
  | 405 => .methodNotAllowed
  | 406 => .notAcceptable
  | 408 => .requestTimeout
  | 409 => .conflict
  | 415 => .unsupportedMediaType
  | 422 => .unprocessableEntity
  | 429 => .tooManyRequests
  | 500 => .internalServerError
  | 502 => .badGateway
  | 503 => .serviceUnavailable
  | 504 => .gatewayTimeout
  | _ => .other

def label : FailureKind → String
  | .badRequest => "BadRequest"
  | .unauthorized => "Unauthorized"
  | .paymentRequired => "PaymentRequired"
  | .forbidden => "Forbidden"
  | .notFound => "NotFound"
  | .methodNotAllowed => "MethodNotAllowed"
  | .notAcceptable => "NotAcceptable"
  | .requestTimeout => "RequestTimeout"
  | .conflict => "Conflict"
  | .unsupportedMediaType => "UnsupportedMediaType"
  | .unprocessableEntity => "UnprocessableEntity"
  | .tooManyRequests => "TooManyRequests"
  | .internalServerError => "InternalServerError"
  | .badGateway => "BadGateway"
  | .serviceUnavailable => "ServiceUnavailable"
  | .gatewayTimeout => "GatewayTimeout"
  | .other => "Other"

def message : FailureKind → String
  | .badRequest => "Bad request"
  | .unauthorized => "Unauthorized"
  | .paymentRequired => "Payment required"
  | .forbidden => "Forbidden"
  | .notFound => "Resource not found"
  | .methodNotAllowed => "Method not allowed"
  | .notAcceptable => "Not acceptable"
  | .requestTimeout => "Request timeout"
  | .conflict => "Conflict"
  | .unsupportedMediaType => "Unsupported media type"
  | .unprocessableEntity => "Unprocessable entity"
  | .tooManyRequests => "Too many requests, consider a longer request interval"
  | .internalServerError => "Internal server error"
  | .badGateway => "Bad gateway"
  | .serviceUnavailable => "Service unavailable"
  | .gatewayTimeout => "Gateway timeout"
  | .other => "Unexpected response status"

/-- Whether the failure is expected to pass: rate limiting and temporary unavailability. -/
def isTransient : FailureKind → Bool
  | .tooManyRequests | .serviceUnavailable | .gatewayTimeout => true
  | _ => false

theorem isTransient_ofStatus_iff {s : Status} :
    (ofStatus s).isTransient = true ↔ s.code = 429 ∨ s.code = 503 ∨ s.code = 504 := by
  unfold ofStatus
  split <;> simp_all [isTransient]

end FailureKind

end RestRecords
