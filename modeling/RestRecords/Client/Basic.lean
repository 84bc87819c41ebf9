import RestRecords.Client.Credentials
import RestRecords.Client.Pacer
import RestRecords.Client.RequestOptions
import RestRecords.Client.RetryPolicy
import RestRecords.Url.Reader
/-!
# Clients

The settings of a client: where it sends relative requests, what it adds to every request, how it
paces its calls and how it retries. Every setting is checked when it is made.
-/

namespace RestRecords

/-- The settings of a client, and the credentials that it starts with. -/
structure Client where
  baseUrl : Option Url := none
  defaultHeaders : Headers := .empty
  defaultQuery : List (String × String) := []
  userAgent : Option String := none
  timeout : Option Duration := none
  connectTimeout : Option Duration := none
  proxy : Option String := none
  verifyTls : Bool := true
  interval : Duration := Pacer.defaultInterval
  pauses : Bool := false
  policy : RetryPolicy := .default
  retryAfterCap : Option Duration := none
  credentials : Option Credentials := none

namespace Client

def readUrl (text : String) : Except Error Url :=
  (Url.read text).mapError .invalidUrl

def withBaseUrl (c : Client) (url : String) : Except Error Client :=
  (readUrl url).map fun url => { c with baseUrl := some url }

def withDefaultHeader (c : Client) (name value : String) : Except Error Client :=
  (RequestOptions.checkHeader name value).map fun (name, value) =>
    { c with defaultHeaders := c.defaultHeaders.insert name value }

def withDefaultQuery (c : Client) (key value : String) : Client :=
  { c with defaultQuery := c.defaultQuery ++ [(key, value)] }

def withUserAgent (c : Client) (userAgent : String) : Except Error Client :=
  if Headers.isValue userAgent then .ok { c with userAgent := some userAgent }
  else .error (.configuration .userAgent)

def withProxy (c : Client) (proxy : String) : Except Error Client :=
  (readUrl proxy).map fun _ => { c with proxy := some proxy }

def withInterval (c : Client) (interval : Duration) : Traced Client := do
  return { c with interval := ← Pacer.checkInterval interval }

def withRetryBudget (c : Client) (calls : Nat) : Traced Client := do
  return { c with policy := ← c.policy.withBudget calls }

def withRetryDelay (c : Client) (delay : Duration) : Traced Client := do
  return { c with policy := ← c.policy.withBase delay }

end Client

end RestRecords
