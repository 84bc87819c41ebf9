import RestRecords.Client.Basic
/-!
# Calls

What a client hands over to be sent: the address, the headers and the query of a request, composed
from those of the client, those of the request and the credentials.
-/

namespace RestRecords

open Text

/-- A request as it is sent. The query is not part of the URL. -/
structure Call where
  method : String
  url : Url
  headers : Headers
  query : List (String × String)
  json : Option Json
  timeout : Option Duration
  connectTimeout : Option Duration
  proxy : Option String
  verifyTls : Bool

namespace Client

def joined (base : Url) (uri : String) : String :=
  String.ofList (stripEnd (· == '/') base.chars ++ '/' :: uri.toList.dropWhile (· == '/'))

/-- The URL of an address. A relative one is appended to the base. -/
def resolve (c : Client) (uri : String) : Except Error Url :=
  match Url.read uri with
  | .ok url => .ok url
  | .error .relativeWithoutBase =>
    match c.baseUrl with
    | some base => readUrl (joined base uri)
    | none => .error (.configuration (.missingBase uri))
  | .error fault => .error (.invalidUrl fault)

/-- The headers of credentials, checked. Nothing is sent if one is not well formed. -/
def credentialHeaders : List (String × String) → Headers → Except Error Headers
  | [], headers => .ok headers
  | (name, value) :: rest, headers => do
    let (name, value) ← RequestOptions.checkHeader name value
    credentialHeaders rest (headers.insert name value)

/-- The headers of a call: those of the client, over them those of the request, then those of usable
credentials, then the user agent. -/
def composeHeaders (c : Client) (credentials : Option Credentials) (own : Headers) :
    Except Error Headers := do
  let headers := c.defaultHeaders.overlay own
  let headers ← match credentials.filter Credentials.isUsable with
    | some credentials => (credentialHeaders credentials.headers .empty).map headers.overlay
    | none => .ok headers
  return match c.userAgent with
    | some userAgent => headers.insert "user-agent" userAgent
    | none => headers

/-- The query of a call: the parameters of the client whose keys the request does not use, then
those of the request. -/
def composeQuery (c : Client) (own : List (String × String)) : List (String × String) :=
  c.defaultQuery.filter (fun p => !own.any fun q => q.1 == p.1) ++ own

def compose (c : Client) (credentials : Option Credentials) (method uri : String)
    (options : RequestOptions) : Except Error Call := do
  let url ← c.resolve uri
  let headers ← c.composeHeaders credentials options.headers
  return {
    method, url, headers
    query := c.composeQuery options.query
    json := options.json
    timeout := options.timeout.or c.timeout
    connectTimeout := c.connectTimeout
    proxy := c.proxy
    verifyTls := c.verifyTls }

end Client

end RestRecords
