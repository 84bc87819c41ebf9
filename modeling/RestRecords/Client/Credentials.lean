import RestRecords.Http.Headers
import RestRecords.Text.Base64
import RestRecords.Text.Quoted
/-!
# Credentials

What a client proves its identity with, and the headers that carry it. The description of
credentials shows no secret.
-/

namespace RestRecords

open Text

/-- A key in a header of its own, a token with further headers, or a user and a password. -/
inductive Credentials where
  | apiKey (key header : String)
  | bearer (token : String) (extra : List (String × String))
  | basic (user password : String)
  deriving DecidableEq, Repr

namespace Credentials

def defaultKeyHeader : String := "X-API-Key"

def ofKey (key : String) : Credentials :=
  .apiKey key defaultKeyHeader

def withHeader (name value : String) : Credentials → Credentials
  | .bearer token extra =>
    .bearer token (extra.filter (fun e => !Headers.sameName e.1 name) ++ [(name, value)])
  | c => c

def withoutHeader (name : String) : Credentials → Credentials
  | .bearer token extra => .bearer token (extra.filter fun e => !Headers.sameName e.1 name)
  | c => c

/-- The headers, in order; of two with one name the later counts. -/
def headers : Credentials → List (String × String)
  | .apiKey key header => [(header, key)]
  | .bearer token extra => ("Authorization", "Bearer " ++ token) :: extra
  | .basic user password => [("Authorization", "Basic " ++ base64Text (user ++ ":" ++ password))]

def scheme : Credentials → String
  | .apiKey .. => "ApiKey"
  | .bearer .. => "Bearer"
  | .basic .. => "Basic"

/-- Whether the credentials can be used: a password may be empty, nothing else may. -/
def isUsable : Credentials → Bool
  | .apiKey key _ => !key.isEmpty
  | .bearer token _ => !token.isEmpty
  | .basic user _ => !user.isEmpty

private def describeRecord (name : String) (parts : List (String × String)) : String :=
  name ++ " \x7b " ++ ", ".intercalate (parts.map fun p => p.1 ++ ": " ++ p.2) ++ " \x7d"

private def hidden : String := quoted "***"

def describe : Credentials → String
  | .apiKey _ header =>
    describeRecord "ApiKeyAuth" [("header_name", quoted header), ("key", hidden)]
  | .bearer _ extra =>
    let pairs := extra.map fun e => "(" ++ quoted e.1 ++ ", " ++ quoted e.2 ++ ")"
    describeRecord "BearerAuth"
      [("token", hidden), ("additional_headers", "[" ++ ", ".intercalate pairs ++ "]")]
  | .basic user _ =>
    describeRecord "BasicAuth" [("username", quoted user), ("password", hidden)]

end Credentials

end RestRecords
