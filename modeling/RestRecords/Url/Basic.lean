import RestRecords.Text.Numeral
import RestRecords.Url.Host
import RestRecords.Url.Route
/-!
# URLs

The parts of a URL and its written form.
-/

namespace RestRecords

open Text

namespace Url

/-- Who serves a URL: a host, at a port if it is not the usual one, for a user with a password. -/
structure Authority where
  user : String
  password : String
  host : Host
  port : Option Nat
  deriving DecidableEq

namespace Authority

def none : Authority := ⟨"", "", .empty, .none⟩

def text (a : Authority) : List Char :=
  let password := if a.password.isEmpty then [] else ':' :: a.password.toList
  let userinfo :=
    if a.user.isEmpty && a.password.isEmpty then [] else a.user.toList ++ password ++ ['@']
  let port := match a.port with
    | some n => ':' :: natDigits n
    | .none => []
  userinfo ++ a.host.text ++ port

end Authority

end Url

structure Url where
  scheme : String
  authority : Option Url.Authority
  route : Url.Route
  query : Option String
  fragment : Option String
  deriving DecidableEq

namespace Url

/-- The schemes whose URLs have an authority and take a backslash for a slash. -/
def isSpecial (scheme : String) : Bool :=
  ["http", "https", "ws", "wss", "ftp", "file"].contains scheme

def defaultPort? : String → Option Nat
  | "http" | "ws" => some 80
  | "https" | "wss" => some 443
  | "ftp" => some 21
  | _ => none

/-- The authority and the path. Without an authority a path does not begin with two slashes. -/
def placeText (u : Url) : List Char :=
  match u.authority, u.route with
  | some authority, route => '/' :: '/' :: authority.text ++ route.text
  | none, .segments ("" :: second :: rest) =>
    '/' :: '.' :: (Route.segments ("" :: second :: rest)).text
  | none, route => route.text

def chars (u : Url) : List Char :=
  let query := match u.query with
    | some query => '?' :: query.toList
    | none => []
  let fragment := match u.fragment with
    | some fragment => '#' :: fragment.toList
    | none => []
  u.scheme.toList ++ ':' :: u.placeText ++ query ++ fragment

def text (u : Url) : String :=
  String.ofList u.chars

def hasHost (u : Url) : Bool :=
  u.authority.any fun a => a.host != .empty

end Url

end RestRecords
