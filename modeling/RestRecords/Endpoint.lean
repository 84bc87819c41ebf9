import RestRecords.Client.Execution
import RestRecords.Contact
/-!
# Endpoints

One resource of an API under a client. Every verb expects one status, and an answer with any other
is a failure. Answers are taken as they are or bound to a declaration.
-/

namespace RestRecords

open Text

/-- What an endpoint answers: a body, or the message that there is none. -/
inductive Content where
  | body (text : String)
  | none
  deriving DecidableEq, Repr

namespace Content

def text : Content → String
  | .body text => text
  | .none => "success"

def isNone : Content → Bool
  | .body _ => false
  | .none => true

/-- The body as JSON; a blank one is null. -/
def json : Content → Except Error Json
  | .body text =>
    if (trim text.toList).isEmpty then .ok .null
    else
      match Json.read? text with
      | some value => .ok value
      | .none => .error .json
  | .none => .ok .null

end Content

/-- The parts of an endpoint request: a path below the endpoint, the options, and the status that is
expected instead of the usual one. -/
structure EndpointRequest where
  suffix : Option String := none
  options : RequestOptions := {}
  expected : Option Status := none

inductive Verb where
  | fetch
  | create
  | update
  | patch
  | remove
  deriving DecidableEq, Repr

namespace Verb

def method : Verb → String
  | .fetch => "GET"
  | .create => "POST"
  | .update => "PUT"
  | .patch => "PATCH"
  | .remove => "DELETE"

def expected : Verb → Status
  | .fetch | .update | .patch => .ok
  | .create => .created
  | .remove => .noContent

end Verb

structure Endpoint where
  leading : String := ""
  name : String
  deriving DecidableEq, Repr

namespace Endpoint

private def isSlash (c : Char) : Bool :=
  c == '/'

/-- The address of an endpoint, or of a path below it. Empty parts are left out. -/
def uri (e : Endpoint) (suffix : Option String) : Except Error String :=
  let name := strip isSlash e.name.toList
  let leading := stripEnd isSlash e.leading.toList
  let below := (suffix.getD "").toList.dropWhile isSlash
  if name.isEmpty then .error (.configuration .endpointName)
  else
    let parts := [leading, name, below].filter (!·.isEmpty)
    .ok (String.ofList (['/'].intercalate parts))

def ask (e : Endpoint) (c : Client) (env : Environment) (verb : Verb) (request : EndpointRequest)
    (s : Session) : Run Content :=
  match e.uri request.suffix with
  | .error fault => .ofTraced s (.fail fault)
  | .ok uri =>
    let expected := request.expected.getD verb.expected
    (c.execute env verb.method uri request.options s).andThen fun response =>
      if response.status ≠ expected then
        .fail (.unexpectedStatus expected response.status response.body)
      else
        ⟨.ok (if response.status = .noContent then .none else .body response.body),
          [.endpointAnswered verb.method uri response.status]⟩

def fetchBound {α : Type} (e : Endpoint) (c : Client) (env : Environment) (bind : Json → Traced α)
    (request : EndpointRequest) (s : Session) : Run α :=
  (e.ask c env .fetch request s).andThen fun content =>
    match content.json with
    | .ok raw => bind raw
    | .error fault => .fail fault

def fetchRecord (e : Endpoint) (c : Client) (env : Environment) (Δ : Catalog) (ref : EntityRef) :
    EndpointRequest → Session → Run Record :=
  e.fetchBound c env (Record.ofJson Δ ref)

def fetchCollection (e : Endpoint) (c : Client) (env : Environment) (Δ : Catalog)
    (ref : CollectionRef) : EndpointRequest → Session → Run Collection :=
  e.fetchBound c env (Collection.ofJson Δ ref)

def fetchAddress (e : Endpoint) (c : Client) (env : Environment) (Δ : Catalog) :
    EndpointRequest → Session → Run Address :=
  e.fetchBound c env (Address.ofJson Δ)

def list (e : Endpoint) (c : Client) (env : Environment) (Δ : Catalog) (ref : CollectionRef)
    (s : Session) : Run Collection :=
  e.fetchCollection c env Δ ref {} s

def search (e : Endpoint) (c : Client) (env : Environment) (Δ : Catalog) (ref : CollectionRef)
    (query : List (String × String)) (s : Session) : Run Collection :=
  e.fetchCollection c env Δ ref { options := ({} : RequestOptions).withQueries query } s

def sendRecord (e : Endpoint) (c : Client) (env : Environment) (Δ : Catalog) (verb : Verb)
    (r : Record) (request : EndpointRequest) (s : Session) : Run Content :=
  e.ask c env verb { request with options := request.options.withJson (r.toJson Δ) } s

end Endpoint

end RestRecords
