import RestRecords.Error
/-!
# Options of a request

The headers, query parameters and body of one request, and a time limit of its own.
-/

namespace RestRecords

/-- The parts of a request that its caller gives besides method and address. -/
structure RequestOptions where
  headers : Headers := .empty
  query : List (String × String) := []
  json : Option Json := none
  timeout : Option Duration := none

namespace RequestOptions

/-- A header's name in lower case and its value, both checked. -/
def checkHeader (name value : String) : Except Error (String × String) :=
  match Headers.name? name with
  | none => .error (.configuration .headerName)
  | some name =>
    if Headers.isValue value then .ok (name, value) else .error (.configuration .headerValue)

def withHeader (o : RequestOptions) (name value : String) : Except Error RequestOptions :=
  (checkHeader name value).map fun (name, value) =>
    { o with headers := o.headers.append name value }

def withQuery (o : RequestOptions) (key value : String) : RequestOptions :=
  { o with query := o.query ++ [(key, value)] }

def withQueries (o : RequestOptions) (parameters : List (String × String)) : RequestOptions :=
  { o with query := o.query ++ parameters }

def withJson (o : RequestOptions) (body : Json) : RequestOptions :=
  { o with json := some body }

def withTimeout (o : RequestOptions) (timeout : Duration) : RequestOptions :=
  { o with timeout := some timeout }

end RequestOptions

end RestRecords
