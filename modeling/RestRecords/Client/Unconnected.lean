import RestRecords.Client.Session
/-!
# Calls without a connection

What becomes of a call where there is no network: the proxy is looked at first, and everything else
fails for want of a connection.
-/

namespace RestRecords

namespace Call

/-- Whether a text names the host of a proxy, perhaps without a scheme. -/
def namesHost (proxy : String) : Bool :=
  [proxy, "http://" ++ proxy].any fun text =>
    match Url.read text with
    | .ok url => url.hasHost
    | .error _ => false

def unconnectedFault (call : Call) : Error :=
  match call.proxy with
  | some proxy => if namesHost proxy then .network else .configuration (.invalidProxy proxy)
  | none => .network

end Call

def Environment.unconnected (date : Duration) : Environment where
  date := date
  send _ call := ⟨.zero, .error call.unconnectedFault⟩

end RestRecords
