import RestRecords.Proofs.Client.Layers
import RestRecords.Proofs.Url.Origins
/-!
# Relative addresses

A relative address is appended to the base URL of a client and read as a part of the whole text.
Whatever it has in it, dots, slashes, at signs or blanks, it does not lead to another host than that
of the base.
-/

namespace RestRecords

open Text

/-- Whether a URL leads where another one does: by the same scheme, to the same host and port, and
for the same user with the same password. -/
structure Url.StaysAt (base u : Url) : Prop where
  scheme : u.scheme = base.scheme
  authority : u.authority = base.authority
  isSome : u.authority.isSome

namespace Client

variable {c : Client} {env : Environment} {method uri : String} {options : RequestOptions}
  {base : Url}

/-- What is read of a base and a relative address stays at the base. -/
theorem staysAt_of_joined {text : String} {u : Url} (hgiven : Url.read text = .ok base)
    (hweb : Url.IsWeb base.scheme) (h : Url.read (joined base uri) = .ok u) : base.StaysAt u := by
  obtain ⟨a, ha⟩ := Url.exists_isServed_of_read hweb hgiven
  obtain ⟨tail, hne, htail, hjoined⟩ := ha.exists_joined_eq (uri.toList.dropWhile (· == '/'))
  rw [joined, hjoined] at h
  obtain ⟨hscheme, hauthority⟩ := Url.eq_of_read hweb ha.isServed hne htail h
  exact ⟨hscheme, by rw [hauthority, ha.authority], by rw [hauthority]; rfl⟩

theorem resolve_of_relative {u : Url} (hbase : c.baseUrl = some base)
    (hrelative : Url.read uri = .error .relativeWithoutBase) (h : c.resolve uri = .ok u) :
    Url.read (joined base uri) = .ok u := by
  rw [resolve, hrelative, hbase] at h
  dsimp only [readUrl] at h
  cases hread : Url.read (joined base uri) with
  | error fault =>
    rw [hread] at h
    cases h
  | ok u' =>
    rw [hread] at h
    cases h
    rfl

theorem resolve_of_composeShown {shown : Option Showing} {call : Call}
    (h : c.composeShown shown method uri options = .ok call) : c.resolve uri = .ok call.url := by
  obtain ⟨bare, hbare, h⟩ := Url.exists_of_bind_eq_ok h
  obtain ⟨headers, -, h⟩ := Url.exists_of_bind_eq_ok h
  cases h
  obtain ⟨url, hurl, hbare⟩ := Url.exists_of_bind_eq_ok hbare
  obtain ⟨headers, -, hbare⟩ := Url.exists_of_bind_eq_ok hbare
  cases hbare
  exact hurl

theorem resolve_of_call {shown : Nat → Option Showing} {s : Session} {t : SentCall}
    (h : t ∈ (c.executeShown env shown method uri options s).calls) :
    c.resolve uri = .ok t.call.url := by
  obtain ⟨i, hi⟩ := List.mem_iff_getElem?.1 h
  exact resolve_of_composeShown ((c.tried env shown method uri options s.now _ 1 s).composed hi)

end Client

/-- A relative address does not leave the origin of a base URL of the web. It leads to the scheme,
the host and the port of the base, for its user and its password, if it can be resolved at all, and
so does every call of a request for it, whatever the credentials show. -/
theorem relative_staysAt_base {b b' c : Client} {text uri : String} {base : Url}
    (hgiven : b.withBaseUrl text = .ok b') (hkept : c.baseUrl = b'.baseUrl)
    (hbase : c.baseUrl = some base) (hweb : base.scheme = "http" ∨ base.scheme = "https")
    (hrelative : Url.read uri = .error .relativeWithoutBase) :
    (∀ u, c.resolve uri = .ok u → base.StaysAt u) ∧
    ∀ (env : Environment) (method : String) (options : RequestOptions) (s : Session),
      (∀ t ∈ (c.execute env method uri options s).calls, base.StaysAt t.call.url) ∧
      (∀ t ∈ (c.dispatch env method uri options s).calls, base.StaysAt t.call.url) ∧
      ∀ shown, ∀ t ∈ (c.executeShown env shown method uri options s).calls,
        base.StaysAt t.call.url := by
  have hread : Url.read text = .ok base := by
    obtain ⟨u, hu, rfl⟩ := Url.exists_of_map_eq_ok hgiven
    rw [hkept] at hbase
    cases hbase
    cases hread : Url.read text with
    | error fault =>
      rw [Client.readUrl, hread] at hu
      cases hu
    | ok u' =>
      rw [Client.readUrl, hread] at hu
      cases hu
      rfl
  have hstays : ∀ u, c.resolve uri = .ok u → base.StaysAt u := fun u hu =>
    Client.staysAt_of_joined hread hweb (Client.resolve_of_relative hbase hrelative hu)
  refine ⟨hstays, fun env method options s =>
    ⟨fun t ht => ?_, fun t ht => ?_, fun shown t ht => ?_⟩⟩
  · rw [Client.execute_eq_shown] at ht
    exact hstays _ (Client.resolve_of_call ht)
  · rw [Client.dispatch_eq_shown] at ht
    exact hstays _ (Client.resolve_of_composeShown (Client.composeShown_of_mem ht))
  · exact hstays _ (Client.resolve_of_call ht)

namespace Sample

def loopback : Url where
  scheme := "https"
  authority := some ⟨"u", "p", .ipv6 ⟨[0, 0, 0, 0, 0, 0, 0, 1], rfl⟩, some 8443⟩
  route := .segments ["v1", ""]
  query := none
  fragment := none

def nearby : Client where
  baseUrl := some loopback
  policy := ⟨2, .ofSeconds 1, true⟩

/-- A relative address that looks like one of another host. -/
def astray : String := "//u@evil.test:1/..\\..\t/../@[::2]#x"

end Sample

open Sample in
/-- The address is sent to the base twice. -/
theorem relative_staysAt_base_loopback :
    Url.read astray = .error .relativeWithoutBase ∧
    (nearby.execute (busyOnce .empty) "GET" astray {} idle).calls.map (·.call.url.text) =
      ["https://u:p@[::1]:8443/@[::2]#x", "https://u:p@[::1]:8443/@[::2]#x"] ∧
    (∀ u, nearby.resolve astray = .ok u → loopback.StaysAt u) ∧
    ∀ t ∈ (nearby.execute (busyOnce .empty) "GET" astray {} idle).calls,
      loopback.StaysAt t.call.url := by
  have hread : Url.read "https://u:p@[0:0::1]:08443/./v1/" = .ok loopback := by decide +kernel
  have hgiven : ({} : Client).withBaseUrl "https://u:p@[0:0::1]:08443/./v1/" =
      .ok { baseUrl := some loopback } := by
    rw [Client.withBaseUrl, Client.readUrl, hread]
    rfl
  have hrelative : Url.read astray = .error .relativeWithoutBase := by decide +kernel
  have hkept : nearby.baseUrl = ({ baseUrl := some loopback } : Client).baseUrl := rfl
  obtain ⟨hstays, hcalls⟩ := relative_staysAt_base hgiven hkept rfl (.inr rfl) hrelative
  exact ⟨hrelative, by decide +kernel, hstays, (hcalls (busyOnce .empty) "GET" {} idle).1⟩

end RestRecords
