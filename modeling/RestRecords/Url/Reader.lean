import RestRecords.Text.Blank
import RestRecords.Url.Basic
/-!
# Reading URLs

A text is read from its scheme on: the scheme decides how many slashes lead to the authority and
what a backslash means. A text without a scheme is relative, which is a fault here because there is
nothing for it to be relative to.
-/

namespace RestRecords.Url

open Text

/-- Whether a character is dropped from the ends of a text: a control character or a blank. -/
def isOuterBlank (c : Char) : Bool :=
  c.toNat ≤ 0x20

def isIgnored (c : Char) : Bool :=
  c == '\t' || c == '\n' || c == '\r'

def isSchemeChar (c : Char) : Bool :=
  c.isAlphanum || c == '+' || c == '-' || c == '.'

def readScheme? (cs : List Char) : Option (String × List Char) :=
  match cs.takeWhile isSchemeChar, cs.dropWhile isSchemeChar with
  | first :: name, ':' :: rest =>
    if first.isAlpha then some (String.ofList ((first :: name).map Char.toLower), rest) else none
  | _, _ => none

/-- The texts of a host and of a port. A colon within brackets does not separate them. -/
def splitPort (bracketed : Bool) : List Char → List Char × Option (List Char)
  | [] => ([], none)
  | c :: cs =>
    if c == ':' && !bracketed then ([], some cs)
    else
      let (host, port) := splitPort (c == '[' || (bracketed && c != ']')) cs
      (c :: host, port)

/-- The port that a text begins with, and the text behind it. The usual port of the scheme and no
digits count as none given. Only a backslash, which begins the path, may follow the digits. -/
def readPort (scheme : String) (cs : List Char) : Except Fault (Option Nat × List Char) :=
  let (digits, rest) := spanDigits cs
  let n := digitsValue digits
  if 65535 < n then .error .invalidPort
  else if !rest.isEmpty && rest.head? != some '\\' then .error .invalidPort
  else .ok (if digits.isEmpty || defaultPort? scheme == some n then none else some n, rest)

/-- The host and the port, and the text behind them. A host may be empty only for other schemes, and
if no port is given. -/
def readHostAndPort (scheme : String) (cs : List Char) :
    Except Fault (Host × Option Nat × List Char) := do
  let (hostText, portText) := splitPort false cs
  if hostText.isEmpty && (isSpecial scheme || portText.isSome) then
    .error .emptyHost
  let host ← if isSpecial scheme then Host.readDomain hostText else Host.readName hostText
  return (host, ← readPort scheme (portText.getD []))

/-- The authority and the text behind its port. The last at sign ends the user and the password; the
host behind them may be empty only if there is neither, and if something comes behind the authority
there must be a text before the at sign. -/
def readAuthority (scheme : String) (isLast : Bool) (cs : List Char) :
    Except Fault (Authority × List Char) := do
  let encoded := fun part => String.ofList (percentEncode encodesUserinfo part)
  let (userinfo, rest) := match splitLast? '@' cs with
    | none => ([], cs)
    | some (userinfo, rest) => (userinfo, rest)
  if cs == ['@'] && !isLast then .error .emptyHost
  let (user, password) := splitFirst ':' userinfo
  let password := password.getD []
  let (host, port, rest) ← readHostAndPort scheme rest
  if host == .empty && !(user.isEmpty && password.isEmpty) then .error .emptyHost
  return (⟨encoded user, encoded password, host, port⟩, rest)

def isSlash (scheme : String) (c : Char) : Bool :=
  c == '/' || (c == '\\' && isSpecial scheme)

/-- The path after an authority, and whether a drive was found at its start. Special schemes have at
least an empty segment. -/
def readRoute (scheme : String) (cs : List Char) : Route × Bool :=
  match cs with
  | [] => (if isSpecial scheme then .segments [""] else .segments [], false)
  | c :: rest =>
    Route.ofText (isSlash scheme) (scheme == "file") (if isSlash scheme c then rest else cs)

private def readFileHost (cs : List Char) : Except Fault Host :=
  if cs.isEmpty then .ok .empty
  else (Host.readDomain cs).map fun host => if host == .named "localhost" then .empty else host

/-- The authority and the path of a file. A drive is no host, and at the start of a path it leaves
no host. Behind an empty host the path begins with another slash, which keeps a drive from being
found. -/
private def readFilePlace (cs : List Char) : Except Fault (Option Authority × Route) :=
  let slash := isSlash "file"
  let route := fun cs => (Route.ofText slash true cs).1
  match cs with
  | a :: b :: rest =>
    if slash a && slash b then
      let hostText := rest.takeWhile (!slash ·)
      if Route.isDrive hostText then .ok (some .none, route rest)
      else
        (readFileHost hostText).map fun host =>
          let path := rest.dropWhile (!slash ·)
          if host == .empty then (some .none, route path)
          else
            let (route, atDrive) := readRoute "file" path
            (some ⟨"", "", if atDrive then .empty else host, none⟩, route)
    else .ok (some .none, route (if slash a then b :: rest else cs))
  | [a] => .ok (some .none, route (if slash a then [] else [a]))
  | [] => .ok (some .none, route [])

def readServedPlace (scheme : String) (isLast : Bool) (cs : List Char) :
    Except Fault (Option Authority × Route) :=
  let path := cs.dropWhile (!isSlash scheme ·)
  (readAuthority scheme (isLast && path.isEmpty) (cs.takeWhile (!isSlash scheme ·))).map
    fun (authority, rest) => (some authority, (readRoute scheme (rest ++ path)).1)

/-- The authority and the path. Two slashes lead to the authority, and for special schemes any
number of them. The text may be the last part of a URL. -/
def readPlace (scheme : String) (isLast : Bool) (cs : List Char) :
    Except Fault (Option Authority × Route) :=
  if scheme == "file" then readFilePlace cs
  else if isSpecial scheme then readServedPlace scheme isLast (cs.dropWhile (isSlash scheme))
  else
    match cs with
    | '/' :: '/' :: rest => readServedPlace scheme isLast rest
    | '/' :: rest => .ok (none, (Route.ofText (isSlash scheme) false rest).1)
    | _ => .ok (none, .undivided (String.ofList (percentEncode encodesControl cs)))

def readPlain (cs : List Char) : Except Fault Url :=
  match readScheme? cs with
  | none => .error .relativeWithoutBase
  | some (scheme, rest) =>
    let (beforeFragment, fragment) := splitFirst '#' rest
    let (place, query) := splitFirst '?' beforeFragment
    let encodesInQuery := if isSpecial scheme then encodesSpecialQuery else encodesQuery
    let isLast := query.isNone && fragment.isNone
    (readPlace scheme isLast place).map fun (authority, route) =>
      { scheme, authority, route
        query := query.map fun cs => String.ofList (percentEncode encodesInQuery cs)
        fragment := fragment.map fun cs => String.ofList (percentEncode encodesFragment cs) }

def read (s : String) : Except Fault Url :=
  readPlain ((strip isOuterBlank s.toList).filter (!isIgnored ·))

end RestRecords.Url
