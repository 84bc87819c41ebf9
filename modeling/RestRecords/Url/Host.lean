import RestRecords.Url.Domain
import RestRecords.Url.Fault
import RestRecords.Url.Ipv4
import RestRecords.Url.Ipv6
/-!
# Hosts

The host of a URL is an address, a name, or empty. The schemes of the web take domain names, which
are kept in lower case and in ASCII; other schemes take any name.
-/

namespace RestRecords.Url

open Text

inductive Host where
  | empty
  | named (name : String)
  | ipv4 (address : UInt32)
  | ipv6 (address : Ipv6)
  deriving DecidableEq

namespace Host

def text : Host → List Char
  | .empty => []
  | .named name => name.toList
  | .ipv4 address => Ipv4.text address
  | .ipv6 address => '[' :: Ipv6.text address ++ [']']

def readBracketed (cs : List Char) : Except Fault Host :=
  match cs.reverse with
  | ']' :: inner =>
    match Ipv6.read? inner.reverse with
    | some address => .ok (.ipv6 address)
    | none => .error .invalidIpv6
  | _ => .error .invalidIpv6

def readDomain : List Char → Except Fault Host
  | '[' :: cs => readBracketed cs
  | cs =>
    match Domain.ascii? cs with
    | none => .error .invalidDomain
    | some [] => .error .emptyHost
    | some name =>
      if Ipv4.isNumeric name then
        match Ipv4.read? name with
        | some address => .ok (.ipv4 address)
        | none => .error .invalidIpv4
      else .ok (.named (String.ofList name))

def readName : List Char → Except Fault Host
  | '[' :: cs => readBracketed cs
  | [] => .ok .empty
  | cs =>
    if cs.any isForbidden then .error .invalidDomainCharacter
    else .ok (.named (String.ofList (percentEncode encodesControl cs)))

end Host

end RestRecords.Url
