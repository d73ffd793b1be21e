/-
  Fleet/Url/Host.lean
  ===================
  **Hosts, and what can be wrong with a URL.**

  A host in brackets is an address of version 6.  Any other one is decoded, and mapped to a
  domain name; if its last label is a number it must be an address of version 4.  The mapping
  keeps spaces and controls, and no domain name has one, so a text that holds one is not mapped.
-/
import Fleet.Url.Address
import Fleet.Url.Domain
import Fleet.Url.Percent

namespace Fleet.Url

inductive Fault where
  | emptyHost | badDomain | badPort | badIpv4 | badIpv6 | badCharacter | noScheme
deriving DecidableEq, Repr

def Fault.message : Fault → String
  | .emptyHost => "empty host"
  | .badDomain => "invalid international domain name"
  | .badPort => "invalid port number"
  | .badIpv4 => "invalid IPv4 address"
  | .badIpv6 => "invalid IPv6 address"
  | .badCharacter => "invalid domain character"
  | .noScheme => "relative URL without a base"

inductive Host where
  | domain (name : List Char)
  | ipv4 (address : Nat)
  | ipv6 (groups : List Nat)
deriving DecidableEq, Repr

namespace Host

def render : Host → List Char
  | domain name => name
  | ipv4 a => Ipv4.render a
  | ipv6 gs => '[' :: (Ipv6.render gs ++ [']'])

def decodeText (bs : List UInt8) : Option (List Char) :=
  (String.fromUTF8? ⟨bs.toArray⟩).map String.toList

/-- The address between the brackets of a text that begins with one. -/
def bracketed (cs : List Char) : Except Fault Host :=
  if cs.getLast? = some ']' then
    match Ipv6.parse? (cs.drop 1).dropLast with
    | some gs => .ok (ipv6 gs)
    | none => .error .badIpv6
  else .error .badIpv6

/-- The host that a domain name stands for. -/
def ofDomain (name : List Char) : Except Fault Host :=
  if name.isEmpty then .error .emptyHost
  else if Ipv4.isMeant name then
    match Ipv4.parse? name with
    | some a => .ok (ipv4 a)
    | none => .error .badIpv4
  else .ok (domain name)

/-- The host of a web URL that a text stands for. -/
def parse (cs : List Char) : Except Fault Host :=
  if cs.head? = some '[' then bracketed cs
  else if cs.any (·.toNat ≤ 32) then .error .badDomain
  else
    match (decodeText (Percent.decode cs)).bind Domain.ofText? with
    | some name => ofDomain name
    | none => .error .badDomain

/-- The characters that no host holds, whatever the scheme. -/
def isForbidden (c : Char) : Bool :=
  "\x00\t\n\r #/:<>?@[\\]^|".toList.contains c

/-- Checks a host of a scheme other than the special ones, which stays as it is. -/
def checkPlain (cs : List Char) : Except Fault Unit :=
  if cs.head? = some '[' then (bracketed cs).map fun _ => ()
  else if cs.any isForbidden then .error .badCharacter
  else .ok ()

end Host

end Fleet.Url
