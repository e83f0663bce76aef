import Turnstile.Host.Domain
import Turnstile.Host.Ip
import Turnstile.Url.Percent

namespace Turnstile.Url

inductive Problem where
  | emptyHost
  | domain
  | port
  | ipv4
  | ipv6
  | relative
  | hostCharacter
  deriving DecidableEq, Repr

def Problem.message : Problem → String
  | emptyHost => "empty host"
  | domain => "invalid international domain name"
  | port => "invalid port number"
  | ipv4 => "invalid IPv4 address"
  | ipv6 => "invalid IPv6 address"
  | relative => "relative URL without a base"
  | hostCharacter => "invalid domain character"

inductive Host where
  | domain (name : Bytes)
  | v4 (address : Nat)
  | v6 (groups : List Nat)
  deriving DecidableEq, Repr

namespace Host

open Turnstile.Host

def text : Host → Bytes
  | domain name => name
  | v4 n => Ip.v4Text n
  | v6 groups => 0x5B :: Ip.v6Text groups ++ [0x5D]

/-- An address between brackets, if the text begins with one. -/
def bracketed? (cs : List Char) : Option (Except Problem Host) :=
  match cs with
  | '[' :: rest =>
    some <|
      match rest.getLast? with
      | some ']' =>
        match Ip.v6? (Bytes.ofChars rest.dropLast) with
        | some groups => .ok (v6 groups)
        | none => .error .ipv6
      | _ => .error .ipv6
  | _ => none

/-- A host of the common schemes: escapes are undone, the name is spelled in ASCII, and a name whose last label is a
number has to be an address. -/
def parse (cs : List Char) : Except Problem Host :=
  match bracketed? cs with
  | some answer => answer
  | none =>
    match (Bytes.toChars? (Percent.decode (Bytes.ofChars cs))).bind fun cs => Domain.toAscii? (cs.map Char.toNat) with
    | none => .error .domain
    | some name =>
      if name.isEmpty then .error .emptyHost
      else if Ip.endsInNumber name then
        match Ip.v4? name with
        | some n => .ok (v4 n)
        | none => .error .ipv4
      else .ok (domain name)

def isForbidden (c : Char) : Bool := c.toNat = 0 || "\t\n\r #/:<>?@[\\]^|".toList.contains c

def parseOpaque (cs : List Char) : Except Problem Host :=
  match bracketed? cs with
  | some answer => answer
  | none =>
    if cs.any isForbidden then .error .hostCharacter else .ok (domain (Percent.encode Percent.isControl cs))

end Host

end Turnstile.Url
