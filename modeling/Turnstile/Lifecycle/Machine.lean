import Turnstile.Address.Socket

namespace Turnstile.Lifecycle

open Address

structure Machine where
  /-- Whether the process may listen on the ports below 1024. -/
  privileged : Bool
  /-- Whether an address belongs to the machine. -/
  owns : Socket → Bool
  connects : Bool

inductive BindProblem where
  | permission
  | foreign
  | inUse
  deriving DecidableEq, Repr

def BindProblem.message : BindProblem → String
  | permission => "Permission denied (os error 13)"
  | foreign => "Cannot assign requested address (os error 99)"
  | inUse => "Address already in use (os error 98)"

namespace Machine

def isWildcard : Socket → Bool
  | .v4 octets _ => octets.all (· = 0)
  | .v6 groups _ _ => groups.all (· = 0)

def sameHost : Socket → Socket → Bool
  | .v4 a _, .v4 b _ => a = b
  | .v6 a s _, .v6 b t _ => a = b && s = t
  | _, _ => false

/-- Two listeners collide on one port unless their addresses differ; a wildcard is every address. Port 0 stands for any
free one. -/
def collides (a b : Socket) : Bool :=
  a.port != 0 && a.port = b.port && (isWildcard a || isWildcard b || sameHost a b)

def isReserved (port : Nat) : Bool := 0 < port && port < 1024

def bind (m : Machine) (taken : List Socket) (a : Socket) : Except BindProblem (List Socket) :=
  if isReserved a.port && !m.privileged then .error .permission
  else if !m.owns a then .error .foreign
  else if taken.any (collides a) then .error .inUse
  else .ok (taken ++ [a])

def isMapped : List Nat → Bool
  | [0, 0, 0, 0, 0, 0xFFFF, _, _] => true
  | _ => false

/-- An unprivileged process without a single network interface up: nobody can be reached. Every IPv4 address counts as the
machine's own; of IPv6 only the wildcard and the mapped IPv4 addresses do. -/
def isolated : Machine where
  privileged := false
  owns
    | .v4 _ _ => true
    | .v6 groups _ _ => groups.all (· = 0) || isMapped groups
  connects := false

end Machine

end Turnstile.Lifecycle
