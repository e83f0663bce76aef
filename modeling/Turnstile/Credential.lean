import Turnstile.Digest.Sha256

namespace Turnstile

structure Credential where
  expected : Option Bytes
  deriving DecidableEq, Repr

namespace Credential

open Digest

def ofSecret (secret : Option String) : Credential :=
  ⟨(secret.filter (fun s => !s.isEmpty)).map fun s => Sha256.digest (Bytes.ofString s)⟩

def isConfigured (c : Credential) : Bool := c.expected.isSome

def placeholder : Bytes := List.replicate 32 0

def verify (c : Credential) (presented : Option Bytes) : Bool :=
  let agrees := Sha256.digest (presented.getD []) == c.expected.getD placeholder
  agrees && c.expected.isSome && presented.isSome

/-- A description that says no more than whether there is a secret. -/
def describe (c : Credential) : String :=
  "Credential \x7b configured: " ++ (if c.isConfigured then "true" else "false") ++ " \x7d"

end Credential

end Turnstile
