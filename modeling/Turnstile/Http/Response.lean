import Turnstile.Http.Header

namespace Turnstile.Http

structure Response where
  status : Nat
  headers : Headers := []
  body : Bytes := []
  deriving DecidableEq, Repr

def isStatus (n : Nat) : Bool := 100 ≤ n && n ≤ 999

namespace Response

def plain (status : Nat) (line : String) : Response :=
  ⟨status, [(HeaderName.known "content-type", Bytes.ofString "text/plain; charset=utf-8")], Bytes.ofString line⟩

def bare (status : Nat) : Response := ⟨status, [], []⟩

end Response

end Turnstile.Http
