import Turnstile.Credential
import Turnstile.Http.Header

namespace Turnstile

structure Gate where
  header : Http.HeaderName
  credential : Credential
  deriving DecidableEq, Repr

namespace Gate

def authorizes (g : Gate) (headers : Http.Headers) : Bool := g.credential.verify (headers.first? g.header)

/-- The fields of a request that passes, without the credential. -/
def pass? (g : Gate) (headers : Http.Headers) : Option Http.Headers :=
  if g.authorizes headers then some (headers.remove g.header) else none

theorem pass?_eq_some_iff (g : Gate) (h k : Http.Headers) :
    g.pass? h = some k ↔ g.authorizes h = true ∧ k = h.remove g.header := by
  by_cases ha : g.authorizes h <;> simp [pass?, ha, eq_comm]

end Gate

end Turnstile
