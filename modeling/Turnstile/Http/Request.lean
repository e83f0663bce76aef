import Turnstile.Http.Method
import Turnstile.Http.Uri

namespace Turnstile.Http

def isBlank (b : UInt8) : Bool := b = 0x20 || b = 0x09

/-- A text without the blanks and tabs at its ends. -/
def trimmed (s : Bytes) : Bytes := Bytes.dropEnd isBlank (s.dropWhile isBlank)

def Headers.arriving (h : Headers) : Headers := h.map fun f => (f.1, trimmed f.2)

structure Request where
  method : Method := .get
  target : Uri
  headers : Headers := []
  body : Bytes := []
  deriving DecidableEq, Repr

def Request.read? (method target : Bytes) (fields : List (Bytes × Bytes)) (body : Bytes) : Option Request := do
  let method ← Method.parse? method
  let target ← (Uri.parse target).toOption
  let headers ← (Headers.parse fields).toOption
  some ⟨method, target, headers.arriving, body⟩

end Turnstile.Http
