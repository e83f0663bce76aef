import Turnstile.Http.Header

namespace Turnstile.Server.RequestId

open Turnstile.Http

def headerName : HeaderName := HeaderName.known "x-request-id"

def read (headers : Headers) : String := ((headers.first? headerName).bind valueText?).getD "unknown"

def assign (fresh : Bytes) (headers : Headers) : Headers := headers.putIfAbsent headerName fresh

theorem all_assign (fresh : Bytes) (headers : Headers) (name : HeaderName) :
    (assign fresh headers).all name =
      if name = headerName ∧ headers.all headerName = [] then [fresh] else headers.all name :=
  headers.all_putIfAbsent headerName name fresh

theorem first?_assign (fresh : Bytes) (headers : Headers) :
    (assign fresh headers).first? headerName = some ((headers.first? headerName).getD fresh) := by
  simp only [Headers.first?_eq_head?_all, all_assign]
  cases headers.all headerName <;> simp

/-- Gives the identifier of a request to its answer, unless the answer has one. -/
def propagate (request answer : Headers) : Headers :=
  match request.first? headerName with
  | some id => answer.putIfAbsent headerName id
  | none => answer

end Turnstile.Server.RequestId
