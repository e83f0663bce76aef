import Turnstile.Http.Method
import Turnstile.Http.Response

namespace Turnstile.Server

open Http

def contentLength : HeaderName := HeaderName.known "content-length"

def isBodiless (status : Nat) : Bool := status = 204 || status = 304

def measured (r : Response) : Headers := r.headers.putIfAbsent contentLength (Bytes.ofNat r.body.length)

def framed (m : Method) (r : Response) : Response :=
  if m = .head then { r with headers := measured r, body := [] }
  else if isBodiless r.status then { r with headers := r.headers.remove contentLength, body := [] }
  else { r with headers := measured r }

end Turnstile.Server
