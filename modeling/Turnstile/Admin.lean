import Turnstile.Credential
import Turnstile.Http.Method
import Turnstile.Http.Uri
import Turnstile.Http.Response
import Turnstile.Json.Writer
import Turnstile.Queue.Basic

namespace Turnstile

def version : String := "0.1.0"

/-- The key, and the origin as it is shown. -/
structure Admin where
  key : String
  origin : String
  deriving DecidableEq, Repr

namespace Admin

open Http

inductive Page where
  | status
  | queue
  deriving DecidableEq, Repr

def Page.ofPath? (path : Bytes) : Option Page :=
  if path = Bytes.ofString "/admin/status" then some .status
  else if path = Bytes.ofString "/admin/queue" then some .queue
  else none

def authorization : HeaderName := HeaderName.known "authorization"

def token? (headers : Headers) : Option Bytes :=
  (headers.first? authorization).bind (Bytes.afterBeginning? (Bytes.ofString "Bearer "))

def authorizes (a : Admin) (headers : Headers) : Bool := (Credential.ofSecret (some a.key)).verify (token? headers)

def statusDocument (a : Admin) : Document :=
  .table [("version", .text version), ("status", .text "operational"), ("upstream", .text a.origin)]

def queueDocument (s : Queue.Snapshot) : Document :=
  .table [("pending", .ofNat s.pending), ("in_flight", .ofNat s.inFlight),
    ("max_concurrency", .ofNat s.maxConcurrency.toNat), ("max_queue_size", .ofNat s.maxQueueSize.toNat),
    ("admitted_total", .ofNat s.admitted.toNat), ("rejected_total", .ofNat s.rejected.toNat),
    ("completed_total", .ofNat s.completed.toNat), ("upstream_failures_total", .ofNat s.failed.toNat)]

def Page.document (a : Admin) (s : Queue.Snapshot) : Page → Document
  | status => statusDocument a
  | queue => queueDocument s

def isReading (m : Method) : Bool := m = Method.get || m = Method.head

/-- A known page tells which methods it has, whenever it was asked with another. -/
def allowed (page : Option Page) (m : Method) : Headers :=
  if page.isSome && !isReading m then [(HeaderName.known "allow", Bytes.ofString "GET,HEAD")] else []

def documentResponse (m : Method) (d : Document) : Response :=
  let body := Bytes.ofChars (Json.Writer.compact d)
  ⟨200, [(HeaderName.known "content-type", Bytes.ofString "application/json"),
    (HeaderName.known "content-length", Bytes.ofNat body.length)], if m = Method.head then [] else body⟩

def respond (a : Admin) (s : Queue.Snapshot) (m : Method) (path : Bytes) (headers : Headers) : Response :=
  let page := Page.ofPath? path
  if !a.authorizes headers then ⟨401, allowed page m, []⟩
  else
    match page with
    | none => .bare 404
    | some p => if isReading m then documentResponse m (p.document a s) else ⟨405, allowed page m, []⟩

end Admin

end Turnstile
