import Turnstile.Http.Request

namespace Turnstile.Http.Headers

def connection : HeaderName := HeaderName.known "connection"

def hopNames : List HeaderName :=
  ["connection", "keep-alive", "proxy-authenticate", "te", "transfer-encoding", "upgrade"].map HeaderName.known

/-- The names in one `connection` value. An element that is no name lists nothing, and neither does a value that is not
plain text. -/
def listedIn (value : Bytes) : List HeaderName :=
  if (valueText? value).isSome then (value.splitOn 0x2C).filterMap fun s => HeaderName.parse? (trimmed s) else []

def listed (h : Headers) : List HeaderName := (h.all connection).flatMap listedIn

theorem listed_removeAll (h : Headers) {names : List HeaderName} (hn : connection ∉ names) :
    (h.removeAll names).listed = h.listed := by
  rw [listed, listed, all_removeAll, if_neg hn]

def beyondHop (h : Headers) : Headers := h.removeAll (h.listed ++ hopNames)

theorem all_beyondHop (h : Headers) (name : HeaderName) :
    h.beyondHop.all name = if name ∈ h.listed ++ hopNames then [] else h.all name :=
  all_removeAll h (h.listed ++ hopNames) name

end Turnstile.Http.Headers
