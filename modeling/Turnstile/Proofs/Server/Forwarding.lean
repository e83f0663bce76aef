import Turnstile.Forward
import Turnstile.Proofs.Queue.Delivery
import Turnstile.Proofs.Server.Destination
import Turnstile.Proofs.Server.Precedence
import Turnstile.Server.Framing

namespace Turnstile

namespace Job

theorem forTarget_eq_map (origin : Url) (m : Http.Method) (target : Http.Uri) (h : Http.Headers) (b : Bytes) :
    forTarget origin m target h b =
      (forTarget origin m target [] b).map fun job => { job with headers := h.remove hostName } := by
  unfold forTarget forPath
  split
  · rfl
  · split <;> rfl

theorem of_forTarget {origin : Url} {m : Http.Method} {target : Http.Uri} {h : Http.Headers} {b : Bytes} {job : Job}
    (hj : forTarget origin m target h b = .ok job) :
    job.method = m ∧ job.headers = h.remove hostName ∧ job.body = if b.isEmpty then none else some b := by
  unfold forTarget forPath at hj
  split at hj
  · cases hj
  · split at hj
    · cases hj
    · cases hj
      exact ⟨rfl, rfl, rfl⟩

end Job

namespace Queue

variable {allowed : Queue → Event → Prop} {limits : Config.Queue} {log more : List Sign} {q r x : Queue} {id : Nat}
variable {job : Job} {a : Admitted}

theorem called_after_submit (hq : Run allowed (new limits) log q) (hs : q.submit job = (.ok id, r))
    (hx : Run allowed r more x) (hc : .called a ∈ more) (ha : a.id = id) :
    a.job = job ∧ ∀ o, .ended id o ∈ more → id ∈ x.tickets.map Ticket.id → (∀ b ∈ x.live, b.id ≠ id) →
      x.ticket? id = some (.answered o.answer) := by
  have hsub : Moves q [.admitted ⟨id, job⟩] r := by
    have hm := moves_submit job (hq.moves.distinct (distinct_new limits))
    rw [hs] at hm
    exact hm
  have hall : Moves (new limits) (log ++ [.admitted ⟨id, job⟩] ++ more) x := (hq.moves.trans hsub).trans hx.moves
  have ht : Told (log ++ [.admitted ⟨id, job⟩] ++ more) x := hall.told (.new limits)
  have hk : Known (log ++ [.admitted ⟨id, job⟩] ++ more) := hall.known (.new limits) .nil
  constructor
  · have hadm := ht.admitted_of_called hk (List.mem_append_right _ hc)
    have hself : Sign.admitted ⟨id, job⟩ ∈ log ++ [.admitted ⟨id, job⟩] ++ more := by simp
    rw [ht.eq_of_id_eq hadm hself ha]
  · intro o ho hid hl
    exact ht.ticket?_of_ended hk (hall.ticketed (.new limits) (.new limits)) hid hl (List.mem_append_right _ ho)

end Queue

namespace Server

open Http

def forwarded? (s : Server) (fresh : Bytes) (r : Request) : Option Job :=
  (s.screen { r with headers := RequestId.assign fresh r.headers }).toOption.map Forward.outbound

/-- The names whose values a request loses on its way: the credential, `host`, and what ends with the connection once the
credential is gone. -/
def withheld (g : Gate) (h : Headers) : List HeaderName :=
  g.header :: Job.hostName :: ((h.remove g.header).listed ++ Headers.hopNames)

/-- What a request looks like to the origin. All values of a name go together, in their order. -/
structure Sent (s : Server) (fresh : Bytes) (r : Request) (sent : Job) : Prop where
  method : sent.method = r.method
  body : sent.body = if r.body.isEmpty then none else some r.body
  headers : ∀ name, sent.headers.all name =
    if name ∈ withheld s.gate r.headers then []
    else if name = RequestId.headerName ∧ r.headers.all name = [] then [fresh]
    else r.headers.all name

/-- What a response looks like to the caller. The identifier of the request is added where none has come through. -/
structure Returned (m : Method) (id : Bytes) (reply answer : Response) : Prop where
  status : answer.status = reply.status
  body : answer.body = reply.body
  headers : ∀ name, answer.headers.all name =
    let kept := if name ∈ reply.headers.listed ++ Headers.hopNames then [] else reply.headers.all name
    if name = RequestId.headerName ∧ kept = [] then [id] else kept
  framing : ∀ name, name ≠ contentLength → (framed m answer).headers.all name = answer.headers.all name

structure Relayed (m : Method) (id : Bytes) (deadline : Duration) (reply : Forward.Reply) (answer : Response) : Prop where
  response : ∀ x, reply = .response x → Forward.isZero deadline = false → Returned m id x answer
  failure : (∀ x, reply ≠ .response x) ∨ Forward.isZero deadline = true →
    Returned m id (.plain 502 "Upstream error") answer

variable {s s' : Server} {fresh : Bytes} {r : Request} {w : Waiting} {job : Job}

theorem listed_remove_assign (g : Gate) (fresh : Bytes) (h : Headers) :
    ((RequestId.assign fresh h).remove g.header).listed = (h.remove g.header).listed := by
  have hc : Headers.connection ≠ RequestId.headerName := by decide +kernel
  simp only [Headers.listed, Headers.all_remove, RequestId.all_assign, hc, false_and, if_false]

theorem headers_outbound (g : Gate) (fresh : Bytes) (h : Headers) :
    (((RequestId.assign fresh h).remove g.header).remove Job.hostName).beyondHop =
      (RequestId.assign fresh h).removeAll (withheld g h) := by
  have hc : Headers.connection ∉ [Job.hostName] := by decide +kernel
  rw [Headers.beyondHop, Headers.remove_eq_removeAll _ Job.hostName, Headers.listed_removeAll _ hc,
    listed_remove_assign, Headers.remove_eq_removeAll (RequestId.assign fresh h), Headers.removeAll_removeAll,
    Headers.removeAll_removeAll]
  rfl

theorem screen_of_authorized {h : Headers} (ha : s.gate.authorizes h = true) : s.screen { r with headers := h } =
    if !isRouted r.target then .error .unrouted
    else if r.body.length > s.bodyLimit then .error .tooLarge
    else (Job.forTarget s.origin r.method r.target (h.remove s.gate.header) r.body).mapError fun _ => .invalidTarget := by
  simp only [screen, Gate.pass?, ha, if_true]

theorem authorizes_of_screen {h : Headers} (hs : s.screen { r with headers := h } = .ok job) :
    s.gate.authorizes h = true := by
  cases ha : s.gate.authorizes h with
  | true => rfl
  | false =>
    simp only [screen, Gate.pass?, ha] at hs
    cases hs

theorem forTarget_of_screen {h : Headers} (hs : s.screen { r with headers := h } = .ok job) :
    Job.forTarget s.origin r.method r.target (h.remove s.gate.header) r.body = .ok job := by
  rw [screen_of_authorized (authorizes_of_screen hs)] at hs
  split at hs
  · cases hs
  split at hs
  · cases hs
  generalize Job.forTarget s.origin r.method r.target _ r.body = x at hs
  cases x with
  | error e => cases hs
  | ok j =>
    cases hs
    rfl

theorem forwarded?_eq_some_iff {sent : Job} : s.forwarded? fresh r = some sent ↔
    ∃ job, s.screen { r with headers := RequestId.assign fresh r.headers } = .ok job ∧ Forward.outbound job = sent := by
  unfold forwarded?
  generalize s.screen { r with headers := RequestId.assign fresh r.headers } = x
  cases x <;> simp [Except.toOption]

theorem sent_of_screen (hs : s.screen { r with headers := RequestId.assign fresh r.headers } = .ok job) :
    Sent s fresh r (Forward.outbound job) := by
  obtain ⟨hm, hh, hb⟩ := Job.of_forTarget (forTarget_of_screen hs)
  constructor
  case method => exact hm
  case body => exact hb
  case headers =>
    intro name
    simp only [Forward.outbound]
    rw [hh, headers_outbound, Headers.all_removeAll, RequestId.all_assign]
    by_cases hn : name = RequestId.headerName
    · rw [hn]
    · simp only [hn, false_and]

theorem forwarded?_congr {sent : Job} {h : Headers} (hs : s.forwarded? fresh r = some sent)
    (ha : s.gate.authorizes (RequestId.assign fresh h) = true)
    (hh : h.removeAll [s.gate.header, Job.hostName] = r.headers.removeAll [s.gate.header, Job.hostName]) :
    s.forwarded? fresh { r with headers := h } = some sent := by
  have hleft (k : Headers) : ((RequestId.assign fresh k).remove s.gate.header).remove Job.hostName =
      (k.putIfAbsent RequestId.headerName fresh).removeAll [s.gate.header, Job.hostName] := by
    rw [Headers.remove_eq_removeAll _ Job.hostName, Headers.remove_eq_removeAll _ s.gate.header,
      Headers.removeAll_removeAll]
    rfl
  have hsame : ((RequestId.assign fresh h).remove s.gate.header).remove Job.hostName =
      ((RequestId.assign fresh r.headers).remove s.gate.header).remove Job.hostName := by
    rw [hleft, hleft, Headers.removeAll_putIfAbsent, Headers.removeAll_putIfAbsent, hh]
  have hjob : Job.forTarget s.origin r.method r.target ((RequestId.assign fresh h).remove s.gate.header) r.body =
      Job.forTarget s.origin r.method r.target ((RequestId.assign fresh r.headers).remove s.gate.header) r.body := by
    rw [Job.forTarget_eq_map, hsame, ← Job.forTarget_eq_map]
  obtain ⟨job, hj, -⟩ := forwarded?_eq_some_iff.mp hs
  have har := authorizes_of_screen hj
  rw [← hs, forwarded?, forwarded?, screen_of_authorized har, ← hjob, ← screen_of_authorized ha]

theorem of_receive (h : s.receive fresh r = (.waiting w, s')) :
    ∃ job, s.screen { r with headers := RequestId.assign fresh r.headers } = .ok job ∧
      s.queue.submit job = (.ok w.id, s'.queue) ∧ w.method = r.method ∧ w.headers = RequestId.assign fresh r.headers := by
  cases hs : s.screen { r with headers := RequestId.assign fresh r.headers } with
  | error d =>
    simp only [receive, hs] at h
    cases h
  | ok job =>
    refine ⟨job, rfl, ?_⟩
    simp only [receive, hs, enqueue] at h
    generalize s.queue.submit job = x at h
    obtain ⟨x, q⟩ := x
    cases x with
    | error => cases h
    | ok id =>
      cases h
      exact ⟨rfl, rfl, rfl⟩

theorem all_measured (a : Response) {name : HeaderName} (hn : name ≠ contentLength) :
    (measured a).all name = a.headers.all name := by
  rw [measured, Headers.all_putIfAbsent, if_neg fun h => hn h.1]

theorem all_framed (m : Method) (a : Response) {name : HeaderName} (hn : name ≠ contentLength) :
    (framed m a).headers.all name = a.headers.all name := by
  unfold framed
  split
  · exact all_measured a hn
  split
  · exact (Headers.all_remove _ _ _).trans (if_neg hn)
  · exact all_measured a hn

theorem returned_inbound (m : Method) (fresh : Bytes) (h : Headers) (reply : Response) :
    Returned m ((h.first? RequestId.headerName).getD fresh) reply
      (identified (RequestId.assign fresh h) (Forward.inbound reply)) := by
  constructor
  case status => rfl
  case body => rfl
  case headers =>
    intro name
    simp only [identified, RequestId.propagate, RequestId.first?_assign, Headers.all_putIfAbsent, Forward.inbound,
      Headers.all_beyondHop]
    by_cases hn : name = RequestId.headerName
    · rw [hn]
    · simp only [hn, false_and]
  case framing => exact fun name hn => all_framed m _ hn

theorem outcome_of_response {deadline : Duration} {peer : Job → Forward.Reply} {job : Job} {x : Response}
    (hx : peer (Forward.outbound job) = .response x) (hd : Forward.isZero deadline = false) :
    Forward.outcome deadline peer job = .response (Forward.inbound x) := by
  simp [Forward.outcome, Forward.call, Forward.settle, hx, hd]

theorem relayed_outcome (m : Method) (fresh : Bytes) (h : Headers) (deadline : Duration) (peer : Job → Forward.Reply)
    (job : Job) :
    Relayed m ((h.first? RequestId.headerName).getD fresh) deadline (peer (Forward.outbound job))
      (identified (RequestId.assign fresh h) (Forward.outcome deadline peer job).answer) := by
  constructor
  case response =>
    intro x hx hd
    rw [outcome_of_response hx hd]
    exact returned_inbound m fresh h x
  case failure =>
    intro hf
    have ho : (Forward.outcome deadline peer job).answer = Refusal.unavailable.response := by
      unfold Forward.outcome Forward.call
      generalize peer (Forward.outbound job) = reply at hf
      cases reply with
      | response x =>
        have hd : Forward.isZero deadline = true := hf.resolve_left fun hn => hn x rfl
        simp [Forward.settle, hd, Outcome.answer]
      | refused | closed | silent | broken => rfl
    have hi : Refusal.unavailable.response = Forward.inbound (.plain 502 "Upstream error") := by decide +kernel
    rw [ho, hi]
    exact returned_inbound m fresh h _

/-- For every request that is admitted, whatever else goes on in the queue: the origin gets it as it came, but for the
fields that are withheld, so that the credential and `host` make no difference to it; and the caller gets the response
as it came, but for the fields that end with its connection, or is told that there was none. The identifier of the
request takes the place of one that did not come through. -/
theorem forwarded_transparently {allowed : Queue → Queue.Event → Prop} {limits : Config.Queue} {log : List Queue.Sign}
    (hq : Queue.Run allowed (.new limits) log s.queue) (hw : s.receive fresh r = (.waiting w, s')) :
    ∃ sent, s.forwarded? fresh r = some sent ∧ Sent s fresh r sent ∧
      (∀ h : Headers, s.gate.authorizes (RequestId.assign fresh h) = true →
        h.removeAll [s.gate.header, Job.hostName] = r.headers.removeAll [s.gate.header, Job.hostName] →
        s.forwarded? fresh { r with headers := h } = some sent) ∧
      ∀ more q, Queue.Run allowed s'.queue more q → ∀ a, .called a ∈ more → a.id = w.id →
        Forward.outbound a.job = sent ∧
        ∀ deadline peer metrics, .ended w.id (Forward.outcome deadline peer a.job) ∈ more →
          w.id ∈ q.tickets.map Queue.Ticket.id → (∀ b ∈ q.live, b.id ≠ w.id) →
          ∃ answer t, collect? { s' with queue := q, metrics } w = some (answer, t) ∧
            Relayed r.method ((r.headers.first? RequestId.headerName).getD fresh) deadline (peer sent) answer := by
  obtain ⟨job, hs, hsub, -, hh⟩ := of_receive hw
  have hsent : s.forwarded? fresh r = some (Forward.outbound job) := forwarded?_eq_some_iff.mpr ⟨job, hs, rfl⟩
  refine ⟨Forward.outbound job, hsent, sent_of_screen hs, fun h => forwarded?_congr hsent, ?_⟩
  intro more q hx a hc ha
  obtain ⟨rfl, hshown⟩ := Queue.called_after_submit hq hsub hx hc ha
  refine ⟨rfl, fun deadline peer metrics ho hid hl => ?_⟩
  have hticket := hshown _ ho hid hl
  refine ⟨_, _, by simp only [collect?, hticket]; rfl, ?_⟩
  rw [hh]
  exact relayed_outcome r.method fresh r.headers deadline peer a.job

def relaying : Server where
  origin := { scheme := Bytes.ofString "http", host := some (.domain (Bytes.ofString "up.test")), path := [0x2F] }
  gate := ⟨HeaderName.known "x-proxy-secret", .ofSecret (some "s")⟩
  bodyLimit := 4
  queue := .new ⟨1, 1⟩

def visit : Request where
  target := ⟨none, [], Bytes.ofString "/a", none⟩
  headers := [(HeaderName.known "host", [0x68]), (HeaderName.known "x-proxy-secret", [0x73]),
    (HeaderName.known "accept", [0x61]), (HeaderName.known "connection", Bytes.ofString "x-hop"),
    (HeaderName.known "accept", [0x62]), (HeaderName.known "x-hop", [0x31])]

def errand : Job where
  target := ⟨some (Bytes.ofString "http"), Bytes.ofString "up.test", Bytes.ofString "/a", none⟩
  method := .get
  headers := [(HeaderName.known "accept", [0x61]), (HeaderName.known "connection", Bytes.ofString "x-hop"),
    (HeaderName.known "accept", [0x62]), (HeaderName.known "x-hop", [0x31]), (RequestId.headerName, [0x69])]
  body := none

def reply : Response := ⟨200, [(HeaderName.known "te", [0x31]), (HeaderName.known "etag", [0x32])], [0x78]⟩

def errandEvents (reply : Response) : List Queue.Event :=
  [.act (.start 1), .act (.finish 1 (.response (Forward.inbound reply))), .act (.countEnd 1), .act (.countFailure 1),
    .act (.release 1), .act (.reply 1)]

theorem receive_visit : relaying.receive [0x69] visit =
    (.waiting ⟨1, .get, RequestId.assign [0x69] visit.headers⟩,
      { relaying with queue := ((Queue.new ⟨1, 1⟩).submit errand).2 }) := by
  have hs : relaying.screen { visit with headers := RequestId.assign [0x69] visit.headers } = .ok errand :=
    eq_ok_of_toOption (by decide +kernel)
  simp only [receive, hs]
  rfl

theorem play_errand (x : Response) : ∃ q, ((Queue.new ⟨1, 1⟩).submit errand).2.play? (errandEvents x) =
      some ([.called ⟨1, errand⟩, .ended 1 (.response (Forward.inbound x)), .freed 1,
        .answered 1 (Forward.inbound x)], q) ∧
      q.tickets = [⟨1, .answered (Forward.inbound x)⟩] ∧ q.live = [] :=
  ⟨_, rfl, rfl, rfl⟩

theorem forwarded_transparently_errand : ∃ w s' more q answer t,
    relaying.receive [0x69] visit = (.waiting w, s') ∧ s'.queue.play? (errandEvents reply) = some (more, q) ∧
      relaying.forwarded? [0x69] visit = some (Forward.outbound errand) ∧
      Sent relaying [0x69] visit (Forward.outbound errand) ∧
      collect? { s' with queue := q } w = some (answer, t) ∧
      Relayed .get [0x69] ⟨5, 0⟩ (.response reply) answer := by
  have hq : Queue.Run Queue.attended (.new ⟨1, 1⟩) [] relaying.queue := .refl
  obtain ⟨q, hp, htickets, hlive⟩ := play_errand reply
  have hrun : Queue.Run Queue.attended ((Queue.new ⟨1, 1⟩).submit errand).2 _ q :=
    Queue.run_of_play? (by simp [errandEvents, Queue.attended]) hp
  have ho : Forward.outcome ⟨5, 0⟩ (fun _ => .response reply) errand = .response (Forward.inbound reply) :=
    outcome_of_response rfl rfl
  obtain ⟨sent, hsent, hs, -, hrest⟩ := forwarded_transparently hq receive_visit
  obtain ⟨rfl, hreply⟩ := hrest _ q hrun ⟨1, errand⟩ (by simp) rfl
  obtain ⟨answer, t, ha, hr⟩ := hreply ⟨5, 0⟩ (fun _ => .response reply) relaying.metrics (by simp [ho])
    (by simp [htickets]) (by simp [hlive])
  have hd : (visit.headers.first? RequestId.headerName).getD [0x69] = [0x69] := by decide +kernel
  rw [hd] at hr
  exact ⟨_, _, _, q, answer, t, receive_visit, hp, hsent, hs, ha, hr⟩

def named : Response where
  status := 200
  headers := [(HeaderName.known "connection", Bytes.ofString "x-request-id"), (RequestId.headerName, [0x61])]
  body := [0x78]

/-- The origin has sent an identifier, and the caller gets that of the request. -/
theorem identifier_replaced : named.headers.all RequestId.headerName = [[0x61]] ∧
    ∃ w s' more q answer t, relaying.receive [0x69] visit = (.waiting w, s') ∧
      s'.queue.play? (errandEvents named) = some (more, q) ∧
      .ended 1 (Forward.outcome ⟨5, 0⟩ (fun _ => .response named) errand) ∈ more ∧
      collect? { s' with queue := q } w = some (answer, t) ∧ answer.headers.all RequestId.headerName = [[0x69]] := by
  obtain ⟨q, hp, htickets, -⟩ := play_errand named
  have hticket : q.ticket? 1 = some (.answered (Forward.inbound named)) := by simp [Queue.ticket?, htickets]
  have ho : Forward.outcome ⟨5, 0⟩ (fun _ => .response named) errand = .response (Forward.inbound named) :=
    outcome_of_response rfl rfl
  have hid : (identified (RequestId.assign [0x69] visit.headers) (Forward.inbound named)).headers.all
      RequestId.headerName = [[0x69]] := by decide +kernel
  exact ⟨by decide +kernel, _, _, _, q, _, _, receive_visit, hp, by simp [ho], by simp only [collect?, hticket]; rfl,
    hid⟩

end Server

end Turnstile
