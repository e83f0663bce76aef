import Turnstile.Config.Validation
import Turnstile.Proofs.Queue.Launch
import Turnstile.Server.Exchange

namespace Turnstile

namespace Metrics

def answers (m : Metrics) (key : String × Nat) : Nat := ((m.requests.find? (·.1 = key)).map (·.2)).getD 0

theorem answers_countRequest (m : Metrics) (method : String) (status : Nat) (key : String × Nat) :
    (m.countRequest method status).answers key = m.answers key + if key = (method, status) then 1 else 0 := by
  unfold countRequest
  split
  · next ha =>
    have hk : ((fun r : (String × Nat) × Nat => decide (r.1 = key)) ∘
        fun r => if r.1 = (method, status) then (r.1, r.2 + 1) else r) = fun r => decide (r.1 = key) := by
      funext r
      by_cases hr : r.1 = (method, status) <;> simp [hr]
    simp only [answers, List.find?_map, hk]
    cases hf : m.requests.find? (fun r => decide (r.1 = key)) with
    | some r =>
      have hr : r.1 = key := by simpa using List.find?_some hf
      by_cases hm : key = (method, status) <;> simp [hr, hm]
    | none =>
      have hm : key ≠ (method, status) := by
        rintro rfl
        obtain ⟨r, hr, he⟩ := List.any_eq_true.mp ha
        exact List.find?_eq_none.mp hf r hr he
      simp [hm]
  · next ha =>
    simp only [answers, List.find?_append]
    by_cases hm : key = (method, status)
    · subst hm
      have hf : m.requests.find? (fun r => decide (r.1 = (method, status))) = none := by
        rw [List.find?_eq_none]
        intro r hr he
        exact ha (List.any_eq_true.mpr ⟨r, hr, he⟩)
      simp [hf]
    · simp [hm, Ne.symm hm]

theorem unauthorized_countRequest (m : Metrics) (method : String) (status : Nat) :
    (m.countRequest method status).unauthorized = m.unauthorized := by
  unfold countRequest
  split <;> rfl

end Metrics

namespace Job

theorem isNone_forTarget (origin : Url) (m : Http.Method) (target : Http.Uri) (h h' : Http.Headers) (b : Bytes) :
    (forTarget origin m target h b).toOption.isNone = (forTarget origin m target h' b).toOption.isNone := by
  unfold forTarget forPath
  split
  · rfl
  · split <;> rfl

end Job

namespace Server

open Http

inductive Fault where
  | credential
  | route
  | length
  | target
  | room
  deriving DecidableEq, Repr

namespace Fault

def early : List Fault := [credential, route, length, target]

def all : List Fault := early ++ [room]

def isOf (s : Server) (headers : Headers) (r : Request) : Fault → Bool
  | credential => !s.gate.authorizes headers
  | route => r.target.path.head? ≠ some 0x2F
  | length => s.bodyLimit < r.body.length
  | target => (Job.forTarget s.origin r.method r.target headers r.body).toOption.isNone
  | room => s.queue.room ≤ s.queue.pending.length

def answer : Fault → Response
  | credential => .plain 401 "Unauthorized"
  | route => .bare 404
  | length => .plain 413 "Failed to buffer the request body: length limit exceeded"
  | target => .plain 400 "Invalid request target"
  | room => .plain 503 "queue limit exceeded"

def denial? : Fault → Option Denial
  | credential => some .unauthorized
  | route => some .unrouted
  | length => some .tooLarge
  | target => some .invalidTarget
  | room => none

def isCounted (f : Fault) : Bool := f = target || f = room

theorem answer_of_denial {f : Fault} {d : Denial} (h : f.denial? = some d) : d.response = f.answer := by
  cases f <;> cases h <;> rfl

end Fault

/-- The fault that a request is answered for. Its identifier is there before anything is looked at. -/
def firstFault? (s : Server) (fresh : Bytes) (r : Request) : Option Fault :=
  Fault.all.find? (Fault.isOf s (RequestId.assign fresh r.headers) r)

variable {s : Server} {fresh : Bytes} {r : Request} {f : Fault}

theorem firstFault?_eq_credential_iff : s.firstFault? fresh r = some .credential ↔
    s.gate.authorizes (RequestId.assign fresh r.headers) = false := by
  constructor
  · intro h
    simpa [Fault.isOf] using List.find?_some (p := Fault.isOf s _ r) h
  · intro h
    simp [firstFault?, Fault.all, Fault.early, Fault.isOf, h]

theorem screen_eq (s : Server) (h : Headers) (r : Request) : s.screen { r with headers := h } =
    if Fault.isOf s h r .credential then .error .unauthorized
    else if Fault.isOf s h r .route then .error .unrouted
    else if Fault.isOf s h r .length then .error .tooLarge
    else (Job.forTarget s.origin r.method r.target (h.remove s.gate.header) r.body).mapError fun _ => .invalidTarget := by
  have hroute : Fault.isOf s h r .route = !isRouted r.target := by
    by_cases hp : r.target.path.head? = some 0x2F <;> simp [Fault.isOf, isRouted, Uri.slash, hp]
  have hlength : Fault.isOf s h r .length = decide (r.body.length > s.bodyLimit) := rfl
  have hcredential : Fault.isOf s h r .credential = !s.gate.authorizes h := rfl
  rw [hroute, hlength, hcredential]
  cases ha : s.gate.authorizes h <;> simp [screen, Gate.pass?, ha]

theorem screen_of_denied {d : Denial} (hf : s.firstFault? fresh r = some f) (hd : f.denial? = some d) :
    s.screen { r with headers := RequestId.assign fresh r.headers } = .error d := by
  rw [screen_eq]
  simp only [firstFault?, Fault.all, Fault.early, List.cons_append, List.nil_append, List.find?_cons] at hf
  generalize RequestId.assign fresh r.headers = h at hf
  cases hc : Fault.isOf s h r .credential with
  | true =>
    cases (show some Fault.credential = some f by simpa [hc] using hf)
    cases hd
    rfl
  | false =>
  cases hr : Fault.isOf s h r .route with
  | true =>
    cases (show some Fault.route = some f by simpa [hc, hr] using hf)
    cases hd
    rfl
  | false =>
  cases hl : Fault.isOf s h r .length with
  | true =>
    cases (show some Fault.length = some f by simpa [hc, hr, hl] using hf)
    cases hd
    rfl
  | false =>
  cases ht : Fault.isOf s h r .target with
  | true =>
    cases (show some Fault.target = some f by simpa [hc, hr, hl, ht] using hf)
    cases hd
    rw [Fault.isOf, Job.isNone_forTarget _ _ _ _ (h.remove s.gate.header)] at ht
    generalize Job.forTarget _ _ _ _ _ = j at ht
    cases j with
    | ok => cases ht
    | error e => rfl
  | false =>
    have hroom : some f = some Fault.room := by
      simp only [hc, hr, hl, ht] at hf
      split at hf
      · exact hf.symm
      · cases hf
    cases hroom
    cases hd

theorem screen_of_passed (hf : ∀ f, s.firstFault? fresh r = some f → f = .room) :
    ∃ job, Job.forTarget s.origin r.method r.target ((RequestId.assign fresh r.headers).remove s.gate.header) r.body =
        .ok job ∧
      s.screen { r with headers := RequestId.assign fresh r.headers } = .ok job := by
  have hn : Fault.early.find? (Fault.isOf s (RequestId.assign fresh r.headers) r) = none := by
    cases he : Fault.early.find? (Fault.isOf s (RequestId.assign fresh r.headers) r) with
    | none => rfl
    | some f =>
      obtain rfl := hf f (by rw [firstFault?, Fault.all, List.find?_append, he]; rfl)
      exact absurd (List.mem_of_find?_eq_some he) (by decide)
  rw [screen_eq]
  generalize RequestId.assign fresh r.headers = h at hn
  have hn (f : Fault) (hm : f ∈ Fault.early) : Fault.isOf s h r f = false := by
    simpa using List.find?_eq_none.mp hn f hm
  rw [hn .credential (by decide), hn .route (by decide), hn .length (by decide)]
  have ht := hn .target (by decide)
  rw [Fault.isOf, Job.isNone_forTarget _ _ _ _ (h.remove s.gate.header)] at ht
  cases hj : Job.forTarget s.origin r.method r.target (h.remove s.gate.header) r.body with
  | error =>
    rw [hj] at ht
    cases ht
  | ok job => exact ⟨job, rfl, rfl⟩

/-- What becomes of a request that is answered for a fault, and what of the gateway. Nothing is admitted and no call is
made, and but for a lack of room the queue does not even learn of it. -/
structure AnsweredFor (f : Fault) (s : Server) (fresh : Bytes) (r : Request) : Prop where
  answer : (s.receive fresh r).1 = .answered (identified (RequestId.assign fresh r.headers) f.answer)
  queue : f ≠ .room → (s.receive fresh r).2.queue = s.queue
  pending : (s.receive fresh r).2.queue.pending = s.queue.pending
  inFlight : (s.receive fresh r).2.queue.inFlight = s.queue.inFlight
  calls : (s.receive fresh r).2.queue.calls = s.queue.calls
  totals : (s.receive fresh r).2.queue.totals =
    { s.queue.totals with rejected := s.queue.totals.rejected + if f = .room then 1 else 0 }
  unauthorized : (s.receive fresh r).2.metrics.unauthorized =
    s.metrics.unauthorized + if f = .credential then 1 else 0
  answers : ∀ key, (s.receive fresh r).2.metrics.answers key =
    s.metrics.answers key + if f.isCounted ∧ key = (r.method.text, f.answer.status) then 1 else 0

/-- What becomes of a request without a fault: a job for it is admitted, and nothing is counted as answered yet. -/
structure Admits (s : Server) (fresh : Bytes) (r : Request) : Prop where
  reception : (s.receive fresh r).1 = .waiting ⟨s.queue.nextId, r.method, RequestId.assign fresh r.headers⟩
  job : ∃ job, Job.forTarget s.origin r.method r.target ((RequestId.assign fresh r.headers).remove s.gate.header)
      r.body = .ok job ∧
    s.queue.submit job = (.ok s.queue.nextId, (s.receive fresh r).2.queue)
  admitted : (s.receive fresh r).2.queue.totals.admitted = s.queue.totals.admitted + 1
  metrics : (s.receive fresh r).2.metrics = s.metrics

theorem answeredFor_of_denied {d : Denial} (hf : s.firstFault? fresh r = some f) (hd : f.denial? = some d) :
    AnsweredFor f s fresh r := by
  have ha := Fault.answer_of_denial hd
  have hr : f ≠ .room := by
    rintro rfl
    cases hd
  have hs : s.receive fresh r =
      (.answered (identified (RequestId.assign fresh r.headers) d.response), s.countDenial r.method d) := by
    simp only [receive, screen_of_denied hf hd]
  have hq : (s.countDenial r.method d).queue = s.queue := by
    cases d <;> rfl
  rw [ha] at hs
  constructor
  case answer => rw [hs]
  case queue => exact fun _ => hs ▸ hq
  case pending => rw [hs, hq]
  case inFlight => rw [hs, hq]
  case calls => rw [hs, hq]
  case totals =>
    rw [hs, hq, if_neg hr]
    rfl
  case unauthorized =>
    rw [hs]
    cases f <;> cases hd
    case target => exact s.metrics.unauthorized_countRequest _ _
    all_goals rfl
  case answers =>
    intro key
    rw [hs]
    cases f <;> cases hd
    case target =>
      refine (s.metrics.answers_countRequest r.method.text 400 key).trans ?_
      simp only [Fault.isCounted, decide_true, Bool.true_or, true_and]
      rfl
    all_goals simp [countDenial, Fault.isCounted, Metrics.answers, Metrics.countUnauthorized]

theorem receive_of_passed (hf : ∀ f, s.firstFault? fresh r = some f → f = .room) :
    ∃ job, Job.forTarget s.origin r.method r.target ((RequestId.assign fresh r.headers).remove s.gate.header) r.body =
        .ok job ∧
      s.receive fresh r = s.enqueue r.method (RequestId.assign fresh r.headers) job := by
  obtain ⟨job, hj, hs⟩ := screen_of_passed hf
  exact ⟨job, hj, by simp only [receive, hs]⟩

theorem answeredFor_room (hr : s.queue.isRunning = true) (hf : s.firstFault? fresh r = some .room) :
    AnsweredFor .room s fresh r := by
  have hp : s.queue.room ≤ s.queue.pending.length := by
    simpa [Fault.isOf] using List.find?_some (p := Fault.isOf s _ r) hf
  have hpass : ∀ f, s.firstFault? fresh r = some f → f = .room := fun f h =>
    (Option.some.inj (hf.symm.trans h)).symm
  obtain ⟨job, -, hs⟩ := receive_of_passed hpass
  simp only [enqueue, Queue.submit_of_full job hr hp] at hs
  constructor
  case answer => rw [hs]; rfl
  case queue => exact fun h => absurd rfl h
  case pending => rw [hs]; rfl
  case inFlight => rw [hs]; rfl
  case calls => rw [hs]; rfl
  case totals => rw [hs]; rfl
  case unauthorized =>
    rw [hs]
    exact s.metrics.unauthorized_countRequest _ _
  case answers =>
    intro key
    rw [hs]
    refine (s.metrics.answers_countRequest r.method.text 503 key).trans ?_
    simp only [Fault.isCounted, decide_true, Bool.or_true, true_and]
    rfl

theorem admits_of_faultless (hr : s.queue.isRunning = true) (hf : s.firstFault? fresh r = none) :
    Admits s fresh r := by
  have hp : s.queue.pending.length < s.queue.room := by
    have hn := List.find?_eq_none.mp hf .room (by decide)
    simpa [Fault.isOf] using hn
  have hpass : ∀ f, s.firstFault? fresh r = some f → f = .room := by
    intro f h
    rw [hf] at h
    cases h
  obtain ⟨job, hj, hs⟩ := receive_of_passed hpass
  have hsub := Queue.submit_of_room job hr hp
  simp only [enqueue, hsub] at hs
  constructor
  case reception => rw [hs]
  case job => exact ⟨job, hj, by rw [hsub, hs]⟩
  case admitted => rw [hs, Queue.totals_launch, Queue.accept, Queue.totals_claim]; rfl
  case metrics => rw [hs]

/-- A request whose ticket is resolved gets the answer under its own identifier, and is counted with the status of that
answer. -/
structure Collected (s : Server) (w : Waiting) (x : Response) (s' : Server) : Prop where
  answer : s.collect? w = some (identified w.headers x, s')
  queue : s'.queue = (s.queue.poll w.id).2
  unauthorized : s'.metrics.unauthorized = s.metrics.unauthorized
  answers : ∀ key, s'.metrics.answers key = s.metrics.answers key + if key = (w.method.text, x.status) then 1 else 0

theorem exists_collected {w : Waiting} {x : Response} (hx : (s.queue.poll w.id).1 = some x) :
    ∃ s', Collected s w x s' := by
  have hshown : (s.queue.ticket? w.id).bind Queue.TicketState.response? = some x := by
    unfold Queue.poll at hx
    split at hx
    · next y hy =>
      cases hx
      exact hy
    · cases hx
  refine ⟨{ s with queue := s.queue.dropTicket w.id }.count w.method (identified w.headers x), ?_, ?_, ?_, ?_⟩
  · simp only [collect?, hshown]
    rfl
  · simp only [Queue.poll, hshown]
    rfl
  · exact s.metrics.unauthorized_countRequest _ _
  · exact s.metrics.answers_countRequest _ _

theorem metrics_collect? {w : Waiting} {a : Response} {s' : Server} (h : s.collect? w = some (a, s')) :
    s'.metrics = s.metrics.countRequest w.method.text a.status := by
  obtain ⟨x, -, he⟩ := Option.map_eq_some_iff.mp h
  cases he
  rfl

theorem exists_server_of_valid {c : Config} (hc : c.problems = []) :
    ∃ origin header, Origin.parse c.forwarding.origin = .ok origin ∧
      HeaderName.parse? (Bytes.ofString c.auth.headerName) = some header ∧
      ofConfig c = .ok ⟨origin, ⟨header, .ofSecret c.auth.secret⟩, c.security.maxBodySize.toNat, .new c.queue, {}⟩ := by
  simp only [Config.problems, List.append_eq_nil_iff] at hc
  obtain ⟨⟨⟨⟨⟨⟨⟨⟨⟨⟨-, ho⟩, -⟩, -⟩, -⟩, -⟩, hh⟩, -⟩, -⟩, -⟩, -⟩ := hc
  cases hor : Origin.parse c.forwarding.origin with
  | error p => simp [Config.checkOrigin, hor] at ho
  | ok origin =>
    cases hhd : HeaderName.parse? (Bytes.ofString c.auth.headerName) with
    | none => simp [Config.checkHeaderName, hhd] at hh
    | some header => exact ⟨origin, header, rfl, rfl, by simp only [ofConfig, hor, hhd]⟩

/-- A gateway with a valid configuration answers a request for its first fault, whatever else is wrong with it and
whatever its queue looks like, and admits a request without a fault, which gets the answer of its job once that is there.
Refused callers are counted on their own; answers are counted by method and status where they come of the target, of the
queue or of the origin, and nowhere else. -/
theorem first_fault_answered {allowed : Queue → Queue.Event → Prop} {c : Config} {log : List Queue.Sign} {q : Queue}
    (hc : c.problems = []) (hq : Queue.Run allowed (.new c.queue) log q) (hr : q.isRunning = true) :
    ∃ origin header, Origin.parse c.forwarding.origin = .ok origin ∧
      HeaderName.parse? (Bytes.ofString c.auth.headerName) = some header ∧
      ofConfig c = .ok ⟨origin, ⟨header, .ofSecret c.auth.secret⟩, c.security.maxBodySize.toNat, .new c.queue, {}⟩ ∧
      ∀ (metrics : Metrics) (fresh : Bytes) (r : Request),
        let s : Server := ⟨origin, ⟨header, .ofSecret c.auth.secret⟩, c.security.maxBodySize.toNat, q, metrics⟩
        (s.firstFault? fresh r = some .credential ↔ s.gate.authorizes (RequestId.assign fresh r.headers) = false) ∧
        (Fault.room.isOf s (RequestId.assign fresh r.headers) r ↔ q.pending.length = c.queue.maxQueueSize.toNat) ∧
        (∀ f, s.firstFault? fresh r = some f → AnsweredFor f s fresh r) ∧
        (s.firstFault? fresh r = none → Admits s fresh r) ∧
        (∀ w, (s.abandon w).metrics = metrics) ∧
        (∀ w x, (q.poll w.id).1 = some x → ∃ s', Collected s w x s') ∧
        ∀ w a s', s.collect? w = some (a, s') → s'.metrics.unauthorized = metrics.unauthorized ∧
          ∀ key, s'.metrics.answers key = metrics.answers key + if key = (w.method.text, a.status) then 1 else 0 := by
  obtain ⟨origin, header, ho, hh, hs⟩ := exists_server_of_valid hc
  refine ⟨origin, header, ho, hh, hs, fun metrics fresh r => ⟨?_, ?_, fun f hf => ?_, ?_, fun w => rfl,
    fun w x hx => exists_collected hx, ?_⟩⟩
  · exact firstFault?_eq_credential_iff
  · have hb := (hq.moves.balanced (Queue.distinct_new c.queue) (.new c.queue)).room
    have hl : q.room = c.queue.maxQueueSize.toNat := by rw [Queue.room, hq.moves.limits]; rfl
    rw [hl] at hb
    simp only [Fault.isOf, hl, decide_eq_true_iff]
    omega
  · cases hd : f.denial? with
    | some d => exact answeredFor_of_denied hf hd
    | none =>
      obtain rfl : f = .room := by
        cases f <;> first | rfl | cases hd
      exact answeredFor_room hr hf
  · exact admits_of_faultless hr
  · intro w a s' h
    rw [metrics_collect? h]
    exact ⟨Metrics.unauthorized_countRequest _ _ _, Metrics.answers_countRequest _ _ _⟩

def narrow : Config :=
  { forwarding := { origin := "http://up.test/base" }
    queue := ⟨1, 1⟩
    auth := { secret := some "s" }
    security := ⟨4⟩ }

def crowding : List Queue.Event :=
  [.act .draw, .act (.submit 1 Queue.plainJob), .act (.spawn (.submission 1)), .act (.start 1), .act .draw,
    .act (.submit 2 Queue.plainJob), .act (.finish 1 .panic), .act (.countEnd 1), .act (.countFailure 1),
    .act (.release 1), .act (.spawn (.release 1)), .act (.reply 1), .act .draw, .act (.submit 3 Queue.plainJob)]

def faulty (headers : Headers) : Request := ⟨.get, ⟨none, [], Bytes.ofString "/../x", none⟩, headers, [1, 2, 3, 4, 5]⟩

theorem first_fault_answered_crowded : narrow.problems = [] ∧
    ∃ log q, (Queue.new narrow.queue).play? crowding = some (log, q) ∧ q.isRunning = true ∧ ∃ s : Server, s.queue = q ∧
      (∀ f ∈ [Fault.credential, .length, .target, .room], f.isOf s (RequestId.assign [0x69] []) (faulty [])) ∧
      AnsweredFor .credential s [0x69] (faulty []) ∧
      AnsweredFor .length s [0x69] (faulty [(⟨Bytes.ofString "x-proxy-secret"⟩, [0x73])]) ∧
      ∃ s', Collected s ⟨1, .get, []⟩ (Outcome.answer .panic) s' := by
  obtain ⟨log, q, h, hr, hp, hx⟩ : ∃ log q, (Queue.new narrow.queue).play? crowding = some (log, q) ∧
      q.isRunning = true ∧ q.pending.length = 1 ∧ (q.poll 1).1 = some (Outcome.answer .panic) :=
    ⟨_, _, rfl, rfl, rfl, rfl⟩
  have hrun : Queue.Run Queue.attended (.new narrow.queue) log q :=
    Queue.run_of_play? (by simp [crowding, Queue.attended]) h
  have hc : narrow.problems = [] := by decide +kernel
  obtain ⟨origin, header, ho, hh, -, hall⟩ := first_fault_answered hc hrun hr
  have ho' : (Origin.parse narrow.forwarding.origin).toOption = some
      { scheme := Bytes.ofString "http", host := some (.domain (Bytes.ofString "up.test")),
        path := Bytes.ofString "/base" } := by decide +kernel
  have hh' : HeaderName.parse? (Bytes.ofString narrow.auth.headerName) = some ⟨Bytes.ofString "x-proxy-secret"⟩ := by
    decide +kernel
  rw [ho] at ho'
  cases ho'
  cases hh.symm.trans hh'
  obtain ⟨hcred, hroom, hfault, -, -, hcollect, -⟩ := hall {} [0x69] (faulty [])
  obtain ⟨-, -, hfault', -⟩ := hall {} [0x69] (faulty [(⟨Bytes.ofString "x-proxy-secret"⟩, [0x73])])
  have hdeny : Gate.authorizes ⟨⟨Bytes.ofString "x-proxy-secret"⟩, .ofSecret narrow.auth.secret⟩
      (RequestId.assign [0x69] []) = false := by decide +kernel
  have hpass : Gate.authorizes ⟨⟨Bytes.ofString "x-proxy-secret"⟩, .ofSecret narrow.auth.secret⟩
      (RequestId.assign [0x69] [(⟨Bytes.ofString "x-proxy-secret"⟩, [0x73])]) = true := by decide +kernel
  have hpath : (faulty []).target.path.head? = some 0x2F := by decide +kernel
  refine ⟨hc, log, q, h, hr, _, rfl, ?_, hfault _ (hcred.mpr hdeny), hfault' _ ?_,
    hcollect ⟨1, .get, []⟩ _ hx⟩
  · simp only [List.forall_mem_cons]
    exact ⟨by simpa [Fault.isOf] using hdeny, rfl, rfl, hroom.mpr hp, List.forall_mem_nil _⟩
  · have hlong : narrow.security.maxBodySize.toNat < 5 := by decide
    simp only [faulty] at hpath ⊢
    simpa [firstFault?, Fault.all, Fault.early, Fault.isOf, hpass, hpath] using hlong

end Server

end Turnstile
