import Turnstile.Queue.Scenario
import Turnstile.Proofs.Gate
import Turnstile.Proofs.Json.Roundtrip
import Turnstile.Proofs.Queue.Reading
import Turnstile.Proofs.Text.Utf8

namespace Turnstile

open Digest Http

namespace Admin

variable {a : Admin} {s : Queue.Snapshot} {m : Method} {path : Bytes} {headers : Headers}

def Granted (a : Admin) (headers : Headers) : Prop :=
  a.key ≠ "" ∧ headers.first? authorization = some (Bytes.ofString "Bearer " ++ Bytes.ofString a.key)

def Collisionless (a : Admin) (headers : Headers) : Prop :=
  ∀ t, token? headers = some t → Sha256.digest t = Sha256.digest (Bytes.ofString a.key) → t = Bytes.ofString a.key

theorem token?_eq_some_iff {t : Bytes} :
    token? headers = some t ↔ headers.first? authorization = some (Bytes.ofString "Bearer " ++ t) := by
  simp only [token?, Option.bind_eq_some_iff, Bytes.afterBeginning?_eq_some_iff, exists_eq_right]

theorem authorizes_iff (hc : a.Collisionless headers) : a.authorizes headers = true ↔ a.Granted headers := by
  rw [Granted, ← token?_eq_some_iff, authorizes, Credential.verify_eq_true_iff]
  constructor
  · rintro ⟨s, t, hs, hne, ht, hd⟩
    obtain rfl := Option.some.inj hs
    exact ⟨hne, by rw [ht, hc t ht hd]⟩
  · rintro ⟨hk, ht⟩
    exact ⟨a.key, _, rfl, hk, ht, rfl⟩

/-- What a request is answered, by whom it comes from and what it asks for. Without the key the answer is the same
whatever is the matter with the queue. -/
structure Answers (a : Admin) (s : Queue.Snapshot) (m : Method) (path : Bytes) (headers : Headers) : Prop where
  shut : ¬a.Granted headers → (a.respond s m path headers).status = 401 ∧ (a.respond s m path headers).body = [] ∧
    ∀ u, a.respond u m path headers = a.respond s m path headers
  unknown : a.Granted headers → path ≠ Bytes.ofString "/admin/status" → path ≠ Bytes.ofString "/admin/queue" →
    a.respond s m path headers = .bare 404
  method : a.Granted headers → path = Bytes.ofString "/admin/status" ∨ path = Bytes.ofString "/admin/queue" →
    m ≠ .get → m ≠ .head → (a.respond s m path headers).status = 405 ∧ (a.respond s m path headers).body = []
  queue : a.Granted headers → path = Bytes.ofString "/admin/queue" → m = .get →
    (a.respond s m path headers).status = 200 ∧
    ∃ entries, (Bytes.toChars? (a.respond s m path headers).body).bind Json.Reader.read? = some (.table entries) ∧
      entries.Perm [("pending", .ofNat s.pending), ("in_flight", .ofNat s.inFlight),
        ("max_concurrency", .ofNat s.maxConcurrency.toNat), ("max_queue_size", .ofNat s.maxQueueSize.toNat),
        ("admitted_total", .ofNat s.admitted.toNat), ("rejected_total", .ofNat s.rejected.toNat),
        ("completed_total", .ofNat s.completed.toNat), ("upstream_failures_total", .ofNat s.failed.toNat)]

theorem isExact_queueDocument (hp : s.pending < 0x10000000000000000) (hi : s.inFlight < 0x10000000000000000) :
    (queueDocument s).isExact = true := by
  have hword (n : UInt64) : (Document.ofNat n.toNat).isExact = true := Document.isExact_ofNat n.toNat_lt
  simp only [queueDocument, Document.isExact, Document.entriesExact, Document.isExact_ofNat hp, Document.isExact_ofNat hi,
    hword, Bool.and_self]

theorem read?_documentResponse {d : Document} (h : d.isExact = true) :
    (Bytes.toChars? (documentResponse .get d).body).bind Json.Reader.read? = some d.canonical := by
  have hget : Method.get ≠ Method.head := by decide
  have hb : (documentResponse .get d).body = Bytes.ofChars (Json.Writer.compact d) := by
    simp [documentResponse, hget]
  rw [hb, Bytes.toChars?_ofChars, Option.bind_some, Json.read?_compact h]

theorem answers (hc : a.Collisionless headers) (hp : s.pending < 0x10000000000000000)
    (hi : s.inFlight < 0x10000000000000000) (m : Method) (path : Bytes) : a.Answers s m path headers := by
  have hgranted (h : a.Granted headers) : a.authorizes headers = true := (authorizes_iff hc).mpr h
  constructor
  case shut =>
    intro h
    have ha : a.authorizes headers = false := by
      rw [← Bool.not_eq_true, authorizes_iff hc]
      exact h
    have hr (u : Queue.Snapshot) : a.respond u m path headers = ⟨401, allowed (Page.ofPath? path) m, []⟩ := by
      simp [respond, ha]
    rw [hr s]
    exact ⟨rfl, rfl, hr⟩
  case unknown =>
    intro h hstatus hqueue
    have hpage : Page.ofPath? path = none := by simp [Page.ofPath?, hstatus, hqueue]
    simp [respond, hgranted h, hpage]
  case method =>
    intro h hpath hget hhead
    obtain ⟨page, hpage⟩ : ∃ page, Page.ofPath? path = some page := by
      obtain rfl | rfl := hpath
      · exact ⟨.status, rfl⟩
      · exact ⟨.queue, rfl⟩
    have hreading : isReading m = false := by simp [isReading, hget, hhead]
    simp [respond, hgranted h, hpage, hreading]
  case queue =>
    rintro h rfl rfl
    have hr : a.respond s .get (Bytes.ofString "/admin/queue") headers = documentResponse .get (queueDocument s) := by
      simp only [respond, hgranted h]
      rfl
    have hkeys : ["pending", "in_flight", "max_concurrency", "max_queue_size", "admitted_total", "rejected_total",
        "completed_total", "upstream_failures_total"].Nodup := by decide
    rw [hr, read?_documentResponse (isExact_queueDocument hp hi)]
    exact ⟨rfl, _, rfl, Document.perm_canonicalEntries [] _ hkeys⟩

structure LeavesAlone (a : Admin) (q : Queue) (m : Method) (path : Bytes) (headers : Headers) : Prop where
  asked : ∀ x r, q.deed? (.ask a m path headers) = some (x, r) →
    x = .response (a.respond q.snapshot m path headers) ∧ r = q
  scripted : ∀ t : Queue.Scenario, t.queue = q → t.admin = a →
    t.perform (.ask m path headers) = (.response (a.respond q.snapshot m path headers), t)
  steps : ∀ (b : Queue.Action) r x, b.reads = true → q.act? b = some (r, x) → r = { q with reading := r.reading }
  row : q.isFree = true → q.acts? [.lock, .loadAdmitted, .loadRejected, .loadCompleted, .loadFailed] =
    some (q, [q.snapshot])

theorem leavesAlone (a : Admin) (q : Queue) (m : Method) (path : Bytes) (headers : Headers) :
    a.LeavesAlone q m path headers := by
  constructor
  case asked =>
    intro x r h
    simp only [Queue.deed?, Option.ite_none_right_eq_some, Option.some.injEq, Prod.mk.injEq] at h
    exact ⟨h.2.1.symm, h.2.2.symm⟩
  case scripted =>
    rintro t rfl rfl
    rfl
  case steps => exact fun b r x hb h => (Queue.of_reads hb h).1
  case row =>
    intro h
    have hn : q.reading = .none := of_decide_eq_true h
    have hq : { q with reading := .none } = q := by rw [← hn]
    simp only [Queue.acts?, Queue.act?, h, if_true, Option.bind_eq_bind, Option.bind_some, Option.toList_none,
      Option.toList_some, List.nil_append, List.append_nil, hq]
    rfl

/-- For every key, every run and every request, provided that nothing else has the digest of the key: only who has the
key learns anything about the queue, what is read is the snapshot of the moment, number by number, and so is every
snapshot that a run has finished; and the queue is left as it is. -/
theorem authenticated_faithful_and_read_only {allowed : Queue → Queue.Event → Prop} {limits : Config.Queue}
    {log : List Queue.Sign} {q : Queue} (h : Queue.Run allowed (Queue.new limits) log q)
    (hc : a.Collisionless headers) (m : Method) (path : Bytes) :
    a.Answers q.snapshot m path headers ∧
      (∀ r x, q.act? .loadFailed = some (r, some x) → a.Answers x m path headers) ∧
      a.LeavesAlone q m path headers := by
  have hb := h.moves.balanced (Queue.distinct_new limits) (.new limits)
  have hl : q.limits = limits := h.moves.limits
  have hroom : q.pending.length ≤ limits.maxQueueSize.toNat := hl ▸ hb.room
  have hslots : q.inFlight ≤ limits.maxConcurrency.toNat := hl ▸ hb.slots
  have hqueue := limits.maxQueueSize.toNat_lt
  have hconcurrency := limits.maxConcurrency.toNat_lt
  refine ⟨answers hc (Nat.lt_of_le_of_lt hroom hqueue) (Nat.lt_of_le_of_lt hslots hconcurrency) m path, ?_,
    leavesAlone a q m path headers⟩
  intro r x hx
  obtain ⟨hp, hi⟩ := (h.reading_within.of_reads hroom hslots rfl hx).2 x rfl
  exact answers hc (Nat.lt_of_le_of_lt hp hqueue) (Nat.lt_of_le_of_lt hi hconcurrency) m path

/-- The numbers of the queue after `overtaking`, for one who has the key and for one who has not. -/
theorem authenticated_faithful_and_read_only_overtaking :
    ∃ log q, (Queue.new ⟨1, 1⟩).play? Queue.overtaking = some (log, q) ∧
      (∃ entries, (Bytes.toChars? (respond ⟨"key", "http://up.test"⟩ q.snapshot .get (Bytes.ofString "/admin/queue")
          [(authorization, Bytes.ofString "Bearer key")]).body).bind Json.Reader.read? = some (.table entries) ∧
        entries.Perm [("pending", .ofNat 0), ("in_flight", .ofNat 1), ("max_concurrency", .ofNat 1),
          ("max_queue_size", .ofNat 1), ("admitted_total", .ofNat 2), ("rejected_total", .ofNat 0),
          ("completed_total", .ofNat 1), ("upstream_failures_total", .ofNat 1)]) ∧
      ∀ path, (respond ⟨"key", "http://up.test"⟩ q.snapshot .get path []).status = 401 := by
  obtain ⟨log, q, h, hq⟩ : ∃ log q, (Queue.new ⟨1, 1⟩).play? Queue.overtaking = some (log, q) ∧
      q.snapshot = ⟨0, 1, 1, 1, 2, 0, 1, 1⟩ := ⟨_, _, rfl, rfl⟩
  have hrun : Queue.Run Queue.attended (Queue.new ⟨1, 1⟩) log q := Queue.run_of_play? Queue.attended_overtaking h
  refine ⟨log, q, h, ?_, fun path => ?_⟩
  · have hfirst : Headers.first? [(authorization, Bytes.ofString "Bearer key")] authorization =
        some (Bytes.ofString "Bearer " ++ Bytes.ofString "key") := rfl
    have hc : Collisionless ⟨"key", "http://up.test"⟩ [(authorization, Bytes.ofString "Bearer key")] := by
      intro t ht _
      rw [token?_eq_some_iff, hfirst, Option.some.injEq, List.append_cancel_left_eq] at ht
      exact ht.symm
    have hg : Granted ⟨"key", "http://up.test"⟩ [(authorization, Bytes.ofString "Bearer key")] := ⟨by decide, hfirst⟩
    have hanswers := (authenticated_faithful_and_read_only hrun hc .get (Bytes.ofString "/admin/queue")).1
    obtain ⟨-, entries, hread, hperm⟩ := hanswers.queue hg rfl rfl
    rw [hq] at hread hperm ⊢
    exact ⟨entries, hread, hperm⟩
  · have hc : Collisionless ⟨"key", "http://up.test"⟩ [] := by
      intro t ht
      cases ht
    have hn : ¬Granted ⟨"key", "http://up.test"⟩ [] := fun hg => by cases hg.2
    exact ((authenticated_faithful_and_read_only hrun hc .get path).1.shut hn).1

end Admin

end Turnstile
