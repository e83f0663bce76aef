import Turnstile.Proofs.Server.Destination
import Turnstile.Proofs.Server.Forwarding
import Turnstile.Proofs.Url.Authority

namespace Turnstile

open Http

theorem Http.Uri.head?_of_isRouted {t pq : Bytes} {u : Uri} (h : parse t = .ok u) (hr : Server.isRouted u = true)
    (hpq : u.pathAndQuery? = some pq) : pq.head? = some slash ∨ pq.head? = some question := by
  obtain ⟨pq', he, hhead, -⟩ := pathAndQuery_of_isRouted h hr
  rwa [Option.some.inj (hpq.symm.trans he)]

namespace Job

variable {origin : Url} {m : Method} {uri : Uri} {headers : Headers} {body t pq : Bytes} {s : String}

theorem hasDotSegment_eq_false (h : Url.DotFree (pq.takeWhile (· != Uri.question))) : hasDotSegment pq = false := by
  rw [Bool.eq_false_iff]
  intro hd
  obtain ⟨segment, hm, hd⟩ := Url.hasDotSegment_eq_true_iff.mp hd
  exact h segment hm hd

theorem forPath_eq (hd : origin.path = [0x2F] ∨ Url.DotFree (pq.takeWhile (· != Uri.question))) :
    (∀ target, Uri.parse (Origin.base origin ++ pq) = .ok target →
      ∃ job, forPath origin m pq headers body = .ok job) ∧
    ∀ e, Uri.parse (Origin.base origin ++ pq) = .error e → forPath origin m pq headers body = .error (.target e) := by
  have hopen : (Origin.hasBasePath origin && hasDotSegment pq) = false := by
    obtain hd | hd := hd
    · simp [Origin.hasBasePath, hd]
    · rw [hasDotSegment_eq_false hd, Bool.and_false]
  constructor
  · intro target ht
    exact ⟨_, by rw [forPath, hopen, if_neg Bool.false_ne_true, ht]⟩
  · intro e he
    rw [forPath, hopen, if_neg Bool.false_ne_true, he]

theorem parse_base (ho : Origin.parse s = .ok origin) (hf : ∀ b ∈ origin.hostText, Url.isForeign b = false)
    (ht : Uri.parse t = .ok uri) (hr : Server.isRouted uri = true) (hpq : uri.pathAndQuery? = some pq)
    (hl : (Origin.base origin ++ pq).length ≤ Uri.maxLength) :
    ∃ target, Uri.parse (Origin.base origin ++ pq) = .ok target := by
  obtain ⟨hhttp, hregular, -⟩ := Origin.regular_of_parse ho
  have hs := hregular.separable
  have hends := Origin.endsAuthority_of_head? hs (Uri.head?_of_isRouted ht hr hpq)
  obtain ⟨v, hv, rfl⟩ := Uri.exists_spelled ht hpq
  have hpath := (hv.under (Origin.octets_basePath hs)).splitPath_eq
  change Uri.splitPath (Origin.basePath origin ++ v.rawPath ++ v.queryText) = _ at hpath
  rw [List.append_assoc] at hpath
  rw [Origin.base_eq ho, List.append_assoc, List.append_assoc] at hl ⊢
  have hempty : origin.authority.isEmpty = false := by simpa using hs.authority_ne_nil
  rw [Uri.parse_http (Origin.isHttp_iff.mp hhttp) hl]
  simp only [hregular.splitAuthority_eq hf hends, hpath, hempty, bind, Except.bind]
  exact ⟨_, rfl⟩

theorem parse_base_of_isForeign (ho : Origin.parse s = .ok origin) (hf : ∃ b ∈ origin.hostText, Url.isForeign b = true)
    (hpq : pq.head? = some Uri.slash ∨ pq.head? = some Uri.question)
    (hl : (Origin.base origin ++ pq).length ≤ Uri.maxLength) :
    Uri.parse (Origin.base origin ++ pq) = .error .badCharacter := by
  obtain ⟨hhttp, hregular, -⟩ := Origin.regular_of_parse ho
  have hends := Origin.endsAuthority_of_head? hregular.separable hpq
  rw [Origin.base_eq ho, List.append_assoc, List.append_assoc] at hl ⊢
  rw [Uri.parse_http (Origin.isHttp_iff.mp hhttp) hl]
  simp only [hregular.splitAuthority_eq_error hf hends, bind, Except.bind]

theorem ne_ok_of_isForeign (ho : Origin.parse s = .ok origin) (hf : ∃ b ∈ origin.hostText, Url.isForeign b = true)
    (ht : Uri.parse t = .ok uri) (hr : Server.isRouted uri = true) (job : Job) :
    forTarget origin m uri headers body ≠ .ok job := by
  intro hj
  obtain ⟨pq, hpq, hhead, -⟩ := Uri.pathAndQuery_of_isRouted ht hr
  rw [forTarget, hpq, Option.getD_some] at hj
  have htarget := (of_forPath hj).2
  rw [parse_base_of_isForeign ho hf hhead (Uri.length_of_parse htarget)] at htarget
  cases htarget

/-- For every accepted origin and every request that has a route, where the target is not too long and no dot segment
meets a base path: there is a job if no octet of the host is foreign, and it is for a foreign octet that there is
none. -/
theorem served_unless_foreign (ho : Origin.parse s = .ok origin) (ht : Uri.parse t = .ok uri)
    (hr : Server.isRouted uri = true) (hpq : uri.pathAndQuery? = some pq)
    (hl : (Origin.base origin ++ pq).length ≤ Uri.maxLength)
    (hd : origin.path = [0x2F] ∨ Url.DotFree (pq.takeWhile (· != Uri.question))) (m : Method) (headers : Headers)
    (body : Bytes) :
    ((∀ b ∈ origin.hostText, Url.isForeign b = false) → ∃ job, forTarget origin m uri headers body = .ok job) ∧
    ((∃ b ∈ origin.hostText, Url.isForeign b = true) →
      forTarget origin m uri headers body = .error (.target .badCharacter)) := by
  obtain ⟨hok, herror⟩ := @forPath_eq origin m headers body pq hd
  rw [forTarget, hpq, Option.getD_some]
  constructor
  · intro hf
    obtain ⟨target, htarget⟩ := parse_base ho hf ht hr hpq hl
    exact hok target htarget
  · intro hf
    exact herror _ (parse_base_of_isForeign ho hf (Uri.head?_of_isRouted ht hr hpq) hl)

/-- An origin with every part that an authority can have, and a base path with escapes. -/
def adorned : Url where
  scheme := Bytes.ofString "https"
  username := Bytes.ofString "%7Bu%7D"
  password := some (Bytes.ofString "p%3A")
  host := some (.v6 [0x2001, 0xdb8, 0, 0, 0, 0, 0, 1])
  port := some 8443
  path := Bytes.ofString "/a|%22b//"

def quoting : Url where
  scheme := Bytes.ofString "http"
  host := some (.domain (Bytes.ofString "a\"b"))
  path := Bytes.ofString "/"

theorem served_unless_foreign_adorned :
    (∃ job, forTarget adorned .get ⟨none, [], [Uri.slash], none⟩ [] [] = .ok job ∧
      job.target.text = Bytes.ofString "https://%7Bu%7D:p%3A@[2001:db8::1]:8443/a|%22b/") ∧
    forTarget quoting .get ⟨none, [], [Uri.slash], none⟩ [] [] = .error (.target .badCharacter) := by
  have ht : Uri.parse [Uri.slash] = .ok ⟨none, [], [Uri.slash], none⟩ := rfl
  have hr : Server.isRouted ⟨none, [], [Uri.slash], none⟩ = true := by decide
  have hpq : Uri.pathAndQuery? ⟨none, [], [Uri.slash], none⟩ = some [Uri.slash] := rfl
  have hd : Url.DotFree ([Uri.slash].takeWhile (· != Uri.question)) := Url.dotFree_slash_cons.mpr Url.dotFree_nil
  constructor
  · have ho : Origin.parse "HTTPS://\x7bu\x7d:p:@[2001:DB8:0::1]:8443/a|\"b//" = .ok adorned :=
      eq_ok_of_toOption (by decide +kernel)
    obtain ⟨job, hj⟩ := (served_unless_foreign ho ht hr hpq (by decide +kernel) (.inr hd) .get [] []).1
      (by decide +kernel)
    have htext : (forTarget adorned .get ⟨none, [], [Uri.slash], none⟩ [] []).toOption.map (·.target.text) =
        some (Bytes.ofString "https://%7Bu%7D:p%3A@[2001:db8::1]:8443/a|%22b/") := by decide +kernel
    rw [hj] at htext
    exact ⟨job, hj, Option.some.inj htext⟩
  · have ho : Origin.parse "http://a\"b" = .ok quoting := eq_ok_of_toOption (by decide +kernel)
    exact (served_unless_foreign ho ht hr hpq (by decide +kernel) (.inl rfl) .get [] []).2 (by decide +kernel)

end Job

namespace Server

variable {server : Server} {r : Request} {t fresh : Bytes} {s : String}

theorem receive_of_isForeign (ho : Origin.parse s = .ok server.origin)
    (hf : ∃ b ∈ server.origin.hostText, Url.isForeign b = true) (ht : Uri.parse t = .ok r.target)
    (hr : isRouted r.target = true) (ha : server.gate.authorizes (RequestId.assign fresh r.headers) = true)
    (hl : r.body.length ≤ server.bodyLimit) :
    (server.receive fresh r).1 =
      .answered (identified (RequestId.assign fresh r.headers) Refusal.invalidTarget.response) := by
  have hscreen : server.screen { r with headers := RequestId.assign fresh r.headers } = .error .invalidTarget := by
    rw [screen_of_authorized ha, hr, if_neg (Nat.not_lt.mpr hl)]
    cases hj : Job.forTarget server.origin r.method r.target
        ((RequestId.assign fresh r.headers).remove server.gate.header) r.body with
    | error e => rfl
    | ok job => exact absurd hj (Job.ne_ok_of_isForeign ho hf ht hr job)
  simp only [receive, hscreen]
  rfl

def quoted : Config :=
  { forwarding := { origin := "http://a\"b" }
    auth := { secret := some "s" } }

/-- A configuration without a fault may still serve no request: a request for the root and a visit with the right secret
are refused for their targets, and so is every other request that gets as far. -/
theorem faultless_and_unserved : quoted.problems = [] ∧
    Origin.parse quoted.forwarding.origin = .ok Job.quoting ∧ Job.quoting.path = [0x2F] ∧
    (Origin.base Job.quoting ++ [Uri.slash]).length ≤ Uri.maxLength ∧
    Job.forTarget Job.quoting .get ⟨none, [], [Uri.slash], none⟩ [] [] = .error (.target .badCharacter) ∧
    ∃ server, ofConfig quoted = .ok server ∧
      (server.receive [0x69] visit).1 =
        .answered (identified (RequestId.assign [0x69] visit.headers) Refusal.invalidTarget.response) ∧
      ∀ (r : Request) (t fresh : Bytes), Uri.parse t = .ok r.target → isRouted r.target = true →
        server.gate.authorizes (RequestId.assign fresh r.headers) = true → r.body.length ≤ server.bodyLimit →
        (server.receive fresh r).1 =
          .answered (identified (RequestId.assign fresh r.headers) Refusal.invalidTarget.response) := by
  have hc : quoted.problems = [] := by decide +kernel
  have ho : Origin.parse quoted.forwarding.origin = .ok Job.quoting := eq_ok_of_toOption (by decide +kernel)
  have hj : Job.forTarget Job.quoting .get ⟨none, [], [Uri.slash], none⟩ [] [] = .error (.target .badCharacter) := rfl
  obtain ⟨origin, header, ho', hh, hs⟩ := exists_server_of_valid hc
  obtain rfl : Job.quoting = origin := Except.ok.inj (ho.symm.trans ho')
  have hh' : HeaderName.parse? (Bytes.ofString quoted.auth.headerName) = some ⟨Bytes.ofString "x-proxy-secret"⟩ := by
    decide +kernel
  obtain rfl := Option.some.inj (hh'.symm.trans hh)
  have hf : ∃ b ∈ Job.quoting.hostText, Url.isForeign b = true := by decide +kernel
  have ht : Uri.parse (Bytes.ofString "/a") = .ok visit.target := rfl
  refine ⟨hc, ho, rfl, by decide +kernel, hj, _, hs, ?_, ?_⟩
  · exact receive_of_isForeign ho hf ht (by decide) (by decide +kernel) (Nat.zero_le _)
  · exact fun r t fresh ht hr ha hl => receive_of_isForeign ho hf ht hr ha hl

end Server

end Turnstile
