import Mathlib.Data.List.TakeWhile
import Turnstile.Proofs.Http.Uri

namespace Turnstile.Http.Uri

/-- Octets that the scan of an authority takes no notice of, if an authority may have them at all. -/
def isMute (b : UInt8) : Bool := b != colon && b != at_ && b != openBracket && b != closeBracket && b != percent

/-- The octets of names, which leave the scan of an authority as it is. -/
def isPlain (b : UInt8) : Bool := isMute b && isAuthorityOctet b

namespace Scan

variable {s s' : Scan} {a : Bytes}

theorem step_of_isMute {c : UInt8} (h : isMute c = true) :
    s.step c = if isAuthorityOctet c then .ok s else .error .badCharacter := by
  simp only [isMute, Bool.and_eq_true, bne_iff_ne] at h
  obtain ⟨⟨⟨⟨hcolon, hat⟩, hopen⟩, hclose⟩, hpercent⟩ := h
  simp only [step, hcolon, hat, hopen, hclose, hpercent, if_false]

theorem run_append (s : Scan) (a b : Bytes) : run s (a ++ b) = (run s a).bind fun s => run s b := by
  induction a generalizing s with
  | nil => rfl
  | cons c a ih =>
    rw [List.cons_append, run, run]
    cases s.step c with
    | ok s => exact ih s
    | error e => rfl

theorem run_of_isMute (h : ∀ c ∈ a, isMute c = true) :
    run s a = if a.all isAuthorityOctet then .ok s else .error .badCharacter := by
  induction a with
  | nil => rfl
  | cons c a ih =>
    obtain ⟨hc, ha⟩ := List.forall_mem_cons.mp h
    rw [run, step_of_isMute hc, List.all_cons]
    cases isAuthorityOctet c with
    | true => exact ih ha
    | false => rfl

theorem run_of_isPlain (h : ∀ c ∈ a, isPlain c = true) : run s a = .ok s := by
  simp only [isPlain, Bool.and_eq_true] at h
  rw [run_of_isMute fun c hc => (h c hc).1, if_pos (List.all_eq_true.mpr fun c hc => (h c hc).2)]

theorem step_of_isPlain {c : UInt8} (h : isPlain c = true) : s.step c = .ok s := by
  obtain ⟨hm, ha⟩ := Bool.and_eq_true_iff.mp h
  rw [step_of_isMute hm, if_pos ha]

theorem run_of_escaped (h : ∀ c ∈ a, isPlain c = true ∨ c = Uri.percent) :
    ∃ p, run s a = .ok { s with percent := p } := by
  induction a generalizing s with
  | nil => exact ⟨s.percent, rfl⟩
  | cons c a ih =>
    obtain ⟨hc, ha⟩ := List.forall_mem_cons.mp h
    obtain hc | rfl := hc
    · rw [run, step_of_isPlain hc]
      exact ih ha
    · obtain ⟨p, hp⟩ := @ih { s with percent := true } ha
      exact ⟨p, hp⟩

/-- Of colons the scan keeps in mind how many there were, and it can count to eight. -/
theorem run_of_colons (h : ∀ c ∈ a, isPlain c = true ∨ c = colon) (hl : s.colons + a.count colon ≤ 8) :
    run s a = .ok { s with colons := s.colons + a.count colon } := by
  induction a generalizing s with
  | nil => rfl
  | cons c a ih =>
    obtain ⟨hc, ha⟩ := List.forall_mem_cons.mp h
    obtain hc | rfl := hc
    · have hne : c ≠ colon := by
        rintro rfl
        exact absurd hc (by decide)
      rw [List.count_cons_of_ne hne] at hl ⊢
      rw [run, step_of_isPlain hc]
      exact ih ha hl
    · rw [List.count_cons_self] at hl ⊢
      have hs : s.step colon = .ok { s with colons := s.colons + 1 } := by
        rw [step, if_pos rfl, if_neg (by omega)]
      have hrun := @ih { s with colons := s.colons + 1 } ha (by dsimp only; omega)
      rw [run, hs]
      dsimp only at hrun ⊢
      rw [hrun, Nat.add_assoc, Nat.add_comm 1]

end Scan

section Authority

variable {authority rest : Bytes} {scan : Scan}

theorem splitAuthority_of_run (ha : ∀ b ∈ authority, endsAuthority b = false)
    (hr : ∀ b, rest.head? = some b → endsAuthority b = true) (h : Scan.run {} authority = .ok scan)
    (hbalanced : scan.opened = scan.closed) (hcolons : scan.colons ≤ 1) (hpercent : scan.percent = false)
    (hlast : authority.getLast? ≠ some at_) : splitAuthority (authority ++ rest) = .ok (authority, rest) := by
  unfold splitAuthority
  rw [span_endsAuthority ha hr]
  dsimp only
  rw [h]
  dsimp only
  apply if_neg
  simpa [hbalanced, hpercent, hlast] using hcolons

theorem splitAuthority_of_error {e : UriError} (ha : ∀ b ∈ authority, endsAuthority b = false)
    (hr : ∀ b, rest.head? = some b → endsAuthority b = true) (h : Scan.run {} authority = .error e) :
    splitAuthority (authority ++ rest) = .error e := by
  unfold splitAuthority
  rw [span_endsAuthority ha hr]
  dsimp only
  rw [h]

end Authority

section Path

variable {s base : Bytes} {u : Uri}

theorem isSome_decodeWith (n : Nat) (done done' : List Char) (s : Bytes) :
    (Bytes.decodeWith n done s).isSome = (Bytes.decodeWith n done' s).isSome := by
  induction n generalizing done done' s with
  | zero => cases s <;> rfl
  | succ n ih =>
    cases s with
    | nil => rfl
    | cons b s =>
      simp only [Bytes.decodeWith]
      cases Bytes.decodeChar? (b :: s) with
      | none => rfl
      | some p => exact ih _ _ _

theorem isSome_toChars?_append (ha : ∀ b ∈ base, b < 0x80) (s : Bytes) :
    (Bytes.toChars? (base ++ s)).isSome = (Bytes.toChars? s).isSome := by
  unfold Bytes.toChars?
  generalize ([] : List Char) = done
  induction base generalizing done with
  | nil => rfl
  | cons b base ih =>
    obtain ⟨hb, ha⟩ := List.forall_mem_cons.mp ha
    have hd : Bytes.decodeChar? (b :: (base ++ s)) = some (Char.ofNat b.toNat, base ++ s) := if_pos hb
    simp only [List.cons_append, List.length_cons, Bytes.decodeWith, hd]
    exact (ih ha _).trans (isSome_decodeWith _ _ _ _)

theorem isText_append (ha : ∀ b ∈ base, b < 0x80) (hs : isText s = true) : isText (base ++ s) = true := by
  unfold isText at hs ⊢
  rw [isSome_toChars?_append ha, List.all_append]
  obtain hs | hs := Bool.or_eq_true_iff.mp hs
  · rw [hs, List.all_eq_true.mpr fun b hb => decide_eq_true (ha b hb)]
    rfl
  · rw [hs, Bool.or_true]

/-- Path and query have the octets of paths and queries, and they are text. -/
structure Spelled (u : Uri) : Prop where
  path : ∀ b ∈ u.rawPath, isPathOctet b = true
  query : ∀ q, u.query = some q → ∀ b ∈ q, isQueryOctet b = true
  text : isText (u.rawPath ++ u.queryText) = true

theorem spelled_of_splitPath (h : splitPath s = .ok (u.rawPath, u.query)) : u.Spelled := by
  unfold splitPath at h
  dsimp only at h
  split at h
  · cases h
  next hpath =>
  have hpath : ∀ b ∈ (s.span fun b => b != question && b != hash).1, isPathOctet b = true := by
    simpa using hpath
  split at h
  · split at h
    · next ht =>
      obtain ⟨hp, hq⟩ := Prod.mk.inj (Except.ok.inj h)
      exact ⟨hp ▸ hpath, by simp [← hq], by simpa [queryText, ← hp, ← hq] using ht⟩
    · cases h
  · split at h
    · split at h
      · next hquery =>
        obtain ⟨hq', ht⟩ := Bool.and_eq_true_iff.mp hquery
        obtain ⟨hp, hq⟩ := Prod.mk.inj (Except.ok.inj h)
        refine ⟨hp ▸ hpath, ?_, by simpa [queryText, ← hp, ← hq] using ht⟩
        rintro q hs
        rw [← hq, Option.some.injEq] at hs
        subst hs
        exact List.all_eq_true.mp hq'
      · cases h
    · split at h
      · next ht =>
        obtain ⟨hp, hq⟩ := Prod.mk.inj (Except.ok.inj h)
        exact ⟨hp ▸ hpath, by simp [← hq], by simpa [queryText, ← hp, ← hq] using ht⟩
      · cases h

theorem Spelled.splitPath_eq (h : u.Spelled) : splitPath (u.rawPath ++ u.queryText) = .ok (u.rawPath, u.query) := by
  have hraw : ∀ b ∈ u.rawPath, (b != question && b != hash) = true := by
    have hall : ∀ b, isPathOctet b = true → b ≠ question ∧ b ≠ hash := by
      intro b hb
      constructor
      all_goals
        rintro rfl
        exact absurd hb (by decide)
    intro b hb
    simpa using hall b (h.path b hb)
  have hpath : u.rawPath.all isPathOctet = true := List.all_eq_true.mpr h.path
  have htext := h.text
  cases hq : u.query with
  | none =>
    have hstop : ∀ b, ([] : Bytes).head? = some b → (b != question && b != hash) = false := by simp
    simp only [queryText, hq] at htext ⊢
    rw [List.append_nil] at htext
    simp only [splitPath, span_append hraw hstop, hpath, htext]
    rfl
  | some q =>
    have hstop : ∀ b, (question :: q).head? = some b → (b != question && b != hash) = false := by
      rintro b ⟨⟩
      decide
    have hquery : q.takeWhile (· != hash) = q := by
      rw [List.takeWhile_eq_self_iff]
      intro b hb
      rw [bne_iff_ne]
      rintro rfl
      exact absurd (h.query q hq _ hb) (by decide)
    have hall : q.all isQueryOctet = true := List.all_eq_true.mpr (h.query q hq)
    simp only [queryText, hq] at htext ⊢
    simp only [splitPath, span_append hraw hstop, hpath, hquery, hall, htext]
    rfl

theorem Spelled.under (h : u.Spelled) (hb : ∀ b ∈ base, isPathOctet b = true ∧ b < 0x80) :
    ({ u with rawPath := base ++ u.rawPath }).Spelled := by
  constructor
  case path => exact List.forall_mem_append.mpr ⟨fun b hm => (hb b hm).1, h.path⟩
  case query => exact h.query
  case text =>
    change isText (base ++ u.rawPath ++ u.queryText) = true
    rw [List.append_assoc]
    exact isText_append (fun b hm => (hb b hm).2) h.text

theorem spelled_of_parse {t : Bytes} (h : parse t = .ok u) : u.Spelled := by
  obtain ⟨-, hraw, hq⟩ | ⟨-, s, hs⟩ := of_parse h
  · exact ⟨by simp [hraw], by simp [hq], by simp [queryText, hraw, hq, isText]⟩
  · exact spelled_of_splitPath hs

theorem exists_spelled {t pq : Bytes} (h : parse t = .ok u) (hpq : u.pathAndQuery? = some pq) :
    ∃ v : Uri, v.Spelled ∧ pq = v.rawPath ++ v.queryText := by
  have hu := spelled_of_parse h
  unfold pathAndQuery? at hpq
  split at hpq
  · cases hpq
    split
    · next he =>
      obtain ⟨hraw, hquery⟩ := List.append_eq_nil_iff.mp (List.isEmpty_iff.mp he)
      have hslash : ∀ b ∈ [slash], isPathOctet b = true ∧ b < 0x80 := List.forall_mem_singleton.mpr (by decide)
      refine ⟨_, hu.under hslash, ?_⟩
      change _ = [slash] ++ u.rawPath ++ u.queryText
      rw [hraw, hquery]
      rfl
    · exact ⟨u, hu, rfl⟩
  · cases hpq

end Path

end Turnstile.Http.Uri
