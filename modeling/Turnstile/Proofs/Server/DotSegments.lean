import Turnstile.Proofs.Http.Hop

namespace Turnstile.Job

open Http.Uri (slash question)
open Url (IsDots SpellsDots dot dotForms hasDotSegment_eq_true_iff isDots_iff_spellsDots)
open Url.Percent (Decodes decodes_iff)

variable {pq segment : Bytes}

def IsSegment (pq segment : Bytes) : Prop :=
  slash ∉ segment ∧ ∃ before after, pq = before ++ segment ++ after ∧ question ∉ before ++ segment ∧
    (before = [] ∨ before.getLast? = some slash) ∧
    (after = [] ∨ after.head? = some slash ∨ after.head? = some question)

/-- What might be taken for dots: an escaped percent sign, a percent sign ahead of another one, or dots among others. -/
def Lookalike (segment : Bytes) : Prop :=
  Bytes.ofString "%25" <:+: segment ∨ Bytes.ofString "%%" <:+: segment ∨ ∃ w, Decodes segment w ∧ 2 < w.length

/-- What the check for dot segments finds in a path and query. -/
structure SeenExactly (pq : Bytes) : Prop where
  decoded : hasDotSegment pq = true ↔
    ∃ segment, IsSegment pq segment ∧ (Decodes segment [dot] ∨ Decodes segment [dot, dot])
  spelled : hasDotSegment pq = true ↔ ∃ segment, IsSegment pq segment ∧ SpellsDots segment
  unmistaken : ∀ segment, IsSegment pq segment → Lookalike segment → hasDotSegment segment = false
  query : ∀ query, hasDotSegment (pq ++ question :: query) = hasDotSegment pq

theorem head?_takeWhile_eq {after : Bytes} (h : after = [] ∨ after.head? = some slash ∨ after.head? = some question) :
    after.takeWhile (· != question) = [] ∨ (after.takeWhile (· != question)).head? = some slash := by
  obtain rfl | h | h := h
  · exact .inl rfl
  · obtain ⟨rest, rfl⟩ := List.head?_eq_some_iff.mp h
    exact .inr rfl
  · obtain ⟨rest, rfl⟩ := List.head?_eq_some_iff.mp h
    exact .inl rfl

theorem head?_append_dropWhile_eq {after : Bytes} (h : after = [] ∨ after.head? = some slash) (pq : Bytes) :
    after ++ pq.dropWhile (· != question) = [] ∨
      (after ++ pq.dropWhile (· != question)).head? = some slash ∨
      (after ++ pq.dropWhile (· != question)).head? = some question := by
  obtain rfl | h := h
  · have hstart := List.head?_dropWhile_not (· != question) pq
    rw [List.nil_append]
    generalize pq.dropWhile (· != question) = rest at hstart ⊢
    cases rest with
    | nil => exact .inl rfl
    | cons b rest =>
      obtain rfl : b = question := by simpa using hstart
      exact .inr (.inr rfl)
  · rw [List.head?_append, h]
    exact .inr (.inl rfl)

theorem isSegment_iff : IsSegment pq segment ↔ segment ∈ (pq.takeWhile (· != question)).splitOn slash := by
  rw [mem_splitOn_iff, IsSegment, and_congr_right_iff]
  intro _
  constructor
  · rintro ⟨before, after, rfl, hpath, hb, ha⟩
    refine ⟨before, after.takeWhile (· != question), ?_, hb, head?_takeWhile_eq ha⟩
    exact List.takeWhile_append_of_pos fun b hm => bne_iff_ne.mpr (ne_of_mem_of_not_mem hm hpath)
  · rintro ⟨before, after, he, hb, ha⟩
    refine ⟨before, after ++ pq.dropWhile (· != question), ?_, ?_, hb, head?_append_dropWhile_eq ha pq⟩
    · rw [← List.append_assoc, ← he, List.takeWhile_append_dropWhile]
    · intro hm
      have hpath : question ∈ pq.takeWhile (· != question) := he ▸ List.mem_append_left after hm
      exact absurd (List.all_eq_true.mp List.all_takeWhile question hpath) (by decide)

theorem isDots_iff_decodes : IsDots segment ↔ Decodes segment [dot] ∨ Decodes segment [dot, dot] := by
  rw [decodes_iff, decodes_iff, IsDots]

theorem not_isDots_of_lookalike (h : Lookalike segment) : ¬IsDots segment := by
  have hone : ∀ f ∈ dotForms, ¬Bytes.ofString "%25" <:+: f ∧ ¬Bytes.ofString "%%" <:+: f := by decide
  have htwo : ∀ f ∈ dotForms, ∀ g ∈ dotForms,
      ¬Bytes.ofString "%25" <:+: f ++ g ∧ ¬Bytes.ofString "%%" <:+: f ++ g := by decide
  intro hd
  have hplain : ¬Bytes.ofString "%25" <:+: segment ∧ ¬Bytes.ofString "%%" <:+: segment := by
    obtain hs | ⟨f, hf, g, hg, rfl⟩ := isDots_iff_spellsDots.mp hd
    · exact hone segment hs
    · exact htwo f hf g hg
  obtain h | h | ⟨w, hw, hlong⟩ := h
  · exact hplain.1 h
  · exact hplain.2 h
  · rw [decodes_iff] at hw
    subst hw
    obtain hd | hd := hd <;> simp [hd] at hlong

theorem hasDotSegment_iff_of_segment (hslash : slash ∉ segment) (hquestion : question ∉ segment) :
    hasDotSegment segment = true ↔ IsDots segment := by
  have hpath : segment.takeWhile (· != question) = segment :=
    List.takeWhile_eq_self_iff.mpr fun b hb => bne_iff_ne.mpr (ne_of_mem_of_not_mem hb hquestion)
  have hone : (segment.takeWhile (· != question)).splitOn slash = [segment] := by
    rw [hpath, List.splitOn_eq_singleton hslash]
  simp only [hasDotSegment_eq_true_iff, hone, List.mem_singleton, exists_eq_left]

theorem takeWhile_append_question (pq query : Bytes) :
    (pq ++ question :: query).takeWhile (· != question) = pq.takeWhile (· != question) := by
  induction pq with
  | nil => simp
  | cons b pq ih => simp only [List.cons_append, List.takeWhile_cons, ih]

/-- For every path and query: the check sees a dot segment exactly if a segment of the path decodes to one dot or two.
That is if the segment is one or two dots in any spelling; an escape of an escape is none, and the query has none. -/
theorem dot_segments_seen_exactly (pq : Bytes) : SeenExactly pq := by
  have hseen : hasDotSegment pq = true ↔ ∃ segment, IsSegment pq segment ∧ IsDots segment := by
    simp only [hasDotSegment_eq_true_iff, isSegment_iff]
  constructor
  case decoded => simpa only [isDots_iff_decodes] using hseen
  case spelled => simpa only [isDots_iff_spellsDots] using hseen
  case unmistaken =>
    rintro segment ⟨hslash, before, after, -, hquestion, -⟩ hlook
    rw [← Bool.not_eq_true, hasDotSegment_iff_of_segment hslash fun hm => hquestion (List.mem_append_right _ hm)]
    exact not_isDots_of_lookalike hlook
  case query =>
    intro query
    rw [Bool.eq_iff_iff, hasDotSegment_eq_true_iff, hasDotSegment_eq_true_iff, takeWhile_append_question]

example : hasDotSegment (Bytes.ofString "/v1/.%2E?x") = true := by decide

example : hasDotSegment (Bytes.ofString "/%252e/%%2e2e/v1.2..tar?next=/../x") = false := by decide

end Turnstile.Job
