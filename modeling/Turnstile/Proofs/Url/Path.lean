import Turnstile.Proofs.Url.Segments
import Turnstile.Proofs.Url.Unbroken

namespace Turnstile

theorem not_mem_of_mem_splitOn {α : Type} [BEq α] [LawfulBEq α] {sep : α} {xs part : List α}
    (h : part ∈ xs.splitOn sep) : sep ∉ part := by
  induction xs generalizing part with
  | nil =>
    rw [List.splitOn_nil, List.mem_singleton] at h
    subst h
    exact List.not_mem_nil
  | cons x xs ih =>
    rw [List.splitOn_cons_eq_if_modifyHead] at h
    split at h
    · obtain rfl | h := List.mem_cons.mp h
      · exact List.not_mem_nil
      · exact ih h
    · next hx =>
      generalize hs : xs.splitOn sep = parts at h ih
      cases parts with
      | nil => exact absurd hs (List.splitOn_ne_nil sep xs)
      | cons head rest =>
        rw [List.modifyHead_cons] at h
        obtain rfl | h := List.mem_cons.mp h
        · intro hm
          obtain rfl | hm := List.mem_cons.mp hm
          · exact hx (beq_self_eq_true _)
          · exact ih (by simp) hm
        · exact ih (List.mem_cons_of_mem _ h)

theorem Bytes.exists_eq_dropEnd_append (p : UInt8 → Bool) (s : Bytes) :
    ∃ tail, s = dropEnd p s ++ tail ∧ ∀ b ∈ tail, p b = true := by
  refine ⟨(s.reverse.takeWhile p).reverse, ?_, ?_⟩
  · rw [dropEnd, ← List.reverse_append, List.takeWhile_append_dropWhile, List.reverse_reverse]
  · intro b hb
    exact List.all_eq_true.mp List.all_takeWhile b (List.mem_reverse.mp hb)

theorem Bytes.dropEnd_append {p : UInt8 → Bool} {a : Bytes} (h : ∀ b, a.getLast? = some b → p b = false) (s : Bytes) :
    dropEnd p (a ++ s) = a ++ dropEnd p s := by
  have ha : a.reverse.dropWhile p = a.reverse := by
    cases hr : a.reverse with
    | nil => rfl
    | cons b rest =>
      have hb : a.getLast? = some b := by rw [← List.head?_reverse, hr, List.head?_cons]
      rw [List.dropWhile_cons_of_neg (by rw [h b hb]; exact Bool.false_ne_true)]
  rw [dropEnd, List.reverse_append, List.dropWhile_append]
  split
  · next he => rw [ha, dropEnd, List.isEmpty_iff.mp he, List.reverse_reverse, List.reverse_nil, List.append_nil]
  · rw [List.reverse_append, List.reverse_reverse, dropEnd]

namespace Url

open Reader (slash resolve)

theorem not_isDots_nil : ¬IsDots [] := by
  rintro (h | h) <;> cases h

theorem dotFree_append_slash {a b : Bytes} : DotFree (a ++ slash :: b) ↔ DotFree a ∧ DotFree b := by
  simp only [DotFree, List.splitOn_append_cons_self, List.forall_mem_append]

theorem dotFree_nil : DotFree [] := by
  simpa [DotFree] using not_isDots_nil

theorem dotFree_slash_cons {path : Bytes} : DotFree (slash :: path) ↔ DotFree path := by
  have h := dotFree_append_slash (a := []) (b := path)
  rw [List.nil_append] at h
  rw [h]
  exact and_iff_right dotFree_nil

theorem DotFree.append {a b : Bytes} (ha : DotFree a) (hb : DotFree b) (hs : b = [] ∨ b.head? = some slash) :
    DotFree (a ++ b) := by
  obtain rfl | hs := hs
  · rwa [List.append_nil]
  · obtain ⟨rest, rfl⟩ := List.head?_eq_some_iff.mp hs
    exact dotFree_append_slash.mpr ⟨ha, dotFree_slash_cons.mp hb⟩

theorem DotFree.dropEnd {path : Bytes} (h : DotFree path) : DotFree (Bytes.dropEnd (· = 0x2F) path) := by
  obtain ⟨tail, he, ht⟩ := Bytes.exists_eq_dropEnd_append (· = 0x2F) path
  cases tail with
  | nil => rwa [he, List.append_nil] at h
  | cons b tail =>
    obtain rfl : b = slash := of_decide_eq_true (ht b List.mem_cons_self)
    rw [he] at h
    exact (dotFree_append_slash.mp h).1

/-- A segment that is kept was there and is no dot segment, or is the empty one that a dot segment leaves at the end. -/
theorem mem_resolve {done segments : List Bytes} {s : Bytes} (h : s ∈ resolve done segments) :
    s ∈ done ∨ s = [] ∨ (s ∈ segments ∧ ¬IsDots s) := by
  induction segments generalizing done with
  | nil => exact .inl (by simpa [resolve] using h)
  | cons x rest ih =>
    have hrest : (s ∈ rest ∧ ¬IsDots s) → s ∈ x :: rest ∧ ¬IsDots s := fun h => ⟨List.mem_cons_of_mem _ h.1, h.2⟩
    rw [resolve] at h
    split at h
    -- either kind of dot segment leaves an empty one where it is the last
    · obtain h | h | h := ih h
      · split at h
        · obtain rfl | h := List.mem_cons.mp h
          · exact .inr (.inl rfl)
          · exact .inl (List.mem_of_mem_drop h)
        · exact .inl (List.mem_of_mem_drop h)
      · exact .inr (.inl h)
      · exact .inr (.inr (hrest h))
    split at h
    · obtain h | h | h := ih h
      · split at h
        · obtain rfl | h := List.mem_cons.mp h
          · exact .inr (.inl rfl)
          · exact .inl h
        · exact .inl h
      · exact .inr (.inl h)
      · exact .inr (.inr (hrest h))
    · next hd hs =>
      obtain h | h | h := ih h
      · obtain rfl | h := List.mem_cons.mp h
        · exact .inr (.inr ⟨List.mem_cons_self, fun hx => (isDots_iff.mp hx).elim hs hd⟩)
        · exact .inl h
      · exact .inr (.inl h)
      · exact .inr (.inr (hrest h))

theorem resolve_of_dotFree {done segments : List Bytes} (h : ∀ s ∈ segments, ¬IsDots s) :
    resolve done segments = done.reverse ++ segments := by
  induction segments generalizing done with
  | nil => simp [resolve]
  | cons x rest ih =>
    have hx : ¬IsDots x := h x List.mem_cons_self
    rw [isDots_iff, not_or] at hx
    rw [resolve, if_neg hx.2, if_neg hx.1, ih fun s hs => h s (List.mem_cons_of_mem _ hs), List.reverse_cons,
      List.append_assoc, List.singleton_append]

/-- The path with its dot segments resolved. -/
def withoutDots (path : Bytes) : Bytes := slash :: [slash].intercalate (resolve [] ((path.drop 1).splitOn slash))

theorem withoutDots_of_dotFree {path : Bytes} (h : DotFree path) (hp : path.head? = some slash) :
    withoutDots path = path := by
  obtain ⟨rest, rfl⟩ := List.head?_eq_some_iff.mp hp
  rw [withoutDots, List.drop_one, List.tail_cons, resolve_of_dotFree (dotFree_slash_cons.mp h), List.reverse_nil,
    List.nil_append, List.intercalate_splitOn]

/-- What the path of a URL with an authority is like. Its octets are octets that a request target may have. -/
structure IsRooted (path : Bytes) : Prop where
  head : path.head? = some slash
  dotFree : DotFree path
  octets : ∀ b ∈ path, Http.Uri.isPathOctet b = true ∧ b < 0x80

theorem IsRooted.whole {path : Bytes} (h : IsRooted path) :
    ∀ b ∈ path, b ≠ Http.Uri.question ∧ b ≠ Http.Uri.hash := by
  intro b hb
  have ho := (h.octets b hb).1
  constructor
  · rintro rfl
    exact absurd ho (by decide)
  · rintro rfl
    exact absurd ho (by decide)

theorem Percent.octets_encode_inPath (cs : List Char) :
    ∀ b ∈ encode inPath cs, Http.Uri.isPathOctet b = true ∧ b < 0x80 := by
  have hall : ∀ b : UInt8, b < 0x80 → inPath b = false → Http.Uri.isPathOctet b = true := by
    intro b hb
    exact Bytes.forall_ascii (p := fun b => inPath b = false → Http.Uri.isPathOctet b = true) (by decide) hb
  apply forall_mem_encode
  · decide
  · decide
  · exact fun b _ hs hb => ⟨hall b hb hs, hb⟩

theorem isRooted_readPath (common : Bool) (cs : List Char) : IsRooted (Reader.readPath common cs) := by
  have hkept : ∀ s ∈ resolve [] ((Reader.segments common cs).map (Percent.encode Percent.inPath)),
      slash ∉ s ∧ (∀ b ∈ s, Http.Uri.isPathOctet b = true ∧ b < 0x80) ∧ ¬IsDots s := by
    intro s hs
    obtain h | rfl | ⟨h, hd⟩ := mem_resolve hs
    · cases h
    · exact ⟨List.not_mem_nil, List.forall_mem_nil _, not_isDots_nil⟩
    · obtain ⟨part, hp, rfl⟩ := List.mem_map.mp h
      have hu : Unbroken (Percent.encode Percent.inPath part) :=
        Percent.unbroken_encode_inPath (not_mem_of_mem_splitOn hp)
      exact ⟨fun hm => hu.ne_of_mem hm (by decide) rfl, Percent.octets_encode_inPath part, hd⟩
  unfold Reader.readPath
  dsimp only
  -- no slash in a kept segment, so that splitting undoes the joining
  generalize resolve [] ((Reader.segments common cs).map (Percent.encode Percent.inPath)) = kept at hkept
  constructor
  case head => rfl
  case dotFree =>
    rw [dotFree_slash_cons]
    by_cases hn : kept = []
    · subst hn
      exact dotFree_nil
    · rw [DotFree, List.splitOn_intercalate slash (fun s hs => (hkept s hs).1) hn]
      exact fun s hs => (hkept s hs).2.2
  case octets =>
    rw [List.forall_mem_cons]
    refine ⟨by decide, ?_⟩
    apply forall_mem_intercalate
    · exact List.forall_mem_singleton.mpr (by decide)
    · exact fun s hs => (hkept s hs).2.1

/-- The common schemes read a path from whatever follows an authority. -/
theorem isRooted_pathAfterHost (cs : List Char) : IsRooted (Reader.pathAfterHost true cs) := by
  unfold Reader.pathAfterHost
  split
  · exact ⟨rfl, dotFree_slash_cons.mpr dotFree_nil, List.forall_mem_singleton.mpr (by decide)⟩
  · split
    · exact isRooted_readPath true _
    · exact isRooted_readPath true _

end Url

end Turnstile
