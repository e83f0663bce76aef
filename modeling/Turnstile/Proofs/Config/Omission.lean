import Turnstile.Config.File
import Turnstile.Proofs.Client
import Turnstile.Proofs.Json.Roundtrip

namespace Turnstile

namespace Document

variable {entries es : List (String × Document)} {whole d : Document} {gone p : String → Bool} {k : String}

def keys (entries : List (String × Document)) : List String := entries.map Prod.fst

def select (p : String → Bool) (entries : List (String × Document)) : List (String × Document) :=
  entries.filter fun e => p e.1

/-- A table `whole` without the entries whose keys are `gone`, with any entries under keys that it did not have, in any
order. -/
def Edited (gone : String → Bool) (whole d : Document) : Prop :=
  ∃ entries es, whole = .table entries ∧ d = .table es ∧
    (select (fun k => k ∈ keys entries) es).Perm (select (fun k => !gone k) entries)

theorem lookup?_eq_some_iff (h : (keys entries).Nodup) : lookup? k entries = some d ↔ (k, d) ∈ entries := by
  induction entries with
  | nil => simp [lookup?]
  | cons e entries ih =>
    obtain ⟨hnew, hrest⟩ := List.nodup_cons.mp h
    specialize ih hrest
    by_cases he : e.1 = k
    · have hnone : (k, d) ∉ entries := fun hm => hnew (he ▸ List.mem_map_of_mem (f := Prod.fst) hm)
      have hfound : lookup? k (e :: entries) = some e.2 := by simp [lookup?, he]
      rw [hfound, Option.some.injEq, List.mem_cons, or_iff_left hnone, Prod.ext_iff]
      exact ⟨fun h => ⟨he.symm, h.symm⟩, fun h => h.2.symm⟩
    · have hnot : (k, d) ≠ e := fun h => he (h ▸ rfl)
      have hnext : lookup? k (e :: entries) = lookup? k entries := by simp [lookup?, he]
      rw [hnext, ih, List.mem_cons, or_iff_right hnot]

theorem lookup?_perm (h : entries.Perm es) (hn : (keys entries).Nodup) (k : String) :
    lookup? k entries = lookup? k es := by
  apply Option.ext
  intro d
  rw [lookup?_eq_some_iff hn, lookup?_eq_some_iff ((h.map Prod.fst).nodup_iff.mp hn), h.mem_iff]

theorem lookup?_select (p : String → Bool) (k : String) (entries : List (String × Document)) :
    lookup? k (select p entries) = if p k then lookup? k entries else none := by
  have hfind : (fun e : String × Document => decide (p e.1 = true ∧ (e.1 == k) = true)) =
      fun e => p k && e.1 == k := by
    funext e
    by_cases he : e.1 = k
    · simp [he]
    · simp [beq_eq_false_iff_ne.mpr he]
  rw [lookup?, select, List.find?_filter, hfind]
  cases p k with
  | true => rfl
  | false => simp

theorem Edited.exists_lookup? (h : (table entries).Edited gone d) (hn : (keys entries).Nodup) :
    ∃ es, d = .table es ∧ ∀ k ∈ keys entries, lookup? k es = if gone k then none else lookup? k entries := by
  obtain ⟨_, es, ⟨⟩, rfl, hp⟩ := h
  refine ⟨es, rfl, fun k hk => ?_⟩
  have hknown := lookup?_select (fun k => k ∈ keys entries) k es
  have hkept := lookup?_select (fun k => !gone k) k entries
  have hnodup : (keys (select (fun k => !gone k) entries)).Nodup := hn.sublist (List.filter_sublist.map Prod.fst)
  rw [decide_eq_true hk, if_pos rfl] at hknown
  rw [← hknown, ← lookup?_perm hp.symm hnodup, hkept]
  cases gone k <;> rfl

theorem Edited.refl (entries : List (String × Document)) : (table entries).Edited (fun _ => false) (.table entries) :=
  ⟨entries, entries, rfl, rfl, .of_eq (List.filter_congr fun _ he => decide_eq_true (List.mem_map_of_mem he))⟩

theorem select_append (p : String → Bool) (entries es : List (String × Document)) :
    select p (entries ++ es) = select p entries ++ select p es := List.filter_append entries es

theorem select_cons_of_pos {e : String × Document} (h : p e.1 = true) (es : List (String × Document)) :
    select p (e :: es) = e :: select p es := List.filter_cons_of_pos h

theorem select_cons_of_neg {e : String × Document} (h : p e.1 = false) (es : List (String × Document)) :
    select p (e :: es) = select p es := List.filter_cons_of_neg (by simp [h])

theorem select_insertKey (h : p k = false) (v : Document) (entries : List (String × Document)) :
    select p (insertKey k v entries) = select p entries := by
  induction entries with
  | nil => exact select_cons_of_neg h []
  | cons e entries ih =>
    rw [insertKey]
    split
    · next he => rw [select_cons_of_neg h, select_cons_of_neg (he ▸ h)]
    split
    · exact select_cons_of_neg h _
    · cases he : p e.1 with
      | false => rw [select_cons_of_neg he, select_cons_of_neg he, ih]
      | true => rw [select_cons_of_pos he, select_cons_of_pos he, ih]

theorem perm_select_insertKey (h : p k = true) (hn : k ∉ keys (select p entries)) (v : Document) :
    (select p (insertKey k v entries)).Perm ((k, v) :: select p entries) := by
  have hnew : k ∉ keys entries := by
    intro hm
    obtain ⟨e, he, rfl⟩ := List.mem_map.mp hm
    exact hn (List.mem_map_of_mem (List.mem_filter.mpr ⟨he, h⟩))
  rw [← select_cons_of_pos (e := (k, v)) h]
  exact (perm_insertKey v hnew).filter _

theorem perm_select_canonicalEntries (p : String → Bool) (done entries : List (String × Document))
    (h : (keys (select p (done ++ entries))).Nodup) : (select p (canonicalEntries done entries)).Perm
      (select p done ++ (select p entries).map fun e => (e.1, e.2.canonical)) := by
  -- `done` holds what has been read so far: every entry moves from behind it into it
  induction entries generalizing done with
  | nil => exact .of_eq (List.append_nil _).symm
  | cons e entries ih =>
    change (select p (canonicalEntries (insertKey e.1 e.2.canonical done) entries)).Perm _
    have hrest := ih (insertKey e.1 e.2.canonical done)
    rw [select_append] at h hrest
    cases hp : p e.1 with
    | false =>
      rw [select_cons_of_neg hp] at h ⊢
      rw [select_insertKey hp] at hrest
      exact hrest h
    | true =>
      rw [select_cons_of_pos hp] at h ⊢
      have hmiddle := (List.perm_middle.map Prod.fst).nodup_iff.mp h
      have hnew : e.1 ∉ keys (select p done) := fun hm =>
        (List.nodup_cons.mp hmiddle).1 (List.map_append ▸ List.mem_append_left _ hm)
      have hinsert := perm_select_insertKey hp hnew e.2.canonical
      have hnodup := ((hinsert.append_right (select p entries)).map Prod.fst).nodup_iff.mpr hmiddle
      exact ((hrest hnodup).trans (hinsert.append_right _)).trans List.perm_middle.symm

theorem Edited.canonical (h : (table entries).Edited gone d) (hn : (keys entries).Nodup) :
    (table (entries.map fun e => (e.1, e.2.canonical))).Edited gone d.canonical := by
  obtain ⟨_, es, ⟨⟩, rfl, hp⟩ := h
  have hkeys : keys (entries.map fun e => (e.1, e.2.canonical)) = keys entries := by simp [keys]
  refine ⟨_, _, rfl, rfl, ?_⟩
  have hnodup : (keys (select (fun k => !gone k) entries)).Nodup := hn.sublist (List.filter_sublist.map Prod.fst)
  -- keys that came in may occur twice, only those of the whole table have to be different
  have hcanonical := perm_select_canonicalEntries (fun k => k ∈ keys entries) [] es
    ((hp.map Prod.fst).nodup_iff.mpr hnodup)
  rw [hkeys]
  refine hcanonical.trans ((hp.map _).trans (.of_eq ?_))
  rw [select, select, List.filter_map]
  rfl

end Document

namespace Config

open Document (keys lookup?_eq_some_iff)

/-- What is left out of a configuration: whole sections, by name, and single fields, by the names of section and
field. -/
structure Omission where
  sections : String → Bool
  fields : String → String → Bool

def Omission.nothing : Omission := ⟨fun _ => false, fun _ _ => false⟩

/-- A table of sections from which sections are left out and in whose sections fields are left out. Entries that were
not there may have come in, beside the sections and beside the fields in them, and the order may be another. -/
def Edited (omission : Omission) (whole d : Document) : Prop :=
  ∃ (sections : List (String × Document)) (part : String → Document), whole = .table sections ∧
    (∀ e ∈ sections, e.2.Edited (omission.fields e.1) (part e.1)) ∧
    (Document.table (sections.map fun e => (e.1, part e.1))).Edited omission.sections d

def Listener.without (gone : String → Bool) (c : Listener) : Listener where
  bindAddress := if gone "bind_address" then ({} : Listener).bindAddress else c.bindAddress

def Forwarding.without (gone : String → Bool) (c : Forwarding) : Forwarding where
  origin := if gone "origin" then ({} : Forwarding).origin else c.origin
  connectTimeout := if gone "connect_timeout_secs" then ({} : Forwarding).connectTimeout else c.connectTimeout
  requestTimeout := if gone "request_timeout_secs" then ({} : Forwarding).requestTimeout else c.requestTimeout

def Queue.without (gone : String → Bool) (c : Queue) : Queue where
  maxConcurrency := if gone "max_concurrency" then ({} : Queue).maxConcurrency else c.maxConcurrency
  maxQueueSize := if gone "max_queue_size" then ({} : Queue).maxQueueSize else c.maxQueueSize

def Auth.without (gone : String → Bool) (c : Auth) : Auth where
  headerName := if gone "header_name" then ({} : Auth).headerName else c.headerName
  secret := if gone "secret" then ({} : Auth).secret else c.secret

def Security.without (gone : String → Bool) (c : Security) : Security where
  maxBodySize := if gone "max_body_size" then ({} : Security).maxBodySize else c.maxBodySize

def Observability.without (gone : String → Bool) (c : Observability) : Observability where
  logLevel := if gone "log_level" then ({} : Observability).logLevel else c.logLevel
  logFormat := if gone "log_format" then ({} : Observability).logFormat else c.logFormat
  metricsEnabled := if gone "metrics_enabled" then ({} : Observability).metricsEnabled else c.metricsEnabled
  metricsAddress := if gone "metrics_address" then ({} : Observability).metricsAddress else c.metricsAddress

def Admin.without (gone : String → Bool) (c : Admin) : Admin where
  enabled := if gone "enabled" then ({} : Admin).enabled else c.enabled
  apiKey := if gone "api_key" then ({} : Admin).apiKey else c.apiKey
  bindAddress := if gone "bind_address" then ({} : Admin).bindAddress else c.bindAddress

def without (omission : Omission) (c : Config) : Config where
  listener := if omission.sections "listener" then {} else c.listener.without (omission.fields "listener")
  forwarding := if omission.sections "upstream" then {} else c.forwarding.without (omission.fields "upstream")
  queue := if omission.sections "queue" then {} else c.queue.without (omission.fields "queue")
  auth := if omission.sections "auth" then {} else c.auth.without (omission.fields "auth")
  security := if omission.sections "security" then {} else c.security.without (omission.fields "security")
  observability :=
    if omission.sections "observability" then {} else c.observability.without (omission.fields "observability")
  admin := if omission.sections "admin" then {} else c.admin.without (omission.fields "admin")

theorem without_nothing (c : Config) : c.without .nothing = c := rfl

variable {f : Format} {d : Document} {gone : String → Bool} {entries : List (String × Document)}

theorem exists_field {names : List String} (f : Format) (h : (Document.table entries).Edited gone d)
    (hk : keys entries = names) (hn : names.Nodup) : ∃ field, fields? f names d = some field ∧
      ∀ e ∈ entries, field e.1 = if gone e.1 then none else some e.2 := by
  rw [← hk] at hn
  obtain ⟨es, rfl, hes⟩ := h.exists_lookup? hn
  refine ⟨_, rfl, fun e he => ?_⟩
  rw [hes e.1 (List.mem_map_of_mem he), (lookup?_eq_some_iff hn).mpr he]

theorem orDefault_ite {α : Type} {read : Document → Option α} {x : Option Document} {b : Bool} {v : α}
    (hx : x = if b then none else some d) (hd : read d = some v) (default : α) :
    orDefault default read x = some (if b then default else v) := by
  subst hx
  cases b with
  | false => exact hd
  | true => rfl

theorem word?_word (n : UInt64) : word? (word n) = some n := by
  have hn : n.toNat < 0x10000000000000000 := n.toNat_lt
  simp [word, word?, Document.ofNat, hn]

theorem text?_text (s : String) : text? (.text s) = some s := rfl

theorem flag?_bool (b : Bool) : flag? (.bool b) = some b := rfl

theorem secret?_secret (s : Option String) :
    secret? (match s with | some s => .text s | none => .null) = some s := by
  cases s <;> rfl

theorem logFormat?_name (f : Format) (l : LogFormat) : logFormat? f (.text l.name) = some l := by
  cases l <;> rfl

theorem Listener.decode?_of_edited {c : Listener} (h : c.encode.Edited gone d) :
    decode? f d = some (c.without gone) := by
  obtain ⟨field, hd, hfield⟩ := exists_field f h (rfl : _ = ["bind_address"]) (by decide)
  simp only [List.forall_mem_cons] at hfield
  obtain ⟨haddress, -⟩ := hfield
  rw [decode?, hd]
  simp only [bind, Option.bind, orDefault_ite haddress (text?_text _)]
  rfl

theorem Forwarding.decode?_of_edited {c : Forwarding} (h : c.encode.Edited gone d) :
    decode? f d = some (c.without gone) := by
  obtain ⟨field, hd, hfield⟩ := exists_field f h
    (rfl : _ = ["origin", "connect_timeout_secs", "request_timeout_secs"]) (by decide)
  simp only [List.forall_mem_cons] at hfield
  obtain ⟨horigin, hconnect, hrequest, -⟩ := hfield
  rw [decode?, hd]
  simp only [bind, Option.bind, orDefault_ite horigin (text?_text _), orDefault_ite hconnect (word?_word _),
    orDefault_ite hrequest (word?_word _)]
  rfl

theorem Queue.decode?_of_edited {c : Queue} (h : c.encode.Edited gone d) :
    decode? f d = some (c.without gone) := by
  obtain ⟨field, hd, hfield⟩ := exists_field f h (rfl : _ = ["max_concurrency", "max_queue_size"]) (by decide)
  simp only [List.forall_mem_cons] at hfield
  obtain ⟨hconcurrency, hsize, -⟩ := hfield
  rw [decode?, hd]
  simp only [bind, Option.bind, orDefault_ite hconcurrency (word?_word _), orDefault_ite hsize (word?_word _)]
  rfl

theorem Auth.decode?_of_edited {c : Auth} (h : c.encode.Edited gone d) :
    decode? f d = some (c.without gone) := by
  obtain ⟨field, hd, hfield⟩ := exists_field f h (rfl : _ = ["header_name", "secret"]) (by decide)
  simp only [List.forall_mem_cons] at hfield
  obtain ⟨hheader, hsecret, -⟩ := hfield
  rw [decode?, hd]
  simp only [bind, Option.bind, orDefault_ite hheader (text?_text _), orDefault_ite hsecret (secret?_secret _)]
  rfl

theorem Security.decode?_of_edited {c : Security} (h : c.encode.Edited gone d) :
    decode? f d = some (c.without gone) := by
  obtain ⟨field, hd, hfield⟩ := exists_field f h (rfl : _ = ["max_body_size"]) (by decide)
  simp only [List.forall_mem_cons] at hfield
  obtain ⟨hsize, -⟩ := hfield
  rw [decode?, hd]
  simp only [bind, Option.bind, orDefault_ite hsize (word?_word _)]
  rfl

theorem Observability.decode?_of_edited {c : Observability} (h : c.encode.Edited gone d) :
    decode? f d = some (c.without gone) := by
  obtain ⟨field, hd, hfield⟩ := exists_field f h
    (rfl : _ = ["log_level", "log_format", "metrics_enabled", "metrics_address"]) (by decide)
  simp only [List.forall_mem_cons] at hfield
  obtain ⟨hlevel, hformat, henabled, haddress, -⟩ := hfield
  rw [decode?, hd]
  simp only [bind, Option.bind, orDefault_ite hlevel (text?_text _), orDefault_ite hformat (logFormat?_name f _),
    orDefault_ite henabled (flag?_bool _), orDefault_ite haddress (text?_text _)]
  rfl

theorem Admin.decode?_of_edited {c : Admin} (h : c.encode.Edited gone d) :
    decode? f d = some (c.without gone) := by
  obtain ⟨field, hd, hfield⟩ := exists_field f h (rfl : _ = ["enabled", "api_key", "bind_address"]) (by decide)
  simp only [List.forall_mem_cons] at hfield
  obtain ⟨henabled, hkey, haddress, -⟩ := hfield
  rw [decode?, hd]
  simp only [bind, Option.bind, orDefault_ite henabled (flag?_bool _), orDefault_ite hkey (text?_text _),
    orDefault_ite haddress (text?_text _)]
  rfl

theorem decode?_of_edited {c : Config} {omission : Omission} (h : Edited omission c.encode d) :
    decode? f d = some (c.without omission) := by
  obtain ⟨_, part, ⟨⟩, hpart, hedited⟩ := h
  obtain ⟨field, hd, hfield⟩ := exists_field f hedited
    (rfl : _ = ["listener", "upstream", "queue", "auth", "security", "observability", "admin"]) (by decide)
  simp only [List.map_cons, List.forall_mem_cons] at hpart hfield
  obtain ⟨hlistener, hforwarding, hqueue, hauth, hsecurity, hobservability, hadmin, -⟩ := hpart
  obtain ⟨flistener, fforwarding, fqueue, fauth, fsecurity, fobservability, fadmin, -⟩ := hfield
  rw [decode?, hd]
  simp only [bind, Option.bind, orDefault_ite flistener (Listener.decode?_of_edited hlistener),
    orDefault_ite fforwarding (Forwarding.decode?_of_edited hforwarding),
    orDefault_ite fqueue (Queue.decode?_of_edited hqueue), orDefault_ite fauth (Auth.decode?_of_edited hauth),
    orDefault_ite fsecurity (Security.decode?_of_edited hsecurity),
    orDefault_ite fobservability (Observability.decode?_of_edited hobservability),
    orDefault_ite fadmin (Admin.decode?_of_edited hadmin)]
  rfl

section

variable {c : Config} {omission : Omission}

def sections (c : Config) : List (String × Document) :=
  [("listener", c.listener.encode), ("upstream", c.forwarding.encode), ("queue", c.queue.encode),
    ("auth", c.auth.encode), ("security", c.security.encode), ("observability", c.observability.encode),
    ("admin", c.admin.encode)]

theorem nodup_keys_sections (c : Config) : (keys c.sections).Nodup := by
  simp [keys, sections]

def IsPlain (d : Document) : Prop := ∃ entries, d = .table entries ∧ (keys entries).Nodup ∧
  (entries.map fun e => (e.1, e.2.canonical)) = entries ∧ d.isExact = true

theorem isExact_word (n : UInt64) : (word n).isExact = true := Document.isExact_ofNat n.toNat_lt

theorem Auth.isPlain_encode (c : Auth) : IsPlain c.encode := by
  cases c with
  | mk headerName secret => cases secret <;> exact ⟨_, rfl, by simp [keys], rfl, rfl⟩

theorem isPlain_of_mem_sections : ∀ e ∈ c.sections, IsPlain e.2 := by
  simp only [sections, List.forall_mem_cons]
  refine ⟨?_, ?_, ?_, c.auth.isPlain_encode, ?_, ?_, ?_, nofun⟩
  all_goals
    refine ⟨_, rfl, by simp [keys], rfl, ?_⟩
    simp [Listener.encode, Forwarding.encode, Queue.encode, Security.encode, Observability.encode, Admin.encode,
      Document.isExact, Document.entriesExact, isExact_word]

theorem Edited.canonical (h : Edited omission c.encode d) : Edited omission c.encode d.canonical := by
  obtain ⟨_, part, ⟨⟩, hpart, hedited⟩ := h
  refine ⟨_, fun k => (part k).canonical, rfl, fun e he => ?_, ?_⟩
  · obtain ⟨entries, hentries, hn, hkept, -⟩ := isPlain_of_mem_sections e he
    have hcanonical := hpart e he
    rw [hentries] at hcanonical ⊢
    exact hkept ▸ hcanonical.canonical hn
  · have hcanonical := hedited.canonical (by simp [keys])
    rwa [List.map_map] at hcanonical

theorem edited_encode (c : Config) : Edited .nothing c.encode c.encode := by
  have hpart : ∀ e ∈ c.sections, (Document.lookup? e.1 c.sections).getD .null = e.2 := by
    intro e he
    rw [(lookup?_eq_some_iff (nodup_keys_sections c)).mpr he, Option.getD_some]
  refine ⟨c.sections, fun k => (Document.lookup? k c.sections).getD .null, rfl, fun e he => ?_, ?_⟩
  · obtain ⟨entries, hentries, -⟩ := isPlain_of_mem_sections e he
    dsimp only
    rw [hpart e he, hentries]
    exact .refl _
  · have hself : c.sections.map (fun e => (e.1, (Document.lookup? e.1 c.sections).getD .null)) = c.sections.map id :=
      List.map_congr_left fun e he => by rw [hpart e he, id]
    rw [hself, List.map_id]
    exact .refl _

theorem isExact_encode (c : Config) : c.encode.isExact = true := by
  apply Document.entriesExact_iff.mpr
  intro e he
  obtain ⟨_, -, -, -, hexact⟩ := isPlain_of_mem_sections e he
  exact hexact

end

/-- Whatever is left out of a written configuration and whatever else is put into it, reading it gives the configuration
with the defaults where something was left out: from the document in either format and from the text as JSON. Where
nothing is left out it is the configuration itself, which is valid again if it was read from a file. -/
theorem defaults_where_omitted (c : Config) :
    (∀ (f : Format) (omission : Omission) (d : Document), Edited omission c.encode d →
      decode? f d = some (c.without omission) ∧
      (d.isExact = true →
        (Json.Reader.read? (Json.Writer.compact d)).bind (decode? .json) = some (c.without omission))) ∧
    (∀ f, decode? f c.encode = some c) ∧
    (Json.Reader.read? (Json.Writer.compact c.encode)).bind (decode? .json) = some c ∧
    ∀ text secret, read text secret = .ok c → ∃ c',
      (Json.Reader.read? (Json.Writer.compact c.encode)).bind (decode? .json) = some c' ∧ c'.problems = [] := by
  have hedited {omission : Omission} {d : Document} (h : Edited omission c.encode d) (he : d.isExact = true) :
      (Json.Reader.read? (Json.Writer.compact d)).bind (decode? .json) = some (c.without omission) := by
    rw [Json.read?_compact he, Option.bind_some, decode?_of_edited h.canonical]
  have hself := hedited (edited_encode c) (isExact_encode c)
  rw [without_nothing] at hself
  refine ⟨fun f omission d h => ⟨decode?_of_edited h, hedited h⟩, fun f => ?_, hself, fun text secret h => ?_⟩
  · rw [decode?_of_edited (edited_encode c), without_nothing]
  · exact ⟨c, hself, problems_of_read h⟩

/-- A configuration that sets fields of several sections, one of them to the greatest number there is. -/
def particular : Config :=
  { queue := ⟨7, 0xFFFFFFFFFFFFFFFF⟩
    auth := { headerName := "x-key" }
    observability := { logFormat := .json }
    admin := { enabled := true, apiKey := "k" } }

def partly : Omission := ⟨fun k => k = "admin", fun k field => k = "queue" && field = "max_concurrency"⟩

def remarked : Document := .table [("remark", .text "as measured"), ("max_queue_size", word 0xFFFFFFFFFFFFFFFF)]

def rearranged : Document :=
  .table [("upstream", particular.forwarding.encode), ("listener", particular.listener.encode), ("queue", remarked),
    ("cache", .list []), ("auth", particular.auth.encode), ("security", particular.security.encode),
    ("observability", particular.observability.encode)]

theorem defaults_where_omitted_particular : Edited partly particular.encode rearranged ∧
    (Json.Reader.read? (Json.Writer.compact rearranged)).bind (decode? .json) =
      some { particular with queue := { particular.queue with maxConcurrency := 2 }, admin := {} } := by
  have h : Edited partly particular.encode rearranged := by
    refine ⟨particular.sections,
      fun k => if k = "queue" then remarked else (Document.lookup? k particular.sections).getD .null, rfl, ?_, ?_⟩
    · simp only [sections, List.forall_mem_cons]
      refine ⟨.refl _, .refl _, ⟨_, _, rfl, rfl, .refl _⟩, .refl _, .refl _, .refl _, .refl _, nofun⟩
    · exact ⟨_, _, rfl, rfl, .swap _ _ _⟩
  exact ⟨h, ((defaults_where_omitted particular).1 .json partly rearranged h).2 (by decide)⟩

end Config

end Turnstile
