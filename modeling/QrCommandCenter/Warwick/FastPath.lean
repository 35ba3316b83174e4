import QrCommandCenter.Warwick.Source
import QrCommandCenter.Scraper.Children

/-!
# The raw-hash fast path

A response with the raw body of the published snapshot is committed as unchanged, without being parsed. The slow path
would do the same if the parsed value were a function of the body; it also depends on the clock, for the status of the
courses in a catalog, and on the target's attributes, for the name of a course.

* `Reading` : what a fetch reads besides the configuration of the source;
* `SameReading` : two readings of one body make the same of it (`canonicalForm_eq_iff`);
* `promised_fetched` : the source keeps the promise that the children of a listing rely on;
* `FastFetch` : a fetch that takes the fast path, after the one that was published;
* `fastPath_sound_iff` : when the slow path agrees with the fast path.
-/

namespace QrCommandCenter.Warwick
open Domain Scraper Store

/-- The target as it was claimed, the clock at each row and the reply of the upstream. -/
structure Reading where
  target : ScrapeTarget
  clock : Nat → Time
  reply : Except FetchFailure HttpResponse

def Reading.fetched (source : SourceConfig) (profiles : Fetched) (reading : Reading) : Fetched :=
  fetchAuthenticated source profiles reading.target reading.clock reading.reply

/-- A body means the same at both readings: every course of a catalog has the same status, and a course the same name. -/
def SameReading (library : Library) (earlier later : Reading) (body : String) : Prop :=
  match later.target.ref.kind with
  | .courseCatalog => ∀ table, library.unmarshalCatalog body = .ok table → ∀ (k : Nat) row, table.data[k]? = some row →
      courseStatus row (later.clock k) = courseStatus row (earlier.clock k)
  | .courseDetail => later.target.attributes.field "course_name" = earlier.target.attributes.field "course_name"
  | _ => True

def singlePage (kind : SnapshotKind) : Bool := kind ∈ [.courseCatalog, .courseDetail, .sessionDetail]

/-! ## Two readings of one table -/

section Readings
variable {library : Library} {earlier later : Reading}

/-- A permutation of a list without repeated keys, with the same keys in the same places, is the list. -/
theorem eq_of_perm_of_map_eq {α β : Type} {f : α → β} {xs ys : List α} (hperm : ys.Perm xs)
    (hmap : ys.map f = xs.map f) (hnodup : (xs.map f).Nodup) : ys = xs := by
  refine List.ext_getElem hperm.length_eq fun i hi hi' => ?_
  have hkey : f ys[i] = f xs[i] := by
    have h := congrArg (fun l => l[i]?) hmap
    simpa [hi, hi'] using h
  exact List.inj_on_of_nodup_map hnodup (hperm.mem_iff.mp (List.getElem_mem hi)) (List.getElem_mem hi') hkey

theorem courseSummary_eq_iff (now now' : Nat → Time) (k : Nat) (id : String) (row : ClassAttendanceRow) :
    courseSummary now' k id row = courseSummary now k id row ↔
      courseStatus row (now' k) = courseStatus row (now k) := by
  simp [courseSummary]

theorem parseCatalog_eq_iff {now now' : Nat → Time} {table : DataTable ClassAttendanceRow} {value value' : Value}
    (h : parseCatalog library now table = .ok value) (h' : parseCatalog library now' table = .ok value') :
    ∃ courses courses', value = .courses courses ∧ value' = .courses courses' ∧
      courses'.map CourseSummary.courseID = courses.map CourseSummary.courseID ∧
      (courses' = courses ↔ ∀ (k : Nat) row, table.data[k]? = some row →
        courseStatus row (now' k) = courseStatus row (now k)) := by
  obtain ⟨courses, hcourses, h⟩ := Table.bind_eq_ok.mp h
  obtain ⟨courses', hcourses', h'⟩ := Table.bind_eq_ok.mp h'
  obtain ⟨_, -, hrows⟩ := Table.bind_eq_ok.mp hcourses
  obtain ⟨_, -, hrows'⟩ := Table.bind_eq_ok.mp hcourses'
  cases h
  cases h'
  have hids : courses'.map CourseSummary.courseID = courses.map CourseSummary.courseID := by
    refine collectRows_map_eq ?_ hrows hrows'
    intro _ _ _
    rfl
  refine ⟨courses, courses', rfl, rfl, hids, ?_⟩
  have hiff := collectRows_eq_iff hrows hrows' (courseSummary_eq_iff now now')
  simpa using hiff

theorem parseCourse_ok {target : ScrapeTarget} {table : DataTable ClassAttendanceDetailRow} {value : Value}
    (h : parseCourse library target table = .ok value) :
    ∃ sessions, (∀ target', parseCourse library target' table =
        .ok (.coursePointer (some (courseDetail target' sessions)))) ∧
      value = .coursePointer (some (courseDetail target sessions)) := by
  obtain ⟨sessions, hsessions, h⟩ := Table.bind_eq_ok.mp h
  cases h
  exact ⟨sessions, fun target' => Table.bind_eq_ok.mpr ⟨sessions, hsessions, rfl⟩, rfl⟩

theorem parseSession_congr {target target' : ScrapeTarget} (href : target'.ref = target.ref)
    (table : DataTable StudentCheckInRow) : parseSession target' table = parseSession target table := by
  unfold parseSession sessionDetail
  rw [href]

/-! ## Two readings of one body -/

variable {source : SourceConfig} {profiles : Fetched} {codec : Codec}

/-- The documents that two readings of one body canonicalize, and when they are the same. -/
structure Reread (source : SourceConfig) (profiles : Fetched) (codec : Codec) (earlier later : Reading)
    (body : String) (raw raw' : Document) : Prop where
  typed : (earlier.fetched source profiles).result.value.document? later.target.ref.kind = some raw
  typed' : (later.fetched source profiles).result.value.document? later.target.ref.kind = some raw'
  ids : identifiers raw' = identifiers raw
  same : SameReading source.library earlier later body →
    (later.fetched source profiles).result.value = (earlier.fetched source profiles).result.value
  differs : (identifiers raw).Nodup → canonicalForm codec raw' = canonicalForm codec raw →
    SameReading source.library earlier later body

theorem fetched_rawBodyHash {reading : Reading} (hkind : singlePage reading.target.ref.kind = true)
    (h : (reading.fetched source profiles).failure = none) :
    ∃ response, reading.reply = .ok response ∧
      (reading.fetched source profiles).result.metadata.rawBodyHash = source.library.rawBodyHash response.body := by
  unfold Reading.fetched fetchAuthenticated at h ⊢
  cases hk : reading.target.ref.kind with
  | courseCatalog | courseDetail | sessionDetail =>
    rw [hk] at h
    obtain ⟨response, _, hreply, -, -, hhash⟩ := fetchTable_ok h
    exact ⟨response, hreply, hhash⟩
  | studentProfiles =>
    rw [hk] at hkind
    cases hkind
  | other text =>
    rw [hk] at hkind
    simp [singlePage] at hkind

section Kinds
variable {response response' : HttpResponse} (href : later.target.ref = earlier.target.ref)
  (hreply : earlier.reply = .ok response) (hreply' : later.reply = .ok response')
  (hbody : response'.body = response.body) (h : (earlier.fetched source profiles).failure = none)
  (h' : (later.fetched source profiles).failure = none)
include hreply hreply' hbody h h'

theorem fetchTable_reread {ρ : Type} {unmarshal : String → Except String (DataTable ρ)}
    {parse parse' : DataTable ρ → Except String Value}
    (hearlier : earlier.fetched source profiles = fetchTable source unmarshal parse earlier.reply)
    (hlater : later.fetched source profiles = fetchTable source unmarshal parse' later.reply) :
    ∃ table, unmarshal response.body = .ok table ∧
      parse table = .ok (earlier.fetched source profiles).result.value ∧
      parse' table = .ok (later.fetched source profiles).result.value := by
  rw [hearlier] at h ⊢
  rw [hlater] at h' ⊢
  obtain ⟨r, table, hr, htable, hparse, -⟩ := fetchTable_ok h
  obtain ⟨r', table', hr', htable', hparse', -⟩ := fetchTable_ok h'
  rw [hreply] at hr
  rw [hreply'] at hr'
  cases hr
  cases hr'
  rw [hbody, htable] at htable'
  cases htable'
  exact ⟨table, htable, hparse, hparse'⟩

include href

theorem reread_catalog (hkind : later.target.ref.kind = .courseCatalog) :
    ∃ raw raw', Reread source profiles codec earlier later response.body raw raw' := by
  have hlater : later.fetched source profiles = fetchCatalog source later.clock later.reply := by
    unfold Reading.fetched fetchAuthenticated
    rw [hkind]
  have hearlier : earlier.fetched source profiles = fetchCatalog source earlier.clock earlier.reply := by
    unfold Reading.fetched fetchAuthenticated
    rw [← href, hkind]
  obtain ⟨table, htable, hparse, hparse'⟩ := fetchTable_reread hreply hreply' hbody h h' hearlier hlater
  obtain ⟨courses, courses', hvalue, hvalue', hids, hiff⟩ := parseCatalog_eq_iff hparse hparse'
  have hsame : SameReading source.library earlier later response.body ↔ courses' = courses := by
    unfold SameReading
    rw [hkind, hiff]
    simp only [htable, Except.ok.injEq, forall_eq']
  refine ⟨.catalog courses, .catalog courses', ?_, ?_, hids, fun hs => ?_, fun hnodup heq => ?_⟩
  · rw [hkind, hvalue]
    rfl
  · rw [hkind, hvalue']
    rfl
  · rw [hvalue, hvalue', hsame.mp hs]
  · -- sorting keeps the courses, and their identifiers say which is which
    rw [hsame]
    simp only [canonicalForm, Document.catalog.injEq] at heq
    have hperm : courses'.Perm courses :=
      ((sortStable_perm courseLess courses').symm.trans (.of_eq heq)).trans (sortStable_perm courseLess courses)
    exact eq_of_perm_of_map_eq hperm hids hnodup

theorem reread_course (hkind : later.target.ref.kind = .courseDetail) :
    ∃ raw raw', Reread source profiles codec earlier later response.body raw raw' := by
  have hlater : later.fetched source profiles = fetchCourse source later.target later.reply := by
    unfold Reading.fetched fetchAuthenticated
    rw [hkind]
  have hearlier : earlier.fetched source profiles = fetchCourse source earlier.target earlier.reply := by
    unfold Reading.fetched fetchAuthenticated
    rw [← href, hkind]
  obtain ⟨table, -, hparse, hparse'⟩ := fetchTable_reread hreply hreply' hbody h h' hearlier hlater
  obtain ⟨sessions, hall, hvalue⟩ := parseCourse_ok hparse
  rw [hall] at hparse'
  have hvalue' := (Except.ok.inj hparse').symm
  have hsame : SameReading source.library earlier later response.body ↔
      later.target.attributes.field "course_name" = earlier.target.attributes.field "course_name" := by
    unfold SameReading
    rw [hkind]
  refine ⟨.course (courseDetail earlier.target sessions), .course (courseDetail later.target sessions), ?_, ?_, rfl,
    fun hs => ?_, fun _ heq => ?_⟩
  · rw [hkind, hvalue]
    rfl
  · rw [hkind, hvalue']
    rfl
  · rw [hvalue, hvalue']
    unfold courseDetail
    rw [hsame.mp hs, href]
  · rw [hsame]
    simp only [canonicalForm, courseDetail, Document.course.injEq, CourseDetail.mk.injEq, CourseSummary.mk.injEq] at heq
    exact heq.1.2.1

theorem reread_session (hkind : later.target.ref.kind = .sessionDetail) :
    ∃ raw raw', Reread source profiles codec earlier later response.body raw raw' := by
  have hlater : later.fetched source profiles = fetchSession source later.target later.reply := by
    unfold Reading.fetched fetchAuthenticated
    rw [hkind]
  have hearlier : earlier.fetched source profiles = fetchSession source earlier.target earlier.reply := by
    unfold Reading.fetched fetchAuthenticated
    rw [← href, hkind]
  obtain ⟨table, -, hparse, hparse'⟩ := fetchTable_reread hreply hreply' hbody h h' hearlier hlater
  rw [parseSession_congr href, hparse] at hparse'
  have hvalue := Except.ok.inj hparse'
  obtain ⟨students, -, hstudents⟩ := Table.bind_eq_ok.mp hparse
  have hdetail := (Except.ok.inj hstudents).symm
  have hsame : SameReading source.library earlier later response.body := by
    unfold SameReading
    rw [hkind]
    trivial
  refine ⟨.session (sessionDetail earlier.target students), .session (sessionDetail earlier.target students), ?_, ?_, rfl,
    fun _ => hvalue.symm, fun _ _ => hsame⟩
  · rw [hkind, hdetail]
    rfl
  · rw [hkind, ← hvalue, hdetail]
    rfl

/-- **Two readings of one body on a single page.** -/
theorem reread (codec : Codec) (hkind : singlePage later.target.ref.kind = true) :
    ∃ raw raw', Reread source profiles codec earlier later response.body raw raw' := by
  cases hk : later.target.ref.kind with
  | courseCatalog => exact reread_catalog href hreply hreply' hbody h h' hk
  | courseDetail => exact reread_course href hreply hreply' hbody h h' hk
  | sessionDetail => exact reread_session href hreply hreply' hbody h h' hk
  | studentProfiles =>
    rw [hk] at hkind
    cases hkind
  | other text =>
    rw [hk] at hkind
    simp [singlePage] at hkind

end Kinds

end Readings

/-! ## What a body lists -/

section Lists
variable {source : SourceConfig} {profiles : Fetched} {parent : TargetRef} {hash : String} {reading reading' : Reading}
  {raw raw' : Document}

/-- A successful fetch of the parent has read the document `raw` from a body with this hash. -/
structure Reads (source : SourceConfig) (profiles : Fetched) (parent : TargetRef) (hash : String) (reading : Reading)
    (raw : Document) : Prop where
  ref : reading.target.ref = parent
  succeeded : (reading.fetched source profiles).failure = none
  hash : (reading.fetched source profiles).result.metadata.rawBodyHash = hash
  typed : (reading.fetched source profiles).result.value.document? parent.kind = some raw

theorem Reads.identifiers_eq (hparent : singlePage parent.kind = true)
    (hinjective : Function.Injective source.library.rawBodyHash) (codec : Codec)
    (h : Reads source profiles parent hash reading raw) (h' : Reads source profiles parent hash reading' raw') :
    identifiers raw' = identifiers raw := by
  have hkind : singlePage reading.target.ref.kind = true := by rw [h.ref, hparent]
  have hkind' : singlePage reading'.target.ref.kind = true := by rw [h'.ref, hparent]
  obtain ⟨response, hreply, hhash⟩ := fetched_rawBodyHash hkind h.succeeded
  obtain ⟨response', hreply', hhash'⟩ := fetched_rawBodyHash hkind' h'.succeeded
  have hbody : response'.body = response.body := by
    apply hinjective
    rw [← hhash', ← hhash, h'.hash, h.hash]
  obtain ⟨first, second, hreread⟩ :=
    reread (h'.ref.trans h.ref.symm) hreply hreply' hbody h.succeeded h'.succeeded codec hkind'
  have htyped := hreread.typed
  have htyped' := hreread.typed'
  rw [h'.ref, h.typed] at htyped
  rw [h'.ref, h'.typed] at htyped'
  rw [Option.some.inj htyped, Option.some.inj htyped']
  exact hreread.ids

open Classical in
/-- What a body with this hash lists. -/
noncomputable def bodyListing (source : SourceConfig) (profiles : Fetched) (parent : TargetRef) (hash : String) :
    List String :=
  if h : ∃ read : Reading × Document, Reads source profiles parent hash read.1 read.2 then identifiers h.choose.2 else []

/-- **What the source promises**: a successful fetch of a parent has a value of its type, which lists a function of the
raw body when SHA-256 has no collision. -/
theorem promised_fetched (codec : Codec) (D : Set Document) (hparent : singlePage parent.kind = true)
    (hinjective : Function.Injective source.library.rawBodyHash) (href : reading.target.ref = parent)
    (hknown : ∀ raw, (reading.fetched source profiles).result.value.document? parent.kind = some raw →
      canonicalForm codec raw ∈ D) :
    Promised codec (bodyListing source profiles parent) D parent.kind (reading.fetched source profiles) := by
  have hkind : singlePage reading.target.ref.kind = true := by rw [href, hparent]
  refine ⟨fun h => ?_, fun h _ raw hraw id => ?_, hknown⟩
  · obtain ⟨response, hreply, -⟩ := fetched_rawBodyHash hkind h
    obtain ⟨raw, raw', hreread⟩ := reread rfl hreply hreply rfl h h codec hkind
    have htyped := hreread.typed
    rw [href] at htyped
    exact ⟨raw, htyped⟩
  · have hreads : Reads source profiles parent (reading.fetched source profiles).result.metadata.rawBodyHash reading raw :=
      ⟨href, h, rfl, hraw⟩
    have hexists : ∃ read : Reading × Document,
        Reads source profiles parent (reading.fetched source profiles).result.metadata.rawBodyHash read.1 read.2 :=
      ⟨(reading, raw), hreads⟩
    unfold bodyListing
    rw [dif_pos hexists, Reads.identifiers_eq hparent hinjective codec hexists.choose_spec hreads]

end Lists

/-! ## The fast path -/

/-- A run that takes the fast path: the earlier reading was published under this parser, the later one has the same raw
body on a single page, and SHA-256 has no collision among them. -/
structure FastFetch (source : SourceConfig) (profiles : Fetched) (config : Config) (s : Store) (t : TargetRow)
    (row : SnapshotRow) (document : Document) (earlier later : Reading) (response : HttpResponse) (env : RunEnv) :
    Prop where
  sound : s.TargetsSound
  publication : Published config.codec s t row document
  active : t.lifecycleState = .active
  readable : env.previousUnreadable = false ∧ ∃ snapshot, s.current t.ref = .ok snapshot
  published : earlier.target.ref = t.ref ∧ (earlier.fetched source profiles).failure = none
  canonical : ∃ hash count, canonicalize config.codec t.ref.kind (earlier.fetched source profiles).result.value
    config.canonicalPayloadLimit = .ok (document, hash, count)
  valid : ∃ payload, validatePayload t.ref.kind (earlier.fetched source profiles).result.value t.ref.resourceKey =
    .ok payload
  stored : row.rawBodyHash = nullIfEmpty (earlier.fetched source profiles).result.metadata.rawBodyHash
  claimed : later.target = scanScrapeTarget t
  kind : singlePage t.ref.kind = true
  reply : later.reply = .ok response
  fetched : env.fetched = later.fetched source profiles ∧ env.fetched.failure = none
  fast : SameRawBody row env.fetched.result
  bodies : ∀ earlierResponse, earlier.reply = .ok earlierResponse →
    source.library.rawBodyHash response.body = source.library.rawBodyHash earlierResponse.body →
    response.body = earlierResponse.body
  documents : ∀ raw, env.fetched.result.value.document? t.ref.kind = some raw →
    config.codec.sum256 (canonicalForm config.codec raw) = config.codec.sum256 document →
    canonicalForm config.codec raw = document

/-- The slow path would have come to the same end: a valid value with the published hash and the same outcome. -/
structure SlowPathAgrees (config : Config) (s : Store) (t : TargetRow) (env : RunEnv) : Prop where
  canonical : ∃ document hash count, canonicalize config.codec t.ref.kind env.fetched.result.value
    config.canonicalPayloadLimit = .ok (document, hash, count) ∧ t.currentContentHash = some hash
  valid : ∃ payload, validatePayload t.ref.kind env.fetched.result.value t.ref.resourceKey = .ok payload
  outcome : (judgeValue config env (scanScrapeTarget t) (previousSnapshot s env t.ref)).outcome =
    (runJudgement config s (scanScrapeTarget t) env).outcome

section FastPath
variable {source : SourceConfig} {profiles : Fetched} {config : Config} {s : Store} {t : TargetRow} {row : SnapshotRow}
  {document : Document} {earlier later : Reading} {response : HttpResponse} {env : RunEnv}

section
variable (h : FastFetch source profiles config s t row document earlier later response env)
include h

theorem FastFetch.reread :
    ∃ raw raw', Reread source profiles config.codec earlier later response.body raw raw' := by
  obtain ⟨href, hearlier⟩ := h.published
  obtain ⟨hfetched, hlater⟩ := h.fetched
  rw [hfetched] at hlater
  have href' : later.target.ref = earlier.target.ref := by
    rw [h.claimed, href]
    rfl
  have hkind : singlePage later.target.ref.kind = true := by
    rw [h.claimed]
    exact h.kind
  have hkind₀ : singlePage earlier.target.ref.kind = true := by
    rw [← href']
    exact hkind
  obtain ⟨earlierResponse, hreply, hhash⟩ := fetched_rawBodyHash hkind₀ hearlier
  obtain ⟨response', hreply', hhash'⟩ := fetched_rawBodyHash hkind hlater
  rw [h.reply] at hreply'
  cases hreply'
  have hbody : response.body = earlierResponse.body := by
    obtain ⟨hnonempty, hraw, -, -⟩ := h.fast
    rw [h.stored, hfetched, hhash', hhash] at hraw
    refine h.bodies earlierResponse hreply ?_
    unfold nullIfEmpty at hraw
    split at hraw
    · cases hraw
    · exact (Option.some.inj hraw).symm
  rw [hbody]
  exact Warwick.reread href' hreply h.reply hbody hearlier hlater config.codec hkind

/-- **When the slow path agrees with the fast path**: exactly when the body means the same at both readings. -/
theorem fastPath_sound_iff :
    SlowPathAgrees config s t env ↔ SameReading source.library earlier later response.body := by
  obtain ⟨raw, raw', hreread⟩ := h.reread
  obtain ⟨hfetched, hlater⟩ := h.fetched
  obtain ⟨hash, count, hcanonical⟩ := h.canonical
  obtain ⟨payload, hvalid⟩ := h.valid
  obtain ⟨published, htyped, hform, -, -⟩ := canonicalize_ok hcanonical
  have hkind : later.target.ref.kind = t.ref.kind := by rw [h.claimed]; rfl
  have hpublished : published = raw := by
    have hraw := hreread.typed
    rw [hkind, htyped] at hraw
    exact Option.some.inj hraw
  rw [hpublished] at htyped hform
  constructor
  · -- the hash decides: the value that has the published hash is the published document
    intro hagrees
    obtain ⟨document', hash', count', hcanonical', hcurrent⟩ := hagrees.canonical
    obtain ⟨candidate, htyped', hform', hhash', -⟩ := canonicalize_ok hcanonical'
    have hcandidate : candidate = raw' := by
      have hraw' := hreread.typed'
      rw [hkind, ← hfetched, htyped'] at hraw'
      exact Option.some.inj hraw'
    rw [h.publication.hash] at hcurrent
    have hsum : config.codec.sum256 (canonicalForm config.codec candidate) = config.codec.sum256 document := by
      rw [← hform', ← hhash']
      exact (Option.some.inj hcurrent).symm
    have heq := h.documents candidate htyped' hsum
    refine hreread.differs ?_ ?_
    · obtain ⟨accepted, haccepted⟩ := validatePayload_ok hvalid
      have haccepted' := haccepted.typed
      rw [htyped] at haccepted'
      rw [Option.some.inj haccepted']
      exact haccepted.nodup
    · rw [← hcandidate, heq, hform]
  · intro hsame
    have hvalue : env.fetched.result.value = (earlier.fetched source profiles).result.value := by
      rw [hfetched]
      exact hreread.same hsame
    rw [← hvalue] at hcanonical hvalid
    obtain ⟨snapshot, hprevious, hids, -, -⟩ := published_previous h.publication h.sound h.readable
    refine ⟨⟨document, hash, count, hcanonical, ?_⟩, ⟨payload, hvalid⟩, ?_⟩
    · obtain ⟨-, -, -, hhash, -⟩ := canonicalize_ok hcanonical
      rw [h.publication.hash, hhash]
    · rw [published_fastPath h.publication h.sound h.readable hlater h.fast, hprevious,
        published_unchanged h.publication hids hcanonical hvalid]

end

end FastPath

/-! ## A catalog read in January, in the same month and in March -/

/-- A course that ends on the first of February. -/
def januaryCourse : ClassAttendanceRow where
  id := .text "c"
  courseName := "Course"
  startDate := .text "2024-01-01T00:00:00"
  endDate := .text "2024-02-01T00:00:00"

/-- A source whose every catalog has that course; its raw hash is the body. -/
def januarySource : SourceConfig where
  library := {
    rawBodyHash := fun body => body
    toLower := fun text => text
    formatFloat := fun _ => ""
    parseMediaType := fun contentType => some contentType
    unmarshalCatalog := fun _ => .ok { recordsTotal := 1, recordsFiltered := 1, data := [januaryCourse] }
    unmarshalDetail := fun _ => .error ""
    unmarshalCheckIn := fun _ => .error "" }
  responseBodyLimit := 1000
  maxBodyBytes := 1000

def catalogBody : HttpResponse := { statusCode := 200, contentType := "application/json", body := "[]" }

def januaryCatalog : Document :=
  .catalog [{ courseID := "c", name := "Course", startDate := "2024-01-01", endDate := "2024-02-01", status := .active }]

/-- A codec that tells that catalog from every other document. -/
def januaryConfig : Config where
  codec := {
    marshalledLength := fun _ => 0
    sum256 := fun document => if document = januaryCatalog then 1 else 2
    normalizeTimestampString := fun text => text }
  canonicalPayloadLimit := 1000

def januaryRow : TargetRow := sampleRow januaryConfig.codec catalogRef januaryCatalog

def januarySnapshot : SnapshotRow := sampleSnapshot januaryConfig.codec januaryCatalog (some "[]")

def januaryStore : Store := sampleStore januaryConfig.codec catalogRef januaryCatalog (some "[]")

/-- The catalog read at noon of a day. -/
def readingOn (date : Date) : Reading where
  target := scanScrapeTarget januaryRow
  clock := fun _ => date.time + 12 * hour
  reply := .ok catalogBody

def noProfiles : Fetched := { result := {} }

def fetchOn (date : Date) : RunEnv where
  startedAt := date.time
  finishedAt := date.time
  fetched := (readingOn date).fetched januarySource noProfiles

theorem promised_catalog : Promised januaryConfig.codec (bodyListing januarySource noProfiles januaryRow.ref) Set.univ
    .courseCatalog ((readingOn ⟨2024, 1, 20⟩).fetched januarySource noProfiles) :=
  promised_fetched _ _ rfl (fun _ _ h => h) rfl fun _ _ => Set.mem_univ _

theorem fastFetch_on (date : Date) (hfetched : (fetchOn date).fetched.failure = none)
    (hraw : SameRawBody januarySnapshot (fetchOn date).fetched.result) :
    FastFetch januarySource noProfiles januaryConfig januaryStore januaryRow januarySnapshot januaryCatalog
      (readingOn ⟨2024, 1, 15⟩) (readingOn date) catalogBody (fetchOn date) where
  sound := ⟨by decide +kernel, by decide +kernel, by unfold TargetRow.Counted; decide +kernel⟩
  publication := sampleStore_published rfl (by decide +kernel) (by decide +kernel) (by decide +kernel) _
  active := rfl
  readable := ⟨rfl, Table.isOk_iff.mp (by decide +kernel)⟩
  published := ⟨rfl, by decide +kernel⟩
  canonical := ⟨1, 1, by decide +kernel⟩
  valid := Table.isOk_iff.mp (by decide +kernel)
  stored := by decide +kernel
  claimed := rfl
  kind := rfl
  reply := rfl
  fetched := ⟨rfl, hfetched⟩
  fast := hraw
  bodies := by
    intro response hresponse _
    exact congrArg HttpResponse.body (Except.ok.inj hresponse)
  documents := by
    intro raw _ hsum
    by_contra hne
    simp [januaryConfig] at hsum hne
    exact hne hsum

theorem fastPath_sound_iff_january :
    FastFetch januarySource noProfiles januaryConfig januaryStore januaryRow januarySnapshot januaryCatalog
      (readingOn ⟨2024, 1, 15⟩) (readingOn ⟨2024, 1, 20⟩) catalogBody (fetchOn ⟨2024, 1, 20⟩) ∧
    SlowPathAgrees januaryConfig januaryStore januaryRow (fetchOn ⟨2024, 1, 20⟩) := by
  have hfast := fastFetch_on ⟨2024, 1, 20⟩ (by decide +kernel) (by decide +kernel)
  refine ⟨hfast, (fastPath_sound_iff hfast).mpr ?_⟩
  intro table htable k row hrow
  cases htable
  cases k with
  | zero =>
    cases hrow
    decide +kernel
  | succ k => cases hrow

theorem fastPath_unsound_march :
    FastFetch januarySource noProfiles januaryConfig januaryStore januaryRow januarySnapshot januaryCatalog
      (readingOn ⟨2024, 1, 15⟩) (readingOn ⟨2024, 3, 1⟩) catalogBody (fetchOn ⟨2024, 3, 1⟩) ∧
    ¬ SlowPathAgrees januaryConfig januaryStore januaryRow (fetchOn ⟨2024, 3, 1⟩) := by
  refine ⟨fastFetch_on ⟨2024, 3, 1⟩ (by decide +kernel) (by decide +kernel), fun hagrees => ?_⟩
  have hchanged : (judgeValue januaryConfig (fetchOn ⟨2024, 3, 1⟩) (scanScrapeTarget januaryRow)
      (previousSnapshot januaryStore (fetchOn ⟨2024, 3, 1⟩) januaryRow.ref)).outcome = .changed := by decide +kernel
  have hfast : (runJudgement januaryConfig januaryStore (scanScrapeTarget januaryRow) (fetchOn ⟨2024, 3, 1⟩)).outcome =
      .unchanged := by decide +kernel
  have houtcome := hagrees.outcome
  rw [hchanged, hfast] at houtcome
  cases houtcome

end QrCommandCenter.Warwick
