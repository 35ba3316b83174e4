import QrCommandCenter.Scraper.Serving

/-!
# The versions that the teacher endpoints report

`getCoursesHandler`, `getCourseDetailHandler` and `getSessionDetailHandler` of `internal/api/teacher_handlers.go` in snapshot
mode, with `SnapshotProvider.read` and the metadata of `internal/service/teacher.go`. The payload and its version are two
reads of the store, and transactions of other processes may take effect between them.

* `TeacherRead`, `SnapshotProvider`, `Meanwhile` : a request, the provider, and what happens during the request;
* `SnapshotProvider.read`, `getCoursesHandler`, `getCourseDetailHandler`, `getSessionDetailHandler` : the handlers;
* `Advanced`, `final_advanced` : the version and the validation sequence of a target through a run;
* `Labelled`, `Undisturbed` : the response reports the snapshot it was made from; nothing validated the target in between;
* `labelled_iff` : the first holds exactly if the second does.
-/

namespace QrCommandCenter.Service
open Domain Table Transition

variable {metadata : SnapshotMetadata} {now : Time} {events : List (Event Store Op Response)}

/-! ## Requests and responses -/

inductive TeacherRead where
  | courses
  | course (courseID : String)
  | session (courseID sessionID : String)
deriving DecidableEq, Repr

/-- The value that the primary payload is decoded into. -/
def TeacherRead.Data : TeacherRead → Type
  | .courses => List CourseSummary
  | .course _ => CourseDetail
  | .session _ _ => SessionDetail

structure SnapshotVersionInfo where
  version : Int
  generatedAt : Time
  quality : DataQualityState
  complete : Bool
  parserVersion : String
  stale : Bool
  ageSeconds : Int
deriving DecidableEq, Repr

/-- The headers of `setSnapshotFreshnessHeaders`, numbers and times before they are formatted. -/
structure FreshnessHeaders where
  version : Int
  validationSeq : Int
  validatedAt : Time
  stale : Bool
  generatedAt : Time
  quality : DataQualityState
  complete : Bool
  parserVersion : Option String
  cacheControl : String := "private, no-store"
  etag : String
  target : String
deriving DecidableEq, Repr

structure ApiResponse (α : Type) where
  data : α
  snapshot : Option SnapshotVersionInfo := none
  headers : Option FreshnessHeaders := none

structure ErrorResponse where
  status : Nat
  error : String
deriving DecidableEq, Repr

/-- The errors of `SnapshotProvider.read`. -/
inductive ProviderError where
  | store (err : StoreError)
  | expired (ref : TargetRef)
  | decode (ref : TargetRef)
deriving DecidableEq, Repr

def freshnessHeaders (metadata : SnapshotMetadata) : FreshnessHeaders where
  version := metadata.version
  validationSeq := metadata.validationSeq
  validatedAt := metadata.validatedAt
  stale := metadata.stale
  generatedAt := metadata.validatedAt
  quality := metadata.qualityState
  complete := metadata.complete
  parserVersion := if metadata.parserVersion ≠ "" then some metadata.parserVersion else none
  etag :=
    if metadata.parentKey ≠ "" then
      "W/\"target:" ++ metadata.resourceKey ++ ":parent:" ++ metadata.parentKey ++ ":version:" ++
        toString metadata.version ++ "\""
    else "W/\"target:" ++ metadata.resourceKey ++ ":version:" ++ toString metadata.version ++ "\""
  target := if metadata.parentKey ≠ "" then metadata.parentKey ++ ":" ++ metadata.resourceKey else metadata.resourceKey

def versionedResponse {α : Type} (now : Time) (data : α) (metadata : SnapshotMetadata) : ApiResponse α where
  data := data
  snapshot := some {
    version := metadata.version
    generatedAt := metadata.validatedAt
    quality := metadata.qualityState
    complete := metadata.complete
    parserVersion := metadata.parserVersion
    stale := metadata.stale
    ageSeconds :=
      if isZeroTime metadata.validatedAt then 0 else max 0 ((now - metadata.validatedAt).tdiv second) }
  headers := some (freshnessHeaders metadata)

def successResponse {α : Type} (data : α) : ApiResponse α where
  data := data

/-! ## The provider -/

/-- `SnapshotProvider`; `unmarshal` is `json.Unmarshal` into the destination of a read, `text` the text of an error. -/
structure SnapshotProvider where
  host : String
  unmarshal : (request : TeacherRead) → RawMessage → Option request.Data
  text : ProviderError → String

/-- What happens while a request is served: the transactions before the second read of the payload and between payload
and metadata, what the payload is composed with, and the clocks. -/
structure Meanwhile (request : TeacherRead) where
  refresh : List Op := []
  readAt : Time
  compose : request.Data → request.Data
  between : List Op := []
  metadataAt : Time
  respondedAt : Time

namespace SnapshotProvider
variable (p : SnapshotProvider)

def catalogRef : TargetRef := { host := p.host, kind := .courseCatalog, resourceKey := "catalog" }

def courseRef (courseID : String) : TargetRef := { host := p.host, kind := .courseDetail, resourceKey := courseID }

def sessionRef (courseID sessionID : String) : TargetRef :=
  { host := p.host, kind := .sessionDetail, resourceKey := sessionID, parentKey := courseID }

/-- The reference of the primary payload. -/
def ref : TeacherRead → TargetRef
  | .courses => p.catalogRef
  | .course courseID => p.courseRef courseID
  | .session courseID sessionID => p.sessionRef courseID sessionID

variable (notificationLength : SnapshotMetadata → Nat) {request : TeacherRead} (m : Meanwhile request) (s : Store)

/-- The store that the payload is read from: a cold read gets one refresh, and the read after it is authoritative. -/
def readStore : Store :=
  match s.current (p.ref request) with
  | .error .snapshotNotFound => final (Store.exec notificationLength) s m.refresh
  | _ => s

/-- `read`: the payload of the current snapshot, decoded. -/
def read : Except ProviderError request.Data :=
  match (p.readStore notificationLength m s).current (p.ref request) with
  | .error err => .error (.store err)
  | .ok snapshot =>
    if snapshot.expired m.readAt then .error (.expired (p.ref request))
    else
      match p.unmarshal request snapshot.payload with
      | none => .error (.decode (p.ref request))
      | some data => .ok data

def metadataStore : Store := final (Store.exec notificationLength) (p.readStore notificationLength m s) m.between

/-- `mapServiceError`, with the response to the errors that it does not map. -/
def errorResponse (err : ProviderError) : ErrorResponse :=
  match err with
  | .store .snapshotNotFound => ⟨503, "snapshot unavailable"⟩
  | .expired _ => ⟨503, "snapshot expired"⟩
  | _ => ⟨500, p.text err⟩

/-- What the three handlers share: the payload, and then the metadata of the same reference. -/
def respond : Except ErrorResponse (ApiResponse request.Data) :=
  match p.read notificationLength m s with
  | .error err => .error (p.errorResponse err)
  | .ok data =>
    match (p.metadataStore notificationLength m s).metadata (p.ref request) m.metadataAt with
    | .ok metadata => .ok (versionedResponse m.respondedAt (m.compose data) metadata)
    | .error _ => .ok (successResponse (m.compose data))

end SnapshotProvider

variable (notificationLength : SnapshotMetadata → Nat) (p : SnapshotProvider)

def getCoursesHandler (m : Meanwhile .courses) (s : Store) : Except ErrorResponse (ApiResponse (List CourseSummary)) :=
  p.respond notificationLength m s

def getCourseDetailHandler (courseID : String) (m : Meanwhile (.course courseID)) (s : Store) :
    Except ErrorResponse (ApiResponse CourseDetail) :=
  if courseID = "" then .error ⟨400, "courseId is required"⟩ else p.respond notificationLength m s

def getSessionDetailHandler (courseID sessionID : String) (m : Meanwhile (.session courseID sessionID)) (s : Store) :
    Except ErrorResponse (ApiResponse SessionDetail) :=
  if courseID = "" || sessionID = "" then .error ⟨400, "courseId and sessionId are required"⟩
  else p.respond notificationLength m s

def teacherHandler : (request : TeacherRead) → Meanwhile request → Store → Except ErrorResponse (ApiResponse request.Data)
  | .courses => getCoursesHandler notificationLength p
  | .course courseID => getCourseDetailHandler notificationLength p courseID
  | .session courseID sessionID => getSessionDetailHandler notificationLength p courseID sessionID

/-- The parameters that the handler of the request demands are there. -/
def TeacherRead.Named : TeacherRead → Prop
  | .courses => True
  | .course courseID => courseID ≠ ""
  | .session courseID sessionID => courseID ≠ "" ∧ sessionID ≠ ""

variable {notificationLength p} {t : TargetRow} {s : Store} {ref : TargetRef} {snapshot : Snapshot}

variable {request : TeacherRead}

theorem teacherHandler_named (h : request.Named) (m : Meanwhile request) (s : Store) :
    teacherHandler notificationLength p request m s = p.respond notificationLength m s := by
  cases request with
  | courses => rfl
  | course courseID => exact if_neg h
  | session courseID sessionID =>
    have hnames : courseID ≠ "" ∧ sessionID ≠ "" := h
    exact if_neg (by simpa using hnames)

theorem teacherHandler_unnamed (h : ¬ request.Named) (m : Meanwhile request) (s : Store)
    (response : ApiResponse request.Data) : teacherHandler notificationLength p request m s ≠ .ok response := by
  intro hok
  cases request with
  | courses => exact h trivial
  | course courseID =>
    have hempty : courseID = "" := not_not.mp h
    simp [teacherHandler, getCourseDetailHandler, hempty] at hok
  | session courseID sessionID =>
    have hempty : courseID = "" ∨ sessionID = "" := by
      by_contra hnot
      exact h (not_or.mp hnot)
    simp [teacherHandler, getSessionDetailHandler, hempty] at hok

/-! ## A target through a run -/

structure Advanced (validated : Nat) (t t' : TargetRow) : Prop where
  ref : t'.ref = t.ref
  seq : t'.validationSeq = t.validationSeq + validated
  version : validated = 0 → t'.currentVersion = t.currentVersion

theorem Advanced.of_pointer {t' : TargetRow} (href : t'.ref = t.ref) (h : t'.pointer = t.pointer) :
    Advanced 0 t t' := by
  simp only [TargetRow.pointer, Prod.mk.injEq] at h
  exact ⟨href, by simpa using h.2.2.2.1, fun _ => h.2.1⟩

theorem Advanced.trans {m n : Nat} {a b c : TargetRow} (h₁ : Advanced m a b) (h₂ : Advanced n b c) :
    Advanced (m + n) a c := by
  refine ⟨h₂.ref.trans h₁.ref, ?_, fun hnone => ?_⟩
  · rw [h₂.seq, h₁.seq]
    push_cast
    ring
  · obtain ⟨hm, hn⟩ := Nat.add_eq_zero_iff.mp hnone
    exact (h₂.version hn).trans (h₁.version hm)

theorem exec_advanced (s : Store) (op : Op) {id : Int} (ht : s.target? id = some t) :
    ∃ t', (s.exec notificationLength op).1.target? id = some t' ∧
      Advanced (validates id (Event.of (Store.exec notificationLength) s op)).toNat t t' := by
  have hstep := Store.exec_step notificationLength s op
  unfold Event.of
  generalize (s.exec notificationLength op).1 = s' at hstep ⊢
  generalize (s.exec notificationLength op).2 = out
  cases hstep with
  | rejected =>
    rw [validates_of_unchanged rfl]
    exact ⟨t, ht, .of_pointer rfl rfl⟩
  | quiet hop hq =>
    rw [validates_of_not_commit hop]
    obtain ⟨t', ht', hsteady⟩ := hq.targets.kept id t ht
    exact ⟨t', ht', .of_pointer hsteady.ref hsteady.pointer⟩
  | @commit clocks input _ _ target run heffect =>
    obtain ⟨t', ht', hmoved⟩ := heffect.targets.kept id t ht
    refine ⟨t', ht', ?_⟩
    rw [heffect.validates_eq clocks out id]
    have hid : t.id = id := (lookup_mem ht).2
    by_cases hsame : t.id = input.targetID
    · have hpointer := (hmoved.committed hsame).2
      have hdecide : decide (input.targetID = id) = true := by simp [← hid, hsame]
      cases hs : successfulOutcome input.outcome with
      | false =>
        rw [hdecide]
        refine .of_pointer hmoved.ref ?_
        rw [hpointer]
        simp [commitPointer, Store.publishes, hs]
      | true =>
        have hseq := Store.commitPointer_validationSeq hpointer
        rw [hs, if_pos rfl] at hseq
        rw [hdecide]
        exact ⟨hmoved.ref, by simpa using hseq, fun h => by simp at h⟩
    · have hdecide : decide (input.targetID = id) = false := by
        rw [← hid]
        exact decide_eq_false (Ne.symm hsame)
      rw [hdecide]
      exact .of_pointer hmoved.ref (hmoved.kept hsame).pointer

/-- **A run advances the validation sequence once for each validation of the target**, and without one keeps its version. -/
theorem final_advanced (ops : List Op) (s : Store) {id : Int} (ht : s.target? id = some t) :
    ∃ t', (final (Store.exec notificationLength) s ops).target? id = some t' ∧
      Advanced ((trace (Store.exec notificationLength) s ops).countP (validates id)) t t' := by
  induction ops generalizing s t with
  | nil => exact ⟨t, ht, .of_pointer rfl rfl⟩
  | cons op ops ih =>
    obtain ⟨t₁, ht₁, h₁⟩ := exec_advanced s op ht
    obtain ⟨t₂, ht₂, h₂⟩ := ih _ ht₁
    refine ⟨t₂, ht₂, ?_⟩
    have hcount := h₁.trans h₂
    rw [trace, List.countP_cons]
    rw [add_comm] at hcount
    cases hv : validates id (Event.of (Store.exec notificationLength) s op) with
    | true | false => simpa [hv] using hcount

/-! ## The rows behind the two reads -/

theorem metadata_inv (h : s.metadata ref now = .ok metadata) :
    ∃ t ∈ s.targets, t.ref = ref ∧ metadata.version = t.currentVersion ∧ metadata.validationSeq = t.validationSeq := by
  unfold Store.metadata at h
  split at h
  · cases h
  · rename_i t hfind
    have ht : t.ref = ref ∧ t.lifecycleState = .active := by simpa using List.find?_some hfind
    split at h
    · cases h
    · split at h
      · cases h
      · cases h
        exact ⟨t, List.mem_of_find?_eq_some hfind, ht.1, rfl, rfl⟩

theorem current_version (hs : History events s) (h : s.current ref = .ok snapshot) :
    ∃ t, s.target? snapshot.targetID = some t ∧ t.ref = ref ∧ snapshot.version = t.currentVersion ∧
      snapshot.validationSeq = t.validationSeq := by
  obtain ⟨t, hmem, href, -, row, hrow, hid, hseq, hversion, -⟩ := Store.current_inv h
  have ht : s.target? t.id = some t := lookup_of_nodup hs.targets.nodup hmem
  rw [hid]
  refine ⟨t, ht, href, ?_, hseq⟩
  rcases (hs.present t.id t ht).pointer with ⟨hnone, -⟩ | ⟨snapshotId, row', hpointer, hstored, -, hcurrent, -⟩
  · rw [hnone] at hrow
    cases hrow
  · rw [hpointer, Option.bind_some, hstored] at hrow
    cases hrow
    exact hversion.trans hcurrent

/-- **The two reads agree exactly if nothing validated the target between them.** -/
theorem metadata_current_iff (hs : History events s) (hw : s.WellFormed)
    (ops : List Op) (hcurrent : s.current ref = .ok snapshot)
    (hmetadata : (final (Store.exec notificationLength) s ops).metadata ref now = .ok metadata) :
    metadata.version = snapshot.version ∧ metadata.validationSeq = snapshot.validationSeq ↔
      ∀ e ∈ trace (Store.exec notificationLength) s ops, validates snapshot.targetID e = false := by
  obtain ⟨t, ht, href, hversion, hseq⟩ := current_version hs hcurrent
  obtain ⟨t', ht', hadvanced⟩ := @final_advanced notificationLength _ ops s _ ht
  obtain ⟨u, hmem, huref, huversion, huseq⟩ := metadata_inv hmetadata
  have hw' : (final (Store.exec notificationLength) s ops).WellFormed :=
    final_inv (fun s op h => Store.exec_wellFormed notificationLength s op h) hw ops
  have hut : u = t' := by
    refine List.inj_on_of_nodup_map hw'.sound.refs hmem (lookup_mem ht').1 ?_
    rw [huref, hadvanced.ref, href]
  have hcount : (∀ e ∈ trace (Store.exec notificationLength) s ops, validates snapshot.targetID e = false) ↔
      (trace (Store.exec notificationLength) s ops).countP (validates snapshot.targetID) = 0 := by
    simp [List.countP_eq_zero]
  rw [hcount, huversion, huseq, hut, hadvanced.seq, hversion, hseq]
  constructor
  · rintro ⟨-, hequal⟩
    omega
  · intro hnone
    exact ⟨hadvanced.version hnone, by omega⟩

/-! ## Responses and the snapshots they are made from -/

/-- What the response reports about its data is the version and the validation sequence of the snapshot. -/
structure ReportsOf {α : Type} (snapshot : Snapshot) (response : ApiResponse α) : Prop where
  envelope : ∀ info, response.snapshot = some info → info.version = snapshot.version
  headers : ∀ headers, response.headers = some headers →
    headers.version = snapshot.version ∧ headers.validationSeq = snapshot.validationSeq

section Reports
variable (notificationLength : SnapshotMetadata → Nat) (p : SnapshotProvider) {request : TeacherRead}
  (m : Meanwhile request) (s : Store)

/-- Every response reports the snapshot that its primary payload was decoded from. -/
def Labelled : Prop :=
  ∀ response, teacherHandler notificationLength p request m s = .ok response →
    ∃ snapshot data, (p.readStore notificationLength m s).current (p.ref request) = .ok snapshot ∧
      p.unmarshal request snapshot.payload = some data ∧ response.data = m.compose data ∧ ReportsOf snapshot response

/-- If the request is served from a snapshot and its metadata is found, no commit validated the target in between. -/
def Undisturbed : Prop :=
  ∀ snapshot metadata, request.Named → (p.readStore notificationLength m s).current (p.ref request) = .ok snapshot →
    snapshot.expired m.readAt = false → (p.unmarshal request snapshot.payload).isSome →
    (p.metadataStore notificationLength m s).metadata (p.ref request) m.metadataAt = .ok metadata →
    ∀ e ∈ trace (Store.exec notificationLength) (p.readStore notificationLength m s) m.between,
      validates snapshot.targetID e = false

end Reports

section Handlers
variable {request : TeacherRead} {m : Meanwhile request} {s : Store} {α : Type}

theorem versionedResponse_reportsOf_iff (now : Time) (data : α) :
    ReportsOf snapshot (versionedResponse now data metadata) ↔
      metadata.version = snapshot.version ∧ metadata.validationSeq = snapshot.validationSeq := by
  constructor
  · intro h
    exact h.headers _ rfl
  · intro h
    refine ⟨fun info hinfo => ?_, fun headers hheaders => ?_⟩
    · obtain rfl := Option.some.inj hinfo
      exact h.1
    · obtain rfl := Option.some.inj hheaders
      exact h

theorem successResponse_reportsOf (snapshot : Snapshot) (data : α) : ReportsOf snapshot (successResponse data) :=
  ⟨(fun _ h => by cases h), (fun _ h => by cases h)⟩

theorem read_eq_ok_iff {data : request.Data} :
    p.read notificationLength m s = .ok data ↔
      ∃ snapshot, (p.readStore notificationLength m s).current (p.ref request) = .ok snapshot ∧
        snapshot.expired m.readAt = false ∧ p.unmarshal request snapshot.payload = some data := by
  unfold SnapshotProvider.read
  cases hcurrent : (p.readStore notificationLength m s).current (p.ref request) with
  | error err => simp
  | ok snapshot =>
    cases hexpired : snapshot.expired m.readAt with
    | true => simp [hexpired]
    | false =>
      cases hdata : p.unmarshal request snapshot.payload with
      | none | some => simp [hexpired, hdata]

variable (notificationLength p m) in
theorem readStore_history (ops : List Op) :
    ∃ events, History events (p.readStore notificationLength m (final (Store.exec notificationLength) {} ops)) ∧
      (p.readStore notificationLength m (final (Store.exec notificationLength) {} ops)).WellFormed := by
  have hrun : ∀ ops, ∃ events, History events (final (Store.exec notificationLength) {} ops) ∧
      (final (Store.exec notificationLength) {} ops).WellFormed := fun ops =>
    ⟨_, history_inv history_empty ops fun events s op _ => history_step notificationLength events s op,
      final_inv (Store.exec_wellFormed notificationLength) Store.wellFormed_empty ops⟩
  unfold SnapshotProvider.readStore
  split
  · rw [← final_append]
    exact hrun _
  · exact hrun ops

end Handlers

/-- **The reported version is that of the data exactly if no commit validated the target between the two reads**, for
every history, request and interleaving. -/
theorem labelled_iff (notificationLength : SnapshotMetadata → Nat) (p : SnapshotProvider) (ops : List Op)
    {request : TeacherRead} (m : Meanwhile request) :
    Labelled notificationLength p m (final (Store.exec notificationLength) {} ops) ↔
      Undisturbed notificationLength p m (final (Store.exec notificationLength) {} ops) := by
  obtain ⟨events, hs, hw⟩ := readStore_history notificationLength p m ops
  generalize final (Store.exec notificationLength) {} ops = s at hs hw ⊢
  constructor
  · intro h snapshot metadata hnamed hcurrent hfresh hdecodes hmetadata
    obtain ⟨data, hdata⟩ := Option.isSome_iff_exists.mp hdecodes
    have hread : p.read notificationLength m s = .ok data := read_eq_ok_iff.mpr ⟨snapshot, hcurrent, hfresh, hdata⟩
    have hresponse : teacherHandler notificationLength p request m s =
        .ok (versionedResponse m.respondedAt (m.compose data) metadata) := by
      rw [teacherHandler_named hnamed, SnapshotProvider.respond, hread]
      simp only [hmetadata]
    obtain ⟨snapshot', data', hcurrent', -, -, hreports⟩ := h _ hresponse
    rw [hcurrent] at hcurrent'
    cases hcurrent'
    exact (metadata_current_iff hs hw m.between hcurrent hmetadata).mp
      ((versionedResponse_reportsOf_iff _ _).mp hreports)
  · intro h response hresponse
    by_cases hnamed : request.Named
    · rw [teacherHandler_named hnamed, SnapshotProvider.respond] at hresponse
      cases hread : p.read notificationLength m s with
      | error err =>
        rw [hread] at hresponse
        cases hresponse
      | ok data =>
        obtain ⟨snapshot, hcurrent, hfresh, hdata⟩ := read_eq_ok_iff.mp hread
        rw [hread] at hresponse
        refine ⟨snapshot, data, hcurrent, hdata, ?_⟩
        cases hmetadata : (p.metadataStore notificationLength m s).metadata (p.ref request) m.metadataAt with
        | error err =>
          simp only [hmetadata, Except.ok.injEq] at hresponse
          subst hresponse
          exact ⟨rfl, successResponse_reportsOf snapshot _⟩
        | ok metadata =>
          simp only [hmetadata, Except.ok.injEq] at hresponse
          subst hresponse
          have hquiet := h snapshot metadata hnamed hcurrent hfresh (by simp [hdata]) hmetadata
          exact ⟨rfl, (versionedResponse_reportsOf_iff _ _).mpr
            ((metadata_current_iff hs hw m.between hcurrent hmetadata).mpr hquiet)⟩
    · exact absurd hresponse (teacherHandler_unnamed hnamed m s response)

/-! ## A commit between the two reads -/

def sampleUnmarshal : (request : TeacherRead) → RawMessage → Option request.Data
  | .courses, .document (.catalog courses) => some courses
  | .course _, .document (.course detail) => some detail
  | .session _ _, .document (.session detail) => some detail
  | _, _ => none

def sampleProvider : SnapshotProvider where
  host := "h"
  unmarshal := sampleUnmarshal
  text := fun _ => "internal"

def catalogVersion (generation : Int) (now : Time) (courses : List CourseSummary) : List Op :=
  [.claimOne [] { ref := sampleProvider.catalogRef, now := now, workerID := "a", leaseDuration := minute },
    .commit ⟨now, now, now⟩ {
      targetID := 1, workerID := "a", leaseGeneration := generation, outcome := .changed
      startedAt := now, finishedAt := now, nextRunAt := now + minute, currentInterval := minute
      consecutiveFailures := 0, recentChanges := [], changed := true, contentHash := generation.toNat
      payload := .document (.catalog courses)
      manifest := { complete := true } }]

def publishedCatalog : List Op :=
  [.seedHost 0 { host := "h", baselineRequestsPerSecond := 1, burst := 1, baselineConcurrency := 1, now := second },
    .seed second [{ ref := sampleProvider.catalogRef, initialInterval := minute, minInterval := minute
                    maxInterval := minute, maxServeAge := hour, nextRunAt := second }]] ++
    catalogVersion 1 hour []

/-- The second version is committed after the first one was decoded. -/
def relabelled : Meanwhile .courses where
  readAt := hour
  compose := fun courses => courses
  between := catalogVersion 2 (hour + minute) [{ courseID := "1", name := "Course", status := .active }]
  metadataAt := hour + minute
  respondedAt := hour + minute

theorem relabelled_not_labelled :
    ¬ ∀ (notificationLength : SnapshotMetadata → Nat) (p : SnapshotProvider) (ops : List Op) (request : TeacherRead)
      (m : Meanwhile request), Labelled notificationLength p m (final (Store.exec notificationLength) {} ops) := by
  intro h
  have hreported : ((teacherHandler (fun _ => 0) sampleProvider .courses relabelled
      (final (Store.exec fun _ => 0) {} publishedCatalog)).toOption.bind ApiResponse.headers).map
        FreshnessHeaders.version = some 2 := by decide +kernel
  have hserved : ((sampleProvider.readStore (fun _ => 0) relabelled
      (final (Store.exec fun _ => 0) {} publishedCatalog)).current sampleProvider.catalogRef).toOption.map
        Snapshot.version = some 1 := by decide +kernel
  have hlabelled := h (fun _ => 0) sampleProvider publishedCatalog .courses relabelled
  unfold Labelled at hlabelled
  generalize final (Store.exec fun _ => 0) {} publishedCatalog = s at hreported hserved hlabelled
  cases hresponse : teacherHandler (fun _ => 0) sampleProvider .courses relabelled s with
  | error err => simp [hresponse, Except.toOption] at hreported
  | ok response =>
    obtain ⟨snapshot, data, hcurrent, -, -, hreports⟩ := hlabelled response hresponse
    rw [show sampleProvider.ref .courses = sampleProvider.catalogRef from rfl] at hcurrent
    simp only [hresponse, Except.toOption, Option.bind_some, Option.map_eq_some_iff] at hreported
    obtain ⟨headers, hheaders, hversion⟩ := hreported
    simp only [hcurrent, Except.toOption, Option.map_some, Option.some.injEq] at hserved
    have hequal := (hreports.headers headers hheaders).1
    omega

end QrCommandCenter.Service
