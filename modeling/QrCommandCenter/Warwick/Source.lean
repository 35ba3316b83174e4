import Mathlib.Data.Rat.Floor
import QrCommandCenter.Domain.Date
import QrCommandCenter.Scraper.Judge

/-!
# The snapshot source

The single-page fetches of `internal/warwick/snapshot_source.go`: an upstream response is guarded, decoded and turned
into the value the coordinator canonicalizes.

* `Library` : the standard library functions a body goes through;
* `requestJSON` : from the reply of the upstream to a decoded table, with `validateBody` for the response guard;
* `collectRows` : the loop over a table, which refuses blank and repeated identifiers;
* `fetchCatalog`, `fetchCourse`, `fetchSession` : the fetches, and `fetchAuthenticated` which picks one;
* `fetchTable_ok` : what a successful fetch has read, `collectRows_eq_iff` : when two loops over a table agree.
-/

namespace QrCommandCenter.Warwick
open Domain Scraper

/-! ## Decoded responses -/

/-- A JSON value behind `interface{}`. -/
inductive Json where
  | null
  | bool (value : Bool)
  | number (value : ℚ)
  | text (value : String)
  | composite
deriving DecidableEq, Repr

/-- A DataTables response, without the columns that nothing reads. -/
structure DataTable (ρ : Type) where
  recordsTotal : Int
  recordsFiltered : Int
  data : List ρ
deriving DecidableEq, Repr

structure ClassAttendanceRow where
  id : Json
  courseName : String
  enrolled : Json := .null
  startDate : Json := .null
  endDate : Json := .null
deriving DecidableEq, Repr

structure ClassAttendanceDetailRow where
  dID : Json
  dName : String
  dStatus : String
deriving DecidableEq, Repr

structure StudentCheckInRow where
  studentID : String
  studentName : String
  studentNickName : String
  studentSchool : String
  studentImg : String
  studentCheckIn : Bool
  studentPPoint : Int
deriving DecidableEq, Repr

/-- A student of `UserGroupSearch`, without the columns that nothing reads. -/
structure UserGroupRow where
  studentID : String
  studentGuid : String
  fullName : String
  school : String := ""
deriving DecidableEq, Repr

/-- The standard library on bodies and texts. A body is the text of its bytes. -/
structure Library where
  /-- The hex digest of the SHA-256 hash. -/
  rawBodyHash : String → String
  toLower : String → String
  /-- `strconv.FormatFloat(value, 'f', -1, 64)` of an integral value. -/
  formatFloat : ℚ → String
  parseMediaType : String → Option String
  unmarshalCatalog : String → Except String (DataTable ClassAttendanceRow)
  unmarshalDetail : String → Except String (DataTable ClassAttendanceDetailRow)
  unmarshalCheckIn : String → Except String (DataTable StudentCheckInRow)

/-- The limits of the source and of its response guard. -/
structure SourceConfig where
  library : Library
  responseBodyLimit : Int
  maxBodyBytes : Int

/-! ## The response guard -/

def contains (text part : String) : Bool := part.toList <:+: text.toList

def authSignalThreshold : Nat := 2

/-- `authSignalScore` for a response that has to be JSON. -/
def authSignalScore (library : Library) (body : String) : Nat :=
  let text := library.toLower body
  let score (signal : Bool) (points : Nat) : Nat := if signal then points else 0
  score (contains text "<form") 1 +
    score (contains text "type=\"password\"" || contains text "name=\"password\"") 1 +
    score (contains text "__viewstate") 1 +
    score (contains text "login" || contains text "sign in") 1 +
    score (contains text "idg-box-login-primary" || contains text "idg-btn-sumbit") 2 +
    score (match (trimSpace body).toList with
      | [] => true
      | c :: _ => c ≠ '\x7b' && c ≠ '[') 1

/-- `ValidateBody`; `none` accepts the body. -/
def validateBody (config : SourceConfig) (body : String) : Option FetchFailure :=
  if config.maxBodyBytes < body.utf8ByteSize then some (.fetchError .invalidPayload)
  else if authSignalThreshold ≤ authSignalScore config.library body then some (.fetchError .authExpired)
  else none

/-! ## Requests -/

/-- An upstream response; `retryAfter` is the parsed header. -/
structure HttpResponse where
  statusCode : Int
  etag : String := ""
  lastModified : String := ""
  cacheControl : String := ""
  retryAfter : Duration := 0
  contentType : String := ""
  body : String := ""
  readFailure : Option FetchFailure := none
deriving DecidableEq, Repr

def responseMetadata (response : HttpResponse) : ResponseMetadata where
  statusCode := response.statusCode
  etag := response.etag
  lastModified := response.lastModified
  cacheControl := response.cacheControl

/-- `mime.ParseMediaType` with the test for JSON. -/
def jsonMediaType (library : Library) (contentType : String) : Option String :=
  (library.parseMediaType contentType).filter fun mediaType =>
    mediaType = "application/json" || "+json".toList <:+ mediaType.toList

/-- `requestJSON`: the metadata and the bytes read, which also a failure has, and the decoded table. -/
def requestJSON {ρ : Type} (config : SourceConfig) (unmarshal : String → Except String (DataTable ρ))
    (reply : Except FetchFailure HttpResponse) : ResponseMetadata × Int × Except FetchFailure (DataTable ρ) :=
  match reply with
  | .error failure => ({}, 0, .error failure)
  | .ok response =>
    let metadata := responseMetadata response
    if response.statusCode = 304 then (metadata, 0, .error .notModified)
    else if response.statusCode ∈ [302, 301, 401, 403] then (metadata, 0, .error (.fetchError .authExpired))
    else if response.statusCode < 200 ∨ 300 ≤ response.statusCode then
      (metadata, 0, .error (.upstreamStatus response.statusCode response.retryAfter))
    else match jsonMediaType config.library response.contentType with
    | none => (metadata, 0, .error (.fetchError .invalidPayload))
    | some mediaType =>
      let metadata := { metadata with contentType := mediaType }
      let bytesRead : Int := response.body.utf8ByteSize
      match response.readFailure with
      | some failure => (metadata, bytesRead, .error failure)
      | none =>
        if config.responseBodyLimit < bytesRead then
          (metadata, config.responseBodyLimit + 1, .error (.fetchError .invalidPayload))
        else
          let metadata := { metadata with rawBodyHash := config.library.rawBodyHash response.body }
          match validateBody config response.body with
          | some failure => (metadata, bytesRead, .error failure)
          | none =>
            match unmarshal response.body with
            | .error _ => (metadata, bytesRead, .error (.fetchError .invalidPayload))
            | .ok table => (metadata, bytesRead, .ok table)

/-! ## Rows -/

/-- `requiredDataTableIdentifier`; every number of a JSON text is finite. -/
def requiredDataTableIdentifier (library : Library) (endpoint field : String) (value : Json) : Except String String :=
  let nonempty (identifier : String) : Except String String :=
    if identifier = "" then .error (endpoint ++ " returned an empty " ++ field ++ " identifier") else .ok identifier
  match value with
  | .text text => nonempty (trimSpace text)
  | .number number =>
    if number.den ≠ 1 then .error (endpoint ++ " returned an invalid " ++ field ++ " identifier")
    else nonempty (library.formatFloat number)
  | _ => .error (endpoint ++ " returned an invalid " ++ field ++ " identifier")

def recordUniqueIdentifier (seen : List String) (endpoint field identifier : String) : Except String Unit :=
  if identifier = "" then .error (endpoint ++ " returned an empty " ++ field ++ " identifier")
  else if seen.contains identifier then .error (endpoint ++ " returned a duplicate " ++ field ++ " identifier")
  else .ok ()

def validateCompleteDataTable {ρ : Type} (endpoint : String) (table : DataTable ρ) : Except String Unit :=
  if table.recordsTotal < 0 ∨ table.recordsFiltered < 0 ∨ table.recordsTotal < table.recordsFiltered ∨
      (table.data.length : Int) ≠ table.recordsFiltered then
    .error (endpoint ++ " returned an incomplete or inconsistent collection")
  else .ok ()

/-- The loop over the rows, from row `i` on: each has an identifier of its own, from which its record is built. -/
def collectRows {ρ α : Type} (endpoint field : String) (identifier : ρ → Except String String)
    (build : Nat → String → ρ → α) : Nat → List String → List ρ → Except String (List α)
  | _, _, [] => .ok []
  | i, seen, row :: rest => do
    let id ← identifier row
    recordUniqueIdentifier seen endpoint field id
    let more ← collectRows endpoint field identifier build (i + 1) (id :: seen) rest
    .ok (build i id row :: more)

def collectTable {ρ α : Type} (endpoint field : String) (identifier : ρ → Except String String)
    (build : Nat → String → ρ → α) (table : DataTable ρ) : Except String (List α) := do
  validateCompleteDataTable endpoint table
  collectRows endpoint field identifier build 0 [] table.data

/-! ## Values -/

def normalizeWarwickDate : Json → String
  | .text text => ((parseDateTime text).map formatDate).getD ""
  | _ => ""

/-- `strconv.Atoi`, with the value it returns next to an error: zero, or the nearest `int`. -/
def atoi (text : String) : Int :=
  let magnitude (digitText : List Char) : Option Int :=
    if digitText = [] then none else (digits digitText.length digitText).map fun parsed => (parsed.1 : Int)
  match text.toList with
  | '-' :: rest => max (-9223372036854775808) (-(magnitude rest).getD 0)
  | '+' :: rest => min 9223372036854775807 ((magnitude rest).getD 0)
  | rest => min 9223372036854775807 ((magnitude rest).getD 0)

/-- `parseIntValue`; the number of an `int` is cut off towards zero. -/
def parseIntValue : Json → Int
  | .number value => if 0 ≤ value then ⌊value⌋ else ⌈value⌉
  | .text text => atoi text
  | _ => 0

def courseStatus (row : ClassAttendanceRow) (now : Time) : CourseStatus :=
  (getCourseStatus (normalizeWarwickDate row.startDate) (normalizeWarwickDate row.endDate) now).getD .active

def courseSummary (now : Nat → Time) (i : Nat) (courseID : String) (row : ClassAttendanceRow) : CourseSummary where
  courseID := courseID
  name := row.courseName
  startDate := normalizeWarwickDate row.startDate
  endDate := normalizeWarwickDate row.endDate
  enrolledCount := parseIntValue row.enrolled
  status := courseStatus row (now i)

/-- The courses of a decoded catalog; `now i` is the `time.Now()` that row `i` is read at. -/
def parseCatalog (library : Library) (now : Nat → Time) (table : DataTable ClassAttendanceRow) : Except String Value := do
  let courses ← collectTable "ClassAttendanceSearch" "course"
    (fun row => requiredDataTableIdentifier library "ClassAttendanceSearch" "course" row.id) (courseSummary now) table
  .ok (.courses courses)

def sessionStatusFromWarwick (library : Library) (status : String) : SessionStatus :=
  let text := library.toLower (trimSpace status)
  if text = "" then .notStarted
  else if text = "finished" then .done
  else .active

def sessionSummary (library : Library) (i : Nat) (sessionID : String) (row : ClassAttendanceDetailRow) :
    SessionSummary where
  sessionID := sessionID
  sessionNumber := i + 1
  name := row.dName
  status := sessionStatusFromWarwick library row.dStatus

def courseDetail (target : ScrapeTarget) (sessions : List SessionSummary) : CourseDetail where
  courseID := target.ref.resourceKey
  name := target.attributes.field "course_name"
  totalSessions := sessions.length
  completedSessions := sessions.countP fun session => session.status = .done
  status := .active
  sessions := sessions

def parseCourse (library : Library) (target : ScrapeTarget) (table : DataTable ClassAttendanceDetailRow) :
    Except String Value := do
  let sessions ← collectTable "ClassAttendanceDetailSearch" "session"
    (fun row => requiredDataTableIdentifier library "ClassAttendanceDetailSearch" "session" row.dID)
    (sessionSummary library) table
  .ok (.coursePointer (some (courseDetail target sessions)))

def studentCheckin (studentID : String) (row : StudentCheckInRow) : StudentCheckin where
  studentID := studentID
  name := row.studentName
  nickname := row.studentNickName
  school := row.studentSchool
  avatarURL := row.studentImg
  checkedIn := row.studentCheckIn
  participationPoints := row.studentPPoint

def sessionDetail (target : ScrapeTarget) (students : List StudentCheckin) : SessionDetail where
  sessionID := target.ref.resourceKey
  totalStudents := students.length
  checkedInCount := students.countP StudentCheckin.checkedIn
  students := students

def parseSession (target : ScrapeTarget) (table : DataTable StudentCheckInRow) : Except String Value := do
  let students ← collectTable "ClassAttendanceStudentCheckInSearch" "student"
    (fun row => .ok (trimSpace row.studentID)) (fun _ => studentCheckin) table
  .ok (.sessionPointer (some (sessionDetail target students)))

/-! ## Fetches -/

/-- A single-page fetch: request, decode, parse. -/
def fetchTable {ρ : Type} (config : SourceConfig) (unmarshal : String → Except String (DataTable ρ))
    (parse : DataTable ρ → Except String Value) (reply : Except FetchFailure HttpResponse) : Fetched :=
  let (metadata, bytesRead, answer) := requestJSON config unmarshal reply
  let result : FetchResult := { metadata := metadata, bytesRead := bytesRead, expectedPages := 1, fetchedPages := 1 }
  match answer with
  | .error failure => { result := result, failure := some failure }
  | .ok table =>
    let result := { result with reportedCount := table.recordsFiltered }
    match parse table with
    | .error _ => { result := result, failure := some (.fetchError .invalidPayload) }
    | .ok value => { result := { result with value := value } }

section
variable (config : SourceConfig)

def fetchCatalog (now : Nat → Time) (reply : Except FetchFailure HttpResponse) : Fetched :=
  fetchTable config config.library.unmarshalCatalog (parseCatalog config.library now) reply

section
variable (target : ScrapeTarget) (reply : Except FetchFailure HttpResponse)

def fetchCourse : Fetched :=
  fetchTable config config.library.unmarshalDetail (parseCourse config.library target) reply

def fetchSession : Fetched :=
  fetchTable config config.library.unmarshalCheckIn (parseSession target) reply

end

/-- `fetchAuthenticated`; `profiles` is the fetch of the student profiles, which takes several pages. -/
def fetchAuthenticated (profiles : Fetched) (target : ScrapeTarget) (now : Nat → Time)
    (reply : Except FetchFailure HttpResponse) : Fetched :=
  match target.ref.kind with
  | .courseCatalog => fetchCatalog config now reply
  | .courseDetail => fetchCourse config target reply
  | .sessionDetail => fetchSession config target reply
  | .studentProfiles => profiles
  | .other text => { result := {}, failure := some (.other ("snapshot source: unknown kind " ++ quote text)) }

end

/-! ## What a successful fetch has read -/

section Read
variable {ρ α : Type} {config : SourceConfig} {unmarshal : String → Except String (DataTable ρ)}
  {parse : DataTable ρ → Except String Value} {reply : Except FetchFailure HttpResponse}
variable {i : Nat} {seen : List String}

theorem requestJSON_ok {metadata : ResponseMetadata} {bytesRead : Int} {table : DataTable ρ}
    (h : requestJSON config unmarshal reply = (metadata, bytesRead, .ok table)) :
    ∃ response, reply = .ok response ∧ unmarshal response.body = .ok table ∧
      metadata.rawBodyHash = config.library.rawBodyHash response.body := by
  unfold requestJSON at h
  split at h
  · cases h
  rename_i response
  simp only at h
  -- only the last branch returns a table
  repeat' split at h
  all_goals first | cases h; done | skip
  rename_i hunmarshal
  cases h
  exact ⟨response, rfl, hunmarshal, rfl⟩

/-- **A fetch without a failure decoded and parsed the body whose hash it reports.** -/
theorem fetchTable_ok (h : (fetchTable config unmarshal parse reply).failure = none) :
    ∃ response table, reply = .ok response ∧ unmarshal response.body = .ok table ∧
      parse table = .ok (fetchTable config unmarshal parse reply).result.value ∧
      (fetchTable config unmarshal parse reply).result.metadata.rawBodyHash =
        config.library.rawBodyHash response.body := by
  cases hrequest : requestJSON config unmarshal reply with
  | mk metadata rest =>
    obtain ⟨bytesRead, answer⟩ := rest
    simp only [fetchTable, hrequest] at h ⊢
    cases answer with
    | error failure => cases h
    | ok table =>
      obtain ⟨response, hreply, hunmarshal, hhash⟩ := requestJSON_ok hrequest
      cases hparse : parse table with
      | error message =>
        simp only [hparse] at h
        cases h
      | ok value =>
        refine ⟨response, table, hreply, hunmarshal, ?_, ?_⟩
        · simp only [hparse]
        · simp only [hparse]
          exact hhash

/-! ## Two readings of one table -/

variable {endpoint field : String} {identifier : ρ → Except String String} {build build' : Nat → String → ρ → α}

theorem collectRows_cons {row : ρ} {rest : List ρ} {records : List α} :
    collectRows endpoint field identifier build i seen (row :: rest) = .ok records ↔
      ∃ id more, identifier row = .ok id ∧ recordUniqueIdentifier seen endpoint field id = .ok () ∧
        collectRows endpoint field identifier build (i + 1) (id :: seen) rest = .ok more ∧
        records = build i id row :: more := by
  constructor
  · intro h
    obtain ⟨id, hid, h⟩ := Table.bind_eq_ok.mp h
    obtain ⟨_, hunique, h⟩ := Table.bind_eq_ok.mp h
    obtain ⟨more, hmore, h⟩ := Table.bind_eq_ok.mp h
    cases h
    exact ⟨id, more, hid, hunique, hmore, rfl⟩
  · rintro ⟨id, more, hid, hunique, hmore, rfl⟩
    exact Table.bind_eq_ok.mpr ⟨id, hid, Table.bind_eq_ok.mpr ⟨(), hunique, Table.bind_eq_ok.mpr ⟨more, hmore, rfl⟩⟩⟩

theorem collectRows_map_eq {β : Type} {f : α → β} (hf : ∀ k id row, f (build' k id row) = f (build k id row))
    {rows : List ρ} {records records' : List α}
    (h : collectRows endpoint field identifier build i seen rows = .ok records)
    (h' : collectRows endpoint field identifier build' i seen rows = .ok records') :
    records'.map f = records.map f := by
  induction rows generalizing i seen records records' with
  | nil =>
    cases h
    cases h'
    rfl
  | cons row rest ih =>
    obtain ⟨id, more, hid, -, hmore, rfl⟩ := collectRows_cons.mp h
    obtain ⟨id', more', hid', -, hmore', rfl⟩ := collectRows_cons.mp h'
    rw [hid] at hid'
    cases hid'
    rw [List.map_cons, List.map_cons, hf, ih hmore hmore']

/-- **Two readings of a table agree exactly when they agree on every row.** -/
theorem collectRows_eq_iff {rows : List ρ} {records records' : List α}
    (h : collectRows endpoint field identifier build i seen rows = .ok records)
    (h' : collectRows endpoint field identifier build' i seen rows = .ok records') {same : Nat → ρ → Prop}
    (hsame : ∀ k id row, build' k id row = build k id row ↔ same k row) :
    records' = records ↔ ∀ k row, rows[k]? = some row → same (i + k) row := by
  induction rows generalizing i seen records records' with
  | nil =>
    cases h
    cases h'
    simp
  | cons row rest ih =>
    obtain ⟨id, more, hid, -, hmore, rfl⟩ := collectRows_cons.mp h
    obtain ⟨id', more', hid', -, hmore', rfl⟩ := collectRows_cons.mp h'
    rw [hid] at hid'
    cases hid'
    rw [List.cons.injEq, hsame, ih hmore hmore']
    constructor
    · rintro ⟨hfirst, hrest⟩ k row' hrow'
      cases k with
      | zero =>
        cases hrow'
        exact hfirst
      | succ k =>
        rw [show i + (k + 1) = i + 1 + k by omega]
        exact hrest k row' hrow'
    · intro hall
      refine ⟨hall 0 row rfl, fun k row' hrow' => ?_⟩
      rw [show i + 1 + k = i + (k + 1) by omega]
      exact hall (k + 1) row' hrow'

end Read

end QrCommandCenter.Warwick
