import QrCommandCenter.Warwick.ResponseGuard

/-!
# The live readers

The reads of `internal/warwick/classroom_courses.go`, `classroom_sessions.go` and `classroom_profiles.go` that go straight to
the upstream.

* `LiveLibrary` : the standard library with the streaming decoder and `%v`;
* `checkAuth`, `readTable` : from a reply to a decoded table;
* `fetchCourses`, `fetchCourseDetail`, `fetchSessionDetail`, `fetchStudentProfiles` : the readers;
* `TableComplete`, `ProfilesComplete` : a read without an error returns everything the upstream reported;
* `live_reads_complete_iff` : which replies that holds for.
-/

namespace QrCommandCenter.Warwick
open Domain Scraper

/-! ## The library -/

def maxBodySize : Nat := 1048576

/-- The characters within the first `n` bytes of a text. -/
def takeBytes : Nat → List Char → List Char
  | _, [] => []
  | n, c :: rest => if c.utf8Size ≤ n then c :: takeBytes (n - c.utf8Size) rest else []

/-- What `io.LimitReader(body, maxBodySize)` lets through. -/
def limited (body : String) : String := String.ofList (takeBytes maxBodySize body.toList)

/-- The library with what only the live readers use: `json.NewDecoder(...).Decode` and `fmt.Sprintf("%v", ...)`. -/
structure LiveLibrary extends Library where
  decodeCatalog : String → Except String (DataTable ClassAttendanceRow)
  decodeDetail : String → Except String (DataTable ClassAttendanceDetailRow)
  decodeCheckIn : String → Except String (DataTable StudentCheckInRow)
  decodeProfiles : String → Except String (DataTable UserGroupRow)
  formatValue : Json → String

/-! ## Replies -/

/-- `authSignalsDetected`: `authSignalScore` for a response that need not be JSON. -/
def authSignalsDetected (library : Library) (body : String) : Bool :=
  let text := library.toLower body
  let score (signal : Bool) (points : Nat) : Nat := if signal then points else 0
  authSignalThreshold ≤ score (contains text "<form") 1 +
    score (contains text "type=\"password\"" || contains text "name=\"password\"") 1 +
    score (contains text "__viewstate") 1 +
    score (contains text "login" || contains text "sign in") 1 +
    score (contains text "idg-box-login-primary" || contains text "idg-btn-sumbit") 2

def checkAuth (library : Library) (response : HttpResponse) : Except FetchFailure Unit :=
  if response.statusCode = 302 ∨ response.statusCode = 301 then .error (.fetchError .authExpired)
  else if response.statusCode = 401 ∨ response.statusCode = 403 then .error (.fetchError .authExpired)
  else if response.statusCode = 429 then .error (.fetchError .rateLimited)
  else if contains response.contentType "text/html" && authSignalsDetected library (limited response.body) then
    .error (.fetchError .authExpired)
  else .ok ()

/-- Request, `checkAuth`, decode; a connection that breaks in the body leaves a text that does not decode. -/
def readTable {ρ : Type} (library : Library) (decode : String → Except String (DataTable ρ))
    (reply : Except FetchFailure HttpResponse) : Except FetchFailure (DataTable ρ) := do
  let response ← reply
  checkAuth library response
  match decode (limited response.body) with
  | .error _ => .error (.fetchError .invalidPayload)
  | .ok table => .ok table

/-! ## Single-page readers -/

def liveDate : Json → String
  | .text text => if text = "" then "" else ((parseDateTime text).map formatDate).getD ""
  | _ => ""

/-- The spaces that a scan skips; none for a newline, which ends it with an error. -/
def scanSpaces : List Char → Option (List Char)
  | [] => some []
  | c :: rest => if c = '\n' then none else if isSpace c then scanSpaces rest else some (c :: rest)

/-- The integer at the start of `text`, within the range of an `int`. -/
def scanInt (negative : Bool) (text : List Char) : Option Int := do
  let number := text.takeWhile Char.isDigit
  if number = [] then none
  let (magnitude, _) ← digits number.length number
  let value : Int := if negative then -magnitude else magnitude
  if -9223372036854775808 ≤ value ∧ value ≤ 9223372036854775807 then some value else none

/-- `fmt.Sscanf(text, "%d", &n)` on `n = 0`: an error leaves `n` alone, and what follows the number is not looked at. -/
def sscanfD (text : String) : Int :=
  let scanned := (scanSpaces text.toList).bind fun rest =>
    match rest with
    | '-' :: rest => scanInt true rest
    | '+' :: rest => scanInt false rest
    | rest => scanInt false rest
  scanned.getD 0

def liveEnrolled : Json → Int
  | .number value => if 0 ≤ value then ⌊value⌋ else ⌈value⌉
  | .text text => if text = "" then 0 else sscanfD text
  | _ => 0

section
variable (live : LiveLibrary)

def liveCourse (now : Time) (row : ClassAttendanceRow) : CourseSummary where
  courseID := live.formatValue row.id
  name := row.courseName
  startDate := liveDate row.startDate
  endDate := liveDate row.endDate
  enrolledCount := liveEnrolled row.enrolled
  status := (getCourseStatus (liveDate row.startDate) (liveDate row.endDate) now).getD .active

/-- `fetchCourses`; `now i` is the `time.Now()` that row `i` is read at. -/
def fetchCourses (now : Nat → Time) (reply : Except FetchFailure HttpResponse) :
    Except FetchFailure (List CourseSummary) := do
  let table ← readTable live.toLibrary live.decodeCatalog reply
  .ok (table.data.mapIdx fun i row => liveCourse live (now i) row)

def liveSession (i : Nat) (row : ClassAttendanceDetailRow) : SessionSummary where
  sessionID := live.formatValue row.dID
  sessionNumber := i + 1
  name := row.dName
  status := sessionStatusFromWarwick live.toLibrary row.dStatus

def fetchCourseDetail (courseID : String) (reply : Except FetchFailure HttpResponse) :
    Except FetchFailure CourseDetail := do
  let table ← readTable live.toLibrary live.decodeDetail reply
  let sessions := table.data.mapIdx (liveSession live)
  .ok
    { courseID := courseID, name := "", totalSessions := sessions.length,
      completedSessions := sessions.countP fun session => session.status = .done, status := .other "",
      sessions := sessions }

def fetchSessionDetail (sessionID : String) (reply : Except FetchFailure HttpResponse) :
    Except FetchFailure SessionDetail := do
  let table ← readTable live.toLibrary live.decodeCheckIn reply
  let students := table.data.map fun row => studentCheckin row.studentID row
  .ok
    { sessionID := sessionID, totalStudents := students.length,
      checkedInCount := students.countP StudentCheckin.checkedIn, students := students }

end

/-! ## Student profiles -/

def livePageSize : Nat := 500
def liveMaxProfileRecords : Int := 100000

def UserGroupRow.profile (row : UserGroupRow) : StudentProfile where
  studentID := row.studentID
  studentGuid := row.studentGuid
  fullName := row.fullName
  school := row.school

/-- The loop over the later pages: one that fails, does not decode or is empty ends it; statuses are not looked at. -/
def readPages (decode : String → Except String (DataTable UserGroupRow)) :
    List (Except FetchFailure HttpResponse) → List UserGroupRow
  | [] => []
  | .error _ :: _ => []
  | .ok response :: rest =>
    match decode (limited response.body) with
    | .error _ => []
    | .ok page => if page.data.isEmpty then [] else page.data ++ readPages decode rest

/-- How many pages start after the first one and before `total`. -/
def pagesAfter (total : Int) : Nat := ((total - 1) / livePageSize).toNat

/-- `fetchStudentProfiles`; `replies i` answers the request of page `i`. -/
def fetchStudentProfiles (live : LiveLibrary) (replies : Nat → Except FetchFailure HttpResponse) :
    Except FetchFailure (List StudentProfile) := do
  let first ← readTable live.toLibrary live.decodeProfiles (replies 0)
  let total := first.recordsTotal
  if total < 0 ∨ liveMaxProfileRecords < total then .error (.fetchError .invalidPayload)
  else if first.data.isEmpty then .ok []
  else
    let more := readPages live.decodeProfiles ((List.range' 1 (pagesAfter total)).map replies)
    .ok ((first.data ++ more).map UserGroupRow.profile)

/-! ## What a reply has to be for a read to succeed -/

def HttpResponse.Success (response : HttpResponse) : Prop := 200 ≤ response.statusCode ∧ response.statusCode < 300

/-- The response is not a refusal: none of five statuses, and not the HTML of a login page. -/
def HttpResponse.NotRefused (library : Library) (response : HttpResponse) : Prop :=
  response.statusCode ∉ [302, 301, 401, 403, 429] ∧
    ¬ (contains response.contentType "text/html" = true ∧ authSignalsDetected library (limited response.body) = true)

theorem checkAuth_eq_ok (library : Library) (response : HttpResponse) :
    checkAuth library response = .ok () ↔ response.NotRefused library := by
  unfold checkAuth HttpResponse.NotRefused
  simp only [Table.ite_error_eq_ok, List.mem_cons, List.not_mem_nil, or_false, not_or, Bool.and_eq_true, and_true]
  tauto

variable {ρ : Type} {library : Library} {decode : String → Except String (DataTable ρ)}
  {reply : Except FetchFailure HttpResponse}

/-- **A read succeeds on every response that is not a refusal and decodes.** -/
theorem readTable_eq_ok {table : DataTable ρ} :
    readTable library decode reply = .ok table ↔
      ∃ response, reply = .ok response ∧ response.NotRefused library ∧ decode (limited response.body) = .ok table := by
  unfold readTable
  rw [Table.bind_eq_ok]
  refine exists_congr fun response => and_congr_right fun _ => ?_
  rw [Table.bind_eq_ok]
  constructor
  · rintro ⟨_, hauth, h⟩
    refine ⟨(checkAuth_eq_ok library response).mp hauth, ?_⟩
    split at h
    · cases h
    · rename_i table' hdecode
      cases h
      exact hdecode
  · rintro ⟨hauth, hdecode⟩
    refine ⟨(), (checkAuth_eq_ok library response).mpr hauth, ?_⟩
    rw [hdecode]

/-! ## Single-page reads -/

/-- A read that returns `rows` rows without an error got a 2xx response that reports as many. -/
def TableComplete {α : Type} (decode : String → Except String (DataTable ρ)) (reply : Except FetchFailure HttpResponse)
    (rows : α → Nat) (result : Except FetchFailure α) : Prop :=
  ∀ a, result = .ok a → ∃ response table, reply = .ok response ∧ response.Success ∧
    decode (limited response.body) = .ok table ∧ (rows a : Int) = table.recordsFiltered

/-- Every response that is not a refusal and decodes has a 2xx status and as many rows as it reports. -/
def WellReported (library : Library) (decode : String → Except String (DataTable ρ))
    (reply : Except FetchFailure HttpResponse) : Prop :=
  ∀ response table, reply = .ok response → response.NotRefused library → decode (limited response.body) = .ok table →
    response.Success ∧ (table.data.length : Int) = table.recordsFiltered

theorem tableComplete_iff {α : Type} {f : DataTable ρ → α} {rows : α → Nat} (hrows : ∀ table, rows (f table) = table.data.length) :
    TableComplete decode reply rows (readTable library decode reply >>= fun table => .ok (f table)) ↔
      WellReported library decode reply := by
  constructor
  · intro h response table hreply hnot hdecode
    have hread := readTable_eq_ok.mpr ⟨response, hreply, hnot, hdecode⟩
    obtain ⟨response', table', hreply', hsuccess, hdecode', hcount⟩ := h (f table) (Table.bind_eq_ok.mpr ⟨table, hread, rfl⟩)
    rw [hreply] at hreply'
    cases hreply'
    rw [hdecode] at hdecode'
    cases hdecode'
    rw [hrows] at hcount
    exact ⟨hsuccess, hcount⟩
  · intro h a ha
    obtain ⟨table, hread, hf⟩ := Table.bind_eq_ok.mp ha
    cases hf
    obtain ⟨response, hreply, hnot, hdecode⟩ := readTable_eq_ok.mp hread
    obtain ⟨hsuccess, hcount⟩ := h response table hreply hnot hdecode
    refine ⟨response, table, hreply, hsuccess, hdecode, ?_⟩
    rw [hrows]
    exact hcount

/-! ## Pages of profiles -/

variable {decodePage : String → Except String (DataTable UserGroupRow)}

def leadingPages (decode : String → Except String (DataTable UserGroupRow)) :
    List (Except FetchFailure HttpResponse) → List (DataTable UserGroupRow)
  | [] => []
  | .error _ :: _ => []
  | .ok response :: rest =>
    match decode (limited response.body) with
    | .error _ => []
    | .ok page => if page.data.isEmpty then [] else page :: leadingPages decode rest

/-- The responses that the loop has taken: those of the leading pages, and the one that ends the loop. -/
def consumedPages (decode : String → Except String (DataTable UserGroupRow)) :
    List (Except FetchFailure HttpResponse) → List HttpResponse
  | [] => []
  | .error _ :: _ => []
  | .ok response :: rest =>
    match decode (limited response.body) with
    | .error _ => [response]
    | .ok page => if page.data.isEmpty then [response] else response :: consumedPages decode rest

theorem readPages_eq (replies : List (Except FetchFailure HttpResponse)) :
    readPages decodePage replies = (leadingPages decodePage replies).flatMap DataTable.data := by
  induction replies with
  | nil => rfl
  | cons reply rest ih =>
    cases reply with
    | error failure => rfl
    | ok response =>
      unfold readPages leadingPages
      cases decodePage (limited response.body) with
      | error message => rfl
      | ok page =>
        dsimp only
        by_cases hempty : page.data.isEmpty = true
        · rw [if_pos hempty, if_pos hempty]
          rfl
        · rw [if_neg hempty, if_neg hempty, List.flatMap_cons, ih]

def laterReplies (replies : Nat → Except FetchFailure HttpResponse) (first : DataTable UserGroupRow) :
    List (Except FetchFailure HttpResponse) :=
  if first.data.isEmpty then [] else (List.range' 1 (pagesAfter first.recordsTotal)).map replies

/-- A list of profiles without an error comes from 2xx responses only and is as long as the reported total. -/
def ProfilesComplete (decode : String → Except String (DataTable UserGroupRow))
    (replies : Nat → Except FetchFailure HttpResponse) (result : Except FetchFailure (List StudentProfile)) : Prop :=
  ∀ profiles, result = .ok profiles → ∃ response first, replies 0 = .ok response ∧
    decode (limited response.body) = .ok first ∧
      (∀ r ∈ response :: consumedPages decode (laterReplies replies first), r.Success) ∧
        (profiles.length : Int) = first.recordsTotal

/-- If the first page is accepted, all responses have a 2xx status, and the pages before a gap have the rows it reports. -/
def PagesWellReported (library : Library) (decode : String → Except String (DataTable UserGroupRow))
    (replies : Nat → Except FetchFailure HttpResponse) : Prop :=
  ∀ response first, replies 0 = .ok response → response.NotRefused library → decode (limited response.body) = .ok first →
    0 ≤ first.recordsTotal → first.recordsTotal ≤ liveMaxProfileRecords →
      (∀ r ∈ response :: consumedPages decode (laterReplies replies first), r.Success) ∧
        ((first.data.length + ((leadingPages decode (laterReplies replies first)).map (·.data.length)).sum : Nat) : Int) =
          first.recordsTotal

theorem fetchStudentProfiles_eq_ok {live : LiveLibrary} {replies : Nat → Except FetchFailure HttpResponse}
    {profiles : List StudentProfile} :
    fetchStudentProfiles live replies = .ok profiles ↔
      ∃ response first, replies 0 = .ok response ∧ response.NotRefused live.toLibrary ∧
        live.decodeProfiles (limited response.body) = .ok first ∧ 0 ≤ first.recordsTotal ∧
          first.recordsTotal ≤ liveMaxProfileRecords ∧
            profiles = (first.data ++ (leadingPages live.decodeProfiles (laterReplies replies first)).flatMap
              DataTable.data).map UserGroupRow.profile := by
  have hpages : ∀ first : DataTable UserGroupRow,
      (if first.data.isEmpty then (.ok [] : Except FetchFailure (List StudentProfile))
        else .ok ((first.data ++ readPages live.decodeProfiles
          ((List.range' 1 (pagesAfter first.recordsTotal)).map replies)).map UserGroupRow.profile)) =
      .ok ((first.data ++ (leadingPages live.decodeProfiles (laterReplies replies first)).flatMap
        DataTable.data).map UserGroupRow.profile) := by
    intro first
    unfold laterReplies
    by_cases hempty : first.data.isEmpty = true
    · rw [if_pos hempty, if_pos hempty, List.isEmpty_iff.mp hempty]
      rfl
    · rw [if_neg hempty, if_neg hempty, readPages_eq]
  unfold fetchStudentProfiles
  rw [Table.bind_eq_ok]
  simp only [hpages, Table.ite_error_eq_ok, readTable_eq_ok, not_or, not_lt, Except.ok.injEq]
  constructor
  · rintro ⟨first, ⟨response, hreply, hnot, hdecode⟩, ⟨hlow, hhigh⟩, rfl⟩
    exact ⟨response, first, hreply, hnot, hdecode, hlow, hhigh, rfl⟩
  · rintro ⟨response, first, hreply, hnot, hdecode, hlow, hhigh, rfl⟩
    exact ⟨first, ⟨response, hreply, hnot, hdecode⟩, ⟨hlow, hhigh⟩, rfl⟩

theorem profilesComplete_iff (live : LiveLibrary) (replies : Nat → Except FetchFailure HttpResponse) :
    ProfilesComplete live.decodeProfiles replies (fetchStudentProfiles live replies) ↔
      PagesWellReported live.toLibrary live.decodeProfiles replies := by
  constructor
  · intro h response first hreply hnot hdecode hlow hhigh
    obtain ⟨response', first', hreply', hdecode', hsuccess, hlength⟩ := h _
      (fetchStudentProfiles_eq_ok.mpr ⟨response, first, hreply, hnot, hdecode, hlow, hhigh, rfl⟩)
    rw [hreply] at hreply'
    cases hreply'
    rw [hdecode] at hdecode'
    cases hdecode'
    rw [List.length_map, List.length_append, List.length_flatMap] at hlength
    exact ⟨hsuccess, hlength⟩
  · intro h profiles hprofiles
    obtain ⟨response, first, hreply, hnot, hdecode, hlow, hhigh, rfl⟩ := fetchStudentProfiles_eq_ok.mp hprofiles
    obtain ⟨hsuccess, hlength⟩ := h response first hreply hnot hdecode hlow hhigh
    refine ⟨response, first, hreply, hdecode, hsuccess, ?_⟩
    rw [List.length_map, List.length_append, List.length_flatMap]
    exact hlength

/-! ## All four readers -/

/-- **The live readers return complete collections exactly for well reported replies**: none compares a status with 2xx
or a row count with the reported one. -/
theorem live_reads_complete_iff (live : LiveLibrary) (now : Nat → Time) (courseID sessionID : String)
    (reply : Except FetchFailure HttpResponse) (replies : Nat → Except FetchFailure HttpResponse) :
    (TableComplete live.decodeCatalog reply List.length (fetchCourses live now reply) ↔
      WellReported live.toLibrary live.decodeCatalog reply) ∧
    (TableComplete live.decodeDetail reply (fun detail => detail.sessions.length) (fetchCourseDetail live courseID reply) ↔
      WellReported live.toLibrary live.decodeDetail reply) ∧
    (TableComplete live.decodeCheckIn reply (fun detail => detail.students.length) (fetchSessionDetail live sessionID reply) ↔
      WellReported live.toLibrary live.decodeCheckIn reply) ∧
    (ProfilesComplete live.decodeProfiles replies (fetchStudentProfiles live replies) ↔
      PagesWellReported live.toLibrary live.decodeProfiles replies) := by
  refine ⟨tableComplete_iff fun table => ?_, tableComplete_iff fun table => ?_, tableComplete_iff fun table => ?_,
    profilesComplete_iff live replies⟩
  · exact List.length_mapIdx
  · exact List.length_mapIdx
  · exact List.length_map _

def emptyObject : String := "\x7b\x7d"

/-- A library that decodes the empty object, and the first page of 501 profiles from `page`. -/
def sampleLive (page : String) (first : DataTable UserGroupRow) : LiveLibrary where
  toLibrary := oneCourseLibrary []
  decodeCatalog := fun body => if body = emptyObject then .ok ⟨0, 0, []⟩ else .error "unexpected EOF"
  decodeDetail := fun body => if body = emptyObject then .ok ⟨0, 0, []⟩ else .error "unexpected EOF"
  decodeCheckIn := fun body => if body = emptyObject then .ok ⟨0, 0, []⟩ else .error "unexpected EOF"
  decodeProfiles := fun body => if body = page then .ok first else .error "unexpected EOF"
  formatValue := fun _ => ""

def serverError : HttpResponse := { statusCode := 500, contentType := "application/json", body := emptyObject }

def firstOf501 : DataTable UserGroupRow where
  recordsTotal := 501
  recordsFiltered := 501
  data := [{ studentID := "S1", studentGuid := "G1", fullName := "Ann" }]

def firstPage : HttpResponse := { statusCode := 200, contentType := "application/json", body := "page" }

/-- A server error gives an empty roster without an error, and a lost page a part of the profiles. -/
theorem incomplete_reads_accepted :
    (¬ ∀ (live : LiveLibrary) (sessionID : String) (reply : Except FetchFailure HttpResponse),
      TableComplete live.decodeCheckIn reply (fun detail => detail.students.length)
        (fetchSessionDetail live sessionID reply)) ∧
    ¬ ∀ (live : LiveLibrary) (replies : Nat → Except FetchFailure HttpResponse),
      ProfilesComplete live.decodeProfiles replies (fetchStudentProfiles live replies) := by
  constructor
  · intro h
    have hresult : (fetchSessionDetail (sampleLive "" firstOf501) "S1" (.ok serverError)).isOk = true := by
      decide +kernel
    obtain ⟨detail, hdetail⟩ := Table.isOk_iff.mp hresult
    obtain ⟨response, table, hreply, hsuccess, -⟩ := h _ _ _ detail hdetail
    cases hreply
    exact absurd hsuccess.2 (by decide)
  · intro h
    have hnot : firstPage.NotRefused (oneCourseLibrary []) :=
      ⟨by decide, fun hhtml => absurd hhtml.1 (by decide +kernel)⟩
    have hlimited : limited firstPage.body = "page" := by decide +kernel
    have hdecode : (sampleLive "page" firstOf501).decodeProfiles (limited firstPage.body) = .ok firstOf501 := by
      rw [hlimited]
      rfl
    have hpages := (profilesComplete_iff _ _).mp (h (sampleLive "page" firstOf501)
      fun i => if i = 0 then .ok firstPage else .error (.fetchError .network))
    obtain ⟨-, hlength⟩ := hpages firstPage firstOf501 rfl hnot hdecode (by decide) (by decide)
    revert hlength
    decide +kernel

end QrCommandCenter.Warwick
