import Mathlib.Data.List.Dedup
import QrCommandCenter.Lib.Table
import QrCommandCenter.Domain.Date
import QrCommandCenter.Scraper.Canonical

/-!
# Payload validation and change safety

`internal/scraper/validation.go`: what a fetched value must satisfy, and which changes need a second fetch.

* `validateRecords` : the loop over a collection that all validators share;
* `validatePayload`, `validatePayload_ok` : an accepted value has distinct identifiers and is counted by them;
* `classifyChangeAgainst`, `classify_suspicious_iff` : when a change is suspicious.
-/

namespace QrCommandCenter.Scraper
open Domain

variable {kind : SnapshotKind}

variable {α : Type} {identifier : α → String} {records : List α} {raw : Value} {document : Document}

structure ValidationWarning where
  code : String
  message : String
deriving DecidableEq, Repr

structure ValidatedPayload where
  kind : SnapshotKind
  raw : Document
  recordCount : Int
  distinctIDs : Int
  validationVersion : Int
  warnings : List ValidationWarning
deriving DecidableEq, Repr

def validationVersion : Int := 1

/-! ## The validators -/

/-- The loop over a collection: no blank and no repeated identifier, and the record's own `check`. -/
def validateRecords {α : Type} (identifier : α → String) (kind : SnapshotKind) (record field : String)
    (check : α → Except String (List ValidationWarning)) :
    List String → List α → Except String (List ValidationWarning)
  | _, [] => .ok []
  | seen, entry :: rest =>
    if isBlank (identifier entry) then .error s!"{kind.text}: {record} has empty {field}"
    else if seen.contains (identifier entry) then
      .error (s!"{kind.text}: duplicate {field} " ++ quote (identifier entry))
    else do
      let warnings ← check entry
      let more ← validateRecords identifier kind record field check (identifier entry :: seen) rest
      .ok (warnings ++ more)

def warnBlank (text code message : String) : List ValidationWarning :=
  if isBlank text then [{ code := code, message := message }] else []

def checkCourse (course : CourseSummary) : Except String (List ValidationWarning) :=
  .ok (warnBlank course.name "missing_name" s!"course {course.courseID} has empty Name" ++
    warnBlank course.status.text "missing_status" s!"course {course.courseID} has empty Status")

/-- `GetSessionStatus` accepts the text. -/
def knownSessionStatus (status : String) : Bool := status ∈ ["active", "done", "not_started", "auth_error"]

def checkSession (session : SessionSummary) : Except String (List ValidationWarning) :=
  if trimSpace session.status.text ≠ "" && !knownSessionStatus (trimSpace session.status.text) then
    .error (s!"course_detail: session {session.sessionID} has invalid SessionStatus " ++ quote session.status.text)
  else if session.date ≠ "" && (parseDate session.date).isNone then
    .error (s!"course_detail: session {session.sessionID} has invalid date " ++ quote session.date)
  else .ok []

def checkProfile (profile : StudentProfile) : Except String (List ValidationWarning) :=
  .ok (warnBlank profile.studentGuid "missing_student_guid" s!"student {profile.studentID} has empty StudentGuid" ++
    warnBlank profile.fullName "missing_full_name" s!"student {profile.studentID} has empty FullName")

/-- The payload that passed, with one record per identifier. -/
def validated (kind : SnapshotKind) (document : Document) (warnings : List ValidationWarning) : ValidatedPayload where
  kind := kind
  raw := document
  recordCount := (identifiers document).length
  distinctIDs := (identifiers document).length
  validationVersion := validationVersion
  warnings := warnings

def validateCourseCatalog (courses : List CourseSummary) : Except String ValidatedPayload := do
  let warnings ← validateRecords CourseSummary.courseID .courseCatalog "course" "CourseID" checkCourse [] courses
  .ok (validated .courseCatalog (.catalog courses) warnings)

def validateCourseDetail (detail : CourseDetail) (resourceKey : String) : Except String ValidatedPayload :=
  if resourceKey ≠ "" && detail.courseID ≠ resourceKey then
    .error ("course_detail: CourseID " ++ quote detail.courseID ++ " does not match requested resource key " ++
      quote resourceKey)
  else do
    let warnings ← validateRecords SessionSummary.sessionID .courseDetail "session" "SessionID" checkSession []
      detail.sessions
    .ok (validated .courseDetail (.course detail) warnings)

def validateSessionDetail (detail : SessionDetail) (resourceKey : String) : Except String ValidatedPayload :=
  if resourceKey ≠ "" && detail.sessionID ≠ resourceKey then
    .error ("session_detail: SessionID " ++ quote detail.sessionID ++ " does not match requested resource key " ++
      quote resourceKey)
  else do
    let warnings ← validateRecords StudentCheckin.studentID .sessionDetail "student" "StudentID" (fun _ => .ok [])
      [] detail.students
    let checkedIn := detail.students.countP StudentCheckin.checkedIn
    if (checkedIn : Int) ≠ detail.checkedInCount then
      .error s!"session_detail: CheckedInCount {detail.checkedInCount} does not match {checkedIn} checked-in students"
    else .ok (validated .sessionDetail (.session detail) warnings)

def validateStudentProfiles (profiles : List StudentProfile) : Except String ValidatedPayload := do
  let warnings ← validateRecords StudentProfile.studentID .studentProfiles "profile" "StudentID" checkProfile []
    profiles
  .ok (validated .studentProfiles (.profiles profiles) warnings)

def validatePayload (kind : SnapshotKind) (raw : Value) (resourceKey : String) : Except String ValidatedPayload :=
  if raw = .nil then .error "nil payload"
  else match raw.document? kind with
  | some (.catalog courses) => validateCourseCatalog courses
  | some (.course detail) => validateCourseDetail detail resourceKey
  | some (.session detail) => validateSessionDetail detail resourceKey
  | some (.profiles profiles) => validateStudentProfiles profiles
  | _ =>
    if !kind.valid then .error ("unsupported snapshot kind " ++ quote kind.text)
    else if raw.typedNil kind then .error s!"{kind.text}: nil pointer"
    else .error s!"{kind.text}: expected {expectedType kind}, got {raw.typeName}"

/-! ## What an accepted value satisfies -/

variable {check : α → Except String (List ValidationWarning)} {warnings : List ValidationWarning}

theorem validateRecords_ok {record field : String} {seen : List String}
    (h : validateRecords identifier kind record field check seen records = .ok warnings) :
    (records.map identifier).Nodup ∧ ∀ id ∈ records.map identifier, isBlank id = false ∧ id ∉ seen := by
  induction records generalizing seen warnings with
  | nil => simp
  | cons entry rest ih =>
    unfold validateRecords at h
    split at h
    · cases h
    split at h
    · cases h
    rename_i hblank hseen
    obtain ⟨w, -, h⟩ := Table.bind_eq_ok.mp h
    obtain ⟨more, hmore, -⟩ := Table.bind_eq_ok.mp h
    obtain ⟨hnodup, hrest⟩ := ih hmore
    rw [List.map_cons]
    refine ⟨List.nodup_cons.mpr ⟨fun hmem => ?_, hnodup⟩, fun id hid => ?_⟩
    · exact (hrest _ hmem).2 List.mem_cons_self
    · rcases List.mem_cons.mp hid with rfl | hid
      · exact ⟨by simpa using hblank, by simpa using hseen⟩
      · exact ⟨(hrest id hid).1, fun hmem => (hrest id hid).2 (List.mem_cons_of_mem _ hmem)⟩

/-- What `validatePayload` accepts: the type of the kind, distinct identifiers, none of them blank, and their count. -/
structure Accepted (kind : SnapshotKind) (raw : Value) (document : Document) (payload : ValidatedPayload) : Prop where
  typed : raw.document? kind = some document
  nodup : (identifiers document).Nodup
  named : ∀ id ∈ identifiers document, isBlank id = false
  counted : ∃ warnings, payload = validated kind document warnings

theorem accepted_of_records {kind' : SnapshotKind} {record field : String} (hraw : raw.document? kind = some document)
    (hrecords : validateRecords identifier kind' record field check [] records = .ok warnings)
    (hids : identifiers document = records.map identifier) :
    Accepted kind raw document (validated kind document warnings) := by
  obtain ⟨hnodup, hnamed⟩ := validateRecords_ok hrecords
  refine ⟨hraw, ?_, fun id hid => ?_, warnings, rfl⟩
  · rw [hids]
    exact hnodup
  · rw [hids] at hid
    exact (hnamed id hid).1

theorem validatePayload_ok {resourceKey : String} {payload : ValidatedPayload}
    (h : validatePayload kind raw resourceKey = .ok payload) : ∃ document, Accepted kind raw document payload := by
  unfold validatePayload at h
  split at h
  · cases h
  split at h
  · rename_i courses hraw
    obtain ⟨warnings, hrecords, h⟩ := Table.bind_eq_ok.mp h
    cases h
    cases kindOf_document? hraw
    exact ⟨_, accepted_of_records hraw hrecords rfl⟩
  · rename_i detail hraw
    unfold validateCourseDetail at h
    split at h
    · cases h
    obtain ⟨warnings, hrecords, h⟩ := Table.bind_eq_ok.mp h
    cases h
    cases kindOf_document? hraw
    exact ⟨_, accepted_of_records hraw hrecords rfl⟩
  · rename_i detail hraw
    unfold validateSessionDetail at h
    split at h
    · cases h
    obtain ⟨warnings, hrecords, h⟩ := Table.bind_eq_ok.mp h
    simp only at h
    split at h
    · cases h
    cases h
    cases kindOf_document? hraw
    exact ⟨_, accepted_of_records hraw hrecords rfl⟩
  · rename_i profiles hraw
    obtain ⟨warnings, hrecords, h⟩ := Table.bind_eq_ok.mp h
    cases h
    cases kindOf_document? hraw
    exact ⟨_, accepted_of_records hraw hrecords rfl⟩
  · split at h
    · cases h
    split at h <;> cases h

/-! ## Change safety -/

structure ChangeSafetyPolicy where
  minimumPreviousCount : Int
  maximumDropRatio : ℚ
  maxMissingIDRatio : ℚ
deriving DecidableEq, Repr

/-- `DefaultChangeSafetyPolicy`; the number of confirmation attempts is read nowhere. -/
def defaultChangeSafetyPolicy : ChangeSafetyPolicy where
  minimumPreviousCount := 2
  maximumDropRatio := 1 / 5
  maxMissingIDRatio := 1 / 10

inductive ChangeStatus where
  | changed
  | suspicious
deriving DecidableEq, Repr

structure ClassifiedChange where
  status : ChangeStatus
  previousCount : Int
  newCount : Int
  dropRatio : ℚ
  warnings : List ValidationWarning
deriving DecidableEq, Repr

/-- The set of stable identifiers in a document, as `validatedIDs` and `snapshotIDs` collect it. -/
def identifierSet (document : Document) : List String := ((identifiers document).filter fun id => id ≠ "").dedup

def validatedIDs (payload : ValidatedPayload) : Option (List String) :=
  if kindOf payload.raw = some payload.kind then some (identifierSet payload.raw) else none

def missingRatio (previousIDs currentIDs : List String) : ℚ :=
  (previousIDs.countP fun id => !currentIDs.contains id : ℚ) / previousIDs.length

def dropRatio (previousCount newCount : Int) : ℚ := (previousCount - newCount) / previousCount

/-- `ClassifyChangeAgainst`; `previousIDs` is `none` when the previous payload could not be read. -/
def classifyChangeAgainst (policy : ChangeSafetyPolicy) (payload : ValidatedPayload) (previousCount : Int)
    (previousIDs : Option (List String)) : ClassifiedChange :=
  let result : ClassifiedChange := {
    status := .changed
    previousCount := previousCount
    newCount := payload.recordCount
    dropRatio := 0
    warnings := payload.warnings }
  if previousCount ≤ 0 then result
  else
    let result := { result with dropRatio := dropRatio previousCount payload.recordCount }
    if payload.recordCount = 0 then { result with status := .suspicious }
    else if policy.minimumPreviousCount ≤ previousCount ∧ policy.maximumDropRatio < result.dropRatio then
      { result with status := .suspicious }
    else match previousIDs with
    | none => result
    | some ids =>
      if policy.minimumPreviousCount ≤ previousCount ∧ 0 < ids.length then
        match validatedIDs payload with
        | none => result
        | some currentIDs =>
          if policy.maxMissingIDRatio < missingRatio ids currentIDs then { result with status := .suspicious }
          else result
      else result

theorem missingRatio_nil (currentIDs : List String) : missingRatio [] currentIDs = 0 := by simp [missingRatio]

/-- **When a change is suspicious**: it empties the collection, drops too many records or too many identifiers. -/
theorem classify_suspicious_iff {policy : ChangeSafetyPolicy} (hpolicy : 0 ≤ policy.maxMissingIDRatio)
    (warnings : List ValidationWarning) (hkind : kindOf document = some kind)
    (previousCount : Int) (ids : List String) :
    (classifyChangeAgainst policy (validated kind document warnings) previousCount (some ids)).status = .suspicious ↔
      0 < previousCount ∧ (identifiers document = [] ∨ policy.minimumPreviousCount ≤ previousCount ∧
        (policy.maximumDropRatio < dropRatio previousCount (identifiers document).length ∨
          policy.maxMissingIDRatio < missingRatio ids (identifierSet document))) := by
  have hcurrent : validatedIDs (validated kind document warnings) = some (identifierSet document) := if_pos hkind
  have hcount : (validated kind document warnings).recordCount = (identifiers document).length := rfl
  have hempty : ((identifiers document).length : Int) = 0 ↔ identifiers document = [] := by
    rw [Int.natCast_eq_zero, List.length_eq_zero_iff]
  unfold classifyChangeAgainst
  simp only [hcurrent, hcount]
  by_cases hprevious : previousCount ≤ 0
  · rw [if_pos hprevious]
    have hnot : ¬ 0 < previousCount := not_lt.mpr hprevious
    simp [hnot]
  rw [if_neg hprevious]
  have hpositive : 0 < previousCount := not_le.mp hprevious
  by_cases hzero : ((identifiers document).length : Int) = 0
  · rw [if_pos hzero]
    simp [hpositive, hempty.mp hzero]
  rw [if_neg hzero]
  have hnonempty : identifiers document ≠ [] := fun e => hzero (hempty.mpr e)
  by_cases hminimum : policy.minimumPreviousCount ≤ previousCount
  · by_cases hdrop : policy.maximumDropRatio < dropRatio previousCount (identifiers document).length
    · simp [hminimum, hdrop, hpositive]
    · by_cases hids : 0 < ids.length
      · by_cases hmissing : policy.maxMissingIDRatio < missingRatio ids (identifierSet document)
        · simp [hminimum, hdrop, hids, hmissing, hpositive]
        · simp [hminimum, hdrop, hids, hmissing, hnonempty]
      · -- no identifier is known, so none is missing
        have hnil : ids = [] := List.length_eq_zero_iff.mp (by omega)
        have hnone : ¬ policy.maxMissingIDRatio < missingRatio ids (identifierSet document) := by
          rw [hnil, missingRatio_nil]
          exact not_lt.mpr hpolicy
        simp [hminimum, hdrop, hids, hnone, hnonempty]
  · simp [hminimum, hnonempty]

end QrCommandCenter.Scraper
