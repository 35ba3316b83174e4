import Mathlib.Data.List.Sort
import QrCommandCenter.Domain.Snapshot

/-!
# Canonical payloads

`internal/scraper/canonical.go`: a fetched Go value becomes a sorted document, its hash and its record count.

* `Value` : what a fetch returns behind `any`, `Value.document?` : the type switch all readers of it share;
* `Codec` : the standard library functions a document goes through;
* `canonicalize` : `Canonicalize`, with `canonicalForm` for the sorting and `countRecords` for the count;
* `identifiers_canonicalForm` : sorting keeps the identifiers of a document.
-/

namespace QrCommandCenter.Scraper
open Domain

variable {kind : SnapshotKind} {document : Document}

/-! ## Fetched values -/

/-- A Go value behind `any`. -/
inductive Value where
  | nil
  | courses (courses : List CourseSummary)
  | course (detail : CourseDetail)
  | coursePointer (detail : Option CourseDetail)
  | session (detail : SessionDetail)
  | sessionPointer (detail : Option SessionDetail)
  | profiles (profiles : List StudentProfile)
  | other (typeName : String)
deriving DecidableEq, Repr

/-- `%T`. -/
def Value.typeName : Value → String
  | .nil => "<nil>"
  | .courses _ => "[]domain.CourseSummary"
  | .course _ => "domain.CourseDetail"
  | .coursePointer _ => "*domain.CourseDetail"
  | .session _ => "domain.SessionDetail"
  | .sessionPointer _ => "*domain.SessionDetail"
  | .profiles _ => "[]domain.StudentProfile"
  | .other typeName => typeName

def Value.typedNil : SnapshotKind → Value → Bool
  | .courseDetail, .coursePointer none => true
  | .sessionDetail, .sessionPointer none => true
  | _, _ => false

def Value.document? : SnapshotKind → Value → Option Document
  | .courseCatalog, .courses records => some (.catalog records)
  | .courseDetail, .course detail => some (.course detail)
  | .courseDetail, .coursePointer (some detail) => some (.course detail)
  | .sessionDetail, .session detail => some (.session detail)
  | .sessionDetail, .sessionPointer (some detail) => some (.session detail)
  | .studentProfiles, .profiles records => some (.profiles records)
  | _, _ => none

def kindOf : Document → Option SnapshotKind
  | .catalog _ => some .courseCatalog
  | .course _ => some .courseDetail
  | .session _ => some .sessionDetail
  | .profiles _ => some .studentProfiles
  | .other _ => none

variable {value : Value}

theorem kindOf_document? (h : value.document? kind = some document) : kindOf document = some kind := by
  unfold Value.document? at h
  split at h <;> cases h <;> rfl

/-- `%q` of a text without special characters. -/
def quote (text : String) : String := "\"" ++ text ++ "\""

/-! ## Sorting -/

/-- The standard library: the length of the marshalled text, its SHA-256 hash, and the text of an RFC 3339 time. -/
structure Codec where
  marshalledLength : Document → Nat
  sum256 : Document → ContentHash
  normalizeTimestampString : String → String

/-- A stable sort by `less`. -/
def sortStable {α : Type} (less : α → α → Bool) (records : List α) : List α :=
  records.insertionSort fun a b => !less b a

theorem sortStable_perm {α : Type} (less : α → α → Bool) (records : List α) : (sortStable less records).Perm records :=
  List.perm_insertionSort _ _

def courseLess (a b : CourseSummary) : Bool :=
  if a.courseID = b.courseID then a.name < b.name else a.courseID < b.courseID

def sessionLess (a b : SessionSummary) : Bool :=
  if a.sessionNumber = b.sessionNumber then a.sessionID < b.sessionID else a.sessionNumber < b.sessionNumber

def studentLess (a b : StudentCheckin) : Bool :=
  if a.studentID = b.studentID then a.name < b.name else a.studentID < b.studentID

def profileLess (a b : StudentProfile) : Bool :=
  if a.studentGuid = b.studentGuid then
    if a.studentID = b.studentID then a.fullName < b.fullName else a.studentID < b.studentID
  else a.studentGuid < b.studentGuid

/-- What `canonicalValue` makes of a value of the right type. -/
def canonicalForm (codec : Codec) : Document → Document
  | .catalog courses => .catalog (sortStable courseLess courses)
  | .course detail => .course { detail with sessions := sortStable sessionLess detail.sessions }
  | .session detail => .session { detail with
      students := sortStable studentLess (detail.students.map fun student =>
        { student with checkedInAt := student.checkedInAt.map codec.normalizeTimestampString })
      qrExpiresAt := detail.qrExpiresAt.map codec.normalizeTimestampString }
  | .profiles profiles => .profiles (sortStable profileLess profiles)
  | .other text => .other text

/-- `countRecords`. It counts the collections that are a list at the top, and no other. -/
def countRecords : Document → Int
  | .catalog courses => courses.length
  | .profiles profiles => profiles.length
  | _ => 0

/-! ## `Canonicalize` -/

def expectedType : SnapshotKind → String
  | .courseCatalog => "[]domain.CourseSummary"
  | .courseDetail => "domain.CourseDetail"
  | .sessionDetail => "domain.SessionDetail"
  | .studentProfiles => "[]domain.StudentProfile"
  | .other text => text

def canonicalValue (codec : Codec) (kind : SnapshotKind) (value : Value) : Except String Document :=
  match value.document? kind with
  | some document => .ok (canonicalForm codec document)
  | none =>
    if !kind.valid then .error ("canonicalize unknown snapshot kind " ++ quote kind.text)
    else if value.typedNil kind then .error s!"canonical {kind.text} received typed nil"
    else .error s!"canonical {kind.text} expects {expectedType kind}, got {value.typeName}"

/-- `Canonicalize`; the values of the modelled types always marshal. -/
def canonicalize (codec : Codec) (kind : SnapshotKind) (value : Value) (maxBytes : Int) :
    Except String (Document × ContentHash × Int) := do
  if maxBytes ≤ 0 then .error "canonical payload limit must be positive"
  else do
    let normalized ← canonicalValue codec kind value
    if maxBytes < codec.marshalledLength normalized then
      let length := codec.marshalledLength normalized
      .error s!"canonical {kind.text} payload exceeds limit: {length} > {maxBytes} bytes"
    else .ok (normalized, codec.sum256 normalized, countRecords normalized)

theorem canonicalize_ok {codec : Codec} {maxBytes count : Int}
    {hash : ContentHash} (h : canonicalize codec kind value maxBytes = .ok (document, hash, count)) :
    ∃ raw, value.document? kind = some raw ∧ document = canonicalForm codec raw ∧ hash = codec.sum256 document ∧
      count = countRecords document := by
  unfold canonicalize canonicalValue at h
  split at h
  · cases h
  · cases hraw : value.document? kind with
    | none =>
      simp only [hraw] at h
      split at h
      · cases h
      · split at h <;> cases h
    | some raw =>
      simp only [hraw] at h
      change (if maxBytes < codec.marshalledLength (canonicalForm codec raw) then _ else _) = _ at h
      split at h
      · cases h
      · cases h
        exact ⟨raw, rfl, rfl, rfl, rfl⟩

/-! ## What a document lists -/

def identifiers : Document → List String
  | .catalog courses => courses.map CourseSummary.courseID
  | .course detail => detail.sessions.map SessionSummary.sessionID
  | .session detail => detail.students.map StudentCheckin.studentID
  | .profiles profiles => profiles.map StudentProfile.studentID
  | .other _ => []

/-- **Sorting keeps the identifiers.** -/
theorem identifiers_canonicalForm (codec : Codec) (document : Document) :
    (identifiers (canonicalForm codec document)).Perm (identifiers document) := by
  cases document with
  | catalog courses => exact (sortStable_perm courseLess courses).map _
  | course detail => exact (sortStable_perm sessionLess detail.sessions).map _
  | session detail =>
    refine ((sortStable_perm studentLess _).map _).trans (List.Perm.of_eq ?_)
    rw [List.map_map]
    rfl
  | profiles profiles => exact (sortStable_perm profileLess profiles).map _
  | other text => exact List.Perm.refl _

end QrCommandCenter.Scraper
