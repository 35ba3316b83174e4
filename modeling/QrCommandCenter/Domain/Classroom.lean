import Mathlib.Data.Rat.Defs
import Mathlib.Data.List.DropRight
import Mathlib.Data.List.TakeWhile

/-!
# Classroom data

The records of `internal/domain/classroom.go` and `dashboard.go` that the scraper publishes, and the Go text and time
conventions they share. A `float64` field is the rational it stands for; a pointer field is an `Option`.
-/

namespace QrCommandCenter.Domain

/-! ## Time and text -/

/-- `time.Time`: nanoseconds since Go's zero time. -/
abbrev Time := Int

/-- `time.Duration` in nanoseconds. -/
abbrev Duration := Int

/-- `Time.IsZero`. -/
def isZeroTime (t : Time) : Bool := t = 0

def second : Duration := 1000000000
def minute : Duration := 60 * second
def hour : Duration := 60 * minute

/-- `unicode.IsSpace`. -/
def isSpace (c : Char) : Bool :=
  c.val ∈ [0x09, 0x0A, 0x0B, 0x0C, 0x0D, 0x20, 0x85, 0xA0, 0x1680, 0x2028, 0x2029, 0x202F, 0x205F, 0x3000] ||
    (0x2000 ≤ c.val && c.val ≤ 0x200A)

/-- `strings.TrimSpace`. -/
def trimSpace (s : String) : String :=
  String.ofList ((s.toList.dropWhile isSpace).rdropWhile isSpace)

/-- `strings.TrimSpace(s) == ""`. -/
def isBlank (s : String) : Bool := s.toList.all isSpace

theorem isBlank_iff_trimSpace (s : String) : isBlank s = true ↔ trimSpace s = "" := by
  have hempty : ∀ l : List Char, String.ofList l = "" ↔ l = [] := fun l => by
    rw [← String.ofList_nil]
    exact ⟨fun h => String.ofList_injective h, fun h => by rw [h]⟩
  unfold isBlank trimSpace
  rw [hempty, List.rdropWhile_eq_nil_iff, List.all_eq_true]
  constructor
  · intro h c hc
    rw [List.dropWhile_eq_nil_iff.mpr h] at hc
    cases hc
  · intro hdrop c hc
    -- a character left by the first trim would have to be a space, which the trim removes
    by_contra hns
    have hne : s.toList.dropWhile isSpace ≠ [] := fun e => hns (List.dropWhile_eq_nil_iff.mp e c hc)
    have hhead := List.head_dropWhile_not isSpace hne
    have := hdrop _ (List.head_mem hne)
    rw [this] at hhead
    cases hhead

/-! ## Statuses -/

/-- `CourseStatus`; `other` is a text that names no status. -/
inductive CourseStatus where
  | upcoming
  | active
  | finished
  | other (text : String)
deriving DecidableEq, Repr

/-- `SessionStatus`; `other` is a text that names no status. -/
inductive SessionStatus where
  | notStarted
  | active
  | done
  | authError
  | other (text : String)
deriving DecidableEq, Repr

def CourseStatus.text : CourseStatus → String
  | .upcoming => "upcoming"
  | .active => "active"
  | .finished => "finished"
  | .other text => text

def SessionStatus.text : SessionStatus → String
  | .notStarted => "not_started"
  | .active => "active"
  | .done => "done"
  | .authError => "auth_error"
  | .other text => text

/-! ## Published records -/

structure CourseSummary where
  courseID : String
  name : String
  startDate : String := ""
  endDate : String := ""
  enrolledCount : Int := 0
  totalSessions : Int := 0
  completedSessions : Int := 0
  avgAttendanceRate : ℚ := 0
  status : CourseStatus
deriving DecidableEq, Repr

structure SessionSummary where
  sessionID : String
  sessionNumber : Int := 0
  name : String := ""
  date : String := ""
  checkedInCount : Int := 0
  totalStudents : Int := 0
  status : SessionStatus := .other ""
deriving DecidableEq, Repr

structure CourseDetail extends CourseSummary where
  sessions : List SessionSummary
deriving DecidableEq, Repr

structure StudentCheckin where
  studentID : String
  name : String := ""
  nickname : String := ""
  school : String := ""
  avatarURL : String := ""
  checkedIn : Bool := false
  checkedInAt : Option String := none
  participationPoints : Int := 0
deriving DecidableEq, Repr

structure SessionDetail extends SessionSummary where
  students : List StudentCheckin
  qrActive : Bool := false
  qrExpiresAt : Option String := none
deriving DecidableEq, Repr

structure StudentProfile where
  studentID : String
  studentGuid : String
  fullName : String
  school : String := ""
deriving DecidableEq, Repr

/-- A JSON payload of the store: a marshalled canonical value, or any other valid document. -/
inductive Document where
  | catalog (courses : List CourseSummary)
  | course (detail : CourseDetail)
  | session (detail : SessionDetail)
  | profiles (profiles : List StudentProfile)
  | other (text : String)
deriving DecidableEq, Repr

end QrCommandCenter.Domain
