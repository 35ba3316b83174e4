import QrCommandCenter.Service.Enrichment
import QrCommandCenter.Warwick.Report

/-!
# The absence dashboard

`GetAbsenceDashboard` of `internal/service/teacher.go`, with `dashboard_aggregator.go` and the filter of
`internal/domain/dashboard.go`. The two maps are lists of their values; they are iterated in any order, and the sorts promise
nothing about elements that compare equal.

* `studentMap`, `allSessions` : the students and the sessions of the results of all courses;
* `aggregateDashboard`, `Run` : the dashboard of such results, and the orders that the aggregator may find;
* `DashboardReads.getAbsenceDashboard` : the dashboard of a catalog, its courses and their rosters.
-/

namespace QrCommandCenter.Service
open Domain Sorting Warwick

/-! ## Records -/

structure CourseAbsence where
  (courseID courseName : String)
  (totalSessions attendedSessions : Nat)
  rate : ℚ
  absences : Int
  atRisk : Bool
  deriving DecidableEq, Repr

inductive SessionCheckinStatus
  | checkedIn
  | absent
  | present
  | notStarted
  deriving DecidableEq, Repr

structure SessionCheckin where
  sessionID : String
  sessionNumber : Int
  (sessionName sessionDate : String)
  sessionStatus : SessionStatus
  checkedIn : Bool
  status : SessionCheckinStatus
  deriving DecidableEq, Repr

structure StudentAbsence where
  (studentID name nickname school avatarURL : String)
  (attendedSessions totalSessions : Nat)
  attendanceRate : ℚ
  atRisk : Bool
  courses : List CourseAbsence
  perSession : List SessionCheckin
  deriving DecidableEq, Repr

structure StudentRisk where
  (studentID name nickname school avatarURL : String)
  attendanceRate : ℚ
  absences : Int
  totalSessions : Nat
  courseName : String
  deriving DecidableEq, Repr

structure DashboardSessionSummary where
  sessionID : String
  sessionNumber : Int
  name : String
  date : String := ""
  (courseID courseName : String)
  checkedInCount : Nat := 0
  totalStudents : Nat := 0
  status : SessionStatus
  deriving DecidableEq, Repr

structure DashboardReport where
  generatedAt : Time
  (totalStudents totalCourses : Nat)
  avgAttendanceRate : ℚ
  atRiskCount : Nat
  topAtRisk : List StudentRisk
  students : List StudentAbsence
  sessions : List DashboardSessionSummary
  deriving DecidableEq, Repr

/-- `dashboardCourseResult`; there is no report of a course whose detail could not be read. -/
structure DashboardCourseResult where
  (courseID courseName : String)
  report : Option CourseAttendanceReport
  deriving DecidableEq, Repr

/-! ## Aggregation -/

/-- `studentAgg`; `perSession` has the writes to the map of that name. -/
structure StudentAgg where
  (studentGUID name nickname school avatarURL : String)
  attended : Nat := 0
  total : Nat := 0
  courses : List CourseAbsence := []
  perSession : List SessionCell := []
  deriving DecidableEq, Repr

/-- The rows of the reports, course by course. -/
def entries (results : List DashboardCourseResult) : List (DashboardCourseResult × StudentAttendance) :=
  results.flatMap fun res => (res.report.elim [] CourseAttendanceReport.students).map fun s => (res, s)

def StudentAgg.add (agg : Option StudentAgg) (entry : DashboardCourseResult × StudentAttendance) : Option StudentAgg :=
  let res := entry.1
  let s := entry.2
  let agg := agg.getD { studentGUID := s.studentID, name := s.name, nickname := s.nickname, school := s.school,
                        avatarURL := s.avatarURL }
  some { agg with
    attended := agg.attended + s.attendedSessions
    total := agg.total + s.totalSessions
    courses := agg.courses ++ [{ courseID := res.courseID, courseName := res.courseName, totalSessions := s.totalSessions,
                                 attendedSessions := s.attendedSessions, rate := s.attendanceRate,
                                 absences := (s.totalSessions : Int) - s.attendedSessions, atRisk := s.atRisk }]
    perSession := agg.perSession ++ s.perSession }

/-- `studentMap[studentID]`. -/
def aggOf (results : List DashboardCourseResult) (studentID : String) : Option StudentAgg :=
  ((entries results).filter fun entry => entry.2.studentID = studentID).foldl StudentAgg.add none

def studentMap (results : List DashboardCourseResult) : List StudentAgg :=
  ((entries results).map fun entry => entry.2.studentID).dedup.filterMap (aggOf results)

/-- `agg.perSession[sessionID]`. -/
def StudentAgg.checked? (agg : StudentAgg) (sessionID : String) : Option Bool :=
  (agg.perSession.reverse.find? fun cell => cell.sessionID = sessionID).map SessionCell.checkedIn

/-- What a result does to `allSessions[sessionID]`. -/
def sessionStep (sessionID : String) (summary : Option DashboardSessionSummary) (res : DashboardCourseResult) :
    Option DashboardSessionSummary :=
  match res.report with
  | none => summary
  | some report =>
    let new := (report.sessions.find? fun s => s.sessionID = sessionID).map fun s =>
      { sessionID := s.sessionID, sessionNumber := s.sessionNumber, name := s.name, courseID := res.courseID,
        courseName := res.courseName, status := s.status }
    (summary.or new).map fun summary => { summary with
      checkedInCount := summary.checkedInCount + (report.students.flatMap StudentAttendance.perSession).countP fun cell =>
        cell.sessionID = sessionID && cell.checkedIn }

def allSessions (results : List DashboardCourseResult) : List DashboardSessionSummary :=
  (results.flatMap fun res => (res.report.elim [] CourseAttendanceReport.sessions).map SessionSummary.sessionID).dedup.filterMap
    fun sessionID => results.foldl (sessionStep sessionID) none

/-- The sessions before their sort, which does not look at the number of students that is set after it. -/
def sessionList (results : List DashboardCourseResult) : List DashboardSessionSummary :=
  (allSessions results).map fun s => { s with totalStudents := (studentMap results).length }

def sessionLess (a b : DashboardSessionSummary) : Bool :=
  if a.courseID ≠ b.courseID then a.courseID < b.courseID else a.sessionNumber < b.sessionNumber

def computeSessionStatus : SessionStatus → Option Bool → SessionCheckinStatus
  | .done, some true | .active, some true => .checkedIn
  | .done, some false => .absent
  | .active, some false => .present
  | _, _ => .notStarted

def computeAtRisk (totalSessions : Nat) (absences threshold : Int) : Bool :=
  if 0 < threshold then threshold ≤ absences else ((totalSessions : Int) + 4) / 5 ≤ absences

/-- The row of a student in `buildStudentAbsences`. -/
def studentAbsence (sessions : List DashboardSessionSummary) (guidToStudentID : String → String) (threshold : Int)
    (agg : StudentAgg) : StudentAbsence where
  studentID := guidToStudentID agg.studentGUID
  name := agg.name
  nickname := agg.nickname
  school := agg.school
  avatarURL := agg.avatarURL
  attendedSessions := agg.attended
  totalSessions := agg.total
  attendanceRate := (agg.attended : ℚ) / agg.total
  atRisk := computeAtRisk agg.total ((agg.total : Int) - agg.attended) threshold
  courses := agg.courses
  perSession := sessions.map fun session =>
    { sessionID := session.sessionID, sessionNumber := session.sessionNumber, sessionName := session.name,
      sessionDate := session.date, sessionStatus := session.status,
      checkedIn := (agg.checked? session.sessionID).getD false,
      status := computeSessionStatus session.status (agg.checked? session.sessionID) }

/-- The key of a row in `studentSet`. -/
def StudentAgg.key (agg : StudentAgg) : String := if agg.studentGUID = "" then agg.name else agg.studentGUID

/-- The students whose key is not in `studentSet` when their turn comes. -/
def firstOfKeys : List StudentAgg → List StudentAgg
  | [] => []
  | agg :: rest => agg :: (firstOfKeys rest).filter fun other => other.key ≠ agg.key

def absenceLess (a b : StudentAbsence) : Bool :=
  riskLess (a.atRisk, a.attendanceRate, a.name) (b.atRisk, b.attendanceRate, b.name)

/-- The identifier is in `codeSet`, unless there are no codes. -/
def hasWCode (codes : List String) (studentID : String) : Bool :=
  let codeSet := (codes.map trimSpace).filter fun code => code ≠ ""
  codeSet.isEmpty || codeSet.contains studentID

def filterStudentsByWCodes (students : List StudentAbsence) (codes : List String) : List StudentAbsence :=
  students.filter fun student => hasWCode codes student.studentID

def studentRisk (student : StudentAbsence) : StudentRisk where
  studentID := student.studentID
  name := student.name
  nickname := student.nickname
  school := student.school
  avatarURL := student.avatarURL
  attendanceRate := student.attendanceRate
  absences := (student.totalSessions : Int) - student.attendedSessions
  totalSessions := student.totalSessions
  courseName := student.courses.head?.elim "" CourseAbsence.courseName

def extractTopAtRisk (students : List StudentAbsence) (limit : Nat) : List StudentRisk :=
  ((students.takeWhile StudentAbsence.atRisk).take limit).map studentRisk

/-- `aggregateDashboard`, when its sorts leave the students and the sessions as `students` and `sessions`. -/
def aggregateDashboard (now : Time) (results : List DashboardCourseResult) (totalCourses : Nat) (wCodes : List String)
    (students : List StudentAbsence) (sessions : List DashboardSessionSummary) : DashboardReport :=
  let listed := filterStudentsByWCodes students wCodes
  { generatedAt := now
    totalStudents := (studentMap results).length
    totalCourses := totalCourses
    avgAttendanceRate := ((listed.map StudentAbsence.attendedSessions).sum : ℚ) / (listed.map StudentAbsence.totalSessions).sum
    atRiskCount := listed.countP StudentAbsence.atRisk
    topAtRisk := extractTopAtRisk listed 5
    students := listed
    sessions := sessions }

/-- A run of the aggregator: the order in which it meets the students, and what its sorts leave. -/
structure Run (results : List DashboardCourseResult) (threshold : Int) (guidToStudentID : String → String) where
  order : List StudentAgg
  sessions : List DashboardSessionSummary
  students : List StudentAbsence
  iterates : order.Perm (studentMap results)
  sorts : SortedFrom sessionLess (sessionList results) sessions
  ranks : SortedFrom absenceLess ((firstOfKeys order).map (studentAbsence sessions guidToStudentID threshold)) students

/-! ## The dashboard of a catalog -/

structure DateRange where
  (from_ to_ : String)
  deriving DecidableEq, Repr

inductive DashboardSortBy
  | risk
  | rateAsc
  | rateDesc
  | name
  deriving DecidableEq, Repr

structure DashboardFilters where
  courseIds : List String := []
  dateRange : Option DateRange := none
  threshold : Int := 0
  sortBy : DashboardSortBy := .risk
  wCodes : List String := []
  deriving DecidableEq, Repr

/-- What the reads of a call answer: the details and the rosters by the place of the course in the filtered catalog. -/
structure DashboardReads where
  catalog : List CourseSummary
  detail : Nat → Except String CourseDetail
  rosters : Nat → SessionReads
  profiles : Except String (List StudentProfile)
  now : Time := 0

namespace DashboardReads

section
variable (reads : DashboardReads)

def courses (filters : DashboardFilters) : List CourseSummary :=
  if filters.courseIds.length > 0 then reads.catalog.filter fun c => filters.courseIds.contains c.courseID
  else reads.catalog

/-- The answers of the map of `buildStudentIDMapping`, which is empty when the profiles could not be read. -/
def guidToStudentID (guid : String) : String :=
  (wcodeOf (reads.profiles.toOption.getD []) guid).getD ""

section
variable (filters : DashboardFilters) (students : Nat → List StudentAttendance)

/-- The results of the courses, when the sort of each report leaves its students as `students`. -/
def results :
    List DashboardCourseResult :=
  (reads.courses filters).mapIdx fun i course =>
    { courseID := course.courseID
      courseName := course.name
      report := (reads.detail i).toOption.map fun detail =>
        computeCourseAttendanceReport detail filters.threshold reads.now (reads.rosters i) false (students i) }

def Ranks : Prop :=
  ∀ i detail, reads.detail i = .ok detail →
    SortedFrom reportLess (reportStudents detail filters.threshold (reads.rosters i)) (students i)

/-- `GetAbsenceDashboard`, for one run of the aggregator. Without courses it returns the same empty report at once. -/
def getAbsenceDashboard
    (run : Run (reads.results filters students) filters.threshold reads.guidToStudentID) : DashboardReport :=
  aggregateDashboard reads.now (reads.results filters students) (reads.courses filters).length filters.wCodes run.students
    run.sessions

end

end

end DashboardReads

end QrCommandCenter.Service
