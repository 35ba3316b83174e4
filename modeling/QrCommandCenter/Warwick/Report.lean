import Mathlib.Data.Rat.Defs
import Mathlib.Data.Prod.Lex
import Mathlib.Data.List.Dedup
import Mathlib.Data.String.Basic
import Mathlib.Algebra.Order.Ring.Nat
import Mathlib.Algebra.Order.Ring.Int
import Mathlib.Algebra.Order.Ring.Rat
import QrCommandCenter.Domain.Classroom
import QrCommandCenter.Lib.Sorting

/-!
# The attendance report of a course

`ComputeCourseAttendanceReport` of `internal/warwick/report_client.go`. The sessions that are read have distinct identifiers and
every worker writes the result of its own session, so that the reads, in whatever order they finish, come to one answer for each
identifier. A map is iterated in any order before an unstable sort.

* `accumulate`, `studentOf`, `cellOf` : counts and cells of a student;
* `Computes` : the reports of a course;
* `repeatsIgnored_iff` : when a repeated session changes nothing;
* `accumOf_eq` : the accumulator of a student counts its visits to done sessions.
-/

namespace QrCommandCenter.Warwick
open Domain Sorting

/-! ## The records of a report -/

inductive CellStatus
  | ok
  | error
  deriving DecidableEq, Repr

structure SessionCell where
  sessionID : String
  sessionNumber : Int
  sessionName : String
  sessionStatus : SessionStatus
  checkedIn : Bool := false
  status : CellStatus := .error
  deriving DecidableEq, Repr

structure StudentAttendance where
  studentID : String
  name : String := ""
  nickname : String := ""
  avatarURL : String := ""
  school : String := ""
  attendedSessions : Nat := 0
  totalSessions : Nat := 0
  attendanceRate : ℚ := 0
  atRisk : Bool := false
  perSession : List SessionCell := []
  deriving DecidableEq, Repr

structure ReportError where
  sessionID : String
  reason : String
  deriving DecidableEq, Repr

structure CourseAttendanceReport where
  courseID : String
  courseName : String
  sessions : List SessionSummary
  students : List StudentAttendance := []
  errors : List ReportError := []
  truncated : Bool := false
  threshold : Int
  computedAt : Time
  deriving DecidableEq, Repr

/-- The comparison of students: at risk first, then by rate, then by name. -/
def riskLess (a b : Bool × ℚ × String) : Bool :=
  if a.1 ≠ b.1 then a.1
  else if a.2.1 ≠ b.2.1 then a.2.1 < b.2.1
  else a.2.2 < b.2.2

theorem riskLess_iff (a b : Bool × ℚ × String) :
    riskLess a b = true ↔ toLex (!a.1, toLex a.2) < toLex (!b.1, toLex b.2) := by
  obtain ⟨atRisk, rate, name⟩ := a
  obtain ⟨atRisk', rate', name'⟩ := b
  rw [riskLess, Prod.Lex.toLex_lt_toLex, Prod.Lex.toLex_lt_toLex]
  cases atRisk <;> cases atRisk' <;> by_cases hrate : rate = rate' <;> simp [hrate]

theorem weakOrder_risk {α : Type} (key : α → Bool × ℚ × String) : WeakOrder fun a b => riskLess (key a) (key b) :=
  .of_key (fun a => toLex (!(key a).1, toLex (key a).2)) fun a b => riskLess_iff (key a) (key b)

def reportLess (a b : StudentAttendance) : Bool :=
  riskLess (a.atRisk, a.attendanceRate, a.name) (b.atRisk, b.attendanceRate, b.name)

/-! ## Counting -/

/-- The answer to `FetchSessionForReport` for a session identifier, after its retries. -/
abbrev SessionReads := String → Except String SessionDetail

def roster (reads : SessionReads) (sessionID : String) : List StudentCheckin :=
  match reads sessionID with
  | .ok detail => detail.students
  | .error _ => []

/-- The entries of the rosters that were read, each with whether its session is done. -/
def visits (sessions : List SessionSummary) (reads : SessionReads) : List (Bool × StudentCheckin) :=
  sessions.flatMap fun session => (roster reads session.sessionID).map fun s => (decide (session.status = .done), s)

structure StudentAccum where
  attended : Nat := 0
  total : Nat := 0
  detail : StudentCheckin
  deriving DecidableEq, Repr

/-- What an entry of a roster does to the accumulator of its student. -/
def StudentAccum.visit (acc : Option StudentAccum) (visit : Bool × StudentCheckin) : Option StudentAccum :=
  let acc := acc.getD { detail := visit.2 }
  some (if visit.1 then
      { acc with total := acc.total + 1, attended := if visit.2.checkedIn then acc.attended + 1 else acc.attended }
    else acc)

/-- `accum[studentID]` after all rosters. -/
def accumOf (visits : List (Bool × StudentCheckin)) (studentID : String) : Option StudentAccum :=
  (visits.filter fun visit => visit.2.studentID = studentID).foldl StudentAccum.visit none

def accumulate (visits : List (Bool × StudentCheckin)) : List StudentAccum :=
  (visits.map fun visit => visit.2.studentID).dedup.filterMap (accumOf visits)

/-- The cell of a student in a session; the last entry of a roster counts. -/
def cellOf (reads : SessionReads) (studentID : String) (session : SessionSummary) : SessionCell :=
  let cell : SessionCell :=
    { sessionID := session.sessionID, sessionNumber := session.sessionNumber, sessionName := session.name,
      sessionStatus := session.status }
  match (roster reads session.sessionID).reverse.find? fun s => s.studentID = studentID with
  | some s => { cell with checkedIn := s.checkedIn, status := .ok }
  | none => cell

def studentOf (sessions : List SessionSummary) (reads : SessionReads) (threshold : Int) (acc : StudentAccum) :
    StudentAttendance where
  studentID := acc.detail.studentID
  name := acc.detail.name
  nickname := acc.detail.nickname
  avatarURL := acc.detail.avatarURL
  school := acc.detail.school
  attendedSessions := acc.attended
  totalSessions := acc.total
  attendanceRate := (acc.attended : ℚ) / acc.total
  atRisk := decide (threshold ≤ (acc.total : Int) - acc.attended)
  perSession := sessions.map (cellOf reads acc.detail.studentID)

/-! ## Reports -/

/-- Sessions by first appearance of their ID. -/
def uniqueSessions : List SessionSummary → List SessionSummary
  | [] => []
  | s :: sessions => s :: (uniqueSessions sessions).filter fun other => other.sessionID ≠ s.sessionID

theorem mem_of_mem_uniqueSessions {sessions : List SessionSummary} {session : SessionSummary}
    (h : session ∈ uniqueSessions sessions) : session ∈ sessions := by
  induction sessions with
  | nil => exact h
  | cons s sessions ih =>
    rcases List.mem_cons.mp h with rfl | h
    · exact List.mem_cons_self
    · exact List.mem_cons_of_mem s (ih (List.mem_of_mem_filter h))

def reportErrors (sessions : List SessionSummary) (reads : SessionReads) : List ReportError :=
  sessions.filterMap fun session =>
    match reads session.sessionID with
    | .ok _ => none
    | .error reason => some ⟨session.sessionID, reason⟩

/-- A threshold that is not positive stands for a fifth of the sessions. -/
def reportThreshold (threshold : Int) (sessions : List SessionSummary) : Int :=
  if threshold ≤ 0 then ((sessions.length : Int) + 4) / 5 else threshold

section
variable (course : CourseDetail) (threshold : Int)

/-- The students of a report, before they are sorted. -/
def reportStudents (reads : SessionReads) : List StudentAttendance :=
  let sessions := uniqueSessions course.sessions
  ((accumulate (visits sessions reads)).filter fun acc => acc.total ≠ 0).map
    (studentOf sessions reads (reportThreshold threshold course.sessions))

section
variable (start : Time) (reads : SessionReads) (cancelled : Bool)

/-- `ComputeCourseAttendanceReport`, when its sort leaves the students as `students`. -/
def computeCourseAttendanceReport (students : List StudentAttendance) : CourseAttendanceReport :=
  if course.sessions.length = 0 then
    { courseID := course.courseID, courseName := course.name, sessions := course.sessions, threshold := threshold,
      computedAt := start }
  else
    { courseID := course.courseID, courseName := course.name, sessions := uniqueSessions course.sessions,
      students := students, errors := reportErrors (uniqueSessions course.sessions) reads, truncated := cancelled,
      threshold := reportThreshold threshold course.sessions, computedAt := start }

theorem computeCourseAttendanceReport_sessions (students : List StudentAttendance) :
    (computeCourseAttendanceReport course threshold start reads cancelled students).sessions =
      uniqueSessions course.sessions := by
  unfold computeCourseAttendanceReport
  split
  · next hempty => simp [List.length_eq_zero_iff.mp hempty, uniqueSessions]
  · rfl

def Computes (report : CourseAttendanceReport) : Prop :=
  ∃ students, SortedFrom reportLess (reportStudents course threshold reads) students ∧
    report = computeCourseAttendanceReport course threshold start reads cancelled students

end

end

section Computes
variable {course : CourseDetail} {threshold : Int} {start : Time} {reads : SessionReads} {cancelled : Bool}
  {report : CourseAttendanceReport}

/-- Without sessions there are no students to be sorted. -/
theorem Computes.students (h : Computes course threshold start reads cancelled report) :
    SortedFrom reportLess (reportStudents course threshold reads) report.students ∧
      report.sessions = uniqueSessions course.sessions := by
  obtain ⟨students, hsorted, rfl⟩ := h
  refine ⟨?_, computeCourseAttendanceReport_sessions ..⟩
  unfold computeCourseAttendanceReport
  split
  · next hempty =>
    rw [reportStudents, List.length_eq_zero_iff.mp hempty]
    exact ⟨.nil, .nil⟩
  · exact hsorted

theorem Computes.usedThreshold (h : Computes course threshold start reads cancelled report) : report.threshold =
    if course.sessions.length = 0 then threshold else reportThreshold threshold course.sessions := by
  obtain ⟨students, -, rfl⟩ := h
  unfold computeCourseAttendanceReport
  split <;> rfl

theorem exists_computes (course : CourseDetail) (threshold : Int) (start : Time) (reads : SessionReads) (cancelled : Bool) :
    ∃ report, Computes course threshold start reads cancelled report :=
  ⟨_, _, (weakOrder_risk fun s : StudentAttendance => (s.atRisk, s.attendanceRate, s.name)).merge _, rfl⟩

end Computes

/-! ## Repeated sessions -/

/-- What a report says, apart from its time and from the order of students that compare equal. -/
structure SameReport (report report' : CourseAttendanceReport) : Prop where
  threshold : report'.threshold = report.threshold
  sessions : report'.sessions = report.sessions
  students : report'.students.Perm report.students

theorem uniqueSessions_snoc (sessions : List SessionSummary) (s : SessionSummary) : uniqueSessions (sessions ++ [s]) =
    if sessions.any fun t => t.sessionID = s.sessionID then uniqueSessions sessions else uniqueSessions sessions ++ [s] := by
  induction sessions with
  | nil => rfl
  | cons t sessions ih =>
    rw [List.cons_append, uniqueSessions, ih, uniqueSessions, List.any_cons]
    by_cases hseen : (sessions.any fun t => t.sessionID = s.sessionID) = true
    · simp [hseen]
    · by_cases hid : t.sessionID = s.sessionID
      · simp [hseen, hid]
      · simp [hseen, hid, Ne.symm hid]

theorem uniqueSessions_append {sessions extra : List SessionSummary}
    (h : ∀ s ∈ extra, ∃ t ∈ sessions, t.sessionID = s.sessionID) :
    uniqueSessions (sessions ++ extra) = uniqueSessions sessions := by
  induction extra generalizing sessions with
  | nil => rw [List.append_nil]
  | cons s extra ih =>
    have hseen : (sessions.any fun t => t.sessionID = s.sessionID) = true := by simpa using h s List.mem_cons_self
    rw [List.append_cons, ih, uniqueSessions_snoc, if_pos hseen]
    intro other hother
    obtain ⟨t, ht, hid⟩ := h other (List.mem_cons_of_mem s hother)
    exact ⟨t, List.mem_append_left _ ht, hid⟩

section Repeated
variable {course : CourseDetail} {extra : List SessionSummary}

def extended (course : CourseDetail) (extra : List SessionSummary) : CourseDetail :=
  { course with sessions := course.sessions ++ extra }

/-- Repeated sessions do not change a report. -/
def RepeatsIgnored (course : CourseDetail) (extra : List SessionSummary) (threshold : Int) (start : Time)
    (reads : SessionReads) (cancelled : Bool) : Prop :=
  ∀ report report', Computes course threshold start reads cancelled report →
    Computes (extended course extra) threshold start reads cancelled report' → SameReport report report'

/-- **Repeated sessions change nothing** exactly when the threshold is given or a fifth of the sessions does not change. -/
theorem repeatsIgnored_iff (hextra : ∀ s ∈ extra, ∃ t ∈ course.sessions, t.sessionID = s.sessionID) (threshold : Int)
    (start : Time) (reads : SessionReads) (cancelled : Bool) :
    RepeatsIgnored course extra threshold start reads cancelled ↔
      0 < threshold ∨ (course.sessions.length + 4) / 5 = (course.sessions.length + extra.length + 4) / 5 := by
  have hunique : uniqueSessions (extended course extra).sessions = uniqueSessions course.sessions :=
    uniqueSessions_append hextra
  have hthreshold : reportThreshold threshold (extended course extra).sessions =
      reportThreshold threshold course.sessions ↔
      0 < threshold ∨ (course.sessions.length + 4) / 5 = (course.sessions.length + extra.length + 4) / 5 := by
    simp only [reportThreshold, extended, List.length_append]
    split <;> omega
  have hempty : (extended course extra).sessions.length = 0 ↔ course.sessions.length = 0 := by
    simp only [extended, List.length_append, Nat.add_eq_zero_iff, List.length_eq_zero_iff, and_iff_left_iff_imp]
    rintro hnone
    rw [hnone] at hextra
    exact List.eq_nil_iff_forall_not_mem.mpr fun s hs => by simpa using hextra s hs
  constructor
  · intro h
    obtain ⟨report, hreport⟩ := exists_computes course threshold start reads cancelled
    obtain ⟨report', hreport'⟩ := exists_computes (extended course extra) threshold start reads cancelled
    have hsame := (h report report' hreport hreport').threshold
    rw [hreport.usedThreshold, hreport'.usedThreshold, if_congr hempty rfl rfl] at hsame
    split at hsame
    · next hnone =>
      have hextended := hempty.mpr hnone
      simp only [extended, List.length_append] at hextended
      exact .inr (by omega)
    · exact hthreshold.mp hsame
  · intro hcondition report report' hreport hreport'
    have hequal := hthreshold.mpr hcondition
    have hstudents : reportStudents (extended course extra) threshold reads = reportStudents course threshold reads := by
      rw [reportStudents, hunique, hequal, reportStudents]
    refine ⟨?_, ?_, ?_⟩
    · rw [hreport.usedThreshold, hreport'.usedThreshold, if_congr hempty rfl rfl, hequal]
    · rw [hreport.students.2, hreport'.students.2, hunique]
    · have hperm := hreport'.students.1.perm
      rw [hstudents] at hperm
      exact hperm.trans hreport.students.1.perm.symm

end Repeated

/-- Five done sessions, and an answer for the first one: a student who is not checked in. -/
def fiveSessions : CourseDetail where
  courseID := "c"
  name := "Course"
  status := .active
  sessions := ["s1", "s2", "s3", "s4", "s5"].map fun id => { sessionID := id, status := .done }

def absentOnce : SessionReads := fun id =>
  if id = "s1" then .ok { sessionID := "s1", students := [{ studentID := "a" }] } else .error "timeout"

theorem repeatsIgnored_given_threshold :
    RepeatsIgnored fiveSessions [{ sessionID := "s1", status := .done }] 1 0 absentOnce false :=
  (repeatsIgnored_iff (by decide) 1 0 absentOnce false).mpr (.inl (by decide))

/-- **A repeated session raises the default threshold, and the student is no longer at risk.** -/
theorem repeated_session_hides_risk :
    (reportStudents fiveSessions 0 absentOnce).map StudentAttendance.atRisk = [true] ∧
      (reportStudents (extended fiveSessions [{ sessionID := "s1", status := .done }]) 0 absentOnce).map
        StudentAttendance.atRisk = [false] ∧
      ¬ RepeatsIgnored fiveSessions [{ sessionID := "s1", status := .done }] 0 0 absentOnce false := by
  refine ⟨by decide +kernel, by decide +kernel, fun h => ?_⟩
  obtain ⟨report, hreport⟩ := exists_computes fiveSessions 0 0 absentOnce false
  obtain ⟨report', hreport'⟩ :=
    exists_computes (extended fiveSessions [{ sessionID := "s1", status := .done }]) 0 0 absentOnce false
  have hsame := (h report report' hreport hreport').threshold
  rw [hreport.usedThreshold, hreport'.usedThreshold] at hsame
  exact absurd hsame (by decide)

/-! ## What the counts are -/

section
variable (visits : List (Bool × StudentCheckin))

theorem foldl_visit (acc : StudentAccum) :
    visits.foldl StudentAccum.visit (some acc) = some
      { acc with
        total := acc.total + visits.countP fun visit => visit.1
        attended := acc.attended + visits.countP fun visit => visit.1 && visit.2.checkedIn } := by
  induction visits generalizing acc with
  | nil => rfl
  | cons visit visits ih =>
    rw [List.foldl_cons, StudentAccum.visit, ih]
    cases hdone : visit.1 <;> cases hchecked : visit.2.checkedIn <;>
      simp [hdone, hchecked, Nat.add_assoc, Nat.add_comm 1]

/-- The visits of a student to done sessions. -/
def visited (studentID : String) : Nat :=
  visits.countP fun visit => visit.1 && decide (visit.2.studentID = studentID)

/-- Those of them where the student is checked in. -/
def present (studentID : String) : Nat :=
  visits.countP fun visit => visit.1 && visit.2.checkedIn && decide (visit.2.studentID = studentID)

/-- **The accumulator of a student counts its visits to done sessions.** -/
theorem accumOf_eq (studentID : String) :
    accumOf visits studentID = (visits.find? fun visit => visit.2.studentID = studentID).map fun visit =>
      { detail := visit.2, total := visited visits studentID, attended := present visits studentID } := by
  have hvisited : visited visits studentID =
      (visits.filter fun visit => visit.2.studentID = studentID).countP fun visit => visit.1 := List.countP_filter.symm
  have hpresent : present visits studentID = (visits.filter fun visit => visit.2.studentID = studentID).countP
      fun visit => visit.1 && visit.2.checkedIn := List.countP_filter.symm
  rw [accumOf, hvisited, hpresent, ← List.head?_filter]
  cases visits.filter fun visit => visit.2.studentID = studentID with
  | nil => rfl
  | cons visit rest =>
    rw [List.foldl_cons, StudentAccum.visit, foldl_visit]
    cases hdone : visit.1 <;> cases hchecked : visit.2.checkedIn <;> simp [hdone, hchecked, Nat.add_comm]

end

theorem accumOf_some {visits : List (Bool × StudentCheckin)} {id : String} (h : ∃ visit ∈ visits, visit.2.studentID = id) :
    ∃ acc, accumOf visits id = some acc ∧ acc.detail.studentID = id ∧ acc.total = visited visits id ∧
      acc.attended = present visits id := by
  obtain ⟨visit, hvisit, hid⟩ := h
  have hsome : (visits.find? fun visit => visit.2.studentID = id).isSome = true :=
    List.find?_isSome.mpr ⟨visit, hvisit, decide_eq_true hid⟩
  obtain ⟨found, hfind⟩ := Option.isSome_iff_exists.mp hsome
  refine ⟨_, by rw [accumOf_eq, hfind, Option.map_some], ?_, rfl, rfl⟩
  simpa using List.find?_some hfind

theorem accumulate_ids (visits : List (Bool × StudentCheckin)) :
    (accumulate visits).map (fun acc => acc.detail.studentID) = (visits.map fun visit => visit.2.studentID).dedup := by
  have hall : ∀ id ∈ (visits.map fun visit => visit.2.studentID).dedup, ∃ visit ∈ visits, visit.2.studentID = id :=
    fun id hid => List.mem_map.mp (List.mem_dedup.mp hid)
  unfold accumulate
  generalize (visits.map fun visit => visit.2.studentID).dedup = ids at hall
  induction ids with
  | nil => rfl
  | cons id ids ih =>
    obtain ⟨acc, hacc, hid, -⟩ := accumOf_some (hall id List.mem_cons_self)
    rw [List.filterMap_cons_some hacc, List.map_cons, hid, ih fun other hother => hall other (List.mem_cons_of_mem id hother)]

theorem mem_accumulate {visits : List (Bool × StudentCheckin)} {acc : StudentAccum} (h : acc ∈ accumulate visits) :
    acc.total = visited visits acc.detail.studentID ∧ acc.attended = present visits acc.detail.studentID := by
  obtain ⟨id, hid, hacc⟩ := List.mem_filterMap.mp h
  obtain ⟨other, hother, rfl, htotal, hattended⟩ := accumOf_some (List.mem_map.mp (List.mem_dedup.mp hid))
  cases hacc.symm.trans hother
  exact ⟨htotal, hattended⟩

section Students
variable {course : CourseDetail} {threshold : Int} {reads : SessionReads}

theorem mem_reportStudents {student : StudentAttendance} (h : student ∈ reportStudents course threshold reads) :
    student.totalSessions = visited (visits (uniqueSessions course.sessions) reads) student.studentID ∧
      student.attendedSessions = present (visits (uniqueSessions course.sessions) reads) student.studentID ∧
      student.perSession = (uniqueSessions course.sessions).map (cellOf reads student.studentID) := by
  obtain ⟨acc, hacc, rfl⟩ := List.mem_map.mp h
  obtain ⟨htotal, hattended⟩ := mem_accumulate (List.mem_of_mem_filter hacc)
  exact ⟨htotal, hattended, rfl⟩

/-- A student has a row exactly when it was counted, and then one. -/
theorem reportStudents_ids : ((reportStudents course threshold reads).map StudentAttendance.studentID).Nodup ∧
    ∀ id, visited (visits (uniqueSessions course.sessions) reads) id ≠ 0 →
      id ∈ (reportStudents course threshold reads).map StudentAttendance.studentID := by
  simp only [reportStudents, List.map_map]
  constructor
  · refine List.Nodup.sublist (List.filter_sublist.map _) ?_
    show ((accumulate _).map fun acc => acc.detail.studentID).Nodup
    rw [accumulate_ids]
    exact List.nodup_dedup _
  · intro id hvisited
    obtain ⟨visit, hvisit, hcounted⟩ := List.countP_pos_iff.mp (Nat.pos_of_ne_zero hvisited)
    have hid : visit.2.studentID = id := by simp_all
    have hmem : id ∈ (accumulate (visits (uniqueSessions course.sessions) reads)).map fun acc => acc.detail.studentID := by
      rw [accumulate_ids, List.mem_dedup]
      exact List.mem_map.mpr ⟨visit, hvisit, hid⟩
    obtain ⟨acc, hacc, rfl⟩ := List.mem_map.mp hmem
    refine List.mem_map.mpr ⟨acc, List.mem_filter.mpr ⟨hacc, ?_⟩, rfl⟩
    simpa [(mem_accumulate hacc).1] using hvisited

end Students

end QrCommandCenter.Warwick
