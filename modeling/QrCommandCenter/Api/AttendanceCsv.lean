import QrCommandCenter.Warwick.Report

/-!
# The exported attendance table

The rows of `internal/api/attendance_export.go` for the students of a report. The texts of times and rates are left to `Formats`.

* `csvAttendanceHeaders`, `csvAttendanceRow` : the header and a row;
* `visited_eq`, `present_eq` : visits counted by sessions;
* `attendance_rows` : every student has one row, whose cells agree with its counts.
-/

namespace QrCommandCenter.Api
open Domain Sorting Warwick

/-! ## Rows -/

structure Formats where
  /-- `UTC().Format(time.RFC3339)` -/
  rfc3339 : Time → String
  /-- `strconv.FormatFloat(rate*100, 'f', 2, 64)` -/
  percent : ℚ → String

def safeSpreadsheetText (value : String) : String :=
  match value.toList.head? with
  | none => value
  | some first => if first ∈ ['=', '+', '-', '@', '\t', '\r'] then "'" ++ value else value

def attendanceSessionHeaders (sessionCount : Nat) : List String :=
  (List.range sessionCount).map fun index => "Session " ++ toString (index + 1)

def csvAttendanceHeaders (sessionCount : Nat) : List String :=
  ["course_id", "course_name", "exported_at", "source_validated_at", "student_id", "student_name", "nickname", "school",
    "attended_sessions", "total_sessions", "attendance_rate", "at_risk"] ++ attendanceSessionHeaders sessionCount

def cellValue (cell : SessionCell) : String :=
  if cell.status = .error then "Error"
  else if cell.sessionStatus = .active ∨ cell.sessionStatus = .notStarted then "N/A"
  else if cell.checkedIn then "1"
  else "0"

def attendanceSessionValue (student : StudentAttendance) (index : Nat) : String :=
  match student.perSession[index]? with
  | none => "Error"
  | some cell => cellValue cell

def sessionValues (student : StudentAttendance) (sessionCount : Nat) : List String :=
  (List.range sessionCount).map (attendanceSessionValue student)

def csvStudentAttendanceValues (formats : Formats) (student : StudentAttendance) (sessionCount : Nat) : List String :=
  [safeSpreadsheetText student.studentID, safeSpreadsheetText student.name, safeSpreadsheetText student.nickname,
    safeSpreadsheetText student.school, toString student.attendedSessions, toString student.totalSessions,
    formats.percent student.attendanceRate ++ "%", if student.atRisk then "true" else "false"] ++
    sessionValues student sessionCount

def csvAttendanceRow (formats : Formats) (report : CourseAttendanceReport) (exportedAt sourceValidatedAt : Time)
    (student : StudentAttendance) : List String :=
  [safeSpreadsheetText report.courseID, safeSpreadsheetText report.courseName, formats.rfc3339 exportedAt,
    formats.rfc3339 sourceValidatedAt] ++ csvStudentAttendanceValues formats student report.sessions.length

/-! ## Visits by sessions -/

def DistinctRosters (sessions : List SessionSummary) (reads : SessionReads) : Prop :=
  ∀ session ∈ sessions, ((roster reads session.sessionID).map StudentCheckin.studentID).Nodup

/-- The session is done, was read, and has an entry of the student that meets `p`. -/
def counts (reads : SessionReads) (studentID : String) (p : StudentCheckin → Bool) (session : SessionSummary) : Bool :=
  session.status = .done && (roster reads session.sessionID).any fun s => p s && s.studentID = studentID

theorem countP_student {students : List StudentCheckin} (hdistinct : (students.map StudentCheckin.studentID).Nodup)
    (p : StudentCheckin → Bool) (id : String) :
    (students.countP fun s => p s && s.studentID = id) = if students.any fun s => p s && s.studentID = id then 1 else 0 := by
  induction students with
  | nil => rfl
  | cons s students ih =>
    obtain ⟨hnew, hrest⟩ := List.nodup_cons.mp hdistinct
    rw [List.countP_cons, ih hrest, List.any_cons]
    by_cases hid : s.studentID = id
    · have hother : (students.any fun s => p s && s.studentID = id) = false := by
        rw [List.any_eq_false]
        intro other hother heq
        simp only [Bool.and_eq_true, decide_eq_true_eq] at heq
        exact hnew (hid ▸ heq.2 ▸ List.mem_map_of_mem hother)
      simp [hother, hid]
    · simp [hid]

section
variable {sessions : List SessionSummary} {reads : SessionReads} (hdistinct : DistinctRosters sessions reads)
include hdistinct

/-- The visits of a student whose entries meet `p`, session by session. -/
theorem countP_visits (p : StudentCheckin → Bool) (id : String) :
    ((visits sessions reads).countP fun visit => visit.1 && (p visit.2 && visit.2.studentID = id)) =
      sessions.countP (counts reads id p) := by
  induction sessions with
  | nil => rfl
  | cons session sessions ih =>
    have hroster := countP_student (hdistinct session List.mem_cons_self) p id
    have hrest := ih fun s hs => hdistinct s (List.mem_cons_of_mem session hs)
    unfold visits at hrest ⊢
    rw [List.flatMap_cons, List.countP_append, hrest, List.countP_cons, List.countP_map]
    unfold counts
    by_cases hdone : session.status = .done
    · simp only [Function.comp_def, hdone, decide_true, Bool.true_and, hroster]
      omega
    · simp [Function.comp_def, hdone]

theorem visited_eq
    (id : String) : visited (visits sessions reads) id = sessions.countP (counts reads id fun _ => true) := by
  rw [← countP_visits hdistinct]
  simp [visited]

theorem present_eq
    (id : String) : present (visits sessions reads) id = sessions.countP (counts reads id StudentCheckin.checkedIn) := by
  rw [← countP_visits hdistinct]
  simp [present, Bool.and_assoc]

end

theorem counts_split (reads : SessionReads) (id : String) (sessions : List SessionSummary) :
    sessions.countP (counts reads id fun _ => true) =
      (sessions.countP fun session => counts reads id (fun _ => true) session &&
        !counts reads id StudentCheckin.checkedIn session) + sessions.countP (counts reads id StudentCheckin.checkedIn) := by
  have himp : ∀ session, counts reads id StudentCheckin.checkedIn session = true → counts reads id (fun _ => true) session := by
    intro session h
    simp only [counts, Bool.and_eq_true, List.any_eq_true] at h ⊢
    exact ⟨h.1, h.2.imp fun s hs => ⟨hs.1, trivial, hs.2.2⟩⟩
  induction sessions with
  | nil => rfl
  | cons session sessions ih =>
    simp only [List.countP_cons, ih]
    cases hin : counts reads id StudentCheckin.checkedIn session with
    | true => simp [himp session hin, Nat.add_assoc]
    | false =>
      cases counts reads id (fun _ => true) session with
      | true =>
        simp only [Bool.not_false, Bool.and_true, if_true, Bool.false_eq_true, if_false]
        omega
      | false => simp

/-! ## Cells -/

theorem any_student {students : List StudentCheckin} (hdistinct : (students.map StudentCheckin.studentID).Nodup)
    (p : StudentCheckin → Bool) (id : String) : (students.any fun s => p s && s.studentID = id) =
      ((students.reverse.find? fun s => s.studentID = id).map p).getD false := by
  cases hfind : students.reverse.find? fun s => s.studentID = id with
  | none =>
    rw [List.find?_eq_none] at hfind
    simp only [Option.map_none, Option.getD_none, List.any_eq_false]
    intro s hs
    simpa using fun _ => by simpa using hfind s (List.mem_reverse.mpr hs)
  | some s =>
    have hs : s ∈ students := List.mem_reverse.mp (List.mem_of_find?_eq_some hfind)
    have hid : s.studentID = id := by simpa using List.find?_some hfind
    simp only [Option.map_some, Option.getD_some]
    rw [Bool.eq_iff_iff, List.any_eq_true]
    constructor
    · rintro ⟨other, hother, heq⟩
      simp only [Bool.and_eq_true, decide_eq_true_eq] at heq
      rw [← List.inj_on_of_nodup_map hdistinct hother hs (heq.2.trans hid.symm)]
      exact heq.1
    · exact fun hp => ⟨s, hs, by simp [hp, hid]⟩

/-- The session has one of the statuses that a course reports. -/
def Scheduled (session : SessionSummary) : Prop :=
  session.status = .done ∨ session.status = .active ∨ session.status = .notStarted

theorem cellValue_counts {session : SessionSummary} {reads : SessionReads} (hscheduled : Scheduled session)
    (hdistinct : ((roster reads session.sessionID).map StudentCheckin.studentID).Nodup) (id : String) :
    (cellValue (cellOf reads id session) = "1" ↔ counts reads id StudentCheckin.checkedIn session = true) ∧
      (cellValue (cellOf reads id session) = "0" ↔
        counts reads id (fun _ => true) session = true ∧ counts reads id StudentCheckin.checkedIn session = false) := by
  unfold counts
  rw [any_student hdistinct, any_student hdistinct, cellOf]
  rcases hscheduled with hstatus | hstatus | hstatus <;>
    cases (roster reads session.sessionID).reverse.find? fun s => s.studentID = id with
    | none => simp [cellValue, hstatus]
    | some s => cases hchecked : s.checkedIn <;> simp [cellValue, hstatus, hchecked]

theorem sessionValues_eq {student : StudentAttendance} {sessions : List SessionSummary} {f : SessionSummary → SessionCell}
    (h : student.perSession = sessions.map f) :
    sessionValues student sessions.length = sessions.map fun session => cellValue (f session) := by
  refine List.ext_getElem? fun i => ?_
  by_cases hi : i < sessions.length
  · simp [sessionValues, attendanceSessionValue, h, hi]
  · simp [sessionValues, hi]

/-- The counts of a student in a report, and its row in the exported table. -/
structure RowAgrees (reads : SessionReads) (formats : Formats) (report : CourseAttendanceReport)
    (exportedAt sourceValidatedAt : Time) (student : StudentAttendance) : Prop where
  total : student.totalSessions = report.sessions.countP (counts reads student.studentID fun _ => true)
  attended : student.attendedSessions = report.sessions.countP (counts reads student.studentID StudentCheckin.checkedIn)
  length : (csvAttendanceRow formats report exportedAt sourceValidatedAt student).length =
    (csvAttendanceHeaders report.sessions.length).length
  ones : ((csvAttendanceRow formats report exportedAt sourceValidatedAt student).drop 12).count "1" =
    student.attendedSessions
  zeros : ((csvAttendanceRow formats report exportedAt sourceValidatedAt student).drop 12).count "0" =
    student.totalSessions - student.attendedSessions

/-- **Every student of a done session that was read has one row, whose cells agree with its counts.** -/
theorem attendance_rows {course : CourseDetail} {threshold : Int} {start : Time} {reads : SessionReads} {cancelled : Bool}
    {report : CourseAttendanceReport} (hscheduled : ∀ session ∈ course.sessions, Scheduled session)
    (hdistinct : DistinctRosters course.sessions reads)
    (hreport : Computes course threshold start reads cancelled report) (formats : Formats)
    (exportedAt sourceValidatedAt : Time) :
    (∀ session ∈ report.sessions, session.status = .done → ∀ s ∈ roster reads session.sessionID,
      (report.students.countP fun student => student.studentID = s.studentID) = 1) ∧
    ∀ student ∈ report.students, RowAgrees reads formats report exportedAt sourceValidatedAt student := by
  obtain ⟨hsorted, hsessions⟩ := hreport.students
  have hread : DistinctRosters report.sessions reads := by
    rw [hsessions]
    exact fun session hsession => hdistinct session (mem_of_mem_uniqueSessions hsession)
  constructor
  · intro session hsession hdone s hs
    have hcounted : counts reads s.studentID (fun _ => true) session = true := by
      simpa [counts, hdone] using ⟨s, hs, rfl⟩
    have hvisited : visited (visits report.sessions reads) s.studentID ≠ 0 := by
      rw [visited_eq hread]
      exact Nat.ne_of_gt (List.countP_pos_iff.mpr ⟨session, hsession, hcounted⟩)
    rw [hsessions] at hvisited
    have hone := List.count_eq_one_of_mem reportStudents_ids.1 ((@reportStudents_ids course threshold reads).2 _ hvisited)
    rw [hsorted.perm.countP_eq, ← hone, List.count, List.countP_map]
    exact List.countP_congr fun student _ => by simp
  · intro student hstudent
    obtain ⟨htotal, hattended, hcells⟩ := mem_reportStudents (hsorted.perm.mem_iff.mp hstudent)
    rw [← hsessions] at htotal hattended hcells
    rw [visited_eq hread] at htotal
    rw [present_eq hread] at hattended
    have hvalues : (csvAttendanceRow formats report exportedAt sourceValidatedAt student).drop 12 =
        report.sessions.map fun session => cellValue (cellOf reads student.studentID session) := sessionValues_eq hcells
    have hcell : ∀ session ∈ report.sessions, _ := fun session hsession =>
      cellValue_counts (hscheduled session (mem_of_mem_uniqueSessions (hsessions ▸ hsession))) (hread session hsession)
        student.studentID
    refine ⟨htotal, hattended, ?_, ?_, ?_⟩
    · simp [csvAttendanceRow, csvStudentAttendanceValues, sessionValues, csvAttendanceHeaders, attendanceSessionHeaders]
    · rw [hvalues, hattended, List.count, List.countP_map]
      exact List.countP_congr fun session hsession => by simpa using (hcell session hsession).1
    · rw [hvalues, htotal, hattended, counts_split, List.count, List.countP_map, Nat.add_sub_cancel]
      exact List.countP_congr fun session hsession => by simpa using (hcell session hsession).2

/-- A done session with two students, one of them checked in, and an active session whose read failed. -/
def sampleCourse : CourseDetail where
  courseID := "c"
  name := "Course"
  status := .active
  sessions := [{ sessionID := "s1", status := .done }, { sessionID := "s2", status := .active }]

def sampleReads : SessionReads := fun id =>
  if id = "s1" then
    .ok { sessionID := "s1", students := [{ studentID := "a", checkedIn := true }, { studentID := "b" }] }
  else .error "timeout"

def sampleReport : CourseAttendanceReport :=
  computeCourseAttendanceReport sampleCourse 0 0 sampleReads false (reportStudents sampleCourse 0 sampleReads).reverse

theorem attendance_rows_sample :
    Computes sampleCourse 0 0 sampleReads false sampleReport ∧
      ∀ student ∈ sampleReport.students, RowAgrees sampleReads ⟨fun _ => "", fun _ => ""⟩ sampleReport 0 0 student := by
  have hreport : Computes sampleCourse 0 0 sampleReads false sampleReport := ⟨_, by decide +kernel, rfl⟩
  exact ⟨hreport, (attendance_rows (by simp [sampleCourse, Scheduled])
    (by simp [DistinctRosters, sampleCourse, roster, sampleReads]) hreport _ 0 0).2⟩

end QrCommandCenter.Api
