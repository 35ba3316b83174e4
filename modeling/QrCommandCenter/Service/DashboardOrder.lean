import Mathlib.Data.List.Pairwise
import QrCommandCenter.Service.DashboardFigures

/-!
# The order of the students on the dashboard

Students are sorted by risk whatever `filters.sortBy` says, and no session is left out for `filters.dateRange`.

* `exists_listed` : two students with different keys are listed together by some run;
* `heeds_iff` : when the dashboard is nevertheless the one that the filters ask for.
-/

namespace QrCommandCenter.Service
open Domain Sorting Warwick

variable {results : List DashboardCourseResult} {threshold : Int} {guidToStudentID : String → String}

theorem firstOfKeys_nodup (l : List StudentAgg) : ((firstOfKeys l).map StudentAgg.key).Nodup := by
  induction l with
  | nil => exact .nil
  | cons agg l ih =>
    refine List.nodup_cons.mpr ⟨?_, ih.sublist (List.filter_sublist.map _)⟩
    simp [List.mem_map, List.mem_filter]

theorem exists_listed {a b : StudentAgg} (ha : a ∈ studentMap results) (hb : b ∈ studentMap results) (hkey : a.key ≠ b.key) :
    ∃ order : List StudentAgg, order.Perm (studentMap results) ∧ a ∈ firstOfKeys order ∧ b ∈ firstOfKeys order := by
  have hb' : b ∈ (studentMap results).erase a := (List.mem_erase_of_ne fun h => hkey (congrArg _ h.symm)).mpr hb
  have hperm := (List.perm_cons_erase ha).trans ((List.perm_cons_erase hb').cons a)
  exact ⟨_, hperm.symm, by simp [firstOfKeys], by simp [firstOfKeys, hkey.symm]⟩

/-! ## Orders by name -/

def StudentAbsence.rank (student : StudentAbsence) : Bool × ℚ × String := (student.atRisk, student.attendanceRate, student.name)

/-- The order that a value of `sortBy` names. -/
def sortLess : DashboardSortBy → Bool × ℚ × String → Bool × ℚ × String → Bool
  | .risk, a, b => if a.1 ≠ b.1 then a.1 else a.2.1 < b.2.1
  | .rateAsc, a, b => a.2.1 < b.2.1
  | .rateDesc, a, b => b.2.1 < a.2.1
  | .name, a, b => a.2.2 < b.2.2

theorem sortLess_of_ties {x y : Bool × ℚ × String} (sortBy : DashboardSortBy) (h : riskLess x y = false)
    (h' : riskLess y x = false) : sortLess sortBy x y = false := by
  simp only [riskLess] at h h'
  cases sortBy <;> simp only [sortLess] <;> grind

/-- The students of `report` are in the order of `filters`, and sessions out of their range contribute nothing to it. -/
structure Heeds (within : DateRange → String → Prop) (filters : DashboardFilters) (results : List DashboardCourseResult)
    (report : DashboardReport) : Prop where
  sorted : report.students.Pairwise fun a b => sortLess filters.sortBy b.rank a.rank = false
  dated : ∀ range, filters.dateRange = some range → ∀ res ∈ results, ∀ course, res.report = some course →
    ∀ session ∈ course.sessions, within range session.date

/-- The order by risk is also the one that is asked for, and the courses have no session out of the range. -/
structure Heeded (within : DateRange → String → Prop) (reads : DashboardReads) (filters : DashboardFilters)
    (students : Nat → List StudentAttendance) : Prop where
  sorted : ∀ a ∈ studentMap (reads.results filters students), ∀ b ∈ studentMap (reads.results filters students),
    let row := studentAbsence [] reads.guidToStudentID filters.threshold
    a.key ≠ b.key → hasWCode filters.wCodes (row a).studentID = true → hasWCode filters.wCodes (row b).studentID = true →
    absenceLess (row b) (row a) = false → sortLess filters.sortBy (row b).rank (row a).rank = false
  dated : ∀ range, filters.dateRange = some range → ∀ i < (reads.courses filters).length, ∀ detail,
    reads.detail i = .ok detail → ∀ session ∈ uniqueSessions detail.sessions, within range session.date

section Heeds
variable {within : DateRange → String → Prop} {reads : DashboardReads} {filters : DashboardFilters}
  {students : Nat → List StudentAttendance}

theorem DashboardReads.forall_sessions {P : SessionSummary → Prop} :
    (∀ res ∈ reads.results filters students, ∀ course, res.report = some course → ∀ session ∈ course.sessions, P session) ↔
      ∀ i < (reads.courses filters).length, ∀ detail, reads.detail i = .ok detail →
        ∀ session ∈ uniqueSessions detail.sessions, P session := by
  simp only [DashboardReads.results, List.mem_mapIdx]
  constructor
  · intro h i hi detail hdetail
    have hsessions := h _ ⟨i, hi, rfl⟩ _ (by simp only [hdetail]; rfl)
    rwa [computeCourseAttendanceReport_sessions] at hsessions
  · rintro h res ⟨i, hi, rfl⟩ course hcourse
    cases hdetail : reads.detail i with
    | error reason => simp [hdetail, Except.toOption] at hcourse
    | ok detail =>
      simp only [hdetail, Except.toOption, Option.map_some, Option.some.injEq] at hcourse
      rw [← hcourse, computeCourseAttendanceReport_sessions]
      exact h i hi detail hdetail

theorem Heeded.of_heeds (h : ∀ run : Run (reads.results filters students) filters.threshold reads.guidToStudentID,
    Heeds within filters (reads.results filters students) (reads.getAbsenceDashboard filters students run)) :
    Heeded within reads filters students := by
  refine ⟨?_, fun range hrange => DashboardReads.forall_sessions.mp ((h (.of _ _ (.refl _) (weakOrder_sessions.merge _))).dated
    range hrange)⟩
  intro a ha b hb row hkey hcode hcode' hless
  obtain ⟨order, horder, hina, hinb⟩ := exists_listed ha hb hkey
  let run : Run (reads.results filters students) filters.threshold reads.guidToStudentID :=
    .of _ _ horder (weakOrder_sessions.merge _)
  have hlisted : ∀ agg ∈ firstOfKeys order, hasWCode filters.wCodes (row agg).studentID = true →
      studentAbsence run.sessions reads.guidToStudentID filters.threshold agg ∈
        filterStudentsByWCodes run.students filters.wCodes := fun agg hagg hcode =>
    List.mem_filter.mpr ⟨run.ranks.perm.mem_iff.mpr (List.mem_map_of_mem hagg), hcode⟩
  -- a student before another is not after it in the order that is asked for, and they may only change places in a tie
  let Allowed : StudentAbsence → StudentAbsence → Prop := fun x y =>
    absenceLess y x = false → sortLess filters.sortBy y.rank x.rank = false
  have : Std.Symm fun x y => Allowed x y ∧ Allowed y x := ⟨fun _ _ => And.symm⟩
  have hpair : (filterStudentsByWCodes run.students filters.wCodes).Pairwise fun x y => Allowed x y ∧ Allowed y x :=
    List.Pairwise.imp₂ (fun x y hless hsort => ⟨fun _ => hsort, fun hless' => sortLess_of_ties _ hless' hless⟩)
      (run.ranks.sorted.filter _) (h run).sorted
  exact (hpair.forall_of_forall (fun x _ => ⟨fun hself => sortLess_of_ties _ hself hself, fun hself => sortLess_of_ties _ hself hself⟩)
    (hlisted a hina hcode) (hlisted b hinb hcode')).1 hless

end Heeds

/-- A course with one session, for which the second of two students by name has come. -/
def namedCourse : CourseDetail where
  courseID := "c"
  name := "Course"
  status := .active
  sessions := [{ sessionID := "s", date := "2026-01-05", status := .done }]

def namedStudents : DashboardReads where
  catalog := [namedCourse.toCourseSummary]
  detail _ := .ok namedCourse
  rosters _ _ := .ok { sessionID := "s", students := [{ studentID := "b", name := "Bo" },
    { studentID := "a", name := "Al", checkedIn := true }] }
  profiles := .ok []

end QrCommandCenter.Service
