import Mathlib.Data.List.Nodup
import QrCommandCenter.Service.Checkin

/-!
# Public student identifiers

The identifiers of `internal/domain/enrichment.go`: rosters carry the GUID of a student, the API shows the WCode of the profile
with that GUID, and a check-in resolves what was shown.

* `wcodeOf`, `enrichCheckinStudentIDWithWCode` : what is shown;
* `Recovers` : what is shown is unambiguous, and resolves to the student it was shown for;
* `recovers_iff` : so it is, unless the WCode of a student is the identifier of another one.
-/

namespace QrCommandCenter.Service
open Domain

/-- `buildGUIDToWCodeMap(profiles)[guid]`; the last profile of a GUID counts. -/
def wcodeOf (profiles : List StudentProfile) (guid : String) : Option String :=
  (profiles.reverse.find? fun p => p.studentID ≠ "" ∧ p.studentGuid ≠ "" ∧ p.studentGuid = guid).map
    StudentProfile.studentID

def enrichCheckinStudentIDWithWCode (students : List StudentCheckin) (profiles : List StudentProfile) :
    List StudentCheckin :=
  students.map fun student => { student with studentID := (wcodeOf profiles student.studentID).getD student.studentID }

/-- The students of a roster have identifiers of their own. -/
structure Identified (students : List StudentCheckin) : Prop where
  nonempty : ∀ s ∈ students, s.studentID ≠ ""
  distinct : (students.map StudentCheckin.studentID).Nodup

/-- The profiles have identifiers and GUIDs of their own. -/
structure IdentifiedProfiles (profiles : List StudentProfile) : Prop where
  nonempty : ∀ p ∈ profiles, p.studentID ≠ "" ∧ p.studentGuid ≠ ""
  distinctIDs : (profiles.map StudentProfile.studentID).Nodup
  distinctGuids : (profiles.map StudentProfile.studentGuid).Nodup

section
variable (students : List StudentCheckin) (profiles : List StudentProfile)

/-- What is shown for the students of a roster is unambiguous, and resolves to them. -/
structure Recovers : Prop where
  distinct : ((enrichCheckinStudentIDWithWCode students profiles).map StudentCheckin.studentID).Nodup
  resolves : ∀ (i : Nat) (s shown : StudentCheckin), students[i]? = some s →
    (enrichCheckinStudentIDWithWCode students profiles)[i]? = some shown →
    resolveCheckinStudentID shown.studentID students profiles = some s.studentID

/-- No WCode of a student is the identifier of another one. -/
def WcodesApart : Prop :=
  ∀ s ∈ students, ∀ wcode, wcodeOf profiles s.studentID = some wcode →
    ∀ other ∈ students, other.studentID = wcode → wcode = s.studentID

end

variable {students : List StudentCheckin} {profiles : List StudentProfile}

theorem wcodeOf_eq_some {guid wcode : String} (h : wcodeOf profiles guid = some wcode) :
    ∃ p ∈ profiles, p.studentGuid = guid ∧ p.studentID = wcode := by
  obtain ⟨p, hfind, rfl⟩ := Option.map_eq_some_iff.mp h
  have hp := List.find?_some hfind
  simp only [decide_eq_true_eq] at hp
  exact ⟨p, List.mem_reverse.mp (List.mem_of_find?_eq_some hfind), hp.2.2, rfl⟩

theorem inRoster_iff (hroster : Identified students) (id : String) :
    inRoster students id = true ↔ ∃ s ∈ students, s.studentID = id := by
  simp only [inRoster, List.any_eq_true, Bool.and_eq_true, decide_eq_true_eq]
  constructor
  · exact fun ⟨s, hs, _, heq⟩ => ⟨s, hs, heq⟩
  · exact fun ⟨s, hs, heq⟩ => ⟨s, hs, hroster.nonempty s hs, heq⟩

theorem resolve_of_inRoster {id : String} (hne : id ≠ "") (hid : inRoster students id = true) :
    resolveCheckinStudentID id students profiles = some id := by
  simp [resolveCheckinStudentID, hne, hid]

theorem resolve_wcode (hprofiles : IdentifiedProfiles profiles) {p : StudentProfile} (hp : p ∈ profiles)
    (hguid : inRoster students p.studentGuid = true) (hwcode : ¬ inRoster students p.studentID = true) :
    resolveCheckinStudentID p.studentID students profiles = some p.studentGuid := by
  have hfind : profiles.find? (fun profile => profile.studentID = p.studentID && profile.studentGuid ≠ "" &&
      inRoster students profile.studentGuid) = some p := by
    rw [List.find?_eq_some_iff_append]
    obtain ⟨before, after, rfl⟩ := List.append_of_mem hp
    refine ⟨by simp [hguid, (hprofiles.nonempty p hp).2], before, after, rfl, fun q hq => ?_⟩
    -- the WCodes are distinct, so no profile before this one has it
    have hdistinct := hprofiles.distinctIDs
    rw [List.map_append, List.map_cons, List.nodup_middle] at hdistinct
    have hne : q.studentID ≠ p.studentID := fun heq =>
      (List.nodup_cons.mp hdistinct).1 (List.mem_append_left _ (heq ▸ List.mem_map_of_mem hq))
    simp [hne]
  rw [resolveCheckinStudentID, if_neg (hprofiles.nonempty p hp).1, if_neg hwcode, hfind, Option.map_some]

theorem resolve_shown (hroster : Identified students) (hprofiles : IdentifiedProfiles profiles)
    (hapart : WcodesApart students profiles) {s : StudentCheckin} (hs : s ∈ students) :
    resolveCheckinStudentID ((wcodeOf profiles s.studentID).getD s.studentID) students profiles = some s.studentID := by
  have hself : inRoster students s.studentID = true := (inRoster_iff hroster _).mpr ⟨s, hs, rfl⟩
  cases hcode : wcodeOf profiles s.studentID with
  | none => exact resolve_of_inRoster (hroster.nonempty s hs) hself
  | some wcode =>
    obtain ⟨p, hp, hguid, rfl⟩ := wcodeOf_eq_some hcode
    rw [Option.getD_some]
    by_cases hin : inRoster students p.studentID = true
    · obtain ⟨other, hother, heq⟩ := (inRoster_iff hroster _).mp hin
      rw [hapart s hs _ hcode other hother heq]
      exact resolve_of_inRoster (hroster.nonempty s hs) hself
    · rw [← hguid] at hself ⊢
      exact resolve_wcode hprofiles hp hself hin

/-- **What is shown of a roster can be resolved** exactly when no WCode of a student is the identifier of another one. -/
theorem recovers_iff (hroster : Identified students) (hprofiles : IdentifiedProfiles profiles) :
    Recovers students profiles ↔ WcodesApart students profiles := by
  constructor
  · intro h s hs wcode hcode other hother heq
    obtain ⟨i, hi⟩ := List.mem_iff_getElem?.mp hs
    have hshown := h.resolves i s _ hi (by simp only [enrichCheckinStudentIDWithWCode, List.getElem?_map, hi]; rfl)
    have hne : wcode ≠ "" := heq ▸ hroster.nonempty other hother
    simp only [hcode, Option.getD_some] at hshown
    rw [resolve_of_inRoster hne ((inRoster_iff hroster _).mpr ⟨other, hother, heq⟩)] at hshown
    exact Option.some.inj hshown
  · intro hapart
    constructor
    · rw [enrichCheckinStudentIDWithWCode, List.map_map]
      -- two students shown alike resolve alike
      refine List.Nodup.of_map StudentCheckin.studentID hroster.distinct |>.map_on fun s hs t ht heq => ?_
      have hsame := resolve_shown hroster hprofiles hapart hs
      rw [show (wcodeOf profiles s.studentID).getD s.studentID = (wcodeOf profiles t.studentID).getD t.studentID from heq,
        resolve_shown hroster hprofiles hapart ht] at hsame
      exact List.inj_on_of_nodup_map hroster.distinct hs ht (Option.some.inj hsame).symm
    · intro i s shown hi hshown
      rw [enrichCheckinStudentIDWithWCode, List.getElem?_map, hi] at hshown
      cases hshown
      exact resolve_shown hroster hprofiles hapart (List.mem_of_getElem? hi)

theorem recovers_disjoint : Recovers [{ studentID := "g1" }, { studentID := "g2" }] [⟨"w1", "g1", "A", ""⟩] :=
  (recovers_iff ⟨by decide, by decide⟩ ⟨by decide, by decide, by decide⟩).mpr (by
    intro s hs wcode hcode other hother heq
    obtain ⟨p, hp, -, rfl⟩ := wcodeOf_eq_some hcode
    rw [List.mem_singleton.mp hp] at heq
    exact absurd heq (by revert other; decide))

/-- A student whose identifier is the WCode of another one: both are shown alike, and the first resolves to the second. -/
theorem recovers_shared_identifier :
    Identified [{ studentID := "g1" }, { studentID := "w1" }] ∧ IdentifiedProfiles [⟨"w1", "g1", "A", ""⟩] ∧
      (enrichCheckinStudentIDWithWCode [{ studentID := "g1" }, { studentID := "w1" }] [⟨"w1", "g1", "A", ""⟩]).map
        StudentCheckin.studentID = ["w1", "w1"] ∧
      resolveCheckinStudentID "w1" [{ studentID := "g1" }, { studentID := "w1" }] [⟨"w1", "g1", "A", ""⟩] = some "w1" ∧
      ¬ Recovers [{ studentID := "g1" }, { studentID := "w1" }] [⟨"w1", "g1", "A", ""⟩] :=
  ⟨⟨by decide, by decide⟩, ⟨by decide, by decide, by decide⟩, by decide, by decide, fun h => absurd h.distinct (by decide)⟩

end QrCommandCenter.Service
