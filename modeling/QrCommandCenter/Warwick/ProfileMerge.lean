import Mathlib.Data.List.Sort
import Mathlib.Algebra.Order.Ring.Int
import QrCommandCenter.Warwick.ProfilePages
import QrCommandCenter.Lib.Table

/-!
# What the checks of the profile pages establish

* `WellIdentified` : every profile has a student ID and a GUID of its own;
* `mergePages_eq_ok` : the pages are accepted exactly when each is well sized and together they are well identified;
* `fingerprint_perm` : equal fingerprints are equal sets of identities.
-/

namespace QrCommandCenter.Warwick
open Domain Scraper Table

variable {profiles : List StudentProfile} {row : UserGroupRow} {m : MergedProfiles} {total : Int} {number : Nat}
  {page : ProfilePage}

/-! ## Merging -/

def Identifying (ids : List String) : Prop := "" ∉ ids ∧ ids.Nodup

theorem identifying_snoc {ids : List String} {id : String} :
    Identifying (ids ++ [id]) ↔ Identifying ids ∧ id ≠ "" ∧ id ∉ ids := by
  unfold Identifying
  rw [List.nodup_append]
  simp only [List.mem_append, List.mem_singleton, List.nodup_cons, List.not_mem_nil, not_false_eq_true, List.nodup_nil,
    and_self, true_and, not_or]
  constructor
  · rintro ⟨⟨hids, hid⟩, hnodup, hnew⟩
    exact ⟨⟨hids, hnodup⟩, fun h => hid h.symm, fun hmem => hnew id hmem id rfl rfl⟩
  · rintro ⟨⟨hids, hnodup⟩, hid, hnew⟩
    refine ⟨⟨hids, fun h => hid h.symm⟩, hnodup, ?_⟩
    rintro a ha _ rfl rfl
    exact hnew ha

theorem Identifying.of_append {ids ids' : List String} (h : Identifying (ids ++ ids')) : Identifying ids :=
  ⟨fun hmem => h.1 (List.mem_append_left _ hmem), (List.nodup_append.mp h.2).1⟩

theorem recordUniqueIdentifier_eq_ok {seen : List String} {endpoint field id : String} :
    recordUniqueIdentifier seen endpoint field id = .ok () ↔ id ≠ "" ∧ id ∉ seen := by
  unfold recordUniqueIdentifier
  rw [ite_error_eq_ok, ite_error_eq_ok]
  simp

/-- The student IDs are non-empty and pairwise distinct, and so are the GUIDs. -/
structure WellIdentified (profiles : List StudentProfile) : Prop where
  studentIDs : Identifying (profiles.map StudentProfile.studentID)
  studentGuids : Identifying (profiles.map StudentProfile.studentGuid)

theorem WellIdentified.nil : WellIdentified [] := by
  constructor <;> exact ⟨List.not_mem_nil, List.nodup_nil⟩

theorem WellIdentified.of_append {profiles' : List StudentProfile} (h : WellIdentified (profiles ++ profiles')) :
    WellIdentified profiles := by
  obtain ⟨hids, hguids⟩ := h
  rw [List.map_append] at hids hguids
  exact ⟨hids.of_append, hguids.of_append⟩

theorem wellIdentified_snoc {profile : StudentProfile} :
    WellIdentified (profiles ++ [profile]) ↔ WellIdentified profiles ∧
      (profile.studentID ≠ "" ∧ profile.studentID ∉ profiles.map StudentProfile.studentID) ∧
      (profile.studentGuid ≠ "" ∧ profile.studentGuid ∉ profiles.map StudentProfile.studentGuid) := by
  constructor
  · rintro ⟨hids, hguids⟩
    rw [List.map_append, List.map_singleton, identifying_snoc] at hids hguids
    exact ⟨⟨hids.1, hguids.1⟩, hids.2, hguids.2⟩
  · rintro ⟨⟨hids, hguids⟩, hid, hguid⟩
    constructor
    · rw [List.map_append, List.map_singleton, identifying_snoc]
      exact ⟨hids, hid⟩
    · rw [List.map_append, List.map_singleton, identifying_snoc]
      exact ⟨hguids, hguid⟩

namespace MergedProfiles

section
variable (profiles : List StudentProfile)

/-- The accumulator after `profiles`: every identifier of a profile is taken. -/
def ofProfiles : MergedProfiles where
  profiles := profiles
  seenStudentIDs := (profiles.map StudentProfile.studentID).reverse
  seenStudentGUIDs := (profiles.map StudentProfile.studentGuid).reverse

@[simp] theorem ofProfiles_profiles : (ofProfiles profiles).profiles = profiles := rfl

theorem ofProfiles_snoc (profile : StudentProfile) :
    ofProfiles (profiles ++ [profile]) =
      { profiles := profiles ++ [profile],
        seenStudentIDs := profile.studentID :: (ofProfiles profiles).seenStudentIDs,
        seenStudentGUIDs := profile.studentGuid :: (ofProfiles profiles).seenStudentGUIDs } := by
  simp [ofProfiles]

end

end MergedProfiles

open MergedProfiles

theorem mergeProfileRow_eq_ok (h : WellIdentified profiles) :
    mergeProfileRow (ofProfiles profiles) row = .ok m ↔
      WellIdentified (profiles ++ [row.trimmed]) ∧ m = ofProfiles (profiles ++ [row.trimmed]) := by
  unfold mergeProfileRow
  rw [bind_eq_ok, wellIdentified_snoc]
  constructor
  · rintro ⟨_, hid, hrest⟩
    obtain ⟨_, hguid, hm⟩ := bind_eq_ok.mp hrest
    rw [recordUniqueIdentifier_eq_ok] at hid hguid
    cases hm
    refine ⟨⟨h, ?_, ?_⟩, (ofProfiles_snoc profiles row.trimmed).symm⟩
    · simpa [ofProfiles] using hid
    · simpa [ofProfiles] using hguid
  · rintro ⟨⟨-, hid, hguid⟩, rfl⟩
    refine ⟨(), recordUniqueIdentifier_eq_ok.mpr ?_, bind_eq_ok.mpr ⟨(), recordUniqueIdentifier_eq_ok.mpr ?_, ?_⟩⟩
    · simpa [ofProfiles] using hid
    · simpa [ofProfiles] using hguid
    · rw [ofProfiles_snoc]
      rfl

theorem mergeProfileRows_eq_ok (h : WellIdentified profiles) {rows : List UserGroupRow} :
    mergeProfileRows (ofProfiles profiles) rows = .ok m ↔
      WellIdentified (profiles ++ rows.map UserGroupRow.trimmed) ∧
        m = ofProfiles (profiles ++ rows.map UserGroupRow.trimmed) := by
  induction rows generalizing profiles with
  | nil =>
    rw [List.map_nil, List.append_nil]
    constructor
    · intro hm
      cases hm
      exact ⟨h, rfl⟩
    · rintro ⟨-, rfl⟩
      rfl
  | cons row rows ih =>
    have hassoc : profiles ++ (row :: rows).map UserGroupRow.trimmed =
        profiles ++ [row.trimmed] ++ rows.map UserGroupRow.trimmed := by simp
    rw [hassoc, mergeProfileRows, bind_eq_ok]
    constructor
    · rintro ⟨m', hrow, hrows⟩
      obtain ⟨hidentified, rfl⟩ := (mergeProfileRow_eq_ok h).mp hrow
      exact (ih hidentified).mp hrows
    · rintro ⟨hall, hm⟩
      have hrow := hall.of_append
      exact ⟨_, (mergeProfileRow_eq_ok h).mpr ⟨hrow, rfl⟩, (ih hrow).mpr ⟨hall, hm⟩⟩

/-! ## The pages -/

/-- Page number `number` of a set of `total` profiles has the counts and the rows it should have. -/
structure WellSized (total : Int) (number : Nat) (page : ProfilePage) : Prop where
  counts : validateProfileRecordCounts page = .ok ()
  reported : page.recordsFiltered = total
  rows : validateProfilePageRows page total (number * profilePageSize) = .ok ()

theorem checkPage_eq_ok (h : WellIdentified profiles) :
    checkPage total number page (ofProfiles profiles) = .ok m ↔ WellSized total number page ∧
      WellIdentified (profiles ++ page.data.map UserGroupRow.trimmed) ∧
        m = ofProfiles (profiles ++ page.data.map UserGroupRow.trimmed) := by
  unfold checkPage
  rw [bind_eq_ok]
  constructor
  · rintro ⟨_, hcounts, hrest⟩
    obtain ⟨htotal, hrest⟩ := ite_error_eq_ok.mp hrest
    obtain ⟨_, hrows, hmerge⟩ := bind_eq_ok.mp hrest
    exact ⟨⟨hcounts, not_not.mp htotal, hrows⟩, (mergeProfileRows_eq_ok h).mp hmerge⟩
  · rintro ⟨hsized, hmerge⟩
    refine ⟨(), hsized.counts, ite_error_eq_ok.mpr ⟨not_not.mpr hsized.reported, bind_eq_ok.mpr ⟨(), hsized.rows, ?_⟩⟩⟩
    exact (mergeProfileRows_eq_ok h).mpr hmerge

def resultProfiles (results : List PageResult) : List StudentProfile :=
  results.flatMap fun result => result.page.data.map UserGroupRow.trimmed

/-- The results are accepted exactly when every page is well sized and all profiles together are well identified. -/
theorem mergePages_eq_ok {results : List PageResult} (h : WellIdentified profiles) :
    mergePages total number results (ofProfiles profiles) = .ok m ↔
      (∀ i result, results[i]? = some result → WellSized total (number + i) result.page) ∧
        WellIdentified (profiles ++ resultProfiles results) ∧ m = ofProfiles (profiles ++ resultProfiles results) := by
  induction results generalizing number profiles with
  | nil =>
    rw [show resultProfiles [] = [] from rfl, List.append_nil]
    constructor
    · intro hm
      cases hm
      exact ⟨fun i result hi => by simp at hi, h, rfl⟩
    · rintro ⟨-, -, rfl⟩
      rfl
  | cons result results ih =>
    have hassoc : profiles ++ resultProfiles (result :: results) =
        profiles ++ result.page.data.map UserGroupRow.trimmed ++ resultProfiles results := by
      simp [resultProfiles]
    rw [hassoc, mergePages, bind_eq_ok]
    constructor
    · rintro ⟨m', hpage, hpages⟩
      obtain ⟨hsized, hidentified, rfl⟩ := (checkPage_eq_ok h).mp hpage
      obtain ⟨hsizes, hall⟩ := (ih hidentified).mp hpages
      refine ⟨fun i result' hi => ?_, hall⟩
      cases i with
      | zero =>
        cases hi
        exact hsized
      | succ i =>
        rw [Nat.add_comm i 1, ← Nat.add_assoc]
        exact hsizes i result' hi
    · rintro ⟨hsizes, hall, hm⟩
      have hpage := hall.of_append
      refine ⟨_, (checkPage_eq_ok h).mpr ⟨hsizes 0 result rfl, hpage, rfl⟩,
        (ih hpage).mpr ⟨fun i result' hi => ?_, hall, hm⟩⟩
      rw [Nat.add_assoc, Nat.add_comm 1 i]
      exact hsizes (i + 1) result' hi

/-- Page 0 is accepted exactly when it has the rows of its own total, well identified. -/
theorem readFirstPage_eq_ok :
    readFirstPage page = .ok m ↔ WellSized page.recordsFiltered 0 page ∧
      WellIdentified (page.data.map UserGroupRow.trimmed) ∧ m = ofProfiles (page.data.map UserGroupRow.trimmed) := by
  have hstart : ((0 : Nat) : Int) * (profilePageSize : Int) = 0 := by simp
  have hmerge := @mergeProfileRows_eq_ok [] m WellIdentified.nil page.data
  rw [List.nil_append] at hmerge
  unfold readFirstPage
  rw [bind_eq_ok]
  constructor
  · rintro ⟨_, hcounts, hrest⟩
    obtain ⟨_, hrows, hm⟩ := bind_eq_ok.mp hrest
    exact ⟨⟨hcounts, rfl, by rw [hstart]; exact hrows⟩, hmerge.mp hm⟩
  · rintro ⟨hsized, hm⟩
    have hrows := hsized.rows
    rw [hstart] at hrows
    exact ⟨(), hsized.counts, bind_eq_ok.mpr ⟨(), hrows, hmerge.mpr hm⟩⟩

section
variable (h : WellSized total number page)
include h

theorem WellSized.length :
    (page.data.length : Int) = expectedProfilePageRows total (number * profilePageSize) := by
  obtain ⟨hrows, -⟩ := ite_error_eq_ok.mp h.rows
  rw [not_or, not_not] at hrows
  exact hrows.2

theorem WellSized.nonneg :
    0 ≤ total := by
  obtain ⟨hcounts, -⟩ := ite_error_eq_ok.mp h.counts
  rw [not_or, not_or, h.reported] at hcounts
  exact not_lt.mp hcounts.2.1

theorem WellSized.full (hnumber : number + 1 < expectedPages total) :
    page.data.length = profilePageSize := by
  have hlength := h.length
  have hmore : (profilePageSize : Int) < total - number * profilePageSize := by
    simp only [expectedPages, profilePageSize, Nat.cast_ofNat] at hnumber ⊢
    omega
  rw [expectedProfilePageRows, if_pos hmore] at hlength
  exact Int.ofNat_inj.mp hlength

end

/-! ## The fingerprint -/

def UserGroupRow.pair (row : UserGroupRow) : String × String := (trimSpace row.studentID, trimSpace row.studentGuid)

/-- Neither `|` nor a newline. -/
def PlainIdentifier (id : String) : Prop := '|' ∉ id.toList ∧ '\n' ∉ id.toList

def UserGroupRow.Plain (row : UserGroupRow) : Prop :=
  PlainIdentifier (trimSpace row.studentID) ∧ PlainIdentifier (trimSpace row.studentGuid)

/-- The pair behind an identity: what stands before and after the first `|`. -/
def pairOfIdentity (identity : String) : String × String :=
  (String.ofList (identity.toList.takeWhile (· != '|')), String.ofList ((identity.toList.dropWhile (· != '|')).drop 1))

theorem pairOfIdentity_identity (h : row.Plain) : pairOfIdentity row.identity = row.pair := by
  have hbar : ∀ c ∈ (trimSpace row.studentID).toList, (c != '|') = true := by
    intro c hc
    rw [bne_iff_ne]
    rintro rfl
    exact h.1.1 hc
  have hchars : row.identity.toList =
      (trimSpace row.studentID).toList ++ '|' :: (trimSpace row.studentGuid).toList := by
    simp [UserGroupRow.identity, String.toList_append]
  unfold pairOfIdentity UserGroupRow.pair
  rw [hchars, List.takeWhile_append_of_pos hbar, List.dropWhile_append_of_pos hbar]
  simp

theorem identity_noNewline (h : row.Plain) : '\n' ∉ row.identity.toList := by
  have h₁ := h.1.2
  have h₂ := h.2.2
  simp only [UserGroupRow.identity, String.toList_append, List.mem_append, not_or]
  exact ⟨⟨h₁, by decide⟩, h₂⟩

theorem split_at_separator {α : Type} {a : α} {x x' z z' : List α} (hx : a ∉ x) (hx' : a ∉ x')
    (h : x ++ a :: z = x' ++ a :: z') : x = x' ∧ z = z' := by
  induction x generalizing x' with
  | nil =>
    cases x' with
    | nil => exact ⟨rfl, (List.cons.inj h).2⟩
    | cons c x' =>
      obtain ⟨rfl, -⟩ := List.cons.inj h
      exact absurd List.mem_cons_self hx'
  | cons b x ih =>
    cases x' with
    | nil =>
      obtain ⟨rfl, -⟩ := List.cons.inj h
      exact absurd List.mem_cons_self hx
    | cons c x' =>
      obtain ⟨rfl, htail⟩ := List.cons.inj h
      obtain ⟨rfl, rfl⟩ := ih (fun ha => hx (List.mem_cons_of_mem _ ha)) (fun ha => hx' (List.mem_cons_of_mem _ ha)) htail
      exact ⟨rfl, rfl⟩

theorem joinLines_injective {lines lines' : List String} (hlength : lines.length = lines'.length)
    (h : ∀ line ∈ lines, '\n' ∉ line.toList) (h' : ∀ line ∈ lines', '\n' ∉ line.toList)
    (hjoin : joinLines lines = joinLines lines') : lines = lines' := by
  induction lines generalizing lines' with
  | nil =>
    cases lines' with
    | nil => rfl
    | cons line' lines' => simp at hlength
  | cons line lines ih =>
    cases lines' with
    | nil => simp at hlength
    | cons line' lines' =>
      cases lines with
      | nil =>
        cases lines' with
        | nil => rw [String.toList_injective hjoin]
        | cons next' rest' => simp at hlength
      | cons next rest =>
        cases lines' with
        | nil => simp at hlength
        | cons next' rest' =>
          have hline := h line List.mem_cons_self
          have hline' := h' line' List.mem_cons_self
          -- the first newline ends the first line on both sides
          obtain ⟨hhead, htail⟩ := split_at_separator hline hline' hjoin
          rw [String.toList_injective hhead]
          exact congrArg (line' :: ·) (ih (by simpa using hlength) (fun l hl => h l (List.mem_cons_of_mem _ hl))
            (fun l hl => h' l (List.mem_cons_of_mem _ hl)) htail)

/-- **Pages of equal fingerprint and length have the same pairs of identifiers.** -/
theorem fingerprint_perm {sum256 : String → String} (hsum : Function.Injective sum256) {rows rows' : List UserGroupRow}
    (hlength : rows.length = rows'.length) (hplain : ∀ row ∈ rows, row.Plain) (hplain' : ∀ row ∈ rows', row.Plain)
    (h : profilePageFingerprint sum256 rows = profilePageFingerprint sum256 rows') :
    (rows.map UserGroupRow.pair).Perm (rows'.map UserGroupRow.pair) := by
  have hjoin := String.ofList_injective (hsum h)
  have hlines : ∀ {l : List UserGroupRow}, (∀ row ∈ l, row.Plain) →
      ∀ line ∈ (l.map UserGroupRow.identity).mergeSort (fun a b => decide (a ≤ b)), '\n' ∉ line.toList := by
    intro l hl line hline
    rw [List.mem_mergeSort] at hline
    obtain ⟨row, hrow, rfl⟩ := List.mem_map.mp hline
    exact identity_noNewline (hl row hrow)
  have hsorted := joinLines_injective (by simpa using hlength) (hlines hplain) (hlines hplain') hjoin
  have hidentities : (rows.map UserGroupRow.identity).Perm (rows'.map UserGroupRow.identity) :=
    ((List.mergeSort_perm _ _).symm.trans (List.Perm.of_eq hsorted)).trans (List.mergeSort_perm _ _)
  have hpairs : ∀ {l : List UserGroupRow}, (∀ row ∈ l, row.Plain) →
      (l.map UserGroupRow.identity).map pairOfIdentity = l.map UserGroupRow.pair := by
    intro l hl
    rw [List.map_map]
    exact List.map_congr_left fun row hrow => pairOfIdentity_identity (hl row hrow)
  rw [← hpairs hplain, ← hpairs hplain']
  exact hidentities.map pairOfIdentity

end QrCommandCenter.Warwick
