import Mathlib.Algebra.Order.Ring.Rat
import Mathlib.Data.Nat.Cast.Order.Ring

/-!
# The dashboard filters in the URL

`web/src/features/absence-dashboard/lib/filter-params.ts`: the filters of a dashboard view, written to the search
parameters of its URL and read back through `dashboardFiltersSchema`.

* `filtersToSearchParams`, `filtersFromSearchParams` : the two directions;
* `splitList_joinList` : which lists survive the comma-separated encoding;
* `filters_restored_iff` : which filters are restored from their URL.
-/

namespace QrCommandCenter.Web

inductive DashboardSort
  | risk | rateAsc | rateDesc | name
deriving DecidableEq, Repr

def DashboardSort.text : DashboardSort → String
  | .risk => "risk"
  | .rateAsc => "rate-asc"
  | .rateDesc => "rate-desc"
  | .name => "name"

def DashboardSort.parse (text : Option String) : DashboardSort :=
  ([.risk, .rateAsc, .rateDesc, .name].find? fun sort => text = some sort.text).getD .risk

/-- A value that `dashboardFiltersSchema` accepts; `z.number().int()` takes safe integers only. -/
@[ext] structure DashboardFilters where
  courseIds : List String
  dateRange : Option (String × String)
  threshold : Fin (2 ^ 53)
  sortBy : DashboardSort
  wCodes : List String
  nonempty : ∀ id ∈ courseIds, id ≠ ""

/-- The values of `URLSearchParams` at the keys of the dashboard. -/
structure SearchParams where
  courses : Option String
  fromDate : Option String
  toDate : Option String
  threshold : Option String
  sort : Option String
  wCodes : Option String

/-- `String` on safe integers and `Number` on texts, `none` where that is not finite. -/
structure NumberFormat where
  write : Fin (2 ^ 53) → String
  read : String → Option ℚ
  read_write : ∀ n, read (write n) = some n.val

instance instInhabitedNumberFormat : Inhabited NumberFormat :=
  ⟨fun n => String.ofList (List.replicate n.val '1'), fun text => some text.length, by simp⟩

/-! ## Both directions -/

def joinList (texts : List String) : Option String :=
  if texts.length > 0 then some (",".intercalate texts) else none

def splitList : Option String → List String
  | none => []
  | some text => if text = "" then [] else (text.toList.splitOn ',').map String.ofList

def filtersToSearchParams (number : NumberFormat) (filters : DashboardFilters) : SearchParams where
  courses := joinList filters.courseIds
  fromDate := filters.dateRange.map (·.1)
  toDate := filters.dateRange.map (·.2)
  threshold := if filters.threshold.val > 0 then some (number.write filters.threshold) else none
  sort := if filters.sortBy ≠ .risk then some filters.sortBy.text else none
  wCodes := joinList filters.wCodes

def rawThreshold (number : NumberFormat) (text : Option String) : ℚ :=
  (text.elim (some 0) number.read).elim 0 fun n => if n ≥ 0 then n else 0

/-- `filtersFromSearchParams`; `none` where the schema throws. -/
def filtersFromSearchParams (number : NumberFormat) (params : SearchParams) : Option DashboardFilters :=
  let threshold := rawThreshold number params.threshold
  if h : (∀ id ∈ splitList params.courses, id ≠ "") ∧ threshold.den = 1 ∧ threshold.num.toNat < 2 ^ 53 then some {
    courseIds := splitList params.courses
    dateRange := params.fromDate.bind fun start => params.toDate.map fun stop => (start, stop)
    threshold := ⟨threshold.num.toNat, h.2.2⟩
    sortBy := DashboardSort.parse params.sort
    wCodes := splitList params.wCodes
    nonempty := h.1 }
  else none

/-! ## Lists -/

theorem not_mem_of_mem_splitOn {separator : Char} {xs piece : List Char} (h : piece ∈ xs.splitOn separator) :
    separator ∉ piece := by
  by_cases hmem : separator ∈ xs
  · obtain ⟨first, rest, hxs, hfirst⟩ := List.eq_append_cons_of_mem hmem
    rw [hxs, List.splitOn_append_cons_self_of_not_mem hfirst, List.mem_cons] at h
    rcases h with rfl | h
    · exact hfirst
    · exact not_mem_of_mem_splitOn h
  · rw [List.splitOn_eq_singleton hmem, List.mem_singleton] at h
    rwa [h]
termination_by xs.length
decreasing_by
  simp only [hxs, List.length_append, List.length_cons]
  omega

/-- **A list survives unless it has a text with a comma or is the list of one empty text.** -/
theorem splitList_joinList (texts : List String) :
    splitList (joinList texts) = texts ↔ texts ≠ [""] ∧ ∀ text ∈ texts, ',' ∉ text.toList := by
  cases texts with
  | nil => simp [joinList, splitList]
  | cons text rest =>
    have hjoin : joinList (text :: rest) = some (",".intercalate (text :: rest)) := rfl
    rw [hjoin, splitList]
    split
    · -- only the list of one empty text is joined to the empty text
      rename_i hempty
      cases rest with
      | nil => simp_all
      | cons next rest => simp at hempty
    · rename_i hne
      rw [String.toList_intercalate]
      constructor
      · intro h
        refine ⟨?_, fun t ht => ?_⟩
        · rintro hsingle
          simp [hsingle] at hne
        · rw [← h] at ht
          obtain ⟨piece, hpiece, rfl⟩ := List.mem_map.mp ht
          rw [String.toList_ofList]
          exact not_mem_of_mem_splitOn hpiece
      · rintro ⟨-, hfree⟩
        have hpieces : ∀ l ∈ (text :: rest).map String.toList, ',' ∉ l := by
          simpa using hfree
        have hcomma : ",".toList = [','] := rfl
        rw [hcomma, List.splitOn_intercalate ',' hpieces (by simp), List.map_map]
        simp [Function.comp_def]

/-! ## Filters -/

/-- Only the two lists can come back changed. -/
theorem filtersFromSearchParams_to (number : NumberFormat) (filters : DashboardFilters) :
    filtersFromSearchParams number (filtersToSearchParams number filters) =
      if h : ∀ id ∈ splitList (joinList filters.courseIds), id ≠ "" then some { filters with
        courseIds := splitList (joinList filters.courseIds), wCodes := splitList (joinList filters.wCodes), nonempty := h }
      else none := by
  have hthreshold : rawThreshold number (filtersToSearchParams number filters).threshold = filters.threshold.val := by
    unfold rawThreshold filtersToSearchParams
    split
    · simp only [Option.elim_some, number.read_write]
      exact if_pos (Nat.cast_nonneg _)
    · rename_i hzero
      simp [Nat.eq_zero_of_not_pos hzero]
  have hrange : (filtersToSearchParams number filters).fromDate.bind (fun start =>
      (filtersToSearchParams number filters).toDate.map fun stop => (start, stop)) = filters.dateRange := by
    unfold filtersToSearchParams
    cases filters.dateRange <;> rfl
  have hsort : DashboardSort.parse (filtersToSearchParams number filters).sort = filters.sortBy := by
    unfold filtersToSearchParams
    cases filters.sortBy <;> rfl
  unfold filtersFromSearchParams
  simp [hthreshold, hsort, hrange]
  rfl

/-- **Filters are restored from their URL exactly when no course ID or W code has a comma and the W codes are not one
empty text.** -/
theorem filters_restored_iff (number : NumberFormat) (filters : DashboardFilters) :
    filtersFromSearchParams number (filtersToSearchParams number filters) = some filters ↔
      (∀ id ∈ filters.courseIds, ',' ∉ id.toList) ∧ filters.wCodes ≠ [""] ∧
        ∀ code ∈ filters.wCodes, ',' ∉ code.toList := by
  have hids : filters.courseIds ≠ [""] := fun h => filters.nonempty "" (h ▸ List.mem_singleton.mpr rfl) rfl
  rw [← splitList_joinList, ← and_iff_right hids (b := ∀ id ∈ filters.courseIds, _), ← splitList_joinList,
    filtersFromSearchParams_to]
  constructor
  · intro h
    split at h
    · rw [Option.some_inj, DashboardFilters.ext_iff] at h
      exact ⟨h.1, h.2.2.2.2⟩
    · cases h
  · rintro ⟨hcourses, hcodes⟩
    have hne : ∀ id ∈ splitList (joinList filters.courseIds), id ≠ "" := by
      rw [hcourses]
      exact filters.nonempty
    rw [dif_pos hne, Option.some_inj, DashboardFilters.ext_iff]
    exact ⟨hcourses, rfl, rfl, rfl, hcodes⟩

/-- The code `u1,u2` comes back as two. -/
theorem comma_not_restored : ∃ filters : DashboardFilters, filters.wCodes = ["u1,u2"] ∧ ∀ number,
    (filtersFromSearchParams number (filtersToSearchParams number filters)).map (·.wCodes) = some ["u1", "u2"] := by
  refine ⟨⟨[], none, 0, .risk, ["u1,u2"], by simp⟩, rfl, fun number => ?_⟩
  rw [filtersFromSearchParams_to, dif_pos (by simp [joinList, splitList])]
  decide

end QrCommandCenter.Web
