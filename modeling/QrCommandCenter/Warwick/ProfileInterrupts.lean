import QrCommandCenter.Warwick.ProfileRuns

/-!
# Interrupted fetches of student profiles

* `PagingContract`, `ValidUpstream` : the upstream answers as it should, and requests fail only because they are interrupted;
* `PagesOutcome`, `fetchProfiles_outcome` : how a fetch from such an upstream ends;
* `fetch_interrupted_iff` : when the error is the one of the interruption, and when an invalid payload is reported instead.
-/

namespace QrCommandCenter.Warwick
open Domain Scraper Transition

variable {total : Int} {page : ProfilePage} {sum256 : String → String} {refetch : ProfileAnswer}

/-! ## The contract -/

/-- The failures of a request that is interrupted: the error of its context, or a network error. -/
def IsInterruption (failure : FetchFailure) : Prop :=
  failure = .canceled ∨ failure = .deadlineExceeded ∨ failure = .fetchError .network

/-- The slot that the answers leave for page `p`. -/
def slotOf (answers : List (Nat × ProfileAnswer)) (p : Nat) : PageResult :=
  ((Table.lookup Prod.fst answers p).map fun entry => PageResult.of entry.2).getD {}

def receivedProfiles (first : ProfilePage) (answers : List (Nat × ProfileAnswer)) : List StudentProfile :=
  first.data.map UserGroupRow.trimmed ++
    resultProfiles ((List.range' 1 (expectedPages first.recordsFiltered - 1)).map (slotOf answers))

/-- The responses received so far have consistent counts, correct page sizes and unique identifiers. -/
structure PagingContract (first : ProfilePage) (answers : List (Nat × ProfileAnswer)) : Prop where
  page0 : WellSized first.recordsFiltered 0 first
  pages : ∀ p metadata bytes page, (p, (metadata, bytes, .ok page)) ∈ answers → WellSized first.recordsFiltered p page
  identified : WellIdentified (receivedProfiles first answers)

def RequestFailed (answers : List (Nat × ProfileAnswer)) : Prop :=
  ∃ p metadata bytes failure, (p, (metadata, bytes, .error failure)) ∈ answers

def AllAnswered (first : ProfilePage) (answers : List (Nat × ProfileAnswer)) : Prop :=
  ∀ p, 1 ≤ p → p < expectedPages first.recordsFiltered → ∃ answer, (p, answer) ∈ answers

namespace Crawl
variable {remaining : Nat} {c : Crawl}

theorem Sound.results_eq (h : c.Sound remaining) (hdone : c.isDone = true) :
    c.results = (List.range' 1 remaining).map (slotOf c.answers) := by
  apply List.ext_getElem?
  intro i
  rw [List.getElem?_map]
  cases hi : c.results[i]? with
  | none =>
    have hlength := List.getElem?_eq_none_iff.mp hi
    rw [h.size] at hlength
    rw [List.getElem?_eq_none (by rw [List.length_range']; exact hlength)]
    rfl
  | some result =>
    have hlt := (List.getElem?_eq_some_iff.mp hi).1
    rw [h.size] at hlt
    rw [List.getElem?_range' hlt, Option.map_some, Nat.one_mul, Nat.add_comm 1 i]
    congr 1
    unfold slotOf
    cases hlookup : Table.lookup Prod.fst c.answers (i + 1) with
    | none =>
      rcases h.slots i result hi with hzero | ⟨answer, hmem, -⟩
      · exact hzero
      · exact absurd rfl (Table.lookup_eq_none.mp hlookup _ hmem)
    | some entry =>
      obtain ⟨hmem, hkey⟩ := Table.lookup_mem hlookup
      obtain ⟨p, answer⟩ := entry
      have hp : p = i + 1 := hkey
      subst hp
      have hslot := (h.all_stored hdone hmem).slot
      rw [Nat.add_sub_cancel, hi] at hslot
      exact Option.some.inj hslot

theorem Sound.firstErr_iff (h : c.Sound remaining) (hdone : c.isDone = true) :
    c.firstErr ≠ none ↔ RequestFailed c.answers := by
  constructor
  · intro hfirst
    obtain ⟨⟨failure, metadata⟩, hsome⟩ := Option.ne_none_iff_exists'.mp hfirst
    obtain ⟨p, bytes, hmem⟩ := h.firstErr failure metadata hsome
    exact ⟨p, metadata, bytes, failure, hmem⟩
  · rintro ⟨p, metadata, bytes, failure, hmem⟩
    exact (h.all_stored hdone hmem).noticed failure rfl

end Crawl

/-- Well-sized pages from `number` on have the profiles between their first and their last position. -/
theorem resultProfiles_length {number : Nat} {results : List PageResult}
    (h : ∀ i result, results[i]? = some result → WellSized total (number + i) result.page) :
    ((resultProfiles results).length : Int) =
      min total ((number + results.length : Nat) * profilePageSize) - min total (number * profilePageSize) := by
  induction results generalizing number with
  | nil => simp [resultProfiles]
  | cons result results ih =>
    have hpage := h 0 result rfl
    have hlength := hpage.length
    have hrest := @ih (number + 1) fun i result' hi => by
      rw [Nat.add_assoc, Nat.add_comm 1 i]
      exact h (i + 1) result' hi
    have hsplit : (resultProfiles (result :: results)).length = result.page.data.length + (resultProfiles results).length := by
      simp [resultProfiles]
    obtain ⟨hrows, -⟩ := Table.ite_error_eq_ok.mp hpage.rows
    rw [not_or, not_lt] at hrows
    have hstart := hrows.1
    rw [hsplit, Nat.cast_add, hlength, hrest, List.length_cons]
    unfold expectedProfilePageRows at hstart ⊢
    simp only [profilePageSize, Nat.cast_ofNat, Nat.add_zero] at hstart ⊢
    push_cast
    split_ifs at hstart ⊢ <;> omega

theorem received_length {results : List PageResult} (hpage : WellSized page.recordsFiltered 0 page)
    (hmore : 1 < expectedPages page.recordsFiltered)
    (hcount : results.length = expectedPages page.recordsFiltered - 1)
    (h : ∀ i result, results[i]? = some result → WellSized page.recordsFiltered (1 + i) result.page) :
    ((page.data.map UserGroupRow.trimmed ++ resultProfiles results).length : Int) = page.recordsFiltered := by
  have hfirst := hpage.full hmore
  have hpages : 1 + results.length = expectedPages page.recordsFiltered := by omega
  rw [List.length_append, List.length_map, Nat.cast_add, resultProfiles_length h, hfirst, hpages]
  simp only [expectedPages, profilePageSize, Nat.cast_ofNat] at hmore ⊢
  omega

theorem wellSized_zero (htotal : total ≠ 0) {p : Nat} : ¬ WellSized total p (⟨0, 0, []⟩ : ProfilePage) :=
  fun h => htotal h.reported.symm

theorem recordsFiltered_ne_zero (hmore : 1 < expectedPages total) : total ≠ 0 := by
  rintro rfl
  exact absurd hmore (by decide)

/-- Without a failed request, the pages are accepted exactly when all of them were answered. -/
theorem mergePages_answered {c : Crawl} (hc : c.Sound (expectedPages page.recordsFiltered - 1))
    (hdone : c.isDone = true) (hcontract : PagingContract page c.answers)
    (hmore : 1 < expectedPages page.recordsFiltered) (hfailed : ¬ RequestFailed c.answers) :
    (∃ m, mergePages page.recordsFiltered 1 c.results (.ofProfiles (page.data.map UserGroupRow.trimmed)) = .ok m) ↔
      AllAnswered page c.answers := by
  have hidentified := hcontract.identified
  unfold receivedProfiles at hidentified
  rw [← hc.results_eq hdone] at hidentified
  constructor
  · rintro ⟨m, hm⟩ p hfirst hlast
    obtain ⟨hsizes, -, -⟩ := (mergePages_eq_ok hidentified.of_append).mp hm
    have hlt : p - 1 < c.results.length := by
      rw [hc.size]
      omega
    have hslot := List.getElem?_eq_getElem hlt
    rcases hc.slots (p - 1) _ hslot with hzero | ⟨answer, hmem, -⟩
    · have hsized := hsizes (p - 1) _ hslot
      rw [hzero] at hsized
      exact absurd hsized (wellSized_zero (recordsFiltered_ne_zero hmore))
    · rw [Nat.sub_add_cancel hfirst] at hmem
      exact ⟨answer, hmem⟩
  · intro hall
    refine ⟨_, (mergePages_eq_ok hidentified.of_append).mpr ⟨fun i result hi => ?_, hidentified, rfl⟩⟩
    have hlt := (List.getElem?_eq_some_iff.mp hi).1
    rw [hc.size] at hlt
    obtain ⟨⟨metadata, bytes, read⟩, hmem⟩ := hall (i + 1) (Nat.le_add_left 1 i) (by omega)
    have hslot := (hc.all_stored hdone hmem).slot
    rw [Nat.add_sub_cancel, hi] at hslot
    cases Option.some.inj hslot
    cases read with
    | error failure => exact absurd ⟨_, _, _, _, hmem⟩ hfailed
    | ok other =>
      rw [Nat.add_comm]
      exact hcontract.pages (i + 1) metadata bytes other hmem

namespace ProfileSet
variable {set : ProfileSet} {sum256 : String → String} {first : ProfilePage} {c : Crawl} {m : MergedProfiles}
  {refetch : ProfileAnswer} {bytes fetchedPages : Int} {profiles : List StudentProfile}

theorem finish_total (h : (profiles.length : Int) = set.total) : (set.finish bytes fetchedPages profiles).failure = none := by
  unfold finish
  rw [if_neg (not_not.mpr h)]

theorem compare_error {failure : FetchFailure} (h : refetch.2.2 = .error failure) :
    (set.compare sum256 first bytes refetch profiles).failure = some failure := by
  unfold compare
  rw [h]

theorem compare_answered {again : ProfilePage} (h : refetch.2.2 = .ok again) (hsized : WellSized set.total 0 again)
    (hlength : (profiles.length : Int) = set.total) :
    (set.compare sum256 first bytes refetch profiles).failure =
      if profilePageFingerprint sum256 again.data = profilePageFingerprint sum256 first.data then none
      else some (.fetchError .invalidPayload) := by
  have hrows := hsized.length
  rw [Nat.cast_zero, Int.zero_mul] at hrows
  unfold compare
  rw [h]
  dsimp only
  rw [hsized.counts]
  dsimp only
  by_cases hprint : profilePageFingerprint sum256 again.data = profilePageFingerprint sum256 first.data
  · rw [if_pos hprint, if_neg]
    · exact finish_total hlength
    · simp only [not_or, not_not]
      exact ⟨hsized.reported, hrows, hprint⟩
  · rw [if_neg hprint, if_pos (.inr (.inr hprint))]
    rfl

theorem conclude_firstErr {failure : FetchFailure} {metadata : ResponseMetadata}
    (h : c.firstErr = some (failure, metadata)) :
    (set.conclude sum256 first c m refetch).failure = some failure := by
  unfold conclude
  dsimp only
  rw [h]

theorem conclude_refused (hfirst : c.firstErr = none) (h : ∀ m', mergePages set.total 1 c.results m ≠ .ok m') :
    (set.conclude sum256 first c m refetch).failure = some (.fetchError .invalidPayload) := by
  unfold conclude
  dsimp only
  rw [hfirst]
  dsimp only
  cases hmerge : mergePages set.total 1 c.results m with
  | error e => rfl
  | ok m' => exact absurd hmerge (h m')

theorem conclude_compare (sum256 : String → String) (first : ProfilePage) (refetch : ProfileAnswer)
    (hfirst : c.firstErr = none) {m' : MergedProfiles} (h : mergePages set.total 1 c.results m = .ok m') :
    ∃ bytes, set.conclude sum256 first c m refetch = set.compare sum256 first bytes refetch m'.profiles := by
  unfold conclude
  dsimp only
  rw [hfirst]
  dsimp only
  rw [h]
  exact ⟨_, rfl⟩

end ProfileSet

/-- How the fetch of a set of several pages ends when the responses received meet the contract. -/
inductive PagesOutcome (sum256 : String → String) (page : ProfilePage) (answers : List (Nat × ProfileAnswer))
    (refetch : ProfileAnswer) : Option FetchFailure → Prop
  | failed {p : Nat} {metadata : ResponseMetadata} {bytes : Int} {failure : FetchFailure}
      (h : (p, (metadata, bytes, .error failure)) ∈ answers) : PagesOutcome sum256 page answers refetch (some failure)
  | unanswered (hfailed : ¬ RequestFailed answers) (h : ¬ AllAnswered page answers) :
      PagesOutcome sum256 page answers refetch (some (.fetchError .invalidPayload))
  | refetchFailed {failure : FetchFailure} (hfailed : ¬ RequestFailed answers) (hall : AllAnswered page answers)
      (h : refetch.2.2 = .error failure) : PagesOutcome sum256 page answers refetch (some failure)
  | compared {again : ProfilePage} (hfailed : ¬ RequestFailed answers) (hall : AllAnswered page answers)
      (h : refetch.2.2 = .ok again) :
      PagesOutcome sum256 page answers refetch
        (if profilePageFingerprint sum256 again.data = profilePageFingerprint sum256 page.data then none
        else some (.fetchError .invalidPayload))

theorem conclude_outcome {c : Crawl} {set : ProfileSet} {m : MergedProfiles}
    (hc : c.Sound (expectedPages page.recordsFiltered - 1)) (hdone : c.isDone = true)
    (hcontract : PagingContract page c.answers) (hmore : 1 < expectedPages page.recordsFiltered)
    (hread : readFirstPage page = .ok m) (htotal : set.total = page.recordsFiltered)
    (hagain : ∀ again, refetch.2.2 = .ok again → WellSized page.recordsFiltered 0 again) :
    PagesOutcome sum256 page c.answers refetch (set.conclude sum256 page c m refetch).failure := by
  obtain ⟨hsized, hidentified, rfl⟩ := readFirstPage_eq_ok.mp hread
  by_cases hfailed : RequestFailed c.answers
  · have hfirst := (hc.firstErr_iff hdone).mpr hfailed
    obtain ⟨⟨failure, metadata⟩, hsome⟩ := Option.ne_none_iff_exists'.mp hfirst
    obtain ⟨p, bytes, hmem⟩ := hc.firstErr failure metadata hsome
    rw [ProfileSet.conclude_firstErr hsome]
    exact .failed hmem
  have hfirst : c.firstErr = none := by
    by_contra hne
    exact hfailed ((hc.firstErr_iff hdone).mp hne)
  have hanswered := mergePages_answered hc hdone hcontract hmore hfailed
  rw [← htotal] at hanswered
  by_cases hall : AllAnswered page c.answers
  · obtain ⟨m', hm'⟩ := hanswered.mpr hall
    obtain ⟨bytes, hcompare⟩ := ProfileSet.conclude_compare sum256 page refetch hfirst hm'
    rw [hcompare]
    rw [htotal] at hm'
    obtain ⟨hsizes, -, rfl⟩ := (mergePages_eq_ok hidentified).mp hm'
    have hlength := received_length hsized hmore hc.size hsizes
    rw [← htotal] at hlength
    rw [MergedProfiles.ofProfiles_profiles]
    cases hrefetch : refetch.2.2 with
    | error failure =>
      rw [ProfileSet.compare_error hrefetch]
      exact .refetchFailed hfailed hall hrefetch
    | ok again =>
      have hsizedAgain := hagain again hrefetch
      rw [← htotal] at hsizedAgain
      rw [ProfileSet.compare_answered hrefetch hsizedAgain hlength]
      exact .compared hfailed hall hrefetch
  · rw [ProfileSet.conclude_refused hfirst fun m' hm' => hall (hanswered.mp ⟨m', hm'⟩)]
    exact .unanswered hfailed hall

/-- The responses received meet the contract, and a request fails only because it is interrupted. -/
structure ValidUpstream (first : ProfileAnswer) (ops : List CrawlOp) (refetch : ProfileAnswer) : Prop where
  contract : ∀ page, first.2.2 = .ok page → PagingContract page (crawlAfter page ops).answers
  again : ∀ page again, first.2.2 = .ok page → refetch.2.2 = .ok again → WellSized page.recordsFiltered 0 again
  firstError : ∀ failure, first.2.2 = .error failure → IsInterruption failure
  pageError : ∀ page p metadata bytes failure, first.2.2 = .ok page →
    (p, (metadata, bytes, .error failure)) ∈ (crawlAfter page ops).answers → IsInterruption failure
  refetchError : ∀ failure, refetch.2.2 = .error failure → IsInterruption failure

theorem PagingContract.readFirstPage_ok {answers : List (Nat × ProfileAnswer)} (h : PagingContract page answers) :
    readFirstPage page = .ok (.ofProfiles (page.data.map UserGroupRow.trimmed)) :=
  readFirstPage_eq_ok.mpr ⟨h.page0, h.identified.of_append, rfl⟩

theorem WellSized.single (h : WellSized page.recordsFiltered 0 page) (hone : expectedPages page.recordsFiltered ≤ 1) :
    (page.data.length : Int) = page.recordsFiltered := by
  have hlength := h.length
  have hnonneg := h.nonneg
  have hsmall : ¬ (profilePageSize : Int) < page.recordsFiltered - 0 := by
    simp only [expectedPages, profilePageSize, Nat.cast_ofNat] at hone ⊢
    omega
  rw [Nat.cast_zero, Int.zero_mul, expectedProfilePageRows, if_neg hsmall, Int.sub_zero] at hlength
  exact hlength

theorem fetchProfiles_outcome {first : ProfileAnswer} {ops : List CrawlOp} {fetched : Fetched}
    (hrun : fetchProfiles sum256 first ops refetch = some fetched) (hvalid : ValidUpstream first ops refetch) :
    (∃ failure, first.2.2 = .error failure ∧ fetched.failure = some failure) ∨
      ∃ page, first.2.2 = .ok page ∧
        (expectedPages page.recordsFiltered ≤ 1 ∧ fetched.failure = none ∨
          1 < expectedPages page.recordsFiltered ∧
            PagesOutcome sum256 page (crawlAfter page ops).answers refetch fetched.failure) := by
  rcases fetchProfiles_cases hrun with hfailed | ⟨page, hfirst, set, htotal, hcases⟩
  · exact .inl hfailed
  refine .inr ⟨page, hfirst, ?_⟩
  have hcontract := hvalid.contract page hfirst
  rcases hcases with ⟨hrefused, -⟩ | ⟨m, hread, ⟨hone, rfl⟩ | ⟨hmore, hdone, rfl⟩⟩
  · exact absurd hcontract.readFirstPage_ok (hrefused _)
  · refine .inl ⟨hone, ProfileSet.finish_total ?_⟩
    obtain ⟨hsized, -, rfl⟩ := readFirstPage_eq_ok.mp hread
    rw [htotal, MergedProfiles.ofProfiles_profiles, List.length_map]
    exact hsized.single hone
  · exact .inr ⟨hmore, conclude_outcome (crawlAfter_sound page ops) hdone hcontract hmore hread htotal
      fun again => hvalid.again page again hfirst⟩

theorem fetchProfiles_returns {first : ProfileAnswer} {ops : List CrawlOp} {m : MergedProfiles}
    (hfirst : first.2.2 = .ok page) (hread : readFirstPage page = .ok m) (hdone : (crawlAfter page ops).isDone = true) :
    ∃ fetched, fetchProfiles sum256 first ops refetch = some fetched := by
  unfold crawlAfter at hdone
  unfold fetchProfiles
  rw [hfirst]
  dsimp only
  rw [hread]
  dsimp only
  rw [if_pos hdone]
  split <;> exact ⟨_, rfl⟩

def Interrupted (fetched : Fetched) : Prop := ∃ failure, fetched.failure = some failure ∧ IsInterruption failure

theorem not_interruption_invalidPayload : ¬ IsInterruption (.fetchError .invalidPayload) := by
  rintro (h | h | h) <;> cases h

theorem PagesOutcome.interrupted_iff {answers : List (Nat × ProfileAnswer)} {failure : Option FetchFailure}
    (h : PagesOutcome sum256 page answers refetch failure)
    (hpages : ∀ p metadata bytes error, (p, (metadata, bytes, .error error)) ∈ answers → IsInterruption error)
    (hrefetch : ∀ error, refetch.2.2 = .error error → IsInterruption error) :
    ((∃ error, failure = some error ∧ IsInterruption error) ↔
        RequestFailed answers ∨ AllAnswered page answers ∧ ∃ error, refetch.2.2 = .error error) ∧
      (failure = some (.fetchError .invalidPayload) ↔
        ¬ RequestFailed answers ∧ (¬ AllAnswered page answers ∨ ∃ again, refetch.2.2 = .ok again ∧
          profilePageFingerprint sum256 again.data ≠ profilePageFingerprint sum256 page.data)) := by
  cases h with
  | failed hmem =>
    have hinterrupt := hpages _ _ _ _ hmem
    have hfailed : RequestFailed answers := ⟨_, _, _, _, hmem⟩
    refine ⟨⟨fun _ => .inl hfailed, fun _ => ⟨_, rfl, hinterrupt⟩⟩, ⟨fun heq => ?_, fun h => absurd hfailed h.1⟩⟩
    cases heq
    exact absurd hinterrupt not_interruption_invalidPayload
  | unanswered hfailed hall =>
    refine ⟨⟨?_, ?_⟩, ⟨fun _ => ⟨hfailed, .inl hall⟩, fun _ => rfl⟩⟩
    · rintro ⟨error, heq, hinterrupt⟩
      cases heq
      exact absurd hinterrupt not_interruption_invalidPayload
    · rintro (h | ⟨h, -⟩)
      · exact absurd h hfailed
      · exact absurd h hall
  | refetchFailed hfailed hall hanswer =>
    have hinterrupt := hrefetch _ hanswer
    refine ⟨⟨fun _ => .inr ⟨hall, _, hanswer⟩, fun _ => ⟨_, rfl, hinterrupt⟩⟩, ⟨fun heq => ?_, ?_⟩⟩
    · cases heq
      exact absurd hinterrupt not_interruption_invalidPayload
    · rintro ⟨-, hnot | ⟨again, hagain, -⟩⟩
      · exact absurd hall hnot
      · rw [hanswer] at hagain
        cases hagain
  | @compared again hfailed hall hanswer =>
    have hnoError : ¬ ∃ error, refetch.2.2 = .error error := by
      rintro ⟨error, herror⟩
      rw [hanswer] at herror
      cases herror
    refine ⟨⟨?_, ?_⟩, ⟨fun heq => ⟨hfailed, .inr ⟨again, hanswer, fun hprint => ?_⟩⟩, ?_⟩⟩
    · rintro ⟨error, heq, hinterrupt⟩
      split at heq
      · cases heq
      · cases heq
        exact absurd hinterrupt not_interruption_invalidPayload
    · rintro (h | ⟨-, h⟩)
      · exact absurd h hfailed
      · exact absurd h hnoError
    · rw [if_pos hprint] at heq
      cases heq
    · rintro ⟨-, hnot | ⟨other, hother, hprint⟩⟩
      · exact absurd hall hnot
      · rw [hanswer] at hother
        cases hother
        rw [if_neg hprint]

/-- **When the context of a fetch from a valid upstream ends, the error is that of the interruption exactly when a
request failed; an invalid payload is reported exactly when none failed and a page was left out or page 0 changed.** -/
theorem fetch_interrupted_iff {sum256 : String → String} {first refetch : ProfileAnswer} {ops : List CrawlOp}
    {fetched : Fetched} (hrun : fetchProfiles sum256 first ops refetch = some fetched)
    (hvalid : ValidUpstream first ops refetch) :
    (Interrupted fetched ↔
        (∃ failure, first.2.2 = .error failure) ∨
          ∃ page, first.2.2 = .ok page ∧ 1 < expectedPages page.recordsFiltered ∧
            (RequestFailed (crawlAfter page ops).answers ∨
              AllAnswered page (crawlAfter page ops).answers ∧ ∃ failure, refetch.2.2 = .error failure)) ∧
      (fetched.failure = some (.fetchError .invalidPayload) ↔
        ∃ page, first.2.2 = .ok page ∧ 1 < expectedPages page.recordsFiltered ∧
          ¬ RequestFailed (crawlAfter page ops).answers ∧
          (¬ AllAnswered page (crawlAfter page ops).answers ∨ ∃ again, refetch.2.2 = .ok again ∧
            profilePageFingerprint sum256 again.data ≠ profilePageFingerprint sum256 page.data)) := by
  rcases fetchProfiles_outcome hrun hvalid with ⟨failure, hfirst, hfailure⟩ | ⟨page, hfirst, hcases⟩
  · have hinterrupt := hvalid.firstError failure hfirst
    have hother : failure ≠ .fetchError .invalidPayload := by
      rintro rfl
      exact not_interruption_invalidPayload hinterrupt
    simp [Interrupted, hfirst, hfailure, hinterrupt, hother]
  · -- there is one page 0, so the conditions are about it
    simp only [Interrupted, hfirst, Except.ok.injEq, exists_eq_left', reduceCtorEq, exists_false, false_or]
    rcases hcases with ⟨hone, hnone⟩ | ⟨hmore, houtcome⟩
    · simp [hnone, not_lt.mpr hone]
    · obtain ⟨hinterrupted, hinvalid⟩ := houtcome.interrupted_iff (fun p metadata bytes error =>
        hvalid.pageError page p metadata bytes error hfirst) hvalid.refetchError
      rw [hinterrupted, hinvalid]
      simp [hmore]

/-! ## A worker that finds the context ended -/

/-- An identifier of `n + 1` letters. -/
def letters (n : Nat) : String := String.ofList (List.replicate (n + 1) 'a')

theorem letters_injective : Function.Injective letters := by
  intro i j h
  have hlists := congrArg List.length (String.ofList_injective h)
  simpa using hlists

theorem trimSpace_letters (n : Nat) : trimSpace (letters n) = letters n := by
  have hleft : (List.replicate (n + 1) 'a').dropWhile isSpace = List.replicate (n + 1) 'a' := by
    rw [List.replicate_succ, List.dropWhile_cons_of_neg (by decide)]
  have hright : (List.replicate (n + 1) 'a').rdropWhile isSpace = List.replicate (n + 1) 'a' := by
    rw [List.replicate_succ', List.rdropWhile_concat_neg _ _ _ (by decide)]
  unfold trimSpace letters
  rw [String.toList_ofList, hleft, hright]

def lettersRow (n : Nat) : UserGroupRow := ⟨letters n, letters n, "Student", "School"⟩

theorem lettersRow_trimmed (n : Nat) : (lettersRow n).trimmed = ⟨letters n, letters n, "Student", "School"⟩ := by
  simp [UserGroupRow.trimmed, lettersRow, trimSpace_letters]

theorem lettersRow_identified (ns : List Nat) (h : ns.Nodup) :
    WellIdentified ((ns.map lettersRow).map UserGroupRow.trimmed) := by
  have hids : ∀ ids : List String, ids = ns.map letters → Identifying ids := by
    rintro _ rfl
    refine ⟨fun hmem => ?_, h.map letters_injective⟩
    obtain ⟨n, -, hn⟩ := List.mem_map.mp hmem
    have hlist := congrArg String.toList hn
    rw [letters, String.toList_ofList] at hlist
    cases hlist
  constructor
  · exact hids _ (by simp [lettersRow_trimmed, Function.comp_def])
  · exact hids _ (by simp [lettersRow_trimmed, Function.comp_def])

def lettersPage (rows : Nat) (total : Int) : ProfilePage := ⟨total, total, (List.range rows).map lettersRow⟩

theorem lettersPage_data (rows : Nat) (total : Int) : (lettersPage rows total).data = (List.range rows).map lettersRow := rfl

def twoPagesFirst : ProfilePage := lettersPage 500 501

theorem twoPagesFirst_data : twoPagesFirst.data = (List.range 500).map lettersRow := lettersPage_data 500 501

/-- The context ends before the worker of the second page looks at it. -/
def endsBeforeCheck : List CrawlOp := [.take 0, .expire, .check 0, .take 0]

theorem twoPagesFirst_contract : PagingContract twoPagesFirst [] where
  page0 := by
    refine ⟨Table.ite_error_eq_ok.mpr ⟨?_, rfl⟩, rfl, Table.ite_error_eq_ok.mpr ⟨?_, rfl⟩⟩
    · simp [twoPagesFirst, lettersPage, maxProfileRecords]
    · simp [twoPagesFirst, lettersPage, expectedProfilePageRows, profilePageSize]
  pages := fun p metadata bytes page hmem => absurd hmem List.not_mem_nil
  identified := by
    have hnone : resultProfiles ((List.range' 1 (expectedPages 501 - 1)).map (slotOf [])) = [] := by decide
    show WellIdentified (_ ++ resultProfiles ((List.range' 1 (expectedPages 501 - 1)).map (slotOf [])))
    rw [hnone, List.append_nil, twoPagesFirst_data]
    exact lettersRow_identified (List.range 500) List.nodup_range

theorem endsBeforeCheck_run :
    (crawlAfter twoPagesFirst endsBeforeCheck).answers = [] ∧ (crawlAfter twoPagesFirst endsBeforeCheck).ended = true ∧
      (crawlAfter twoPagesFirst endsBeforeCheck).isDone = true := ⟨rfl, rfl, rfl⟩

theorem twoPagesFirst_valid :
    ValidUpstream ({}, 0, .ok twoPagesFirst) endsBeforeCheck ({}, 0, .error .canceled) := by
  have hpage : ∀ page, (Except.ok twoPagesFirst : Except FetchFailure ProfilePage) = .ok page → page = twoPagesFirst :=
    fun page h => (Except.ok.inj h).symm
  obtain ⟨hanswers, -, -⟩ := endsBeforeCheck_run
  constructor
  case contract =>
    intro page h
    rw [hpage page h, hanswers]
    exact twoPagesFirst_contract
  case again =>
    intro page again _ h
    cases h
  case firstError =>
    intro failure h
    cases h
  case pageError =>
    intro page p metadata bytes failure h hmem
    rw [hpage page h, hanswers] at hmem
    cases hmem
  case refetchError =>
    intro failure h
    cases h
    exact .inl rfl

theorem twoPagesFirst_pages : expectedPages twoPagesFirst.recordsFiltered = 2 := rfl

theorem endsBeforeCheck_returns :
    ∃ fetched, fetchProfiles id ({}, 0, .ok twoPagesFirst) endsBeforeCheck ({}, 0, .error .canceled) = some fetched :=
  fetchProfiles_returns rfl twoPagesFirst_contract.readFirstPage_ok endsBeforeCheck_run.2.2

/-- **A context that ends before a worker asks for its page turns into an invalid payload.** -/
theorem ended_context_invalidPayload :
    ∃ fetched, fetchProfiles id ({}, 0, .ok twoPagesFirst) endsBeforeCheck ({}, 0, .error .canceled) = some fetched ∧
      ValidUpstream ({}, 0, .ok twoPagesFirst) endsBeforeCheck ({}, 0, .error .canceled) ∧
      (crawlAfter twoPagesFirst endsBeforeCheck).ended = true ∧
      fetched.failure = some (.fetchError .invalidPayload) ∧ ¬ Interrupted fetched := by
  obtain ⟨fetched, hrun⟩ := endsBeforeCheck_returns
  obtain ⟨hanswers, hended, -⟩ := endsBeforeCheck_run
  have hinvalid : fetched.failure = some (.fetchError .invalidPayload) := by
    rcases fetchProfiles_outcome hrun twoPagesFirst_valid with ⟨failure, hfirst, -⟩ | ⟨page, hfirst, hcases⟩
    · cases hfirst
    · cases hfirst
      rcases hcases with ⟨hone, -⟩ | ⟨-, houtcome⟩
      · rw [twoPagesFirst_pages] at hone
        exact absurd hone (by decide)
      · rw [hanswers] at houtcome
        have hall : ¬ AllAnswered twoPagesFirst [] := by
          intro hall
          obtain ⟨answer, hmem⟩ := hall 1 (le_refl 1) (by rw [twoPagesFirst_pages]; decide)
          cases hmem
        generalize fetched.failure = failure at houtcome ⊢
        cases houtcome with
        | failed hmem => cases hmem
        | unanswered _ _ => rfl
        | refetchFailed _ h _ | compared _ h _ => exact absurd h hall
  refine ⟨fetched, hrun, twoPagesFirst_valid, hended, hinvalid, ?_⟩
  rintro ⟨failure, heq, hinterrupt⟩
  rw [hinvalid] at heq
  cases heq
  exact not_interruption_invalidPayload hinterrupt

theorem fetch_interrupted_twoPages :
    ∃ fetched, fetchProfiles id ({}, 0, .ok twoPagesFirst) endsBeforeCheck ({}, 0, .error .canceled) = some fetched ∧
      (fetched.failure = some (.fetchError .invalidPayload) ↔
        ∃ page, Except.ok twoPagesFirst = (.ok page : Except FetchFailure ProfilePage) ∧
          1 < expectedPages page.recordsFiltered ∧ ¬ RequestFailed (crawlAfter page endsBeforeCheck).answers ∧
          (¬ AllAnswered page (crawlAfter page endsBeforeCheck).answers ∨
            ∃ again, (.error .canceled : Except FetchFailure ProfilePage) = .ok again ∧
              profilePageFingerprint id again.data ≠ profilePageFingerprint id page.data)) := by
  obtain ⟨fetched, hrun⟩ := endsBeforeCheck_returns
  exact ⟨fetched, hrun, (fetch_interrupted_iff hrun twoPagesFirst_valid).2⟩

end QrCommandCenter.Warwick
