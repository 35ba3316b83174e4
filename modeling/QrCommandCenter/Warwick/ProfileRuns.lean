import Mathlib.Data.List.Nodup
import Mathlib.Algebra.Order.Ring.Int
import QrCommandCenter.Warwick.ProfileMerge
import QrCommandCenter.Lib.Heap
import QrCommandCenter.Lib.Tokens

/-!
# Runs of the page workers

* `CrawlStep`, `step_cases` : what one step of a worker does;
* `Crawl.Sound`, `sound_run` : each page is answered at most once, a slot holds the answer of its page, and the first error is
  one of the answers;
* `CompleteProfiles`, `profiles_complete` : what a fetch without error has read.
-/

namespace QrCommandCenter.Warwick
open Domain Scraper Transition Tokens

/-! ## Steps -/

def CrawlPhase.pending : CrawlPhase → Option Nat
  | .received page => some page
  | .fetching page => some page
  | _ => none

def CrawlPhase.isStoring : CrawlPhase → Bool
  | .storing _ _ => true
  | _ => false

namespace Crawl

inductive CrawlStep (c : Crawl) : Crawl → Prop
  | idle : CrawlStep c c
  | expire : CrawlStep c { c with ended := true }
  /-- a worker moves without an answer, and may take a page with it -/
  | move (starts : List Nat) {w : Nat} {old new : CrawlPhase} (hw : c.workers[w]? = some old)
      (hold : old.isStoring = false) (hnew : new.isStoring = false)
      (hpage : ∀ p, starts.count p + weight new.pending p ≤ c.starts.count p + weight old.pending p) :
      CrawlStep c ({ c with starts := starts }.moveTo w new)
  | reply {w page : Nat} (answer : ProfileAnswer) (hw : c.workers[w]? = some (.fetching page)) :
      CrawlStep c ({ c with answers := c.answers ++ [(page, answer)] }.moveTo w (.storing page answer))
  | store {w page : Nat} {answer : ProfileAnswer} (hw : c.workers[w]? = some (.storing page answer)) :
      CrawlStep c ((c.storeResult page answer).moveTo w .ranging)

theorem step_take (c : Crawl) (w : Nat) : CrawlStep c (c.step (.take w)) := by
  dsimp only [step]
  split
  · next hw hstarts => exact .move c.starts hw rfl rfl fun p => le_refl _
  · next page starts hw hstarts =>
    refine .move starts hw rfl rfl fun p => ?_
    rw [hstarts, List.count_cons]
    show starts.count p + weight (some page) p ≤ starts.count p + _ + 0
    unfold weight
    simp
  · exact .idle

theorem step_check (c : Crawl) (w : Nat) : CrawlStep c (c.step (.check w)) := by
  dsimp only [step]
  split
  · next page hw =>
    split
    · refine .move c.starts hw rfl rfl fun p => ?_
      exact Nat.add_le_add_left (Nat.zero_le _) _
    · exact .move c.starts hw rfl rfl fun p => le_refl _
  · exact .idle

theorem step_cases (c : Crawl) (op : CrawlOp) : CrawlStep c (c.step op) := by
  cases op with
  | expire => exact .expire
  | take w => exact step_take c w
  | check w => exact step_check c w
  | reply w answer =>
    dsimp only [step]
    split
    · next page hw => exact .reply answer hw
    · exact .idle
  | store w =>
    dsimp only [step]
    split
    · next page answer hw => exact .store hw
    · exact .idle

/-! ## The invariant of the workers -/

/-- How often page `p` is still in the channel, with a worker, or answered. -/
def share (c : Crawl) (p : Nat) : Nat :=
  c.starts.count p + holders CrawlPhase.pending c.workers p + (c.answers.map Prod.fst).count p

def Storing (c : Crawl) (p : Nat) (answer : ProfileAnswer) : Prop := ∃ w : Nat, c.workers[w]? = some (.storing p answer)

/-- The slot of the page has its answer, and an error has been noticed. -/
structure Stored (c : Crawl) (p : Nat) (answer : ProfileAnswer) : Prop where
  slot : c.results[p - 1]? = some (.of answer)
  noticed : ∀ failure, answer.2.2 = .error failure → c.firstErr ≠ none

structure Sound (remaining : Nat) (c : Crawl) : Prop where
  size : c.results.length = remaining
  once : ∀ p, c.share p ≤ if 1 ≤ p ∧ p ≤ remaining then 1 else 0
  storing : ∀ p answer, c.Storing p answer → (p, answer) ∈ c.answers
  stored : ∀ p answer, (p, answer) ∈ c.answers → c.Storing p answer ∨ c.Stored p answer
  slots : ∀ (i : Nat) (result : PageResult), c.results[i]? = some result →
    result = {} ∨ ∃ answer, (i + 1, answer) ∈ c.answers ∧ result = .of answer
  firstErr : ∀ failure metadata, c.firstErr = some (failure, metadata) →
    ∃ p bytes, (p, (metadata, bytes, .error failure)) ∈ c.answers

theorem sound_start (remaining : Nat) : Sound remaining (start remaining) where
  size := List.length_replicate
  once := by
    intro p
    have hworkers : holders CrawlPhase.pending (start remaining).workers p = 0 := by
      unfold holders
      rw [List.countP_eq_zero]
      intro phase hphase
      rw [List.eq_of_mem_replicate hphase]
      simp [CrawlPhase.pending]
    have hanswers : ((start remaining).answers.map Prod.fst).count p = 0 := rfl
    rw [share, hworkers, hanswers]
    show (List.range' 1 remaining).count p ≤ _
    split
    · exact List.nodup_iff_count_le_one.mp List.nodup_range' p
    · next hp =>
      rw [Nat.le_zero, List.count_eq_zero]
      intro hmem
      rw [List.mem_range'_1] at hmem
      omega
  storing := by
    rintro p answer ⟨w, hw⟩
    cases List.eq_of_mem_replicate (List.mem_of_getElem? hw)
  stored := fun p answer hmem => absurd hmem List.not_mem_nil
  slots := fun i result hi => .inl (List.eq_of_mem_replicate (List.mem_of_getElem? hi))
  firstErr := by
    intro failure metadata hfirst
    cases hfirst

section Preservation
variable {remaining : Nat} {c : Crawl}
variable {w page : Nat} {answer : ProfileAnswer}

theorem Sound.answered_nodup (h : Sound remaining c) : (c.answers.map Prod.fst).Nodup := by
  rw [List.nodup_iff_count_le_one]
  intro p
  have honce := h.once p
  unfold share at honce
  split at honce <;> omega

theorem Sound.answer_unique (h : Sound remaining c) {p : Nat} {a b : ProfileAnswer} (ha : (p, a) ∈ c.answers)
    (hb : (p, b) ∈ c.answers) : a = b := by
  have hpair := List.inj_on_of_nodup_map h.answered_nodup ha hb rfl
  exact (Prod.mk.inj hpair).2

theorem Sound.answered_range (h : Sound remaining c) {p : Nat} {a : ProfileAnswer} (ha : (p, a) ∈ c.answers) :
    1 ≤ p ∧ p ≤ remaining := by
  have hpos : 0 < (c.answers.map Prod.fst).count p := List.count_pos_iff.mpr (List.mem_map_of_mem ha)
  have honce := h.once p
  unfold share at honce
  split at honce
  · next hp => exact hp
  · omega

theorem Storing.set {c' : Crawl} {old new : CrawlPhase} {p : Nat} (h : c.Storing p answer) (hw : c.workers[w]? = some old)
    (hold : old ≠ .storing p answer) (hc : c'.workers = c.workers.set w new) : c'.Storing p answer := by
  obtain ⟨v, hv⟩ := h
  refine ⟨v, ?_⟩
  rw [hc]
  refine getElem?_set_kept ?_ hv
  rintro rfl
  rw [hw] at hv
  exact hold (Option.some.inj hv)

theorem Sound.move (h : Sound remaining c) (starts : List Nat) {old new : CrawlPhase} (hw : c.workers[w]? = some old)
    (hold : old.isStoring = false) (hnew : new.isStoring = false)
    (hpage : ∀ p, starts.count p + weight new.pending p ≤ c.starts.count p + weight old.pending p) :
    Sound remaining ({ c with starts := starts }.moveTo w new) where
  size := h.size
  once := by
    intro p
    refine le_trans ?_ (h.once p)
    have hset : holders CrawlPhase.pending (c.workers.set w new) p + _ = _ + weight new.pending p := holders_set hw
    have hp := hpage p
    show starts.count p + holders CrawlPhase.pending (c.workers.set w new) p + (c.answers.map Prod.fst).count p ≤
      c.starts.count p + holders CrawlPhase.pending c.workers p + (c.answers.map Prod.fst).count p
    omega
  storing := by
    rintro p answer ⟨v, hv⟩
    rcases getElem?_set_cases hv with ⟨-, rfl⟩ | ⟨-, hv⟩
    · cases hnew
    · exact h.storing p answer ⟨v, hv⟩
  stored := by
    intro p answer hmem
    rcases h.stored p answer hmem with hstoring | hstored
    · refine .inl (hstoring.set hw ?_ rfl)
      rintro rfl
      cases hold
    · exact .inr ⟨hstored.slot, hstored.noticed⟩
  slots := h.slots
  firstErr := h.firstErr

theorem Sound.reply (h : Sound remaining c) (answer : ProfileAnswer) (hw : c.workers[w]? = some (.fetching page)) :
    Sound remaining ({ c with answers := c.answers ++ [(page, answer)] }.moveTo w (.storing page answer)) where
  size := h.size
  once := by
    intro p
    refine le_trans ?_ (h.once p)
    have hset : holders CrawlPhase.pending (c.workers.set w (.storing page answer)) p + weight (some page) p =
        holders CrawlPhase.pending c.workers p + 0 := holders_set hw
    have hcount : ((c.answers ++ [(page, answer)]).map Prod.fst).count p =
        (c.answers.map Prod.fst).count p + weight (some page) p := by
      simp [weight, List.count_append, List.count_singleton]
    show c.starts.count p + holders CrawlPhase.pending (c.workers.set w (.storing page answer)) p +
        ((c.answers ++ [(page, answer)]).map Prod.fst).count p ≤
      c.starts.count p + holders CrawlPhase.pending c.workers p + (c.answers.map Prod.fst).count p
    omega
  storing := by
    rintro p a ⟨v, hv⟩
    rcases getElem?_set_cases hv with ⟨-, heq⟩ | ⟨-, hv⟩
    · cases heq
      exact List.mem_append_right _ List.mem_cons_self
    · exact List.mem_append_left _ (h.storing p a ⟨v, hv⟩)
  stored := by
    intro p a hmem
    rcases List.mem_append.mp hmem with hmem | hnew
    · rcases h.stored p a hmem with hstoring | hstored
      · exact .inl (hstoring.set hw (by simp) rfl)
      · exact .inr ⟨hstored.slot, hstored.noticed⟩
    · cases List.mem_singleton.mp hnew
      exact .inl ⟨w, getElem?_set_same hw⟩
  slots := by
    intro i result hi
    rcases h.slots i result hi with hzero | ⟨a, ha, hresult⟩
    · exact .inl hzero
    · exact .inr ⟨a, List.mem_append_left _ ha, hresult⟩
  firstErr := by
    intro failure metadata hfirst
    obtain ⟨p, bytes, hmem⟩ := h.firstErr failure metadata hfirst
    exact ⟨p, bytes, List.mem_append_left _ hmem⟩

/-! ### Storing an answer -/

theorem storeResult_eq (c : Crawl) (page : Nat) (answer : ProfileAnswer) : ∃ firstErr cancelled,
    c.storeResult page answer =
      { c with results := c.results.set (page - 1) (.of answer), firstErr := firstErr, cancelled := cancelled } ∧
    (c.firstErr ≠ none ∨ (∃ failure, answer.2.2 = .error failure) → firstErr ≠ none) ∧
    ∀ failure metadata, firstErr = some (failure, metadata) →
      c.firstErr = some (failure, metadata) ∨ answer.1 = metadata ∧ answer.2.2 = .error failure := by
  unfold storeResult
  dsimp only
  split
  · next failure hnone hfailure =>
    refine ⟨_, true, rfl, fun _ => Option.some_ne_none _, fun failure' metadata h => ?_⟩
    cases h
    exact .inr ⟨rfl, hfailure⟩
  · next hnot =>
    refine ⟨c.firstErr, c.cancelled, rfl, ?_, fun failure metadata h => .inl h⟩
    rintro (hfirst | ⟨failure, hfailure⟩)
    · exact hfirst
    · exact fun hnone => hnot failure hnone hfailure

theorem Sound.store (h : Sound remaining c) (hw : c.workers[w]? = some (.storing page answer)) :
    Sound remaining ((c.storeResult page answer).moveTo w .ranging) := by
  obtain ⟨firstErr, cancelled, heq, hnoticed, hfirstErr⟩ := storeResult_eq c page answer
  rw [heq]
  have hmem : (page, answer) ∈ c.answers := h.storing page answer ⟨w, hw⟩
  obtain ⟨hfirst, hlast⟩ := h.answered_range hmem
  have hslot : page - 1 < c.results.length := by
    rw [h.size]
    omega
  constructor
  case size => exact List.length_set.trans h.size
  case once =>
    intro p
    have hsame : holders CrawlPhase.pending (c.workers.set w .ranging) p = holders CrawlPhase.pending c.workers p :=
      holders_set_of_eq hw rfl
    have honce := h.once p
    rw [share, ← hsame] at honce
    exact honce
  case storing =>
    rintro p a ⟨v, hv⟩
    rcases getElem?_set_cases hv with ⟨-, heq⟩ | ⟨-, hv⟩
    · cases heq
    · exact h.storing p a ⟨v, hv⟩
  case stored =>
    intro p a ha
    by_cases hp : p = page
    · -- the answer of this page is the one that is stored now
      subst hp
      cases h.answer_unique ha hmem
      exact .inr ⟨List.getElem?_set_self hslot, fun failure hfailure => hnoticed (.inr ⟨failure, hfailure⟩)⟩
    · rcases h.stored p a ha with hstoring | hstored
      · refine .inl (hstoring.set hw ?_ rfl)
        rintro ⟨⟩
        exact hp rfl
      · have hpos := (h.answered_range ha).1
        have hne : page - 1 ≠ p - 1 := by omega
        exact .inr ⟨(List.getElem?_set_ne hne).trans hstored.slot,
          fun failure hfailure => hnoticed (.inl (hstored.noticed failure hfailure))⟩
  case slots =>
    intro i result hi
    rcases getElem?_set_cases hi with ⟨rfl, rfl⟩ | ⟨-, hi⟩
    · rw [Nat.sub_add_cancel hfirst]
      exact .inr ⟨answer, hmem, rfl⟩
    · exact h.slots i result hi
  case firstErr =>
    intro failure metadata herr
    rcases hfirstErr failure metadata herr with hold | ⟨rfl, hfailure⟩
    · exact h.firstErr failure metadata hold
    · refine ⟨page, answer.2.1, ?_⟩
      rw [← hfailure]
      exact hmem

theorem Sound.step (h : Sound remaining c) {c' : Crawl} (hstep : CrawlStep c c') : Sound remaining c' := by
  cases hstep with
  | idle => exact h
  | expire => exact ⟨h.size, h.once, h.storing, fun p a ha => (h.stored p a ha).imp id fun hs => ⟨hs.slot, hs.noticed⟩,
      h.slots, h.firstErr⟩
  | move starts hw hold hnew hpage => exact h.move starts hw hold hnew hpage
  | reply answer hw => exact h.reply answer hw
  | store hw => exact h.store hw

end Preservation

theorem sound_run (remaining : Nat) (ops : List CrawlOp) : Sound remaining (final exec (start remaining) ops) :=
  final_inv (fun c op h => h.step (step_cases c op)) (sound_start remaining) ops

/-- Once the workers have returned, every answer is stored. -/
theorem Sound.all_stored {remaining : Nat} {c : Crawl} (h : Sound remaining c) (hdone : c.isDone = true) {p : Nat}
    {answer : ProfileAnswer} (hmem : (p, answer) ∈ c.answers) : c.Stored p answer := by
  rcases h.stored p answer hmem with ⟨w, hw⟩ | hstored
  · cases List.all_eq_true.mp hdone _ (List.mem_of_getElem? hw)
  · exact hstored

end Crawl

/-! ## The end of a fetch -/

def crawlAfter (page : ProfilePage) (ops : List CrawlOp) : Crawl :=
  final Crawl.exec (Crawl.start (expectedPages page.recordsFiltered - 1)) ops

theorem crawlAfter_sound (page : ProfilePage) (ops : List CrawlOp) :
    (crawlAfter page ops).Sound (expectedPages page.recordsFiltered - 1) := Crawl.sound_run _ ops

/-- **No page is fetched twice**, and none beyond those that the first one promises, whatever the order of the workers. -/
theorem crawlAfter_once (page : ProfilePage) (ops : List CrawlOp) : ((crawlAfter page ops).answers.map Prod.fst).Nodup ∧
    ∀ x ∈ (crawlAfter page ops).answers, 1 ≤ x.1 ∧ x.1 < expectedPages page.recordsFiltered := by
  refine ⟨(crawlAfter_sound page ops).answered_nodup, fun x hx => ?_⟩
  have hrange := (crawlAfter_sound page ops).answered_range hx
  omega

/-- How a fetch ends: page 0 fails or is refused, it is the only page, or the other pages follow. -/
theorem fetchProfiles_cases {sum256 : String → String} {first refetch : ProfileAnswer} {ops : List CrawlOp}
    {fetched : Fetched} (h : fetchProfiles sum256 first ops refetch = some fetched) :
    (∃ failure, first.2.2 = .error failure ∧ fetched.failure = some failure) ∨
      ∃ page, first.2.2 = .ok page ∧ ∃ set : ProfileSet, set.total = page.recordsFiltered ∧
        ((∀ m, readFirstPage page ≠ .ok m) ∧ fetched = set.refuse set.bytes ∨
          ∃ m, readFirstPage page = .ok m ∧
            (expectedPages page.recordsFiltered ≤ 1 ∧ fetched = set.finish set.bytes 1 m.profiles ∨
              1 < expectedPages page.recordsFiltered ∧ (crawlAfter page ops).isDone = true ∧
                fetched = set.conclude sum256 page (crawlAfter page ops) m refetch)) := by
  unfold fetchProfiles at h
  split at h
  · next failure hfirst =>
    cases h
    exact .inl ⟨failure, hfirst, rfl⟩
  · next page hfirst =>
    refine .inr ⟨page, hfirst, ?_⟩
    dsimp only at h
    split at h
    · next e hread =>
      cases h
      refine ⟨_, rfl, .inl ⟨fun m hm => ?_, rfl⟩⟩
      rw [hread] at hm
      cases hm
    · next m hread =>
      split at h
      · next hone =>
        cases h
        exact ⟨_, rfl, .inr ⟨m, hread, .inl ⟨hone, rfl⟩⟩⟩
      · next hmore =>
        split at h
        · next hdone =>
          cases h
          exact ⟨_, rfl, .inr ⟨m, hread, .inr ⟨not_le.mp hmore, hdone, rfl⟩⟩⟩
        · cases h

namespace ProfileSet
variable {set : ProfileSet} {sum256 : String → String} {first : ProfilePage} {c : Crawl} {m : MergedProfiles}
  {refetch : ProfileAnswer} {bytes fetchedPages : Int} {profiles : List StudentProfile}

theorem finish_ok (h : (set.finish bytes fetchedPages profiles).failure = none) :
    (profiles.length : Int) = set.total ∧ (set.finish bytes fetchedPages profiles).result.value = .profiles profiles := by
  unfold finish at h ⊢
  split
  · next hne =>
    rw [if_pos hne] at h
    cases h
  · next heq => exact ⟨not_not.mp heq, rfl⟩

theorem compare_ok (h : (set.compare sum256 first bytes refetch profiles).failure = none) :
    ∃ again, refetch.2.2 = .ok again ∧ (again.data.length : Int) = expectedProfilePageRows set.total 0 ∧
      profilePageFingerprint sum256 again.data = profilePageFingerprint sum256 first.data ∧
      (profiles.length : Int) = set.total ∧
      (set.compare sum256 first bytes refetch profiles).result.value = .profiles profiles := by
  unfold compare at h ⊢
  cases hrefetch : refetch.2.2 with
  | error failure =>
    rw [hrefetch] at h
    cases h
  | ok again =>
    rw [hrefetch] at h
    dsimp only at h ⊢
    cases hcounts : validateProfileRecordCounts again with
    | error e =>
      rw [hcounts] at h
      cases h
    | ok _ =>
      rw [hcounts] at h
      dsimp only at h ⊢
      split at h
      · cases h
      · next hstable =>
        rw [if_neg hstable]
        simp only [not_or, not_not] at hstable
        exact ⟨again, rfl, hstable.2.1, hstable.2.2, finish_ok h⟩

theorem conclude_ok (h : (set.conclude sum256 first c m refetch).failure = none) :
    ∃ m' again, mergePages set.total 1 c.results m = .ok m' ∧ refetch.2.2 = .ok again ∧
      (again.data.length : Int) = expectedProfilePageRows set.total 0 ∧
      profilePageFingerprint sum256 again.data = profilePageFingerprint sum256 first.data ∧
      (m'.profiles.length : Int) = set.total ∧
      (set.conclude sum256 first c m refetch).result.value = .profiles m'.profiles := by
  unfold conclude at h ⊢
  dsimp only at h ⊢
  cases hfirst : c.firstErr with
  | some error =>
    rw [hfirst] at h
    cases h
  | none =>
    rw [hfirst] at h
    dsimp only at h ⊢
    cases hmerge : mergePages set.total 1 c.results m with
    | error e =>
      rw [hmerge] at h
      cases h
    | ok m' =>
      rw [hmerge] at h
      obtain ⟨again, hrefetch, hrest⟩ := compare_ok h
      exact ⟨m', again, rfl, hrefetch, hrest⟩

end ProfileSet

/-! ## Fetches without error -/

/-- The profiles are those of the pages in order; `first` is page 0, `pages` are the others. -/
structure CompleteProfiles (first : ProfilePage) (pages : List ProfilePage) (profiles : List StudentProfile) : Prop where
  total : (profiles.length : Int) = first.recordsFiltered
  identified : WellIdentified profiles
  concatenated : profiles = (first :: pages).flatMap fun page => page.data.map UserGroupRow.trimmed
  full : ∀ number page, (first :: pages)[number]? = some page → number + 1 < (first :: pages).length →
    page.data.length = profilePageSize
  agreed : ∀ page ∈ pages, page.recordsFiltered = first.recordsFiltered

theorem completeProfiles_single {page : ProfilePage} {m : MergedProfiles} (hread : readFirstPage page = .ok m)
    (hlength : (m.profiles.length : Int) = page.recordsFiltered) : CompleteProfiles page [] m.profiles := by
  obtain ⟨-, hidentified, rfl⟩ := readFirstPage_eq_ok.mp hread
  refine ⟨hlength, hidentified, ?_, ?_, ?_⟩
  · rw [List.flatMap_singleton]
    rfl
  · intro number other _ hnumber
    simp at hnumber
  · intro other hother
    cases hother

theorem completeProfiles_pages {page : ProfilePage} {m m' : MergedProfiles} {c : Crawl}
    (hc : c.Sound (expectedPages page.recordsFiltered - 1)) (hread : readFirstPage page = .ok m)
    (hmerge : mergePages page.recordsFiltered 1 c.results m = .ok m')
    (hlength : (m'.profiles.length : Int) = page.recordsFiltered) :
    CompleteProfiles page (c.results.map PageResult.page) m'.profiles := by
  obtain ⟨hsized, hidentified, rfl⟩ := readFirstPage_eq_ok.mp hread
  obtain ⟨hsizes, hall, rfl⟩ := (mergePages_eq_ok hidentified).mp hmerge
  have hpages : (page :: c.results.map PageResult.page).length ≤ expectedPages page.recordsFiltered ∨
      c.results.map PageResult.page = [] := by
    rw [List.length_cons, List.length_map, hc.size, List.map_eq_nil_iff, ← List.length_eq_zero_iff, hc.size]
    omega
  refine ⟨hlength, hall, ?_, ?_, ?_⟩
  · rw [List.flatMap_cons, List.flatMap_map]
    rfl
  · intro number other hother hnumber
    rcases hpages with hpages | hnil
    · have hlast : number + 1 < expectedPages page.recordsFiltered := lt_of_lt_of_le hnumber hpages
      cases number with
      | zero =>
        cases hother
        exact hsized.full hlast
      | succ i =>
        rw [List.getElem?_cons_succ, List.getElem?_map, Option.map_eq_some_iff] at hother
        obtain ⟨result, hresult, rfl⟩ := hother
        have hpage := hsizes i result hresult
        rw [Nat.add_comm] at hpage
        exact hpage.full hlast
    · rw [hnil] at hnumber
      simp at hnumber
  · intro other hother
    obtain ⟨result, hresult, rfl⟩ := List.mem_map.mp hother
    obtain ⟨i, hi⟩ := List.mem_iff_getElem?.mp hresult
    exact (hsizes i result hi).reported

/-- A page that passed the checks is an answer of the upstream, since a slot that was never filled reports no record. -/
theorem result_answered {total : Int} (htotal : total ≠ 0) {remaining : Nat} {c : Crawl} (hc : c.Sound remaining) {i : Nat}
    {result : PageResult} (hi : c.results[i]? = some result) (hreported : result.page.recordsFiltered = total) :
    ∃ metadata bytes, (i + 1, (metadata, bytes, .ok result.page)) ∈ c.answers := by
  rcases hc.slots i result hi with rfl | ⟨answer, hmem, rfl⟩
  · exact absurd hreported.symm htotal
  · obtain ⟨metadata, bytes, read⟩ := answer
    cases read with
    | error failure => exact absurd hreported.symm htotal
    | ok page => exact ⟨metadata, bytes, hmem⟩

def onePage : ProfilePage := ⟨1, 1, [⟨" S-1 ", "G-1", "Student", "School"⟩]⟩

def onePageFetched : Fetched :=
  { result :=
      { value := .profiles [⟨"S-1", "G-1", "Student", "School"⟩], reportedCount := 1, expectedPages := 1,
        fetchedPages := 1 } }

theorem onePage_plain (page : ProfilePage) (h : (Except.ok onePage : Except FetchFailure ProfilePage) = .ok page ∨
    (Except.error .canceled : Except FetchFailure ProfilePage) = .ok page) : ∀ row ∈ page.data, row.Plain := by
  rcases h with h | h
  · cases h
    intro row hrow
    cases List.mem_singleton.mp hrow
    unfold UserGroupRow.Plain PlainIdentifier
    decide +kernel
  · cases h

end QrCommandCenter.Warwick
