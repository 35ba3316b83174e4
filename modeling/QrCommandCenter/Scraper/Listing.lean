import QrCommandCenter.Store.Presence
import QrCommandCenter.Scraper.Safety

/-!
# Listings and tombstones

The runs of the parents and their children: a run commits its listing and reconciles the lifecycle of its children with it.

* `Family`, `FamilyOp`, `Family.exec` : the store with the listings so far;
* `misses` : the listings in a row that lack a child; `dropped` : a step disables or tombstones it;
* `RunStep` : what a run does to a child, by its listing (`perform_step`);
* `Counters` : both missing counters stay below the misses (`counters_run`);
* `children_kept_iff` : a child is dropped before its threshold exactly in the runs that are `hasty`.
-/

namespace QrCommandCenter.Scraper
open Domain Table Transition Store

variable {p : Presence}

structure ListingRun where
  clocks : CommitClocks
  input : CommitInput
  reconcileAt : Time
  parentVersion : Int
deriving DecidableEq, Repr

/-- The outcome is changed or unchanged, and the run lists the targets it discovers. -/
def ListingRun.complete (run : ListingRun) : Bool :=
  (run.input.outcome = .changed || run.input.outcome = .unchanged) &&
    run.input.seenChildRefs = run.input.discovered.map TargetSeed.ref

structure Listing where
  parent : TargetRef
  seen : List TargetRef
deriving DecidableEq, Repr

/-- The store, and the listings of all parents, the latest first. -/
structure Family where
  store : Store := {}
  history : List Listing := []

/-- The listings in a row, up to the latest, that lack the child. -/
def misses (child : TargetRef) (history : List Listing) : Nat :=
  ((history.filter fun l => childOf l.parent child).takeWhile fun l => child ∉ l.seen).length

/-- A run of a parent, or any transaction that writes no children. -/
inductive FamilyOp where
  | run (run : ListingRun)
  | other (op : Op)

namespace Family

def perform (notificationLength : SnapshotMetadata → Nat) (f : Family) (run : ListingRun) : Except StoreError Family :=
  match f.store.target? run.input.targetID with
  | none => .error (.leaseLost "")
  | some target => do
    let (s, _) ← f.store.commit notificationLength run.clocks run.input
    let s ← s.reconcileLifecycle run.reconcileAt {
      parentRef := target.ref
      parentVersion := run.parentVersion
      discoveredSeeds := run.input.discovered
      seenChildRefs := run.input.seenChildRefs }
    .ok { store := s, history := ⟨target.ref, run.input.seenChildRefs⟩ :: f.history }

def exec (notificationLength : SnapshotMetadata → Nat) (f : Family) : FamilyOp → Family × Bool
  | .run run =>
    if run.complete then
      match f.perform notificationLength run with
      | .ok f' => (f', true)
      | .error _ => (f, false)
    else (f, false)
  | .other op =>
    if movesPresence op then (f, false)
    else ({ f with store := (f.store.exec notificationLength op).1 }, true)

end Family

abbrev FamilyEvent := Event Family FamilyOp Bool

/-- From `p` to `p'` a child was disabled or tombstoned. -/
def gone (p p' : Presence) : Bool := (p.enabled && !p'.enabled) || (p.state ≠ .tombstoned && p'.state = .tombstoned)

/-- The step disables the child, or tombstones it. -/
def dropped (child : TargetRef) (e : FamilyEvent) : Bool :=
  gone ((e.pre.store.presence child).getD {}) ((e.post.store.presence child).getD {})

/-- The commit of the run counts the children that it does not list: it publishes and is no replay. -/
def ListingRun.omits (s : Store) (run : ListingRun) : Bool :=
  (s.run? run.input.targetID run.input.leaseGeneration).isNone && publishes run.input

/-- A published listing lacks an enabled child for the second time, before the misses in a row reach the threshold. -/
def hasty (child : TargetRef) (e : FamilyEvent) : Bool :=
  match e.op, e.out with
  | .run run, true =>
    match e.pre.store.target? run.input.targetID, e.pre.store.presence child with
    | some parent, some p =>
      childOf parent.ref child && child ∉ run.input.seenChildRefs && run.omits e.pre.store &&
        p.enabled && 1 ≤ p.missing && misses child e.pre.history + 1 < tombstoneThresholdForChildKind child.kind
    | _, _ => false
  | _, _ => false

/-! ## What a run does to a child -/

/-- The presence of a child after a run whose listing lacks it; `omits` as for the run. -/
def lackedPresence (child : TargetRef) (omits : Bool) (p : Presence) : Presence :=
  (if omits then p.omitted else p).missed (tombstoneThresholdForChildKind child.kind)

/-- A run of no parent of the child, of a parent that lists it, and of a parent that does not. -/
inductive RunStep (child : TargetRef) (omits : Bool) (parent : TargetRef) (seen : List TargetRef) (f f' : Family) : Prop
  | unrelated (hchild : childOf parent child = false) (hmisses : misses child f'.history = misses child f.history)
      (h : Retained (f.store.presence child) (f'.store.presence child))
  | listed (hchild : childOf parent child = true) (hseen : child ∈ seen) (hmisses : misses child f'.history = 0)
      (h : f'.store.presence child = some {})
  | lacking (hchild : childOf parent child = true) (hseen : child ∉ seen)
      (hmisses : misses child f'.history = misses child f.history + 1)
      (h : f'.store.presence child = (f.store.presence child).map (lackedPresence child omits))

variable {len : SnapshotMetadata → Nat} {child : TargetRef} {f f' : Family} {run : ListingRun}

theorem misses_cons (child : TargetRef) (l : Listing) (history : List Listing) :
    misses child (l :: history) =
      if childOf l.parent child then if child ∈ l.seen then 0 else misses child history + 1
      else misses child history := by
  unfold misses
  cases hchild : childOf l.parent child with
  | false => simp [hchild]
  | true =>
    by_cases hseen : child ∈ l.seen
    · simp [hchild, hseen]
    · simp [hchild, hseen]

theorem perform_inv (h : f.perform len run = .ok f') :
    ∃ parent s result s', f.store.target? run.input.targetID = some parent ∧
      f.store.commit len run.clocks run.input = .ok (s, result) ∧
      s.reconcileLifecycle run.reconcileAt
        ⟨parent.ref, run.parentVersion, run.input.discovered, run.input.seenChildRefs⟩ = .ok s' ∧
      f' = { store := s', history := ⟨parent.ref, run.input.seenChildRefs⟩ :: f.history } := by
  unfold Family.perform at h
  split at h
  · cases h
  · rename_i parent hparent
    obtain ⟨⟨s, result⟩, hcommit, h⟩ := bind_eq_ok.mp h
    obtain ⟨s', hreconcile, h⟩ := bind_eq_ok.mp h
    cases h
    exact ⟨parent, s, result, s', hparent, hcommit, hreconcile, rfl⟩

/-- **A run lists the child, lacks it, or has nothing to do with it.** -/
theorem perform_step (child : TargetRef) (hcomplete : run.complete = true)
    (h : f.perform len run = .ok f') :
    ∃ parent, f.store.target? run.input.targetID = some parent ∧
      RunStep child (run.omits f.store) parent.ref run.input.seenChildRefs f f' := by
  obtain ⟨parent, s, result, s', hparent, hcommit, hreconcile, rfl⟩ := perform_inv h
  have hseeds : run.input.seenChildRefs = run.input.discovered.map TargetSeed.ref := by
    simp only [ListingRun.complete, Bool.and_eq_true, decide_eq_true_eq] at hcomplete
    exact hcomplete.2
  have hcommitted : s.presence child = _ := commit_presence hparent hcommit
  have hreconciled : s'.presence child = _ := reconcileLifecycle_presence hreconcile
  refine ⟨parent, hparent, ?_⟩
  cases hchild : childOf parent.ref child with
  | false =>
    have h₁ : Retained (f.store.presence child) (s.presence child) := by
      rw [hcommitted]
      split
      · exact .inl rfl
      · simp only [committedPresence, hchild, Bool.and_false, Bool.false_eq_true, if_false]
        exact .upserted _ child _
    have h₂ : Retained (s.presence child) (s'.presence child) := by
      rw [hreconciled]
      unfold reconciledPresence
      split
      · exact .inl rfl
      · simp only [hchild, Bool.false_eq_true, if_false]
        exact .upserted _ child _
    exact .unrelated hchild (by simp [misses_cons, hchild]) (h₁.trans h₂)
  | true =>
    have hscope : ¬ (childScope parent.ref).isNone = true := by
      intro hnone
      rw [childOf_of_scope_none (Option.isNone_iff_eq_none.mp hnone)] at hchild
      cases hchild
    simp only [reconciledPresence, if_neg hscope, hchild, if_true, ← hseeds] at hreconciled
    by_cases hseen : child ∈ run.input.seenChildRefs
    · refine .listed hchild hseen (by simp [misses_cons, hchild, hseen]) ?_
      rw [hreconciled, Presence.upserted_of_mem hseen, if_pos hseen]
      rfl
    · refine .lacking hchild hseen (by simp [misses_cons, hchild, hseen]) ?_
      rw [hreconciled, Presence.upserted_of_not_mem hseen, if_neg hseen, hcommitted]
      simp only [committedPresence, hchild, Bool.and_true, ← hseeds, Presence.upserted_of_not_mem hseen, if_neg hseen]
      unfold lackedPresence ListingRun.omits
      cases f.store.run? run.input.targetID run.input.leaseGeneration with
      | some r => simp
      | none => cases publishes run.input <;> simp [Function.comp_def]

inductive FamilyStep (child : TargetRef) (f : Family) : FamilyOp → Family → Bool → Prop
  | idle (op : FamilyOp) : FamilyStep child f op f false
  | other {op : Op} {f' : Family} (hmisses : misses child f'.history = misses child f.history)
      (h : Retained (f.store.presence child) (f'.store.presence child)) : FamilyStep child f (.other op) f' true
  | run {run : ListingRun} {f' : Family} {parent : TargetRow}
      (hparent : f.store.target? run.input.targetID = some parent)
      (h : RunStep child (run.omits f.store) parent.ref run.input.seenChildRefs f f') :
      FamilyStep child f (.run run) f' true

theorem exec_familyStep (len : SnapshotMetadata → Nat) (child : TargetRef) (f : Family) (op : FamilyOp) :
    FamilyStep child f op (f.exec len op).1 (f.exec len op).2 := by
  cases op with
  | run run =>
    simp only [Family.exec]
    split
    · rename_i hcomplete
      split
      · rename_i f' h
        obtain ⟨parent, hparent, hstep⟩ := perform_step child hcomplete h
        exact .run hparent hstep
      · exact .idle _
    · exact .idle _
  | other op =>
    simp only [Family.exec]
    split
    · exact .idle _
    · rename_i hop
      exact .other rfl (exec_presence len f.store (by simpa using hop) child)

/-! ## The counters -/

def Counters (child : TargetRef) (f : Family) : Prop :=
  ∀ p, f.store.presence child = some p → p.missing ≤ misses child f.history ∧ p.consecutive ≤ misses child f.history

theorem Counters.retained (h : Counters child f) (hmisses : misses child f'.history = misses child f.history)
    (hretained : Retained (f.store.presence child) (f'.store.presence child)) : Counters child f' := by
  intro p hp
  rw [hmisses]
  rcases hretained with hsame | hseeded
  · exact h p (hsame ▸ hp)
  · rw [hseeded] at hp
    cases hp
    cases hpre : f.store.presence child with
    | none => exact ⟨Int.natCast_nonneg _, Int.natCast_nonneg _⟩
    | some q => exact ⟨Int.natCast_nonneg _, (h q hpre).2⟩

theorem missed_missing (threshold : Int) (p : Presence) : (p.missed threshold).missing = p.missing := by
  unfold Presence.missed
  split <;> rfl

theorem missed_consecutive_le (threshold : Int) (p : Presence) :
    (p.missed threshold).consecutive ≤ p.consecutive + 1 := by
  unfold Presence.missed
  split
  · omega
  · exact le_refl _

theorem lackedPresence_counters (child : TargetRef) (omits : Bool) (p : Presence) :
    (lackedPresence child omits p).missing ≤ p.missing + 1 ∧
      (lackedPresence child omits p).consecutive ≤ p.consecutive + 1 := by
  unfold lackedPresence
  rw [missed_missing]
  cases omits with
  | false => exact ⟨(lt_add_one p.missing).le, missed_consecutive_le _ p⟩
  | true => exact ⟨min_le_right _ _, missed_consecutive_le _ p.omitted⟩

theorem exec_counters (len : SnapshotMetadata → Nat) (child : TargetRef) (f : Family) (op : FamilyOp)
    (h : Counters child f) : Counters child (f.exec len op).1 := by
  have hstep := exec_familyStep len child f op
  generalize (f.exec len op).1 = f' at hstep ⊢
  generalize (f.exec len op).2 = taken at hstep
  cases hstep with
  | idle => exact h
  | other hmisses hretained => exact h.retained hmisses hretained
  | @run run _ _ hparent hrun =>
    cases hrun with
    | unrelated _ hmisses hretained => exact h.retained hmisses hretained
    | listed _ _ hmisses hpresence =>
      intro p hp
      rw [hpresence] at hp
      cases hp
      exact ⟨Int.natCast_nonneg _, Int.natCast_nonneg _⟩
    | lacking _ _ hmisses hpresence =>
      intro p hp
      rw [hpresence] at hp
      obtain ⟨q, hq, rfl⟩ := Option.map_eq_some_iff.mp hp
      obtain ⟨hmissing, hconsecutive⟩ := h q hq
      have hmoved := lackedPresence_counters child (run.omits f.store) q
      rw [hmisses]
      push_cast
      constructor <;> omega

theorem counters_empty (child : TargetRef) : Counters child {} := fun p hp => by cases hp

/-! ## Children that are dropped -/

theorem gone_self (p : Presence) : gone p p = false := by
  unfold gone
  cases p.enabled <;> simp

theorem gone_retained {p p' : Option Presence} (h : Retained p p') : gone (p.getD {}) (p'.getD {}) = false := by
  rcases h with rfl | rfl
  · exact gone_self _
  · have henabled : (p.getD {}).seeded.enabled = true := rfl
    have hstate : (p.getD {}).seeded.state = (p.getD {}).state := rfl
    simp [gone, henabled, hstate]

/-- A listing that lacks a child drops it when `missing_count` runs out, or the consecutive misses reach the threshold. -/
theorem gone_lacked {omits : Bool} (h : gone p (lackedPresence child omits p) = true) :
    (omits = true ∧ p.enabled = true ∧ 1 ≤ p.missing) ∨ tombstoneThresholdForChildKind child.kind ≤ p.consecutive + 1 := by
  by_contra hneither
  rw [not_or, not_le] at hneither
  obtain ⟨hcounted, hthreshold⟩ := hneither
  have henabled : p.enabled = true → (if omits then p.omitted else p).enabled = true := by
    intro he
    cases omits with
    | false => exact he
    | true =>
      have hfirst : ¬ 1 ≤ p.missing := fun hm => hcounted ⟨rfl, he, hm⟩
      simp [Presence.omitted, hfirst, he]
  have hrest : (if omits then p.omitted else p).consecutive = p.consecutive ∧
      (if omits then p.omitted else p).state = p.state := by
    cases omits <;> exact ⟨rfl, rfl⟩
  unfold gone lackedPresence Presence.missed at h
  rw [hrest.1, hrest.2, if_neg (not_le.mpr hthreshold), if_neg (not_le.mpr hthreshold)] at h
  cases he : p.enabled <;> cases hstate : p.state <;> simp_all

theorem missed_disabled (threshold : Int) (h : p.enabled = false) :
    (p.missed threshold).enabled = false := by
  unfold Presence.missed
  split
  · exact h
  · simp [h]

theorem gone_omitted (henabled : p.enabled = true) (hmissing : 1 ≤ p.missing) :
    gone p (lackedPresence child true p) = true := by
  have hoff : (lackedPresence child true p).enabled = false :=
    missed_disabled _ (if_pos hmissing)
  simp [gone, henabled, hoff]

theorem kept_of_not_dropped {e : FamilyEvent} {P : Prop} (hdropped : dropped child e = false)
    (hhasty : hasty child e = false) : (dropped child e = true → P) ↔ hasty child e = false :=
  iff_of_true (fun h => absurd h (by simp [hdropped])) hhasty

theorem FamilyStep.kept_iff {op : FamilyOp} {taken : Bool} (hstep : FamilyStep child f op f' taken)
    (hcounters : Counters child f) :
    (dropped child ⟨f, op, taken, f'⟩ = true → tombstoneThresholdForChildKind child.kind ≤ misses child f'.history) ↔
      hasty child ⟨f, op, taken, f'⟩ = false := by
  cases hstep with
  | idle => exact kept_of_not_dropped (gone_self _) (by cases op <;> rfl)
  | other hmisses hretained => exact kept_of_not_dropped (gone_retained hretained) rfl
  | @run run _ parent hparent hrun =>
    cases hrun with
    | unrelated hchild _ hretained =>
      refine kept_of_not_dropped (gone_retained hretained) ?_
      simp only [hasty, hparent]
      cases f.store.presence child <;> simp [hchild]
    | listed hchild hseen _ hpresence =>
      refine kept_of_not_dropped ?_ ?_
      · simp [dropped, hpresence, gone]
      · simp only [hasty, hparent, hseen]
        cases f.store.presence child <;> simp
    | lacking hchild hseen hmisses hpresence =>
      cases hp : f.store.presence child with
      | none =>
        refine kept_of_not_dropped ?_ ?_
        · simp [dropped, hpresence, hp, gone_self]
        · simp [hasty, hp]
      | some p =>
        have hdropped : dropped child ⟨f, .run run, true, f'⟩ = gone p (lackedPresence child (run.omits f.store) p) := by
          simp [dropped, hpresence, hp]
        have hhasty : hasty child ⟨f, .run run, true, f'⟩ = true ↔
            (run.omits f.store = true ∧ p.enabled = true ∧ 1 ≤ p.missing) ∧
              (misses child f.history + 1 : Int) < tombstoneThresholdForChildKind child.kind := by
          simp [hasty, hparent, hp, hchild, hseen, and_assoc]
        rw [hdropped, hmisses, ← Bool.not_eq_true, hhasty]
        push_cast
        constructor
        · rintro hkept ⟨⟨homits, henabled, hmissing⟩, hearly⟩
          rw [homits] at hkept
          exact absurd (hkept (gone_omitted henabled hmissing)) (not_le.mpr hearly)
        · intro hnot hgone
          rcases gone_lacked hgone with hcounted | hthreshold
          · by_contra hearly
            exact hnot ⟨hcounted, not_le.mp hearly⟩
          · have hconsecutive := (hcounters p hp).2
            omega

/-- **A child is kept until its threshold unless a run is hasty.** It is disabled or tombstoned only by a run that
completes the misses in a row its kind needs, exactly when no run is hasty. -/
theorem children_kept_iff (notificationLength : SnapshotMetadata → Nat) (child : TargetRef) (ops : List FamilyOp) :
    (∀ e ∈ trace (Family.exec notificationLength) {} ops, dropped child e = true →
        tombstoneThresholdForChildKind child.kind ≤ misses child e.post.history) ↔
      ∀ e ∈ trace (Family.exec notificationLength) {} ops, hasty child e = false := by
  have hstep : ∀ e ∈ trace (Family.exec notificationLength) {} ops,
      ((dropped child e = true → tombstoneThresholdForChildKind child.kind ≤ misses child e.post.history) ↔
        hasty child e = false) := by
    intro e he
    obtain ⟨hcounters, heq⟩ := trace_inv (exec_counters notificationLength child) (counters_empty child) he
    rw [heq]
    exact (exec_familyStep notificationLength child e.pre e.op).kept_iff hcounters
  constructor
  · exact fun h e he => (hstep e he).mp (h e he)
  · exact fun h e he => (hstep e he).mpr (h e he)

/-! ### A course that is dropped early -/

/-- A claim of the catalog and the run that commits and reconciles a new version of it. -/
def catalogListing (generation : Int) (now : Time) (courses : List String) : List FamilyOp :=
  let seeds := (sampleCatalog courses).map (courseSeed catalogRef now)
  [.other (.claimOne [] { ref := catalogRef, now := now, workerID := "a", leaseDuration := minute }),
    .run {
      clocks := ⟨now, now, now⟩
      input := {
        targetID := 1, workerID := "a", leaseGeneration := generation, outcome := .changed
        startedAt := now, finishedAt := now, nextRunAt := now + minute, currentInterval := minute
        consecutiveFailures := 0, recentChanges := [], changed := true, contentHash := generation.toNat
        payload := .document (.catalog (sampleCatalog courses))
        manifest := { complete := true }
        discovered := seeds, seenChildRefs := seeds.map TargetSeed.ref }
      reconcileAt := now
      parentVersion := generation }]

def shrinkingCatalog : List FamilyOp :=
  [.other (.seedHost 0 { host := "h", baselineRequestsPerSecond := 1, burst := 1, baselineConcurrency := 1, now := second }),
    .other (.seed second [{ ref := catalogRef, initialInterval := minute, minInterval := minute, maxInterval := minute
                            maxServeAge := hour, nextRunAt := second }])] ++
    catalogListing 1 (1 * hour) ["1", "2"] ++ catalogListing 2 (2 * hour) ["1"] ++ catalogListing 3 (3 * hour) ["1", "3"]

/-- The second published listing without course 2 disables it, one listing before the threshold of courses. -/
theorem course_dropped_early :
    ¬ ∀ e ∈ trace (Family.exec fun _ => 0) {} shrinkingCatalog,
      dropped { host := "h", kind := .courseDetail, resourceKey := "2" } e = true →
        tombstoneThresholdForChildKind .courseDetail ≤
          misses { host := "h", kind := .courseDetail, resourceKey := "2" } e.post.history := by
  decide +kernel

end QrCommandCenter.Scraper
