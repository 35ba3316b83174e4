import QrCommandCenter.Scraper.Runs
import QrCommandCenter.Scraper.Safety

/-!
# Intervals and their bounds

A seed clamps the interval of a target to the policy it brings. A commit writes the interval that its run computed from
the policy at the claim, and compares it with nothing.

* `policySeed` : the seed has the intervals of `PolicyFor`, `discovered_policySeed` : so have all children of a run;
* `Coordinators.Bounded` : every interval lies between the bounds of its row;
* `WritesWithin` : the accepted commit of this step writes an interval between the bounds that the row has by then;
* `intervals_bounded_iff` : the intervals stay bounded exactly as long as every accepted commit does so.
-/

namespace QrCommandCenter.Scraper
open Domain Table Transition

variable {seed : TargetSeed} {seeds : List TargetSeed} {t : TargetRow}

/-! ## Seeds with the policy of their kind -/

def Policy.intervals (policy : Policy) : Duration × Duration × Duration × Duration :=
  (policy.initial, policy.min, policy.max, policy.maxServeAge)

/-- The seed has the intervals of `PolicyFor` for its kind and one of the session statuses. -/
def policySeed (seed : TargetSeed) : Bool :=
  [SessionStatus.notStarted, .active, .done].any fun status =>
    (seed.initialInterval, seed.minInterval, seed.maxInterval, seed.maxServeAge) =
      (policyFor seed.ref.kind status).intervals

theorem policySeed_childSeed (ref : TargetRef) (attributes : Attributes) (priority : Int) (status : SessionStatus)
    (now : Time) : policySeed (childSeed ref attributes priority (policyFor ref.kind status) now) = true := by
  unfold policySeed
  rw [List.any_eq_true]
  cases status with
  | notStarted => exact ⟨.notStarted, by simp, decide_eq_true rfl⟩
  | done => exact ⟨.done, by simp, decide_eq_true rfl⟩
  | active => exact ⟨.active, by simp, decide_eq_true rfl⟩
  | authError | other =>
    refine ⟨.active, by simp, decide_eq_true ?_⟩
    unfold childSeed policyFor
    cases ref.kind <;> rfl

theorem policyFor_initial (kind : SnapshotKind) (status : SessionStatus) :
    durationSeconds (policyFor kind status).min ≤ durationSeconds (policyFor kind status).initial ∧
      durationSeconds (policyFor kind status).initial ≤ durationSeconds (policyFor kind status).max := by
  have hcourse : durationSeconds (15 * minute) ≤ durationSeconds hour ∧
      durationSeconds hour ≤ durationSeconds (24 * hour) := by decide
  have hsession : durationSeconds minute ≤ durationSeconds (5 * minute) ∧
      durationSeconds (5 * minute) ≤ durationSeconds (30 * minute) := by decide
  have hprofiles : durationSeconds (6 * hour) ≤ durationSeconds (24 * hour) ∧
      durationSeconds (24 * hour) ≤ durationSeconds (7 * 24 * hour) := by decide
  cases kind with
  | courseCatalog | courseDetail => exact hcourse
  | studentProfiles => exact hprofiles
  | other text => exact ⟨le_refl _, le_refl _⟩
  | sessionDetail =>
    cases status with
    | done | notStarted => decide
    | active | authError | other => exact hsession

theorem policySeed_initial (h : policySeed seed = true) :
    durationSeconds seed.minInterval ≤ durationSeconds seed.initialInterval ∧
      durationSeconds seed.initialInterval ≤ durationSeconds seed.maxInterval := by
  obtain ⟨status, -, heq⟩ := List.any_eq_true.mp h
  rw [decide_eq_true_eq, Policy.intervals, Prod.mk.injEq, Prod.mk.injEq, Prod.mk.injEq] at heq
  obtain ⟨hinitial, hmin, hmax, -⟩ := heq
  rw [hinitial, hmin, hmax]
  exact policyFor_initial seed.ref.kind status

theorem planted_clamped (h : t.Planted seeds) (hseeds : ∀ seed ∈ seeds, policySeed seed = true) : t.Clamped := by
  obtain ⟨seed, hseed, -, hbounds, hinterval⟩ := h.interval
  rcases hinterval with hinterval | hclamped
  · simp only [TargetRow.bounds, seedBounds, Prod.mk.injEq] at hbounds
    unfold TargetRow.Clamped
    rw [hinterval, hbounds.1, hbounds.2.1]
    exact policySeed_initial (hseeds seed hseed)
  · exact hclamped

/-! ## The children of a run -/

theorem mem_jitterSeeds {draw : Nat → Nat} {i : Nat} (h : seed ∈ jitterSeeds draw i seeds) :
    ∃ base ∈ seeds, ∃ next, seed = { base with nextRunAt := next } := by
  induction seeds generalizing i with
  | nil => cases h
  | cons first rest ih =>
    rcases List.mem_cons.mp h with rfl | h
    · exact ⟨first, List.mem_cons_self, _, rfl⟩
    · obtain ⟨base, hbase, hseed⟩ := ih h
      exact ⟨base, List.mem_cons_of_mem first hbase, hseed⟩

theorem courseSeed_policySeed (parent : TargetRef) (now : Time) (course : CourseSummary) :
    policySeed (courseSeed parent now course) = true :=
  policySeed_childSeed _ _ _ _ _

theorem sessionSeed_policySeed (parent : TargetRef) (now : Time) (session : SessionSummary) :
    policySeed (sessionSeed parent now session) = true :=
  policySeed_childSeed _ _ _ _ _

theorem childSeeds_policySeed {parent : TargetRef} {now : Time} {document : Document}
    (hkind : kindOf document = some parent.kind) (h : seed ∈ childSeeds parent now document) :
    policySeed seed = true ∧ seed.ref.kind ≠ parent.kind := by
  cases document with
  | catalog courses =>
    obtain ⟨course, -, rfl⟩ := List.mem_map.mp h
    refine ⟨courseSeed_policySeed parent now course, ?_⟩
    rw [← Option.some.inj hkind]
    exact (fun h => by cases h)
  | course detail =>
    obtain ⟨session, -, rfl⟩ := List.mem_map.mp h
    refine ⟨sessionSeed_policySeed parent now session, ?_⟩
    rw [← Option.some.inj hkind]
    exact (fun h => by cases h)
  | session | profiles | other => cases h

/-- **The children that a run seeds have the policy of their kind**, and none of them is its own target. -/
theorem discovered_policySeed {env : RunEnv} {target : ScrapeTarget} {judgement : Judgement}
    (h : seed ∈ discovered env target judgement) : policySeed seed = true ∧ seed.ref ≠ target.ref := by
  unfold discovered at h
  split at h
  · obtain ⟨base, hbase, next, rfl⟩ := mem_jitterSeeds h
    unfold discoverTargets at hbase
    split at hbase
    · cases hbase
    · rename_i document hdocument
      have hmem := (List.perm_insertionSort _ _).mem_iff.mp hbase
      obtain ⟨hpolicy, hkind⟩ := childSeeds_policySeed (kindOf_document? hdocument) hmem
      exact ⟨hpolicy, fun href => hkind (congrArg TargetRef.kind href)⟩
  · cases h

/-! ## Bounded intervals -/

/-- `min_interval_seconds <= current_interval_seconds <= max_interval_seconds <= max_serve_age_seconds` in every row. -/
def Coordinators.Bounded (w : Coordinators) : Prop :=
  ∀ t ∈ w.store.targets, t.minIntervalSeconds ≤ t.currentIntervalSeconds ∧
    t.currentIntervalSeconds ≤ t.maxIntervalSeconds ∧ t.maxIntervalSeconds ≤ t.maxServeAgeSeconds

instance Coordinators.decidableBounded (w : Coordinators) : Decidable w.Bounded :=
  inferInstanceAs (Decidable (∀ t ∈ w.store.targets, _))

/-- The transactions of the operation seed with the policies of `PolicyFor`. -/
def RunOp.policied : RunOp → Bool
  | .transaction op => op.seeding.all policySeed
  | _ => true

abbrev RunEvent := Event Coordinators RunOp Response

/-- An accepted commit that is no replay writes an interval between the bounds that its row has by then. -/
def WritesWithin (e : RunEvent) : Prop :=
  ∀ k clocks run t, e.op = .commit k clocks → e.pre.pending[k]? = some run →
    e.pre.store.target? run.input.targetID = some t →
    e.pre.store.run? run.input.targetID run.input.leaseGeneration = none → (∃ result, e.out = .committed result) →
    t.minIntervalSeconds ≤ durationSeconds run.input.currentInterval ∧
      durationSeconds run.input.currentInterval ≤ t.maxIntervalSeconds

section Bounded
variable {config : Config} {len : SnapshotMetadata → Nat} {w : Coordinators}

theorem bounded_iff_clamped (hw : w.store.WellFormed) :
    w.Bounded ↔ ∀ id t, w.store.target? id = some t → t.Clamped := by
  constructor
  · intro h id t ht
    obtain ⟨hmin, hmax, -⟩ := h t (lookup_mem ht).1
    exact ⟨hmin, hmax⟩
  · intro h t ht
    have hchecks := hw.sound.checked t ht
    simp only [TargetRow.checks, Bool.and_eq_true, decide_eq_true_eq] at hchecks
    obtain ⟨⟨⟨⟨⟨⟨⟨⟨⟨⟨⟨⟨⟨⟨⟨-, -⟩, -⟩, -⟩, -⟩, -⟩, hserve, -⟩, -⟩, -⟩, -⟩, -⟩, -⟩, -⟩, -⟩, -⟩, -⟩ := hchecks
    obtain ⟨hmin, hmax⟩ := h t.id t (lookup_of_nodup hw.targets.nodup ht)
    exact ⟨hmin, hmax, hserve⟩

theorem touched_clamped {t' : TargetRow} (h : t.Touched seeds t') (ht : t.Clamped) : t'.Clamped := by
  rcases h.interval with heq | ⟨-, hclamped⟩
  · exact ht.congr heq
  · exact hclamped

theorem transaction_bounded {op : Op} (hop : op.isCommit = false) (hseeds : op.seeding.all policySeed = true)
    (hw : w.store.WellFormed) (h : w.Bounded) (claimed : List ScrapeTarget) :
    ({ w with store := (w.store.exec len op).1, claimed := claimed } : Coordinators).Bounded := by
  have hclamped := (bounded_iff_clamped hw).mp h
  have htouched := Store.exec_touched len w.store hop
  refine (bounded_iff_clamped (Store.exec_wellFormed len w.store op hw)).mpr fun id t' ht' => ?_
  cases ht : w.store.target? id with
  | none => exact planted_clamped (htouched.new id t' ht ht') (List.all_eq_true.mp hseeds)
  | some t =>
    obtain ⟨t'', ht'', htouch⟩ := htouched.kept id t ht
    unfold Store.target? at ht'
    rw [ht''] at ht'
    cases ht'
    exact touched_clamped htouch (hclamped id t ht)

theorem committedTarget_interval (input : CommitInput) (nextSnapshotId : Int) (t : TargetRow) :
    (Store.committedTarget input nextSnapshotId t).interval = (durationSeconds input.currentInterval, t.bounds) ∧
      (Store.committedTarget input nextSnapshotId t).ref = t.ref := by
  unfold Store.committedTarget Store.committedRow
  split <;> exact ⟨rfl, rfl⟩

/-- **A commit leaves the intervals bounded exactly when the one it writes lies between the bounds of its row.** -/
theorem committed_bounded_iff {run : PendingRun} {s' : Store} {target : TargetRow} {result : CommitResult}
    (hcommitted : Store.Committed run.input w.store s' target result) (hw : w.store.WellFormed) (hw' : s'.WellFormed)
    (hrun : HeldTarget w.store run.target ∧ run.Built config) (h : w.Bounded) :
    ({ w with store := s' } : Coordinators).Bounded ↔
      target.minIntervalSeconds ≤ durationSeconds run.input.currentInterval ∧
        durationSeconds run.input.currentInterval ≤ target.maxIntervalSeconds := by
  have hclamped := (bounded_iff_clamped hw).mp h
  obtain ⟨hinterval, href⟩ := committedTarget_interval run.input w.store.nextSnapshotId target
  obtain ⟨⟨row, hrow, -, t, ht, htref, -⟩, s, hbuilt⟩ := hrun
  obtain ⟨-, hinput⟩ := builtInput_eq_some hbuilt
  have hid : run.input.targetID = row.id := by rw [hinput, hrow]; rfl
  have hdiscovered : ∀ seed ∈ run.input.discovered, policySeed seed = true ∧ seed.ref ≠ run.target.ref := by
    rw [hinput]
    exact fun seed hseed => discovered_policySeed hseed
  -- the committed row is the one that was claimed
  have htarget : target.ref = run.target.ref := by
    have hlocked := hcommitted.locked
    rw [hid, ht] at hlocked
    rw [← Option.some.inj hlocked, htref, hrow]
    rfl
  have hupdated : Store.updatedRow run.input w.store.nextSnapshotId target =
      Store.committedTarget run.input w.store.nextSnapshotId target := if_pos (lookup_mem hcommitted.locked).2
  refine (bounded_iff_clamped hw').trans ⟨fun hbounded => ?_, fun hwithin id t' ht' => ?_⟩
  · obtain ⟨t', ht', htouched⟩ := hcommitted.rows.kept _ _ hcommitted.locked
    have hclamped' := hbounded _ t' ht'
    rw [hupdated] at htouched
    rcases htouched.interval with heq | ⟨⟨seed, hseed, hseedRef, -⟩, -⟩
    · rw [hinterval] at heq
      simp only [TargetRow.interval, TargetRow.bounds, Prod.mk.injEq] at heq
      obtain ⟨hcurrent, hmin, hmax, -⟩ := heq
      unfold TargetRow.Clamped at hclamped'
      rw [hcurrent, hmin, hmax] at hclamped'
      exact hclamped'
    · exact absurd (hseedRef.trans (href.trans htarget)) (hdiscovered seed hseed).2
  · cases hold : w.store.target? id with
    | none =>
      exact planted_clamped (hcommitted.rows.new id t' hold ht') fun seed hseed => (hdiscovered seed hseed).1
    | some t₀ =>
      obtain ⟨t'', ht'', htouched⟩ := hcommitted.rows.kept id t₀ hold
      unfold Store.target? at ht'
      rw [ht''] at ht'
      cases ht'
      refine touched_clamped htouched ?_
      by_cases hcommittedRow : t₀.id = run.input.targetID
      · have hsame : t₀ = target := by
          have hlocked := hcommitted.locked
          rw [← hcommittedRow, (lookup_mem hold).2, hold] at hlocked
          exact Option.some.inj hlocked
        rw [hsame, hupdated]
        simp only [TargetRow.interval, TargetRow.bounds, Prod.mk.injEq] at hinterval
        unfold TargetRow.Clamped
        rw [hinterval.1, hinterval.2.1, hinterval.2.2.1]
        exact hwithin
      · rw [Store.updatedRow, if_neg hcommittedRow]
        exact hclamped id t₀ hold

theorem exec_bounded_iff (op : RunOp) (hop : op.policied = true) (hsound : w.Sound config) (h : w.Bounded) :
    (w.exec config len op).1.Bounded ↔
      WritesWithin (Event.of (Coordinators.exec config len) w op) := by
  have hvacuous : (∀ k clocks, op ≠ .commit k clocks) →
      WritesWithin (Event.of (Coordinators.exec config len) w op) :=
    fun hne k clocks run t hcommit => absurd hcommit (hne k clocks)
  cases op with
  | transaction op =>
    refine iff_of_true ?_ (hvacuous fun k clocks hcommit => by cases hcommit)
    simp only [Coordinators.exec]
    split
    · exact h
    · rename_i hcommit
      exact transaction_bounded (Bool.not_eq_true _ ▸ hcommit) hop hsound.store h _
  | build k env =>
    refine iff_of_true ?_ (hvacuous fun k clocks hcommit => by cases hcommit)
    simp only [Coordinators.exec]
    split
    · exact h
    · split <;> exact h
  | commit k clocks =>
    cases hpending : w.pending[k]? with
    | none =>
      rw [Coordinators.exec_commit_none hpending]
      refine iff_of_true h fun k' clocks' run t hcommit hrun => ?_
      cases hcommit
      exact absurd (hpending.symm.trans hrun) (by simp)
    | some run =>
      have hrun := hsound.pending run (List.mem_of_getElem? hpending)
      have hsound' : Coordinators.Sound config (w.exec config len (.commit k clocks)).1 :=
        Coordinators.exec_sound _ hsound
      rcases Coordinators.exec_commit hpending clocks hsound.store.targets with
        ⟨hsame, hreplay⟩ | ⟨s', target, result, hcommitted, -, hexec⟩
      · rw [hsame]
        refine iff_of_true h ?_
        rintro k' clocks' run' t hcommit hrun' - hunrecorded ⟨result, hout⟩
        cases hcommit
        cases hpending.symm.trans hrun'
        exact absurd hunrecorded (hreplay result hout)
      · rw [hexec] at hsound' ⊢
        refine (committed_bounded_iff hcommitted hsound.store hsound'.store hrun h).trans ⟨?_, fun hwithin => ?_⟩
        · rintro hwithin k' clocks' run' t hcommit hrun' ht - -
          cases hcommit
          cases hpending.symm.trans hrun'
          cases hcommitted.locked.symm.trans ht
          exact hwithin
        · exact hwithin k clocks run target rfl hpending hcommitted.locked hcommitted.unrecorded
            ⟨result, congrArg Prod.snd hexec⟩

end Bounded

structure BoundedRun (config : Config) (w : Coordinators) : Prop where
  sound : w.Sound config
  bounded : w.Bounded

theorem boundedRun_start (config : Config) : BoundedRun config {} :=
  ⟨Coordinators.sound_start config, List.forall_mem_nil _⟩

def courseWith (status : SessionStatus) : CourseDetail :=
  { sampleCourse [] with sessions := [{ sessionID := "s", status := status }] }

def sessionRef : TargetRef := { host := "h", kind := .sessionDetail, parentKey := "c", resourceKey := "s" }

def claimAt (ref : TargetRef) (now : Time) : RunOp :=
  .transaction (.claimOne [] { ref := ref, now := now, workerID := "a", leaseDuration := hour })

def clocksAt (now : Time) : CommitClocks := ⟨now, now, now⟩

def timedOut (now : Time) : RunEnv where
  startedAt := now
  finishedAt := now
  fetched := { result := {}, failure := some .deadlineExceeded }

/-- The session is listed as done and claimed; then it is listed as active, and its fetch fails. -/
def reseededOps : List RunOp :=
  [.transaction (.seedHost second
      { host := "h", baselineRequestsPerSecond := 1, burst := 1, baselineConcurrency := 1, now := second }),
    .transaction (.seed second [courseSeed catalogRef second { courseID := "c", name := "Course", status := .active }]),
    claimAt courseRef second, .build 0 (sampleFetch (.course (courseWith .done)) second), .commit 0 (clocksAt second),
    claimAt sessionRef second,
    claimAt courseRef hour, .build 2 (sampleFetch (.course (courseWith .active)) hour), .commit 1 (clocksAt hour),
    .build 1 (timedOut hour), .commit 2 (clocksAt hour)]

/-- The run as far as the claim of the session, which then fails. -/
def steadyOps : List RunOp := reseededOps.take 6 ++ [.build 1 (timedOut hour), .commit 1 (clocksAt hour)]

end QrCommandCenter.Scraper
