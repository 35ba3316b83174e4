import QrCommandCenter.Scraper.Intervals

/-!
# Failed runs

A run whose fetch, classification, canonicalization, validation or confirmation failed commits too. Its commit records the
failure and leaves what is published alone.

* `commitRun_failed` : the commit of a failure without children writes the row of its target and the logs;
* `FailedRow`, `FailureContained` : what it does to the row, and that it does nothing else;
* `reportedRetryAfter`, `DropsRetryAfter` : the pause that the upstream asked for, and the runs that forget it;
* `failure_contained_iff` : the failures of all runs are contained, but for those.
-/

namespace QrCommandCenter.Scraper
open Domain Table Transition

variable {code : Int} {retryAfter : Duration}

/-! ## The commit of a failure -/

/-- The commit of a failure that has discovered nothing: it updates its row, and publishes nothing. -/
theorem commitRun_failed {len : SnapshotMetadata → Nat} {s s' : Store} {now : Time} {input : CommitInput}
    {result : CommitResult} (houtcome : successfulOutcome input.outcome = false) (hdiscovered : input.discovered = [])
    (h : s.commitRun len now input = .ok (s', result)) :
    s'.snapshots = s.snapshots ∧ s'.events = s.events ∧
      s'.targets = updateWhere (fun t => t.id = input.targetID && t.leaseGeneration = input.leaseGeneration)
        (Store.failTarget input) s.targets := by
  have hpublishes : Store.publishes input = false := by rw [Store.publishes, houtcome, Bool.false_and]
  obtain ⟨target, seq, runID, version, s₁, s₂, s₃, s₄, snapshotID, -, -, -, h₁, h₂, h₃, h₄, h₅⟩ := Store.commitRun_inv h
  obtain ⟨-, -, e₁⟩ := Store.insertRun_runRow h₁
  obtain ⟨hsnapshotID, e₂⟩ := Store.insertVersion_ok h₂
  rw [Store.commitSnapshotID, hpublishes] at hsnapshotID
  unfold Store.commitTarget at h₃
  rw [houtcome, if_neg (by decide)] at h₃
  obtain ⟨n, hu⟩ := Store.updateCommitted_ok h₃
  obtain ⟨e₃, -, -⟩ := Store.updateTargets_ok hu
  -- no seeds and no presence: only the candidates are new
  obtain ⟨s₃', h₃', h₄⟩ := bind_eq_ok.mp h₄
  rw [hdiscovered] at h₃'
  cases h₃'
  obtain ⟨s₄', h₄', h₄⟩ := bind_eq_ok.mp h₄
  rw [hpublishes, if_neg (by decide)] at h₄
  cases h₄
  have e₄ := Store.insertCandidates_ok h₄'
  obtain ⟨e₅, -⟩ := Store.announce_ok h₅
  rw [e₅, e₄, e₃, e₂, e₁, hsnapshotID, hpublishes]
  exact ⟨rfl, List.append_nil _, rfl⟩

/-! ## What a failure leaves alone -/

/-- The pause that the upstream asked for with the status it answered. -/
def reportedRetryAfter (fetched : Fetched) : Duration :=
  match fetched.failure with
  | some (.upstreamStatus _ retryAfter) => retryAfter
  | _ => 0

/-- The row of a failed run: what is served stays, the failure is counted, the lease is free, and the pause comes before
the next run. -/
structure FailedRow (run : PendingRun) (t t' : TargetRow) : Prop where
  pointer : t'.pointer = t.pointer
  validated : t'.lastValidatedAt = t.lastValidatedAt
  validators : (t'.etag, t'.lastModified, t'.cacheControl) = (t.etag, t.lastModified, t.cacheControl)
  quality : t'.qualityState = if t.currentSnapshotId.isSome then .degraded else .unavailable
  failures : t'.consecutiveFailures = run.target.consecutiveFailures + 1
  lease : t'.leaseOwner = none ∧ t'.leaseExpiresAt = none
  due : run.env.finishedAt ≤ t'.nextRunAt
  retryAfter : run.input.outcome = .rateLimited ∨ run.input.outcome = .transientError →
    run.env.finishedAt + reportedRetryAfter run.env.fetched ≤ t'.nextRunAt

/-- A failed run changes its own row only, and neither snapshots nor events. -/
structure FailureContained (run : PendingRun) (s s' : Store) : Prop where
  snapshots : s'.snapshots = s.snapshots
  events : s'.events = s.events
  others : ∀ id, id ≠ run.target.id → s'.target? id = s.target? id
  row : ∃ t t', s.target? run.target.id = some t ∧ s'.target? run.target.id = some t' ∧ FailedRow run t t'

/-- The step is the commit of a run that failed, which the store accepts and has not recorded before. -/
structure FailsWith (e : RunEvent) (run : PendingRun) : Prop where
  pending : ∃ k clocks, e.op = .commit k clocks ∧ e.pre.pending[k]? = some run
  failed : successfulOutcome run.input.outcome = false
  unrecorded : e.pre.store.run? run.input.targetID run.input.leaseGeneration = none
  accepted : ∃ result, e.out = .committed result

/-! ## Pauses -/

/-- A status that `classifyFetch` takes for a transient error without naming it. -/
def unlistedStatus (code : Int) : Bool := !(400 ≤ code && code < 500) && !decide (code ∈ [500, 502, 503, 504])

/-- The run was answered by such a status, with a longer pause than the delay it has drawn. -/
def DropsRetryAfter (run : PendingRun) : Prop :=
  ∃ code retryAfter, run.env.fetched.failure = some (.upstreamStatus code retryAfter) ∧ unlistedStatus code = true ∧
    fullJitter (failureDelay (run.target.consecutiveFailures + 1)) run.env.failureDraw < retryAfter

theorem fullJitter_nonneg (cap : Duration) (draw : Nat) : 0 ≤ fullJitter cap draw := by
  unfold fullJitter
  split
  · exact le_refl _
  · rename_i hcap
    exact Int.emod_nonneg _ (by linarith [not_le.mp hcap] : (cap + 1 : Int) ≠ 0)

theorem failureNextRun_ge (now : Time) (outcome : Outcome) (consecutiveFailures : Int) (retryAfter : Duration)
    (draw : Nat) : now ≤ failureNextRun now outcome consecutiveFailures retryAfter draw := by
  have hminutes : (0 : Duration) ≤ 15 * minute := by decide
  have hday : (0 : Duration) ≤ 24 * hour := by decide
  have hhour : (0 : Duration) ≤ hour := by decide
  have hdraw := (fullJitter_nonneg (failureDelay consecutiveFailures) draw).trans (le_max_left _ retryAfter)
  unfold failureNextRun
  split
  · exact le_add_of_nonneg_right (hminutes.trans (le_max_right _ _))
  · exact le_add_of_nonneg_right hminutes
  · exact le_add_of_nonneg_right hday
  · exact le_add_of_nonneg_right hday
  · exact le_add_of_nonneg_right hhour
  · exact le_add_of_nonneg_right hhour
  · exact le_add_of_nonneg_right hdraw

/-- A listed pause is kept: the next run of a rate limit or of a transient error is not before it. -/
theorem failureNextRun_retryAfter {outcome : Outcome} (houtcome : outcome = .rateLimited ∨ outcome = .transientError)
    (now : Time) (consecutiveFailures : Int) (retryAfter : Duration) (draw : Nat) :
    now + retryAfter ≤ failureNextRun now outcome consecutiveFailures retryAfter draw := by
  rcases houtcome with rfl | rfl
  · exact add_le_add (le_refl now) (le_max_left _ _)
  · exact add_le_add (le_refl now) (le_max_right _ _)

/-- A status with a pause is classified with it, is no outcome that waits for it, or is not listed. -/
theorem classifyFetch_status {fetched : Fetched} (h : fetched.failure = some (.upstreamStatus code retryAfter)) :
    (unlistedStatus code = false ∧ ((classifyFetch fetched).retryAfter = retryAfter ∨
        (classifyFetch fetched).outcome ≠ .rateLimited ∧ (classifyFetch fetched).outcome ≠ .transientError)) ∨
      unlistedStatus code = true ∧ (classifyFetch fetched).outcome = .transientError ∧
        (classifyFetch fetched).retryAfter = 0 := by
  unfold classifyFetch
  rw [h]
  simp only
  by_cases h429 : code = 429
  · rw [if_pos h429]
    exact .inl ⟨by rw [h429]; decide, .inl rfl⟩
  rw [if_neg h429]
  by_cases hlisted : code ∈ [408, 425, 500, 502, 503, 504]
  · rw [if_pos hlisted]
    refine .inl ⟨?_, .inl rfl⟩
    simp only [List.mem_cons, List.not_mem_nil, or_false] at hlisted
    rcases hlisted with rfl | rfl | rfl | rfl | rfl | rfl <;> decide
  rw [if_neg hlisted]
  by_cases hgone : code = 404 ∨ code = 410
  · rw [if_pos hgone]
    refine .inl ⟨?_, .inr ⟨(fun h => by cases h), (fun h => by cases h)⟩⟩
    rcases hgone with rfl | rfl <;> decide
  rw [if_neg hgone]
  by_cases hclient : 400 ≤ code ∧ code < 500
  · rw [if_pos hclient]
    refine .inl ⟨?_, .inr ⟨(fun h => by cases h), (fun h => by cases h)⟩⟩
    simp [unlistedStatus, hclient]
  · rw [if_neg hclient]
    refine .inr ⟨?_, rfl, rfl⟩
    simp only [List.mem_cons, List.not_mem_nil, or_false, not_or] at hlisted
    rw [unlistedStatus, Bool.and_eq_true, Bool.not_eq_true', Bool.not_eq_true', decide_eq_false_iff_not]
    refine ⟨by simpa using hclient, ?_⟩
    simp [hlisted]

theorem judge_status {config : Config} {env : RunEnv} {target : ScrapeTarget} {previous : Except StoreError Snapshot}
    (h : env.fetched.failure = some (.upstreamStatus code retryAfter)) :
    (judge config env target previous).outcome = (classifyFetch env.fetched).outcome := by
  unfold judge
  rw [h]

section
variable {config : Config} {run : PendingRun} (hbuilt : run.Built config) (hfailed : successfulOutcome run.input.outcome = false)
include hbuilt hfailed

theorem built_failed :
    run.input.targetID = run.target.id ∧ run.input.discovered = [] ∧
      run.input.consecutiveFailures = run.target.consecutiveFailures + 1 ∧
      run.input.nextRunAt = failureNextRun run.env.finishedAt run.input.outcome (run.target.consecutiveFailures + 1)
        (classifyFetch run.env.fetched).retryAfter run.env.failureDraw := by
  obtain ⟨s, hbuilt⟩ := hbuilt
  obtain ⟨-, hinput⟩ := builtInput_eq_some hbuilt
  rw [hinput] at hfailed ⊢
  simp only [commitInput] at hfailed ⊢
  refine ⟨trivial, ?_, ?_, ?_⟩
  · unfold discovered
    rw [if_neg]
    rintro (h | h) <;> rw [h] at hfailed <;> cases hfailed
  · rw [runFailures, if_neg (by simp [hfailed])]
  · rw [runNextRunAt, if_neg (by simp [hfailed]), runFailures, if_neg (by simp [hfailed])]

/-- **A failed run keeps the pause exactly when it does not drop it.** -/
theorem retryAfter_iff :
    (run.input.outcome = .rateLimited ∨ run.input.outcome = .transientError →
      run.env.finishedAt + reportedRetryAfter run.env.fetched ≤ run.input.nextRunAt) ↔ ¬ DropsRetryAfter run := by
  obtain ⟨-, -, -, hnext⟩ := built_failed hbuilt hfailed
  obtain ⟨s, hbuilt⟩ := hbuilt
  obtain ⟨-, hinput⟩ := builtInput_eq_some hbuilt
  have hdue : run.env.finishedAt ≤ run.input.nextRunAt := hnext ▸ failureNextRun_ge ..
  by_cases hstatus : ∃ code retryAfter, run.env.fetched.failure = some (.upstreamStatus code retryAfter)
  · obtain ⟨code, retryAfter, hstatus⟩ := hstatus
    have hreported : reportedRetryAfter run.env.fetched = retryAfter := by rw [reportedRetryAfter, hstatus]
    have houtcome : run.input.outcome = (classifyFetch run.env.fetched).outcome := by
      rw [hinput]
      exact judge_status hstatus
    have hdrops : DropsRetryAfter run ↔ unlistedStatus code = true ∧
        fullJitter (failureDelay (run.target.consecutiveFailures + 1)) run.env.failureDraw < retryAfter := by
      constructor
      · rintro ⟨code', retryAfter', hstatus', hunlisted, hlt⟩
        rw [hstatus] at hstatus'
        cases hstatus'
        exact ⟨hunlisted, hlt⟩
      · rintro ⟨hunlisted, hlt⟩
        exact ⟨code, retryAfter, hstatus, hunlisted, hlt⟩
    rw [hreported, hdrops]
    rcases classifyFetch_status hstatus with ⟨hlisted, hkept⟩ | ⟨hunlisted, htransient, hdropped⟩
    · refine iff_of_true (fun hwaits => ?_) (fun hunlisted => by rw [hlisted] at hunlisted; cases hunlisted.1)
      rcases hkept with hkept | ⟨hrate, htransient⟩
      · rw [hnext, hkept]
        exact failureNextRun_retryAfter hwaits ..
      · rw [houtcome] at hwaits
        exact absurd hwaits (not_or.mpr ⟨hrate, htransient⟩)
    · -- the class of an unlisted status has no pause, so that only the drawn delay is left
      rw [houtcome, htransient, hdropped] at hnext
      have hdelay : run.input.nextRunAt = run.env.finishedAt +
          fullJitter (failureDelay (run.target.consecutiveFailures + 1)) run.env.failureDraw := by
        rw [hnext]
        show run.env.finishedAt + max _ 0 = _
        rw [max_eq_left (fullJitter_nonneg _ _)]
      rw [hdelay, houtcome, htransient, hunlisted]
      simp
  · have hreported : reportedRetryAfter run.env.fetched = 0 := by
      unfold reportedRetryAfter
      split
      · rename_i code retryAfter hfailure
        exact absurd ⟨code, retryAfter, hfailure⟩ hstatus
      · rfl
    rw [hreported]
    refine iff_of_true (fun _ => by rw [add_zero]; exact hdue) ?_
    rintro ⟨code, retryAfter, hfailure, -⟩
    exact hstatus ⟨code, retryAfter, hfailure⟩

end

/-! ## Every run -/

section Contained
variable {config : Config} {len : SnapshotMetadata → Nat} {w : Coordinators}
variable {run : PendingRun}

theorem failedRow_iff (hbuilt : run.Built config) (hfailed : successfulOutcome run.input.outcome = false)
    (t : TargetRow) :
    FailedRow run t (Store.failTarget run.input t) ↔ ¬ DropsRetryAfter run := by
  obtain ⟨-, -, hfailures, hnext⟩ := built_failed hbuilt hfailed
  have hdue : run.env.finishedAt ≤ run.input.nextRunAt := hnext ▸ failureNextRun_ge ..
  rw [← retryAfter_iff hbuilt hfailed]
  constructor
  · intro h
    exact h.retryAfter
  · intro h
    refine ⟨rfl, rfl, rfl, ?_, hfailures, ⟨rfl, rfl⟩, hdue, h⟩
    simp only [Store.failTarget]
    cases t.currentSnapshotId <;> rfl

theorem exec_failure_contained_iff (op : RunOp) (hsound : w.Sound config)
    (h : FailsWith (Event.of (Coordinators.exec config len) w op) run) :
    FailureContained run w.store (w.exec config len op).1.store ↔ ¬ DropsRetryAfter run := by
  obtain ⟨k, clocks, rfl, hpending⟩ := h.pending
  obtain ⟨result, hout⟩ := h.accepted
  have hpending : w.pending[k]? = some run := hpending
  have hbuilt := (hsound.pending run (List.mem_of_getElem? hpending)).2
  obtain ⟨hid, hdiscovered, -, -⟩ := built_failed hbuilt h.failed
  rcases Coordinators.exec_commit hpending clocks hsound.store.targets with
    ⟨-, hreplay⟩ | ⟨s', target, result', hcommitted, hcommit, hexec⟩
  · exact absurd h.unrecorded (hreplay result hout)
  rw [hexec]
  have hrun : w.store.commitRun len clocks.databaseNow run.input = .ok (s', result') := by
    obtain ⟨_, -, hcommit⟩ := bind_eq_ok.mp hcommit
    rw [Store.existingCommitResult, hcommitted.unrecorded] at hcommit
    exact hcommit
  obtain ⟨hsnapshots, hevents, htargets⟩ := commitRun_failed h.failed hdiscovered hrun
  have hkeeps : ∀ t, (Store.failTarget run.input t).id = t.id := fun _ => rfl
  have hlookup : ∀ id, s'.target? id = (w.store.target? id).map fun t =>
      if t.id = run.input.targetID && t.leaseGeneration = run.input.leaseGeneration then Store.failTarget run.input t
      else t := by
    intro id
    unfold Store.target?
    rw [htargets]
    exact lookup_updateWhere hkeeps _ id
  have hrow : s'.target? run.target.id = some (Store.failTarget run.input target) := by
    rw [← hid, hlookup, hcommitted.locked, Option.map_some, if_pos]
    simp [(lookup_mem hcommitted.locked).2, hcommitted.generation]
  have hlocked := hcommitted.locked
  rw [hid] at hlocked
  rw [← failedRow_iff hbuilt h.failed target]
  constructor
  · rintro ⟨-, -, -, t, t', ht, ht', hfailed⟩
    cases hlocked.symm.trans ht
    cases hrow.symm.trans ht'
    exact hfailed
  · intro hfailed
    refine ⟨hsnapshots, hevents, fun id hne => ?_, target, _, hlocked, hrow, hfailed⟩
    rw [hlookup]
    cases hold : w.store.target? id with
    | none => rfl
    | some t =>
      have hother : t.id ≠ run.input.targetID := by
        rw [(lookup_mem hold).2, hid]
        exact hne
      simp [hother]

end Contained

/-- **A failed run is contained exactly when it does not drop the pause that the upstream asked for.** -/
theorem failure_contained_iff (config : Config) (notificationLength : SnapshotMetadata → Nat) (ops : List RunOp)
    (e : RunEvent) (he : e ∈ trace (Coordinators.exec config notificationLength) {} ops)
    (run : PendingRun) (hfails : FailsWith e run) :
    FailureContained run e.pre.store e.post.store ↔ ¬ DropsRetryAfter run := by
  obtain ⟨hsound, heq⟩ := trace_inv (fun w op hw => Coordinators.exec_sound op hw) (Coordinators.sound_start config) he
  rw [heq] at hfails ⊢
  exact exec_failure_contained_iff e.op hsound hfails

/-! ## A status that is not listed -/

/-- The course is claimed and fetched with this answer. -/
def answeredOps (env : RunEnv) : List RunOp :=
  [.transaction (.seedHost second
      { host := "h", baselineRequestsPerSecond := 1, burst := 1, baselineConcurrency := 1, now := second }),
    .transaction (.seed second [courseSeed catalogRef second { courseID := "c", name := "Course", status := .active }]),
    claimAt courseRef second, .build 0 env]

/-- The upstream answers with this status, and asks for a pause of one hour. -/
def statusEnv (code : Int) : RunEnv where
  startedAt := second
  finishedAt := second
  fetched := { result := {}, failure := some (.upstreamStatus code hour) }

def answered (code : Int) : Coordinators :=
  final (Coordinators.exec sampleConfig fun _ => 0) {} (answeredOps (statusEnv code))

def answeredCommit (code : Int) : RunEvent :=
  Event.of (Coordinators.exec sampleConfig fun _ => 0) (answered code) (.commit 0 (clocksAt second))

theorem answeredCommit_mem (code : Int) :
    answeredCommit code ∈ trace (Coordinators.exec sampleConfig fun _ => 0) {}
      (answeredOps (statusEnv code) ++ [.commit 0 (clocksAt second)]) :=
  mem_trace_snoc _ _ _

theorem failure_contained_iff_unavailable :
    ∃ run, FailsWith (answeredCommit 503) run ∧
      FailureContained run (answeredCommit 503).pre.store (answeredCommit 503).post.store := by
  obtain ⟨run, hrun⟩ : ∃ run, (answered 503).pending[0]? = some run := Option.isSome_iff_exists.mp (by decide +kernel)
  have hfacts : ((answered 503).pending[0]?).all (fun run => !successfulOutcome run.input.outcome &&
      ((answered 503).store.run? run.input.targetID run.input.leaseGeneration).isNone &&
      run.env.fetched.failure = some (.upstreamStatus 503 hour)) = true := by decide +kernel
  rw [hrun, Option.all_some, Bool.and_eq_true, Bool.and_eq_true, Bool.not_eq_true', Option.isNone_iff_eq_none,
    decide_eq_true_eq] at hfacts
  obtain ⟨⟨hfailed, hunrecorded⟩, hstatus⟩ := hfacts
  have hfails : FailsWith (answeredCommit 503) run := by
    refine ⟨⟨0, clocksAt second, rfl, hrun⟩, hfailed, hunrecorded, ⟨{ runID := 1 }, by decide +kernel⟩⟩
  refine ⟨run, hfails, (failure_contained_iff sampleConfig _ _ _ (answeredCommit_mem 503) run hfails).mpr ?_⟩
  rintro ⟨code, retryAfter, hstatus', hunlisted, -⟩
  rw [hstatus] at hstatus'
  cases hstatus'
  cases hunlisted

/-- **A `501 Not Implemented` with a pause of one hour is due again at once.** -/
theorem notImplemented_not_contained :
    ∃ e ∈ trace (Coordinators.exec sampleConfig fun _ => 0) {}
        (answeredOps (statusEnv 501) ++ [.commit 0 (clocksAt second)]),
      ∃ run, FailsWith e run ∧ ¬ FailureContained run e.pre.store e.post.store := by
  obtain ⟨run, hrun⟩ : ∃ run, (answered 501).pending[0]? = some run := Option.isSome_iff_exists.mp (by decide +kernel)
  have hfacts : ((answered 501).pending[0]?).all (fun run => run.input.outcome = .transientError &&
      ((answered 501).store.run? run.input.targetID run.input.leaseGeneration).isNone && run.target.id = 1 &&
      run.env.finishedAt = second && reportedRetryAfter run.env.fetched = hour) = true := by decide +kernel
  rw [hrun, Option.all_some] at hfacts
  simp only [Bool.and_eq_true, decide_eq_true_eq, Option.isNone_iff_eq_none] at hfacts
  obtain ⟨⟨⟨⟨houtcome, hunrecorded⟩, hid⟩, hfinished⟩, hreported⟩ := hfacts
  refine ⟨answeredCommit 501, answeredCommit_mem 501, run, ⟨⟨0, clocksAt second, rfl, hrun⟩, ?_, hunrecorded,
    ⟨{ runID := 1 }, by decide +kernel⟩⟩, ?_⟩
  · rw [houtcome]
    rfl
  · rintro ⟨-, -, -, t, t', -, ht', hrow⟩
    have hdue : ((answeredCommit 501).post.store.target? 1).map TargetRow.nextRunAt = some second := by decide +kernel
    have hwaits := hrow.retryAfter (.inr houtcome)
    rw [hid] at ht'
    rw [ht', Option.map_some, Option.some.injEq] at hdue
    rw [hdue, hfinished, hreported] at hwaits
    exact absurd hwaits (by decide)

end QrCommandCenter.Scraper
