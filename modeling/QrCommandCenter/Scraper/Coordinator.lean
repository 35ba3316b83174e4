import QrCommandCenter.Scraper.Judge
import QrCommandCenter.Store.System

/-!
# Runs of the coordinator

`RunClaimedWithRelease` of `internal/scraper/coordinator.go`: a claimed target is fetched and judged, and the run is
stored by an observation of the host, a commit and, after a success, a reconcile of the children.

* `discoverTargets` : the children a value lists;
* `commitInput` : the input of the commit, from the judgement;
* `runClaimed` : the run on the store;
* `Ran`, `runClaimed_ran` : all that a run can do to the store.
-/

namespace QrCommandCenter.Scraper
open Domain

/-! ## Children -/

/-- `SessionStatus(text)`. -/
def sessionStatusOf (text : String) : SessionStatus :=
  if text = "not_started" then .notStarted
  else if text = "active" then .active
  else if text = "done" then .done
  else if text = "auth_error" then .authError
  else .other text

def childSeed (ref : TargetRef) (attributes : Attributes) (priority : Int) (policy : Policy) (now : Time) :
    TargetSeed where
  ref := ref
  attributes := attributes
  priority := priority
  initialInterval := policy.initial
  minInterval := policy.min
  maxInterval := policy.max
  maxServeAge := policy.maxServeAge
  nextRunAt := now

section
variable (parent : TargetRef) (now : Time)

def courseSeed (course : CourseSummary) : TargetSeed :=
  childSeed { host := parent.host, kind := .courseDetail, resourceKey := course.courseID }
    (.object [("course_name", course.name), ("course_status", course.status.text)]) 30
    (policyFor .courseDetail (.other "")) now

def sessionSeed (session : SessionSummary) : TargetSeed :=
  childSeed { host := parent.host, kind := .sessionDetail, parentKey := parent.resourceKey,
              resourceKey := session.sessionID }
    (.object [("session_status", session.status.text)]) (defaultPriority .sessionDetail session.status)
    (policyFor .sessionDetail session.status) now

def childSeeds : Document → List TargetSeed
  | .catalog courses => courses.map (courseSeed parent now)
  | .course detail => detail.sessions.map (sessionSeed parent now)
  | _ => []

end

/-- `discoverTargets`; the references of the seeds are the ones the run has seen. -/
def discoverTargets (parent : TargetRef) (value : Value) (now : Time) : List TargetSeed :=
  match value.document? parent.kind with
  | none => []
  | some document => (childSeeds parent now document).insertionSort fun a b =>
      a.ref.identityKey ≤ b.ref.identityKey

/-- The spread of the children's first runs. -/
def jitterSeeds (draw : Nat → Nat) : Nat → List TargetSeed → List TargetSeed
  | _, [] => []
  | i, seed :: rest => { seed with nextRunAt := seed.nextRunAt + draw i % (5 * minute) } :: jitterSeeds draw (i + 1) rest

/-! ## The input of the commit -/

def policyForTarget (target : ScrapeTarget) : Policy :=
  let policy := policyFor target.ref.kind (sessionStatusOf (target.attributes.field "session_status"))
  { initial := if 0 < target.currentInterval then target.currentInterval else policy.initial
    min := if 0 < target.minInterval then target.minInterval else policy.min
    max := if 0 < target.maxInterval then target.maxInterval else policy.max
    maxServeAge := if 0 < target.maxServeAge then target.maxServeAge else policy.maxServeAge }

def failureNextRun (now : Time) (outcome : Outcome) (consecutiveFailures : Int) (retryAfter : Duration) (draw : Nat) :
    Time :=
  match outcome with
  | .rateLimited => now + max retryAfter (15 * minute)
  | .authError => now + 15 * minute
  | .notFound | .permanentError => now + 24 * hour
  | .invalidPayload | .quarantined => now + hour
  | _ => now + max (fullJitter (failureDelay consecutiveFailures) draw) retryAfter

def rejectionDisposition : Outcome → CandidateDisposition
  | .authError => .rejectedAuthentication
  | .invalidPayload => .rejectedParse
  | _ => .rejectedTransport

/-- The rejection code of a run: the confirmation's, or the error kind of a failure. -/
def lastRejectionCode (judgement : Judgement) : String :=
  if judgement.confirmationRejectionCode ≠ "" then judgement.confirmationRejectionCode
  else if successfulOutcome judgement.outcome then ""
  else judgement.errorKind

section
variable (env : RunEnv) (target : ScrapeTarget)

def fetchEvidence (disposition : CandidateDisposition) (rejectionCode : String) :
    ScrapeCandidate :=
  let result := env.fetched.result
  { targetID := target.id
    leaseGeneration := target.leaseGeneration
    attemptNumber := 1
    fetchedAt := env.finishedAt
    requestID := env.requestID
    httpStatus := (classifyFetch env.fetched).statusCode.getD 0
    contentType := result.metadata.contentType
    contentLength := result.bytesRead
    etag := result.metadata.etag
    lastModified := result.metadata.lastModified
    rawBodyHash := result.metadata.rawBodyHash
    parserVersion := parserVersion
    schemaVersion := schemaVersion
    canonicalizerVersion := canonicalizerVersion
    disposition := disposition
    rejectionCode := rejectionCode }

def valueCandidate (judgement : Judgement) (disposition : CandidateDisposition)
    (rejectionCode : String) : ScrapeCandidate :=
  { fetchEvidence env target disposition rejectionCode with
    canonicalHash := hexEncode judgement.contentHash
    payload := judgement.payload
    manifest := judgement.manifest
    validation := judgement.validation
    confirmationGroupUUID := judgement.confirmationGroup }

def candidates (judgement : Judgement) : List ScrapeCandidate :=
  judgement.evidence ++ match judgement.outcome with
  | .changed => [valueCandidate env target judgement .accepted ""]
  | .unchanged => [valueCandidate env target judgement .unchanged ""]
  | .quarantined => [valueCandidate env target judgement .quarantinedAnomaly (lastRejectionCode judgement)]
  | .rateLimited | .authError | .notFound | .permanentError | .transientError | .invalidPayload =>
    [fetchEvidence env target (rejectionDisposition judgement.outcome) judgement.errorKind]
  | _ => []

/-- The children a run has seen. Only a listing that was fetched counts: a 304 brings none. -/
def discovered (judgement : Judgement) : List TargetSeed :=
  if judgement.outcome = .changed ∨ judgement.outcome = .unchanged then
    jitterSeeds env.childDraw 0 (discoverTargets target.ref env.fetched.result.value env.finishedAt)
  else []

end

def runSchedule (target : ScrapeTarget) (judgement : Judgement) : Schedule :=
  if successfulOutcome judgement.outcome then
    nextSchedule (policyForTarget target) target.currentInterval target.recentChanges
      (judgement.outcome = .changed)
  else { interval := target.currentInterval, history := target.recentChanges }

def runFailures (target : ScrapeTarget) (judgement : Judgement) : Int :=
  if successfulOutcome judgement.outcome then 0 else target.consecutiveFailures + 1

section
variable (env : RunEnv) (target : ScrapeTarget) (judgement : Judgement)

def runNextRunAt : Time :=
  if successfulOutcome judgement.outcome then
    env.finishedAt + applyJitter (runSchedule target judgement).interval (1 / 10) env.intervalDraw
  else failureNextRun env.finishedAt judgement.outcome (runFailures target judgement)
    (classifyFetch env.fetched).retryAfter env.failureDraw

/-- The `CommitInput` of a run. A quarantined run commits no payload, hash or manifest: its candidates have them. -/
def commitInput : CommitInput :=
  let quarantined := judgement.outcome = .quarantined
  let seeds := discovered env target judgement
  { targetID := target.id
    workerID := target.leaseOwner
    leaseGeneration := target.leaseGeneration
    outcome := judgement.outcome
    startedAt := env.startedAt
    finishedAt := env.finishedAt
    bytesRead := env.fetched.result.bytesRead
    nextRunAt := runNextRunAt env target judgement
    currentInterval := (runSchedule target judgement).interval
    consecutiveFailures := runFailures target judgement
    recentChanges := (runSchedule target judgement).history
    validatedAt := if successfulOutcome judgement.outcome then some env.finishedAt else none
    validationSeqAfter := if successfulOutcome judgement.outcome then some (target.validationSeq + 1) else none
    etag := env.fetched.result.metadata.etag
    lastModified := env.fetched.result.metadata.lastModified
    cacheControl := env.fetched.result.metadata.cacheControl
    changed := judgement.changed
    contentHash := if quarantined then 0 else judgement.contentHash
    payload := if quarantined then .empty else judgement.payload
    discovered := seeds
    seenChildRefs := seeds.map TargetSeed.ref
    recordsCount := judgement.recordsCount
    manifest := if quarantined then {} else judgement.manifest
    validation := if quarantined then {} else judgement.validation
    parserVersion := parserVersion
    schemaVersion := schemaVersion
    rawBodyHash := env.fetched.result.metadata.rawBodyHash
    lastRejectionCode := lastRejectionCode judgement
    candidates := candidates env target judgement }

def runObservation : HostObservation where
  host := target.ref.host
  outcome := judgement.outcome
  retryAfter := (classifyFetch env.fetched).retryAfter
  consecutiveFailures := runFailures target judgement
  observedAt := env.finishedAt

end

def reconcileInput (target : ScrapeTarget) (input : CommitInput) (result : CommitResult) : LifecycleReconcileInput where
  parentRef := target.ref
  parentVersion := (result.snapshot.map Snapshot.version).getD target.currentVersion
  discoveredSeeds := input.discovered
  seenChildRefs := input.seenChildRefs

/-! ## The run -/

structure RunClocks where
  commit : CommitClocks
  reconcile : Time
  release : Time

inductive RunReport where
  | rejected (err : StoreError)
  | canceled
  | commitFailed (err : StoreError)
  | finished (judgement : Judgement) (commit : CommitResult)
deriving DecidableEq, Repr

def previousSnapshot (s : Store) (env : RunEnv) (ref : TargetRef) : Except StoreError Snapshot :=
  if env.previousUnreadable then .error .snapshotNotFound
  else match s.current ref with
  | .ok snapshot => .ok snapshot
  | .error _ => .error .snapshotNotFound

theorem previousSnapshot_ok {s : Store} {env : RunEnv} {ref : TargetRef} {snapshot : Snapshot}
    (h : previousSnapshot s env ref = .ok snapshot) : s.current ref = .ok snapshot := by
  unfold previousSnapshot at h
  split at h
  · cases h
  · split at h
    · next hcurrent => exact hcurrent.trans h
    · cases h

/-- `RunClaimedWithRelease`. -/
def runClaimed (config : Config) (notificationLength : SnapshotMetadata → Nat) (s : Store) (target : ScrapeTarget)
    (env : RunEnv) (clocks : RunClocks) : Store × RunReport :=
  if target.id ≤ 0 ∨ target.leaseGeneration ≤ 0 then (s, .rejected (.leaseLost ""))
  else match target.ref.validate with
  | .error err => (s, .rejected err)
  | .ok () =>
    if env.canceled || env.fetched.failure = some .canceled then
      ((s.settle (s.releaseLease clocks.release ⟨target.id, target.leaseGeneration⟩)).1, .canceled)
    else
      let judgement := judge config env target (previousSnapshot s env target.ref)
      let input := commitInput env target judgement
      let s := (s.settle (s.observeHost (runObservation env target judgement))).1
      match s.commit notificationLength clocks.commit input with
      | .error err => (s, .commitFailed err)
      | .ok (s, result) =>
        let s := if successfulOutcome judgement.outcome then
          (s.settle (s.reconcileLifecycle clocks.reconcile (reconcileInput target input result))).1 else s
        (s, .finished judgement result)

/-! ## All that a run can do -/

section Ran
variable (config : Config) (notificationLength : SnapshotMetadata → Nat) (s : Store) (target : ScrapeTarget)
  (env : RunEnv) (clocks : RunClocks)

def runJudgement : Judgement := judge config env target (previousSnapshot s env target.ref)

inductive Ran : Store × RunReport → Prop where
  | refused (err : StoreError) : Ran (s, .rejected err)
  | canceled (s' : Store) (h : Store.TargetsEffect TargetRow.LeaseMoved s s') : Ran (s', .canceled)
  | commitFailed (s₁ : Store) (err : StoreError) (hhost : Store.HostsOnly s s₁) : Ran (s₁, .commitFailed err)
  | failed (s₁ s₂ : Store) (result : CommitResult) (hhost : Store.HostsOnly s s₁)
      (hcommit : s₁.commit notificationLength clocks.commit (commitInput env target (runJudgement config s target env)) =
        .ok (s₂, result))
      (houtcome : successfulOutcome (runJudgement config s target env).outcome = false) :
      Ran (s₂, .finished (runJudgement config s target env) result)
  | succeeded (s₁ s₂ : Store) (result : CommitResult) (hhost : Store.HostsOnly s s₁)
      (hcommit : s₁.commit notificationLength clocks.commit (commitInput env target (runJudgement config s target env)) =
        .ok (s₂, result))
      (houtcome : successfulOutcome (runJudgement config s target env).outcome = true) :
      Ran ((s₂.settle (s₂.reconcileLifecycle clocks.reconcile
          (reconcileInput target (commitInput env target (runJudgement config s target env)) result))).1,
        .finished (runJudgement config s target env) result)

/-- **Every run is one of `Ran`.** -/
theorem runClaimed_ran :
    Ran config notificationLength s target env clocks (runClaimed config notificationLength s target env clocks) := by
  have hhost : Store.HostsOnly s
      (s.settle (s.observeHost (runObservation env target (runJudgement config s target env)))).1 :=
    Store.settle_of rfl fun _ h => Store.observeHost_hostsOnly h
  unfold runClaimed
  split
  · exact .refused _
  split
  · exact .refused _
  split
  · exact .canceled _ (Store.settle_of (.refl TargetRow.LeaseMoved.refl s) fun _ h => Store.releaseLease_ok h)
  simp only
  split
  · exact .commitFailed _ _ hhost
  · rename_i s₂ result hcommit
    split
    · rename_i houtcome
      exact .succeeded _ s₂ result hhost hcommit houtcome
    · rename_i houtcome
      rw [Bool.not_eq_true] at houtcome
      exact .failed _ s₂ result hhost hcommit houtcome

end Ran

end QrCommandCenter.Scraper
