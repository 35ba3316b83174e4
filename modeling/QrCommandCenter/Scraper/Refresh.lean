import QrCommandCenter.Scraper.Coordinator
import QrCommandCenter.Scraper.Request

/-!
# A refresh on demand

`RefreshNow` of `internal/scraper/scheduler.go`, with its `executeClaimed` and the run of the coordinator, as a process
beside the workers: between two of its statements the workers take any number of steps.

* `Scheduler`, `seedForRef`, `Store.readTarget` : the configuration, the seed of an unknown target, `Target`;
* `RefreshPhase`, `RefreshPhase.next` : where the call stands, and its next statement;
* `Refreshing`, `RefreshOp`, `Refreshing.exec` : the call and the workers;
* `Refreshing.transaction` : the transaction of a step;
* `refreshedBy` : a commit of a run that began its fetch during the call has validated the target;
* `refresh_now_fresh` : a call that returns without an error was refreshed, unless a run from before it validated the
  target meanwhile.
-/

namespace QrCommandCenter.Scraper
open Domain Table Transition

/-! ## The call -/

/-- What `NewScheduler` is given, with the configuration of its coordinator. -/
structure Scheduler where
  workerID : String
  leaseDuration : Duration
  commitGrace : Duration
  refreshPollInterval : Duration
  permitTTL : Duration
  coordinator : Config

def seedForRef (ref : TargetRef) (now : Time) : TargetSeed where
  ref := ref
  initialInterval := (policyFor ref.kind .active).initial
  minInterval := (policyFor ref.kind .active).min
  maxInterval := (policyFor ref.kind .active).max
  maxServeAge := (policyFor ref.kind .active).maxServeAge
  nextRunAt := now

end QrCommandCenter.Scraper

namespace QrCommandCenter
open Domain Table

def Store.readTarget (s : Store) (ref : TargetRef) : Except StoreError ScrapeTarget := do
  ref.validate
  match s.targetByRef? ref with
  | none => .error .snapshotNotFound
  | some t => .ok (scanScrapeTarget t)

end QrCommandCenter

namespace QrCommandCenter.Scraper
open Domain Table Transition

inductive RefreshError where
  | store (err : StoreError)
  /-- `snapshot refresh %s finished with outcome %s`; the outcome is empty when no run was attempted -/
  | finished (outcome : Option Outcome)
  /-- `ErrSnapshotRefreshFailed` -/
  | coalesced
  /-- The context has ended, or the database does not answer. -/
  | interrupted
deriving DecidableEq, Repr

/-- Where a call of `RefreshNow` stands: the statement it makes next. -/
inductive RefreshPhase where
  | reading
  | seeding
  | rereading
  | requesting (baseline : ScrapeTarget)
  | claiming (baseline : ScrapeTarget)
  | polling (baseline : ScrapeTarget)
  | reclaiming (baseline : ScrapeTarget) (now : Time)
  /-- `executeClaimed`, before it has a permit -/
  | admitting (target : ScrapeTarget)
  | postponing (target : ScrapeTarget) (retryAt : Time)
  | fetching (target : ScrapeTarget) (permit : HostPermit)
  | observing (target : ScrapeTarget) (permit : HostPermit) (env : RunEnv) (judgement : Judgement)
  | committing (target : ScrapeTarget) (permit : HostPermit) (env : RunEnv) (judgement : Judgement)
  | reconciling (permit : HostPermit) (judgement : Judgement) (input : LifecycleReconcileInput)
  | releasing (target : ScrapeTarget) (permit : Option HostPermit) (err : RefreshError)
  | freeing (permit : HostPermit) (result : Except RefreshError Unit)
  | returned (result : Except RefreshError Unit)

/-- What a statement reads from outside: the clocks, the locked rows, and the fetch of the call's own run. -/
structure Moment where
  now : Time
  databaseNow : Time := now
  locked : List Int := []
  env : RunEnv := { startedAt := now, finishedAt := now, fetched := { result := {} } }

def Moment.commitClocks (m : Moment) : CommitClocks where
  databaseNow := m.databaseNow
  qualityNow := m.now
  staleNow := m.now

/-- The next move of a call: a step without a transaction, or a transaction and what follows its response. -/
inductive Move where
  | stay (phase : RefreshPhase)
  | run (op : Op) (respond : Response → RefreshPhase)

def Scheduler.claim (scheduler : Scheduler) (ref : TargetRef) (now : Time) : ClaimOneRequest where
  ref := ref
  now := now
  workerID := scheduler.workerID
  leaseDuration := scheduler.leaseDuration

/-- What follows a `ClaimOne`: the call's own run, or waiting for the run of the lease in force. -/
def afterClaim (baseline : ScrapeTarget) : Response → RefreshPhase
  | .claimed [target] => .admitting target
  | .failed .targetLeased => .polling baseline
  | .failed err => .returned (.error (.store err))
  | _ => .returned (.error .interrupted)

/-- What follows a read of the target while another run holds its lease. -/
def afterPoll (baseline current : ScrapeTarget) (now : Time) : RefreshPhase :=
  if baseline.validationSeq < current.validationSeq then .returned (.ok ())
  else if baseline.consecutiveFailures < current.consecutiveFailures then .returned (.error .coalesced)
  else if current.leaseExpiresAt.any fun expires => now < expires then .polling baseline
  else .reclaiming baseline now

/-- When a call without a permit tries again. -/
def Scheduler.retryAt (scheduler : Scheduler) (decision : PermitDecision) (now : Time) : Time :=
  if isZeroTime decision.retryAt || decision.retryAt < now then now + scheduler.refreshPollInterval
  else decision.retryAt

/-- What follows the answer of the host controller: the run, a wait, or a later run when the lease does not last. -/
def afterAdmission (scheduler : Scheduler) (target : ScrapeTarget) (now : Time) : Response → RefreshPhase
  | .decided decision =>
    match decision.permit with
    | some permit => .fetching target permit
    | none =>
      if target.leaseExpiresAt.any fun expires => expires - scheduler.commitGrace ≤ scheduler.retryAt decision now then
        .postponing target (scheduler.retryAt decision now)
      else .admitting target
  | .failed err => .releasing target none (.store err)
  | _ => .returned (.error .interrupted)

/-- What follows the fetch of the call's own run, with the previous snapshot as it is then. -/
def afterFetch (config : Config) (s : Store) (target : ScrapeTarget) (permit : HostPermit) (env : RunEnv) : RefreshPhase :=
  if target.id ≤ 0 ∨ target.leaseGeneration ≤ 0 then .freeing permit (.error (.store (.leaseLost "")))
  else match target.ref.validate with
  | .error err => .freeing permit (.error (.store err))
  | .ok () =>
    if env.canceled || env.fetched.failure = some .canceled then .releasing target (some permit) .interrupted
    else .observing target permit env (judge config env target (previousSnapshot s env target.ref))

def runResult (judgement : Judgement) : Except RefreshError Unit :=
  if successfulOutcome judgement.outcome then .ok () else .error (.finished (some judgement.outcome))

/-- The end of a transaction whose error is the call's. -/
def orFail (phase : RefreshPhase) : Response → RefreshPhase
  | .failed err => .returned (.error (.store err))
  | _ => phase

def RefreshPhase.next (scheduler : Scheduler) (ref : TargetRef) (s : Store) (m : Moment) : RefreshPhase → Move
  | .reading => .stay (match s.readTarget ref with
    | .ok baseline => .requesting baseline
    | .error .snapshotNotFound => .seeding
    | .error err => .returned (.error (.store err)))
  | .seeding => .run (.seed m.databaseNow [seedForRef ref m.now]) (orFail .rereading)
  | .rereading => .stay (match s.readTarget ref with
    | .ok baseline => .requesting baseline
    | .error err => .returned (.error (.store err)))
  | .requesting baseline => .run (.setDueNow ref m.now) (orFail (.claiming baseline))
  | .claiming baseline => .run (.claimOne m.locked (scheduler.claim ref m.now)) (afterClaim baseline)
  | .polling baseline => .stay (match s.readTarget ref with
    | .ok current => afterPoll baseline current m.now
    | .error err => .returned (.error (.store err)))
  | .reclaiming baseline now => .run (.claimOne m.locked (scheduler.claim ref now)) (afterClaim baseline)
  | .admitting target =>
    -- the checks of `HostController.Acquire`
    if target.id ≤ 0 ∨ target.leaseGeneration ≤ 0 then .stay (.releasing target none (.store (.leaseLost "")))
    else if isBlank scheduler.workerID then
      .stay (.releasing target none (.store (.invalid "host permit worker ID is required")))
    else .run (.acquireHostPermit {
        host := target.ref.host
        targetID := target.id
        workerID := scheduler.workerID
        leaseGeneration := target.leaseGeneration
        now := m.now
        ttl := scheduler.permitTTL }) (afterAdmission scheduler target m.now)
  | .postponing target retryAt =>
    .run (.rescheduleLease m.databaseNow target.id target.leaseGeneration retryAt)
      (orFail (.returned (.error (.finished none))))
  | .fetching target permit => .stay (afterFetch scheduler.coordinator s target permit m.env)
  | .observing target permit env judgement =>
    .run (.observeHost (runObservation env target judgement)) fun _ => .committing target permit env judgement
  | .committing target permit env judgement =>
    .run (.commit m.commitClocks (commitInput env target judgement)) fun
      | .committed result =>
        if successfulOutcome judgement.outcome then
          .reconciling permit judgement (reconcileInput target (commitInput env target judgement) result)
        else .freeing permit (runResult judgement)
      | .failed err => .freeing permit (.error (.store err))
      | _ => .freeing permit (.error .interrupted)
  | .reconciling permit judgement input =>
    -- an error of the reconcile is logged only
    .run (.reconcileLifecycle m.databaseNow input) fun _ => .freeing permit (runResult judgement)
  | .releasing target permit err =>
    .run (.releaseLease m.databaseNow ⟨target.id, target.leaseGeneration⟩) fun _ =>
      match permit with
      | some permit => .freeing permit (.error err)
      | none => .returned (.error err)
  | .freeing permit result => .run (.releaseHostPermit permit.id) fun _ => .returned result
  | .returned result => .stay (.returned result)

/-! ## The call beside the workers -/

structure Refreshing where
  workers : Crew
  phase : RefreshPhase := .reading

inductive RefreshOp where
  | worker (op : CrewOp)
  | caller (m : Moment)
  | interrupt

namespace Refreshing

def interrupt (r : Refreshing) : Refreshing :=
  match r.phase with
  | .returned _ => r
  | _ => { r with phase := .returned (.error .interrupted) }

/-- One step of a worker or of the call. The lease of the call is its own: it is not among those of the workers. -/
def exec (notificationLength : SnapshotMetadata → Nat) (scheduler : Scheduler) (ref : TargetRef) (r : Refreshing) :
    RefreshOp → Refreshing × Unit
  | .worker op => ({ r with workers := (r.workers.exec notificationLength op).1 }, ())
  | .caller m =>
    (match r.phase.next scheduler ref r.workers.store m with
    | .stay phase => { r with phase := phase }
    | .run op respond =>
      { workers := { r.workers with store := (r.workers.store.exec notificationLength op).1 }
        phase := respond (r.workers.store.exec notificationLength op).2 }, ())
  | .interrupt => (r.interrupt, ())

def transaction (scheduler : Scheduler) (ref : TargetRef) (r : Refreshing) : RefreshOp → Option Op
  | .worker (.transaction op) => if op.committing.all r.workers.fetching.contains then some op else none
  | .worker (.fetch _) => none
  | .caller m =>
    match r.phase.next scheduler ref r.workers.store m with
    | .stay _ => none
    | .run op _ => some op
  | .interrupt => none

end Refreshing

end QrCommandCenter.Scraper

variable {s' : Store}

namespace QrCommandCenter
open Domain Table

/-- The operation is a successful commit under the lease of the row. -/
def Op.validates (row : TargetRow) : Op → Bool
  | .commit _ input => input.targetID = row.id && input.leaseGeneration = row.leaseGeneration &&
      row.leaseOwner = some input.workerID && successfulOutcome input.outcome
  | _ => false

namespace Store

variable {s : Store} {len : SnapshotMetadata → Nat}

theorem commitPointer_validationSeq {input : CommitInput} {sid : Int} {t t' : TargetRow}
    (h : t'.pointer = commitPointer input sid t) :
    t'.validationSeq = if successfulOutcome input.outcome then t.validationSeq + 1 else t.validationSeq := by
  unfold commitPointer at h
  cases hs : successfulOutcome input.outcome with
  | true =>
    rw [hs] at h
    split at h <;> simp only [TargetRow.pointer, if_true, Prod.mk.injEq] at h <;> exact h.2.2.2.1
  | false =>
    simp only [publishes, hs, Bool.false_and, Bool.false_eq_true, if_false, TargetRow.pointer, Prod.mk.injEq] at h
    exact h.2.2.2.1

theorem StoreStep.validationSeq {op : Op} (h : StoreStep op s s') {row row' : TargetRow}
    (hrow : s.target? row.id = some row) (hrow' : s'.target? row.id = some row') :
    row'.validationSeq = row.validationSeq ∨
      op.validates row = true ∧ row'.validationSeq = row.validationSeq + 1 := by
  cases h with
  | rejected =>
    rw [hrow] at hrow'
    cases hrow'
    exact .inl rfl
  | quiet _ h =>
    obtain ⟨t', ht', hsteady⟩ := h.targets.kept row.id row hrow
    rw [show lookup TargetRow.id s'.targets row.id = some row' from hrow'] at ht'
    cases ht'
    exact .inl (congrArg (fun p => p.2.2.2.1) hsteady.pointer)
  | @commit clocks input _ _ target run h =>
    obtain ⟨t', ht', hmoved⟩ := h.targets.kept row.id row hrow
    rw [show lookup TargetRow.id s'.targets row.id = some row' from hrow'] at ht'
    cases ht'
    by_cases hcommitted : row.id = input.targetID
    · have hseq := commitPointer_validationSeq (hmoved.committed hcommitted).2
      have hlocked := h.locked
      rw [← hcommitted, hrow] at hlocked
      cases hlocked
      cases hs : successfulOutcome input.outcome with
      | true =>
        rw [hs, if_pos rfl] at hseq
        exact .inr ⟨by simp [Op.validates, hcommitted, h.generation, h.owner, hs], hseq⟩
      | false =>
        rw [hs] at hseq
        exact .inl hseq
    · exact .inl (congrArg (fun p => p.2.2.2.1) (hmoved.kept hcommitted).pointer)

/-- **A target through one transaction**: only a successful commit under its lease validates it. -/
theorem exec_row (hw : s.WellFormed) (op : Op) {ref : TargetRef} {row : TargetRow}
    (hrow : s.targetByRef? ref = some row) :
    ∃ row', (s.exec len op).1.targetByRef? ref = some row' ∧ row'.id = row.id ∧
      row.leaseGeneration ≤ row'.leaseGeneration ∧
      (row'.validationSeq = row.validationSeq ∨
        op.validates row = true ∧ row'.validationSeq = row.validationSeq + 1) := by
  have hw' := exec_wellFormed len s op hw
  obtain ⟨hmem, href⟩ := lookup_mem hrow
  have htarget : s.target? row.id = some row := lookup_of_nodup hw.targets.nodup hmem
  have hstep := exec_step len s op
  obtain ⟨row', hrow', href', hlease⟩ := hstep.evolves.kept row.id row htarget
  obtain ⟨hmem', hid'⟩ := lookup_mem hrow'
  refine ⟨row', ?_, hid', hlease.generation_le, hstep.validationSeq htarget hrow'⟩
  rw [← href, ← href']
  exact lookup_of_nodup hw'.sound.refs hmem'

theorem exec_unrecorded (op : Op) {id generation : Int} (hrun : s.run? id generation = none)
    (hop : op.committing ≠ some (id, generation)) : (s.exec len op).1.run? id generation = none := by
  have hnone : ∀ r ∈ s.runs, ¬ (r.targetId = id ∧ r.leaseGeneration = generation) := by
    intro r hr
    simpa using List.find?_eq_none.mp hrun r hr
  have hall : ∀ r ∈ (s.exec len op).1.runs, ¬ (r.targetId = id ∧ r.leaseGeneration = generation) := by
    have hstep := exec_step len s op
    generalize (s.exec len op).1 = s' at hstep
    cases hstep with
    | rejected => exact hnone
    | quiet _ h => exact fun r hr => hnone r (h.runs.mem hr)
    | @commit clocks input _ _ target run h =>
      intro r hr
      rw [h.runs.1] at hr
      rcases List.mem_append.mp hr with hr | hr
      · exact hnone r hr
      · rw [List.mem_singleton.mp hr]
        obtain ⟨-, htarget, hgeneration, -⟩ := h.recorded
        rw [htarget, hgeneration]
        rintro ⟨rfl, rfl⟩
        exact hop rfl
  exact List.find?_eq_none.mpr fun r hr => by simpa using hall r hr

end Store

end QrCommandCenter

namespace QrCommandCenter.Scraper
open Domain Table Transition

/-! ## What a call has seen -/

abbrev RefreshEvent := Event Refreshing RefreshOp Unit

section Call
variable (scheduler : Scheduler) (ref : TargetRef) (before : List (Int × Int))

/-- The event is a commit that validates the target, of a run whose fetch had not begun before the call. -/
def refreshedBy (e : RefreshEvent) : Bool :=
  match e.pre.transaction scheduler ref e.op with
  | some (.commit _ input) =>
    !before.contains (input.targetID, input.leaseGeneration) &&
      match e.pre.workers.store.targetByRef? ref, e.post.workers.store.targetByRef? ref with
      | some row, some row' => input.targetID = row.id && row.validationSeq < row'.validationSeq
      | _, _ => false
  | _ => false

/-- The step is a commit that validates the target, of a run whose fetch had begun before the call. -/
def overlaps (r : Refreshing) (op : RefreshOp) : Bool :=
  match r.transaction scheduler ref op with
  | some (.commit clocks input) => before.contains (input.targetID, input.leaseGeneration) &&
      (r.workers.store.targetByRef? ref).any fun row => (Op.commit clocks input).validates row
  | _ => false

end Call

section Invariant
variable (ref : TargetRef) (fresh : Prop)

/-- The target was validated after the baseline only in a `fresh` call. -/
def Waiting (s : Store) (baseline : ScrapeTarget) : Prop :=
  ∃ row, s.targetByRef? ref = some row ∧ baseline.validationSeq ≤ row.validationSeq ∧
    (baseline.validationSeq < row.validationSeq → fresh)

/-- The call has the lease of its target to itself, and its run is not recorded. -/
structure Owns (w : Crew) (target : ScrapeTarget) : Prop where
  row : ∃ row, w.store.targetByRef? ref = some row ∧ row.id = target.id ∧ target.leaseGeneration ≤ row.leaseGeneration
  unheld : (target.id, target.leaseGeneration) ∉ w.held
  unrecorded : w.store.run? target.id target.leaseGeneration = none

def PhaseHolds (w : Crew) : RefreshPhase → Prop
  | .requesting baseline | .claiming baseline | .polling baseline | .reclaiming baseline _ =>
    Waiting ref fresh w.store baseline
  | .admitting target | .postponing target _ | .fetching target _ | .observing target _ _ _
  | .committing target _ _ _ => Owns ref w target
  | .reconciling _ _ _ => fresh
  | .freeing _ result | .returned result => result = .ok () → fresh
  | .reading | .seeding | .rereading | .releasing _ _ _ => True

structure CallInv (before : List (Int × Int)) (r : Refreshing) : Prop where
  sound : r.workers.Sound
  earlier : ∀ lease ∈ before, lease ∈ r.workers.held
  phase : PhaseHolds ref fresh r.workers r.phase

end Invariant

theorem refreshedBy_of {exec : Refreshing → RefreshOp → Refreshing × Unit} {scheduler : Scheduler} {ref : TargetRef}
    {before : List (Int × Int)} {r : Refreshing} {op : RefreshOp} {clocks : CommitClocks} {input : CommitInput}
    {row row' : TargetRow} (htransaction : r.transaction scheduler ref op = some (.commit clocks input))
    (hlater : before.contains (input.targetID, input.leaseGeneration) = false)
    (hrow : r.workers.store.targetByRef? ref = some row) (hrow' : (exec r op).1.workers.store.targetByRef? ref = some row')
    (hid : input.targetID = row.id) (hlt : row.validationSeq < row'.validationSeq) :
    refreshedBy scheduler ref before (Event.of exec r op) = true := by
  simp only [refreshedBy, Event.of, htransaction, hlater, hrow, hrow']
  simp [hid, hlt]

variable {phase : RefreshPhase}

section Steps
variable {len : SnapshotMetadata → Nat} {scheduler : Scheduler} {ref : TargetRef}
  {before : List (Int × Int)} {fresh : Prop} {w : Crew}
variable {s : Store} {baseline target : ScrapeTarget} {request : ClaimOneRequest}

/-- Waiting through a transaction that validates the target only in a fresh call. -/
theorem Waiting.exec (h : Waiting ref fresh s baseline) (hw : s.WellFormed) (op : Op)
    (hnew : ∀ row row', s.targetByRef? ref = some row →
      (s.exec len op).1.targetByRef? ref = some row' → op.validates row = true →
      row.validationSeq < row'.validationSeq → fresh) :
    Waiting ref fresh (s.exec len op).1 baseline := by
  obtain ⟨row, hrow, hle, hfresh⟩ := h
  obtain ⟨row', hrow', -, -, hsame | ⟨hvalidates, hseq⟩⟩ := @Store.exec_row s len hw op ref row hrow
  · exact ⟨row', hrow', by rw [hsame]; exact hle, by rw [hsame]; exact hfresh⟩
  · exact ⟨row', hrow', by omega, fun _ => hnew row row' hrow hrow' hvalidates (by omega)⟩

/-- The lease of the call stays its own through a transaction that does not commit it and hands out `claims`. -/
theorem Owns.exec (h : Owns ref w target) (hw : w.store.WellFormed) (op : Op)
    (hop : op.committing ≠ some (target.id, target.leaseGeneration)) (held : List (Int × Int))
    (hheld : (target.id, target.leaseGeneration) ∉ held) :
    Owns ref { w with store := (w.store.exec len op).1, held := held } target := by
  obtain ⟨row, hrow, hid, hle⟩ := h.row
  obtain ⟨row', hrow', hid', hle', -⟩ := @Store.exec_row w.store len hw op ref row hrow
  exact ⟨⟨row', hrow', hid'.trans hid, hle.trans hle'⟩, hheld, Store.exec_unrecorded op h.unrecorded hop⟩

theorem Owns.not_claimed (h : Owns ref w target) (hw : w.store.WellFormed) (op : Op) :
    (target.id, target.leaseGeneration) ∉ claimedLeases (Event.of (Store.exec len) w.store op) := by
  intro hmem
  obtain ⟨row, hrow, hid, hle⟩ := h.row
  obtain ⟨t, -, ht, -, hgeneration, -⟩ := (Store.claimedLeases_of hw.targets op).2 _ hmem
  have htarget : w.store.target? target.id = some row := by
    rw [← hid]
    exact lookup_of_nodup hw.targets.nodup (lookup_mem hrow).1
  rw [htarget] at ht
  cases ht
  simp only at hgeneration
  omega

theorem Owns.worker (h : Owns ref w target) (hs : w.Sound) (op : CrewOp) :
    Owns ref (w.exec len op).1 target := by
  cases op with
  | fetch lease =>
    simp only [Crew.exec]
    split
    · exact ⟨h.row, h.unheld, h.unrecorded⟩
    · exact h
  | transaction op =>
    simp only [Crew.exec]
    split
    · rename_i hfetched
      refine h.exec hs.store op (fun hcommit => h.unheld (hs.fetching _ ?_)) _ fun hmem => ?_
      · rw [hcommit] at hfetched
        simpa using hfetched
      · rcases List.mem_append.mp hmem with hmem | hmem
        · exact h.unheld hmem
        · exact h.not_claimed hs.store op hmem
    · exact h

variable {r : Refreshing}

theorem held_exec (op : CrewOp) {lease : Int × Int} (h : lease ∈ w.held) :
    lease ∈ (w.exec len op).1.held := by
  cases op with
  | fetch lease =>
    simp only [Crew.exec]
    split <;> exact h
  | transaction op =>
    simp only [Crew.exec]
    split
    · exact List.mem_append_left _ h
    · exact h

/-- A worker that validates the target refreshes it, unless its run began before the call. -/
theorem Waiting.worker (h : Waiting ref fresh r.workers.store baseline) (hw : r.workers.store.WellFormed) (op : CrewOp)
    (hno : overlaps scheduler ref before r (.worker op) = false)
    (hevent : refreshedBy scheduler ref before
      (Event.of (Refreshing.exec len scheduler ref) r (.worker op)) = true → fresh) :
    Waiting ref fresh (r.workers.exec len op).1.store baseline := by
  cases op with
  | fetch lease =>
    rw [Crew.exec_fetch_store]
    exact h
  | transaction op =>
    by_cases hfetched : op.committing.all r.workers.fetching.contains = true
    · have hstore : (r.workers.exec len (.transaction op)).1.store =
          (r.workers.store.exec len op).1 := by
        simp only [Crew.exec, if_pos hfetched]
      have htransaction : r.transaction scheduler ref (.worker (.transaction op)) = some op := if_pos hfetched
      rw [hstore]
      refine h.exec hw op fun row row' hrow hrow' hvalidates hlt => hevent ?_
      cases op with
      | commit clocks input =>
        have hid : input.targetID = row.id := by
          simp only [Op.validates, Bool.and_eq_true, decide_eq_true_eq] at hvalidates
          exact hvalidates.1.1.1
        have hlater : before.contains (input.targetID, input.leaseGeneration) = false := by
          simp only [overlaps, htransaction, hrow, Option.any_some, hvalidates, Bool.and_true] at hno
          exact hno
        have hpost : (r.exec len scheduler ref (.worker (.transaction (.commit clocks
            input)))).1.workers.store.targetByRef? ref = some row' := by
          show (r.workers.exec len _).1.store.targetByRef? ref = some row'
          rw [hstore]
          exact hrow'
        exact refreshedBy_of htransaction hlater hrow hpost hid hlt
      | _ => cases hvalidates
    · simp only [Crew.exec, if_neg hfetched]
      exact h

theorem PhaseHolds.worker (h : CallInv ref fresh before r) (op : CrewOp)
    (hno : overlaps scheduler ref before r (.worker op) = false)
    (hevent : refreshedBy scheduler ref before
      (Event.of (Refreshing.exec len scheduler ref) r (.worker op)) = true → fresh) :
    PhaseHolds ref fresh (r.workers.exec len op).1 r.phase := by
  have hphase := h.phase
  cases hp : r.phase <;> rw [hp] at hphase
  case requesting | claiming | polling | reclaiming => exact Waiting.worker hphase h.sound.store op hno hevent
  case admitting | postponing | fetching | observing | committing => exact Owns.worker hphase h.sound op
  all_goals exact hphase

/-! ## The steps of the call -/

theorem readTarget_ok (h : s.readTarget ref = .ok target) :
    ∃ row, s.targetByRef? ref = some row ∧ target = scanScrapeTarget row := by
  obtain ⟨_, -, h⟩ := bind_eq_ok.mp h
  cases hrow : s.targetByRef? ref with
  | none =>
    rw [hrow] at h
    cases h
  | some row =>
    rw [hrow] at h
    cases h
    exact ⟨row, rfl, rfl⟩

theorem waiting_read (h : s.readTarget ref = .ok baseline) : Waiting ref fresh s baseline := by
  obtain ⟨row, hrow, rfl⟩ := readTarget_ok h
  exact ⟨row, hrow, le_refl _, fun hlt => absurd hlt (lt_irrefl _)⟩

theorem owns_claimed (hs : w.Sound) {locked : List Int}
    (h : w.store.claimOne locked request = .ok (s', target)) : Owns request.ref { w with store := s' } target := by
  obtain ⟨t, t', ht, ht', htarget, hgeneration⟩ := Store.claimOne_claimed hs.store.targets h
  have hlease : target.leaseGeneration = t.leaseGeneration + 1 := by
    rw [htarget]
    exact hgeneration
  refine ⟨⟨t', ?_, ?_, ?_⟩, fun hheld => ?_, ?_⟩
  · -- the reference of the claim finds the claimed row
    have href : t'.ref = request.ref := by
      rw [← Store.claimOne_ref h, htarget]
      rfl
    rw [← href]
    exact lookup_of_nodup ((Store.claimOne_ok h).sound hs.store.sound).refs (lookup_mem ht').1
  · exact (lookup_mem ht').2
  · rw [hlease, hgeneration]
  · obtain ⟨t₁, ht₁, hle⟩ := hs.held _ hheld
    rw [ht] at ht₁
    cases ht₁
    simp only at hle
    omega
  · obtain ⟨t₁, -, hscanned, hrun⟩ := Store.claimed_unrecorded hs.store (Store.claimOne_ok h)
      (Store.claimOne_claimed hs.store.targets h)
    rw [hscanned]
    exact hrun

theorem failed_call {err : RefreshError} {P : Prop} (h : (.error err : Except RefreshError Unit) = .ok ()) : P := by
  cases h

theorem afterClaim_holds (hs : w.Sound) (h : Waiting ref fresh w.store baseline) (locked : List Int)
    (href : request.ref = ref) :
    PhaseHolds ref fresh { w with store := (w.store.exec len (.claimOne locked request)).1 }
      (afterClaim baseline (w.store.exec len (.claimOne locked request)).2) := by
  simp only [Store.exec]
  cases hclaim : w.store.claimOne locked request with
  | ok answer => exact href ▸ owns_claimed hs hclaim
  | error err =>
    cases err with
    | targetLeased => exact h
    | _ => exact failed_call

theorem afterPoll_holds {current : ScrapeTarget} {now : Time} (h : Waiting ref fresh w.store baseline)
    (hread : w.store.readTarget ref = .ok current) : PhaseHolds ref fresh w (afterPoll baseline current now) := by
  obtain ⟨row, hrow, rfl⟩ := readTarget_ok hread
  unfold afterPoll
  split
  · rename_i hlt
    intro _
    obtain ⟨row', hrow', -, hfresh⟩ := h
    rw [hrow] at hrow'
    cases hrow'
    exact hfresh hlt
  split
  · exact failed_call
  split
  · exact h
  · exact h

theorem afterAdmission_holds (h : Owns ref w target) (now : Time) (response : Response) :
    PhaseHolds ref fresh w (afterAdmission scheduler target now response) := by
  unfold afterAdmission
  split
  · split
    · exact h
    · split
      · exact h
      · exact h
  · trivial
  · exact failed_call

theorem afterFetch_holds (h : Owns ref w target) (config : Config) (permit : HostPermit) (env : RunEnv) :
    PhaseHolds ref fresh w (afterFetch config w.store target permit env) := by
  unfold afterFetch
  split
  · exact failed_call
  split
  · exact failed_call
  split
  · trivial
  · exact h

theorem orFail_holds (h : PhaseHolds ref fresh w phase) (response : Response) :
    PhaseHolds ref fresh w (orFail phase response) := by
  unfold orFail
  split
  · exact failed_call
  · exact h

theorem Owns.refreshes {permit : HostPermit} {env : RunEnv} {judgement : Judgement}
    (hinv : CallInv ref fresh before r) (hphase : r.phase = .committing target permit env judgement)
    (h : Owns ref r.workers target) (m : Moment) {result : CommitResult}
    (hcommit : r.workers.store.commit len m.commitClocks (commitInput env target judgement) =
      .ok (s', result)) (houtcome : successfulOutcome judgement.outcome = true) :
    refreshedBy scheduler ref before (Event.of (Refreshing.exec len scheduler ref) r (.caller m)) = true := by
  obtain ⟨row, hrow, hid, -⟩ := h.row
  obtain ⟨locked, run, heffect⟩ := Store.commit_effect hcommit h.unrecorded
  have hpost : (r.exec len scheduler ref (.caller m)).1.workers.store = s' := by
    simp only [Refreshing.exec, hphase, RefreshPhase.next, Store.exec, hcommit]
    rfl
  have htarget : r.workers.store.target? row.id = some row :=
    lookup_of_nodup hinv.sound.store.targets.nodup (lookup_mem hrow).1
  obtain ⟨row', hrow', hmoved⟩ := heffect.targets.kept row.id row htarget
  have hseq := Store.commitPointer_validationSeq (hmoved.committed hid).2
  rw [show (commitInput env target judgement).outcome = judgement.outcome from rfl, houtcome, if_pos rfl] at hseq
  have htransaction : r.transaction scheduler ref (.caller m) =
      some (.commit m.commitClocks (commitInput env target judgement)) := by
    simp only [Refreshing.transaction, hphase, RefreshPhase.next]
  have hlater : before.contains (target.id, target.leaseGeneration) = false := by
    rw [Bool.eq_false_iff, ne_eq, List.contains_iff_mem]
    exact fun hearlier => h.unheld (hinv.earlier _ hearlier)
  have hlt : row.validationSeq < row'.validationSeq := by omega
  refine refreshedBy_of htransaction hlater hrow ?_ hid.symm hlt
  rw [hpost, ← (lookup_mem hrow).2, ← hmoved.ref]
  exact lookup_of_nodup (heffect.wellFormed hinv.sound.store).sound.refs (lookup_mem hrow').1

theorem PhaseHolds.caller (h : CallInv ref fresh before r) (m : Moment)
    (hevent : refreshedBy scheduler ref before
      (Event.of (Refreshing.exec len scheduler ref) r (.caller m)) = true → fresh) :
    PhaseHolds ref fresh (r.exec len scheduler ref (.caller m)).1.workers
      (r.exec len scheduler ref (.caller m)).1.phase := by
  have howns : ∀ target op, Owns ref r.workers target → op.committing = none →
      Owns ref { r.workers with store := (r.workers.store.exec len op).1 } target :=
    fun target op howns hop => howns.exec h.sound.store op (by rw [hop]; exact (Option.some_ne_none _).symm) _ howns.unheld
  have hphase := h.phase
  cases hp : r.phase <;> rw [hp] at hphase <;> simp only [Refreshing.exec, hp, RefreshPhase.next]
  case reading =>
    split
    · rename_i baseline hread
      exact waiting_read hread
    · trivial
    · exact failed_call
  case seeding =>
    refine orFail_holds ?_ _
    trivial
  case rereading =>
    split
    · rename_i baseline hread
      exact waiting_read hread
    · exact failed_call
  case requesting baseline =>
    refine orFail_holds ?_ _
    exact Waiting.exec hphase h.sound.store _ fun _ _ _ _ hvalidates => by cases hvalidates
  case claiming baseline => exact afterClaim_holds h.sound hphase m.locked rfl
  case polling baseline =>
    split
    · rename_i current hread
      exact afterPoll_holds hphase hread
    · exact failed_call
  case reclaiming baseline now => exact afterClaim_holds h.sound hphase m.locked rfl
  case admitting target =>
    split_ifs
    · trivial
    · trivial
    · exact afterAdmission_holds (howns target _ hphase rfl) m.now _
  case postponing target retryAt =>
    refine orFail_holds ?_ _
    exact failed_call
  case fetching target permit => exact afterFetch_holds hphase _ permit m.env
  case observing target permit env judgement => exact howns target _ hphase rfl
  case committing target permit env judgement =>
    simp only [Store.exec]
    cases hcommit : r.workers.store.commit len m.commitClocks (commitInput env target judgement) with
    | error err => exact failed_call
    | ok answer =>
      simp only [Store.answer]
      split
      · rename_i houtcome
        exact hevent (Owns.refreshes h hp hphase m hcommit houtcome)
      · rename_i houtcome
        rw [runResult, if_neg houtcome]
        exact failed_call
  case reconciling permit judgement input => exact fun _ => hphase
  case releasing target permit err =>
    split <;> exact failed_call
  case freeing | returned => exact hphase

theorem CallInv.exec (h : CallInv ref fresh before r) (op : RefreshOp)
    (hno : overlaps scheduler ref before r op = false)
    (hevent : refreshedBy scheduler ref before
      (Event.of (Refreshing.exec len scheduler ref) r op) = true → fresh) :
    CallInv ref fresh before (r.exec len scheduler ref op).1 := by
  cases op with
  | worker op =>
    exact ⟨Crew.exec_sound op h.sound, fun lease hlease => held_exec op (h.earlier lease hlease),
      PhaseHolds.worker h op hno hevent⟩
  | caller m =>
    refine ⟨?_, ?_, PhaseHolds.caller h m hevent⟩
    · simp only [Refreshing.exec]
      split
      · exact h.sound
      · exact h.sound.store_exec _
    · simp only [Refreshing.exec]
      split
      · exact h.earlier
      · exact h.earlier
  | interrupt =>
    simp only [Refreshing.exec, Refreshing.interrupt]
    split
    · exact h
    · exact ⟨h.sound, h.earlier, failed_call⟩

end Steps

/-- **A refresh on demand is fresh unless a run from before it validates the target meanwhile.** After any run, and
between any steps of the workers, a `RefreshNow` without an error has seen a successful commit by a run whose fetch
began during the call. -/
theorem refresh_now_fresh (notificationLength : SnapshotMetadata → Nat) (scheduler : Scheduler) (ref : TargetRef)
    (before : List CrewOp) (ops : List RefreshOp) :
    let w := final (Crew.exec notificationLength) {} before
    let call := Refreshing.exec notificationLength scheduler ref
    (final call { workers := w } ops).phase = .returned (.ok ()) →
    (∀ e ∈ trace call { workers := w } ops, overlaps scheduler ref w.fetching e.pre e.op = false) →
    ∃ e ∈ trace call { workers := w } ops, refreshedBy scheduler ref w.fetching e = true := by
  intro w call hreturned hno
  have hsound := Crew.sound_run notificationLength before
  have hstart : CallInv ref (∃ e ∈ trace call { workers := w } ops, refreshedBy scheduler ref w.fetching e = true)
      w.fetching { workers := w } := ⟨hsound, hsound.fetching, trivial⟩
  have hinv := final_inv_of_trace hstart fun r op he h => h.exec op (hno _ he) fun hrefreshed => ⟨_, he, hrefreshed⟩
  have hphase := hinv.phase
  rw [hreturned] at hphase
  exact hphase rfl

/-! ### Two calls that coalesce with a run of a worker -/

def sampleScheduler : Scheduler where
  workerID := "c"
  leaseDuration := minute
  commitGrace := 15 * second
  refreshPollInterval := second
  permitTTL := 40 * second
  coordinator := {
    codec := { marshalledLength := fun _ => 0, sum256 := fun _ => 1, normalizeTimestampString := id }
    canonicalPayloadLimit := 1000 }

def RefreshPhase.succeeded : RefreshPhase → Bool
  | .returned (.ok ()) => true
  | _ => false

theorem RefreshPhase.eq_of_succeeded (h : phase.succeeded = true) : phase = .returned (.ok ()) := by
  unfold RefreshPhase.succeeded at h
  split at h
  · rfl
  · cases h

/-- The call reads the target, makes it due, finds it leased, and reads it again after `meanwhile`. -/
def coalescing (meanwhile : List RefreshOp) : List RefreshOp :=
  [.caller { now := 11 * second }, .caller { now := 11 * second }, .caller { now := 11 * second }] ++ meanwhile ++
    [.caller { now := 13 * second }]

theorem refresh_now_fresh_coalesced :
    (final (Refreshing.exec (fun _ => 0) sampleScheduler polledRef) { workers := polled [] } (coalescing
        [.worker (.fetch (1, 1)), .worker (polledCommit "a" 1 (12 * second))])).phase = .returned (.ok ()) ∧
      ∃ e ∈ trace (Refreshing.exec (fun _ => 0) sampleScheduler polledRef) { workers := polled [] } (coalescing
          [.worker (.fetch (1, 1)), .worker (polledCommit "a" 1 (12 * second))]),
        refreshedBy sampleScheduler polledRef (polled []).fetching e = true := by
  have hreturned : (final (Refreshing.exec (fun _ => 0) sampleScheduler polledRef) { workers := polled [] } (coalescing
      [.worker (.fetch (1, 1)), .worker (polledCommit "a" 1 (12 * second))])).phase = .returned (.ok ()) :=
    RefreshPhase.eq_of_succeeded (by decide +kernel)
  exact ⟨hreturned, refresh_now_fresh (fun _ => 0) sampleScheduler polledRef _ _ hreturned (by decide +kernel)⟩

/-- Worker `a` had begun its fetch before the call: the call returns without an error when that run commits. -/
theorem coalesced_refresh_stale :
    (final (Refreshing.exec (fun _ => 0) sampleScheduler polledRef) { workers := polled [.fetch (1, 1)] } (coalescing
        [.worker (polledCommit "a" 1 (12 * second))])).phase = .returned (.ok ()) ∧
      ¬ ∃ e ∈ trace (Refreshing.exec (fun _ => 0) sampleScheduler polledRef) { workers := polled [.fetch (1, 1)] }
          (coalescing [.worker (polledCommit "a" 1 (12 * second))]),
        refreshedBy sampleScheduler polledRef (polled [.fetch (1, 1)]).fetching e = true :=
  ⟨RefreshPhase.eq_of_succeeded (by decide +kernel), by decide +kernel⟩

end QrCommandCenter.Scraper
