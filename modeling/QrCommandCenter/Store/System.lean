import QrCommandCenter.Lib.Transition
import QrCommandCenter.Store.Commit
import QrCommandCenter.Store.Prune
import QrCommandCenter.Store.Outbox
import QrCommandCenter.Store.Host

/-!
# The store as a machine

The transactions of the store as operations of one machine. A list of operations is an interleaving of any number of
workers, each operation with the clock readings and locked rows that its transaction sees.

* `Op`, `Response`, `Store.exec` : the machine; a failed transaction leaves the store as it is;
* `Executed op s'` : what an operation does, by the tables it writes (`exec_cases`);
* `Quiet s s'`, `StoreStep op s s'` : all that an operation can do (`exec_step`);
* `StoreStep.evolves`, `StoreStep.keyed` : what every operation keeps of `scrape_targets`;
* `Sequenced`, `exec_checkpoints` : the sequences of the outbox, and who writes the checkpoints;
* `HostFrame`, `exec_hostFrame` : the operations that leave the host tables alone;
* `WellFormed`, `exec_wellFormed` : the constraints every reachable store meets; `claimed_unrecorded`.
-/

namespace QrCommandCenter
open Domain Table Transition

/-- The transactions. Every batch of a prune is one, and so is a whole `Prune`. -/
inductive Op where
  | seedHost (clock : Time) (seed : HostStateSeed)
  | seed (now : Time) (seeds : List TargetSeed)
  | claimDue (locked : List Int) (request : ClaimRequest)
  | claimOne (locked : List Int) (request : ClaimOneRequest)
  | renewLease (request : RenewLeaseRequest)
  | releaseLease (now : Time) (request : ReleaseLeaseRequest)
  | rescheduleLease (now : Time) (targetID generation : Int) (nextRunAt : Time)
  | setDueNow (ref : TargetRef) (now : Time)
  | commit (clocks : CommitClocks) (input : CommitInput)
  | reconcileLifecycle (now : Time) (input : LifecycleReconcileInput)
  | repairStaleTargets (ids : List Int) (now : Time)
  | pruneSnapshots (cutoff : Time) (batchSize : Nat)
  | pruneRuns (cutoff : Time) (batchSize : Nat)
  | prunePermits (now : Time)
  | prune (request : PruneRequest)
  | pruneCommitEvents (now : Time)
  | acquireHostPermit (request : AcquireHostPermitRequest)
  | releaseHostPermit (permitID : Int)
  | observeHost (observation : HostObservation)
  | updateListenerCheckpoint (consumerName : String) (sequence : Int)
deriving DecidableEq, Repr

def Op.isCommit : Op → Bool
  | .commit _ _ => true
  | _ => false

inductive Response where
  | done
  | claimed (targets : List ScrapeTarget)
  | committed (result : CommitResult)
  | affected (rows : Nat)
  | pruned (result : PruneResult)
  | decided (decision : PermitDecision)
  | failed (err : StoreError)
deriving DecidableEq, Repr

namespace Store

/-- The store and the response after a transaction; one that fails is rolled back. -/
def answer {α : Type} (s : Store) (respond : α → Response) : Except StoreError (Store × α) → Store × Response
  | .ok (s', a) => (s', respond a)
  | .error e => (s, .failed e)

/-- The same for a transaction that returns no value. -/
def settle (s : Store) : Except StoreError Store → Store × Response
  | .ok s' => (s', .done)
  | .error e => (s, .failed e)

def exec (notificationLength : SnapshotMetadata → Nat) (s : Store) : Op → Store × Response
  | .seedHost clock seed => s.settle (s.seedHost clock seed)
  | .seed now seeds => s.settle (s.seed now seeds)
  | .claimDue locked request => s.answer .claimed (s.claimDue locked request)
  | .claimOne locked request => s.answer (fun target => .claimed [target]) (s.claimOne locked request)
  | .renewLease request => s.settle (s.renewLease request)
  | .releaseLease now request => s.settle (s.releaseLease now request)
  | .rescheduleLease now targetID generation nextRunAt =>
    s.settle (s.rescheduleLease now targetID generation nextRunAt)
  | .setDueNow ref now => s.settle (s.setDueNow ref now)
  | .commit clocks input => s.answer .committed (s.commit notificationLength clocks input)
  | .reconcileLifecycle now input => s.settle (s.reconcileLifecycle now input)
  | .repairStaleTargets ids now => s.answer .affected (s.repairStaleTargets ids now)
  | .pruneSnapshots cutoff batchSize => s.answer .affected (s.pruneSnapshots cutoff batchSize)
  | .pruneRuns cutoff batchSize => ((s.pruneRuns cutoff batchSize).1, .affected (s.pruneRuns cutoff batchSize).2)
  | .prunePermits now => ((s.prunePermits now).1, .affected (s.prunePermits now).2)
  | .prune request => s.answer .pruned (s.prune request)
  | .pruneCommitEvents now => ((s.pruneCommitEvents now).1, .affected (s.pruneCommitEvents now).2)
  | .acquireHostPermit request => s.answer .decided (s.acquireHostPermit request)
  | .releaseHostPermit permitID => (s.releaseHostPermit permitID, .done)
  | .observeHost observation => s.settle (s.observeHost observation)
  | .updateListenerCheckpoint consumerName sequence =>
    (s.updateListenerCheckpoint consumerName sequence, .done)

end Store

/-- A lease statement writes the lease, the schedule and the time stamps of a row. -/
structure TargetRow.Leased (t t' : TargetRow) : Prop where
  columns : t' = { t with
    leaseOwner := t'.leaseOwner, leaseGeneration := t'.leaseGeneration, leaseExpiresAt := t'.leaseExpiresAt,
    nextRunAt := t'.nextRunAt, lastAttemptAt := t'.lastAttemptAt, updatedAt := t'.updatedAt }
  lease : t.LeaseStep t'

theorem TargetRow.Leased.rescheduled {t t' : TargetRow} (h : t.Leased t') : t.Rescheduled t' := by
  refine ⟨?_, ?_, ?_, ?_, h.lease⟩ <;> rw [h.columns] <;> rfl

def Op.prunesSnapshots : Op → Bool
  | .pruneSnapshots _ _ => true
  | .prune _ => true
  | _ => false

namespace Store

def writesHost : Op → Bool
  | .seedHost _ _ | .acquireHostPermit _ | .observeHost _ => true
  | _ => false

/-- The permits that an operation other than an acquire deletes. -/
def dropsPermit : Op → PermitRow → Bool
  | .prunePermits now, permit => permit.expiresAt ≤ now
  | .prune request, permit => permit.expiresAt ≤ request.now
  | .releaseHostPermit permitID, permit => permit.id = permitID
  | _, _ => false

structure HostFrame (drops : PermitRow → Bool) (s s' : Store) : Prop where
  hosts : s'.hosts = s.hosts
  permits : s'.permits = s.permits ∨ s'.permits = deleteWhere drops s.permits
  nextPermitId : s'.nextPermitId = s.nextPermitId

/-- What an operation does, by the tables it writes. -/
inductive Executed (notificationLength : SnapshotMetadata → Nat) (s : Store) : Op → Store → Prop where
  /-- it fails, or finds nothing to do -/
  | unchanged (op : Op) : Executed notificationLength s op s
  | seeded {now : Time} {seeds : List TargetSeed} {s' : Store} (h : s.upsertSeeds now seeds = .ok s') :
      Executed notificationLength s (.seed now seeds) s'
  | leased {op : Op} {p : TargetRow → Bool} {f : TargetRow → TargetRow} {s' : Store} {n : Nat}
      (hop : op.isCommit = false) (h : s.updateTargets p f = .ok (s', n)) (hf : ∀ t : TargetRow, t.Leased (f t))
      (hdue : (∃ now id generation next, op = .rescheduleLease now id generation next) ∨
        ∀ t : TargetRow, (f t).nextRunAt ≤ t.nextRunAt) : Executed notificationLength s op s'
  | committed {clocks : CommitClocks} {input : CommitInput} {s' : Store} {result : CommitResult}
      (h : s.commit notificationLength clocks input = .ok (s', result)) :
      Executed notificationLength s (.commit clocks input) s'
  | reconciled {now : Time} {input : LifecycleReconcileInput} {s' : Store} (h : s.reconcileLifecycle now input = .ok s') :
      Executed notificationLength s (.reconcileLifecycle now input) s'
  | pruned {op : Op} {s' : Store} (hop : op.isCommit = false) (h : Pruned s s')
      (hsnapshots : op.prunesSnapshots = false → s'.snapshots = s.snapshots) (hframe : HostFrame (dropsPermit op) s s') :
      Executed notificationLength s op s'
  | dequeued (now : Time) : Executed notificationLength s (.pruneCommitEvents now) (s.pruneCommitEvents now).1
  | hosted {op : Op} {s' : Store} (hop : op.isCommit = false) (h : HostsOnly s s')
      (hframe : writesHost op = false → HostFrame (dropsPermit op) s s')
      (hcheckpoints : (∀ consumerName sequence, op ≠ .updateListenerCheckpoint consumerName sequence) →
        s'.checkpoints = s.checkpoints) : Executed notificationLength s op s'

end Store

/-- A statement that is no commit keeps the pointer of a row and moves its lease on. -/
structure TargetRow.Steady (t t' : TargetRow) : Prop where
  ref : t'.ref = t.ref
  pointer : t'.pointer = t.pointer
  lease : t.LeaseStep t'

theorem TargetRow.Steady.refl (t : TargetRow) : t.Steady t := ⟨rfl, rfl, .refl t⟩

theorem TargetRow.Kept.steady {t t' : TargetRow} (h : t.Kept t') : t.Steady t' :=
  ⟨h.ref, h.pointer, .of_lease_eq h.lease⟩

theorem TargetRow.Rescheduled.steady {t t' : TargetRow} (h : t.Rescheduled t') : t.Steady t' :=
  ⟨h.ref, h.pointer, h.lease⟩

namespace Store

/-- A step that publishes nothing: pointers stay, leases move on, and log rows are at most deleted, published snapshots
never. -/
structure Quiet (s s' : Store) : Prop where
  targets : Evolves TargetRow.id TargetRow.Steady TargetRow.Fresh s.targets s'.targets
  keyed : s.TargetsKeyed → s'.TargetsKeyed
  sound : s.TargetsSound → s'.TargetsSound
  runs : Deleted s.runs s'.runs
  snapshots : Deleted s.snapshots s'.snapshots
  published : ∀ t ∈ s.targets, ∀ id, t.currentSnapshotId = some id →
    lookup SnapshotRow.id s'.snapshots id = lookup SnapshotRow.id s.snapshots id
  events : Deleted s.events s'.events
  nextSnapshotId : s'.nextSnapshotId = s.nextSnapshotId
  nextEventSequence : s'.nextEventSequence = s.nextEventSequence

theorem Quiet.refl (s : Store) : Quiet s s :=
  ⟨Evolves.refl TargetRow.Steady.refl _ _, fun h => h, fun h => h, Deleted.refl _, Deleted.refl _,
    fun _ _ _ _ => rfl, Deleted.refl _, rfl, rfl⟩

/-- All that an operation can do: nothing, a quiet step, or a commit. -/
inductive StoreStep : Op → Store → Store → Prop where
  | rejected (op : Op) (s : Store) : StoreStep op s s
  | quiet {op : Op} {s s' : Store} (hop : op.isCommit = false) (h : Quiet s s') : StoreStep op s s'
  | commit {clocks : CommitClocks} {input : CommitInput} {s s' : Store} {target : TargetRow} {run : RunRow}
      (h : CommitEffect input s s' target run) : StoreStep (.commit clocks input) s s'

/-! ## Steps -/

section Steps
variable {op : Op} {s s' : Store}
variable {R : TargetRow → TargetRow → Prop} {drops : PermitRow → Bool} {len : SnapshotMetadata → Nat}

theorem answer_of {α : Type} {respond : α → Response} {x : Except StoreError (Store × α)} {P : Store → Prop}
    (hs : P s) (h : ∀ s' a, x = .ok (s', a) → P s') : P (s.answer respond x).1 := by
  cases x with
  | error e => exact hs
  | ok r => exact h r.1 r.2 rfl

theorem settle_of {x : Except StoreError Store} {P : Store → Prop} (hs : P s) (h : ∀ s', x = .ok s' → P s') :
    P (s.settle x).1 := by
  cases x with
  | error e => exact hs
  | ok s' => exact h s' rfl

theorem HostFrame.of_eq (hhosts : s'.hosts = s.hosts) (hpermits : s'.permits = s.permits)
    (hnext : s'.nextPermitId = s.nextPermitId) : HostFrame drops s s' := ⟨hhosts, .inl hpermits, hnext⟩

theorem HostFrame.of_targets (h : TargetsEffect R s s') :
    HostFrame drops s s' :=
  .of_eq (by rw [h.frame]) (by rw [h.frame]) (by rw [h.frame])

theorem HostFrame.of_pruned (h : Pruned s s')
    (hpermits : s'.permits = s.permits ∨ s'.permits = deleteWhere drops s.permits) : HostFrame drops s s' :=
  ⟨by rw [h.frame], hpermits, by rw [h.frame]⟩

theorem HostFrame.deleted (h : HostFrame drops s s') : Deleted s.permits s'.permits := by
  rcases h.permits with hsame | hdeleted
  · rw [hsame]
    exact Deleted.refl _
  · exact ⟨_, hdeleted⟩

theorem HostFrame.mem_permits (h : HostFrame drops s s') {permit : PermitRow} (hp : permit ∈ s.permits)
    (hkept : drops permit = false) : permit ∈ s'.permits := by
  rcases h.permits with hsame | hdeleted
  · rw [hsame]
    exact hp
  · rw [hdeleted]
    exact mem_deleteWhere.mpr ⟨hp, hkept⟩

theorem leased_effect {p : TargetRow → Bool} {f : TargetRow → TargetRow} {n : Nat} (h : s.updateTargets p f = .ok (s', n))
    (hf : ∀ t : TargetRow, t.Leased (f t)) : TargetsEffect TargetRow.Rescheduled s s' := by
  refine updateTargets_effect h (fun t => ?_) (fun t _ => (hf t).rescheduled) TargetRow.Rescheduled.refl
  rw [(hf t).columns]
  exact ⟨rfl, rfl, fun h => h⟩

theorem seedHost_checkpoints {clock : Time} {seed : HostStateSeed} (h : s.seedHost clock seed = .ok s') :
    s'.checkpoints = s.checkpoints := by
  unfold seedHost at h
  repeat' split at h
  all_goals cases h
  all_goals rfl

theorem acquireHostPermit_checkpoints {request : AcquireHostPermitRequest} {decision : PermitDecision}
    (h : s.acquireHostPermit request = .ok (s', decision)) : s'.checkpoints = s.checkpoints := by
  rcases acquireHostPermit_inv h with rfl | ⟨state, now, -, -, rfl | hd⟩
  · rfl
  · rfl
  · rcases decidePermit_inv hd with rfl | ⟨-, row, -, -, rfl⟩ <;> rfl

theorem exec_cases (len : SnapshotMetadata → Nat) (s : Store) (op : Op) :
    Executed len s op (s.exec len op).1 := by
  have hs : Executed len s op s := .unchanged op
  cases op with
  | seedHost clock seed =>
    exact settle_of hs fun _ h =>
      .hosted rfl (seedHost_hostsOnly h) (fun hw => by cases hw) fun _ => seedHost_checkpoints h
  | seed now seeds => exact settle_of hs fun _ h => .seeded h
  | claimDue locked request =>
    refine answer_of hs fun _ _ h => ?_
    obtain ⟨due, n, hu, -⟩ := claimDue_inv h
    exact .leased rfl hu (fun t => ⟨rfl, (takeLease_moved _ _ _ t).lease⟩) (.inr fun _ => le_refl _)
  | claimOne locked request =>
    refine answer_of hs fun _ _ h => ?_
    obtain ⟨t, -, n, hu, -⟩ := claimOne_inv h
    exact .leased rfl hu (fun t => ⟨rfl, (takeLease_moved _ _ _ t).lease⟩) (.inr fun _ => le_refl _)
  | renewLease request =>
    refine settle_of hs fun _ h => ?_
    obtain ⟨n, hu⟩ := renewLease_inv h
    exact .leased rfl hu (fun t => ⟨rfl, .inr ⟨rfl, fun hn => hn⟩⟩) (.inr fun _ => le_refl _)
  | releaseLease now request =>
    refine settle_of hs fun _ h => ?_
    obtain ⟨n, hu⟩ := releaseLease_inv h
    exact .leased rfl hu (fun t => ⟨rfl, (freeLease_moved _ t).lease⟩) (.inr fun _ => le_refl _)
  | rescheduleLease now id g next =>
    refine settle_of hs fun _ h => ?_
    obtain ⟨n, hu, -⟩ := rescheduleLease_inv h
    exact .leased rfl hu (fun t => ⟨rfl, .inr ⟨rfl, fun _ => rfl⟩⟩) (.inl ⟨now, id, g, next, rfl⟩)
  | setDueNow ref now =>
    refine settle_of hs fun _ h => ?_
    obtain ⟨n, hu⟩ := setDueNow_inv h
    exact .leased rfl hu (fun t => ⟨rfl, .inr ⟨rfl, fun hn => hn⟩⟩) (.inr fun _ => min_le_left _ _)
  | commit clocks input => exact answer_of hs fun _ _ h => .committed h
  | reconcileLifecycle now input => exact settle_of hs fun _ h => .reconciled h
  | repairStaleTargets ids now =>
    refine answer_of hs fun _ _ h => ?_
    unfold repairStaleTargets at h
    split at h
    · cases h
      exact hs
    · exact .leased rfl h (fun t => ⟨rfl, (repairTarget_moved _ t).lease⟩) (.inr fun _ => min_le_left _ _)
  | pruneSnapshots cutoff batchSize =>
    exact answer_of hs fun _ _ h => .pruned rfl (pruneSnapshots_ok h) (fun hp => by cases hp)
      (.of_pruned (pruneSnapshots_ok h) (.inl (pruneSnapshots_permits h)))
  | pruneRuns cutoff batchSize =>
    exact .pruned rfl (pruneRuns_ok s cutoff batchSize) (fun _ => rfl) (.of_pruned (pruneRuns_ok s cutoff batchSize) (.inl rfl))
  | prunePermits now =>
    exact .pruned rfl (prunePermits_ok s now) (fun _ => rfl) (.of_pruned (prunePermits_ok s now) (.inr rfl))
  | prune request =>
    exact answer_of hs fun _ _ h => .pruned rfl (prune_ok h) (fun hp => by cases hp)
      (.of_pruned (prune_ok h) (.inr (prune_permits h)))
  | pruneCommitEvents now => exact .dequeued now
  | acquireHostPermit request =>
    exact answer_of hs fun _ _ h =>
      .hosted rfl (acquireHostPermit_hostsOnly h) (fun hw => by cases hw) fun _ => acquireHostPermit_checkpoints h
  | releaseHostPermit permitID =>
    show Executed _ s _ (s.releaseHostPermit permitID)
    unfold releaseHostPermit
    split
    · exact hs
    · exact .hosted rfl rfl (fun _ => ⟨rfl, .inr rfl, rfl⟩) fun _ => rfl
  | observeHost observation =>
    refine settle_of hs fun s' h => ?_
    obtain ⟨state, -, rfl⟩ := observeHost_inv h
    exact .hosted rfl rfl (fun hw => by cases hw) fun _ => rfl
  | updateListenerCheckpoint consumerName sequence =>
    have hhosted : ∀ checkpoints, Executed len s (.updateListenerCheckpoint consumerName sequence)
        { s with checkpoints := checkpoints } := fun _ =>
      .hosted rfl rfl (fun _ => .of_eq rfl rfl rfl) fun hother => absurd rfl (hother consumerName sequence)
    show Executed _ s _ (s.updateListenerCheckpoint consumerName sequence)
    unfold updateListenerCheckpoint
    split <;> exact hhosted _

theorem Quiet.of_targets (hR : ∀ t t', R t t' → t.Steady t') (h : TargetsEffect R s s') : Quiet s s' := by
  rw [h.frame]
  exact ⟨h.evolves.mono hR fun _ hf => hf, h.keyed, fun hs => (h.sound hs).congr rfl, Deleted.refl _, Deleted.refl _,
    fun _ _ _ _ => rfl, Deleted.refl _, rfl, rfl⟩

theorem Quiet.of_pruned (h : Pruned s s') : Quiet s s' := by
  rw [h.frame]
  exact ⟨Evolves.refl TargetRow.Steady.refl _ _, fun hk => hk, fun hs => hs.congr rfl, h.runs, h.snapshots, h.published,
    Deleted.refl _, rfl, rfl⟩

theorem Quiet.of_hosts (h : HostsOnly s s') : Quiet s s' := by
  rw [h]
  exact ⟨Evolves.refl TargetRow.Steady.refl _ _, fun hk => hk, fun hs => hs.congr rfl, Deleted.refl _, Deleted.refl _,
    fun _ _ _ _ => rfl, Deleted.refl _, rfl, rfl⟩

theorem pruneCommitEvents_quiet (s : Store) (now : Time) : Quiet s (s.pruneCommitEvents now).1 :=
  ⟨Evolves.refl TargetRow.Steady.refl _ _, fun h => h, fun h => h.congr rfl, Deleted.refl _, Deleted.refl _,
    fun _ _ _ _ => rfl, ⟨_, rfl⟩, rfl, rfl⟩

/-- **Every operation is one of the steps of `StoreStep`.** -/
theorem exec_step (len : SnapshotMetadata → Nat) (s : Store) (op : Op) :
    StoreStep op s (s.exec len op).1 := by
  have h := exec_cases len s op
  generalize (s.exec len op).1 = s' at h ⊢
  cases h with
  | unchanged => exact .rejected op s
  | seeded h => exact .quiet rfl (.of_targets (fun _ _ hu => hu.kept.steady) (upsertSeeds_ok h))
  | leased hop h hf => exact .quiet hop (.of_targets (fun _ _ hm => hm.steady) (leased_effect h hf))
  | committed h =>
    rcases commit_ok h with ⟨rfl, -⟩ | ⟨target, run, heffect⟩
    · exact .rejected _ _
    · exact .commit heffect
  | reconciled h => exact .quiet rfl (.of_targets (fun _ _ hk => hk.steady) (reconcileLifecycle_ok h))
  | pruned hop h => exact .quiet hop (.of_pruned h)
  | dequeued now => exact .quiet rfl (pruneCommitEvents_quiet s now)
  | hosted hop h => exact .quiet hop (.of_hosts h)

/-- The leases through a step: each moves on, and rows are never deleted. -/
theorem StoreStep.evolves (h : StoreStep op s s') :
    Evolves TargetRow.id (fun t t' => t'.ref = t.ref ∧ t.LeaseStep t') TargetRow.Fresh s.targets s'.targets := by
  cases h with
  | rejected => exact Evolves.refl (fun t => ⟨rfl, .refl t⟩) _ _
  | quiet _ h => exact h.targets.mono (fun _ _ hs => ⟨hs.ref, hs.lease⟩) fun _ hf => hf
  | @commit _ input _ _ _ _ h =>
    refine h.targets.mono (fun t t' hm => ⟨hm.ref, ?_⟩) fun _ hf => hf
    by_cases hid : t.id = input.targetID
    · exact .inr ⟨hm.generation, fun _ => (hm.committed hid).1⟩
    · exact .of_lease_eq (hm.kept hid).lease

theorem StoreStep.keyed (h : StoreStep op s s') (hk : s.TargetsKeyed) : s'.TargetsKeyed := by
  cases h with
  | rejected => exact hk
  | quiet _ h | commit h => exact h.keyed hk

/-! ## The outbox and the checkpoints -/

/-- The sequences of the outbox come from a serial that starts at one. -/
structure Sequenced (s : Store) : Prop where
  next : 1 ≤ s.nextEventSequence
  events : ∀ e ∈ s.events, 1 ≤ e.sequence ∧ e.sequence < s.nextEventSequence

theorem StoreStep.sequenced (h : StoreStep op s s') (hs : s.Sequenced) : s'.Sequenced := by
  cases h with
  | rejected => exact hs
  | quiet _ h =>
    refine ⟨?_, fun e he => ?_⟩
    · rw [h.nextEventSequence]
      exact hs.next
    · rw [h.nextEventSequence]
      exact hs.events e (h.events.mem he)
  | @commit _ input _ _ _ _ h =>
    cases hp : publishes input with
    | false =>
      obtain ⟨-, -, hnext, hevents⟩ := h.unpublished hp
      refine ⟨?_, fun e he => ?_⟩
      · rw [hnext]
        exact hs.next
      · rw [hevents] at he
        rw [hnext]
        exact hs.events e he
    | true =>
      obtain ⟨-, -, hnext, now, hevents⟩ := h.published hp
      have hstart := hs.next
      refine ⟨by omega, fun e he => ?_⟩
      rw [hevents] at he
      rcases List.mem_append.mp he with he | he
      · have := hs.events e he
        omega
      · rw [List.mem_singleton.mp he]
        refine ⟨hstart, ?_⟩
        show s.nextEventSequence < s'.nextEventSequence
        omega

theorem TargetsEffect.checkpoints (h : TargetsEffect R s s') :
    s'.checkpoints = s.checkpoints := by rw [h.frame]

theorem exec_checkpoints (len : SnapshotMetadata → Nat) (s : Store)
    (hop : ∀ consumerName sequence, op ≠ .updateListenerCheckpoint consumerName sequence) :
    (s.exec len op).1.checkpoints = s.checkpoints := by
  have h := exec_cases len s op
  generalize (s.exec len op).1 = s' at h ⊢
  cases h with
  | unchanged => rfl
  | seeded h => exact (upsertSeeds_ok h).checkpoints
  | leased _ h hf => exact (leased_effect h hf).checkpoints
  | committed h =>
    rcases commit_ok h with ⟨rfl, -⟩ | ⟨target, run, heffect⟩
    · rfl
    · exact heffect.checkpoints
  | reconciled h => exact (reconcileLifecycle_ok h).checkpoints
  | pruned _ h => rw [h.frame]
  | dequeued => rfl
  | hosted _ _ _ hcheckpoints => exact hcheckpoints hop

/-! ## The host tables -/

theorem Executed.hostFrame (h : Executed len s op s') (hop : writesHost op = false) :
    HostFrame (dropsPermit op) s s' := by
  cases h with
  | unchanged => exact .of_eq rfl rfl rfl
  | seeded h => exact .of_targets (upsertSeeds_ok h)
  | leased _ h hf => exact .of_targets (leased_effect h hf)
  | committed h =>
    rcases commit_ok h with ⟨rfl, -⟩ | ⟨target, run, heffect⟩
    · exact .of_eq rfl rfl rfl
    · exact .of_eq heffect.hosts heffect.permits.1 heffect.permits.2
  | reconciled h => exact .of_targets (reconcileLifecycle_ok h)
  | pruned _ _ _ hframe => exact hframe
  | dequeued => exact .of_eq rfl rfl rfl
  | hosted _ _ hframe => exact hframe hop

theorem exec_hostFrame (len : SnapshotMetadata → Nat) (s : Store) (hop : writesHost op = false) :
    HostFrame (dropsPermit op) s (s.exec len op).1 :=
  (exec_cases len s op).hostFrame hop

/-! ## Well-formed stores -/

/-- What constraints and sequences give: distinct keys, checked rows, and runs of targets that are there, none of a
lease yet to come. -/
structure WellFormed (s : Store) : Prop where
  targets : s.TargetsKeyed
  sound : s.TargetsSound
  snapshots : Keyed SnapshotRow.id s.nextSnapshotId s.snapshots
  runs : ∀ r ∈ s.runs, ∃ t, s.target? r.targetId = some t ∧ r.leaseGeneration ≤ t.leaseGeneration

theorem wellFormed_empty : WellFormed {} :=
  ⟨Keyed.nil, ⟨by simp, by simp, by simp⟩, Keyed.nil, by simp⟩

theorem claimed_unrecorded (hw : s.WellFormed) (heffect : TargetsEffect TargetRow.LeaseMoved s s')
    {target : ScrapeTarget}
    (h : s.Claimed s' target) : ∃ t, s'.target? target.id = some t ∧ target = scanScrapeTarget t ∧
      s'.run? t.id t.leaseGeneration = none := by
  obtain ⟨t, t', ht, ht', htarget, hgeneration⟩ := h
  refine ⟨t', ht', htarget, ?_⟩
  rw [heffect.frame]
  unfold run?
  rw [List.find?_eq_none]
  intro r hr hmatch
  simp only [Bool.and_eq_true, decide_eq_true_eq] at hmatch
  obtain ⟨t₀, ht₀, hle⟩ := hw.runs r hr
  have hid : r.targetId = target.id := by rw [hmatch.1, htarget]; rfl
  rw [hid] at ht₀
  rw [ht] at ht₀
  cases ht₀
  omega

theorem StoreStep.runs_below (h : StoreStep op s s') {runs : List RunRow}
    (hruns : ∀ r ∈ runs, ∃ t, s.target? r.targetId = some t ∧ r.leaseGeneration ≤ t.leaseGeneration) :
    ∀ r ∈ runs, ∃ t, s'.target? r.targetId = some t ∧ r.leaseGeneration ≤ t.leaseGeneration := by
  intro r hr
  obtain ⟨t, ht, hle⟩ := hruns r hr
  obtain ⟨t', ht', -, hstep⟩ := h.evolves.kept r.targetId t ht
  exact ⟨t', ht', hle.trans hstep.generation_le⟩

theorem StoreStep.seeded (h : StoreStep op s s') (hk : s.TargetsKeyed) {seed : TargetSeed} (hseed : s.Seeded seed) :
    s'.Seeded seed := by
  obtain ⟨t, ht, href⟩ := hseed.present
  obtain ⟨t', ht', href', -⟩ := h.evolves.kept t.id t (lookup_of_nodup hk.nodup ht)
  exact ⟨hseed.checks, t', (lookup_mem ht').1, href'.trans href⟩

theorem StoreStep.wellFormed (h : StoreStep op s s') (hw : s.WellFormed) : s'.WellFormed := by
  have hkeyed := h.keyed hw.targets
  have hbelow := h.runs_below hw.runs
  cases h with
  | rejected => exact hw
  | quiet _ h =>
    refine ⟨hkeyed, h.sound hw.sound, ?_, fun r hr => hbelow r (h.runs.mem hr)⟩
    rw [h.nextSnapshotId]
    exact h.snapshots.keyed hw.snapshots
  | @commit clocks input _ _ target run h =>
    refine ⟨hkeyed, h.sound hw.sound, ?_, fun r hr => ?_⟩
    · cases hp : publishes input with
      | true =>
        obtain ⟨hsnapshots, hnext, -⟩ := h.published hp
        rw [hsnapshots, hnext]
        exact hw.snapshots.snoc rfl (lt_add_one _)
      | false =>
        obtain ⟨⟨p, now, hsnapshots⟩, hnext, -⟩ := h.unpublished hp
        rw [hsnapshots, hnext]
        exact hw.snapshots.updateWhere fun _ => rfl
    · rw [h.runs.1] at hr
      rcases List.mem_append.mp hr with hr | hr
      · exact hbelow r hr
      · -- the run of this commit has the generation of the row it locked
        rw [List.mem_singleton.mp hr]
        obtain ⟨-, htarget, hgeneration, -⟩ := h.recorded
        obtain ⟨t', ht', hmoved⟩ := h.targets.kept _ _ h.locked
        rw [htarget, hgeneration]
        exact ⟨t', ht', by rw [hmoved.generation, h.generation]⟩

theorem Quiet.wellFormed (h : Quiet s s') (hw : s.WellFormed) : s'.WellFormed :=
  (@StoreStep.quiet (.prunePermits 0) s s' rfl h).wellFormed hw

theorem CommitEffect.wellFormed {input : CommitInput} {target : TargetRow} {run : RunRow}
    (h : CommitEffect input s s' target run) (hw : s.WellFormed) : s'.WellFormed :=
  (@StoreStep.commit ⟨0, 0, 0⟩ input s s' target run h).wellFormed hw

theorem exec_wellFormed (len : SnapshotMetadata → Nat) (s : Store) (op : Op) (hw : s.WellFormed) :
    (s.exec len op).1.WellFormed :=
  (exec_step len s op).wellFormed hw

end Steps

end Store

end QrCommandCenter
