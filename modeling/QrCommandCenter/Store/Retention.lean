import QrCommandCenter.Store.Columns
import Mathlib.Data.List.MinMax

/-!
# Runs and snapshots under retention

A published version has two rows, its run and its snapshot, which `Prune` deletes by rules of their own: a snapshot by the
snapshot retention once it is not among the latest of its target, a run by the run retention once it has no snapshot.

* `inBatch_last`, `inBatch_more` : how batches add up to one deletion;
* `countP_above_deleteWhere` : the ranking that each batch computes again picks the same snapshots;
* `prune_left`, `prune_exact` : a whole `Prune` deletes exactly the rows it is to delete, whatever its batch size;
* `Numbered` : the ids of runs come from one serial, and snapshots refer to runs that were numbered;
* `Numbered.exec`, `Numbered.commit` : every operation keeps that.
-/

namespace QrCommandCenter
open Domain Table

namespace Store
variable {s s' : Store}
variable {cutoff : Time} {batchSize : Nat}

/-! ## Batches -/

section
variable {α : Type} {time : α → Time} {id : α → Int} {limit : Nat} {rows : List α}

theorem oldest_mem {k : Int} (h : k ∈ oldest time id limit rows) : ∃ r ∈ rows, id r = k := by
  obtain ⟨r, hr, hk⟩ := List.mem_map.mp h
  exact ⟨r, (List.mem_insertionSort _).mp (List.mem_of_mem_take hr), hk⟩

theorem oldest_short
    (h : rows.countP (fun r => (oldest time id limit rows).contains (id r)) < limit) {r : α} (hr : r ∈ rows) :
    id r ∈ oldest time id limit rows := by
  generalize hsorted : (rows.insertionSort fun a b => time a < time b ∨ time a = time b ∧ id a ≤ id b) = sorted at *
  have hperm : sorted.Perm rows := by
    rw [← hsorted]
    exact List.perm_insertionSort _ rows
  have hids : oldest time id limit rows = (sorted.take limit).map id := by rw [oldest, hsorted]
  rw [hids] at h ⊢
  -- every row of the batch is counted
  have hcount : (sorted.take limit).length ≤
      rows.countP fun r => ((sorted.take limit).map id).contains (id r) := by
    calc (sorted.take limit).length
        = (sorted.take limit).countP fun r => ((sorted.take limit).map id).contains (id r) := by
          rw [eq_comm, List.countP_eq_length]
          intro r hr
          exact List.contains_iff_mem.mpr (List.mem_map_of_mem hr)
      _ ≤ sorted.countP fun r => ((sorted.take limit).map id).contains (id r) :=
          (List.take_sublist limit sorted).countP_le
      _ = rows.countP fun r => ((sorted.take limit).map id).contains (id r) := hperm.countP_eq _
  have hshort : sorted.length ≤ limit := by
    rw [List.length_take] at hcount
    omega
  rw [List.take_of_length_le hshort]
  exact List.mem_map_of_mem (hperm.mem_iff.mpr hr)

/-- `rows'` are the rows that `p` does not pick, and the count has gone from `deleted` to `n` for those it picks. -/
structure Emptied (p : α → Bool) (rows rows' : List α) (deleted n : Nat) : Prop where
  left : rows' = deleteWhere p rows
  count : n + rows'.length = deleted + rows.length

variable {p p' : α → Bool} {rows' : List α} {deleted n : Nat}

theorem countP_add_deleteWhere (q : α → Bool) (rows : List α) :
    rows.countP q + (deleteWhere q rows).length = rows.length := by
  rw [List.length_eq_countP_add_countP q (l := rows), deleteWhere, ← List.countP_eq_length_filter]
  simp

theorem inBatch_shorter (hlimit : 0 < limit) (hfull : ¬ rows.countP (inBatch time id limit p rows) < limit) :
    (deleteWhere (inBatch time id limit p rows) rows).length < rows.length := by
  have hcount := countP_add_deleteWhere (inBatch time id limit p rows) rows
  omega

section
variable (hids : (rows.map id).Nodup)
include hids

theorem inBatch_picked {r : α} (hr : r ∈ rows) (hbatch : inBatch time id limit p rows r = true) : p r = true := by
  obtain ⟨old, hold, hid⟩ := oldest_mem (List.contains_iff_mem.mp hbatch)
  obtain ⟨hmem, hp⟩ := List.mem_filter.mp hold
  rw [← List.inj_on_of_nodup_map hids hmem hr hid]
  exact hp

theorem inBatch_last (hshort : rows.countP (inBatch time id limit p rows) < limit) :
    Emptied p rows (deleteWhere (inBatch time id limit p rows) rows) deleted
      (deleted + rows.countP (inBatch time id limit p rows)) := by
  refine ⟨List.filter_congr fun r hr => congrArg not (Bool.eq_iff_iff.mpr ⟨inBatch_picked hids hr, fun hp => ?_⟩), ?_⟩
  · exact List.contains_iff_mem.mpr
      (oldest_short (lt_of_le_of_lt (List.filter_sublist).countP_le hshort) (List.mem_filter.mpr ⟨hr, hp⟩))
  · rw [Nat.add_assoc, countP_add_deleteWhere]

theorem inBatch_more (hp : ∀ r, p' r = p r)
    (h : Emptied p' (deleteWhere (inBatch time id limit p rows) rows) rows'
      (deleted + rows.countP (inBatch time id limit p rows)) n) : Emptied p rows rows' deleted n := by
  obtain rfl : p' = p := funext hp
  refine ⟨?_, ?_⟩
  · rw [h.left, deleteWhere, deleteWhere, deleteWhere, List.filter_filter]
    refine List.filter_congr fun r hr => ?_
    cases hbatch : inBatch time id limit p' rows r with
    | true => simp [inBatch_picked hids hr hbatch]
    | false => simp
  · rw [h.count, Nat.add_assoc, countP_add_deleteWhere]

end

end

/-- The runs that may be deleted depend on the snapshots, which a batch of runs leaves. -/
theorem pruneRunsLoop_exact {fuel deleted : Nat} (hids : (s.runs.map RunRow.id).Nodup) (hpositive : 0 < batchSize)
    (hfuel : s.runs.length < fuel) : Emptied (s.prunableRun cutoff) s.runs
      (pruneRunsLoop cutoff batchSize fuel s deleted).1.runs deleted (pruneRunsLoop cutoff batchSize fuel s deleted).2 := by
  induction fuel generalizing s deleted with
  | zero => exact absurd hfuel (Nat.not_lt_zero _)
  | succ fuel ih =>
    simp only [pruneRunsLoop]
    split
    · rename_i hshort
      exact inBatch_last hids hshort
    · rename_i hfull
      have hless := inBatch_shorter hpositive hfull
      refine inBatch_more hids (fun _ => rfl) (ih (s := (s.pruneRuns cutoff batchSize).1) ?_ ?_)
      · exact hids.sublist (List.filter_sublist.map _)
      · exact lt_of_lt_of_le hless (Nat.le_of_lt_succ hfuel)

/-! ## A batch of snapshots -/

/-- The snapshot has the same target and a higher version. -/
def above (row other : SnapshotRow) : Bool := other.targetId = row.targetId && row.version < other.version

/-- The snapshots that are to be deleted: fetched before the cutoff, not the current one of their target, and with three
higher versions. -/
def Expired (s : Store) (cutoff : Time) (row : SnapshotRow) : Prop :=
  row.contentFetchedAt < cutoff ∧
    (∃ target, s.target? row.targetId = some target ∧ target.currentSnapshotId ≠ some row.id) ∧
    3 ≤ s.snapshots.countP (above row)

/-- **Deleting snapshots that have three above them does not change which snapshots have.** -/
theorem countP_above_deleteWhere {q : SnapshotRow → Bool} 
    (hq : ∀ x ∈ s.snapshots, q x = true → 3 ≤ s.snapshots.countP (above x)) (row : SnapshotRow) :
    3 ≤ (deleteWhere q s.snapshots).countP (above row) ↔ 3 ≤ s.snapshots.countP (above row) := by
  constructor
  · exact fun h => h.trans (List.filter_sublist).countP_le
  · intro h
    -- `y` is the highest snapshot above the row that is deleted, or the row itself
    obtain ⟨y, hy, hsub, hkept⟩ : ∃ y, 3 ≤ s.snapshots.countP (above y) ∧ (∀ x, above y x = true → above row x = true) ∧
        ∀ x ∈ s.snapshots, above y x = true → q x = false := by
      cases hmax : (s.snapshots.filter fun x => q x && above row x).argmax SnapshotRow.version with
      | none =>
        rw [List.argmax_eq_none, List.filter_eq_nil_iff] at hmax
        refine ⟨row, h, fun _ hx => hx, fun x hx habove => ?_⟩
        simpa [habove] using hmax x hx
      | some y =>
        obtain ⟨hmem, hy⟩ := List.mem_filter.mp (List.argmax_mem hmax)
        rw [Bool.and_eq_true] at hy
        have hsub : ∀ x, above y x = true → above row x = true := by
          intro x hx
          simp only [above, Bool.and_eq_true, decide_eq_true_eq] at hy hx ⊢
          exact ⟨hx.1.trans hy.2.1, hy.2.2.trans hx.2⟩
        refine ⟨y, hq y hmem hy.1, hsub, fun x hx habove => ?_⟩
        -- a deleted one above `y` would be higher
        by_contra hdeleted
        rw [Bool.not_eq_false] at hdeleted
        have hle := List.le_of_mem_argmax (List.mem_filter.mpr ⟨hx, by simp [hdeleted, hsub x habove]⟩) hmax
        simp only [above, Bool.and_eq_true, decide_eq_true_eq] at habove
        exact absurd habove.2 (not_lt.mpr hle)
    refine hy.trans ?_
    rw [deleteWhere, List.countP_filter]
    exact List.countP_mono_left fun x hx habove => by simp [hsub x habove, hkept x hx habove]

theorem prunableSnapshot_iff {row : SnapshotRow} : s.prunableSnapshot cutoff row = true ↔ s.Expired cutoff row := by
  have hposition : 3 < s.position row ↔ 3 ≤ s.snapshots.countP (above row) := Nat.lt_one_add_iff
  unfold prunableSnapshot Expired
  cases htarget : s.target? row.targetId with
  | none => simp
  | some target => simp [hposition, and_comm]

theorem prunableSnapshot_deleteWhere {q : SnapshotRow → Bool}
    (hq : ∀ x ∈ s.snapshots, q x = true → s.prunableSnapshot cutoff x = true) (row : SnapshotRow) :
    ({ s with snapshots := deleteWhere q s.snapshots } : Store).prunableSnapshot cutoff row =
      s.prunableSnapshot cutoff row := by
  rw [Bool.eq_iff_iff, prunableSnapshot_iff, prunableSnapshot_iff,
    Expired, countP_above_deleteWhere fun x hx hqx => (prunableSnapshot_iff.mp (hq x hx hqx)).2.2]
  rfl

theorem pruneSnapshotsLoop_exact {fuel deleted n : Nat} (hids : (s.snapshots.map SnapshotRow.id).Nodup)
    (hpositive : 0 < batchSize) (hfuel : s.snapshots.length < fuel)
    (h : pruneSnapshotsLoop cutoff batchSize fuel s deleted = .ok (s', n)) :
    Emptied (s.prunableSnapshot cutoff) s.snapshots s'.snapshots deleted n := by
  induction fuel generalizing s deleted with
  | zero => exact absurd hfuel (Nat.not_lt_zero _)
  | succ fuel ih =>
    obtain ⟨⟨s₁, k⟩, h₁, h⟩ := bind_eq_ok.mp h
    obtain ⟨rfl, rfl, -⟩ := pruneSnapshots_inv h₁
    simp only at h
    split at h
    · rename_i hshort
      cases h
      exact inBatch_last hids hshort
    · rename_i hfull
      have hless := inBatch_shorter hpositive hfull
      refine inBatch_more hids (prunableSnapshot_deleteWhere fun x hx hbatch => inBatch_picked hids hx hbatch)
        (ih ?_ ?_ h)
      · exact hids.sublist (List.filter_sublist.map _)
      · exact lt_of_lt_of_le hless (Nat.le_of_lt_succ hfuel)

/-- **What a `Prune` leaves**: the snapshots that were not to be deleted, and the runs that are not with these. -/
theorem prune_left {request : PruneRequest} {result : PruneResult} (hsnapshots : (s.snapshots.map SnapshotRow.id).Nodup)
    (hruns : (s.runs.map RunRow.id).Nodup) (h : s.prune request = .ok (s', result)) :
    Emptied (s.prunableSnapshot (request.now - request.snapshotRetention)) s.snapshots s'.snapshots 0
        result.snapshotsDeleted ∧
      Emptied (s'.prunableRun (request.now - request.runRetention)) s.runs s'.runs 0 result.runsDeleted := by
  obtain ⟨hpositive, s₁, h₁, rfl, hcount⟩ := prune_inv h
  have hkept : s₁.runs = s.runs := by rw [pruneSnapshotsLoop_frame h₁]
  have hleft : (pruneRunsLoop (request.now - request.runRetention) request.batchSize.toNat (s₁.runs.length + 1) s₁
      0).1.snapshots = s₁.snapshots := by rw [pruneRunsLoop_frame]
  refine ⟨?_, ?_⟩
  · rw [prunePermits, hleft]
    exact pruneSnapshotsLoop_exact hsnapshots hpositive (Nat.lt_succ_self _) h₁
  · unfold prunePermits prunableRun
    rw [hleft, ← hcount, ← hkept]
    exact pruneRunsLoop_exact (hkept ▸ hruns) hpositive (Nat.lt_succ_self _)

/-! ## An exact prune -/

/-- The snapshot that a target points at is one of its own. -/
def PointsToOwn (s : Store) : Prop :=
  ∀ t ∈ s.targets, ∀ row ∈ s.snapshots, t.currentSnapshotId = some row.id → s.target? row.targetId = some t

theorem pruneSnapshots_total (hown : s.PointsToOwn) (cutoff : Time) (batchSize : Nat) :
    ∃ s' n, s.pruneSnapshots cutoff batchSize = .ok (s', n) := by
  unfold pruneSnapshots
  rw [if_neg]
  · exact ⟨_, _, rfl⟩
  · intro hfk
    obtain ⟨t, ht, hany⟩ := List.any_eq_true.mp hfk
    obtain ⟨id, hid, hcurrent⟩ := List.any_eq_true.mp hany
    obtain ⟨row, hrow, rfl⟩ := oldest_mem hid
    obtain ⟨hmem, hprunable⟩ := List.mem_filter.mp hrow
    obtain ⟨-, ⟨target, htarget, hother⟩, -⟩ := prunableSnapshot_iff.mp hprunable
    rw [hown t ht row hmem (of_decide_eq_true hcurrent)] at htarget
    cases htarget
    exact hother (of_decide_eq_true hcurrent)

theorem pruneSnapshotsLoop_total (hown : s.PointsToOwn) (cutoff : Time) (batchSize fuel deleted : Nat) :
    ∃ s' n, pruneSnapshotsLoop cutoff batchSize fuel s deleted = .ok (s', n) := by
  induction fuel generalizing s deleted with
  | zero => exact ⟨_, _, rfl⟩
  | succ fuel ih =>
    obtain ⟨s₁, n, h₁⟩ := pruneSnapshots_total hown cutoff batchSize
    rw [pruneSnapshotsLoop, h₁]
    obtain ⟨rfl, -⟩ := pruneSnapshots_inv h₁
    show ∃ s' m, (if n < batchSize then _ else _) = Except.ok (s', m)
    split
    · exact ⟨_, _, rfl⟩
    · refine ih ?_ _
      exact fun t ht row hrow => hown t ht row (mem_deleteWhere.mp hrow).1

/-- What `Prune` is for, in terms of the rows before it. -/
structure ExactlyPruned (request : PruneRequest) (s s' : Store) (result : PruneResult) : Prop where
  snapshots : ∀ row, row ∈ s'.snapshots ↔
    row ∈ s.snapshots ∧ ¬ s.Expired (request.now - request.snapshotRetention) row
  runs : ∀ run, run ∈ s'.runs ↔ run ∈ s.runs ∧
    ¬ (run.finishedAt < request.now - request.runRetention ∧ ∀ row ∈ s'.snapshots, row.runId ≠ some run.id)
  snapshotsDeleted : result.snapshotsDeleted + s'.snapshots.length = s.snapshots.length
  runsDeleted : result.runsDeleted + s'.runs.length = s.runs.length

/-- **A prune is exact, whatever its batch size**, if no target points at a snapshot of another one. -/
theorem prune_exact (s : Store) (request : PruneRequest) (hsnapshots : (s.snapshots.map SnapshotRow.id).Nodup)
    (hruns : (s.runs.map RunRow.id).Nodup) (hown : s.PointsToOwn)
    (hbatch : 0 < request.batchSize ∧ request.batchSize ≤ 5000)
    (hretention : 0 < request.snapshotRetention ∧ 0 < request.runRetention) (hnow : isZeroTime request.now = false) :
    ∃ s' result, s.prune request = .ok (s', result) ∧ ExactlyPruned request s s' result := by
  have hprune : ∃ s' result, s.prune request = .ok (s', result) := by
    obtain ⟨s₁, n, h₁⟩ := pruneSnapshotsLoop_total hown (request.now - request.snapshotRetention)
      request.batchSize.toNat (s.snapshots.length + 1) 0
    rw [prune, if_neg (by omega), if_neg (by rw [hnow]; simp [hretention])]
    simp only [h₁]
    exact ⟨_, _, rfl⟩
  obtain ⟨s', result, h⟩ := hprune
  obtain ⟨hleft, hleft'⟩ := prune_left hsnapshots hruns h
  refine ⟨s', result, h, fun row => ?_, fun run => ?_, by simpa using hleft.count, by simpa using hleft'.count⟩
  · rw [hleft.left, mem_deleteWhere, ← prunableSnapshot_iff, Bool.not_eq_true]
  · rw [hleft'.left, mem_deleteWhere, prunableRun]
    simp

def versionedTarget (id : Int) (key : String) (current : Int) : TargetRow :=
  { seedRow id second { ref := { host := "h", kind := .courseCatalog, resourceKey := key }, initialInterval := minute
                        minInterval := minute, maxInterval := minute, maxServeAge := minute, nextRunAt := second } with
    currentSnapshotId := some current, currentVersion := 1, currentContentHash := some 1 }

/-- Four versions of the first target and one of the second, which points at `current`. -/
def fiveSnapshots (current : Int) : Store where
  targets := [versionedTarget 1 "a" 4, versionedTarget 2 "b" current]
  snapshots := [(1, 1, 1), (2, 1, 2), (3, 1, 3), (4, 1, 4), (5, 2, 1)].map fun (id, targetId, version) =>
    { id, targetId, version, runId := none, contentHash := 1, payload := .empty, contentFetchedAt := second
      verifiedAt := none, parserVersion := none, schemaVersion := none, rawBodyHash := none, complete := true
      manifest := {}, validationReport := {} }

def hourlyPrune : PruneRequest := { now := hour, snapshotRetention := minute, runRetention := minute, batchSize := 1 }

theorem prune_exact_own :
    ∃ s' result, (fiveSnapshots 5).prune hourlyPrune = .ok (s', result) ∧
      ExactlyPruned hourlyPrune (fiveSnapshots 5) s' result :=
  prune_exact _ _ (by decide) (by decide) (by unfold PointsToOwn; decide +kernel) (by decide) (by decide) (by decide)

/-- A pointer at a snapshot of another target makes the prune fail. -/
theorem crossed_pointer_not_pruned : ((fiveSnapshots 1).snapshots.map SnapshotRow.id).Nodup ∧
    ((fiveSnapshots 1).prune hourlyPrune).isOk = false := by
  decide +kernel

/-! ## The ids of runs -/

variable {op : Op}

/-- The ids of runs come from one serial, and snapshots refer to runs that were numbered. -/
structure Numbered (s : Store) : Prop where
  runs : Keyed RunRow.id s.nextRunId s.runs
  snapshots : ∀ row ∈ s.snapshots, ∀ id, row.runId = some id → id < s.nextRunId

theorem numbered_empty : Numbered {} := ⟨Keyed.nil, List.forall_mem_nil _⟩

/-- No run was numbered, and no snapshot deleted unless the operation prunes snapshots. -/
structure LogsKept (op : Op) (s s' : Store) : Prop where
  serial : s'.nextRunId = s.nextRunId
  snapshots : op.prunesSnapshots = false → s'.snapshots = s.snapshots

theorem TargetsEffect.logsKept {R : TargetRow → TargetRow → Prop} (op : Op) (h : TargetsEffect R s s') :
    LogsKept op s s' := by
  refine ⟨?_, fun _ => ?_⟩ <;> rw [h.frame]

section
variable (len : SnapshotMetadata → Nat) (s : Store) (hop : op.isCommit = false)
include hop

/-- Only a commit numbers a run, and only a prune of snapshots deletes one. -/
theorem exec_logsKept : LogsKept op s (s.exec len op).1 := by
  have h := exec_cases len s op
  generalize (s.exec len op).1 = s' at h ⊢
  cases h with
  | unchanged => exact ⟨rfl, fun _ => rfl⟩
  | seeded h => exact (upsertSeeds_ok h).logsKept _
  | leased _ h hf => exact (leased_effect h hf).logsKept _
  | committed => cases hop
  | reconciled h => exact (reconcileLifecycle_ok h).logsKept _
  | pruned _ h hsnapshots => exact ⟨by rw [h.frame], hsnapshots⟩
  | dequeued => exact ⟨rfl, fun _ => rfl⟩
  | hosted _ h => refine ⟨?_, fun _ => ?_⟩ <;> rw [h]

/-- What an operation that is no commit does to the runs and snapshots: it may delete some. -/
theorem exec_deleted : Deleted s.runs (s.exec len op).1.runs ∧
      Deleted s.snapshots (s.exec len op).1.snapshots := by
  have hstep := exec_step len s op
  generalize (s.exec len op).1 = s' at hstep
  cases hstep with
  | rejected => exact ⟨Deleted.refl _, Deleted.refl _⟩
  | quiet _ h => exact ⟨h.runs, h.snapshots⟩
  | commit h => cases hop

end

theorem Numbered.exec (h : s.Numbered) (len : SnapshotMetadata → Nat) (hop : op.isCommit = false) :
    (s.exec len op).1.Numbered := by
  obtain ⟨hruns, hsnapshots⟩ := exec_deleted len s hop
  refine ⟨?_, fun row hrow id hid => ?_⟩ <;> rw [(exec_logsKept len s hop).serial]
  · exact hruns.keyed h.runs
  · exact h.snapshots row (hsnapshots.mem hrow) id hid

/-- The rows of a snapshot table after a commit: the row it inserts, or a row that was there, perhaps verified again. -/
theorem mem_committedSnapshots {input : CommitInput} {target : TargetRow} {row : SnapshotRow}
    (h : row ∈ committedSnapshots input s target) :
    (publishes input = true ∧ row = snapshotRow s.nextSnapshotId s.nextRunId (target.currentVersion + 1) input) ∨
      row ∈ s.snapshots ∨ ∃ old ∈ s.snapshots, ∃ at_, row = verifySnapshot at_ old := by
  unfold committedSnapshots at h
  split at h
  · rename_i hp
    rcases List.mem_append.mp h with h | h
    · exact .inr (.inl h)
    · exact .inl ⟨hp, List.mem_singleton.mp h⟩
  · split at h
    · obtain ⟨old, hold, hrow⟩ := mem_updateWhere h
      split at hrow
      · exact .inr (.inr ⟨old, hold, _, hrow⟩)
      · rw [hrow]
        exact .inr (.inl hold)
    · exact .inr (.inl h)

theorem Numbered.commit (h : s.Numbered) {input : CommitInput} {target : TargetRow} {result : CommitResult}
    (hcommitted : Committed input s s' target result) : s'.Numbered := by
  have hnext : s.nextRunId < s'.nextRunId := by
    rw [hcommitted.nextRunId]
    exact Int.lt_succ _
  refine ⟨?_, fun row hrow id hid => ?_⟩
  · rw [hcommitted.runs]
    exact h.runs.snoc rfl hnext
  · rw [hcommitted.snapshots] at hrow
    rcases mem_committedSnapshots hrow with ⟨-, rfl⟩ | hold | ⟨old, hold, at_, rfl⟩
    · cases hid
      exact hnext
    · exact (h.snapshots row hold id hid).trans hnext
    · exact (h.snapshots old hold id hid).trans hnext

end Store

end QrCommandCenter
