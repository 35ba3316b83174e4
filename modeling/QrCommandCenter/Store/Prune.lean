import QrCommandCenter.Store.Effect
import Mathlib.Data.List.Sort

/-!
# Retention

`Prune` of `internal/db/snapshot_repository.go`. Each batch is a statement of its own, so other transactions may run
between two batches.

* `pruneSnapshots`, `pruneRuns`, `prunePermits` : one statement;
* `prune` : the loops over them;
* `pruneSnapshots_inv`, `prune_inv` : what a statement and a prune that succeed have done;
* `Pruned` : a prune deletes rows of the log tables, and no published snapshot (`prune_ok`).
-/

namespace QrCommandCenter
open Domain Table

structure PruneRequest where
  now : Time
  snapshotRetention : Duration
  runRetention : Duration
  batchSize : Int
deriving DecidableEq, Repr

structure PruneResult where
  snapshotsDeleted : Nat := 0
  runsDeleted : Nat := 0
  permitsDeleted : Nat := 0
deriving DecidableEq, Repr

namespace Store

variable {cutoff : Time} {batchSize n : Nat}

/-! ## Statements -/

/-- `ROW_NUMBER()` of a snapshot among those of its target, latest version first. -/
def position (s : Store) (row : SnapshotRow) : Nat :=
  1 + s.snapshots.countP fun other => other.targetId = row.targetId && row.version < other.version

/-- A snapshot the prune may delete: not among the three latest, not published, and fetched before the cutoff. -/
def prunableSnapshot (s : Store) (cutoff : Time) (row : SnapshotRow) : Bool :=
  match s.target? row.targetId with
  | none => false
  | some target =>
    3 < s.position row && target.currentSnapshotId ≠ some row.id && row.contentFetchedAt < cutoff

/-- The ids of the first `limit` rows in the order of their time and id. -/
def oldest {α : Type} (time : α → Time) (id : α → Int) (limit : Nat) (rows : List α) : List Int :=
  ((rows.insertionSort fun a b => time a < time b ∨ time a = time b ∧ id a ≤ id b).take limit).map id

section
variable (s : Store) (cutoff : Time)

def pruneSnapshots (batchSize : Nat) : Except StoreError (Store × Nat) :=
  let ids := oldest SnapshotRow.contentFetchedAt SnapshotRow.id batchSize
    (s.snapshots.filter (s.prunableSnapshot cutoff))
  if s.targets.any fun t => ids.any fun id => t.currentSnapshotId = some id then
    .error (.constraint "scrape_targets_current_snapshot_fk")
  else .ok ({ s with snapshots := deleteWhere (fun row => ids.contains row.id) s.snapshots },
    s.snapshots.countP fun row => ids.contains row.id)

/-- A run the prune may delete: finished before the cutoff and without a snapshot. -/
def prunableRun (run : RunRow) : Bool :=
  run.finishedAt < cutoff && !s.snapshots.any fun row => row.runId = some run.id

def pruneRuns (batchSize : Nat) : Store × Nat :=
  let ids := oldest RunRow.finishedAt RunRow.id batchSize (s.runs.filter (s.prunableRun cutoff))
  ({ s with runs := deleteWhere (fun run => ids.contains run.id) s.runs },
    s.runs.countP fun run => ids.contains run.id)

end

/-- The deletion of expired permits, with the number of deleted rows. -/
def prunePermits (s : Store) (now : Time) : Store × Nat :=
  ({ s with permits := deleteWhere (fun permit => permit.expiresAt ≤ now) s.permits },
    s.permits.countP fun permit => permit.expiresAt ≤ now)

/-! ## The loops -/

/-- The snapshot loop; every iteration but the last deletes a full batch, so the number of rows bounds it. -/
def pruneSnapshotsLoop (cutoff : Time) (batchSize : Nat) : Nat → Store → Nat → Except StoreError (Store × Nat)
  | 0, s, deleted => .ok (s, deleted)
  | fuel + 1, s, deleted => do
    let (s, n) ← s.pruneSnapshots cutoff batchSize
    if n < batchSize then .ok (s, deleted + n)
    else pruneSnapshotsLoop cutoff batchSize fuel s (deleted + n)

def pruneRunsLoop (cutoff : Time) (batchSize : Nat) : Nat → Store → Nat → Store × Nat
  | 0, s, deleted => (s, deleted)
  | fuel + 1, s, deleted =>
    let (s, n) := s.pruneRuns cutoff batchSize
    if n < batchSize then (s, deleted + n)
    else pruneRunsLoop cutoff batchSize fuel s (deleted + n)

def prune (s : Store) (request : PruneRequest) : Except StoreError (Store × PruneResult) :=
  if request.batchSize ≤ 0 ∨ 5000 < request.batchSize then
    .error (.invalid "prune batch size must be between 1 and 5000")
  else if request.snapshotRetention ≤ 0 ∨ request.runRetention ≤ 0 ∨ isZeroTime request.now then
    .error (.invalid "prune retention and time must be positive")
  else do
    let batchSize := request.batchSize.toNat
    let (s, snapshotsDeleted) ← pruneSnapshotsLoop (request.now - request.snapshotRetention) batchSize
      (s.snapshots.length + 1) s 0
    let (s, runsDeleted) := pruneRunsLoop (request.now - request.runRetention) batchSize (s.runs.length + 1) s 0
    let (s, permitsDeleted) := s.prunePermits request.now
    .ok (s, { snapshotsDeleted, runsDeleted, permitsDeleted })

/-! ## What a prune does -/

/-- Rows of the log tables are deleted, and no published snapshot. -/
structure Pruned (s s' : Store) : Prop where
  frame : s' = { s with snapshots := s'.snapshots, runs := s'.runs, permits := s'.permits }
  snapshots : Deleted s.snapshots s'.snapshots
  runs : Deleted s.runs s'.runs
  permits : Deleted s.permits s'.permits
  published : ∀ t ∈ s.targets, ∀ id, t.currentSnapshotId = some id →
    lookup SnapshotRow.id s'.snapshots id = lookup SnapshotRow.id s.snapshots id

variable {s s' : Store}

theorem Pruned.refl (s : Store) : Pruned s s :=
  ⟨rfl, Deleted.refl _, Deleted.refl _, Deleted.refl _, fun _ _ _ _ => rfl⟩

theorem Pruned.trans {a b c : Store} (h₁ : Pruned a b) (h₂ : Pruned b c) : Pruned a c := by
  have htargets : b.targets = a.targets := by rw [h₁.frame]
  refine ⟨?_, h₁.snapshots.trans h₂.snapshots, h₁.runs.trans h₂.runs, h₁.permits.trans h₂.permits,
    fun t ht id hid => ?_⟩
  · rw [h₂.frame, h₁.frame]
  · rw [h₂.published t (htargets ▸ ht) id hid, h₁.published t ht id hid]

/-- The row is in the batch of the first `limit` among those that `p` picks. -/
def inBatch {α : Type} (time : α → Time) (id : α → Int) (limit : Nat) (p : α → Bool) (rows : List α) (r : α) : Bool :=
  (oldest time id limit (rows.filter p)).contains (id r)

abbrev snapshotBatch (s : Store) (cutoff : Time) (batchSize : Nat) : SnapshotRow → Bool :=
  inBatch SnapshotRow.contentFetchedAt SnapshotRow.id batchSize (s.prunableSnapshot cutoff) s.snapshots

theorem pruneSnapshots_inv (h : s.pruneSnapshots cutoff batchSize = .ok (s', n)) :
    s' = { s with snapshots := deleteWhere (s.snapshotBatch cutoff batchSize) s.snapshots } ∧
      n = s.snapshots.countP (s.snapshotBatch cutoff batchSize) ∧
      ∀ t ∈ s.targets, ∀ row, t.currentSnapshotId = some row.id → s.snapshotBatch cutoff batchSize row = false := by
  simp only [pruneSnapshots] at h
  split at h
  · cases h
  · rename_i hfk
    cases h
    refine ⟨rfl, rfl, fun t ht row hid => ?_⟩
    -- the foreign key of the target keeps its snapshot out of the batch
    rw [Bool.eq_false_iff]
    intro hmem
    exact hfk (List.any_eq_true.mpr ⟨t, ht, List.any_eq_true.mpr ⟨row.id, List.contains_iff_mem.mp hmem, by simp [hid]⟩⟩)

theorem pruneSnapshots_ok (h : s.pruneSnapshots cutoff batchSize = .ok (s', n)) : Pruned s s' := by
  obtain ⟨rfl, -, hfk⟩ := pruneSnapshots_inv h
  refine ⟨rfl, ⟨_, rfl⟩, Deleted.refl _, Deleted.refl _, fun t ht id hid => ?_⟩
  exact lookup_deleteWhere fun row _ hrow => hfk t ht row (by rw [hid, hrow])

theorem pruneRuns_ok (s : Store) (cutoff : Time) (batchSize : Nat) : Pruned s (s.pruneRuns cutoff batchSize).1 :=
  ⟨rfl, Deleted.refl _, ⟨_, rfl⟩, Deleted.refl _, fun _ _ _ _ => rfl⟩

theorem prunePermits_ok (s : Store) (now : Time) : Pruned s (s.prunePermits now).1 :=
  ⟨rfl, Deleted.refl _, Deleted.refl _, ⟨_, rfl⟩, fun _ _ _ _ => rfl⟩

theorem pruneSnapshotsLoop_ok {fuel deleted : Nat}
    (h : pruneSnapshotsLoop cutoff batchSize fuel s deleted = .ok (s', n)) : Pruned s s' := by
  induction fuel generalizing s deleted with
  | zero =>
    cases h
    exact Pruned.refl _
  | succ fuel ih =>
    obtain ⟨⟨s₁, k⟩, h₁, h⟩ := bind_eq_ok.mp h
    have hp := pruneSnapshots_ok h₁
    simp only at h
    split at h
    · cases h
      exact hp
    · exact hp.trans (ih h)

theorem pruneRunsLoop_ok (cutoff : Time) (batchSize fuel : Nat) (s : Store) (deleted : Nat) :
    Pruned s (pruneRunsLoop cutoff batchSize fuel s deleted).1 := by
  induction fuel generalizing s deleted with
  | zero => exact Pruned.refl s
  | succ fuel ih =>
    have hp := pruneRuns_ok s cutoff batchSize
    simp only [pruneRunsLoop]
    split
    · exact hp
    · exact hp.trans (ih _ _)

section
variable {request : PruneRequest} {result : PruneResult} (h : s.prune request = .ok (s', result))
include h

theorem prune_inv :
    0 < request.batchSize.toNat ∧ ∃ s₁ : Store,
      pruneSnapshotsLoop (request.now - request.snapshotRetention) request.batchSize.toNat (s.snapshots.length + 1) s 0 =
        .ok (s₁, result.snapshotsDeleted) ∧
      ((pruneRunsLoop (request.now - request.runRetention) request.batchSize.toNat (s₁.runs.length + 1) s₁ 0).1.prunePermits
        request.now).1 = s' ∧
      (pruneRunsLoop (request.now - request.runRetention) request.batchSize.toNat (s₁.runs.length + 1) s₁ 0).2 =
        result.runsDeleted := by
  obtain ⟨hbatch, h⟩ := ite_error_eq_ok.mp h
  obtain ⟨-, h⟩ := ite_error_eq_ok.mp h
  obtain ⟨⟨s₁, n⟩, h₁, h⟩ := bind_eq_ok.mp h
  cases h
  exact ⟨by omega, s₁, h₁, rfl, rfl⟩

theorem prune_ok :
    Pruned s s' := by
  obtain ⟨-, s₁, h₁, rfl, -⟩ := prune_inv h
  exact (pruneSnapshotsLoop_ok h₁).trans ((pruneRunsLoop_ok ..).trans (prunePermits_ok ..))

end

theorem pruneSnapshots_permits (h : s.pruneSnapshots cutoff batchSize = .ok (s', n)) : s'.permits = s.permits := by
  rw [(pruneSnapshots_inv h).1]

theorem pruneSnapshotsLoop_frame {fuel deleted : Nat}
    (h : pruneSnapshotsLoop cutoff batchSize fuel s deleted = .ok (s', n)) : s' = { s with snapshots := s'.snapshots } := by
  induction fuel generalizing s deleted with
  | zero =>
    cases h
    rfl
  | succ fuel ih =>
    obtain ⟨⟨s₁, k⟩, h₁, h⟩ := bind_eq_ok.mp h
    obtain ⟨rfl, -⟩ := pruneSnapshots_inv h₁
    simp only at h
    split at h
    · cases h
      rfl
    · have hrest := ih h
      exact hrest

theorem pruneRunsLoop_frame (cutoff : Time) (batchSize fuel : Nat) (s : Store) (deleted : Nat) :
    (pruneRunsLoop cutoff batchSize fuel s deleted).1 =
      { s with runs := (pruneRunsLoop cutoff batchSize fuel s deleted).1.runs } := by
  induction fuel generalizing s deleted with
  | zero => rfl
  | succ fuel ih =>
    simp only [pruneRunsLoop]
    split
    · rfl
    · exact ih _ _

theorem prune_permits {request : PruneRequest} {result : PruneResult} (h : s.prune request = .ok (s', result)) :
    s'.permits = deleteWhere (fun permit => permit.expiresAt ≤ request.now) s.permits := by
  obtain ⟨-, s₁, h₁, rfl, -⟩ := prune_inv h
  show deleteWhere _ (pruneRunsLoop _ _ _ s₁ 0).1.permits = _
  rw [pruneRunsLoop_frame, pruneSnapshotsLoop_frame h₁]

end Store

end QrCommandCenter
