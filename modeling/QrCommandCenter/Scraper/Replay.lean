import QrCommandCenter.App.Config
import QrCommandCenter.Scraper.Intervals
import QrCommandCenter.Store.Retention

/-!
# Repeated commits

A commit whose answer was lost is made again. `existingCommitResult` builds its answer from the recorded run and, for a
changed outcome, from the snapshot of that run and its target.

* `Replayed` : the repeated commit changes nothing and answers as the first;
* `Recorded` : the rows that a commit left, through all that follows;
* `RunOp.retains` : the prunes that keep runs no longer than snapshots;
* `replay_iff` : the commit is replayed exactly when its snapshot is still stored, which those prunes ensure.
-/

namespace QrCommandCenter.Scraper
open Domain Table Transition

variable {target : TargetRow} {clocks : CommitClocks} {first : CommitResult}

/-! ## Replays -/

def runID? : Response → Option Int
  | .committed result => some result.runID
  | _ => none

theorem runID?_eq_some {response : Response} {id : Int} (h : runID? response = some id) :
    ∃ result, response = .committed result ∧ result.runID = id := by
  cases response with
  | committed result => exact ⟨result, rfl, Option.some.inj h⟩
  | _ => cases h

/-- What a replay of a changed outcome has to return. -/
def versionContent (snapshot : Snapshot) : Int × ContentHash × RawMessage × Int :=
  (snapshot.version, snapshot.contentHash, snapshot.payload, snapshot.validationSeq)

/-- The repeated commit changes no row and returns the run and, for a changed outcome, the version of the first answer. -/
def Replayed (notificationLength : SnapshotMetadata → Nat) (s : Store) (clocks : CommitClocks) (input : CommitInput)
    (first : CommitResult) : Prop :=
  ∃ again, s.commit notificationLength clocks input = .ok (s, again) ∧ again.runID = first.runID ∧
    (input.outcome = .changed → ∃ old new, first.snapshot = some old ∧ again.snapshot = some new ∧
      versionContent new = versionContent old)

def SnapshotStored (s : Store) (runID : Int) : Prop := ∃ row ∈ s.snapshots, row.runId = some runID

structure VersionRow (input : CommitInput) (version : Int) (row : SnapshotRow) : Prop where
  target : row.targetId = input.targetID
  version : row.version = version
  hash : row.contentHash = input.contentHash
  payload : row.payload = input.payload
  fetched : row.contentFetchedAt = input.finishedAt

/-- What is left of a commit: its run unless it was pruned, and no snapshot of the run but the version it published. -/
structure Recorded (input : CommitInput) (runID seq version : Int) (s : Store) : Prop where
  numbered : s.Numbered
  issued : runID < s.nextRunId
  run : (∀ r ∈ s.runs, r.id ≠ runID) ∨
    s.run? input.targetID input.leaseGeneration = some (Store.runRow runID input seq)
  snapshots : ∀ row ∈ s.snapshots, row.runId = some runID → VersionRow input version row

section Steps
variable {len : SnapshotMetadata → Nat} {s s' : Store} {input : CommitInput} {runID seq version : Int}
variable {result : CommitResult}

theorem find?_deleteWhere {α : Type} {p q : α → Bool} {rows : List α} {r : α} (h : rows.find? q = some r)
    (hkept : p r = false) : (deleteWhere p rows).find? q = some r := by
  obtain ⟨hq, before, after, rfl, hbefore⟩ := List.find?_eq_some_iff_append.mp h
  refine List.find?_eq_some_iff_append.mpr ⟨hq, deleteWhere p before, deleteWhere p after, ?_, fun a ha => ?_⟩
  · simp [deleteWhere, hkept]
  · exact hbefore a (mem_deleteWhere.mp ha).1

theorem Recorded.run_eq (h : Recorded input runID seq version s) (hkept : ∃ r ∈ s.runs, r.id = runID) :
    s.run? input.targetID input.leaseGeneration = some (Store.runRow runID input seq) := by
  rcases h.run with hgone | hrun
  · obtain ⟨r, hr, hid⟩ := hkept
    exact absurd hid (hgone r hr)
  · exact hrun

theorem recorded_committed (hs : s.Numbered) (h : Store.Committed input s s' target result) :
    Recorded input result.runID (Store.commitSeq input target) (target.currentVersion + 1) s' := by
  have hs' := hs.commit h
  rw [h.runID]
  refine ⟨hs', ?_, .inr ?_, fun row hrow hid => ?_⟩
  · rw [h.nextRunId]
    exact Int.lt_succ _
  · have hunrecorded := h.unrecorded
    unfold Store.run? at hunrecorded ⊢
    rw [h.runs, List.find?_append, hunrecorded, Option.none_or]
    exact List.find?_cons_of_pos (by simp [Store.runRow])
  · rw [h.snapshots] at hrow
    rcases Store.mem_committedSnapshots hrow with ⟨-, rfl⟩ | hold | ⟨old, hold, at_, rfl⟩
    · exact ⟨rfl, rfl, rfl, rfl, rfl⟩
    · exact absurd (hs.snapshots row hold _ hid) (lt_irrefl _)
    · exact absurd (hs.snapshots old hold _ hid) (lt_irrefl _)

section
variable (h : Recorded input runID seq version s)
include h

theorem Recorded.commit {other : CommitInput} (hcommitted : Store.Committed other s s' target result) :
    Recorded input runID seq version s' := by
  refine ⟨h.numbered.commit hcommitted, ?_, ?_, fun row hrow hid => ?_⟩
  · rw [hcommitted.nextRunId]
    exact h.issued.trans (Int.lt_succ _)
  · rcases h.run with hgone | hrun
    · refine .inl fun r hr => ?_
      rw [hcommitted.runs] at hr
      rcases List.mem_append.mp hr with hr | hr
      · exact hgone r hr
      · rw [List.mem_singleton.mp hr]
        exact h.issued.ne'
    · right
      unfold Store.run? at hrun ⊢
      rw [hcommitted.runs, List.find?_append, hrun, Option.some_or]
  · rw [hcommitted.snapshots] at hrow
    rcases Store.mem_committedSnapshots hrow with ⟨-, rfl⟩ | hold | ⟨old, hold, at_, rfl⟩
    · cases hid
      exact absurd h.issued (lt_irrefl _)
    · exact h.snapshots row hold hid
    · obtain ⟨htarget, hversion, hhash, hpayload, hfetched⟩ := h.snapshots old hold hid
      exact ⟨htarget, hversion, hhash, hpayload, hfetched⟩

theorem Recorded.exec {op : Op} (hop : op.isCommit = false) :
    Recorded input runID seq version (s.exec len op).1 := by
  obtain ⟨hruns, hsnapshots⟩ := Store.exec_deleted len s hop
  refine ⟨h.numbered.exec len hop, ?_, ?_, fun row hrow => h.snapshots row (hsnapshots.mem hrow)⟩
  · rw [(Store.exec_logsKept len s hop).serial]
    exact h.issued
  · rcases h.run with hgone | hrun
    · exact .inl fun r hr => hgone r (hruns.mem hr)
    · obtain ⟨p, hp⟩ := hruns
      rw [hp]
      cases hdeleted : p (Store.runRow runID input seq) with
      | false =>
        right
        unfold Store.run? at hrun ⊢
        rw [hp]
        exact find?_deleteWhere hrun hdeleted
      | true =>
        -- the ids are distinct, so no other run has this one
        refine .inl fun r hr hid => ?_
        obtain ⟨hmem, hkept⟩ := mem_deleteWhere.mp hr
        rw [List.inj_on_of_nodup_map h.numbered.runs.nodup hmem (List.mem_of_find?_eq_some hrun) hid] at hkept
        rw [hkept] at hdeleted
        cases hdeleted

/-! ## The answer -/

theorem Recorded.snapshotByRun (hw : s.WellFormed)
    (hrun : s.run? input.targetID input.leaseGeneration = some (Store.runRow runID input seq))
    (hs : successfulOutcome input.outcome = true) (hstored : SnapshotStored s runID) (now : Time) :
    ∃ snapshot quality, s.snapshotByRun runID now = .ok (snapshot, quality) ∧
      versionContent snapshot = (version, input.contentHash, input.payload, seq) := by
  have hmem := List.mem_of_find?_eq_some hrun
  obtain ⟨target, htarget, -⟩ := hw.runs _ hmem
  have hlookup : lookup RunRow.id s.runs runID = some (Store.runRow runID input seq) :=
    lookup_of_nodup h.numbered.runs.nodup hmem
  have hseq : (Store.runRow runID input seq).validationSeqAfter = some seq := if_pos hs
  unfold Store.snapshotByRun
  cases hfind : s.snapshots.find? fun row => row.runId = some runID with
  | none =>
    obtain ⟨row, hrow, hid⟩ := hstored
    exact absurd (decide_eq_true hid) (List.find?_eq_none.mp hfind row hrow)
  | some row =>
    have hid : row.runId = some runID := by simpa using List.find?_some hfind
    obtain ⟨hrowTarget, hversion, hhash, hpayload, -⟩ := h.snapshots row (List.mem_of_find?_eq_some hfind) hid
    have htarget' : s.target? row.targetId = some target := by
      rw [hrowTarget]
      exact htarget
    simp only [htarget', hlookup, hseq]
    refine ⟨_, _, rfl, ?_⟩
    simp only [versionContent, hversion, hhash, hpayload]

end

theorem commit_replay (hvalid : validateCommit input = .ok ())
    (h : s.existingCommitResult clocks input.targetID input.leaseGeneration = .ok (some result)) :
    s.commit len clocks input = .ok (s, result) := by
  unfold Store.commit
  rw [hvalid, h]
  rfl

theorem commit_replay_error {err : StoreError} (hvalid : validateCommit input = .ok ())
    (h : s.existingCommitResult clocks input.targetID input.leaseGeneration = .error err) :
    s.commit len clocks input = .error err := by
  unfold Store.commit
  rw [hvalid, h]
  rfl

/-- **A recorded commit is replayed exactly when it published nothing or its snapshot is still stored.** -/
theorem Recorded.replays_iff (len : SnapshotMetadata → Nat) (h : Recorded input runID seq version s) (hw : s.WellFormed)
    (hkept : ∃ r ∈ s.runs, r.id = runID) (hvalid : validateCommit input = .ok ()) (hfirst : first.runID = runID)
    (hversion : input.outcome = .changed → ∃ old, first.snapshot = some old ∧
      versionContent old = (version, input.contentHash, input.payload, seq)) (clocks : CommitClocks) :
    Replayed len s clocks input first ↔ (input.outcome = .changed → SnapshotStored s runID) := by
  have hrun := h.run_eq hkept
  by_cases hchanged : input.outcome = .changed
  · constructor
    · rintro ⟨again, hagain, -⟩ -
      by_contra hgone
      -- without its snapshot the lookup of the run fails, and with it the commit
      have hfind : (s.snapshots.find? fun row => row.runId = some runID) = none :=
        List.find?_eq_none.mpr fun row hrow hid => hgone ⟨row, hrow, of_decide_eq_true hid⟩
      have hmissing : s.snapshotByRun runID clocks.qualityNow = .error (.snapshotByRun runID) := by
        unfold Store.snapshotByRun
        rw [hfind]
      have hexisting : s.existingCommitResult clocks input.targetID input.leaseGeneration =
          .error (.snapshotByRun runID) := by
        simp only [Store.existingCommitResult, hrun, Store.runRow, hchanged, hmissing, ne_eq, not_true_eq_false, if_false]
        rfl
      rw [commit_replay_error hvalid hexisting] at hagain
      cases hagain
    · intro hstored
      obtain ⟨snapshot, quality, hsnapshot, hcontent⟩ :=
        h.snapshotByRun hw hrun (by rw [hchanged]; rfl) (hstored hchanged) clocks.qualityNow
      obtain ⟨old, hold, hcontent'⟩ := hversion hchanged
      obtain ⟨again, hexisting, hid, hagain⟩ : ∃ again,
          s.existingCommitResult clocks input.targetID input.leaseGeneration = .ok (some again) ∧
            again.runID = runID ∧ again.snapshot = some snapshot := by
        simp only [Store.existingCommitResult, hrun, Store.runRow, hchanged, hsnapshot, ne_eq, not_true_eq_false, if_false]
        exact ⟨_, rfl, rfl, rfl⟩
      exact ⟨again, commit_replay hvalid hexisting, hid.trans hfirst.symm,
        fun _ => ⟨old, snapshot, hold, hagain, hcontent.trans hcontent'.symm⟩⟩
  · have hexisting : s.existingCommitResult clocks input.targetID input.leaseGeneration =
        .ok (some { runID := runID }) := by
      rw [Store.existingCommitResult, hrun]
      exact if_pos hchanged
    exact ⟨fun _ h => absurd h hchanged,
      fun _ => ⟨_, commit_replay hvalid hexisting, hfirst.symm, fun h => absurd h hchanged⟩⟩

end Steps

/-! ## Runs -/

/-- Prunes that keep runs no longer than snapshots. A batch of snapshot deletions on its own leaves the runs behind. -/
def RunOp.retains : RunOp → Bool
  | .transaction (.prune request) => request.runRetention ≤ request.snapshotRetention
  | .transaction (.pruneSnapshots _ _) => false
  | _ => true

def Covered (s : Store) (runID : Int) : Prop := (∃ r ∈ s.runs, r.id = runID) → SnapshotStored s runID

section Runs
variable {config : Config} {len : SnapshotMetadata → Nat} {w : Coordinators} {input : CommitInput}
  {runID seq version : Int}

theorem exec_store_inv {P : Store → Prop} (op : RunOp) (hw : w.Sound config) (h : P w.store)
    (hexec : ∀ tx : Op, tx.isCommit = false → P (w.store.exec len tx).1)
    (hcommit : ∀ {other s' target result}, Store.Committed other w.store s' target result → P s') :
    P (w.exec config len op).1.store := by
  rcases @Coordinators.exec_store len config w op hw.store.targets with
    heq | ⟨tx, -, htx, heq⟩ | ⟨other, target, result, hcommitted⟩
  · rw [heq]
    exact h
  · rw [heq]
    exact hexec tx htx
  · exact hcommit hcommitted

theorem snapshotStored_committed {s s' : Store} {result : CommitResult}
    (h : Store.Committed input s s' target result) (hstored : SnapshotStored s runID) : SnapshotStored s' runID := by
  obtain ⟨row, hrow, hid⟩ := hstored
  unfold SnapshotStored
  rw [h.snapshots, Store.committedSnapshots]
  split
  · exact ⟨row, List.mem_append_left _ hrow, hid⟩
  · split
    · refine ⟨_, List.mem_map_of_mem hrow, ?_⟩
      split <;> exact hid
    · exact ⟨row, hrow, hid⟩

theorem Recorded.pruned {s s' : Store} (h : Recorded input runID seq version s) (hw : s.WellFormed)
    (hcovered : Covered s runID) {request : PruneRequest} {result : PruneResult}
    (hretention : request.runRetention ≤ request.snapshotRetention) (hprune : s.prune request = .ok (s', result)) :
    Covered s' runID := by
  rintro ⟨r, hr, hid⟩
  have hmem := (Store.prune_ok hprune).runs.mem hr
  obtain ⟨row, hrow, hrowID⟩ := hcovered ⟨r, hmem, hid⟩
  have hfetched := (h.snapshots row hrow hrowID).fetched
  -- the run carries the same time as its snapshot
  have hfinished : r.finishedAt = input.finishedAt := by
    have hrun := h.run_eq ⟨r, hmem, hid⟩
    rw [List.inj_on_of_nodup_map h.numbered.runs.nodup hmem (List.mem_of_find?_eq_some hrun) hid]
    rfl
  obtain ⟨hsnapshots, hruns⟩ := Store.prune_left hw.snapshots.nodup h.numbered.runs.nodup hprune
  rcases le_or_gt (request.now - request.snapshotRetention) row.contentFetchedAt with hyoung | hold
  · refine ⟨row, ?_, hrowID⟩
    rw [hsnapshots.left, mem_deleteWhere, Bool.eq_false_iff, ne_eq, Store.prunableSnapshot_iff]
    exact ⟨hrow, fun hexpired => absurd hexpired.1 (not_lt.mpr hyoung)⟩
  · have hcutoff : r.finishedAt < request.now - request.runRetention := by
      rw [hfinished, ← hfetched]
      exact hold.trans_le (sub_le_sub_left hretention request.now)
    rw [hruns.left, mem_deleteWhere, Store.prunableRun, decide_eq_true hcutoff, Bool.true_and, Bool.not_eq_false',
      List.any_eq_true] at hr
    obtain ⟨-, row', hrow', hrowID'⟩ := hr
    exact ⟨row', hrow', (of_decide_eq_true hrowID').trans (congrArg some hid)⟩

theorem exec_covered {op : RunOp} (hop : op.retains = true) (hw : w.Sound config)
    (h : Recorded input runID seq version w.store) (hcovered : Covered w.store runID) :
    Covered (w.exec config len op).1.store runID := by
  rcases @Coordinators.exec_store len config w op hw.store.targets with
    heq | ⟨tx, rfl, htx, heq⟩ | ⟨other, target, result, hcommitted⟩
  · rw [heq]
    exact hcovered
  · rw [heq]
    cases hprunes : tx.prunesSnapshots with
    | false =>
      rintro ⟨r, hr, hid⟩
      unfold SnapshotStored
      rw [(Store.exec_logsKept len w.store htx).snapshots hprunes]
      exact hcovered ⟨r, (Store.exec_deleted len w.store htx).1.mem hr, hid⟩
    | true =>
      cases tx with
      | pruneSnapshots cutoff batchSize => cases hop
      | prune request =>
        exact Store.answer_of (P := fun s' => Covered s' runID) hcovered fun s' result hprune =>
          h.pruned hw.store hcovered (of_decide_eq_true hop) hprune
      | _ => cases hprunes
  · rintro ⟨r, hr, hid⟩
    rw [hcommitted.runs] at hr
    rcases List.mem_append.mp hr with hr | hr
    · exact snapshotStored_committed hcommitted (hcovered ⟨r, hr, hid⟩)
    · rw [List.mem_singleton.mp hr] at hid
      exact absurd h.issued (not_lt.mpr (le_of_eq hid))

variable {run : PendingRun}

theorem PendingRun.Built.publishes (h : run.Built config) (hchanged : run.input.outcome = .changed) :
    Store.publishes run.input = true := by
  obtain ⟨s, hbuilt⟩ := h
  obtain ⟨-, hinput⟩ := builtInput_eq_some hbuilt
  have hjudged := judge_judged config run.env run.target (previousSnapshot s run.env run.target.ref)
  generalize judge config run.env run.target (previousSnapshot s run.env run.target.ref) = judgement at hjudged hinput
  rw [hinput] at hchanged ⊢
  change judgement.outcome = .changed at hchanged
  show (successfulOutcome judgement.outcome && judgement.changed) = true
  cases hjudged with
  | failed _ houtcome _ =>
    rw [hchanged] at houtcome
    cases houtcome
  | notModified | fastPath => cases hchanged
  | unchanged _ _ _ _ houtcome _ =>
    rw [houtcome] at hchanged
    cases hchanged
  | changed _ _ _ _ houtcome hpublished _ =>
    rw [houtcome, hpublished]
    rfl

/-- The `k`th pending run commits after `before` and is recorded, `after` follows, and the run is still stored. -/
structure CommittedRun (config : Config) (notificationLength : SnapshotMetadata → Nat) (before after : List RunOp) (k : Nat)
    (clocks : CommitClocks) (run : PendingRun) (first : CommitResult) : Prop where
  pending : (final (Coordinators.exec config notificationLength) {} before).pending[k]? = some run
  unrecorded : (final (Coordinators.exec config notificationLength) {} before).store.run? run.input.targetID
    run.input.leaseGeneration = none
  committed : ((final (Coordinators.exec config notificationLength) {} before).exec config notificationLength
    (.commit k clocks)).2 = .committed first
  kept : ∃ r ∈ (final (Coordinators.exec config notificationLength) {} (before ++ .commit k clocks :: after)).store.runs,
    r.id = first.runID

/-- A sound machine whose runs are numbered. -/
structure Ledger (config : Config) (w : Coordinators) : Prop where
  sound : w.Sound config
  numbered : w.store.Numbered

theorem exec_ledger (w : Coordinators) (op : RunOp) (h : Ledger config w) :
    Ledger config (w.exec config len op).1 :=
  ⟨Coordinators.exec_sound op h.sound,
    exec_store_inv op h.sound h.numbered (fun _ htx => h.numbered.exec len htx) fun hcommitted => h.numbered.commit hcommitted⟩

structure RecordedIn (config : Config) (input : CommitInput) (runID seq version : Int) (w : Coordinators) : Prop where
  sound : w.Sound config
  recorded : Recorded input runID seq version w.store

theorem exec_recordedIn (w : Coordinators) (op : RunOp) (h : RecordedIn config input runID seq version w) :
    RecordedIn config input runID seq version (w.exec config len op).1 :=
  ⟨Coordinators.exec_sound op h.sound,
    exec_store_inv op h.sound h.recorded (fun _ htx => h.recorded.exec htx) fun hcommitted => h.recorded.commit hcommitted⟩

theorem Ledger.commit (hledger : Ledger config w) {k : Nat} (hpending : w.pending[k]? = some run)
    (hunrecorded : w.store.run? run.input.targetID run.input.leaseGeneration = none)
    (hanswer : (w.exec config len (.commit k clocks)).2 = .committed first) :
    ∃ target, RecordedIn config run.input first.runID (Store.commitSeq run.input target) (target.currentVersion + 1)
        (w.exec config len (.commit k clocks)).1 ∧
      validateCommit run.input = .ok () ∧
      (run.input.outcome = .changed → ∃ old, first.snapshot = some old ∧ versionContent old =
        (target.currentVersion + 1, run.input.contentHash, run.input.payload, Store.commitSeq run.input target)) ∧
      (run.input.outcome = .changed → SnapshotStored (w.exec config len (.commit k clocks)).1.store first.runID) := by
  have hbuilt := (hledger.sound.pending run (List.mem_of_getElem? hpending)).2
  have hsound' : Coordinators.Sound config (w.exec config len (.commit k clocks)).1 :=
    Coordinators.exec_sound _ hledger.sound
  rcases @Coordinators.exec_commit len config w k run hpending clocks hledger.sound.store.targets with
    ⟨-, hreplay⟩ | ⟨s', target, result, hcommitted, hcommit, heq⟩
  · exact absurd hunrecorded (hreplay first hanswer)
  · rw [heq] at hanswer hsound' ⊢
    cases hanswer
    refine ⟨target, ⟨hsound', recorded_committed hledger.numbered hcommitted⟩, Store.commit_valid hcommit, ?_, ?_⟩
    · intro hchanged
      refine ⟨Store.commitSnapshot target run.input (Store.commitSeq run.input target) (target.currentVersion + 1)
        w.store.nextSnapshotId, ?_, rfl⟩
      rw [hcommitted.snapshot, Store.commitSnapshotID, if_pos (hbuilt.publishes hchanged), Option.map_some]
    · intro hchanged
      unfold SnapshotStored
      rw [hcommitted.snapshots, Store.committedSnapshots, if_pos (hbuilt.publishes hchanged), hcommitted.runID]
      exact ⟨_, List.mem_append_right _ List.mem_cons_self, rfl⟩

/-- **A commit is replayed exactly when its snapshot is still stored**, if it published one; prunes that keep runs no
longer than snapshots leave no run without its own. -/
theorem replay_iff (config : Config) (notificationLength : SnapshotMetadata → Nat) (before after : List RunOp) (k : Nat)
    (clocks : CommitClocks) (run : PendingRun) (first : CommitResult)
    (h : CommittedRun config notificationLength before after k clocks run first) (again : CommitClocks) :
    (Replayed notificationLength
        (final (Coordinators.exec config notificationLength) {} (before ++ .commit k clocks :: after)).store again run.input
        first ↔
      (run.input.outcome = .changed → SnapshotStored
        (final (Coordinators.exec config notificationLength) {} (before ++ .commit k clocks :: after)).store
        first.runID)) ∧
    ((∀ op ∈ after, op.retains = true) → Replayed notificationLength
      (final (Coordinators.exec config notificationLength) {} (before ++ .commit k clocks :: after)).store again run.input
      first) := by
  have hledger : Ledger config (final (Coordinators.exec config notificationLength) {} before) :=
    final_inv exec_ledger ⟨Coordinators.sound_start config, Store.numbered_empty⟩ before
  obtain ⟨target, hfirst, hvalid, hversion, hstored⟩ := hledger.commit h.pending h.unrecorded h.committed
  have hkept := h.kept
  rw [final_append, final_cons] at hkept ⊢
  generalize ((final (Coordinators.exec config notificationLength) {} before).exec config notificationLength
    (.commit k clocks)).1 = w at *
  have hlast : RecordedIn config run.input first.runID (Store.commitSeq run.input target) (target.currentVersion + 1)
      (final (Coordinators.exec config notificationLength) w after) := final_inv exec_recordedIn hfirst after
  have hiff := hlast.recorded.replays_iff notificationLength hlast.sound.store hkept hvalid rfl hversion again
  refine ⟨hiff, fun hretains => hiff.mpr fun hchanged => ?_⟩
  refine (@final_inv_of_mem _ _ _ _ (fun w => RecordedIn config run.input first.runID (Store.commitSeq run.input target)
    (target.currentVersion + 1) w ∧ Covered w.store first.runID) _ ⟨hfirst, fun _ => hstored hchanged⟩ _ fun w op hop h => ?_).2 hkept
  exact ⟨exec_recordedIn w op h.1, exec_covered (hretains op hop) h.1.sound h.1.recorded h.2⟩

end Runs

/-! ## Four versions of a course and a prune -/

/-- The course is claimed and fetched for the first time. -/
def firstVersion : List RunOp :=
  [.transaction (.seedHost second
      { host := "h", baselineRequestsPerSecond := 1, burst := 1, baselineConcurrency := 1, now := second }),
    .transaction (.seed second [courseSeed catalogRef second { courseID := "c", name := "Course", status := .active }]),
    claimAt courseRef second, .build 0 (sampleFetch (.course (sampleCourse [])) second)]

/-- Three more versions, one in an hour, and a prune of the next day with the retentions of the configuration. -/
def laterVersions (config : ScraperConfig) : List RunOp :=
  [claimAt courseRef hour, .build 1 (sampleFetch (.course (sampleCourse ["1"])) hour), .commit 1 (clocksAt hour),
    claimAt courseRef (2 * hour), .build 2 (sampleFetch (.course (sampleCourse ["1", "2"])) (2 * hour)),
    .commit 2 (clocksAt (2 * hour)),
    claimAt courseRef (3 * hour), .build 3 (sampleFetch (.course (sampleCourse ["1", "2", "3"])) (3 * hour)),
    .commit 3 (clocksAt (3 * hour)),
    .transaction (.prune { now := 25 * hour, snapshotRetention := config.snapshotRetention,
                           runRetention := config.runRetention, batchSize := 500 })]

/-- Snapshots are kept for a day, and runs as long as by default. -/
def shortSnapshots : ScraperConfig := { snapshotRetention := 24 * hour }

/-- The store after both, and the input of the first version. -/
def prunedStore (config : ScraperConfig) : Store :=
  (final (Coordinators.exec sampleConfig fun _ => 0) {}
    (firstVersion ++ .commit 0 (clocksAt second) :: laterVersions config)).store

theorem firstVersion_committed (config : ScraperConfig) (hkept : (prunedStore config).runs.any (fun r => r.id = 1) = true) :
    ∃ run first, CommittedRun sampleConfig (fun _ => 0) firstVersion (laterVersions config) 0 (clocksAt second) run first ∧
      (final (Coordinators.exec sampleConfig fun _ => 0) {} firstVersion).pending[0]? = some run := by
  obtain ⟨run, hrun⟩ : ∃ run, (final (Coordinators.exec sampleConfig fun _ => 0) {} firstVersion).pending[0]? = some run :=
    Option.isSome_iff_exists.mp (by decide +kernel)
  have hunrecorded : ((final (Coordinators.exec sampleConfig fun _ => 0) {} firstVersion).pending[0]?).all (fun run =>
      ((final (Coordinators.exec sampleConfig fun _ => 0) {} firstVersion).store.run? run.input.targetID
        run.input.leaseGeneration).isNone) = true := by decide +kernel
  rw [hrun, Option.all_some, Option.isNone_iff_eq_none] at hunrecorded
  have hanswer : runID? ((final (Coordinators.exec sampleConfig fun _ => 0) {} firstVersion).exec sampleConfig (fun _ => 0)
      (.commit 0 (clocksAt second))).2 = some 1 := by decide +kernel
  obtain ⟨first, hfirst, hid⟩ := runID?_eq_some hanswer
  obtain ⟨r, hr, hrid⟩ := List.any_eq_true.mp hkept
  exact ⟨run, first, ⟨hrun, hunrecorded, hfirst, r, hr, (of_decide_eq_true hrid).trans hid.symm⟩, hrun⟩

theorem replay_iff_default :
    ∃ run first,
      CommittedRun sampleConfig (fun _ => 0) firstVersion (laterVersions {}) 0 (clocksAt second) run first ∧
      Replayed (fun _ => 0) (prunedStore {}) (clocksAt (25 * hour)) run.input first := by
  obtain ⟨run, first, hcommitted, -⟩ := firstVersion_committed {} (by decide +kernel)
  have hretains : ∀ op ∈ laterVersions {}, op.retains = true := by decide +kernel
  exact ⟨run, first, hcommitted, (replay_iff sampleConfig (fun _ => 0) firstVersion (laterVersions {}) 0 (clocksAt second)
    run first hcommitted (clocksAt (25 * hour))).2 hretains⟩

/-- **With runs kept longer than snapshots, which the configuration accepts, the repeated commit fails.** -/
theorem replay_lost :
    validateScraperConfig shortSnapshots = .ok () ∧
    ∃ run first,
      CommittedRun sampleConfig (fun _ => 0) firstVersion (laterVersions shortSnapshots) 0 (clocksAt second) run first ∧
      ¬ Replayed (fun _ => 0) (prunedStore shortSnapshots) (clocksAt (25 * hour)) run.input first := by
  refine ⟨by decide +kernel, ?_⟩
  have hfacts : (prunedStore shortSnapshots).runs.any (fun r => r.id = 1) = true ∧
      ((final (Coordinators.exec sampleConfig fun _ => 0) {} firstVersion).pending[0]?).all (fun run =>
        !((prunedStore shortSnapshots).commit (fun _ => 0) (clocksAt (25 * hour)) run.input).isOk) = true := by
    decide +kernel
  obtain ⟨hkept, hfailed⟩ := hfacts
  obtain ⟨run, first, hcommitted, hrun⟩ := firstVersion_committed shortSnapshots hkept
  refine ⟨run, first, hcommitted, ?_⟩
  rw [hrun, Option.all_some, Bool.not_eq_true'] at hfailed
  rintro ⟨again, hagain, -⟩
  rw [hagain] at hfailed
  cases hfailed

end QrCommandCenter.Scraper
