import QrCommandCenter.Scraper.Intervals
import QrCommandCenter.Scraper.Serving

/-!
# Freshness, stored twice

A successful commit stamps its finish time on the target (`last_validated_at`) and on the published snapshot
(`verified_at`), by different statements for a new version and for an unchanged one. `Current` judges expiry by the first
and `Metadata` derives the quality from the second.

* `recordedOutcome`, `lastOutcome` : the outcome that a step recorded for a target, and the last one of a run;
* `usableSnapshot` : the gate of the attendance export;
* `ServedRow` : both stamps of a published row agree, and its quality tells whether its last commit was successful;
* `quality_fresh_iff` : the quality is `verified_fresh` exactly when the last commit was successful and the snapshot has not
  expired.
-/

namespace QrCommandCenter.Scraper
open Domain Table Transition

variable {t : TargetRow} {t' : TargetRow} {e : RunEvent} {s : Store} {now : Time}

/-! ## Recorded commits -/

/-- The outcome that a step records for the target: that of a commit which the store accepts and had not recorded. -/
def recordedOutcome (id : Int) (e : RunEvent) : Option Outcome :=
  match e.op with
  | .commit k _ =>
    match e.pre.pending[k]?, e.out with
    | some run, .committed _ =>
      if run.input.targetID = id ∧ e.pre.store.run? run.input.targetID run.input.leaseGeneration = none then
        some run.input.outcome else none
    | _, _ => none
  | _ => none

def lastOutcome (events : List RunEvent) (id : Int) : Option Outcome := (events.filterMap (recordedOutcome id)).getLast?

def LastSuccessful (events : List RunEvent) (id : Int) : Prop :=
  (lastOutcome events id).any successfulOutcome = true

/-- `usableSnapshot` of the attendance export. -/
def usableSnapshot (metadata : SnapshotMetadata) : Bool :=
  metadata.complete && metadata.qualityState = .verifiedFresh && !isZeroTime metadata.validatedAt

theorem lastOutcome_snoc (events : List RunEvent) (e : RunEvent) (id : Int) :
    lastOutcome (events ++ [e]) id = (recordedOutcome id e).or (lastOutcome events id) := by
  unfold lastOutcome
  rw [List.filterMap_append]
  cases h : recordedOutcome id e with
  | none | some => simp [h]

section Recorded
variable {config : Config} {len : SnapshotMetadata → Nat} {w : Coordinators} {id : Int}

theorem recordedOutcome_other {op : RunOp} (hop : ∀ k clocks, op ≠ .commit k clocks) :
    recordedOutcome id (Event.of (Coordinators.exec config len) w op) = none := by
  unfold recordedOutcome
  split
  · rename_i k clocks hcommit
    exact absurd hcommit (hop k clocks)
  · rfl

section
variable {k : Nat} {clocks : CommitClocks} {run : PendingRun} (hrun : w.pending[k]? = some run)
include hrun

theorem recordedOutcome_same (h : ∀ result, (w.exec config len (.commit k clocks)).2 = .committed result →
      w.store.run? run.input.targetID run.input.leaseGeneration ≠ none) :
    recordedOutcome id (Event.of (Coordinators.exec config len) w (.commit k clocks)) = none := by
  simp only [recordedOutcome, Event.of, hrun]
  split
  · rename_i run' result hfound hout
    cases hfound
    exact if_neg fun hrecorded => h result hout hrecorded.2
  · rfl

theorem recordedOutcome_committed
    {result : CommitResult} (hout : (w.exec config len (.commit k clocks)).2 = .committed result)
    (hunrecorded : w.store.run? run.input.targetID run.input.leaseGeneration = none) :
    recordedOutcome id (Event.of (Coordinators.exec config len) w (.commit k clocks)) =
      if run.input.targetID = id then some run.input.outcome else none := by
  simp only [recordedOutcome, Event.of, hrun, hout, hunrecorded, and_true]

end

end Recorded

/-! ## Rows that are served -/

/-- A published row: both stamps agree, and its quality tells whether its last commit was successful. -/
structure ServedRow (events : List RunEvent) (s : Store) (id : Int) (t : TargetRow) (snapshotID : Int) : Prop where
  valid : t.ref.validate = .ok ()
  stamped : ∃ row at_, lookup SnapshotRow.id s.snapshots snapshotID = some row ∧ row.targetId = id ∧
    row.verifiedAt = some at_ ∧ t.lastValidatedAt = some at_ ∧ isZeroTime at_ = false
  quality : t.qualityState = .verifiedFresh ↔ LastSuccessful events id

structure Served (config : Config) (events : List RunEvent) (w : Coordinators) : Prop where
  sound : w.Sound config
  rows : ∀ id t snapshotID, w.store.target? id = some t → t.currentSnapshotId = some snapshotID →
    ServedRow events w.store id t snapshotID

theorem served_start (config : Config) : Served config [] {} :=
  ⟨Coordinators.sound_start config, fun id t snapshotID ht => by cases ht⟩

theorem content_eq (h : t'.content = t.content) :
    t'.currentSnapshotId = t.currentSnapshotId ∧ t'.lastValidatedAt = t.lastValidatedAt ∧
      t'.qualityState = t.qualityState := by
  simp only [TargetRow.content, TargetRow.pointer, Prod.mk.injEq] at h
  exact ⟨h.1.1, h.2.1, h.2.2⟩

/-- A row that keeps its content, whose snapshot is kept, and for which nothing is recorded. -/
theorem ServedRow.keep {events : List RunEvent} {s' : Store} {id : Int}
    {snapshotID : Int} (h : ServedRow events s id t snapshotID) (href : t'.ref = t.ref)
    (hcontent : t'.content = t.content)
    (hsnapshot : lookup SnapshotRow.id s'.snapshots snapshotID = lookup SnapshotRow.id s.snapshots snapshotID)
    (hrecorded : recordedOutcome id e = none) : ServedRow (events ++ [e]) s' id t' snapshotID := by
  obtain ⟨-, hvalidated, hquality⟩ := content_eq hcontent
  refine ⟨by rw [href]; exact h.valid, ?_, ?_⟩
  · rw [hsnapshot, hvalidated]
    exact h.stamped
  · rw [hquality, LastSuccessful, lastOutcome_snoc, hrecorded, Option.none_or]
    exact h.quality

section Rows
variable {config : Config} {len : SnapshotMetadata → Nat} {events : List RunEvent} {w : Coordinators}
variable {s' : Store} {id snapshotID : Int} {target : TargetRow} {result : CommitResult} {run : PendingRun}

variable {input : CommitInput}

theorem Served.touched (h : Served config events w) {seeds : List TargetSeed}
    (hrows : ∀ t, w.store.target? id = some t → ∃ t', s'.target? id = some t' ∧ t.Touched seeds t')
    (hnew : ∀ t', w.store.target? id = none → s'.target? id = some t' → t'.Planted seeds)
    (hsnapshots : ∀ t snapshotID, w.store.target? id = some t → t.currentSnapshotId = some snapshotID →
      lookup SnapshotRow.id s'.snapshots snapshotID = lookup SnapshotRow.id w.store.snapshots snapshotID)
    (hrecorded : recordedOutcome id e = none) (ht' : s'.target? id = some t')
    (hcurrent : t'.currentSnapshotId = some snapshotID) : ServedRow (events ++ [e]) s' id t' snapshotID := by
  cases ht : w.store.target? id with
  | none =>
    have hcontent := (hnew t' ht ht').content
    simp only [TargetRow.content, TargetRow.pointer, Prod.mk.injEq] at hcontent
    rw [hcontent.1.1] at hcurrent
    cases hcurrent
  | some t =>
    obtain ⟨t₁, ht₁, htouched⟩ := hrows t ht
    rw [ht'] at ht₁
    cases ht₁
    rw [(content_eq htouched.content).1] at hcurrent
    exact (h.rows id t snapshotID ht hcurrent).keep htouched.ref htouched.content (hsnapshots t snapshotID ht hcurrent)
      hrecorded

theorem exec_published (s : Store) {op : Op} (hop : op.isCommit = false) (ht : t ∈ s.targets)
    (hcurrent : t.currentSnapshotId = some snapshotID) :
    lookup SnapshotRow.id (s.exec len op).1.snapshots snapshotID =
      lookup SnapshotRow.id s.snapshots snapshotID := by
  have hstep := Store.exec_step len s op
  generalize (s.exec len op).1 = s' at hstep
  cases hstep with
  | rejected => rfl
  | quiet _ hquiet => exact hquiet.published t ht snapshotID hcurrent
  | commit _ => cases hop

theorem Served.other_snapshot (h : Served config events w)
    (hcommitted : Store.Committed input w.store s' target result) (hid : id ≠ input.targetID)
    (ht : w.store.target? id = some t) (hcurrent : t.currentSnapshotId = some snapshotID) :
    lookup SnapshotRow.id s'.snapshots snapshotID = lookup SnapshotRow.id w.store.snapshots snapshotID := by
  obtain ⟨row, at_, hrow, howner, -⟩ := (h.rows id t snapshotID ht hcurrent).stamped
  rw [hcommitted.snapshots, Store.committedSnapshots]
  split
  · rw [lookup_append, hrow, Option.some_or]
  · split
    · rw [lookup_updateWhere (Store.verifySnapshot_id _), hrow, Option.map_some]
      refine congrArg some (if_neg fun hpublished => hid ?_)
      rw [decide_eq_true_eq, (lookup_mem hrow).2] at hpublished
      obtain ⟨row', at', hrow', howner', -⟩ := (h.rows _ target snapshotID hcommitted.locked hpublished).stamped
      rw [hrow] at hrow'
      cases hrow'
      exact howner.symm.trans howner'
    · rfl

theorem validateCommit_finishedAt (h : validateCommit input = .ok ()) : isZeroTime input.finishedAt = false := by
  unfold validateCommit at h
  rw [ite_error_eq_ok, ite_error_eq_ok, ite_error_eq_ok, ite_error_eq_ok] at h
  obtain ⟨-, -, -, htimes, -⟩ := h
  rw [Bool.not_eq_true, Bool.or_eq_false_iff, Bool.or_eq_false_iff] at htimes
  exact htimes.1.2

theorem HeldTarget.valid (hheld : HeldTarget s run.target) (hbuilt : run.Built config)
    (hlocked : s.target? run.input.targetID = some target) : target.ref.validate = .ok () := by
  obtain ⟨s₀, hbuilt⟩ := hbuilt
  obtain ⟨hvalid, hinput⟩ := builtInput_eq_some hbuilt
  obtain ⟨row, hrow, -, t, ht, href, -⟩ := hheld
  rw [hinput, commitInput, hrow] at hlocked
  have hsame : some t = some target := ht.symm.trans hlocked
  cases hsame
  rw [hrow] at hvalid
  rw [href]
  exact hvalid

theorem PendingRun.Built.validatedAt (h : run.Built config) (hs : successfulOutcome run.input.outcome = true) :
    run.input.validatedAt = some run.input.finishedAt := by
  obtain ⟨s, hbuilt⟩ := h
  obtain ⟨-, hinput⟩ := builtInput_eq_some hbuilt
  rw [hinput] at hs ⊢
  exact if_pos hs

theorem Served.committed_stamped (h : Served config events w) (hbuilt : run.Built config)
    (hcommitted : Store.Committed run.input w.store s' target result)
    (hfinished : isZeroTime run.input.finishedAt = false)
    (hcurrent : (Store.committedTarget run.input w.store.nextSnapshotId target).currentSnapshotId = some snapshotID) :
    ∃ row at_, lookup SnapshotRow.id s'.snapshots snapshotID = some row ∧ row.targetId = run.input.targetID ∧
      row.verifiedAt = some at_ ∧
      (Store.committedTarget run.input w.store.nextSnapshotId target).lastValidatedAt = some at_ ∧
      isZeroTime at_ = false := by
  have hstamps := fun snapshotID => h.rows _ target snapshotID hcommitted.locked
  rw [hcommitted.snapshots]
  simp only [Store.committedTarget, Store.committedRow, Store.committedSnapshots, Store.commitSnapshotID] at hcurrent ⊢
  cases hs : successfulOutcome run.input.outcome with
  | false =>
    have hp : Store.publishes run.input = false := by rw [Store.publishes, hs, Bool.false_and]
    simp only [hs, hp, Bool.false_eq_true, if_false] at hcurrent ⊢
    exact (hstamps snapshotID hcurrent).stamped
  | true =>
    have hvalidated := hbuilt.validatedAt hs
    cases hp : Store.publishes run.input with
    | true =>
      simp only [hs, hp, if_true, Store.succeedTarget, Option.some_or, Option.some.injEq] at hcurrent ⊢
      subst hcurrent
      refine ⟨Store.snapshotRow w.store.nextSnapshotId w.store.nextRunId (target.currentVersion + 1) run.input,
        run.input.finishedAt, ?_, rfl, rfl, ?_, hfinished⟩
      · rw [lookup_append, h.sound.store.snapshots.lookup_next, Option.none_or]
        exact List.find?_cons_of_pos (by simp [Store.snapshotRow])
      · rw [hvalidated, Option.getD_some]
    | false =>
      simp only [hs, hp, Bool.false_eq_true, if_true, if_false, Store.succeedTarget, Option.none_or] at hcurrent ⊢
      obtain ⟨row, at_, hrow, howner, -⟩ := (hstamps snapshotID hcurrent).stamped
      refine ⟨Store.verifySnapshot run.input.finishedAt row, run.input.finishedAt, ?_, howner, rfl, ?_, hfinished⟩
      · rw [lookup_updateWhere (Store.verifySnapshot_id _), hrow, Option.map_some, (lookup_mem hrow).2, hcurrent,
          hvalidated]
        simp
      · rw [hvalidated, Option.getD_some]

theorem committedTarget_quality (input : CommitInput) (nextSnapshotId : Int) (t : TargetRow) :
    (Store.committedTarget input nextSnapshotId t).qualityState = .verifiedFresh ↔
      successfulOutcome input.outcome = true := by
  unfold Store.committedTarget Store.committedRow
  cases successfulOutcome input.outcome with
  | true => simp [Store.succeedTarget]
  | false =>
    simp only [Bool.false_eq_true, if_false, Store.failTarget, iff_false]
    split <;> exact fun h => by cases h

theorem Served.committed (h : Served config events w) (hheld : HeldTarget w.store run.target)
    (hbuilt : run.Built config) (hcommitted : Store.Committed run.input w.store s' target result)
    (hvalid : validateCommit run.input = .ok ())
    (hrecorded : ∀ id, recordedOutcome id e = if run.input.targetID = id then some run.input.outcome else none)
    (ht' : s'.target? id = some t') (hcurrent : t'.currentSnapshotId = some snapshotID) :
    ServedRow (events ++ [e]) s' id t' snapshotID := by
  by_cases hid : id = run.input.targetID
  · subst hid
    obtain ⟨t₁, ht₁, htouched⟩ := hcommitted.rows.kept _ target hcommitted.locked
    unfold Store.target? at ht'
    rw [ht'] at ht₁
    cases ht₁
    rw [Store.updatedRow, if_pos (lookup_mem hcommitted.locked).2] at htouched
    obtain ⟨hpointer, hvalidated, hquality⟩ := content_eq htouched.content
    rw [hpointer] at hcurrent
    refine ⟨?_, ?_, ?_⟩
    · rw [htouched.ref, Store.committedTarget, (Store.committedRow_keeps _ _ _ _ _).ref]
      exact hheld.valid hbuilt hcommitted.locked
    · rw [hvalidated]
      exact h.committed_stamped hbuilt hcommitted (validateCommit_finishedAt hvalid) hcurrent
    · rw [hquality, committedTarget_quality, LastSuccessful, lastOutcome_snoc, hrecorded, if_pos rfl]
      rfl
  · refine h.touched (fun t ht => ?_) (hcommitted.rows.new id)
      (fun t sid ht hsid => h.other_snapshot hcommitted hid ht hsid)
      (by rw [hrecorded, if_neg fun heq => hid heq.symm]) ht' hcurrent
    obtain ⟨t₁, ht₁, htouched⟩ := hcommitted.rows.kept id t ht
    rw [Store.updatedRow, if_neg (by rw [(lookup_mem ht).2]; exact hid)] at htouched
    exact ⟨t₁, ht₁, htouched⟩

theorem exec_served (op : RunOp) (h : Served config events w) :
    Served config (events ++ [Event.of (Coordinators.exec config len) w op])
      (w.exec config len op).1 := by
  have hsound : Coordinators.Sound config (w.exec config len op).1 := Coordinators.exec_sound op h.sound
  refine ⟨hsound, ?_⟩
  -- a step that leaves the store and records nothing
  have hsame : (w.exec config len op).1.store = w.store →
      (∀ id, recordedOutcome id (Event.of (Coordinators.exec config len) w op) = none) →
      ∀ id t snapshotID, (w.exec config len op).1.store.target? id = some t →
        t.currentSnapshotId = some snapshotID →
        ServedRow (events ++ [Event.of (Coordinators.exec config len) w op])
          (w.exec config len op).1.store id t snapshotID := by
    intro hstore hrecorded id t snapshotID ht hcurrent
    rw [hstore] at ht ⊢
    exact (h.rows id t snapshotID ht hcurrent).keep rfl rfl rfl (hrecorded id)
  cases op with
  | transaction op =>
    have hrecorded : ∀ id, recordedOutcome id (Event.of (Coordinators.exec config len) w (.transaction op)) =
        none := fun id => recordedOutcome_other fun k clocks heq => by cases heq
    cases hop : op.isCommit with
    | true => exact hsame (by simp only [Coordinators.exec, hop, if_true]) hrecorded
    | false =>
      have hstore : (w.exec config len (.transaction op)).1.store =
          (w.store.exec len op).1 := by simp only [Coordinators.exec, hop]; rfl
      have htouched := Store.exec_touched len w.store hop
      intro id t' snapshotID ht' hcurrent
      rw [hstore] at ht' ⊢
      exact h.touched (htouched.kept id) (htouched.new id)
        (fun t sid ht hsid => exec_published w.store hop (lookup_mem ht).1 hsid) (hrecorded id) ht' hcurrent
  | build k env =>
    refine hsame ?_ fun id => recordedOutcome_other fun k clocks heq => by cases heq
    simp only [Coordinators.exec]
    split
    · rfl
    · split <;> rfl
  | commit k clocks =>
    cases hrun : w.pending[k]? with
    | none =>
      have hexec : w.exec config len (.commit k clocks) = (w, .done) :=
        Coordinators.exec_commit_none hrun clocks
      refine hsame (by rw [hexec]) fun id => ?_
      simp only [recordedOutcome, Event.of, hrun]
    | some run =>
      obtain ⟨hheld, hbuilt⟩ := h.sound.pending run (List.mem_of_getElem? hrun)
      rcases @Coordinators.exec_commit len config w k run hrun clocks h.sound.store.targets with
        ⟨heq, hreplay⟩ | ⟨s', target, result, hcommitted, hcommit, heq⟩
      · exact hsame (by rw [heq]) fun id => recordedOutcome_same hrun hreplay
      · intro id t' snapshotID ht' hcurrent
        rw [show (w.exec config len (.commit k clocks)).1.store = s' by rw [heq]] at ht' ⊢
        exact h.committed hheld hbuilt hcommitted (Store.commit_valid hcommit)
          (fun id => recordedOutcome_committed hrun (congrArg Prod.snd heq) hcommitted.unrecorded) ht' hcurrent

end Rows

/-! ## The readers agree -/

theorem checks_maxServeAge (h : t.checks = true) : 0 < t.maxServeAgeSeconds := by
  simp only [TargetRow.checks, Bool.and_eq_true, decide_eq_true_eq] at h
  obtain ⟨⟨⟨⟨⟨⟨⟨⟨⟨⟨⟨⟨⟨⟨⟨-, -⟩, -⟩, -⟩, hmin, -⟩, hmax, -⟩, hserve, -⟩, -⟩, -⟩, -⟩, -⟩, -⟩, -⟩, -⟩, -⟩, -⟩ := h
  omega

theorem deriveQualityState_iff {stored : DataQualityState} {at_ : Time} {maxServeAge : Duration}
    (hat : isZeroTime at_ = false) (hpositive : 0 < maxServeAge) :
    deriveQualityState stored (some at_) maxServeAge now = .verifiedFresh ↔
      stored = .verifiedFresh ∧ ¬ maxServeAge < now - at_ := by
  unfold deriveQualityState
  simp only [hat, Bool.false_eq_true, not_le.mpr hpositive, or_false]
  by_cases hfresh : stored = .verifiedFresh
  · rw [if_neg fun h => h hfresh]
    split
    · rename_i hold
      exact ⟨fun h => (by cases h), fun h => absurd hold h.2⟩
    · rename_i hyoung
      exact ⟨fun _ => ⟨hfresh, hyoung⟩, fun h => h.1⟩
  · rw [if_pos hfresh]
    exact ⟨fun h => absurd h hfresh, fun h => absurd h.1 hfresh⟩

theorem expired_iff {snapshot : Snapshot} (hat : isZeroTime snapshot.validatedAt = false)
    (hpositive : 0 < snapshot.maxServeAge) :
    snapshot.expired now = false ↔ ¬ snapshot.maxServeAge < now - snapshot.validatedAt := by
  unfold Snapshot.expired
  rw [hat, decide_eq_false (not_le.mpr hpositive), Bool.or_false, if_neg (by decide), decide_eq_false_iff_not, gt_iff_lt]

/-- **The quality is `verified_fresh` exactly when the last commit was successful and the snapshot has not expired**,
for every active target with a published snapshot; so what the export gate calls usable has not expired. -/
theorem quality_fresh_iff (config : Config) (notificationLength : SnapshotMetadata → Nat) (ops : List RunOp)
    (ref : TargetRef) (now : Time) (t : TargetRow) (snapshotID : Int)
    (ht : (final (Coordinators.exec config notificationLength) {} ops).store.targetByRef? ref = some t)
    (hactive : t.lifecycleState = .active) (hpublished : t.currentSnapshotId = some snapshotID) :
    ∃ metadata snapshot,
      (final (Coordinators.exec config notificationLength) {} ops).store.metadata ref now = .ok metadata ∧
      (final (Coordinators.exec config notificationLength) {} ops).store.current ref = .ok snapshot ∧
      (metadata.qualityState = .verifiedFresh ↔
        LastSuccessful (trace (Coordinators.exec config notificationLength) {} ops) t.id ∧
          snapshot.expired now = false) ∧
      (usableSnapshot metadata = true → snapshot.expired now = false) := by
  have hserved := history_inv (served_start config) ops
    (fun events w op _ h => @exec_served config notificationLength events w op h)
  generalize final (Coordinators.exec config notificationLength) {} ops = w at ht hserved
  generalize trace (Coordinators.exec config notificationLength) {} ops = events at hserved
  obtain ⟨hmem, href⟩ := lookup_mem ht
  have hrow := hserved.rows t.id t snapshotID (lookup_of_nodup hserved.sound.store.targets.nodup hmem) hpublished
  obtain ⟨row, at_, hsnapshot, -, hverified, hvalidated, hat⟩ := hrow.stamped
  have hserve := checks_maxServeAge (hserved.sound.store.sound.checked t hmem)
  have hpositive : 0 < t.maxServeAgeSeconds * second := Int.mul_pos hserve (by decide)
  have hfind := Store.find_active hserved.sound.store.sound ht
  rw [if_pos hactive] at hfind
  have hvalid := hrow.valid
  rw [href] at hvalid
  unfold Store.metadata Store.current
  rw [hfind, hvalid]
  simp only [hpublished, Option.bind_some, hsnapshot, hvalidated, hverified]
  refine ⟨_, _, rfl, rfl, ?_, ?_⟩
  · rw [deriveQualityState_iff hat hpositive, hrow.quality, expired_iff hat hpositive]
  · intro husable
    simp only [usableSnapshot, Bool.and_eq_true, decide_eq_true_eq] at husable
    exact (expired_iff hat hpositive).mpr ((deriveQualityState_iff hat hpositive).mp husable.1.2).2

theorem quality_fresh_iff_course :
    ∃ t, (final (Coordinators.exec sampleConfig fun _ => 0) {} steadyOps).store.targetByRef? courseRef = some t ∧
      t.lifecycleState = .active ∧ t.currentSnapshotId = some 1 ∧ ∃ metadata snapshot,
      (final (Coordinators.exec sampleConfig fun _ => 0) {} steadyOps).store.metadata courseRef hour = .ok metadata ∧
      (final (Coordinators.exec sampleConfig fun _ => 0) {} steadyOps).store.current courseRef = .ok snapshot ∧
      (metadata.qualityState = .verifiedFresh ↔
        LastSuccessful (trace (Coordinators.exec sampleConfig fun _ => 0) {} steadyOps) t.id ∧
          snapshot.expired hour = false) ∧
      (usableSnapshot metadata = true → snapshot.expired hour = false) := by
  have hrow : ((final (Coordinators.exec sampleConfig fun _ => 0) {} steadyOps).store.targetByRef? courseRef).any
      (fun t => t.lifecycleState = .active && t.currentSnapshotId = some 1) = true := by decide +kernel
  obtain ⟨t, ht, hserved⟩ := Option.any_eq_true _ _ |>.mp hrow
  simp only [Bool.and_eq_true, decide_eq_true_eq] at hserved
  exact ⟨t, ht, hserved.1, hserved.2,
    quality_fresh_iff sampleConfig (fun _ => 0) steadyOps courseRef hour t 1 ht hserved.1 hserved.2⟩

end QrCommandCenter.Scraper
