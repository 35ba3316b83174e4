import QrCommandCenter.Scraper.Refresh
import QrCommandCenter.Scraper.Safety
import QrCommandCenter.Store.Pointer

/-!
# What a refresh leaves for the readers

A `RefreshNow` with nothing in between: its own run validates the target. `ClaimOne` takes every enabled target, while
`Current` and `Metadata` serve targets whose lifecycle is active.

* `Store.metadata` : `Metadata`;
* `Readable`, `current_active`, `current_inactive` : the rows that the readers serve;
* `Unrefreshed`, `Refreshed` : the target before and after the commit of the call's run;
* `SoloHolds` : what holds at each phase of the call;
* `refresh_now_served_iff` : the readers serve the refreshed snapshot exactly when the target was active.
-/

namespace QrCommandCenter
open Domain Table Transition

namespace Store

variable {now : Time} {input : LifecycleReconcileInput}

def metadata (s : Store) (ref : TargetRef) (now : Time) : Except StoreError SnapshotMetadata :=
  match s.targets.find? fun t => t.ref = ref && t.lifecycleState = .active with
  | none => .error .snapshotNotFound
  | some target =>
    match target.currentSnapshotId.bind (lookup SnapshotRow.id s.snapshots) with
    | none => .error .snapshotNotFound
    | some row =>
      match target.lastValidatedAt with
      | none => .error (.invalid "read snapshot metadata")
      | some validatedAt => .ok {
        kind := target.ref.kind
        resourceKey := target.ref.resourceKey
        parentKey := target.ref.parentKey
        version := target.currentVersion
        validationSeq := target.validationSeq
        validatedAt := validatedAt
        stale := target.nextRunAt < now
        qualityState := deriveQualityState target.qualityState row.verifiedAt (target.maxServeAgeSeconds * second) now
        complete := row.complete
        parserVersion := row.parserVersion.getD "" }

/-! ## Rows that are served -/

structure Readable (s : Store) (t : TargetRow) : Prop where
  stored : ∃ id row, t.currentSnapshotId = some id ∧ lookup SnapshotRow.id s.snapshots id = some row
  validated : t.lastValidatedAt.isSome

variable {s : Store} {ref : TargetRef} {t : TargetRow}

section
variable (hs : s.TargetsSound) (ht : s.targetByRef? ref = some t)
include hs ht

theorem eq_of_ref {x : TargetRow} (hx : x ∈ s.targets) (href : x.ref = ref) : x = t := by
  obtain ⟨hmem, htref⟩ := lookup_mem ht
  exact List.inj_on_of_nodup_map hs.refs hx hmem (href.trans htref.symm)

theorem find_active : (s.targets.find? fun t => t.ref = ref && t.lifecycleState = .active) =
      if t.lifecycleState = .active then some t else none := by
  obtain ⟨hmem, href⟩ := lookup_mem ht
  split
  · rename_i hactive
    cases hfind : s.targets.find? (fun t => t.ref = ref && t.lifecycleState = .active) with
    | none =>
      have hnot := List.find?_eq_none.mp hfind t hmem
      simp [href, hactive] at hnot
    | some x =>
      have hx : x.ref = ref ∧ x.lifecycleState = .active := by simpa using List.find?_some hfind
      rw [eq_of_ref hs ht (List.mem_of_find?_eq_some hfind) hx.1]
  · rename_i hinactive
    refine List.find?_eq_none.mpr fun x hx => ?_
    simp only [Bool.and_eq_true, decide_eq_true_eq, not_and]
    intro hxref
    rw [eq_of_ref hs ht hx hxref]
    exact hinactive

theorem current_active (hvalid : ref.validate = .ok ()) (hactive : t.lifecycleState = .active) (hread : s.Readable t) :
    (∃ snapshot, s.current ref = .ok snapshot ∧ snapshot.targetID = t.id ∧ t.currentSnapshotId = some snapshot.id ∧
      snapshot.validationSeq = t.validationSeq) ∧
    ∀ now, ∃ metadata, s.metadata ref now = .ok metadata ∧ metadata.validationSeq = t.validationSeq := by
  obtain ⟨id, row, hid, hrow⟩ := hread.stored
  obtain ⟨validatedAt, hvalidated⟩ := Option.isSome_iff_exists.mp hread.validated
  have hfind := find_active hs ht
  rw [if_pos hactive] at hfind
  constructor
  · unfold current
    rw [hvalid, hfind]
    simp only [hid, Option.bind_some, hrow, hvalidated]
    exact ⟨_, rfl, rfl, by rw [(lookup_mem hrow).2], rfl⟩
  · intro now
    unfold metadata
    rw [hfind]
    simp only [hid, Option.bind_some, hrow, hvalidated]
    exact ⟨_, rfl, rfl⟩

theorem current_inactive
    (hinactive : t.lifecycleState ≠ .active) (snapshot : Snapshot) : s.current ref ≠ .ok snapshot := by
  intro hcurrent
  obtain ⟨x, hmem, href, hactive, -⟩ := current_inv hcurrent
  rw [eq_of_ref hs ht hmem href] at hactive
  exact hinactive hactive

end

/-! ## The target through the statements of a call -/

/-- The lifecycle state and the validation sequence before a call; a target it seeds is active and not validated. -/
def stateBefore (s : Store) (ref : TargetRef) : LifecycleState :=
  ((s.targetByRef? ref).map TargetRow.lifecycleState).getD .active

def seqBefore (s : Store) (ref : TargetRef) : Int := ((s.targetByRef? ref).map TargetRow.validationSeq).getD 0

/-- The target as the call found it, up to its lease. -/
structure Unrefreshed (s₀ s : Store) (ref : TargetRef) (row : TargetRow) : Prop where
  found : s.targetByRef? ref = some row
  state : row.lifecycleState = stateBefore s₀ ref
  seq : row.validationSeq = seqBefore s₀ ref
  stored : ∀ id, row.currentSnapshotId = some id → ∃ snapshot, lookup SnapshotRow.id s.snapshots id = some snapshot

/-- The target after a validation: readable, in the lifecycle state it had. -/
structure Refreshed (s₀ s : Store) (ref : TargetRef) (row : TargetRow) : Prop where
  found : s.targetByRef? ref = some row
  state : row.lifecycleState = stateBefore s₀ ref
  seq : seqBefore s₀ ref < row.validationSeq
  readable : s.Readable row

variable {s₀ s' : Store} {row : TargetRow}

theorem unrefreshed_start (hs : s.WellFormed) (hpointed : ∀ id t, s.target? id = some t → PointsTo s id t)
    (hrow : s.targetByRef? ref = some row) : Unrefreshed s s ref row where
  found := hrow
  state := by simp [stateBefore, hrow]
  seq := by simp [seqBefore, hrow]
  stored := by
    intro id hid
    have htarget : s.target? row.id = some row := lookup_of_nodup hs.targets.nodup (lookup_mem hrow).1
    rcases hpointed row.id row htarget with ⟨hnone, -⟩ | ⟨snapshotId, snapshot, hpointer, hstored, -⟩
    · rw [hnone] at hid
      cases hid
    · rw [hpointer] at hid
      cases hid
      exact ⟨snapshot, hstored⟩

theorem Unrefreshed.moved (h : Unrefreshed s₀ s ref row) (hw : s.WellFormed)
    (he : TargetsEffect TargetRow.LeaseMoved s s') : ∃ row', Unrefreshed s₀ s' ref row' := by
  obtain ⟨row', hrow', hmoved⟩ := targetByRef?_evolves he.evolves (fun _ _ hm => hm.ref) hw.targets (he.sound hw.sound)
    h.found
  have hlifecycle : row'.lifecycleState = row.lifecycleState := congrArg Prod.fst hmoved.lifecycle
  have hpointer := hmoved.pointer
  simp only [TargetRow.pointer, Prod.mk.injEq] at hpointer
  refine ⟨row', hrow', hlifecycle.trans h.state, hpointer.2.2.2.1.trans h.seq, fun id hid => ?_⟩
  rw [show s'.snapshots = s.snapshots by rw [he.frame]]
  exact h.stored id (hpointer.1.symm.trans hid)

theorem Unrefreshed.hosts (h : Unrefreshed s₀ s ref row) (hs : HostsOnly s s') : Unrefreshed s₀ s' ref row := by
  rw [hs]
  exact ⟨h.found, h.state, h.seq, h.stored⟩

theorem Refreshed.hosts (h : Refreshed s₀ s ref row) (hs : HostsOnly s s') : Refreshed s₀ s' ref row := by
  rw [hs]
  exact ⟨h.found, h.state, h.seq, h.readable.stored, h.readable.validated⟩

theorem unrefreshed_seeded {seed : TargetSeed} (hnew : s.targetByRef? seed.ref = none)
    (h : s.seed now [seed] = .ok s') : Unrefreshed s s' seed.ref (seedRow s.nextTargetId now seed) := by
  obtain ⟨_, -, h⟩ := bind_eq_ok.mp h
  obtain ⟨s₁, h₁, h⟩ := bind_eq_ok.mp h
  cases h
  obtain ⟨-, ⟨t, _, ht, -⟩ | ⟨-, rfl⟩⟩ := upsertSeed_inv h₁
  · rw [hnew] at ht
    cases ht
  refine ⟨?_, ?_, ?_, fun id hid => by cases hid⟩
  · show lookup TargetRow.ref (s.targets ++ [seedRow s.nextTargetId now seed]) seed.ref = some _
    rw [lookup_append, show lookup TargetRow.ref s.targets seed.ref = none from hnew, Option.none_or]
    exact List.find?_cons_of_pos (by simp [seedRow])
  · simp [stateBefore, hnew, seedRow]
  · simp [seqBefore, hnew, seedRow]

theorem Unrefreshed.claimed (h : Unrefreshed s₀ s ref row) (hw : s.WellFormed) {locked : List Int} {request : ClaimOneRequest}
    {target : ScrapeTarget} (href : request.ref = ref) (hclaim : s.claimOne locked request = .ok (s', target)) :
    ref.validate = .ok () ∧ ∃ row', Unrefreshed s₀ s' ref row' ∧ target = scanScrapeTarget row' := by
  constructor
  · obtain ⟨_, hvalid, -⟩ := bind_eq_ok.mp hclaim
    rw [← href]
    exact hvalid
  obtain ⟨row', hrow'⟩ := h.moved hw (claimOne_ok hclaim)
  obtain ⟨-, t', -, ht', htarget, -⟩ := claimOne_claimed hw.targets hclaim
  have href' : t'.ref = ref := by
    rw [← href, ← claimOne_ref hclaim, htarget]
    rfl
  have hfound : s'.targetByRef? ref = some t' := by
    rw [← href']
    exact lookup_of_nodup ((claimOne_ok hclaim).sound hw.sound).refs (lookup_mem ht').1
  rw [hrow'.found] at hfound
  cases hfound
  exact ⟨row', hrow', htarget⟩

/-- **A successful commit leaves its target readable**, if it publishes a version or there was one. -/
theorem Unrefreshed.committed (h : Unrefreshed s₀ s ref row) (hw : s.WellFormed) {input : CommitInput} {target : TargetRow}
    {run : RunRow} (heffect : CommitEffect input s s' target run) (hid : row.id = input.targetID)
    (hs : successfulOutcome input.outcome = true) (hversion : publishes input = true ∨ row.currentSnapshotId.isSome) :
    ∃ row', Refreshed s₀ s' ref row' := by
  obtain ⟨hmem, href⟩ := lookup_mem h.found
  obtain ⟨row', hrow', hmoved⟩ := heffect.targets.kept row.id row (lookup_of_nodup hw.targets.nodup hmem)
  have hpointer := (hmoved.committed hid).2
  have hseq := commitPointer_validationSeq hpointer
  rw [hs, if_pos rfl] at hseq
  refine ⟨row', ?_, ?_, ?_, ?_, hmoved.validated hid hs⟩
  · rw [← href, ← hmoved.ref]
    exact lookup_of_nodup (heffect.wellFormed hw).sound.refs (lookup_mem hrow').1
  · exact (congrArg Prod.fst hmoved.lifecycle).trans h.state
  · have := h.seq
    omega
  · cases hp : publishes input with
    | true =>
      simp only [commitPointer, hp, if_true, TargetRow.pointer, Prod.mk.injEq] at hpointer
      refine ⟨s.nextSnapshotId, snapshotRow s.nextSnapshotId s.nextRunId (target.currentVersion + 1) input,
        hpointer.1, ?_⟩
      rw [(heffect.published hp).1, lookup_append, hw.snapshots.lookup_next, Option.none_or]
      exact List.find?_cons_of_pos (by simp [snapshotRow])
    | false =>
      simp only [commitPointer, hp, hs, Bool.false_eq_true, if_false, if_true, TargetRow.pointer,
        Prod.mk.injEq] at hpointer
      rw [hp] at hversion
      obtain ⟨id, hcurrent⟩ := Option.isSome_iff_exists.mp (hversion.resolve_left Bool.false_ne_true)
      obtain ⟨snapshot, hstored⟩ := h.stored id hcurrent
      obtain ⟨snapshot', hstored', -⟩ := heffect.snapshot_lookup hstored
      exact ⟨id, snapshot', hpointer.1.trans hcurrent, hstored'⟩

theorem childScope_kind {parent : TargetRef} {scope : SnapshotKind × String} (h : childScope parent = some scope) :
    parent.kind ≠ scope.1 := by
  unfold childScope at h
  split at h
  · rename_i hkind
    cases h
    rw [hkind]
    exact (by decide : SnapshotKind.courseCatalog ≠ .courseDetail)
  · rename_i hkind
    cases h
    rw [hkind]
    exact (by decide : SnapshotKind.courseDetail ≠ .sessionDetail)
  · cases h

theorem reconcileLifecycle_outside (h : s.reconcileLifecycle now input = .ok s')
    {id : Int} (ht : s.target? id = some t) (href : t.ref = input.parentRef) :
    ∃ t', s'.target? id = some t' ∧ t'.lifecycleState = t.lifecycleState := by
  obtain ⟨-, rfl⟩ | ⟨scope, s₁, s₂, n₁, n₂, hscope, h₁, h₂, h₃⟩ := reconcileLifecycle_inv h
  · exact ⟨t, ht, rfl⟩
  obtain ⟨t₁, ht₁, hupserted⟩ := (upsertSeeds_ok h₁).evolves.kept id t ht
  have hout : t₁.ref.kind ≠ scope.1 := by
    rw [hupserted.ref, href]
    exact childScope_kind hscope
  refine ⟨t₁, ?_, congrArg Prod.fst hupserted.lifecycle⟩
  rw [updateTargets_target? h₃ (fun t => (missChild_keeps now scope.1 t).id) id,
    updateTargets_target? h₂ (fun t => (activateChild_keeps now input.parentVersion t).id) id,
    show s₁.target? id = some t₁ from ht₁]
  simp [listedChild, unlistedChild, inScope, hout]

theorem Refreshed.reconciled (h : Refreshed s₀ s ref row) (hw : s.WellFormed)
    (hparent : input.parentRef = ref) (hreconcile : s.reconcileLifecycle now input = .ok s') :
    ∃ row', Refreshed s₀ s' ref row' := by
  obtain ⟨hmem, href⟩ := lookup_mem h.found
  have htarget : s.target? row.id = some row := lookup_of_nodup hw.targets.nodup hmem
  obtain ⟨row', hrow', hstate⟩ := reconcileLifecycle_outside hreconcile htarget (href.trans hparent.symm)
  have heffect := reconcileLifecycle_ok hreconcile
  obtain ⟨t', ht', hkept⟩ := heffect.evolves.kept row.id row htarget
  rw [show lookup TargetRow.id s'.targets row.id = some row' from hrow'] at ht'
  cases ht'
  have hpointer := hkept.pointer
  simp only [TargetRow.pointer, Prod.mk.injEq] at hpointer
  refine ⟨row', ?_, hstate.trans h.state, ?_, ?_, ?_⟩
  · rw [← href, ← hkept.ref]
    exact lookup_of_nodup (heffect.sound hw.sound).refs (lookup_mem hrow').1
  · rw [hpointer.2.2.2.1]
    exact h.seq
  · rw [hpointer.1, show s'.snapshots = s.snapshots by rw [heffect.frame]]
    exact h.readable.stored
  · rw [hkept.validated]
    exact h.readable.validated

end Store

end QrCommandCenter

namespace QrCommandCenter.Scraper
open Domain Table Transition Store

/-! ## The phases of the call -/

/-- The call holds the lease of its target, as the claim returned it, and its run is not recorded. -/
structure Holding (s₀ s : Store) (ref : TargetRef) (target : ScrapeTarget) (row : TargetRow) : Prop where
  valid : ref.validate = .ok ()
  unrefreshed : Unrefreshed s₀ s ref row
  scanned : target = scanScrapeTarget row
  unrecorded : s.run? target.id target.leaseGeneration = none

def Versioned (judgement : Judgement) (row : TargetRow) : Prop :=
  successfulOutcome judgement.outcome = true →
    judgement.outcome = .changed ∧ judgement.changed = true ∨ row.currentSnapshotId.isSome

def SoloHolds (s₀ s : Store) (ref : TargetRef) : RefreshPhase → Prop
  | .reading => s = s₀
  | .seeding => s = s₀ ∧ s₀.targetByRef? ref = none
  | .rereading => ∃ row, Unrefreshed s₀ s ref row
  | .requesting baseline | .claiming baseline | .polling baseline | .reclaiming baseline _ =>
    (∃ row, Unrefreshed s₀ s ref row) ∧ seqBefore s₀ ref ≤ baseline.validationSeq
  | .admitting target | .fetching target _ => ∃ row, Holding s₀ s ref target row
  | .observing target _ _ judgement | .committing target _ _ judgement =>
    ∃ row, Holding s₀ s ref target row ∧ Versioned judgement row
  | .reconciling _ _ input => ref.validate = .ok () ∧ input.parentRef = ref ∧ ∃ row, Refreshed s₀ s ref row
  | .freeing _ result | .returned result => result = .ok () → ref.validate = .ok () ∧ ∃ row, Refreshed s₀ s ref row
  | .postponing _ _ | .releasing _ _ _ => True

variable {len : SnapshotMetadata → Nat} {scheduler : Scheduler} {ref : TargetRef} {s₀ s s' : Store}
  {row : TargetRow} {target : ScrapeTarget}

theorem Holding.hosts (h : Holding s₀ s ref target row) (hs : HostsOnly s s') : Holding s₀ s' ref target row := by
  refine ⟨h.valid, h.unrefreshed.hosts hs, h.scanned, ?_⟩
  rw [hs]
  exact h.unrecorded

theorem current_pointer (hs : s.TargetsSound) (hrow : s.targetByRef? ref = some row) {snapshot : Snapshot}
    (h : s.current ref = .ok snapshot) : row.currentSnapshotId.isSome := by
  obtain ⟨t, hmem, href, -, stored, hstored, -⟩ := current_inv h
  rw [eq_of_ref hs hrow hmem href] at hstored
  obtain ⟨id, hid, -⟩ := Option.bind_eq_some_iff.mp hstored
  exact Option.isSome_of_mem hid

theorem versioned_judge (config : Config) (env : RunEnv) (hs : s.TargetsSound) (hrow : s.targetByRef? ref = some row) :
    Versioned (judge config env (scanScrapeTarget row) (previousSnapshot s env ref)) row := by
  intro hsuccess
  have hjudged := judge_judged config env (scanScrapeTarget row) (previousSnapshot s env ref)
  generalize judge config env (scanScrapeTarget row) (previousSnapshot s env ref) = judgement at hjudged hsuccess
  cases hjudged with
  | failed judgement houtcome _ =>
    rw [houtcome] at hsuccess
    cases hsuccess
  | notModified _ hcurrent => exact .inr hcurrent
  | fastPath _ hraw =>
    right
    cases hprevious : previousSnapshot s env ref with
    | error err =>
      rw [hprevious] at hraw
      cases hraw
    | ok snapshot => exact current_pointer hs hrow (previousSnapshot_ok hprevious)
  | unchanged judgement _ _ hhash _ _ =>
    have hcontent := hhash.1
    simp only [ScrapeTarget.hasContentHash, Bool.and_eq_true] at hcontent
    exact .inr hcontent.1
  | changed judgement _ _ _ houtcome hchanged _ => exact .inl ⟨houtcome, hchanged⟩

theorem readTarget_notFound (h : s.readTarget ref = .error .snapshotNotFound) : s.targetByRef? ref = none := by
  unfold readTarget at h
  cases hvalid : ref.validate with
  | error err =>
    -- a reference that is refused is refused with another error
    rw [hvalid] at h
    cases h
    unfold TargetRef.validate at hvalid
    split_ifs at hvalid <;> cases hvalid
  | ok _ =>
    rw [hvalid] at h
    cases hrow : s.targetByRef? ref with
    | none => rfl
    | some row =>
      rw [hrow] at h
      cases h

theorem afterClaim_solo {baseline : ScrapeTarget} (hw : s.WellFormed)
    (h : (∃ row, Unrefreshed s₀ s ref row) ∧ seqBefore s₀ ref ≤ baseline.validationSeq) (locked : List Int)
    {request : ClaimOneRequest} (href : request.ref = ref) :
    SoloHolds s₀ (s.exec len (.claimOne locked request)).1 ref
      (afterClaim baseline (s.exec len (.claimOne locked request)).2) := by
  simp only [Store.exec]
  cases hclaim : s.claimOne locked request with
  | ok answer =>
    obtain ⟨⟨row, hrow⟩, -⟩ := h
    obtain ⟨hvalid, row', hrow', htarget⟩ := hrow.claimed hw href hclaim
    have hsound : Crew.Sound { store := s } := ⟨hw, List.forall_mem_nil _, List.forall_mem_nil _⟩
    exact ⟨row', hvalid, hrow', htarget, (owns_claimed hsound hclaim).unrecorded⟩
  | error err =>
    cases err with
    | targetLeased => exact h
    | _ =>
      exact failed_call

theorem settle_solo {phase : RefreshPhase} {x : Except StoreError Store}
    (h : ∀ s', x = .ok s' → SoloHolds s₀ s' ref phase) :
    SoloHolds s₀ (s.settle x).1 ref (orFail phase (s.settle x).2) := by
  cases x with
  | error err =>
    exact failed_call
  | ok s' => exact h s' rfl

theorem afterAdmission_solo (h : ∃ row, Holding s₀ s ref target row) (now : Time) (response : Response) :
    SoloHolds s₀ s ref (afterAdmission scheduler target now response) := by
  unfold afterAdmission
  split
  · split
    · exact h
    · split
      · trivial
      · exact h
  · trivial
  · exact failed_call

theorem afterFetch_solo (hs : s.TargetsSound) (h : Holding s₀ s ref target row) (config : Config) (permit : HostPermit)
    (env : RunEnv) : SoloHolds s₀ s ref (afterFetch config s target permit env) := by
  have href : target.ref = ref := by
    rw [h.scanned]
    exact (lookup_mem h.unrefreshed.found).2
  unfold afterFetch
  split
  · exact failed_call
  split
  · exact failed_call
  split
  · trivial
  · refine ⟨row, h, ?_⟩
    rw [href, h.scanned]
    exact versioned_judge config env hs h.unrefreshed.found

theorem committing_solo {env : RunEnv} {judgement : Judgement} (hw : s.WellFormed) (h : Holding s₀ s ref target row)
    (hversioned : Versioned judgement row) {clocks : CommitClocks} {result : CommitResult}
    (hcommit : s.commit len clocks (commitInput env target judgement) = .ok (s', result))
    (houtcome : successfulOutcome judgement.outcome = true) : ∃ row', Refreshed s₀ s' ref row' := by
  obtain ⟨locked, run, heffect⟩ := commit_effect hcommit h.unrecorded
  refine h.unrefreshed.committed hw heffect ?_ houtcome ?_
  · show row.id = target.id
    rw [h.scanned]
    rfl
  · rcases hversioned houtcome with ⟨hout, hchanged⟩ | hcurrent
    · left
      simp only [publishes, commitInput, hout, hchanged]
      rfl
    · exact .inr hcurrent

/-- The invariant of a call that nothing interrupts. -/
structure SoloInv (s₀ : Store) (ref : TargetRef) (r : Refreshing) : Prop where
  wellFormed : r.workers.store.WellFormed
  phase : SoloHolds s₀ r.workers.store ref r.phase

variable {r : Refreshing}

theorem SoloInv.caller (hpointed : ∀ id t, s₀.target? id = some t → PointsTo s₀ id t) (h : SoloInv s₀ ref r)
    (m : Moment) : SoloInv s₀ ref (r.exec len scheduler ref (.caller m)).1 := by
  have hw := h.wellFormed
  have hwell : (r.exec len scheduler ref (.caller m)).1.workers.store.WellFormed := by
    simp only [Refreshing.exec]
    split
    · exact hw
    · exact exec_wellFormed len r.workers.store _ hw
  refine ⟨hwell, ?_⟩
  have hphase := h.phase
  cases hp : r.phase <;> rw [hp] at hphase <;> simp only [Refreshing.exec, hp, RefreshPhase.next]
  case reading =>
    subst hphase
    split
    · rename_i baseline hread
      obtain ⟨row, hrow, rfl⟩ := readTarget_ok hread
      have hstart := unrefreshed_start hw hpointed hrow
      exact ⟨⟨row, hstart⟩, hstart.seq.ge⟩
    · rename_i hread
      exact ⟨rfl, readTarget_notFound hread⟩
    · exact failed_call
  case seeding =>
    obtain ⟨rfl, hnew⟩ := hphase
    exact settle_solo fun s' hseed => ⟨_, unrefreshed_seeded hnew hseed⟩
  case rereading =>
    split
    · rename_i baseline hread
      obtain ⟨row, hrow, rfl⟩ := readTarget_ok hread
      obtain ⟨row', hrow'⟩ := hphase
      have hfound := hrow'.found
      rw [hrow] at hfound
      cases hfound
      exact ⟨⟨row, hrow'⟩, hrow'.seq.ge⟩
    · exact failed_call
  case requesting baseline =>
    obtain ⟨⟨row, hrow⟩, hseq⟩ := hphase
    exact settle_solo fun s' hdue => ⟨hrow.moved hw (setDueNow_ok hdue), hseq⟩
  case claiming baseline => exact afterClaim_solo hw hphase m.locked rfl
  case polling baseline =>
    split
    · rename_i current hread
      obtain ⟨row, hrow, rfl⟩ := readTarget_ok hread
      obtain ⟨⟨row', hrow'⟩, hseq⟩ := hphase
      have hfound := hrow'.found
      rw [hrow] at hfound
      cases hfound
      have hvalidation := hrow'.seq
      unfold afterPoll
      split
      · rename_i hlt
        have hlt' : baseline.validationSeq < row.validationSeq := hlt
        omega
      split
      · exact failed_call
      split
      · exact ⟨⟨row, hrow'⟩, hseq⟩
      · exact ⟨⟨row, hrow'⟩, hseq⟩
    · exact failed_call
  case reclaiming baseline now => exact afterClaim_solo hw hphase m.locked rfl
  case admitting target =>
    split_ifs
    · trivial
    · trivial
    · obtain ⟨row, hrow⟩ := hphase
      refine afterAdmission_solo ⟨row, ?_⟩ m.now _
      exact hrow.hosts (answer_of rfl fun _ _ hacquire => acquireHostPermit_hostsOnly hacquire)
  case postponing target retryAt => exact settle_solo fun _ _ => failed_call
  case fetching target permit =>
    obtain ⟨row, hrow⟩ := hphase
    exact afterFetch_solo hw.sound hrow _ permit m.env
  case observing target permit env judgement =>
    obtain ⟨row, hrow, hversioned⟩ := hphase
    exact ⟨row, hrow.hosts (settle_of rfl fun _ hobserve => observeHost_hostsOnly hobserve), hversioned⟩
  case committing target permit env judgement =>
    obtain ⟨row, hrow, hversioned⟩ := hphase
    simp only [Store.exec]
    cases hcommit : r.workers.store.commit len m.commitClocks (commitInput env target judgement) with
    | error err =>
      exact failed_call
    | ok answer =>
      simp only [Store.answer]
      split
      · rename_i houtcome
        refine ⟨hrow.valid, ?_, committing_solo hw hrow hversioned hcommit houtcome⟩
        show target.ref = ref
        rw [hrow.scanned]
        exact (lookup_mem hrow.unrefreshed.found).2
      · rename_i houtcome
        rw [runResult, if_neg houtcome]
        exact failed_call
  case reconciling permit judgement input =>
    obtain ⟨hvalid, hparent, row, hrow⟩ := hphase
    intro _
    refine ⟨hvalid, settle_of (P := fun s => ∃ row, Refreshed s₀ s ref row) ⟨row, hrow⟩ fun s' hreconcile => ?_⟩
    exact hrow.reconciled hw hparent hreconcile
  case releasing target permit err =>
    split <;> exact failed_call
  case freeing permit result =>
    intro hok
    obtain ⟨hvalid, row, hrow⟩ := hphase hok
    exact ⟨hvalid, row, hrow.hosts (releaseHostPermit_hostsOnly _ permit.id)⟩
  case returned result => exact hphase

/-- `Current` and `Metadata` serve the published snapshot of the target, validated since `s₀`. -/
def ServedSince (s₀ s : Store) (ref : TargetRef) : Prop :=
  ∃ row snapshot, s.targetByRef? ref = some row ∧ s.current ref = .ok snapshot ∧ snapshot.targetID = row.id ∧
    row.currentSnapshotId = some snapshot.id ∧ seqBefore s₀ ref < snapshot.validationSeq ∧
    ∀ now, ∃ metadata, s.metadata ref now = .ok metadata ∧ metadata.validationSeq = snapshot.validationSeq

theorem Refreshed.served_iff (h : Refreshed s₀ s ref row) (hs : s.TargetsSound) (hvalid : ref.validate = .ok ()) :
    ServedSince s₀ s ref ↔ stateBefore s₀ ref = .active := by
  constructor
  · rintro ⟨-, snapshot, -, hcurrent, -⟩
    by_contra hinactive
    exact current_inactive hs h.found (h.state ▸ hinactive) snapshot hcurrent
  · intro hactive
    obtain ⟨⟨snapshot, hcurrent, htarget, hpointer, hseq⟩, hmetadata⟩ :=
      current_active hs h.found hvalid (h.state.trans hactive) h.readable
    refine ⟨row, snapshot, h.found, hcurrent, htarget, hpointer, hseq ▸ h.seq, fun now => ?_⟩
    obtain ⟨metadata, hread, hmetaseq⟩ := hmetadata now
    exact ⟨metadata, hread, hmetaseq.trans hseq.symm⟩

/-- **The readers serve a refreshed target exactly when its lifecycle was active.** A `RefreshNow` without an error and
without other steps in between leaves the published snapshot readable, with a later validation, if and only if the
target was active or not there. -/
theorem refresh_now_served_iff (notificationLength : SnapshotMetadata → Nat) (scheduler : Scheduler) (ref : TargetRef)
    (before : List Op) (moments : List Moment) :
    let s := final (Store.exec notificationLength) {} before
    let r := final (Refreshing.exec notificationLength scheduler ref) { workers := { store := s } }
      (moments.map .caller)
    r.phase = .returned (.ok ()) →
      (ServedSince s r.workers.store ref ↔
        ∀ row, s.targetByRef? ref = some row → row.lifecycleState = .active) := by
  intro s r hreturned
  have hhistory : History (trace (Store.exec notificationLength) {} before) s :=
    history_inv history_empty before fun events s op _ => history_step notificationLength events s op
  have hw : s.WellFormed := final_inv (exec_wellFormed notificationLength) wellFormed_empty before
  have hstart : SoloInv s ref { workers := { store := s } } := ⟨hw, rfl⟩
  have hinv : SoloInv s ref r := by
    refine final_inv_of_mem hstart fun r op hop h => ?_
    obtain ⟨m, -, rfl⟩ := List.mem_map.mp hop
    exact h.caller (fun id t ht => (hhistory.present id t ht).pointer) m
  have hphase := hinv.phase
  rw [hreturned] at hphase
  obtain ⟨hvalid, row, hrefreshed⟩ := hphase rfl
  rw [Refreshed.served_iff hrefreshed hinv.wellFormed.sound hvalid]
  unfold stateBefore
  cases hrow : s.targetByRef? ref with
  | none | some => simp

/-! ### A target that is claimed and not served -/

/-- A course and, with `misses`, a listing of its catalog that lacks it. -/
def listedCourse (misses : List Op) : List Op :=
  [.seedHost 0 { host := "h", baselineRequestsPerSecond := 1, burst := 1, baselineConcurrency := 1, now := second },
    .seed second [{ ref := courseRef, initialInterval := minute, minInterval := minute, maxInterval := minute
                    maxServeAge := hour, nextRunAt := second }]] ++ misses

/-- A call whose run fetches the course, from `Target` and `SetDueNow` to `ReconcileLifecycle` and the release of the
permit. -/
def soloMoments : List Moment :=
  List.replicate 9 { now := hour, env := sampleFetch (.course (sampleCourse [])) hour }

def soloCall (misses : List Op) : Refreshing :=
  final (Refreshing.exec (fun _ => 0) sampleScheduler courseRef)
    { workers := { store := final (Store.exec fun _ => 0) {} (listedCourse misses) } } (soloMoments.map .caller)

theorem refresh_now_served_listed :
    (soloCall []).phase = .returned (.ok ()) ∧
      ServedSince (final (Store.exec fun _ => 0) {} (listedCourse [])) (soloCall []).workers.store courseRef := by
  have hreturned : (soloCall []).phase = .returned (.ok ()) := RefreshPhase.eq_of_succeeded (by decide +kernel)
  have hactive : ∀ row ∈ (final (Store.exec fun _ => 0) {} (listedCourse [])).targetByRef? courseRef,
      row.lifecycleState = .active := by decide +kernel
  exact ⟨hreturned, (refresh_now_served_iff (fun _ => 0) sampleScheduler courseRef (listedCourse []) soloMoments
    hreturned).mpr hactive⟩

/-- A course that one listing lacks is `missing` and enabled: the call runs and returns without an error, and `Current`
does not serve it. -/
theorem missing_target_refreshed_unserved :
    (soloCall [.reconcileLifecycle (2 * second) ⟨catalogRef, 1, [], []⟩]).phase = .returned (.ok ()) ∧
      ¬ ServedSince (final (Store.exec fun _ => 0) {}
          (listedCourse [.reconcileLifecycle (2 * second) ⟨catalogRef, 1, [], []⟩]))
        (soloCall [.reconcileLifecycle (2 * second) ⟨catalogRef, 1, [], []⟩]).workers.store courseRef := by
  refine ⟨RefreshPhase.eq_of_succeeded (by decide +kernel), ?_⟩
  rintro ⟨-, snapshot, -, hcurrent, -⟩
  have hunserved : ((soloCall [.reconcileLifecycle (2 * second) ⟨catalogRef, 1, [], []⟩]).workers.store.current
      courseRef).isOk = false := by decide +kernel
  rw [hcurrent] at hunserved
  cases hunserved

end QrCommandCenter.Scraper
