import QrCommandCenter.Store.Batch
import QrCommandCenter.Store.Columns

/-!
# What the store tells about its snapshots

`ListMetadata` lists every published snapshot, and a commit that publishes one sends its metadata as a notification.

* `listMetadata` : `ListMetadata`;
* `Named` : every target has a valid reference, `exec_named` : every operation keeps that;
* `commit_metadata` : the metadata of a commit.
-/

namespace QrCommandCenter
open Domain Table

namespace Store

variable {t : TargetRow} {row : SnapshotRow} {now : Time}

/-! ## `ListMetadata` -/

/-- One scanned row of `ListMetadata`. -/
def scanMetadata (now : Time) (target : TargetRow) (row : SnapshotRow) : Except StoreError SnapshotMetadata :=
  match target.lastValidatedAt with
  | none => .error (.invalid "list snapshot metadata: scan")
  | some validatedAt => .ok {
    kind := target.ref.kind
    resourceKey := target.ref.resourceKey
    parentKey := target.ref.parentKey
    version := target.currentVersion
    validationSeq := target.validationSeq
    validatedAt := validatedAt
    stale := target.nextRunAt < now
    qualityState := deriveQualityState target.qualityState row.verifiedAt (target.maxServeAgeSeconds * second) now
    complete := row.complete
    parserVersion := row.parserVersion.getD "" }

/-- The published targets with their snapshots: the join of `ListMetadata`. -/
def publishedTargets (s : Store) : List (TargetRow × SnapshotRow) :=
  s.targets.filterMap fun t => (t.currentSnapshotId.bind (lookup SnapshotRow.id s.snapshots)).map fun row => (t, row)

/-- `ListMetadata`, but for its order: that is the collation's, and no reader depends on it. -/
def listMetadata (s : Store) (now : Time) : Except StoreError (List SnapshotMetadata) :=
  s.publishedTargets.mapM fun p => scanMetadata now p.1 p.2

variable {s s' : Store}

theorem mem_publishedTargets (h : (t, row) ∈ s.publishedTargets) :
    t ∈ s.targets ∧ ∃ id, t.currentSnapshotId = some id := by
  obtain ⟨t', ht', hmap⟩ := List.mem_filterMap.mp h
  obtain ⟨row', hbind, heq⟩ := Option.map_eq_some_iff.mp hmap
  cases heq
  obtain ⟨id, hid, -⟩ := Option.bind_eq_some_iff.mp hbind
  exact ⟨ht', id, hid⟩

theorem mapM_mem {α β : Type} {f : α → Except StoreError β} {rows : List α} {items : List β}
    (h : rows.mapM f = .ok items) : (∀ item ∈ items, ∃ r ∈ rows, f r = .ok item) ∧ ∀ r ∈ rows, ∃ item ∈ items, f r = .ok item := by
  induction rows generalizing items with
  | nil =>
    cases h
    exact ⟨List.forall_mem_nil _, List.forall_mem_nil _⟩
  | cons r rest ih =>
    rw [List.mapM_cons] at h
    obtain ⟨item, hitem, h⟩ := bind_eq_ok.mp h
    obtain ⟨more, hmore, h⟩ := bind_eq_ok.mp h
    cases h
    obtain ⟨hfrom, hto⟩ := ih hmore
    constructor
    · intro x hx
      rcases List.mem_cons.mp hx with rfl | hx
      · exact ⟨r, List.mem_cons_self, hitem⟩
      · obtain ⟨r', hr', heq⟩ := hfrom x hx
        exact ⟨r', List.mem_cons_of_mem r hr', heq⟩
    · intro r' hr'
      rcases List.mem_cons.mp hr' with rfl | hr'
      · exact ⟨item, List.mem_cons_self, hitem⟩
      · obtain ⟨x, hx, heq⟩ := hto r' hr'
        exact ⟨x, List.mem_cons_of_mem item hx, heq⟩

structure Lists (t : TargetRow) (item : SnapshotMetadata) : Prop where
  kind : item.kind = t.ref.kind
  resourceKey : item.resourceKey = t.ref.resourceKey
  parentKey : item.parentKey = t.ref.parentKey
  version : item.version = t.currentVersion

theorem scanMetadata_lists {item : SnapshotMetadata} (h : scanMetadata now t row = .ok item) : Lists t item := by
  unfold scanMetadata at h
  split at h
  · cases h
  · cases h
    exact ⟨rfl, rfl, rfl, rfl⟩

/-! ## Valid references -/

def Named (s : Store) : Prop := ∀ t ∈ s.targets, t.ref.validate = .ok ()

theorem named_empty : Named {} := List.forall_mem_nil _

theorem upsertSeeds_valid {seeds : List TargetSeed} (h : s.upsertSeeds now seeds = .ok s') :
    validateSeeds seeds = .ok () := by
  obtain ⟨_, hvalid, -⟩ := bind_eq_ok.mp h
  exact hvalid

def ChecksSeeds (op : Op) (s s' : Store) : Prop := s' = s ∨ validateSeeds op.seeding = .ok ()

section
variable (len : SnapshotMetadata → Nat)

theorem exec_checksSeeds (s : Store) (op : Op) : ChecksSeeds op s (s.exec len op).1 := by
  have hs : ChecksSeeds op s s := .inl rfl
  cases op with
  | seed now seeds => exact settle_of hs fun _ h => .inr (upsertSeeds_valid h)
  | reconcileLifecycle now input =>
    refine settle_of hs fun s' h => ?_
    obtain ⟨-, rfl⟩ | ⟨scope, s₁, s₂, n₁, n₂, -, h₁, -⟩ := reconcileLifecycle_inv h
    · exact .inl rfl
    · exact .inr (upsertSeeds_valid h₁)
  | commit clocks input =>
    refine answer_of hs fun s' result h => ?_
    obtain ⟨_, -, h⟩ := bind_eq_ok.mp h
    obtain ⟨replay, -, h⟩ := bind_eq_ok.mp h
    cases replay with
    | some result' =>
      cases h
      exact .inl rfl
    | none =>
      obtain ⟨target, seq, runID, version, s₁, s₂, s₃, s₄, snapshotID, -, -, -, -, -, -, h₄, -⟩ := commitRun_inv h
      obtain ⟨s₅, h₅, -⟩ := bind_eq_ok.mp h₄
      exact .inr (upsertSeeds_valid h₅)
  | _ => exact .inr rfl

theorem exec_planted (s : Store) (hk : s.TargetsKeyed) (op : Op) {id : Int}
    {t' : TargetRow} (hnew : s.target? id = none) (ht' : (s.exec len op).1.target? id = some t') :
    t'.Planted op.seeding := by
  cases hop : op.isCommit with
  | false => exact (exec_touched len s hop).new id t' hnew ht'
  | true =>
    cases op with
    | commit clocks input =>
      revert ht'
      refine answer_of (P := fun s' => s'.target? id = some t' → t'.Planted input.discovered) (fun h => ?_)
        fun s' result h ht' => ?_
      · rw [hnew] at h
        cases h
      · rcases commit_committed hk h with ⟨rfl, -⟩ | ⟨target, hcommitted⟩
        · rw [hnew] at ht'
          cases ht'
        · exact hcommitted.rows.new id t' hnew ht'
    | _ => cases hop

theorem exec_named (hw : s.WellFormed) (h : s.Named) (op : Op) : (s.exec len op).1.Named := by
  have hw' := exec_wellFormed len s op hw
  intro t' ht'
  have hlookup : (s.exec len op).1.target? t'.id = some t' := lookup_of_nodup hw'.targets.nodup ht'
  cases ht : s.target? t'.id with
  | some t =>
    obtain ⟨t₁, ht₁, href, -⟩ := (exec_step len s op).evolves.kept t'.id t ht
    unfold target? at hlookup
    rw [hlookup] at ht₁
    cases ht₁
    rw [href]
    exact h t (lookup_mem ht).1
  | none =>
    obtain ⟨seed, hseed, href, -⟩ := (exec_planted len s hw.targets op ht hlookup).interval
    rcases exec_checksSeeds len s op with hsame | hvalid
    · rw [hsame, ht] at hlookup
      cases hlookup
    · obtain ⟨_, hcheck, -⟩ := bind_eq_ok.mp (validateSeeds_ok.mp hvalid seed hseed)
      rw [← href]
      exact hcheck

end

theorem Named.resourceKey (h : s.Named) (ht : t ∈ s.targets) : t.ref.resourceKey ≠ "" := by
  intro hempty
  have hvalid := h t ht
  rw [TargetRef.validate, ite_error_eq_ok, ite_error_eq_ok, ite_error_eq_ok, hempty] at hvalid
  exact hvalid.2.2.1 rfl

/-! ## The metadata of a commit -/

theorem commit_metadata {len : SnapshotMetadata → Nat} {clocks : CommitClocks} {input : CommitInput}
    {result : CommitResult} (h : s.commit len clocks input = .ok (s', result))
    (hunrecorded : s.run? input.targetID input.leaseGeneration = none) {metadata : SnapshotMetadata}
    (hmetadata : result.metadata = some metadata) :
    ∃ target, s.target? input.targetID = some target ∧
      metadata = commitMetadata target input (commitSeq input target) (target.currentVersion + 1) := by
  obtain ⟨_, -, h⟩ := bind_eq_ok.mp h
  rw [existingCommitResult, hunrecorded] at h
  obtain ⟨target, seq, runID, version, s₁, s₂, s₃, s₄, snapshotID, h₀, hseq, hversion, -, h₂, -, -, h₅⟩ :=
    commitRun_inv h
  refine ⟨target, (fencedTarget_ok h₀).1, ?_⟩
  rw [(announce_ok h₅).2, (insertVersion_ok h₂).1, commitSnapshotID] at hmetadata
  cases hp : publishes input with
  | false =>
    rw [hp] at hmetadata
    cases hmetadata
  | true =>
    rw [hp] at hmetadata hversion
    cases hmetadata
    rw [hversion, nextValidationSeq_ok hseq]
    rfl

end Store

end QrCommandCenter
