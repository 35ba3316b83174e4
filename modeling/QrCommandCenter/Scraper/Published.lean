import QrCommandCenter.Scraper.Coordinator

/-!
# Published documents

What the coordinator has published for a target, and what its runs do to it.

* `Published codec s t row document` : the row `t` points at the snapshot `row`, which holds `document`;
* `Published.current` : what a run reads as the previous snapshot;
* `Published.quiet`, `Published.kept`, `published_of_commit` : the document through other steps and through commits.
-/

namespace QrCommandCenter.Scraper
open Domain Table Store

variable {t' : TargetRow}

/-- The row `t` publishes `document` as the snapshot `row`, the way a run of the coordinator leaves it. -/
structure Published (codec : Codec) (s : Store) (t : TargetRow) (row : SnapshotRow) (document : Document) : Prop where
  present : s.target? t.id = some t
  pointer : t.currentSnapshotId = some row.id
  stored : lookup SnapshotRow.id s.snapshots row.id = some row
  payload : row.payload = .document document
  kind : kindOf document = some t.ref.kind
  hash : t.currentContentHash = some (codec.sum256 document)
  nonzero : isZeroContentHash (codec.sum256 document) = false
  count : t.previousRecordCount = countRecords document
  distinct : (identifiers document).Nodup
  named : ∀ id ∈ identifiers document, isBlank id = false

structure SameBody (row row' : SnapshotRow) : Prop where
  rawBodyHash : row'.rawBodyHash = row.rawBodyHash
  parserVersion : row'.parserVersion = row.parserVersion

variable {codec : Codec} {s s' : Store} {t : TargetRow} {row : SnapshotRow} {document : Document}

section
variable (h : Published codec s t row document)
include h

theorem Published.mem : t ∈ s.targets := (lookup_mem h.present).1

/-! ## Reading it -/

theorem Published.current (hs : s.TargetsSound) {snapshot : Snapshot} (hcurrent : s.current t.ref = .ok snapshot) :
    snapshot.payload = .document document ∧ snapshot.rawBodyHash = row.rawBodyHash.getD "" ∧
      snapshot.parserVersion = row.parserVersion.getD "" := by
  obtain ⟨x, hmem, href, -, stored, hrow, -, -, -, hpayload, hhash, hparser⟩ := current_inv hcurrent
  rw [List.inj_on_of_nodup_map hs.refs hmem h.mem href, h.pointer, Option.bind_some, h.stored] at hrow
  cases hrow
  exact ⟨hpayload.trans h.payload, hhash, hparser⟩

/-! ## Steps that publish nothing -/

theorem Published.moved {row' : SnapshotRow} (ht' : s'.target? t.id = some t') (href : t'.ref = t.ref)
    (hpointer : t'.currentSnapshotId = t.currentSnapshotId ∧ t'.currentContentHash = t.currentContentHash ∧
      t'.previousRecordCount = t.previousRecordCount) (hrow' : lookup SnapshotRow.id s'.snapshots row.id = some row')
    (hpayload : row'.payload = row.payload) :
    Published codec s' t' row' document where
  present := by
    rw [(lookup_mem ht').2]
    exact ht'
  pointer := by rw [hpointer.1, h.pointer, (lookup_mem hrow').2]
  stored := by
    rw [(lookup_mem hrow').2]
    exact hrow'
  payload := hpayload.trans h.payload
  kind := by rw [href, h.kind]
  hash := hpointer.2.1.trans h.hash
  nonzero := h.nonzero
  count := hpointer.2.2.trans h.count
  distinct := h.distinct
  named := h.named

end

theorem pointer_eq (h : t'.pointer = t.pointer) :
    t'.currentSnapshotId = t.currentSnapshotId ∧ t'.currentContentHash = t.currentContentHash ∧
      t'.previousRecordCount = t.previousRecordCount := by
  simp only [TargetRow.pointer, Prod.mk.injEq] at h
  exact ⟨h.1, h.2.2.1, h.2.2.2.2⟩

theorem Published.quiet (h : Published codec s t row document) (hq : Quiet s s') :
    ∃ t', s'.target? t.id = some t' ∧ t.Steady t' ∧ Published codec s' t' row document := by
  obtain ⟨t', ht', hsteady⟩ := hq.targets.kept t.id t h.present
  refine ⟨t', ht', hsteady, h.moved ht' hsteady.ref (pointer_eq hsteady.pointer) ?_ rfl⟩
  rw [hq.published t h.mem row.id h.pointer]
  exact h.stored

/-! ## Commits -/

variable {input : CommitInput} {target : TargetRow} {run : RunRow}

theorem commitPointer_unpublished (hp : publishes input = false) {sid : Int} (hmoved : CommitMoved input sid t t') :
    t'.currentSnapshotId = t.currentSnapshotId ∧ t'.currentContentHash = t.currentContentHash ∧
      t'.previousRecordCount = t.previousRecordCount := by
  by_cases hid : t.id = input.targetID
  · have hpointer := (hmoved.committed hid).2
    simp only [commitPointer, hp, Bool.false_eq_true, if_false] at hpointer
    split at hpointer
    · simp only [TargetRow.pointer, Prod.mk.injEq] at hpointer
      exact ⟨hpointer.1, hpointer.2.2.1, hpointer.2.2.2.2⟩
    · exact pointer_eq hpointer
  · exact pointer_eq (hmoved.kept hid).pointer

theorem Published.kept (h : Published codec s t row document) (heffect : CommitEffect input s s' target run)
    (hp : publishes input = false) :
    ∃ t' row', t'.ref = t.ref ∧ Published codec s' t' row' document ∧ SameBody row row' := by
  obtain ⟨t', ht', hmoved⟩ := heffect.targets.kept t.id t h.present
  obtain ⟨⟨p, now, hsnapshots⟩, -⟩ := heffect.unpublished hp
  have hlookup : lookup SnapshotRow.id s'.snapshots row.id = some (if p row then verifySnapshot now row else row) := by
    rw [hsnapshots, lookup_updateWhere (verifySnapshot_id now), h.stored]
    rfl
  refine ⟨t', _, hmoved.ref, h.moved ht' hmoved.ref (commitPointer_unpublished hp hmoved) hlookup ?_, ?_⟩
  · split <;> rfl
  · split <;> exact ⟨rfl, rfl⟩

theorem validateCommit_hash (h : validateCommit input = .ok ()) (hchanged : input.changed = true) :
    isZeroContentHash input.contentHash = false := by
  unfold validateCommit at h
  rw [if_pos hchanged] at h
  simp only [ite_error_eq_ok, Bool.not_eq_true] at h
  obtain ⟨-, -, -, -, -, -, -, -, hzero, -⟩ := h
  exact hzero

/-- **A commit that publishes an accepted value leaves it published.** -/
theorem published_of_commit {config : Config} {env : RunEnv} {claimed : ScrapeTarget} {judgement : Judgement}
    {payload : ValidatedPayload} (hw : s.WellFormed)
    (hcommit : validateCommit (commitInput env claimed judgement) = .ok ())
    (heffect : CommitEffect (commitInput env claimed judgement) s s' target run) (href : target.ref = claimed.ref)
    (hcanonical : canonicalize config.codec claimed.ref.kind env.fetched.result.value config.canonicalPayloadLimit =
      .ok (document, judgement.contentHash, judgement.recordsCount))
    (hvalid : validatePayload claimed.ref.kind env.fetched.result.value claimed.ref.resourceKey = .ok payload)
    (houtcome : judgement.outcome = .changed) (hchanged : judgement.changed = true)
    (hpayload : judgement.payload = .document document) :
    ∃ t' row, t'.ref = claimed.ref ∧ Published config.codec s' t' row document ∧
      row.rawBodyHash = nullIfEmpty env.fetched.result.metadata.rawBodyHash := by
  have hp : publishes (commitInput env claimed judgement) = true := by
    simp only [publishes, commitInput, houtcome, hchanged]
    rfl
  obtain ⟨hsnapshots, -⟩ := heffect.published hp
  obtain ⟨t', ht', hmoved⟩ := heffect.targets.kept _ _ heffect.locked
  obtain ⟨raw, hraw, hform, hhash, hcount⟩ := canonicalize_ok hcanonical
  obtain ⟨raw', haccepted⟩ := validatePayload_ok hvalid
  have hrawEq : raw' = raw := by
    have htyped := haccepted.typed
    rw [hraw] at htyped
    exact (Option.some.inj htyped).symm
  rw [hrawEq] at haccepted
  have hperm := identifiers_canonicalForm config.codec raw
  rw [← hform] at hperm
  have hid : target.id = claimed.id := (lookup_mem heffect.locked).2
  have hpointer := (hmoved.committed hid).2
  simp only [commitPointer, hp, if_true, TargetRow.pointer, Prod.mk.injEq] at hpointer
  have hstored : lookup SnapshotRow.id s'.snapshots s.nextSnapshotId =
      some (snapshotRow s.nextSnapshotId s.nextRunId (target.currentVersion + 1)
        (commitInput env claimed judgement)) := by
    rw [hsnapshots, lookup_append, hw.snapshots.lookup_next, Option.none_or]
    exact List.find?_cons_of_pos (by simp [snapshotRow])
  have hcontent : (commitInput env claimed judgement).contentHash = judgement.contentHash := by
    simp only [commitInput, houtcome]
    rfl
  have hkind : kindOf document = kindOf raw := by
    rw [hform]
    cases raw <;> rfl
  refine ⟨t', snapshotRow s.nextSnapshotId s.nextRunId (target.currentVersion + 1) (commitInput env claimed judgement),
    hmoved.ref.trans href, ⟨?_, hpointer.1, hstored, ?_, ?_, ?_, ?_, ?_, ?_, ?_⟩, rfl⟩
  · rw [(lookup_mem ht').2]
    exact ht'
  · simp only [snapshotRow, commitInput, houtcome, hpayload]
    rfl
  · rw [hkind, kindOf_document? hraw, hmoved.ref, href]
  · rw [hpointer.2.2.1, hcontent, hhash]
  · rw [← hhash, ← hcontent]
    exact validateCommit_hash hcommit hchanged
  · rw [hpointer.2.2.2.2, ← hcount]
    rfl
  · exact hperm.nodup_iff.mpr haccepted.nodup
  · exact fun id hid => haccepted.named id (hperm.mem_iff.mp hid)

end QrCommandCenter.Scraper
