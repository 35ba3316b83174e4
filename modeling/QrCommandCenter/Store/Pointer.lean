import QrCommandCenter.Store.System

/-!
# The published pointer over whole runs

For every interleaving of transactions from empty tables: the pointer of a target, its version and its hash agree with
the snapshot table, the versions ever committed are `1 .. current_version`, each was announced in the outbox, and the
validation sequence counts the successful commits.

* `committedVersions`, `announcedVersions`, `validations` : the history of a target, read off the events of a run;
* `TargetHistory` : what a target's row says about its history (`TargetHistory.extend` : a step that publishes nothing,
  `TargetHistory.publish` : one that does);
* `snapshot_pointer` : the invariant at the end of every run.
-/

namespace QrCommandCenter
open Domain Table Transition

variable {e : Event Store Op Response} {sid : Int} {row : SnapshotRow}

/-! ## The history of a target -/

section
variable (id : Int) (e : Event Store Op Response)

def insertedVersions : List Int :=
  ((inserted SnapshotRow.id e.pre.snapshots e.post.snapshots).filter fun row => row.targetId = id).map
    SnapshotRow.version

def insertedEvents : List Int :=
  ((inserted CommitEvent.sequence e.pre.events e.post.events).filter fun row => row.targetId = id).map
    CommitEvent.snapshotVersion

/-- The step is a successful commit of the target that took effect. -/
def validates : Bool :=
  match e.op with
  | .commit _ input => input.targetID = id && successfulOutcome input.outcome && e.pre ≠ e.post
  | _ => false

end

section
variable (events : List (Event Store Op Response)) (id : Int)

def committedVersions : List Int :=
  events.flatMap (insertedVersions id)

def announcedVersions : List Int :=
  events.flatMap (insertedEvents id)

def validations : Nat := events.countP (validates id)

end

def versionsUpTo (n : Int) : List Int := (List.range n.toNat).map fun k : Nat => (k : Int) + 1

theorem versionsUpTo_succ {n : Int} (hn : 0 ≤ n) : versionsUpTo (n + 1) = versionsUpTo n ++ [n + 1] := by
  have htoNat : (n + 1).toNat = n.toNat + 1 := by omega
  unfold versionsUpTo
  rw [htoNat, List.range_succ, List.map_append]
  simp [hn]

/-- The pointer of a target is null, or names a snapshot of the target with its version and hash. -/
def PointsTo (s : Store) (id : Int) (t : TargetRow) : Prop :=
  (t.currentSnapshotId = none ∧ t.currentContentHash = none ∧ t.currentVersion = 0) ∨
    ∃ snapshotId row, t.currentSnapshotId = some snapshotId ∧
      lookup SnapshotRow.id s.snapshots snapshotId = some row ∧ row.targetId = id ∧
      row.version = t.currentVersion ∧ t.currentContentHash = some row.contentHash

structure TargetHistory (events : List (Event Store Op Response)) (s : Store) (id : Int) (t : TargetRow) : Prop where
  pointer : PointsTo s id t
  nonneg : 0 ≤ t.currentVersion
  maximum : ∀ row ∈ s.snapshots, row.targetId = id → row.version ≤ t.currentVersion
  versions : committedVersions events id = versionsUpTo t.currentVersion
  validation : t.validationSeq = validations events id

/-- The row of a target, or one that an `INSERT` could still leave. -/
def Store.RowOf (s : Store) (id : Int) (t : TargetRow) : Prop :=
  s.target? id = some t ∨ s.target? id = none ∧ t.Fresh

structure History (events : List (Event Store Op Response)) (s : Store) : Prop where
  targets : s.TargetsKeyed
  snapshots : Keyed SnapshotRow.id s.nextSnapshotId s.snapshots
  outbox : Keyed CommitEvent.sequence s.nextEventSequence s.events
  announced : ∀ id, announcedVersions events id = committedVersions events id
  rows : ∀ id t, s.RowOf id t → TargetHistory events s id t

variable {events : List (Event Store Op Response)}

theorem History.present {s : Store} (h : History events s) (id : Int)
    (t : TargetRow) (ht : s.target? id = some t) : TargetHistory events s id t :=
  h.rows id t (.inl ht)

theorem TargetRow.Fresh.columns {t : TargetRow} (h : t.Fresh) :
    t.currentSnapshotId = none ∧ t.currentVersion = 0 ∧ t.currentContentHash = none ∧ t.validationSeq = 0 := by
  have hp := h.pointer
  simp only [TargetRow.pointer, Prod.mk.injEq] at hp
  obtain ⟨hcurrent, hversion, hhash, hseq, -⟩ := hp
  exact ⟨hcurrent, hversion, hhash, hseq⟩

theorem history_empty : History [] {} := by
  refine ⟨Keyed.nil, Keyed.nil, Keyed.nil, fun _ => rfl, fun id t ht => ?_⟩
  rcases ht with ht | ⟨-, hfresh⟩
  · cases ht
  · obtain ⟨hcurrent, hversion, hhash, hseq⟩ := hfresh.columns
    refine ⟨.inl ⟨hcurrent, hhash, hversion⟩, hversion.ge, by simp, ?_, hseq⟩
    rw [hversion]
    rfl

/-! ## Extending the history of one target -/

section
variable (events : List (Event Store Op Response)) (e : Event Store Op Response) (id : Int)

theorem committedVersions_snoc :
    committedVersions (events ++ [e]) id = committedVersions events id ++ insertedVersions id e := by
  simp [committedVersions, List.flatMap_append]

theorem announcedVersions_snoc :
    announcedVersions (events ++ [e]) id = announcedVersions events id ++ insertedEvents id e := by
  simp [announcedVersions, List.flatMap_append]

theorem validations_snoc : validations (events ++ [e]) id = validations events id + if validates id e then 1 else 0 := by
  simp [validations, List.countP_append, List.countP_cons]

end

structure SameVersion (row row' : SnapshotRow) : Prop where
  targetId : row'.targetId = row.targetId
  version : row'.version = row.version
  contentHash : row'.contentHash = row.contentHash

theorem SameVersion.refl (row : SnapshotRow) : SameVersion row row := ⟨rfl, rfl, rfl⟩

theorem verifySnapshot_same (now : Time) (row : SnapshotRow) : SameVersion row (Store.verifySnapshot now row) :=
  ⟨rfl, rfl, rfl⟩

section Target
variable {events : List (Event Store Op Response)} {e : Event Store Op Response} {s s' : Store} {id : Int}
  {t t' : TargetRow}

theorem Store.RowOf.before {R : TargetRow → TargetRow → Prop} (ht' : s'.RowOf id t')
    (h : Evolves TargetRow.id R TargetRow.Fresh s.targets s'.targets) :
    ∃ t, s.RowOf id t ∧ (s.target? id = some t ∧ R t t' ∨ s.target? id = none ∧ t = t') := by
  cases ht : s.target? id with
  | none =>
    refine ⟨t', .inr ⟨ht, ?_⟩, .inr ⟨rfl, rfl⟩⟩
    rcases ht' with ht' | ⟨-, hfresh⟩
    · exact h.new id t' ht ht'
    · exact hfresh
  | some t =>
    obtain ⟨t₁, ht₁, hR⟩ := h.kept id t ht
    refine ⟨t, .inl ht, .inl ⟨rfl, ?_⟩⟩
    rcases ht' with ht' | ⟨hnone, -⟩
    · rwa [Option.some.inj (ht₁.symm.trans ht')] at hR
    · rw [Store.target?, ht₁] at hnone
      cases hnone

theorem Store.RowOf.mem (h : s.RowOf id t) (hsid : t.currentSnapshotId = some sid) : t ∈ s.targets := by
  rcases h with ht | ⟨-, hfresh⟩
  · exact (lookup_mem ht).1
  · rw [hfresh.columns.1] at hsid
    cases hsid

theorem TargetHistory.extend (h : TargetHistory events s id t)
    (hpointer : ∃ count, t'.pointer = (t.currentSnapshotId, t.currentVersion, t.currentContentHash,
      t.validationSeq + (if validates id e then 1 else 0), count))
    (hinserted : insertedVersions id e = [])
    (hlookup : ∀ sid row, t.currentSnapshotId = some sid → lookup SnapshotRow.id s.snapshots sid = some row →
      ∃ row', lookup SnapshotRow.id s'.snapshots sid = some row' ∧ SameVersion row row')
    (hrows : ∀ row' ∈ s'.snapshots, row'.targetId = id → ∃ row ∈ s.snapshots, SameVersion row row') :
    TargetHistory (events ++ [e]) s' id t' := by
  simp only [TargetRow.pointer, Prod.mk.injEq] at hpointer
  obtain ⟨count, hcurrent, hversion, hhash, hseq, -⟩ := hpointer
  refine ⟨?_, ?_, ?_, ?_, ?_⟩
  · unfold PointsTo
    rw [hcurrent, hversion, hhash]
    rcases h.pointer with hnull | ⟨sid, row, hsid, hrow, htarget, hver, hh⟩
    · exact .inl hnull
    · obtain ⟨row', hrow', hsame⟩ := hlookup sid row hsid hrow
      refine .inr ⟨sid, row', hsid, hrow', ?_, ?_, ?_⟩
      · rw [hsame.targetId, htarget]
      · rw [hsame.version, hver]
      · rw [hsame.contentHash, hh]
  · rw [hversion]
    exact h.nonneg
  · intro row' hrow' hid
    obtain ⟨row, hrow, hsame⟩ := hrows row' hrow' hid
    rw [hversion, hsame.version]
    exact h.maximum row hrow (hsame.targetId ▸ hid)
  · rw [committedVersions_snoc, hinserted, List.append_nil, hversion]
    exact h.versions
  · rw [validations_snoc, hseq, h.validation]
    split <;> simp

theorem TargetHistory.publish (h : TargetHistory events s id t)
    (htarget : row.targetId = id) (hversion : row.version = t.currentVersion + 1)
    (hsnapshots : s'.snapshots = s.snapshots ++ [row]) (hfresh : lookup SnapshotRow.id s.snapshots row.id = none)
    (hpointer : ∃ count, t'.pointer =
      (some row.id, t.currentVersion + 1, some row.contentHash, t.validationSeq + 1, count))
    (hinserted : insertedVersions id e = [t.currentVersion + 1]) (hvalidates : validates id e = true) :
    TargetHistory (events ++ [e]) s' id t' := by
  simp only [TargetRow.pointer, Prod.mk.injEq] at hpointer
  obtain ⟨count, hcurrent, hversion', hhash, hseq, -⟩ := hpointer
  refine ⟨?_, ?_, ?_, ?_, ?_⟩
  · refine .inr ⟨row.id, row, hcurrent, ?_, htarget, hversion.trans hversion'.symm, hhash⟩
    rw [hsnapshots, lookup_append, hfresh, Option.none_or]
    simp [lookup]
  · have := h.nonneg
    omega
  · intro row' hrow' hid
    rw [hsnapshots] at hrow'
    rw [hversion']
    rcases List.mem_append.mp hrow' with hold | hnew
    · have := h.maximum row' hold hid
      omega
    · rw [List.mem_singleton.mp hnew]
      exact hversion.le
  · rw [committedVersions_snoc, hinserted, h.versions, hversion', versionsUpTo_succ h.nonneg]
  · rw [validations_snoc, hseq, h.validation, hvalidates]
    simp

end Target

/-! ## Steps that publish nothing -/

theorem History.quiet (h : History events e.pre)
    (hvalidates : ∀ id, validates id e = false) (hq : Store.Quiet e.pre e.post) : History (events ++ [e]) e.post := by
  have hinserted : ∀ id, insertedVersions id e = [] := fun id => by
    rw [insertedVersions, hq.snapshots.inserted]
    rfl
  have hannounced : ∀ id, insertedEvents id e = [] := fun id => by
    rw [insertedEvents, hq.events.inserted]
    rfl
  refine ⟨hq.keyed h.targets, ?_, ?_, fun id => ?_, fun id t' ht' => ?_⟩
  · rw [hq.nextSnapshotId]
    exact hq.snapshots.keyed h.snapshots
  · rw [hq.nextEventSequence]
    exact hq.events.keyed h.outbox
  · rw [committedVersions_snoc, announcedVersions_snoc, hinserted, hannounced, h.announced]
  · obtain ⟨t, ht, hstep⟩ := ht'.before hq.targets
    have hp : t'.pointer = t.pointer := by
      rcases hstep with ⟨-, hsteady⟩ | ⟨-, rfl⟩
      · exact hsteady.pointer
      · rfl
    refine (h.rows id t ht).extend ⟨_, by simpa [hvalidates id, TargetRow.pointer] using hp⟩ (hinserted id) ?_ ?_
    · intro sid row hsid hrow
      refine ⟨row, ?_, SameVersion.refl row⟩
      rw [hq.published t (ht.mem hsid) sid hsid, hrow]
    · exact fun row' hrow' _ => ⟨row', hq.snapshots.mem hrow', SameVersion.refl row'⟩

theorem validates_of_not_commit (h : e.op.isCommit = false) (id : Int) :
    validates id e = false := by
  unfold validates
  cases hop : e.op with
  | commit clocks input =>
    rw [hop] at h
    cases h
  | _ => rfl

theorem validates_of_unchanged (h : e.post = e.pre) (id : Int) :
    validates id e = false := by
  unfold validates
  cases e.op with
  | commit clocks input => simp [h]
  | _ => rfl

/-! ## Commits -/

section Commit
variable {events : List (Event Store Op Response)} {s s' : Store} {input : CommitInput} {target : TargetRow}
  {run : RunRow} (clocks : CommitClocks) (out : Response)

theorem Store.CommitEffect.validates_eq (heffect : Store.CommitEffect input s s' target run) (id : Int) :
    validates id ⟨s, .commit clocks input, out, s'⟩ =
      (decide (input.targetID = id) && successfulOutcome input.outcome) := by
  have hne : s ≠ s' := fun he => by
    have hlen := congrArg List.length heffect.runs.1
    rw [← he, List.length_append] at hlen
    simp at hlen
  simp [validates, hne]

theorem Store.CommitEffect.inserted_eq (h : History events s) (heffect : Store.CommitEffect input s s' target run)
    (id : Int) :
    insertedVersions id ⟨s, .commit clocks input, out, s'⟩ =
        (if Store.publishes input ∧ input.targetID = id then [target.currentVersion + 1] else []) ∧
      insertedEvents id ⟨s, .commit clocks input, out, s'⟩ =
        (if Store.publishes input ∧ input.targetID = id then [target.currentVersion + 1] else []) := by
  simp only [insertedVersions, insertedEvents]
  cases hp : Store.publishes input with
  | true =>
    obtain ⟨hsnapshots, -, -, now, hevents⟩ := heffect.published hp
    rw [hsnapshots, hevents, inserted_append (fun _ hk => hk) fun row hrow => ?_,
      inserted_append (fun _ hk => hk) fun row hrow => ?_]
    · by_cases hid : input.targetID = id <;> simp [Store.snapshotRow, hid]
    · rw [List.mem_singleton.mp hrow]
      exact h.outbox.lookup_next
    · rw [List.mem_singleton.mp hrow]
      exact h.snapshots.lookup_next
  | false =>
    obtain ⟨⟨p, now, hsnapshots⟩, -, -, hevents⟩ := heffect.unpublished hp
    rw [hsnapshots, inserted_updateWhere (verifySnapshot_id now), hevents, inserted_self]
    simp

section
variable (heffect : Store.CommitEffect input s s' target run)
include heffect

theorem Store.CommitEffect.snapshot_rows {row' : SnapshotRow}
    (hrow' : row' ∈ s'.snapshots) (hother : Store.publishes input = true → row'.targetId ≠ input.targetID) :
    ∃ row ∈ s.snapshots, SameVersion row row' := by
  cases hp : Store.publishes input with
  | true =>
    obtain ⟨hsnapshots, -⟩ := heffect.published hp
    rw [hsnapshots] at hrow'
    rcases List.mem_append.mp hrow' with hold | hnew
    · exact ⟨row', hold, SameVersion.refl row'⟩
    · rw [List.mem_singleton.mp hnew] at hother
      exact absurd rfl (hother hp)
  | false =>
    obtain ⟨⟨p, now, hsnapshots⟩, -⟩ := heffect.unpublished hp
    rw [hsnapshots] at hrow'
    obtain ⟨row, hrow, rfl⟩ := mem_updateWhere hrow'
    refine ⟨row, hrow, ?_⟩
    split
    · exact verifySnapshot_same now row
    · exact SameVersion.refl row

theorem Store.CommitEffect.snapshot_lookup (hrow : lookup SnapshotRow.id s.snapshots sid = some row) :
    ∃ row', lookup SnapshotRow.id s'.snapshots sid = some row' ∧ SameVersion row row' := by
  cases hp : Store.publishes input with
  | true =>
    obtain ⟨hsnapshots, -⟩ := heffect.published hp
    refine ⟨row, ?_, SameVersion.refl row⟩
    rw [hsnapshots, lookup_append, hrow]
    rfl
  | false =>
    obtain ⟨⟨p, now, hsnapshots⟩, -⟩ := heffect.unpublished hp
    rw [hsnapshots, lookup_updateWhere (verifySnapshot_id now), hrow, Option.map_some]
    refine ⟨_, rfl, ?_⟩
    split
    · exact verifySnapshot_same now row
    · exact SameVersion.refl row

end

section
variable (h : History events s) (heffect : Store.CommitEffect input s s' target run)
include h heffect

theorem Store.CommitEffect.target_history {t' : TargetRow}
    (hm : CommitMoved input s.nextSnapshotId target t') :
    TargetHistory (events ++ [⟨s, .commit clocks input, out, s'⟩]) s' input.targetID t' := by
  have hold := h.present _ _ heffect.locked
  have hvalidates := heffect.validates_eq clocks out input.targetID
  have hpointer := (hm.committed (lookup_mem heffect.locked).2).2
  obtain ⟨hinserted, -⟩ := heffect.inserted_eq clocks out h input.targetID
  cases hp : Store.publishes input with
  | true =>
    obtain ⟨hsnapshots, -⟩ := heffect.published hp
    have hs : successfulOutcome input.outcome = true := by
      simp only [Store.publishes, Bool.and_eq_true] at hp
      exact hp.1
    refine hold.publish rfl rfl hsnapshots h.snapshots.lookup_next ?_ (by simpa [hp] using hinserted)
      (by simp [hvalidates, hs])
    exact ⟨_, by simpa [commitPointer, hp, Store.snapshotRow] using hpointer⟩
  | false =>
    refine hold.extend ?_ (by simpa [hp] using hinserted)
      (fun sid row _ hrow => heffect.snapshot_lookup hrow) fun row' hrow' _ => heffect.snapshot_rows hrow' (by simp [hp])
    cases hs : successfulOutcome input.outcome with
    | true => exact ⟨_, by simpa [commitPointer, hp, hs, hvalidates] using hpointer⟩
    | false => exact ⟨_, by simpa [commitPointer, hp, hs, hvalidates, TargetRow.pointer] using hpointer⟩

theorem Store.CommitEffect.logs_keyed :
    Keyed SnapshotRow.id s'.nextSnapshotId s'.snapshots ∧ Keyed CommitEvent.sequence s'.nextEventSequence s'.events := by
  cases hp : Store.publishes input with
  | true =>
    obtain ⟨hsnapshots, hnext, hnext', now, hevents⟩ := heffect.published hp
    rw [hsnapshots, hnext, hnext', hevents]
    exact ⟨h.snapshots.snoc rfl (by omega), h.outbox.snoc rfl (by omega)⟩
  | false =>
    obtain ⟨⟨p, now, hsnapshots⟩, hnext, hnext', hevents⟩ := heffect.unpublished hp
    rw [hsnapshots, hnext, hnext', hevents]
    exact ⟨h.snapshots.updateWhere (verifySnapshot_id now), h.outbox⟩

theorem History.commit : History (events ++ [⟨s, .commit clocks input, out, s'⟩]) s' := by
  obtain ⟨hsnapshots, houtbox⟩ := heffect.logs_keyed h
  refine ⟨heffect.keyed h.targets, hsnapshots, houtbox, fun id => ?_, fun id t' ht' => ?_⟩
  · obtain ⟨hinserted, hannounced⟩ := heffect.inserted_eq clocks out h id
    rw [committedVersions_snoc, announcedVersions_snoc, hinserted, hannounced, h.announced]
  obtain ⟨t, ht, hstep⟩ := ht'.before heffect.targets
  by_cases hid : id = input.targetID
  · subst hid
    rw [heffect.locked] at hstep
    rcases hstep with ⟨htarget, hm⟩ | ⟨hnone, -⟩
    · cases htarget
      exact heffect.target_history clocks out h hm
    · cases hnone
  · have hp : t'.pointer = t.pointer := by
      rcases hstep with ⟨hlookup, hm⟩ | ⟨-, rfl⟩
      · exact (hm.kept ((lookup_mem hlookup).2.trans_ne hid)).pointer
      · rfl
    obtain ⟨hinserted, -⟩ := heffect.inserted_eq clocks out h id
    have hvalidates := heffect.validates_eq clocks out id
    rw [if_neg fun hn => hid hn.2.symm] at hinserted
    refine (h.rows id t ht).extend ?_ hinserted (fun sid row _ hrow => heffect.snapshot_lookup hrow)
      fun row' hrow' hrow => heffect.snapshot_rows hrow' fun _ => hrow ▸ hid
    exact ⟨_, by simpa [hvalidates, Ne.symm hid, TargetRow.pointer] using hp⟩

end

end Commit

/-! ## Whole runs -/

theorem history_step (len : SnapshotMetadata → Nat) (events : List (Event Store Op Response))
    (s : Store) (op : Op) (h : History events s) :
    History (events ++ [Event.of (Store.exec len) s op]) (s.exec len op).1 := by
  have hstep := Store.exec_step len s op
  unfold Event.of
  generalize (s.exec len op).1 = s' at hstep ⊢
  generalize (s.exec len op).2 = out
  cases hstep with
  | rejected => exact History.quiet h (validates_of_unchanged rfl) (.refl s)
  | quiet hop hq => exact History.quiet h (validates_of_not_commit hop) hq
  | commit heffect => exact History.commit _ _ h heffect

/-- What the tables say about the history of their targets. -/
structure PointerHistory (events : List (Event Store Op Response)) (s : Store) : Prop where
  /-- The pointer is null with version 0, or names a snapshot of the target with its version and hash. -/
  pointer : ∀ id t, s.target? id = some t →
    (t.currentSnapshotId = none ∧ t.currentContentHash = none ∧ t.currentVersion = 0 ∧
      committedVersions events id = []) ∨
    ∃ snapshotId row, t.currentSnapshotId = some snapshotId ∧
      lookup SnapshotRow.id s.snapshots snapshotId = some row ∧ row.targetId = id ∧
      row.version = t.currentVersion ∧ t.currentContentHash = some row.contentHash
  /-- No snapshot of a target has a later version than its pointer. -/
  maximum : ∀ id t, s.target? id = some t → ∀ row ∈ s.snapshots, row.targetId = id → row.version ≤ t.currentVersion
  /-- The versions ever committed are `1 .. current_version`, in order. -/
  versions : ∀ id t, s.target? id = some t → committedVersions events id = versionsUpTo t.currentVersion
  /-- Every version committed was announced in the outbox, once. -/
  outbox : ∀ id, announcedVersions events id = committedVersions events id
  /-- The validation sequence counts the successful commits that took effect. -/
  validation : ∀ id t, s.target? id = some t → t.validationSeq = validations events id

/-- **The published pointer.** After every interleaving from empty tables, the targets' pointers, versions, hashes and
counters agree with what was committed. -/
theorem snapshot_pointer (notificationLength : SnapshotMetadata → Nat) (ops : List Op) :
    PointerHistory (trace (Store.exec notificationLength) {} ops) (final (Store.exec notificationLength) {} ops) := by
  have h : History (trace (Store.exec notificationLength) {} ops) (final (Store.exec notificationLength) {} ops) :=
    history_inv history_empty ops fun events s op _ => history_step notificationLength events s op
  refine ⟨?_, ?_, ?_, ?_, ?_⟩
  · intro id t ht
    have ht' := h.present id t ht
    rcases ht'.pointer with ⟨hcurrent, hhash, hversion⟩ | hrow
    · refine .inl ⟨hcurrent, hhash, hversion, ?_⟩
      rw [ht'.versions, hversion]
      rfl
    · exact .inr hrow
  · exact fun id t ht => (h.present id t ht).maximum
  · exact fun id t ht => (h.present id t ht).versions
  · exact h.announced
  · exact fun id t ht => (h.present id t ht).validation

end QrCommandCenter
