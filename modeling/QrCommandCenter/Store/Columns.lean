import QrCommandCenter.Store.System

/-!
# Which operation writes which column

The columns of `scrape_targets` that a published snapshot is served from are written by commits alone; the interval
columns by commits and by seeds, which clamp the interval to the policy they bring.

* `TargetRow.content`, `.bounds`, `.interval` : the two groups of columns, `TargetRow.Clamped` : the interval lies between
  its bounds;
* `TargetRow.Touched seeds t t'`, `TargetRow.Planted seeds t'` : what an operation with these seeds may do to a row, and
  the rows it may insert;
* `exec_touched` : every operation but a commit touches the rows only;
* `Committed`, `commit_committed` : the rows, snapshots and runs that a commit leaves, and what it returns.
-/

namespace QrCommandCenter
open Domain Table

variable {t t' : TargetRow}

/-! ## Column groups -/

/-- The columns that only a commit writes. -/
def TargetRow.content (t : TargetRow) :
    (Option Int × Int × Option ContentHash × Int × Int) × Option Time × DataQualityState :=
  (t.pointer, t.lastValidatedAt, t.qualityState)

def TargetRow.bounds (t : TargetRow) : Int × Int × Int :=
  (t.minIntervalSeconds, t.maxIntervalSeconds, t.maxServeAgeSeconds)

def TargetRow.interval (t : TargetRow) : Int × Int × Int × Int := (t.currentIntervalSeconds, t.bounds)

def TargetRow.Clamped (t : TargetRow) : Prop :=
  t.minIntervalSeconds ≤ t.currentIntervalSeconds ∧ t.currentIntervalSeconds ≤ t.maxIntervalSeconds

def seedBounds (seed : TargetSeed) : Int × Int × Int :=
  (durationSeconds seed.minInterval, durationSeconds seed.maxInterval, durationSeconds seed.maxServeAge)

theorem TargetRow.Clamped.congr (h : t.Clamped) (heq : t'.interval = t.interval) : t'.Clamped := by
  simp only [TargetRow.interval, TargetRow.bounds, Prod.mk.injEq] at heq
  obtain ⟨hcurrent, hmin, hmax, -⟩ := heq
  unfold TargetRow.Clamped
  rw [hcurrent, hmin, hmax]
  exact h

/-! ## Rows that are touched, and rows that are planted -/

/-- A row keeps its content, and its interval columns unless a seed has written the bounds and clamped the interval. -/
structure TargetRow.Touched (seeds : List TargetSeed) (t t' : TargetRow) : Prop where
  ref : t'.ref = t.ref
  content : t'.content = t.content
  interval : t'.interval = t.interval ∨
    (∃ seed ∈ seeds, seed.ref = t.ref ∧ t'.bounds = seedBounds seed) ∧ t'.Clamped

structure TargetRow.Planted (seeds : List TargetSeed) (t' : TargetRow) : Prop where
  content : t'.content = ((none, 0, none, 0, 0), none, .unavailable)
  interval : ∃ seed ∈ seeds, seed.ref = t'.ref ∧ t'.bounds = seedBounds seed ∧
    (t'.currentIntervalSeconds = durationSeconds seed.initialInterval ∨ t'.Clamped)

variable {seeds seeds' : List TargetSeed}

theorem TargetRow.Touched.refl (seeds : List TargetSeed) (t : TargetRow) : t.Touched seeds t := ⟨rfl, rfl, .inl rfl⟩

theorem TargetRow.Touched.trans {a b c : TargetRow} (h₁ : a.Touched seeds b) (h₂ : b.Touched seeds c) :
    a.Touched seeds c := by
  refine ⟨h₂.ref.trans h₁.ref, h₂.content.trans h₁.content, ?_⟩
  rcases h₂.interval with heq | ⟨⟨seed, hseed, href, hbounds⟩, hclamped⟩
  · rcases h₁.interval with heq₁ | ⟨⟨seed, hseed, href, hbounds⟩, hclamped⟩
    · exact .inl (heq.trans heq₁)
    · exact .inr ⟨⟨seed, hseed, href, (congrArg Prod.snd heq).trans hbounds⟩, hclamped.congr heq⟩
  · exact .inr ⟨⟨seed, hseed, href.trans h₁.ref, hbounds⟩, hclamped⟩

theorem TargetRow.Touched.mono (h : t.Touched seeds t') (hsub : ∀ seed ∈ seeds, seed ∈ seeds') :
    t.Touched seeds' t' := by
  refine ⟨h.ref, h.content, h.interval.imp_right ?_⟩
  rintro ⟨⟨seed, hseed, hrest⟩, hclamped⟩
  exact ⟨⟨seed, hsub seed hseed, hrest⟩, hclamped⟩

theorem TargetRow.Planted.mono (h : t'.Planted seeds) (hsub : ∀ seed ∈ seeds, seed ∈ seeds') :
    t'.Planted seeds' := by
  obtain ⟨seed, hseed, hrest⟩ := h.interval
  exact ⟨h.content, seed, hsub seed hseed, hrest⟩

theorem TargetRow.Planted.touched (h : t.Planted seeds) (ht : t.Touched seeds t') :
    t'.Planted seeds := by
  refine ⟨ht.content.trans h.content, ?_⟩
  rcases ht.interval with heq | ⟨⟨seed, hseed, href, hbounds⟩, hclamped⟩
  · obtain ⟨seed, hseed, href, hbounds, hinterval⟩ := h.interval
    refine ⟨seed, hseed, href.trans ht.ref.symm, (congrArg Prod.snd heq).trans hbounds, ?_⟩
    exact hinterval.imp (fun h => (congrArg Prod.fst heq).trans h) (fun h => h.congr heq)
  · exact ⟨seed, hseed, href.trans ht.ref.symm, hbounds, .inr hclamped⟩

namespace Store

variable {now : Time} {seed : TargetSeed}

abbrev RowsTouched (seeds : List TargetSeed) (s s' : Store) : Prop :=
  Evolves TargetRow.id (TargetRow.Touched seeds) (TargetRow.Planted seeds) s.targets s'.targets

variable {s s' : Store}

theorem RowsTouched.of_eq (seeds : List TargetSeed) (h : s'.targets = s.targets) : RowsTouched seeds s s' := by
  unfold RowsTouched
  rw [h]
  exact Evolves.refl (TargetRow.Touched.refl seeds) _ _

theorem RowsTouched.trans {a b c : Store} (h₁ : RowsTouched seeds a b) (h₂ : RowsTouched seeds b c) :
    RowsTouched seeds a c :=
  Evolves.trans h₁ h₂ (fun _ _ _ => TargetRow.Touched.trans) (fun _ _ => TargetRow.Planted.touched) fun _ h => h

theorem RowsTouched.mono (h : RowsTouched seeds s s') (hsub : ∀ seed ∈ seeds, seed ∈ seeds') :
    RowsTouched seeds' s s' :=
  Evolves.mono h (fun _ _ ht => ht.mono hsub) (fun _ hp => hp.mono hsub)

theorem updateTargets_touched (seeds : List TargetSeed) {n : Nat} {p : TargetRow → Bool} {f : TargetRow → TargetRow}
    (h : s.updateTargets p f = .ok (s', n)) (hid : ∀ t, (f t).id = t.id)
    (hf : ∀ t : TargetRow, p t = true → t.Touched seeds (f t)) : RowsTouched seeds s s' := by
  obtain ⟨rfl, -, -⟩ := updateTargets_ok h
  exact Evolves.updateWhere hid hf (fun t _ => .refl seeds t) _ _

/-! ## Seeds -/

theorem onSeedConflict_touched {id : Int} (hchecks : (seedRow id now seed).checks = true) (href : t.ref = seed.ref) :
    t.Touched [seed] (onSeedConflict now (seedRow id now seed) t) := by
  refine ⟨rfl, rfl, .inr ⟨⟨seed, List.mem_singleton_self seed, href.symm, rfl⟩, ?_⟩⟩
  simp only [TargetRow.checks, Bool.and_eq_true, decide_eq_true_eq] at hchecks
  obtain ⟨⟨⟨⟨⟨⟨⟨⟨⟨⟨⟨⟨⟨⟨⟨-, -⟩, -⟩, -⟩, -⟩, hmax, -⟩, -⟩, -⟩, -⟩, -⟩, -⟩, -⟩, -⟩, -⟩, -⟩, -⟩ := hchecks
  simp only [TargetRow.Clamped, onSeedConflict]
  omega

theorem seedRow_planted (id : Int) (now : Time) (seed : TargetSeed) : (seedRow id now seed).Planted [seed] :=
  ⟨rfl, seed, List.mem_singleton_self seed, rfl, rfl, .inl rfl⟩

theorem upsertSeed_touched (h : s.upsertSeed now seed = .ok s') :
    RowsTouched [seed] s s' := by
  obtain ⟨hchecks, ⟨_, _, -, hu⟩ | ⟨-, rfl⟩⟩ := upsertSeed_inv h
  · exact updateTargets_touched _ hu (fun _ => rfl) fun t ht => onSeedConflict_touched hchecks (of_decide_eq_true ht)
  · refine Evolves.append (TargetRow.Touched.refl _) _ fun r hr => ?_
    rw [List.mem_singleton.mp hr]
    exact seedRow_planted _ _ _

theorem upsertAll_touched (h : upsertAll now s seeds = .ok s') : RowsTouched seeds s s' := by
  induction seeds generalizing s with
  | nil =>
    cases h
    exact .of_eq [] rfl
  | cons seed rest ih =>
    obtain ⟨s₁, h₁, h₂⟩ := bind_eq_ok.mp h
    refine ((upsertSeed_touched h₁).mono fun x hx => ?_).trans ((ih h₂).mono fun x hx => List.mem_cons_of_mem seed hx)
    rw [List.mem_singleton.mp hx]
    exact List.mem_cons_self

theorem upsertSeeds_touched (h : s.upsertSeeds now seeds = .ok s') : RowsTouched seeds s s' := by
  obtain ⟨_, -, h⟩ := bind_eq_ok.mp h
  exact (upsertAll_touched h).mono fun _ => dedupSeeds_subset

/-! ## The other operations -/

theorem applyChildPresence_touched (seeds : List TargetSeed) {parent : TargetRef} {seen : List TargetRef}
    (h : s.applyChildPresence now parent seen = .ok s') : RowsTouched seeds s s' := by
  unfold applyChildPresence at h
  split at h
  · cases h
    exact .of_eq seeds rfl
  · obtain ⟨s₁, h₁, h⟩ := bind_eq_ok.mp h
    obtain ⟨⟨s₂, n⟩, hu, h⟩ := bind_eq_ok.mp h
    cases h
    obtain ⟨n₁, h₁⟩ := updateSeen_inv h₁
    exact (updateTargets_touched seeds h₁ (fun _ => rfl) fun _ _ => ⟨rfl, rfl, .inl rfl⟩).trans
      (updateTargets_touched seeds hu (fun _ => rfl) fun _ _ => ⟨rfl, rfl, .inl rfl⟩)

theorem reconcileLifecycle_touched {input : LifecycleReconcileInput} (h : s.reconcileLifecycle now input = .ok s') :
    RowsTouched input.discoveredSeeds s s' := by
  obtain ⟨-, rfl⟩ | ⟨scope, s₁, s₂, n₁, n₂, -, h₁, h₂, h₃⟩ := reconcileLifecycle_inv h
  · exact .of_eq _ rfl
  · exact ((upsertSeeds_touched h₁).trans (updateTargets_touched _ h₂ (fun _ => rfl) fun _ _ => ⟨rfl, rfl, .inl rfl⟩)).trans
      (updateTargets_touched _ h₃ (fun _ => rfl) fun _ _ => ⟨rfl, rfl, .inl rfl⟩)

end Store

def Op.seeding : Op → List TargetSeed
  | .seed _ seeds => seeds
  | .reconcileLifecycle _ input => input.discoveredSeeds
  | .commit _ input => input.discovered
  | _ => []

namespace Store

variable {s s' : Store}
variable {input : CommitInput} {seq runID version : Int} {snapshotID : Option Int} {target : TargetRow} {now : Time}
  {len : SnapshotMetadata → Nat} {result : CommitResult}

/-- **Every operation but a commit leaves the content of every row.** -/
theorem exec_touched (len : SnapshotMetadata → Nat) (s : Store) {op : Op} (hop : op.isCommit = false) :
    RowsTouched op.seeding s (s.exec len op).1 := by
  have h := exec_cases len s op
  generalize (s.exec len op).1 = s' at h ⊢
  cases h with
  | unchanged => exact .of_eq _ rfl
  | seeded h => exact upsertSeeds_touched h
  | leased _ h hf =>
    refine updateTargets_touched _ h (fun t => ?_) fun t _ => ?_ <;> rw [(hf t).columns]
    exact ⟨rfl, rfl, .inl rfl⟩
  | committed => cases hop
  | reconciled h => exact reconcileLifecycle_touched h
  | pruned _ h => exact .of_eq _ (by rw [h.frame])
  | dequeued => exact .of_eq _ rfl
  | hosted _ h => exact .of_eq _ (by rw [h])

/-! ## Commits -/

section
variable (input : CommitInput)

def commitSeq (t : TargetRow) : Int :=
  if successfulOutcome input.outcome then t.validationSeq + 1 else t.validationSeq

def commitVersion (t : TargetRow) : Int :=
  if publishes input then t.currentVersion + 1 else t.currentVersion

def committedTarget (nextSnapshotId : Int) (t : TargetRow) : TargetRow :=
  committedRow input (commitSeq input t) (commitVersion input t) (commitSnapshotID input nextSnapshotId) t

def updatedRow (nextSnapshotId : Int) (t : TargetRow) : TargetRow :=
  if t.id = input.targetID then committedTarget input nextSnapshotId t else t

/-- The snapshots after a commit: one more version, or the published one verified again, or all as they were. -/
def committedSnapshots (s : Store) (target : TargetRow) : List SnapshotRow :=
  if publishes input then
    s.snapshots ++ [snapshotRow s.nextSnapshotId s.nextRunId (target.currentVersion + 1) input]
  else if successfulOutcome input.outcome then
    updateWhere (fun row => target.currentSnapshotId = some row.id)
      (verifySnapshot (input.validatedAt.getD input.finishedAt)) s.snapshots
  else s.snapshots

/-- What a commit that is no replay does to the rows, the snapshots and the runs, and what it returns. -/
structure Committed (s s' : Store) (target : TargetRow) (result : CommitResult) : Prop where
  locked : s.target? input.targetID = some target
  generation : target.leaseGeneration = input.leaseGeneration
  owner : target.leaseOwner = some input.workerID
  unrecorded : s.run? input.targetID input.leaseGeneration = none
  rows : Evolves TargetRow.id (fun t t' => (updatedRow input s.nextSnapshotId t).Touched input.discovered t')
    (TargetRow.Planted input.discovered) s.targets s'.targets
  runs : s'.runs = s.runs ++ [runRow s.nextRunId input (commitSeq input target)]
  nextRunId : s'.nextRunId = s.nextRunId + 1
  snapshots : s'.snapshots = committedSnapshots input s target
  runID : result.runID = s.nextRunId
  snapshot : result.snapshot = (commitSnapshotID input s.nextSnapshotId).map
    (commitSnapshot target input (commitSeq input target) (target.currentVersion + 1))

end

theorem any_published (hk : s.TargetsKeyed) {id : Int} (ht : s.target? id = some t) (snapshotID : Int) :
    (s.targets.any fun t => t.id = id && t.currentSnapshotId = some snapshotID) =
      decide (t.currentSnapshotId = some snapshotID) := by
  rw [Bool.eq_iff_iff, List.any_eq_true, decide_eq_true_eq]
  constructor
  · rintro ⟨x, hx, hfound⟩
    simp only [Bool.and_eq_true, decide_eq_true_eq] at hfound
    have hlookup := lookup_of_nodup hk.nodup hx
    rw [hfound.1] at hlookup
    rw [target?, hlookup] at ht
    rw [← Option.some.inj ht]
    exact hfound.2
  · intro hcurrent
    obtain ⟨hmem, hid⟩ := lookup_mem ht
    exact ⟨t, hmem, by simp [hid, hcurrent]⟩

theorem commitTarget_rows (hk : s.TargetsKeyed) (h : s.commitTarget input seq version snapshotID = .ok s')
    (hlock : s.target? input.targetID = some target) (hgeneration : target.leaseGeneration = input.leaseGeneration)
    (F : TargetRow → Prop) :
    Evolves TargetRow.id
        (fun t t' => t = target ∧ t' = committedRow input seq version snapshotID t ∨ t.id ≠ input.targetID ∧ t' = t)
        F s.targets s'.targets ∧
      s' = { s with targets := s'.targets, snapshots := s'.snapshots } ∧
      s'.snapshots = if successfulOutcome input.outcome ∧ snapshotID = none then
        updateWhere (fun row => target.currentSnapshotId = some row.id)
          (verifySnapshot (input.validatedAt.getD input.finishedAt)) s.snapshots else s.snapshots := by
  obtain ⟨s₁, n, hu, rfl⟩ := commitTarget_ok h
  have hrows := updateCommitted_rows hu (fun t => committedRow_id ..) hlock hgeneration F
  have hs₁ := (updateTargets_ok hu).1
  split
  · rename_i hrefresh
    refine ⟨hrows, by rw [hs₁]; rfl, ?_⟩
    -- the refresh looks the published snapshot up in the updated row, which kept its pointer
    obtain ⟨t', ht', heq⟩ := hrows.kept _ _ hlock
    have hcurrent : t'.currentSnapshotId = target.currentSnapshotId := by
      rcases heq with ⟨-, rfl⟩ | ⟨-, rfl⟩
      · rw [committedRow, if_pos hrefresh.1, hrefresh.2]
        rfl
      · rfl
    have hk₁ : s₁.TargetsKeyed := by
      unfold TargetsKeyed
      rw [hs₁]
      exact Keyed.updateWhere hk fun t => committedRow_id ..
    show updateWhere _ _ s₁.snapshots = _
    simp only [any_published hk₁ ht', hcurrent]
    rw [hs₁]
  · rw [hs₁] at hrows ⊢
    exact ⟨hrows, rfl, rfl⟩

theorem recordDiscovery_touched {ref : TargetRef} (h : s.recordDiscovery now input ref = .ok s') :
    RowsTouched input.discovered s s' := by
  obtain ⟨s₁, h₁, h⟩ := bind_eq_ok.mp h
  obtain ⟨s₂, h₂, h⟩ := bind_eq_ok.mp h
  have e₂ : RowsTouched input.discovered s₁ s₂ := .of_eq _ (by rw [insertCandidates_ok h₂])
  refine (upsertSeeds_touched h₁).trans (e₂.trans ?_)
  split at h
  · exact applyChildPresence_touched _ h
  · cases h
    exact .of_eq _ rfl

theorem commitRun_committed (hk : s.TargetsKeyed) (h : s.commitRun len now input = .ok (s', result)) :
    ∃ target, Committed input s s' target result := by
  obtain ⟨target, seq, runID, version, s₁, s₂, s₃, s₄, snapshotID, h₀, hseq, hversion, h₁, h₂, h₃, h₄, h₅⟩ :=
    commitRun_inv h
  obtain ⟨hlock, hgeneration, howner⟩ := fencedTarget_ok h₀
  obtain ⟨hunrecorded, rfl, e₁⟩ := insertRun_runRow h₁
  obtain ⟨hsnapshotID, e₂⟩ := insertVersion_ok h₂
  have hnext : s₁.nextSnapshotId = s.nextSnapshotId := by rw [e₁]
  rw [hnext] at hsnapshotID
  have hseq : seq = commitSeq input target := nextValidationSeq_ok hseq
  have hversion : version = commitVersion input target := hversion
  have htargets₂ : s₂.targets = s.targets ∧ s₂.nextTargetId = s.nextTargetId := by
    rw [e₂, e₁]
    exact ⟨rfl, rfl⟩
  obtain ⟨hrows, e₃, hsnapshots⟩ := commitTarget_rows (by unfold TargetsKeyed; rw [htargets₂.1, htargets₂.2]; exact hk)
    h₃ (by unfold target?; rw [htargets₂.1]; exact hlock) hgeneration (TargetRow.Planted input.discovered)
  have e₄ := recordDiscovery_frame h₄
  obtain ⟨e₅, rfl⟩ := announce_ok h₅
  rw [htargets₂.1] at hrows
  refine ⟨target, hlock, hgeneration, howner, hunrecorded, ?_, ?_, ?_, ?_, rfl, ?_⟩
  · have htouched := recordDiscovery_touched h₄
    rw [e₅]
    refine ⟨fun k t ht => ?_, fun k t' hn ht' => ?_⟩
    · obtain ⟨t₃, ht₃, heq⟩ := hrows.kept k t ht
      obtain ⟨t', ht', htouch⟩ := htouched.kept k t₃ ht₃
      refine ⟨t', ht', ?_⟩
      have hupdated : updatedRow input s.nextSnapshotId t = t₃ := by
        unfold updatedRow
        rcases heq with ⟨rfl, rfl⟩ | ⟨hid, rfl⟩
        · rw [if_pos (lookup_mem hlock).2, committedTarget, ← hseq, ← hversion, ← hsnapshotID]
        · rw [if_neg hid]
      rw [hupdated]
      exact htouch
    · cases h₃' : lookup TargetRow.id s₃.targets k with
      | none => exact htouched.new k t' h₃' ht'
      | some t₃ =>
        obtain ⟨t'', ht'', htouch⟩ := htouched.kept k t₃ h₃'
        rw [ht'] at ht''
        cases ht''
        exact (hrows.new k t₃ hn h₃').touched htouch
  · rw [e₅, e₄, e₃, e₂, e₁, hseq]
  · rw [e₅, e₄, e₃, e₂, e₁]
  · rw [e₅, e₄]
    show s₃.snapshots = _
    rw [hsnapshots, hsnapshotID, e₂, e₁]
    unfold committedSnapshots commitSnapshotID
    cases hp : publishes input with
    | true => simp [hversion, commitVersion, hp]
    | false => simp
  · rw [hsnapshotID, hseq, hversion]
    unfold commitSnapshotID commitVersion
    split <;> rfl

/-- **A commit that succeeds either answers from the recorded run and changes nothing, or is one of `Committed`.** -/
theorem commit_committed {clocks : CommitClocks} (hk : s.TargetsKeyed)
    (h : s.commit len clocks input = .ok (s', result)) :
    s' = s ∧ s.existingCommitResult clocks input.targetID input.leaseGeneration = .ok (some result) ∨
      ∃ target, Committed input s s' target result := by
  obtain ⟨_, -, h⟩ := bind_eq_ok.mp h
  obtain ⟨replay, hreplay, h⟩ := bind_eq_ok.mp h
  cases replay with
  | some result' =>
    cases h
    exact .inl ⟨rfl, hreplay⟩
  | none => exact .inr (commitRun_committed hk h)

end Store

end QrCommandCenter
