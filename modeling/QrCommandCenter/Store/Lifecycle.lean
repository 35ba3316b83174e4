import QrCommandCenter.Store.Seed

/-!
# Child targets

The children of a parent target: their presence counters, which `Commit` moves, and their lifecycle, which the separate
`ReconcileLifecycle` transaction moves.

* `applyChildPresence` : `missing_count` and `enabled` after a changed commit;
* `reconcileLifecycle` : `lifecycle_state`, `consecutive_missing_count` and `enabled` after a listing was confirmed;
* `TargetRow.Kept` : both keep every lease and every pointer (`applyChildPresence_ok`, `reconcileLifecycle_ok`);
* `reconcileLifecycle_child` : the lifecycle of every child after a reconcile;
* `reconcileLifecycle_succeeds`, `reconcileLifecycle_listed` : the reconcile of a listing that was committed cannot
  fail, and leaves every listed child active.
-/

namespace QrCommandCenter
open Domain Table

variable {t t' : TargetRow}

/-- The kind and the parent key of a parent's children; only catalogs and courses have any. -/
def childScope (parent : TargetRef) : Option (SnapshotKind × String) :=
  match parent.kind with
  | .courseCatalog => some (.courseDetail, "")
  | .courseDetail => some (.sessionDetail, parent.resourceKey)
  | _ => none

/-- `seenKeys` : the resource keys of the references that are children in this scope. -/
def seenKeys (parent : TargetRef) (childKind : SnapshotKind) (parentKey : String) (seen : List TargetRef) :
    List String :=
  (seen.filter fun ref => ref.host = parent.host && ref.kind = childKind && ref.parentKey = parentKey).map
    TargetRef.resourceKey

/-- A child in this scope has its key among the seen keys exactly when it was seen. -/
theorem seenKeys_contains {parent ref : TargetRef} {childKind : SnapshotKind} {parentKey : String}
    (hchild : ref.host = parent.host ∧ ref.kind = childKind ∧ ref.parentKey = parentKey) (seen : List TargetRef) :
    (seenKeys parent childKind parentKey seen).contains ref.resourceKey = true ↔ ref ∈ seen := by
  rw [List.contains_iff_mem]
  unfold seenKeys
  simp only [List.mem_map, List.mem_filter, Bool.and_eq_true, decide_eq_true_eq]
  constructor
  · rintro ⟨other, ⟨hother, ⟨hhost, hkind⟩, hparent⟩, hkey⟩
    have heq : other = ref := by
      apply TargetRef.ext
      · rw [hhost, hchild.1]
      · rw [hkind, hchild.2.1]
      · exact hkey
      · rw [hparent, hchild.2.2]
    rw [← heq]
    exact hother
  · intro hseen
    exact ⟨ref, ⟨hseen, ⟨hchild.1, hchild.2.1⟩, hchild.2.2⟩, rfl⟩

/-- `host = $ AND kind = $ AND parent_key = $`. -/
def inScope (host : String) (childKind : SnapshotKind) (parentKey : String) (t : TargetRow) : Bool :=
  t.ref.host = host && t.ref.kind = childKind && t.ref.parentKey = parentKey

namespace Store

def updateSeen (s : Store) (scope : TargetRow → Bool) (keys : List String) (f : TargetRow → TargetRow) :
    Except StoreError Store :=
  if keys.isEmpty then .ok s
  else do
    let (s, _) ← s.updateTargets (fun t => scope t && keys.contains t.ref.resourceKey) f
    .ok s

/-! ## Presence counters -/

/-- `applyChildPresence`; `now` is the database's `NOW()`. -/
def applyChildPresence (s : Store) (now : Time) (parent : TargetRef) (seen : List TargetRef) :
    Except StoreError Store :=
  match childScope parent with
  | none => .ok s
  | some (childKind, childParent) => do
    let keys := seenKeys parent childKind childParent seen
    let s ← s.updateSeen (inScope parent.host childKind childParent) keys
      (fun t => { t with missingCount := 0, enabled := true, updatedAt := now })
    let (s, _) ← s.updateTargets
      (fun t => inScope parent.host childKind childParent t && !keys.contains t.ref.resourceKey)
      (fun t => { t with
        missingCount := min 2 (t.missingCount + 1)
        enabled := if 1 ≤ t.missingCount then false else t.enabled
        updatedAt := now })
    .ok s

end Store

/-! ## Lifecycle -/

structure LifecycleReconcileInput where
  parentRef : TargetRef
  parentVersion : Int
  discoveredSeeds : List TargetSeed
  seenChildRefs : List TargetRef
deriving DecidableEq, Repr

def tombstoneThresholdForChildKind : SnapshotKind → Int
  | .sessionDetail => 2
  | .courseDetail => 3
  | _ => 3

/-- The `SET` list for a child that is listed. -/
def activateChild (now : Time) (parentVersion : Int) (t : TargetRow) : TargetRow :=
  { t with
    lifecycleState := .active
    lastSeenParentVersion := some parentVersion
    consecutiveMissingCount := 0
    reactivatedAt := if t.lifecycleState = .tombstoned then some now else t.reactivatedAt
    tombstonedAt := if t.lifecycleState = .tombstoned then none else t.tombstonedAt
    consecutiveFailures := if t.lifecycleState = .tombstoned then 0 else t.consecutiveFailures
    nextRunAt := if t.lifecycleState = .tombstoned then now else t.nextRunAt
    enabled := true
    updatedAt := now }

/-- The `SET` list for a child that is not listed. -/
def missChild (now : Time) (threshold : Int) (t : TargetRow) : TargetRow :=
  let gone := threshold ≤ t.consecutiveMissingCount + 1
  { t with
    lifecycleState := if gone then .tombstoned else .missing
    consecutiveMissingCount := t.consecutiveMissingCount + 1
    tombstonedAt := if gone then some now else t.tombstonedAt
    enabled := if gone then false else t.enabled
    updatedAt := now }

namespace Store

/-- `ReconcileLifecycle`; `now` is the database's `NOW()`. The parent version is written, and compared with nothing. -/
def reconcileLifecycle (s : Store) (now : Time) (input : LifecycleReconcileInput) : Except StoreError Store :=
  match childScope input.parentRef with
  | none => .ok s
  | some (childKind, parentKey) => do
    let s ← s.upsertSeeds now input.discoveredSeeds
    let keys := seenKeys input.parentRef childKind parentKey input.seenChildRefs
    let s ← s.updateSeen (inScope input.parentRef.host childKind parentKey) keys
      (activateChild now input.parentVersion)
    let (s, _) ← s.updateTargets
      (fun t => inScope input.parentRef.host childKind parentKey t && !keys.contains t.ref.resourceKey &&
        (t.lifecycleState = .active || t.lifecycleState = .missing))
      (missChild now (tombstoneThresholdForChildKind childKind))
    .ok s

end Store

/-! ## What the child statements keep -/

/-- The lease, the pointer with the time of its validation, and the identity of a row are kept. -/
structure TargetRow.Kept (t t' : TargetRow) : Prop where
  ref : t'.ref = t.ref
  lease : t'.lease = t.lease
  pointer : t'.pointer = t.pointer
  validated : t'.lastValidatedAt = t.lastValidatedAt

theorem TargetRow.Kept.refl (t : TargetRow) : t.Kept t := ⟨rfl, rfl, rfl, rfl⟩

theorem TargetRow.Kept.trans {a b c : TargetRow} (h₁ : a.Kept b) (h₂ : b.Kept c) : a.Kept c :=
  ⟨h₂.ref.trans h₁.ref, h₂.lease.trans h₁.lease, h₂.pointer.trans h₁.pointer, h₂.validated.trans h₁.validated⟩

theorem TargetRow.Kept.fresh (hf : t.Fresh) (h : t.Kept t') : t'.Fresh :=
  ⟨h.lease.trans hf.lease, h.pointer.trans hf.pointer⟩

theorem TargetRow.Upserted.kept (h : t.Upserted t') : t.Kept t' :=
  ⟨h.ref, h.lease, h.pointer, h.validated⟩

/-- The discovery statements of a commit also keep the lifecycle; only those of a commit that publishes disable. -/
structure TargetRow.Tended (publishing : Bool) (t t' : TargetRow) : Prop extends t.Kept t' where
  lifecycle : t'.lifecycle = t.lifecycle
  enabled : publishing = false → t.enabled = true → t'.enabled = true
  due : t'.nextRunAt ≤ t.nextRunAt

variable {publishing : Bool}

theorem TargetRow.Tended.refl (t : TargetRow) : t.Tended publishing t := ⟨.refl t, rfl, fun _ h => h, le_refl _⟩

theorem TargetRow.Tended.trans {a b c : TargetRow} (h₁ : a.Tended publishing b) (h₂ : b.Tended publishing c) :
    a.Tended publishing c :=
  ⟨h₁.toKept.trans h₂.toKept, h₂.lifecycle.trans h₁.lifecycle, fun hp h => h₂.enabled hp (h₁.enabled hp h),
    h₂.due.trans h₁.due⟩

theorem TargetRow.Upserted.tended (h : t.Upserted t') : t.Tended publishing t' :=
  ⟨h.kept, h.lifecycle, fun _ => h.enabled, h.due⟩

namespace Store

variable {s s' : Store} {now : Time}
variable {f : TargetRow → TargetRow} {input : LifecycleReconcileInput} {childKind : SnapshotKind} {parentKey : String}

theorem TargetsEffect.trans_kept {a b c : Store} (h₁ : TargetsEffect TargetRow.Kept a b)
    (h₂ : TargetsEffect TargetRow.Kept b c) : TargetsEffect TargetRow.Kept a c :=
  h₁.trans h₂ (fun _ _ _ => TargetRow.Kept.trans) (fun _ _ hf h => h.fresh hf)

theorem updateSeen_inv {scope : TargetRow → Bool} {keys : List String} (h : s.updateSeen scope keys f = .ok s') :
    ∃ n, s.updateTargets (fun t => scope t && keys.contains t.ref.resourceKey) f = .ok (s', n) := by
  unfold updateSeen at h
  split at h
  · rename_i he
    cases h
    rw [List.isEmpty_iff.mp he]
    exact ⟨0, by simp [updateTargets, updateWhere]⟩
  · obtain ⟨⟨s₁, n⟩, hu, h⟩ := bind_eq_ok.mp h
    cases h
    exact ⟨n, hu⟩

theorem applyChildPresence_ok {parent : TargetRef} {seen : List TargetRef}
    (h : s.applyChildPresence now parent seen = .ok s') : TargetsEffect (TargetRow.Tended true) s s' := by
  unfold applyChildPresence at h
  split at h
  · cases h
    exact TargetsEffect.refl TargetRow.Tended.refl s
  · obtain ⟨s₁, h₁, h⟩ := bind_eq_ok.mp h
    obtain ⟨⟨s₂, n⟩, hu, h⟩ := bind_eq_ok.mp h
    cases h
    obtain ⟨n₁, h₁⟩ := updateSeen_inv h₁
    have e₁ : TargetsEffect (TargetRow.Tended true) s s₁ := updateTargets_effect h₁ (fun _ => ⟨rfl, rfl, fun h => h⟩)
      (fun _ _ => ⟨⟨rfl, rfl, rfl, rfl⟩, rfl, (fun h => nomatch h), le_refl _⟩) TargetRow.Tended.refl
    have e₂ : TargetsEffect (TargetRow.Tended true) s₁ s' := updateTargets_effect hu (fun _ => ⟨rfl, rfl, fun h => h⟩)
      (fun _ _ => ⟨⟨rfl, rfl, rfl, rfl⟩, rfl, (fun h => nomatch h), le_refl _⟩) TargetRow.Tended.refl
    exact e₁.trans e₂ (fun _ _ _ => TargetRow.Tended.trans) (fun _ _ hf h => h.toKept.fresh hf)

theorem activateChild_keeps (now : Time) (parentVersion : Int) (t : TargetRow) :
    t.Keeps (activateChild now parentVersion t) :=
  ⟨rfl, rfl, fun _ _ => (by decide : (0 : Int) ≤ 2)⟩

theorem tombstoneThreshold_le (childKind : SnapshotKind) : tombstoneThresholdForChildKind childKind ≤ 3 := by
  unfold tombstoneThresholdForChildKind
  split <;> decide

theorem missChild_keeps (now : Time) (childKind : SnapshotKind) (t : TargetRow) :
    t.Keeps (missChild now (tombstoneThresholdForChildKind childKind) t) := by
  refine ⟨rfl, rfl, fun _ hstate => ?_⟩
  have hthreshold := tombstoneThreshold_le childKind
  simp only [missChild] at hstate ⊢
  split at hstate
  · exact absurd rfl hstate
  · omega

section
variable (parent : TargetRef) (scope : SnapshotKind × String) (seen : List TargetRef) (t : TargetRow)

def listedChild : Bool :=
  inScope parent.host scope.1 scope.2 t && (seenKeys parent scope.1 scope.2 seen).contains t.ref.resourceKey

def unlistedChild : Bool :=
  inScope parent.host scope.1 scope.2 t && !(seenKeys parent scope.1 scope.2 seen).contains t.ref.resourceKey

end

theorem reconcileLifecycle_inv (h : s.reconcileLifecycle now input = .ok s') :
    childScope input.parentRef = none ∧ s' = s ∨
    ∃ scope s₁ s₂ n₁ n₂, childScope input.parentRef = some scope ∧ s.upsertSeeds now input.discoveredSeeds = .ok s₁ ∧
      s₁.updateTargets (listedChild input.parentRef scope input.seenChildRefs)
        (activateChild now input.parentVersion) = .ok (s₂, n₁) ∧
      s₂.updateTargets (fun t => unlistedChild input.parentRef scope input.seenChildRefs t &&
          (t.lifecycleState = .active || t.lifecycleState = .missing))
        (missChild now (tombstoneThresholdForChildKind scope.1)) = .ok (s', n₂) := by
  unfold reconcileLifecycle at h
  split at h
  · rename_i hscope
    cases h
    exact .inl ⟨hscope, rfl⟩
  · rename_i childKind parentKey hscope
    obtain ⟨s₁, h₁, h⟩ := bind_eq_ok.mp h
    obtain ⟨s₂, h₂, h⟩ := bind_eq_ok.mp h
    obtain ⟨⟨s₃, n₂⟩, h₃, h⟩ := bind_eq_ok.mp h
    obtain ⟨n₁, h₂⟩ := updateSeen_inv h₂
    cases h
    exact .inr ⟨(childKind, parentKey), s₁, s₂, n₁, n₂, hscope, h₁, h₂, h₃⟩

theorem reconcileLifecycle_ok (h : s.reconcileLifecycle now input = .ok s') :
    TargetsEffect TargetRow.Kept s s' := by
  obtain ⟨-, rfl⟩ | ⟨scope, s₁, s₂, n₁, n₂, -, h₁, h₂, h₃⟩ := reconcileLifecycle_inv h
  · exact TargetsEffect.refl TargetRow.Kept.refl s'
  have e₁ := (upsertSeeds_ok h₁).mono fun _ _ hu => hu.kept
  have e₂ : TargetsEffect TargetRow.Kept s₁ s₂ := updateTargets_effect h₂ (activateChild_keeps now input.parentVersion)
    (fun _ _ => ⟨rfl, rfl, rfl, rfl⟩) TargetRow.Kept.refl
  exact (e₁.trans_kept e₂).trans_kept
    (updateTargets_effect h₃ (missChild_keeps now scope.1) (fun _ _ => ⟨rfl, rfl, rfl, rfl⟩) TargetRow.Kept.refl)

/-! ## The lifecycle after a reconcile -/

theorem missChild_lifecycleState (now : Time) (threshold : Int) (t : TargetRow) :
    (missChild now threshold t).lifecycleState ≠ .active := by
  simp only [missChild]
  split <;> simp

/-- **After a reconcile a child is active exactly when listed**, and then enabled with its missing counter at zero. -/
theorem reconcileLifecycle_child (hscope : childScope input.parentRef = some (childKind, parentKey))
    (h : s.reconcileLifecycle now input = .ok s') (ht' : t' ∈ s'.targets)
    (hin : inScope input.parentRef.host childKind parentKey t' = true) :
    if (seenKeys input.parentRef childKind parentKey input.seenChildRefs).contains t'.ref.resourceKey then
      t'.lifecycleState = .active ∧ t'.consecutiveMissingCount = 0 ∧ t'.enabled = true
    else t'.lifecycleState ≠ .active := by
  obtain ⟨hnone, -⟩ | ⟨scope, s₁, s₂, n₁, n₂, hscope', -, h₂, h₃⟩ := reconcileLifecycle_inv h
  · rw [hscope] at hnone
    cases hnone
  rw [hscope] at hscope'
  cases hscope'
  have hactive : ∀ t ∈ s₂.targets, inScope input.parentRef.host childKind parentKey t = true →
      (seenKeys input.parentRef childKind parentKey input.seenChildRefs).contains t.ref.resourceKey = true →
      t.lifecycleState = .active ∧ t.consecutiveMissingCount = 0 ∧ t.enabled = true := by
    intro t ht hin hseen
    rw [(updateTargets_ok h₂).1] at ht
    obtain ⟨t₁, -, rfl⟩ := mem_updateWhere ht
    split at hin
    · rename_i hp
      rw [if_pos hp]
      exact ⟨rfl, rfl, rfl⟩
    · rename_i hp
      rw [if_neg hp] at hseen
      exact absurd (Bool.and_eq_true_iff.mpr ⟨hin, hseen⟩) hp
  rw [(updateTargets_ok h₃).1] at ht'
  obtain ⟨t, ht, rfl⟩ := mem_updateWhere ht'
  split
  · rename_i hp
    simp only [unlistedChild, Bool.and_eq_true, Bool.not_eq_true'] at hp
    rw [if_neg (by simp only [missChild, hp.1.2]; decide)]
    exact missChild_lifecycleState _ _ t
  · rename_i hp
    rw [if_neg hp] at hin
    split
    · rename_i hseen
      exact hactive t ht hin hseen
    · rename_i hseen
      intro hstate
      rw [Bool.not_eq_true] at hseen
      exact hp (by simp only [unlistedChild, hin, hseen, hstate, decide_true]; rfl)

/-! ## A reconcile after its commit succeeds -/

theorem activateChild_checks {parentVersion : Int} (ht : t.checks = true) :
    (activateChild now parentVersion t).checks = true := by
  simp only [TargetRow.checks, inSmallint, inInteger, Bool.and_eq_true, decide_eq_true_eq] at ht ⊢
  obtain ⟨⟨⟨⟨⟨⟨⟨⟨hfirst, hfailures⟩, hchanges⟩, hversion⟩, hgeneration⟩, hlease⟩, hpointer⟩, -⟩, hcount⟩ := ht
  refine ⟨⟨⟨⟨⟨⟨⟨⟨hfirst, ?_⟩, hchanges⟩, hversion⟩, hgeneration⟩, hlease⟩, hpointer⟩, by simp [activateChild]⟩, hcount⟩
  simp only [activateChild]
  split
  · decide
  · exact hfailures

theorem missChild_checks {threshold : Int} (ht : t.checks = true) (hcounted : t.Counted)
    (hstate : t.lifecycleState ≠ .tombstoned) : (missChild now threshold t).checks = true := by
  have hcount := hcounted hstate
  simp only [TargetRow.checks, inSmallint, inInteger, Bool.and_eq_true, decide_eq_true_eq] at ht ⊢
  obtain ⟨⟨hfirst, hmissing⟩, hrecords⟩ := ht
  refine ⟨⟨hfirst, ?_⟩, hrecords⟩
  show -2147483648 ≤ t.consecutiveMissingCount + 1 ∧ t.consecutiveMissingCount + 1 ≤ 2147483647
  omega

theorem updateTargets_succeeds {p : TargetRow → Bool} (h : ∀ t ∈ s.targets, p t = true → (f t).checks = true) :
    ∃ s' n, s.updateTargets p f = .ok (s', n) := by
  have hall : s.targets.all (fun t => !p t || (f t).checks) = true := by
    rw [List.all_eq_true]
    intro t ht
    cases hp : p t with
    | false => rfl
    | true => rw [h t ht hp]; rfl
  unfold updateTargets
  rw [if_pos hall]
  exact ⟨_, _, rfl⟩

/-- **The reconcile of a listing whose targets are there succeeds.** -/
theorem reconcileLifecycle_succeeds (hk : s.TargetsKeyed) (hs : s.TargetsSound)
    (hvalid : validateSeeds input.discoveredSeeds = .ok ())
    (hseeds : ∀ seed ∈ dedupSeeds input.discoveredSeeds, s.Seeded seed) (now : Time) :
    ∃ s', s.reconcileLifecycle now input = .ok s' := by
  unfold reconcileLifecycle
  split
  · exact ⟨s, rfl⟩
  · rename_i childKind parentKey _
    obtain ⟨s₁, h₁⟩ := upsertAll_succeeds hk hs hseeds now
    have hupsert : s.upsertSeeds now input.discoveredSeeds = .ok s₁ := bind_eq_ok.mpr ⟨(), hvalid, h₁⟩
    have hs₁ := (upsertAll_ok h₁).sound hs
    have hseen : ∃ s₂, s₁.updateSeen (inScope input.parentRef.host childKind parentKey)
        (seenKeys input.parentRef childKind parentKey input.seenChildRefs)
        (activateChild now input.parentVersion) = .ok s₂ := by
      unfold updateSeen
      split
      · exact ⟨s₁, rfl⟩
      · obtain ⟨s₂, n, hu⟩ := updateTargets_succeeds fun t ht _ => activateChild_checks (hs₁.checked t ht)
        exact ⟨s₂, bind_eq_ok.mpr ⟨(s₂, n), hu, rfl⟩⟩
    obtain ⟨s₂, h₂⟩ := hseen
    obtain ⟨n₁, hu⟩ := updateSeen_inv h₂
    have heffect : TargetsEffect TargetRow.Kept s₁ s₂ := updateTargets_effect hu
      (activateChild_keeps now input.parentVersion) (fun _ _ => ⟨rfl, rfl, rfl, rfl⟩) TargetRow.Kept.refl
    have hs₂ := heffect.sound hs₁
    have hmiss : ∀ t ∈ s₂.targets, (unlistedChild input.parentRef (childKind, parentKey) input.seenChildRefs t &&
        (t.lifecycleState = .active || t.lifecycleState = .missing)) = true →
        (missChild now (tombstoneThresholdForChildKind childKind) t).checks = true := by
      intro t ht hp
      refine missChild_checks (hs₂.checked t ht) (hs₂.counted t ht) fun hstate => ?_
      rw [hstate] at hp
      simp at hp
    obtain ⟨s₃, n, h₃⟩ := updateTargets_succeeds hmiss
    exact ⟨s₃, bind_eq_ok.mpr ⟨s₁, hupsert, bind_eq_ok.mpr ⟨s₂, h₂, bind_eq_ok.mpr ⟨(s₃, n), h₃, rfl⟩⟩⟩⟩

/-- **After the reconcile of a committed listing every listed child is there, active and enabled.** -/
theorem reconcileLifecycle_listed (hscope : childScope input.parentRef = some (childKind, parentKey))
    (hk : s.TargetsKeyed) (hs : s.TargetsSound) (hseeds : ∀ seed ∈ dedupSeeds input.discoveredSeeds, s.Seeded seed)
    (h : s.reconcileLifecycle now input = .ok s') {seed : TargetSeed} (hseed : seed ∈ input.discoveredSeeds)
    (hseen : seed.ref ∈ input.seenChildRefs)
    (hchild : seed.ref.host = input.parentRef.host ∧ seed.ref.kind = childKind ∧ seed.ref.parentKey = parentKey) :
    ∃ t, s'.targetByRef? seed.ref = some t ∧ t.lifecycleState = .active ∧ t.consecutiveMissingCount = 0 ∧
      t.enabled = true := by
  have heffect := reconcileLifecycle_ok h
  obtain ⟨kept, hkept, href⟩ := dedupSeeds_ref hseed
  obtain ⟨t, ht, htref⟩ := ((hseeds kept hkept).mono heffect (fun _ _ hm => hm.ref) hk).present
  rw [href] at htref
  have hin : inScope input.parentRef.host childKind parentKey t = true := by
    unfold inScope
    rw [htref]
    simp [hchild]
  have hlisted : (seenKeys input.parentRef childKind parentKey input.seenChildRefs).contains t.ref.resourceKey = true := by
    rw [htref]
    exact (seenKeys_contains hchild _).mpr hseen
  have hafter := reconcileLifecycle_child hscope h ht hin
  rw [if_pos hlisted] at hafter
  refine ⟨t, ?_, hafter⟩
  rw [← htref]
  exact lookup_of_nodup (heffect.sound hs).refs ht

end Store

end QrCommandCenter
