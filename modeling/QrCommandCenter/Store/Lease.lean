import QrCommandCenter.Store.Effect
import Mathlib.Data.List.Sort

/-!
# Leases

The claims and the lease statements of `internal/db/snapshot_repository.go`. `locked` lists the rows that concurrent
transactions hold locked, which `FOR UPDATE SKIP LOCKED` passes over.

* `claimDue`, `claimOne` : take a lease, one generation above the row's;
* `renewLease`, `releaseLease`, `rescheduleLease`, `setDueNow`, `repairStaleTargets`;
* `LeaseMoved` : what these statements do to a row (`claimDue_ok` and so on);
* `Claimed s s' target` : `target` is a claimed row (`claimDue_claimed`, `claimOne_claimed`);
* `LeaseOver s id generation` : the lease of that generation is over and stays over (`LeaseOver.evolve`).
-/

namespace QrCommandCenter
open Domain Table

structure ClaimRequest where
  now : Time
  limit : Int
  workerID : String
  leaseDuration : Duration
deriving DecidableEq, Repr

structure ClaimOneRequest where
  ref : TargetRef
  now : Time
  workerID : String
  leaseDuration : Duration
deriving DecidableEq, Repr

structure ReleaseLeaseRequest where
  targetID : Int
  leaseGeneration : Int
deriving DecidableEq, Repr

structure RenewLeaseRequest where
  targetID : Int
  workerID : String
  leaseGeneration : Int
  leaseDuration : Duration
  now : Time
deriving DecidableEq, Repr

/-! ## Claims -/

def validateClaim (now : Time) (worker : String) (lease : Duration) : Except StoreError Unit :=
  if isZeroTime now then .error (.invalid "claim time is required")
  else if isBlank worker then .error (.invalid "claim worker ID is required")
  else if lease ≤ 0 then .error (.invalid "claim lease duration must be positive")
  else .ok ()

/-- `column IS NULL OR column <= now`. -/
def notAfter (column : Option Time) (now : Time) : Bool :=
  match column with
  | none => true
  | some at_ => at_ ≤ now

/-- The `SET` list of both claims. -/
def takeLease (now : Time) (worker : String) (lease : Duration) (t : TargetRow) : TargetRow :=
  { t with
    leaseOwner := some worker
    leaseGeneration := t.leaseGeneration + 1
    leaseExpiresAt := some (now + makeInterval (durationSeconds lease))
    lastAttemptAt := some now
    updatedAt := now }

/-- Order by priority, then next run, then id. -/
def scheduledBefore (a b : Int × Time × Int) : Prop :=
  a.1 < b.1 ∨ a.1 = b.1 ∧ (a.2.1 < b.2.1 ∨ a.2.1 = b.2.1 ∧ a.2.2 ≤ b.2.2)

instance : DecidableRel scheduledBefore := fun _ _ => inferInstanceAs (Decidable (_ ∨ _))

namespace Store

/-- The lease is free or expired and the host is not paused. -/
def claimable (s : Store) (now : Time) (t : TargetRow) : Bool :=
  notAfter t.leaseExpiresAt now &&
    match s.host? t.ref.host with
    | none => false
    | some host => notAfter host.pausedUntil now

/-- The `due` rows of `ClaimDue`, in order. -/
def dueTargets (s : Store) (now : Time) (locked : List Int) : List TargetRow :=
  (s.targets.filter fun t => t.enabled && t.lifecycleState = .active && t.nextRunAt ≤ now &&
      s.claimable now t && !locked.contains t.id).insertionSort
    fun a b => scheduledBefore (a.priority, a.nextRunAt, a.id) (b.priority, b.nextRunAt, b.id)

def claimDue (s : Store) (locked : List Int) (request : ClaimRequest) :
    Except StoreError (Store × List ScrapeTarget) :=
  if request.limit ≤ 0 then .error (.invalid "claim limit must be positive")
  else do
    validateClaim request.now request.workerID request.leaseDuration
    let due := ((s.dueTargets request.now locked).take request.limit.toNat).map TargetRow.id
    let (s, _) ← s.updateTargets (fun t => due.contains t.id)
      (takeLease request.now request.workerID request.leaseDuration)
    .ok (s, ((s.targets.filter fun t => due.contains t.id).map scanScrapeTarget).insertionSort
      fun a b => scheduledBefore (a.priority, a.nextRunAt, a.id) (b.priority, b.nextRunAt, b.id))

def unavailableClaim (s : Store) (ref : TargetRef) (now : Time) : StoreError :=
  match s.targetByRef? ref with
  | none => .snapshotNotFound
  | some t =>
    match s.host? t.ref.host with
    | none => .snapshotNotFound
    | some host =>
      if !t.enabled then .snapshotNotFound
      else if !notAfter host.pausedUntil now then .hostPaused
      else .targetLeased

def claimOne (s : Store) (locked : List Int) (request : ClaimOneRequest) :
    Except StoreError (Store × ScrapeTarget) := do
  request.ref.validate
  validateClaim request.now request.workerID request.leaseDuration
  match s.targets.find? fun t => t.ref = request.ref && t.enabled && s.claimable request.now t &&
      !locked.contains t.id with
  | none => .error (s.unavailableClaim request.ref request.now)
  | some t => do
    let (s, _) ← s.updateTargets (fun r => r.id = t.id)
      (takeLease request.now request.workerID request.leaseDuration)
    .ok (s, scanScrapeTarget (takeLease request.now request.workerID request.leaseDuration t))

/-! ## Lease statements -/

/-- Clears the lease and stamps the row; `now` is the database's `NOW()`. -/
def freeLease (now : Time) (t : TargetRow) : TargetRow :=
  { t with leaseOwner := none, leaseExpiresAt := none, updatedAt := now }

def releaseLease (s : Store) (now : Time) (request : ReleaseLeaseRequest) : Except StoreError Store :=
  if request.targetID ≤ 0 ∨ request.leaseGeneration ≤ 0 then
    .error (.invalid "release lease requires positive target ID and generation")
  else do
    let (s, _) ← s.updateTargets
      (fun t => t.id = request.targetID && t.leaseGeneration = request.leaseGeneration) (freeLease now)
    .ok s

def renewLease (s : Store) (request : RenewLeaseRequest) : Except StoreError Store :=
  if request.targetID ≤ 0 ∨ request.leaseGeneration ≤ 0 then
    .error (.invalid "renew lease requires positive target ID and generation")
  else if isBlank request.workerID then .error (.invalid "renew lease requires worker ID")
  else if request.leaseDuration ≤ 0 then .error (.invalid "renew lease requires positive lease duration")
  else do
    let (s, affected) ← s.updateTargets
      (fun t => t.id = request.targetID && t.leaseOwner = some request.workerID &&
        t.leaseGeneration = request.leaseGeneration)
      (fun t => { t with leaseExpiresAt := some (request.now + makeInterval (durationSeconds request.leaseDuration)) })
    if affected = 0 then .error (.leaseLost "") else .ok s

def setDueNow (s : Store) (ref : TargetRef) (now : Time) : Except StoreError Store := do
  ref.validate
  let (s, affected) ← s.updateTargets (fun t => t.ref = ref)
    (fun t => { t with nextRunAt := min t.nextRunAt now, updatedAt := now })
  if affected = 0 then .error .snapshotNotFound else .ok s

/-- `RescheduleLease`; `now` is the database's `NOW()`. -/
def rescheduleLease (s : Store) (now : Time) (targetID generation : Int) (nextRunAt : Time) :
    Except StoreError Store := do
  let (s, affected) ← s.updateTargets (fun t => t.id = targetID && t.leaseGeneration = generation)
    (fun t => { freeLease now t with nextRunAt := nextRunAt })
  if affected = 0 then .error (.leaseLost "") else .ok s

/-- The lease ran out more than an hour before `now`. -/
def orphaned (now : Time) (t : TargetRow) : Bool :=
  match t.leaseExpiresAt with
  | none => false
  | some at_ => at_ < now - hour

/-- The `SET` list of `RepairStaleTargets`. -/
def repairTarget (now : Time) (t : TargetRow) : TargetRow :=
  { t with
    nextRunAt := min t.nextRunAt now
    leaseOwner := if orphaned now t then none else t.leaseOwner
    leaseExpiresAt := if orphaned now t then none else t.leaseExpiresAt
    updatedAt := now }

/-- `RepairStaleTargets`, which reads the ids of the targets only. -/
def repairStaleTargets (s : Store) (ids : List Int) (now : Time) : Except StoreError (Store × Nat) :=
  if ids.isEmpty then .ok (s, 0)
  else s.updateTargets (fun t => ids.contains t.id) (repairTarget now)

end Store

/-! ## What the lease statements do to a row -/

/-- A lease statement moves the lease columns and the schedule. -/
structure TargetRow.Rescheduled (t t' : TargetRow) : Prop where
  ref : t'.ref = t.ref
  pointer : t'.pointer = t.pointer
  lifecycle : t'.lifecycle = t.lifecycle
  enabled : t'.enabled = t.enabled
  lease : t.LeaseStep t'

/-- All of them but a reschedule leave the next run where it is or bring it forward. -/
structure TargetRow.LeaseMoved (t t' : TargetRow) : Prop extends t.Rescheduled t' where
  due : t'.nextRunAt ≤ t.nextRunAt

theorem TargetRow.Rescheduled.refl (t : TargetRow) : t.Rescheduled t := ⟨rfl, rfl, rfl, rfl, .refl t⟩

theorem TargetRow.LeaseMoved.refl (t : TargetRow) : t.LeaseMoved t := ⟨.refl t, le_refl _⟩

theorem takeLease_moved (now : Time) (worker : String) (lease : Duration) (t : TargetRow) :
    t.LeaseMoved (takeLease now worker lease t) :=
  ⟨⟨rfl, rfl, rfl, rfl, .inl (by simp [takeLease])⟩, le_refl _⟩

namespace Store

variable {locked : List Int} {request : ClaimOneRequest} {out : ScrapeTarget} {now nextRunAt : Time}
  {id generation : Int} {n : Nat} {t : TargetRow}

theorem freeLease_moved (now : Time) (t : TargetRow) : t.LeaseMoved (freeLease now t) :=
  ⟨⟨rfl, rfl, rfl, rfl, .inr ⟨rfl, fun _ => rfl⟩⟩, le_refl _⟩

theorem repairTarget_moved (now : Time) (t : TargetRow) : t.LeaseMoved (repairTarget now t) := by
  refine ⟨⟨rfl, rfl, rfl, rfl, .inr ⟨rfl, fun hn => ?_⟩⟩, min_le_left _ _⟩
  simp only [repairTarget, hn, ite_self]

variable {s s' : Store}

theorem claimDue_inv {request : ClaimRequest} {out : List ScrapeTarget}
    (h : s.claimDue locked request = .ok (s', out)) :
    ∃ (due : List Int) (n : Nat),
      s.updateTargets (fun t => due.contains t.id)
        (takeLease request.now request.workerID request.leaseDuration) = .ok (s', n) ∧
      out.Perm ((s'.targets.filter fun t => due.contains t.id).map scanScrapeTarget) := by
  unfold claimDue at h
  split at h
  · cases h
  · obtain ⟨_, -, h⟩ := bind_eq_ok.mp h
    obtain ⟨⟨s₁, n⟩, hu, h⟩ := bind_eq_ok.mp h
    cases h
    exact ⟨_, n, hu, List.perm_insertionSort _ _⟩

theorem claimOne_inv (h : s.claimOne locked request = .ok (s', out)) :
    ∃ t ∈ s.targets, ∃ n, s.updateTargets (fun r => r.id = t.id)
        (takeLease request.now request.workerID request.leaseDuration) = .ok (s', n) ∧
      out = scanScrapeTarget (takeLease request.now request.workerID request.leaseDuration t) := by
  unfold claimOne at h
  obtain ⟨_, -, h⟩ := bind_eq_ok.mp h
  obtain ⟨_, -, h⟩ := bind_eq_ok.mp h
  split at h
  · cases h
  · rename_i t ht
    obtain ⟨⟨s₁, n⟩, hu, h⟩ := bind_eq_ok.mp h
    cases h
    exact ⟨t, List.mem_of_find?_eq_some ht, n, hu, rfl⟩

theorem claimOne_ref (h : s.claimOne locked request = .ok (s', out)) : out.ref = request.ref := by
  unfold claimOne at h
  obtain ⟨_, -, h⟩ := bind_eq_ok.mp h
  obtain ⟨_, -, h⟩ := bind_eq_ok.mp h
  split at h
  · cases h
  · rename_i t ht
    obtain ⟨⟨s₁, n⟩, -, h⟩ := bind_eq_ok.mp h
    cases h
    have hfound := List.find?_some ht
    simp only [Bool.and_eq_true, decide_eq_true_eq] at hfound
    exact hfound.1.1.1

theorem claimDue_ok {request : ClaimRequest} {out : List ScrapeTarget} (h : s.claimDue locked request = .ok (s', out)) :
    TargetsEffect TargetRow.LeaseMoved s s' := by
  obtain ⟨due, n, hu, -⟩ := claimDue_inv h
  exact updateTargets_effect hu (fun _ => ⟨rfl, rfl, fun h => h⟩) (fun t _ => takeLease_moved _ _ _ t) TargetRow.LeaseMoved.refl

theorem claimOne_ok (h : s.claimOne locked request = .ok (s', out)) : TargetsEffect TargetRow.LeaseMoved s s' := by
  obtain ⟨t, -, n, hu, -⟩ := claimOne_inv h
  exact updateTargets_effect hu (fun _ => ⟨rfl, rfl, fun h => h⟩) (fun t _ => takeLease_moved _ _ _ t) TargetRow.LeaseMoved.refl

theorem releaseLease_inv {request : ReleaseLeaseRequest} (h : s.releaseLease now request = .ok s') :
    ∃ n, s.updateTargets (fun t => t.id = request.targetID && t.leaseGeneration = request.leaseGeneration)
      (freeLease now) = .ok (s', n) := by
  unfold releaseLease at h
  split at h
  · cases h
  · obtain ⟨⟨s₁, n⟩, hu, h⟩ := bind_eq_ok.mp h
    cases h
    exact ⟨n, hu⟩

theorem releaseLease_ok {request : ReleaseLeaseRequest} (h : s.releaseLease now request = .ok s') :
    TargetsEffect TargetRow.LeaseMoved s s' := by
  obtain ⟨n, hu⟩ := releaseLease_inv h
  exact updateTargets_effect hu (fun _ => ⟨rfl, rfl, fun h => h⟩) (fun t _ => freeLease_moved _ t) TargetRow.LeaseMoved.refl

theorem renewLease_inv {request : RenewLeaseRequest} (h : s.renewLease request = .ok s') :
    ∃ n, s.updateTargets
      (fun t => t.id = request.targetID && t.leaseOwner = some request.workerID &&
        t.leaseGeneration = request.leaseGeneration)
      (fun t => { t with leaseExpiresAt := some (request.now + makeInterval (durationSeconds request.leaseDuration)) }) =
        .ok (s', n) := by
  unfold renewLease at h
  rw [ite_error_eq_ok, ite_error_eq_ok, ite_error_eq_ok] at h
  obtain ⟨-, -, -, h⟩ := h
  obtain ⟨⟨s₁, n⟩, hu, h⟩ := bind_eq_ok.mp h
  obtain ⟨-, h⟩ := ite_error_eq_ok.mp h
  cases h
  exact ⟨n, hu⟩

theorem setDueNow_inv {ref : TargetRef} (h : s.setDueNow ref now = .ok s') :
    ∃ n, s.updateTargets (fun t => t.ref = ref) (fun t => { t with nextRunAt := min t.nextRunAt now, updatedAt := now }) =
      .ok (s', n) := by
  obtain ⟨_, -, h⟩ := bind_eq_ok.mp h
  obtain ⟨⟨s₁, n⟩, hu, h⟩ := bind_eq_ok.mp h
  obtain ⟨-, h⟩ := ite_error_eq_ok.mp h
  cases h
  exact ⟨n, hu⟩

theorem setDueNow_ok {ref : TargetRef} (h : s.setDueNow ref now = .ok s') :
    TargetsEffect TargetRow.LeaseMoved s s' := by
  obtain ⟨n, hu⟩ := setDueNow_inv h
  exact updateTargets_effect hu (fun _ => ⟨rfl, rfl, fun h => h⟩)
    (fun t _ => ⟨⟨rfl, rfl, rfl, rfl, .inr ⟨rfl, fun hn => hn⟩⟩, min_le_left _ _⟩) TargetRow.LeaseMoved.refl

theorem rescheduleLease_inv (h : s.rescheduleLease now id generation nextRunAt = .ok s') :
    ∃ n, s.updateTargets (fun t => t.id = id && t.leaseGeneration = generation)
      (fun t => { freeLease now t with nextRunAt := nextRunAt }) = .ok (s', n) ∧ n ≠ 0 := by
  obtain ⟨⟨s₁, n⟩, hu, h⟩ := bind_eq_ok.mp h
  obtain ⟨hn, h⟩ := ite_error_eq_ok.mp h
  cases h
  exact ⟨n, hu, hn⟩

/-! ## Claimed leases and leases that are over -/

/-- `target` is a row of `s'` whose lease a claim took, one generation above its row in `s`. -/
def Claimed (s s' : Store) (target : ScrapeTarget) : Prop :=
  ∃ t t', s.target? target.id = some t ∧ s'.target? target.id = some t' ∧
    target = scanScrapeTarget t' ∧ t'.leaseGeneration = t.leaseGeneration + 1

theorem updateTargets_claimed {p : TargetRow → Bool} {worker : String} {lease : Duration} (hk : s.TargetsKeyed)
    (hu : s.updateTargets p (takeLease now worker lease) = .ok (s', n)) (ht : t ∈ s.targets) (hp : p t = true) :
    s.Claimed s' (scanScrapeTarget (takeLease now worker lease t)) := by
  have hl : s.target? t.id = some t := lookup_of_nodup hk.nodup ht
  refine ⟨t, takeLease now worker lease t, hl, ?_, rfl, rfl⟩
  have hl' := updateTargets_target? hu (fun _ => rfl) t.id
  rw [hl, Option.map_some, if_pos hp] at hl'
  exact hl'

theorem claimDue_claimed {request : ClaimRequest} {out : List ScrapeTarget} (hk : s.TargetsKeyed)
    (h : s.claimDue locked request = .ok (s', out)) :
    (out.map ScrapeTarget.id).Nodup ∧ ∀ target ∈ out, s.Claimed s' target := by
  have hk' : s'.TargetsKeyed := (claimDue_ok h).keyed hk
  obtain ⟨due, n, hu, hperm⟩ := claimDue_inv h
  constructor
  · rw [(hperm.map ScrapeTarget.id).nodup_iff, List.map_map]
    exact hk'.nodup.sublist ((List.filter_sublist).map TargetRow.id)
  · intro target htarget
    obtain ⟨t', ht', rfl⟩ := List.mem_map.mp (hperm.mem_iff.mp htarget)
    obtain ⟨hm', hdue⟩ := List.mem_filter.mp ht'
    rw [(updateTargets_ok hu).1] at hm'
    obtain ⟨t, ht, rfl⟩ := mem_updateWhere hm'
    by_cases hp : due.contains t.id = true
    · rw [if_pos hp]
      exact updateTargets_claimed hk hu ht hp
    · rw [if_neg hp] at hdue
      exact absurd hdue hp

theorem claimOne_claimed (hk : s.TargetsKeyed) (h : s.claimOne locked request = .ok (s', out)) : s.Claimed s' out := by
  obtain ⟨t, ht, n, hu, rfl⟩ := claimOne_inv h
  exact updateTargets_claimed hk hu ht (by simp)

/-- The lease of that generation is over: the row has a later one, or has it without an owner. -/
def LeaseOver (s : Store) (id generation : Int) : Prop :=
  ∃ t, s.target? id = some t ∧
    (generation < t.leaseGeneration ∨ generation = t.leaseGeneration ∧ t.leaseOwner = none)

theorem LeaseOver.evolve {F : TargetRow → Prop} (h : s.LeaseOver id generation)
    (he : Evolves TargetRow.id TargetRow.LeaseStep F s.targets s'.targets) : s'.LeaseOver id generation := by
  obtain ⟨t, ht, hg⟩ := h
  obtain ⟨t', ht', hs⟩ := he.kept id t ht
  refine ⟨t', ht', ?_⟩
  rcases hs with hlt | ⟨heq, hown⟩
  · rcases hg with hg | ⟨hg, -⟩ <;> left <;> omega
  · rcases hg with hg | ⟨hg, ho⟩
    · left; omega
    · exact .inr ⟨hg.trans heq.symm, hown ho⟩

theorem updateTargets_leaseOver {f : TargetRow → TargetRow}
    (hu : s.updateTargets (fun t => t.id = id && t.leaseGeneration = generation) f = .ok (s', n))
    (hf : ∀ t, (f t).id = t.id ∧ (f t).leaseGeneration = t.leaseGeneration ∧ (f t).leaseOwner = none)
    (ht : s.target? id = some t) (hg : generation ≤ t.leaseGeneration) : s'.LeaseOver id generation := by
  obtain ⟨-, hid⟩ := lookup_mem ht
  have hl := updateTargets_target? hu (fun r => (hf r).1) id
  rw [ht, Option.map_some] at hl
  refine ⟨_, hl, ?_⟩
  by_cases he : t.leaseGeneration = generation
  · right
    simp [hid, he, (hf t).2.1, (hf t).2.2]
  · left
    simp only [hid, he, decide_false, Bool.and_false, Bool.false_eq_true, if_false]
    omega

theorem releaseLease_leaseOver (h : s.releaseLease now ⟨id, generation⟩ = .ok s') (ht : s.target? id = some t)
    (hg : generation ≤ t.leaseGeneration) : s'.LeaseOver id generation := by
  obtain ⟨n, hu⟩ := releaseLease_inv h
  exact updateTargets_leaseOver hu (fun _ => ⟨rfl, rfl, rfl⟩) ht hg

theorem rescheduleLease_leaseOver (hk : s.TargetsKeyed) (h : s.rescheduleLease now id generation nextRunAt = .ok s') :
    s'.LeaseOver id generation := by
  obtain ⟨n, hu, hn⟩ := rescheduleLease_inv h
  rw [(updateTargets_ok hu).2.1] at hn
  obtain ⟨t, ht, hp⟩ := List.countP_pos_iff.mp (Nat.pos_of_ne_zero hn)
  simp only [Bool.and_eq_true, decide_eq_true_eq] at hp
  obtain ⟨rfl, rfl⟩ := hp
  exact updateTargets_leaseOver hu (fun _ => ⟨rfl, rfl, rfl⟩) (lookup_of_nodup hk.nodup ht) le_rfl

end Store

end QrCommandCenter
