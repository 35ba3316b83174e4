import QrCommandCenter.Store.Effect

/-!
# Seeding hosts and targets

`SeedHost` and `upsertSeeds` of `internal/db/snapshot_repository.go`.

* `upsertSeeds` validates every seed, keeps the last seed of each conflict key and upserts what is left;
* `upsertSeeds_ok` : an upsert writes `scrape_targets` only, keeps the column groups of every existing row and
  inserts rows with their defaults.
-/

namespace QrCommandCenter
open Domain Table

structure HostStateSeed where
  host : String
  baselineRequestsPerSecond : ℚ
  burst : Int
  baselineConcurrency : Int
  now : Time
deriving DecidableEq, Repr

namespace Store

/-- The row an `INSERT` of a new host proposes. -/
def hostSeedRow (now : Time) (seed : HostStateSeed) : HostRow where
  host := seed.host
  baselineRequestsPerSecond := seed.baselineRequestsPerSecond
  currentRequestsPerSecond := seed.baselineRequestsPerSecond
  burst := seed.burst
  availableTokens := seed.burst
  tokensUpdatedAt := now
  baselineConcurrency := seed.baselineConcurrency
  currentConcurrency := seed.baselineConcurrency

/-- `ON CONFLICT DO UPDATE` of a host that is there: new limits, and at most the old rate, tokens and concurrency. -/
def onHostConflict (seed : HostStateSeed) (h : HostRow) : HostRow :=
  { h with
    baselineRequestsPerSecond := seed.baselineRequestsPerSecond
    currentRequestsPerSecond := min h.currentRequestsPerSecond seed.baselineRequestsPerSecond
    burst := seed.burst
    availableTokens := min h.availableTokens seed.burst
    baselineConcurrency := seed.baselineConcurrency
    currentConcurrency := min h.currentConcurrency seed.baselineConcurrency }

/-- `SeedHost`; `clock` is the `time.Now()` that stands in for a zero `Now`. -/
def seedHost (s : Store) (clock : Time) (seed : HostStateSeed) : Except StoreError Store :=
  if isBlank seed.host then .error (.invalid "seed host is required")
  else if seed.baselineRequestsPerSecond < 1 / 4 ∨ 5 < seed.baselineRequestsPerSecond then
    .error (.invalid "seed host requests per second must be between 0.25 and 5")
  else if seed.burst < 1 ∨ 5 < seed.burst then
    .error (.invalid "seed host burst must be between 1 and 5")
  else if seed.baselineConcurrency < 1 ∨ 4 < seed.baselineConcurrency then
    .error (.invalid "seed host concurrency must be between 1 and 4")
  else
    let now := if isZeroTime seed.now then clock else seed.now
    match s.host? seed.host with
    | none => .ok { s with hosts := s.hosts ++ [hostSeedRow now seed] }
    | some _ => .ok { s with hosts := updateWhere (fun h => h.host = seed.host) (onHostConflict seed) s.hosts }

/-! ## Upserting targets -/

/-- The checks `upsertSeeds` makes on one seed. -/
def validateSeed (seed : TargetSeed) : Except StoreError Unit := do
  seed.ref.validate
  if seed.initialInterval ≤ 0 ∨ seed.minInterval ≤ 0 ∨
      seed.maxInterval < seed.minInterval ∨ seed.maxServeAge < seed.maxInterval then
    .error (.invalidPolicy seed.ref)
  else if isZeroTime seed.nextRunAt then .error (.nextRunRequired seed.ref)
  else if !seed.attributes.valid then .error (.invalidAttributes seed.ref)
  else .ok ()

def validateSeeds : List TargetSeed → Except StoreError Unit
  | [] => .ok ()
  | seed :: rest => do
    validateSeed seed
    validateSeeds rest

/-- The seeds whose conflict key does not occur again later in the batch. -/
def dedupSeeds : List TargetSeed → List TargetSeed
  | [] => []
  | seed :: rest => if rest.any (fun r => r.ref = seed.ref) then dedupSeeds rest else seed :: dedupSeeds rest

/-- The row an `INSERT` of the seed proposes. -/
def seedRow (id : Int) (now : Time) (seed : TargetSeed) : TargetRow where
  id := id
  ref := seed.ref
  attributes := match seed.attributes with
    | .empty => .object []
    | attrs => attrs
  priority := if seed.priority ≤ 0 then 50 else seed.priority
  currentIntervalSeconds := durationSeconds seed.initialInterval
  minIntervalSeconds := durationSeconds seed.minInterval
  maxIntervalSeconds := durationSeconds seed.maxInterval
  maxServeAgeSeconds := durationSeconds seed.maxServeAge
  nextRunAt := seed.nextRunAt
  updatedAt := now

def onSeedConflict (now : Time) (excluded t : TargetRow) : TargetRow :=
  { t with
    attributes := excluded.attributes
    priority := min t.priority excluded.priority
    currentIntervalSeconds :=
      min excluded.maxIntervalSeconds (max t.currentIntervalSeconds excluded.minIntervalSeconds)
    minIntervalSeconds := excluded.minIntervalSeconds
    maxIntervalSeconds := excluded.maxIntervalSeconds
    maxServeAgeSeconds := excluded.maxServeAgeSeconds
    nextRunAt := min t.nextRunAt excluded.nextRunAt
    missingCount := 0
    enabled := true
    updatedAt := now }

/-- One row of the batched `INSERT ... ON CONFLICT`; PostgreSQL checks the proposed row before it looks for a conflict. -/
def upsertSeed (s : Store) (now : Time) (seed : TargetSeed) : Except StoreError Store :=
  let row := seedRow s.nextTargetId now seed
  if !row.checks then .error (.constraint "scrape_targets")
  else match s.targetByRef? seed.ref with
    | some _ => do
      let (s, _) ← s.updateTargets (fun t => t.ref = seed.ref) (onSeedConflict now row)
      .ok s
    | none =>
      if (s.host? seed.ref.host).isNone then .error (.constraint "scrape_targets_host_fkey")
      else .ok { s with targets := s.targets ++ [row], nextTargetId := s.nextTargetId + 1 }

def upsertAll (now : Time) : Store → List TargetSeed → Except StoreError Store
  | s, [] => .ok s
  | s, seed :: rest => do
    let s ← s.upsertSeed now seed
    upsertAll now s rest

/-- `upsertSeeds`; `now` is the database's `NOW()`. -/
def upsertSeeds (s : Store) (now : Time) (seeds : List TargetSeed) : Except StoreError Store := do
  validateSeeds seeds
  upsertAll now s (dedupSeeds seeds)

def seed (s : Store) (now : Time) (seeds : List TargetSeed) : Except StoreError Store :=
  s.upsertSeeds now seeds

end Store

/-! ## What an upsert does -/

structure TargetRow.Upserted (t t' : TargetRow) : Prop where
  ref : t'.ref = t.ref
  lease : t'.lease = t.lease
  pointer : t'.pointer = t.pointer
  lifecycle : t'.lifecycle = t.lifecycle
  enabled : t.enabled = true → t'.enabled = true
  due : t'.nextRunAt ≤ t.nextRunAt
  validated : t'.lastValidatedAt = t.lastValidatedAt

theorem TargetRow.Upserted.refl (t : TargetRow) : t.Upserted t := ⟨rfl, rfl, rfl, rfl, fun h => h, le_refl _, rfl⟩

theorem TargetRow.Upserted.trans {a b c : TargetRow} (h₁ : a.Upserted b) (h₂ : b.Upserted c) : a.Upserted c :=
  ⟨h₂.ref.trans h₁.ref, h₂.lease.trans h₁.lease, h₂.pointer.trans h₁.pointer,
    h₂.lifecycle.trans h₁.lifecycle, fun h => h₂.enabled (h₁.enabled h), h₂.due.trans h₁.due,
    h₂.validated.trans h₁.validated⟩

theorem TargetRow.Upserted.fresh {t t' : TargetRow} (hf : t.Fresh) (h : t.Upserted t') : t'.Fresh :=
  ⟨h.lease.trans hf.lease, h.pointer.trans hf.pointer⟩

namespace Store

variable {seed : TargetSeed} {seeds : List TargetSeed}

section
variable (id : Int) (now : Time) (seed : TargetSeed)

theorem seedRow_fresh : (seedRow id now seed).Fresh := ⟨rfl, rfl⟩

theorem seedRow_checks : (seedRow id now seed).checks = (seedRow 0 0 seed).checks := rfl

theorem seedRow_counted : (seedRow id now seed).Counted :=
  fun _ => (by decide : (0 : Int) ≤ 2)

end

theorem onSeedConflict_upserted (now : Time) (excluded t : TargetRow) :
    t.Upserted (onSeedConflict now excluded t) :=
  ⟨rfl, rfl, rfl, rfl, fun _ => rfl, min_le_left _ _, rfl⟩

section
variable {s s' : Store} {now : Time}

theorem upsertSeed_inv (h : s.upsertSeed now seed = .ok s') :
    (seedRow s.nextTargetId now seed).checks = true ∧
      ((∃ t n, s.targetByRef? seed.ref = some t ∧
          s.updateTargets (fun t => t.ref = seed.ref) (onSeedConflict now (seedRow s.nextTargetId now seed)) = .ok (s', n)) ∨
        s.targetByRef? seed.ref = none ∧
          s' = { s with targets := s.targets ++ [seedRow s.nextTargetId now seed], nextTargetId := s.nextTargetId + 1 }) := by
  unfold upsertSeed at h
  obtain ⟨hchecks, h⟩ := ite_error_eq_ok.mp h
  refine ⟨by simpa using hchecks, ?_⟩
  split at h
  · rename_i t ht
    obtain ⟨⟨s₁, n⟩, hu, h⟩ := bind_eq_ok.mp h
    cases h
    exact .inl ⟨t, n, ht, hu⟩
  · rename_i hnew
    obtain ⟨-, h⟩ := ite_error_eq_ok.mp h
    cases h
    exact .inr ⟨hnew, rfl⟩

theorem upsertSeed_ok (h : s.upsertSeed now seed = .ok s') :
    TargetsEffect TargetRow.Upserted s s' := by
  obtain ⟨hchecks, ⟨_, _, -, hu⟩ | ⟨hnew, rfl⟩⟩ := upsertSeed_inv h
  · exact updateTargets_effect hu (fun _ => ⟨rfl, rfl, fun h => h⟩) (fun t _ => onSeedConflict_upserted _ _ t)
      TargetRow.Upserted.refl
  · exact insertTarget_effect (seedRow_fresh _ _ _) rfl hnew hchecks (seedRow_counted _ _ _) TargetRow.Upserted.refl

theorem upsertAll_ok (h : upsertAll now s seeds = .ok s') :
    TargetsEffect TargetRow.Upserted s s' := by
  induction seeds generalizing s with
  | nil =>
    cases h
    exact TargetsEffect.refl TargetRow.Upserted.refl _
  | cons seed rest ih =>
    obtain ⟨s₁, h₁, h₂⟩ := bind_eq_ok.mp h
    exact (upsertSeed_ok h₁).trans (ih h₂) (fun _ _ _ => TargetRow.Upserted.trans)
      (fun _ _ hf h => h.fresh hf)

/-- **An upsert writes `scrape_targets` only and keeps the leases, pointers and lifecycles it finds.** -/
theorem upsertSeeds_ok (h : s.upsertSeeds now seeds = .ok s') :
    TargetsEffect TargetRow.Upserted s s' := by
  obtain ⟨_, -, h⟩ := bind_eq_ok.mp h
  exact upsertAll_ok h

end

/-! ## Seeds that were upserted once -/

theorem dedupSeeds_subset (h : seed ∈ dedupSeeds seeds) : seed ∈ seeds := by
  induction seeds with
  | nil => exact h
  | cons first rest ih =>
    unfold dedupSeeds at h
    split at h
    · exact List.mem_cons_of_mem first (ih h)
    · rcases List.mem_cons.mp h with rfl | h
      · exact List.mem_cons_self
      · exact List.mem_cons_of_mem first (ih h)

theorem dedupSeeds_ref (h : seed ∈ seeds) :
    ∃ kept ∈ dedupSeeds seeds, kept.ref = seed.ref := by
  induction seeds generalizing seed with
  | nil => cases h
  | cons first rest ih =>
    unfold dedupSeeds
    by_cases hany : rest.any (fun r => r.ref = first.ref) = true
    · rw [if_pos hany]
      rcases List.mem_cons.mp h with rfl | h
      · obtain ⟨later, hlater, href⟩ := List.any_eq_true.mp hany
        obtain ⟨kept, hkept, hkeptRef⟩ := ih hlater
        exact ⟨kept, hkept, hkeptRef.trans (of_decide_eq_true href)⟩
      · exact ih h
    · rw [if_neg hany]
      rcases List.mem_cons.mp h with rfl | h
      · exact ⟨seed, List.mem_cons_self, rfl⟩
      · obtain ⟨kept, hkept, hkeptRef⟩ := ih h
        exact ⟨kept, List.mem_cons_of_mem first hkept, hkeptRef⟩

/-- The seed passed the `CHECK`s and its target is there. -/
structure Seeded (s : Store) (seed : TargetSeed) : Prop where
  checks : (seedRow 0 0 seed).checks = true
  present : ∃ t ∈ s.targets, t.ref = seed.ref

variable {s s' : Store} {now : Time}

theorem Seeded.congr (hs : s.Seeded seed) (h : s'.targets = s.targets) : s'.Seeded seed :=
  ⟨hs.checks, by rw [h]; exact hs.present⟩

theorem Seeded.mono {R : TargetRow → TargetRow → Prop} (h : TargetsEffect R s s')
    (hR : ∀ t t', R t t' → t'.ref = t.ref) (hk : s.TargetsKeyed) (hs : s.Seeded seed) : s'.Seeded seed := by
  obtain ⟨t, ht, href⟩ := hs.present
  obtain ⟨t', ht', hmoved⟩ := h.mem hk ht
  exact ⟨hs.checks, t', ht', (hR t t' hmoved).trans href⟩

theorem upsertSeed_seeded (h : s.upsertSeed now seed = .ok s') : s'.Seeded seed := by
  obtain ⟨hchecks, ⟨t, _, ht, hu⟩ | ⟨-, rfl⟩⟩ := upsertSeed_inv h
  · obtain ⟨htm, href⟩ := lookup_mem ht
    refine ⟨hchecks, ?_⟩
    rw [(updateTargets_ok hu).1]
    refine ⟨_, List.mem_map_of_mem htm, ?_⟩
    split <;> exact href
  · exact ⟨hchecks, _, List.mem_append_right _ (List.mem_singleton.mpr rfl), rfl⟩

theorem upsertAll_seeded (hk : s.TargetsKeyed) (h : upsertAll now s seeds = .ok s') :
    ∀ seed ∈ seeds, s'.Seeded seed := by
  induction seeds generalizing s with
  | nil => simp
  | cons seed rest ih =>
    obtain ⟨s₁, h₁, h₂⟩ := bind_eq_ok.mp h
    have hk₁ := (upsertSeed_ok h₁).keyed hk
    intro x hx
    rcases List.mem_cons.mp hx with rfl | hx
    · exact (upsertSeed_seeded h₁).mono (upsertAll_ok h₂) (fun _ _ hu => hu.ref) hk₁
    · exact ih hk₁ h₂ x hx

theorem onSeedConflict_checks {excluded t : TargetRow} (he : excluded.checks = true) (ht : t.checks = true) :
    (onSeedConflict now excluded t).checks = true := by
  simp only [TargetRow.checks, inSmallint, inInteger, Bool.and_eq_true, decide_eq_true_eq] at he ht ⊢
  obtain ⟨⟨⟨⟨⟨⟨⟨⟨⟨⟨⟨⟨⟨⟨⟨-, hpriority'⟩, -⟩, -⟩, hmin⟩, hmax⟩, hserve⟩, -⟩, -⟩, -⟩, -⟩, -⟩, -⟩, -⟩, -⟩, -⟩ := he
  obtain ⟨⟨⟨⟨⟨⟨⟨⟨⟨⟨⟨⟨⟨⟨⟨hkind, hpriority⟩, -⟩, hinterval⟩, -⟩, -⟩, -⟩, hseq⟩, hfailures⟩, hchanges⟩, hversion⟩,
    hgeneration⟩, hlease⟩, hpointer⟩, hmissing⟩, hcount⟩ := ht
  refine ⟨⟨⟨⟨⟨⟨⟨⟨⟨⟨⟨⟨⟨⟨⟨hkind, ?_⟩, le_refl 0, (by decide : (0 : Int) ≤ 2)⟩, ?_⟩, hmin⟩, hmax⟩, hserve⟩, hseq⟩, hfailures⟩, hchanges⟩, hversion⟩,
    hgeneration⟩, hlease⟩, hpointer⟩, hmissing⟩, hcount⟩
  · show -32768 ≤ min t.priority excluded.priority ∧ min t.priority excluded.priority ≤ 32767
    omega
  · -- the interval is clamped between the proposed bounds
    simp only [onSeedConflict]
    omega

theorem upsertSeed_found (hs : ∀ t ∈ s.targets, t.checks = true) (hchecks : (seedRow 0 0 seed).checks = true)
    {t : TargetRow} (ht : s.targetByRef? seed.ref = some t) (now : Time) :
    s.upsertSeed now seed = .ok { s with
      targets := updateWhere (fun t => t.ref = seed.ref) (onSeedConflict now (seedRow s.nextTargetId now seed)) s.targets } := by
  rw [← seedRow_checks s.nextTargetId now] at hchecks
  have hupdate : s.targets.all (fun t => !decide (t.ref = seed.ref) ||
      (onSeedConflict now (seedRow s.nextTargetId now seed) t).checks) = true := by
    rw [List.all_eq_true]
    intro x hx
    rw [onSeedConflict_checks hchecks (hs x hx), Bool.or_true]
  unfold upsertSeed
  rw [ht]
  simp only [hchecks, updateTargets, hupdate, if_true]
  rfl

theorem upsertSeed_succeeds (hs : s.TargetsSound) (hseed : s.Seeded seed) (now : Time) :
    ∃ s', s.upsertSeed now seed = .ok s' := by
  obtain ⟨t, ht, href⟩ := hseed.present
  obtain ⟨t', ht'⟩ := lookup_isSome_of_mem TargetRow.ref ht
  rw [href] at ht'
  exact ⟨_, upsertSeed_found hs.checked hseed.checks ht' now⟩

/-- **Seeds whose targets are there can be upserted again.** -/
theorem upsertAll_succeeds (hk : s.TargetsKeyed) (hs : s.TargetsSound) (hseeds : ∀ seed ∈ seeds, s.Seeded seed)
    (now : Time) : ∃ s', upsertAll now s seeds = .ok s' := by
  induction seeds generalizing s with
  | nil => exact ⟨s, rfl⟩
  | cons seed rest ih =>
    obtain ⟨s₁, h₁⟩ := upsertSeed_succeeds hs (hseeds seed List.mem_cons_self) now
    have heffect := upsertSeed_ok h₁
    obtain ⟨s', h₂⟩ := ih (heffect.keyed hk) (heffect.sound hs) fun x hx =>
      (hseeds x (List.mem_cons_of_mem seed hx)).mono heffect (fun _ _ hu => hu.ref) hk
    exact ⟨s', bind_eq_ok.mpr ⟨s₁, h₁, h₂⟩⟩

end Store

end QrCommandCenter
