import QrCommandCenter.Store.System

/-!
# Lease fencing over whole runs

For every interleaving of transactions: generations only grow, no claim returns a generation again, a generation is
committed at most once, and a commit of a generation whose lease is over is refused.

* `claimedLeases e` : the leases a claim handed out;
* `Retires e id generation` : the events that end a lease;
* `commit_leaseOver` : a commit of a lease that is over changes nothing;
* `lease_fencing` : the guarantees over a run.
-/

namespace QrCommandCenter
open Domain Table Transition

abbrev StoreEvent := Event Store Op Response

/-- Leases are compared as pairs of a target and a generation. -/
instance leaseLawfulBEq : LawfulBEq (Int × Int) := inferInstance

/-- The targets and generations a claim handed out. -/
def claimedLeases (e : StoreEvent) : List (Int × Int) :=
  match e.op, e.out with
  | .claimDue _ _, .claimed targets => targets.map fun t => (t.id, t.leaseGeneration)
  | .claimOne _ _, .claimed targets => targets.map fun t => (t.id, t.leaseGeneration)
  | _, _ => []

def Commits (e : StoreEvent) (id generation : Int) : Prop :=
  ∃ clocks input, e.op = .commit clocks input ∧ input.targetID = id ∧ input.leaseGeneration = generation

/-- The target has reached the generation, so that a lease of it was handed out. -/
def Reached (s : Store) (id generation : Int) : Prop :=
  ∃ t, s.target? id = some t ∧ generation ≤ t.leaseGeneration

/-- The events that end the lease of a generation: a later claim, its release or reschedule, a repair that clears it. -/
inductive Retires (e : StoreEvent) (id generation : Int) : Prop where
  | claim (later : Int) (hlater : generation < later) (h : (id, later) ∈ claimedLeases e)
  | release (now : Time) (h : e.op = .releaseLease now ⟨id, generation⟩) (hout : e.out = .done)
      (hreached : Reached e.pre id generation)
  | reschedule (now nextRunAt : Time) (h : e.op = .rescheduleLease now id generation nextRunAt)
      (hout : e.out = .done)
  | repair (ids : List Int) (now : Time) (t t' : TargetRow) (h : e.op = .repairStaleTargets ids now)
      (hpre : e.pre.target? id = some t) (hgen : t.leaseGeneration = generation)
      (hpost : e.post.target? id = some t') (hcleared : t'.leaseOwner = none)

namespace Store

variable {s s' : Store} {len : SnapshotMetadata → Nat}
variable {id : Int} {input : CommitInput}

/-! ## One step -/

/-- The leases of claimed targets: each one generation above the row the claim found, and each of another target. -/
theorem claimed_leases {targets : List ScrapeTarget} (hnodup : (targets.map ScrapeTarget.id).Nodup)
    (hclaimed : ∀ target ∈ targets, s.Claimed s' target) :
    ((targets.map fun t => (t.id, t.leaseGeneration)).map Prod.fst).Nodup ∧
      ∀ lease ∈ targets.map (fun t => (t.id, t.leaseGeneration)),
        ∃ t t', s.target? lease.1 = some t ∧ s'.target? lease.1 = some t' ∧
          lease.2 = t.leaseGeneration + 1 ∧ t'.leaseGeneration = lease.2 := by
  refine ⟨by rw [List.map_map]; exact hnodup, fun lease hlease => ?_⟩
  obtain ⟨target, htarget, rfl⟩ := List.mem_map.mp hlease
  obtain ⟨t, t', ht, ht', htarget', hgen⟩ := hclaimed target htarget
  have hg : target.leaseGeneration = t'.leaseGeneration := by rw [htarget']; rfl
  exact ⟨t, t', ht, ht', hg.trans hgen, hg.symm⟩

theorem claimedLeases_of (hk : s.TargetsKeyed) (op : Op) :
    ((claimedLeases (Event.of (exec len) s op)).map Prod.fst).Nodup ∧
      ∀ lease ∈ claimedLeases (Event.of (exec len) s op),
        ∃ t t', s.target? lease.1 = some t ∧ (s.exec len op).1.target? lease.1 = some t' ∧
          lease.2 = t.leaseGeneration + 1 ∧ t'.leaseGeneration = lease.2 := by
  cases op with
  | claimDue locked request =>
    simp only [claimedLeases, Event.of, exec]
    cases h : s.claimDue locked request with
    | error e => simp [answer]
    | ok r =>
      obtain ⟨hnodup, hclaimed⟩ := claimDue_claimed hk h
      exact claimed_leases hnodup hclaimed
  | claimOne locked request =>
    simp only [claimedLeases, Event.of, exec]
    cases h : s.claimOne locked request with
    | error e => simp [answer]
    | ok r =>
      refine claimed_leases (by simp) fun target htarget => ?_
      rw [List.mem_singleton.mp htarget]
      exact claimOne_claimed hk h
  | _ => simp [claimedLeases, Event.of]

theorem exec_leaseOver {generation : Int} (op : Op) (h : s.LeaseOver id generation) :
    (s.exec len op).1.LeaseOver id generation :=
  h.evolve ((exec_step len s op).evolves.mono (fun _ _ hs => hs.2) fun _ hf => hf)

theorem exec_generation {t : TargetRow} (op : Op) (h : s.target? id = some t) :
    ∃ t', (s.exec len op).1.target? id = some t' ∧ t.leaseGeneration ≤ t'.leaseGeneration := by
  obtain ⟨t', ht', -, hs⟩ := (exec_step len s op).evolves.kept id t h
  exact ⟨t', ht', hs.generation_le⟩

section
variable {target : TargetRow} {run : RunRow} (h : CommitEffect input s s' target run)
include h

theorem CommitEffect.leaseOver : s'.LeaseOver input.targetID input.leaseGeneration := by
  obtain ⟨t', ht', hm⟩ := h.targets.kept _ _ h.locked
  refine ⟨t', ht', .inr ⟨?_, (hm.committed (lookup_mem h.locked).2).1⟩⟩
  rw [hm.generation, h.generation]

theorem CommitEffect.not_leaseOver : ¬ s.LeaseOver input.targetID input.leaseGeneration := by
  rintro ⟨t, ht, hg⟩
  rw [h.locked] at ht
  cases ht
  have hgen := h.generation
  rcases hg with hg | ⟨-, ho⟩
  · omega
  · rw [h.owner] at ho
    cases ho

end

theorem fencedTarget_leaseOver (h : s.LeaseOver input.targetID input.leaseGeneration) :
    ∃ detail, s.fencedTarget input = .error (.leaseLost detail) := by
  obtain ⟨t, ht, hg⟩ := h
  simp only [fencedTarget, ht]
  by_cases hgen : t.leaseGeneration = input.leaseGeneration
  · have ho : t.leaseOwner = none := by
      rcases hg with hg | ⟨-, ho⟩
      · omega
      · exact ho
    exact ⟨_, (if_neg (not_not.mpr hgen)).trans (if_pos (by simp [ho]))⟩
  · exact ⟨_, if_pos hgen⟩

/-- **A commit of a lease that is over changes nothing**, and answers `ErrLeaseLost` unless it replays or is refused
before the transaction. -/
theorem commit_leaseOver (clocks : CommitClocks) (h : s.LeaseOver input.targetID input.leaseGeneration) :
    (s.exec len (.commit clocks input)).1 = s ∧
      (validateCommit input = .ok () → s.run? input.targetID input.leaseGeneration = none →
        ∃ detail, (s.exec len (.commit clocks input)).2 = .failed (.leaseLost detail)) := by
  constructor
  · simp only [exec]
    cases hc : s.commit len clocks input with
    | error e => rfl
    | ok r =>
      rcases commit_ok hc with ⟨e, -⟩ | ⟨target, run, heffect⟩
      · exact e
      · exact absurd h heffect.not_leaseOver
  · intro hv hrun
    obtain ⟨detail, hd⟩ := fencedTarget_leaseOver h
    refine ⟨detail, ?_⟩
    have hcommit : s.commit len clocks input = .error (.leaseLost detail) := by
      simp only [commit, hv, existingCommitResult, hrun, commitRun, hd]
      rfl
    simp only [exec, hcommit]
    rfl

theorem settle_done {x : Except StoreError Store} (h : (s.settle x).2 = .done) : x = .ok (s.settle x).1 := by
  cases x with
  | error e => cases h
  | ok s' => rfl

theorem retires_leaseOver (hk : s.TargetsKeyed) (op : Op) {generation : Int}
    (h : Retires (Event.of (exec len) s op) id generation) :
    (s.exec len op).1.LeaseOver id generation := by
  cases h with
  | claim later hlater hmem =>
    obtain ⟨-, t', -, ht', -, hgen⟩ := (claimedLeases_of hk op).2 _ hmem
    exact ⟨t', ht', .inl (by simp only at hgen; omega)⟩
  | release now hop hout hreached =>
    simp only [Event.of] at hop hout hreached
    subst hop
    obtain ⟨t, ht, hg⟩ := hreached
    exact releaseLease_leaseOver (settle_done hout) ht hg
  | reschedule now nextRunAt hop hout =>
    simp only [Event.of] at hop hout
    subst hop
    exact rescheduleLease_leaseOver hk (settle_done hout)
  | repair ids now t t' hop hpre hgen hpost hcleared =>
    simp only [Event.of] at hop hpre hpost
    obtain ⟨t₁, ht₁, -, hs⟩ := (exec_step len s op).evolves.kept id t hpre
    rw [show lookup TargetRow.id (s.exec len op).1.targets id = some t' from hpost] at ht₁
    cases ht₁
    refine ⟨t', hpost, ?_⟩
    have hle := hs.generation_le
    by_cases heq : generation = t'.leaseGeneration
    · exact .inr ⟨heq, hcleared⟩
    · exact .inl (by omega)

/-! ## Whole runs -/

theorem exec_keyed (s : Store) (op : Op) (hk : s.TargetsKeyed) : (s.exec len op).1.TargetsKeyed :=
  (exec_step len s op).keyed hk

section
variable (hk : s.TargetsKeyed) (ops : List Op)
include hk

theorem trace_claimedLeases :
    ((trace (exec len) s ops).flatMap claimedLeases).Pairwise fun a b => a.1 = b.1 → a.2 < b.2 := by
  rw [List.pairwise_flatMap]
  constructor
  · intro e he
    obtain ⟨hinv, heq⟩ := trace_inv exec_keyed hk he
    rw [heq]
    refine (List.pairwise_map.mp (claimedLeases_of hinv e.op).1).imp fun hne h => absurd h hne
  · -- what an earlier claim leaves behind: its target stays at or above the generation it returned
    refine trace_pairwise (Q := fun e s => ∀ lease ∈ claimedLeases e, Reached s lease.1 lease.2)
      exec_keyed ?_ ?_ ?_ hk ops
    · intro s op hs lease hlease
      obtain ⟨-, t', -, ht', -, hgen⟩ := (claimedLeases_of hs op).2 lease hlease
      exact ⟨t', ht', hgen.ge⟩
    · intro e s op _ hq lease hlease
      obtain ⟨t, ht, hle⟩ := hq lease hlease
      obtain ⟨t', ht', hle'⟩ := exec_generation op ht
      exact ⟨t', ht', hle.trans hle'⟩
    · intro e s op hs hq a ha b hb hab
      obtain ⟨t, ht, hle⟩ := hq a ha
      obtain ⟨t₁, -, ht₁, -, hgen, -⟩ := (claimedLeases_of hs op).2 b hb
      rw [← hab, ht] at ht₁
      cases ht₁
      omega

end

end Store

structure LeaseFenced (events : List StoreEvent) : Prop where
  /-- The generation of a target never decreases. -/
  generation : ∀ e ∈ events, ∀ id t, e.pre.target? id = some t →
    ∃ t', e.post.target? id = some t' ∧ t.leaseGeneration ≤ t'.leaseGeneration
  /-- A claim returns a later generation than every earlier claim of its target. -/
  claims : (events.flatMap claimedLeases).Pairwise fun a b => a.1 = b.1 → a.2 < b.2
  /-- At most one commit of a generation changes any row. -/
  commits : events.Pairwise fun e e' => ∀ id generation,
    Commits e id generation → Commits e' id generation → e.post = e.pre ∨ e'.post = e'.pre
  /-- A commit after its lease was retired changes no row, and is answered with `ErrLeaseLost` unless it replays. -/
  retired : events.Pairwise fun e e' => ∀ id generation, Retires e id generation →
    ∀ clocks input, e'.op = .commit clocks input → input.targetID = id → input.leaseGeneration = generation →
      e'.post = e'.pre ∧ (validateCommit input = .ok () → e'.pre.run? id generation = none →
        ∃ detail, e'.out = .failed (.leaseLost detail))

/-- **Lease fencing.** From any store with a primary key on its targets, every interleaving of transactions, with any
clocks and any locked rows, is fenced. -/
theorem lease_fencing (notificationLength : SnapshotMetadata → Nat) (s : Store) (hk : s.TargetsKeyed) (ops : List Op) :
    LeaseFenced (trace (Store.exec notificationLength) s ops) where
  generation := fun e he id t ht => by
    obtain ⟨-, heq⟩ := trace_inv Store.exec_keyed hk he
    rw [heq] at ht ⊢
    exact Store.exec_generation e.op ht
  claims := Store.trace_claimedLeases hk ops
  commits := by
    refine trace_pairwise (Q := fun e s => ∀ id generation, Commits e id generation → e.post = e.pre ∨
      s.LeaseOver id generation) Store.exec_keyed ?_ ?_ ?_ hk ops
    · rintro s op - id generation ⟨clocks, input, hop, rfl, rfl⟩
      simp only [Event.of] at hop ⊢
      subst hop
      simp only [Store.exec]
      cases hc : s.commit notificationLength clocks input with
      | error e => exact .inl rfl
      | ok r =>
        rcases Store.commit_ok hc with ⟨e, -⟩ | ⟨target, run, heffect⟩
        · exact .inl e
        · exact .inr heffect.leaseOver
    · intro e s op _ hq id generation hcommit
      exact (hq id generation hcommit).imp_right (Store.exec_leaseOver op)
    · rintro e s op - hq id generation hcommit ⟨clocks, input, hop, rfl, rfl⟩
      simp only [Event.of] at hop ⊢
      subst hop
      exact (hq _ _ hcommit).imp_right fun h => (Store.commit_leaseOver clocks h).1
  retired := by
    refine trace_pairwise (Q := fun e s => ∀ id generation, Retires e id generation → s.LeaseOver id generation)
      Store.exec_keyed ?_ ?_ ?_ hk ops
    · exact fun s op hs id generation h => Store.retires_leaseOver hs op h
    · exact fun e s op _ hq id generation h => Store.exec_leaseOver op (hq id generation h)
    · rintro e s op - hq id generation hretired clocks input hop rfl rfl
      simp only [Event.of] at hop ⊢
      subst hop
      exact Store.commit_leaseOver clocks (hq _ _ hretired)

/-- Two workers on one target: the first commits, the second releases its lease and then tries to commit. -/
def fencedRun : List Op :=
  let ref : TargetRef := { host := "h", kind := .courseCatalog, resourceKey := "all" }
  let claim (worker : String) : Op :=
    .claimOne [] { ref := ref, now := 10 * second, workerID := worker, leaseDuration := minute }
  let clocks : CommitClocks := { databaseNow := 12 * second, qualityNow := 12 * second, staleNow := 12 * second }
  let commit (worker : String) (generation : Int) : Op := .commit clocks
    { targetID := 1, workerID := worker, leaseGeneration := generation, outcome := .unchanged
      startedAt := 11 * second, finishedAt := 12 * second, nextRunAt := 60 * second, currentInterval := minute
      consecutiveFailures := 0, recentChanges := [] }
  [.seedHost 0 { host := "h", baselineRequestsPerSecond := 1, burst := 1, baselineConcurrency := 1, now := second },
    .seed second [{ ref := ref, initialInterval := minute, minInterval := minute, maxInterval := minute
                    maxServeAge := hour, nextRunAt := second }],
    claim "a", commit "a" 1, claim "b", .releaseLease (11 * second) ⟨1, 2⟩, commit "b" 2]

theorem lease_fencing_fencedRun :
    ({} : Store).TargetsKeyed ∧ LeaseFenced (trace (Store.exec fun _ => 0) {} fencedRun) ∧
      (trace (Store.exec fun _ => 0) {} fencedRun).flatMap claimedLeases = [(1, 1), (1, 2)] :=
  ⟨Keyed.nil, lease_fencing _ {} Keyed.nil _, by decide +kernel⟩

end QrCommandCenter
