import Mathlib.Logic.Function.Basic
import QrCommandCenter.Scraper.Children

/-!
# Interleaved runs of one parent

A run commits its listing in one transaction and reconciles the children with it in another, after the commit has given
up the lease. Another worker can claim, commit and reconcile between the two, so the reconciles need not execute in the
order of the commits, and `ReconcileLifecycle` compares the parent version it is passed with nothing.

* `WorkerState`, `WorkerOp`, `Workers.exec` : any number of workers, each in its claim, its commit or its reconcile;
* `Interleaved` : the invariant of every interleaving, with one step lemma per operation (`claim_interleaved`,
  `commit_interleaved`, `reconcile_interleaved`);
* `listing_active_iff` : which interleavings leave the children of the last committed listing active.
-/

namespace QrCommandCenter.Scraper
open Domain Table Store Transition

variable {judgement : Judgement} {len : SnapshotMetadata → Nat} {t : TargetRow} {now : Time} {j : Nat}

/-! ## Workers -/

inductive WorkerState where
  | idle
  | claimed (target : ScrapeTarget)
  /-- The listing is committed, and its reconcile is still to come. -/
  | committed (input : LifecycleReconcileInput)
deriving DecidableEq, Repr

/-- The transactions of worker `k`. A run that commits chooses what it has fetched and how that was judged. -/
inductive WorkerOp where
  | claim (k : Nat) (claim : Claim)
  | commit (k : Nat) (clocks : CommitClocks) (env : RunEnv) (judgement : Judgement)
  | reconcile (k : Nat) (now : Time)

def WorkerOp.worker : WorkerOp → Nat
  | .claim k _ => k
  | .commit k _ _ _ => k
  | .reconcile k _ => k

def WorkerOp.Lists : WorkerOp → Prop
  | .commit _ _ _ judgement => judgement.outcome = .changed ∨ judgement.outcome = .unchanged
  | _ => True

/-- The store, where each worker is, and two listings: of the last effective commit, and of the last reconcile. -/
structure Workers where
  store : Store
  worker : Nat → WorkerState := fun _ => .idle
  listing : Option (List TargetRef) := none
  reconciled : List TargetRef := []

namespace Workers

def set (w : Workers) (k : Nat) (state : WorkerState) : Workers :=
  { w with worker := Function.update w.worker k state }

def exec (notificationLength : SnapshotMetadata → Nat) (parent : TargetRef) (w : Workers) : WorkerOp → Workers × Unit
  | .claim k claim =>
    match w.worker k with
    | .idle =>
      let w' : Workers := { w with store := (claimParent w.store parent claim).1 }
      match (claimParent w.store parent claim).2 with
      | none => (w', ())
      | some target => (w'.set k (.claimed target), ())
    | _ => (w, ())
  | .commit k clocks env judgement =>
    match w.worker k with
    | .claimed target =>
      let input := commitInput env target judgement
      match w.store.commit notificationLength clocks input with
      | .error _ => (w.set k .idle, ())
      | .ok (s', result) =>
        if successfulOutcome judgement.outcome then
          (({ w with store := s', listing := some input.seenChildRefs } : Workers).set k
            (.committed (reconcileInput target input result)), ())
        else (({ w with store := s' } : Workers).set k .idle, ())
    | _ => (w, ())
  | .reconcile k now =>
    match w.worker k with
    | .committed input =>
      (({ w with
          store := (w.store.settle (w.store.reconcileLifecycle now input)).1
          reconciled := input.seenChildRefs } : Workers).set k .idle, ())
    | _ => (w, ())

/-- No reconcile is still to come. -/
def Settled (w : Workers) : Prop := ∀ k input, w.worker k ≠ .committed input

end Workers

def ListingActive (s : Store) (listing : List TargetRef) : Prop :=
  ∀ ref ∈ listing, ∃ t, s.targetByRef? ref = some t ∧ t.lifecycleState = .active ∧ t.consecutiveMissingCount = 0

/-! ## The invariant -/

/-- `ref` is in the scope of the parent's children. -/
def ChildOf (parent : TargetRef) (scope : SnapshotKind × String) (ref : TargetRef) : Prop :=
  ref.host = parent.host ∧ ref.kind = scope.1 ∧ ref.parentKey = scope.2

/-- The lifecycle of a child is the one a reconcile with this listing gives it. -/
def Follows (seen : List TargetRef) (t : TargetRow) : Prop :=
  if t.ref ∈ seen then t.lifecycleState = .active ∧ t.consecutiveMissingCount = 0 else t.lifecycleState ≠ .active

section
variable (s : Store) (parent : TargetRef)

structure Leased (target : ScrapeTarget) : Prop where
  ref : target.ref = parent
  row : ∃ t, s.target? target.id = some t ∧ target.leaseGeneration ≤ t.leaseGeneration
  unrecorded : s.run? target.id target.leaseGeneration = none

structure Awaiting (input : LifecycleReconcileInput) : Prop where
  ref : input.parentRef = parent
  valid : validateSeeds input.discoveredSeeds = .ok ()
  seeded : ∀ seed ∈ dedupSeeds input.discoveredSeeds, s.Seeded seed

/-- Where the workers are: each claimed one holds a lease of its own, each committed one can reconcile. -/
structure Manned (worker : Nat → WorkerState) : Prop where
  leased : ∀ k target, worker k = .claimed target → Leased s parent target
  distinct : ∀ j k target other, worker j = .claimed target → worker k = .claimed other → target.id = other.id →
    target.leaseGeneration = other.leaseGeneration → j = k
  awaiting : ∀ k input, worker k = .committed input → Awaiting s parent input

end

/-- What holds in every interleaving. A child of the last committed listing is a target; with no reconcile to come, its
lifecycle is that of the last one. -/
structure Interleaved (parent : TargetRef) (scope : SnapshotKind × String) (w : Workers) : Prop where
  wellFormed : w.store.WellFormed
  manned : Manned w.store parent w.worker
  children : ∀ listing, w.listing = some listing → ∀ ref ∈ listing, ChildOf parent scope ref ∧
    ∃ t, w.store.targetByRef? ref = some t ∧ (w.Settled → Follows w.reconciled t)

variable {parent : TargetRef} {scope : SnapshotKind × String} {w : Workers} {s s' : Store} {op : Op}
  {worker : Nat → WorkerState} {k : Nat} {target : ScrapeTarget} {input : LifecycleReconcileInput}

theorem interleaved_start (hw : s.WellFormed) : Interleaved parent scope { store := s } where
  wellFormed := hw
  manned := ⟨fun _ _ h => (nomatch h), fun _ _ _ _ h => (nomatch h), fun _ _ h => (nomatch h)⟩
  children := fun _ h => nomatch h

theorem Leased.step (h : Leased s parent target) (hstep : StoreStep op s s')
    (hrun : s'.run? target.id target.leaseGeneration = none) : Leased s' parent target := by
  obtain ⟨t, ht, hle⟩ := h.row
  obtain ⟨t', ht', -, hlease⟩ := hstep.evolves.kept target.id t ht
  exact ⟨h.ref, ⟨t', ht', hle.trans hlease.generation_le⟩, hrun⟩

theorem Awaiting.step (h : Awaiting s parent input) (hstep : StoreStep op s s') (hk : s.TargetsKeyed) :
    Awaiting s' parent input :=
  ⟨h.ref, h.valid, fun seed hseed => hstep.seeded hk (h.seeded seed hseed)⟩

section
variable (h : Manned s parent worker)
include h

theorem Manned.step (hstep : StoreStep op s s') (hk : s.TargetsKeyed)
    (hruns : ∀ j target, worker j = .claimed target → s'.run? target.id target.leaseGeneration = none) :
    Manned s' parent worker where
  leased := fun j target hj => (h.leased j target hj).step hstep (hruns j target hj)
  distinct := h.distinct
  awaiting := fun j input hj => (h.awaiting j input hj).step hstep hk

theorem Manned.congr (hstep : StoreStep op s s') (hk : s.TargetsKeyed)
    (hruns : s'.runs = s.runs) : Manned s' parent worker := by
  apply h.step hstep hk
  intro j target hj
  unfold run?
  rw [hruns]
  exact (h.leased j target hj).unrecorded

theorem Manned.set (k : Nat) (state : WorkerState)
    (hclaimed : ∀ target, state = .claimed target → Leased s parent target ∧
      ∀ j other, worker j = .claimed other → other.id = target.id → other.leaseGeneration < target.leaseGeneration)
    (hcommitted : ∀ input, state = .committed input → Awaiting s parent input) :
    Manned s parent (Function.update worker k state) where
  leased := by
    intro j target hj
    rw [Function.update_apply] at hj
    split at hj
    · exact (hclaimed target hj).1
    · exact h.leased j target hj
  distinct := by
    intro i j x y hi hj hid hgeneration
    rw [Function.update_apply] at hi hj
    split at hi <;> split at hj
    · omega
    · have := (hclaimed x hi).2 j y hj hid.symm
      omega
    · have := (hclaimed y hj).2 i x hi hid
      omega
    · exact h.distinct i j x y hi hj hid hgeneration
  awaiting := by
    intro j input hj
    rw [Function.update_apply] at hj
    split at hj
    · exact hcommitted input hj
    · exact h.awaiting j input hj

theorem Manned.idle (k : Nat) : Manned s parent (Function.update worker k .idle) :=
  h.set k .idle (fun _ hstate => nomatch hstate) (fun _ hstate => nomatch hstate)

end

variable {state : WorkerState}

theorem Workers.Settled.of_set (h : (w.set k state).Settled)
    (hk : ∀ input, w.worker k ≠ .committed input) : w.Settled := by
  intro j input hj
  apply h j input
  show Function.update w.worker k state j = _
  rw [Function.update_apply, if_neg]
  · exact hj
  · rintro rfl
    exact hk input hj

theorem Follows.lifecycle {seen : List TargetRef} {t' : TargetRow} (h : Follows seen t) (href : t'.ref = t.ref)
    (hlifecycle : t'.lifecycle = t.lifecycle) : Follows seen t' := by
  simp only [TargetRow.lifecycle, Prod.mk.injEq] at hlifecycle
  unfold Follows at h ⊢
  rw [href, hlifecycle.1, hlifecycle.2.1]
  exact h

/-! ## Claims -/

theorem Interleaved.leaseMoved (h : Interleaved parent scope w) (heffect : TargetsEffect TargetRow.LeaseMoved w.store s') :
    Interleaved parent scope { w with store := s' } := by
  have hstep : StoreStep (.prunePermits 0) w.store s' :=
    .quiet rfl (.of_targets (fun _ _ hm => hm.steady) heffect)
  have hw' := hstep.wellFormed h.wellFormed
  have hruns : s'.runs = w.store.runs := by rw [heffect.frame]
  refine ⟨hw', h.manned.congr hstep h.wellFormed.targets hruns, ?_⟩
  intro listing hlisting ref href
  obtain ⟨hchild, t, ht, hfollows⟩ := h.children listing hlisting ref href
  obtain ⟨t', ht', hmoved⟩ := targetByRef?_evolves heffect.evolves (fun _ _ hm => hm.ref) h.wellFormed.targets hw'.sound ht
  exact ⟨hchild, t', ht', fun hsettled => (hfollows hsettled).lifecycle hmoved.ref hmoved.lifecycle⟩

theorem Interleaved.set (h : Interleaved parent scope w)
    (hk : ∀ input, w.worker k ≠ .committed input) (hmanned : Manned w.store parent (Function.update w.worker k state)) :
    Interleaved parent scope (w.set k state) := by
  refine ⟨h.wellFormed, hmanned, ?_⟩
  intro listing hlisting ref href
  obtain ⟨hchild, t, ht, hfollows⟩ := h.children listing hlisting ref href
  exact ⟨hchild, t, ht, fun hsettled => hfollows (hsettled.of_set hk)⟩

theorem claim_interleaved (len : SnapshotMetadata → Nat) (h : Interleaved parent scope w) (k : Nat)
    (claim : Claim) : Interleaved parent scope (w.exec len parent (.claim k claim)).1 := by
  cases hk : w.worker k with
  | claimed | committed =>
    simp only [Workers.exec, hk]
    exact h
  | idle =>
    obtain ⟨heffect, hclaims⟩ := claimParent_claims h.wellFormed.targets parent claim
    have hmoved := h.leaseMoved heffect
    cases hout : (claimParent w.store parent claim).2 with
    | none =>
      simp only [Workers.exec, hk, hout]
      exact hmoved
    | some target =>
      simp only [Workers.exec, hk, hout]
      obtain ⟨hclaimed, href⟩ := hclaims target hout
      obtain ⟨t', ht', htarget, hrun⟩ := claimed_unrecorded h.wellFormed heffect hclaimed
      apply hmoved.set
      · intro input hinput
        rw [show w.worker k = _ from hinput] at hk
        cases hk
      · refine hmoved.manned.set k _ ?_ (fun _ hstate => nomatch hstate)
        intro taken htaken
        cases htaken
        refine ⟨⟨href, ⟨t', ht', ?_⟩, ?_⟩, ?_⟩
        · rw [htarget]
          exact le_refl _
        · rw [htarget]
          exact hrun
        · -- the row's generation was below the claimed one, and no lease was above the row's
          intro j other hj hid
          obtain ⟨t, t₁, ht, ht₁, htarget₁, hgeneration⟩ := hclaimed
          obtain ⟨t₀, ht₀, hle⟩ := (h.manned.leased j other hj).row
          rw [hid, ht] at ht₀
          cases ht₀
          rw [htarget₁]
          show other.leaseGeneration < t₁.leaseGeneration
          omega

/-! ## Commits -/

theorem discovered_child {env : RunEnv} (hscope : childScope target.ref = some scope) :
    ∀ seed ∈ discovered env target judgement, ChildOf target.ref scope seed.ref := by
  intro seed hseed
  have hmem := List.mem_map_of_mem (f := TargetSeed.ref) hseed
  by_cases houtcome : judgement.outcome = .changed ∨ judgement.outcome = .unchanged
  · cases htyped : env.fetched.result.value.document? target.ref.kind with
    | none =>
      unfold discovered discoverTargets at hseed
      rw [if_pos houtcome, htyped] at hseed
      cases hseed
    | some document =>
      rw [(discovered_ref hscope htyped houtcome).mem_iff] at hmem
      obtain ⟨id, -, hid⟩ := List.mem_map.mp hmem
      rw [← hid]
      exact ⟨rfl, rfl, rfl⟩
  · unfold discovered at hseed
    rw [if_neg houtcome] at hseed
    cases hseed

theorem CommitEffect.run?_other {input : CommitInput} {row : TargetRow} {run : RunRow}
    (h : CommitEffect input s s' row run) {id generation : Int} (hrun : s.run? id generation = none)
    (hother : ¬ (id = input.targetID ∧ generation = input.leaseGeneration)) : s'.run? id generation = none := by
  obtain ⟨-, htarget, hgeneration, -⟩ := h.recorded
  unfold run? at hrun ⊢
  rw [h.runs.1, List.find?_append, hrun, Option.none_or, List.find?_singleton, if_neg]
  simp only [Bool.and_eq_true, decide_eq_true_eq, htarget, hgeneration]
  rintro ⟨hid, hgen⟩
  exact hother ⟨hid.symm, hgen.symm⟩

theorem commit_interleaved (len : SnapshotMetadata → Nat) (hscope : childScope parent = some scope)
    (h : Interleaved parent scope w) (k : Nat) (clocks : CommitClocks) (env : RunEnv)
    (hlists : judgement.outcome = .changed ∨ judgement.outcome = .unchanged) :
    Interleaved parent scope (w.exec len parent (.commit k clocks env judgement)).1 := by
  cases hk : w.worker k with
  | idle | committed =>
    simp only [Workers.exec, hk]
    exact h
  | claimed target =>
    have hleased := h.manned.leased k target hk
    cases hcommit : w.store.commit len clocks (commitInput env target judgement) with
    | error err =>
      simp only [Workers.exec, hk, hcommit]
      apply h.set
      · intro input hinput
        rw [hk] at hinput
        cases hinput
      · exact h.manned.idle k
    | ok out =>
      obtain ⟨s', result⟩ := out
      have hsuccessful : successfulOutcome judgement.outcome = true := by
        rcases hlists with houtcome | houtcome <;> rw [houtcome] <;> rfl
      simp only [Workers.exec, hk, hcommit, if_pos hsuccessful]
      obtain ⟨row, run, heffect⟩ := commit_effect hcommit hleased.unrecorded
      have hstep : StoreStep (.commit clocks (commitInput env target judgement)) w.store s' := .commit heffect
      have hw' := hstep.wellFormed h.wellFormed
      obtain ⟨hvalid, hseeded⟩ := heffect.seeded h.wellFormed.targets
      refine ⟨hw', ?_, ?_⟩
      · -- the other workers hold other leases, so their runs are still to be recorded
        have hothers : Manned s' parent (Function.update w.worker k .idle) := by
          apply (h.manned.idle k).step hstep h.wellFormed.targets
          intro j other hj
          rw [Function.update_apply] at hj
          split at hj
          · cases hj
          · rename_i hne
            apply CommitEffect.run?_other heffect (h.manned.leased j other hj).unrecorded
            rintro ⟨hid, hgeneration⟩
            exact hne (h.manned.distinct j k other target hj hk hid hgeneration)
        have hawaiting : Awaiting s' parent (reconcileInput target (commitInput env target judgement) result) :=
          ⟨hleased.ref, hvalid, hseeded⟩
        have hset := hothers.set k (.committed (reconcileInput target (commitInput env target judgement) result))
          (fun _ hstate => nomatch hstate) fun _ hstate => WorkerState.committed.inj hstate ▸ hawaiting
        rw [Function.update_idem] at hset
        exact hset
      · intro listing hlisting ref href
        cases hlisting
        obtain ⟨seed, hseed, rfl⟩ := List.mem_map.mp href
        rw [← hleased.ref] at hscope
        have hchild := discovered_child hscope seed hseed
        rw [hleased.ref] at hchild
        obtain ⟨kept, hkept, href⟩ := dedupSeeds_ref hseed
        obtain ⟨t, ht, htref⟩ := (hseeded kept hkept).present
        refine ⟨hchild, t, ?_, ?_⟩
        · rw [← href, ← htref]
          exact lookup_of_nodup hw'.sound.refs ht
        · intro hsettled
          refine absurd ?_ (hsettled k (reconcileInput target (commitInput env target judgement) result))
          exact Function.update_self _ _ _

/-! ## Reconciles -/

theorem reconcileLifecycle_follows (hscope : childScope input.parentRef = some scope)
    (h : s.reconcileLifecycle now input = .ok s') (ht : t ∈ s'.targets)
    (hchild : ChildOf input.parentRef scope t.ref) : Follows input.seenChildRefs t := by
  have hin : inScope input.parentRef.host scope.1 scope.2 t = true := by
    unfold inScope
    simp only [hchild.1, hchild.2.1, hchild.2.2, decide_true, Bool.and_self]
  have hafter := reconcileLifecycle_child hscope h ht hin
  unfold Follows
  split
  · rename_i hseen
    rw [if_pos ((seenKeys_contains hchild _).mpr hseen)] at hafter
    exact ⟨hafter.1, hafter.2.1⟩
  · rename_i hseen
    rw [if_neg (fun hcontains => hseen ((seenKeys_contains hchild _).mp hcontains))] at hafter
    exact hafter

section
variable (len : SnapshotMetadata → Nat) (hscope : childScope parent = some scope)
  (h : Interleaved parent scope w)
include hscope h

theorem reconcile_interleaved (k : Nat) (now : Time) :
    Interleaved parent scope (w.exec len parent (.reconcile k now)).1 := by
  cases hk : w.worker k with
  | idle | claimed =>
    simp only [Workers.exec, hk]
    exact h
  | committed input =>
    have hawaiting := h.manned.awaiting k input hk
    obtain ⟨s', hreconcile⟩ :=
      reconcileLifecycle_succeeds h.wellFormed.targets h.wellFormed.sound hawaiting.valid hawaiting.seeded now
    simp only [Workers.exec, hk, hreconcile]
    have heffect := reconcileLifecycle_ok hreconcile
    have hstep : StoreStep (.reconcileLifecycle now input) w.store s' :=
      .quiet rfl (.of_targets (fun _ _ hm => hm.steady) heffect)
    have hw' := hstep.wellFormed h.wellFormed
    have hruns : s'.runs = w.store.runs := by rw [heffect.frame]
    refine ⟨hw', (h.manned.congr hstep h.wellFormed.targets hruns).idle k, ?_⟩
    intro listing hlisting ref href
    obtain ⟨hchild, t, ht, -⟩ := h.children listing hlisting ref href
    obtain ⟨t', ht', -⟩ := targetByRef?_evolves heffect.evolves (fun _ _ hm => hm.ref) h.wellFormed.targets hw'.sound ht
    refine ⟨hchild, t', ht', fun _ => ?_⟩
    rw [← hawaiting.ref] at hscope hchild
    obtain ⟨hmem, href'⟩ := lookup_mem ht'
    rw [← href'] at hchild
    exact reconcileLifecycle_follows hscope hreconcile hmem hchild

/-! ## Interleavings -/

theorem exec_interleaved {op : WorkerOp} (hop : op.Lists) :
    Interleaved parent scope (w.exec len parent op).1 := by
  cases op with
  | claim k claim => exact claim_interleaved len h k claim
  | commit k clocks env judgement => exact commit_interleaved len hscope h k clocks env hop
  | reconcile k now => exact reconcile_interleaved len hscope h k now

end

/-- **Which interleavings leave the children of the last committed listing active** at the end: exactly those whose last
reconcile has every one of them in its listing. -/
theorem listing_active_iff (notificationLength : SnapshotMetadata → Nat) (parent : TargetRef)
    (scope : SnapshotKind × String) (s : Store) (ops : List WorkerOp) (listing : List TargetRef)
    (hscope : childScope parent = some scope) (hw : s.WellFormed) (hops : ∀ op ∈ ops, op.Lists)
    (hsettled : (final (Workers.exec notificationLength parent) { store := s } ops).Settled)
    (hlisting : (final (Workers.exec notificationLength parent) { store := s } ops).listing = some listing) :
    ListingActive (final (Workers.exec notificationLength parent) { store := s } ops).store listing ↔
      ∀ ref ∈ listing, ref ∈ (final (Workers.exec notificationLength parent) { store := s } ops).reconciled := by
  have hinterleaved : Interleaved parent scope (final (Workers.exec notificationLength parent) { store := s } ops) :=
    final_inv_of_mem (interleaved_start hw) fun w op hop h => exec_interleaved notificationLength hscope h (hops op hop)
  generalize final (Workers.exec notificationLength parent) { store := s } ops = w at *
  constructor
  · intro hactive ref href
    obtain ⟨-, t, ht, hfollows⟩ := hinterleaved.children listing hlisting ref href
    obtain ⟨t', ht', hstate, -⟩ := hactive ref href
    rw [ht] at ht'
    cases ht'
    by_contra hunseen
    have hfollows := hfollows hsettled
    unfold Follows at hfollows
    rw [(lookup_mem ht).2, if_neg hunseen] at hfollows
    exact hfollows hstate
  · intro hseen ref href
    obtain ⟨-, t, ht, hfollows⟩ := hinterleaved.children listing hlisting ref href
    have hfollows := hfollows hsettled
    unfold Follows at hfollows
    rw [(lookup_mem ht).2, if_pos (hseen ref href)] at hfollows
    exact ⟨t, ht, hfollows⟩

/-! ## Two workers -/

variable {ops : List WorkerOp}

theorem final_worker_of_absent (hops : ∀ op ∈ ops, op.worker ≠ j) :
    (final (Workers.exec len parent) w ops).worker j = w.worker j := by
  have hstep : ∀ w' : Workers, ∀ op ∈ ops, w'.worker j = w.worker j →
      (w'.exec len parent op).1.worker j = w.worker j := by
    intro w' op hop hj
    have hne : j ≠ op.worker := fun heq => hops op hop heq.symm
    cases op with
    | claim k claim =>
      simp only [Workers.exec]
      split
      · split
        · exact hj
        · exact (Function.update_of_ne hne _ _).trans hj
      · exact hj
    | commit k clocks env judgement =>
      simp only [Workers.exec]
      split
      · split
        · exact (Function.update_of_ne hne _ _).trans hj
        · split
          · exact (Function.update_of_ne hne _ _).trans hj
          · exact (Function.update_of_ne hne _ _).trans hj
      · exact hj
    | reconcile k now =>
      simp only [Workers.exec]
      split
      · exact (Function.update_of_ne hne _ _).trans hj
      · exact hj
  exact @final_inv_of_mem _ _ _ _ (fun w' => w'.worker j = w.worker j) w rfl ops hstep

def listingFetch (courses : List String) : RunEnv := sampleFetch (.courses (sampleCatalog courses)) (2 * hour)

/-- The judgements of the published listing, and of another one. -/
def sameJudgement : Judgement := { outcome := .unchanged }
def newJudgement (courses : List String) : Judgement where
  outcome := .changed
  changed := true
  payload := .document (.catalog (sampleCatalog courses))
  contentHash := sampleCodec.sum256 (.catalog (sampleCatalog courses))
  recordsCount := courses.length
  manifest := { complete := true }

def workerClaim (k : Nat) (workerID : String) : WorkerOp :=
  .claim k (.one [] { ref := catalogRef, now := 2 * hour, workerID := workerID, leaseDuration := minute })

def workerCommit (k : Nat) (courses : List String) (judgement : Judgement) : WorkerOp :=
  .commit k ⟨2 * hour, 2 * hour, 2 * hour⟩ (listingFetch courses) judgement

def twoCommits : List WorkerOp :=
  [workerClaim 0 "a", workerCommit 0 ["1"] sameJudgement,
    workerClaim 1 "b", workerCommit 1 ["1", "2"] (newJudgement ["1", "2"])]

def inOrder : List WorkerOp := twoCommits ++ [.reconcile 0 (2 * hour), .reconcile 1 (2 * hour)]
def outOfOrder : List WorkerOp := twoCommits ++ [.reconcile 1 (2 * hour), .reconcile 0 (2 * hour)]

def bothCourses : List TargetRef := ["1", "2"].map (childRef catalogRef catalogScope)

theorem twoCommits_lists : ∀ op ∈ twoCommits, op.Lists := by
  intro op hop
  simp only [twoCommits, List.mem_cons, List.not_mem_nil, or_false] at hop
  rcases hop with rfl | rfl | rfl | rfl
  · trivial
  · exact Or.inr rfl
  · trivial
  · exact Or.inl rfl

theorem reconciles_list {i : Nat} : ∀ op ∈ twoCommits ++ [.reconcile i now, .reconcile j now], op.Lists := by
  intro op hop
  rcases List.mem_append.mp hop with hop | hop
  · exact twoCommits_lists op hop
  · simp only [List.mem_cons, List.not_mem_nil, or_false] at hop
    rcases hop with rfl | rfl <;> trivial

theorem settled_of_two (hops : ∀ op ∈ ops, op.worker < 2)
    (hend : final (Workers.exec len parent) { store := s } ops = w)
    (htwo : w.worker 0 = .idle ∧ w.worker 1 = .idle) : w.Settled := by
  intro k input hk
  have hidle : w.worker k = .idle := by
    match k with
    | 0 => exact htwo.1
    | 1 => exact htwo.2
    | k + 2 =>
      rw [← hend]
      refine (final_worker_of_absent fun op hop hworker => ?_).trans rfl
      have := hops op hop
      omega
  rw [hidle] at hk
  cases hk

def inOrderEnd : Workers := final (Workers.exec (fun _ => 0) catalogRef) { store := familyStore } inOrder
def outOfOrderEnd : Workers := final (Workers.exec (fun _ => 0) catalogRef) { store := familyStore } outOfOrder

theorem inOrderEnd_eq : (inOrderEnd.worker 0 = .idle ∧ inOrderEnd.worker 1 = .idle) ∧
    inOrderEnd.listing = some bothCourses ∧ inOrderEnd.reconciled = bothCourses := by decide +kernel

theorem outOfOrderEnd_eq : (outOfOrderEnd.worker 0 = .idle ∧ outOfOrderEnd.worker 1 = .idle) ∧
    outOfOrderEnd.listing = some bothCourses ∧
    (outOfOrderEnd.store.targetByRef? (childRef catalogRef catalogScope "2")).map TargetRow.lifecycleState =
      some .missing := by decide +kernel

theorem inOrderEnd_settled : inOrderEnd.Settled := settled_of_two (by decide) rfl inOrderEnd_eq.1

theorem outOfOrderEnd_settled : outOfOrderEnd.Settled := settled_of_two (by decide) rfl outOfOrderEnd_eq.1

theorem listing_active_iff_inOrder : inOrderEnd.Settled ∧ ListingActive inOrderEnd.store bothCourses := by
  refine ⟨inOrderEnd_settled, (listing_active_iff _ _ catalogScope _ inOrder bothCourses rfl
    familyStore_tracked.wellFormed reconciles_list inOrderEnd_settled inOrderEnd_eq.2.1).mpr ?_⟩
  intro ref href
  show ref ∈ inOrderEnd.reconciled
  rw [inOrderEnd_eq.2.2]
  exact href

/-- **A reconcile of an older version marks a course of the newer one as missing.** -/
theorem stale_reconcile_marks_missing :
    familyStore.WellFormed ∧ (∀ op ∈ outOfOrder, op.Lists) ∧ outOfOrderEnd.Settled ∧
    outOfOrderEnd.listing = some bothCourses ∧ ¬ ListingActive outOfOrderEnd.store bothCourses := by
  obtain ⟨-, hlisting, hmissing⟩ := outOfOrderEnd_eq
  refine ⟨familyStore_tracked.wellFormed, reconciles_list, outOfOrderEnd_settled, hlisting, fun hactive => ?_⟩
  obtain ⟨t, ht, hstate, -⟩ := hactive (childRef catalogRef catalogScope "2") (by decide)
  rw [ht, Option.map_some, hstate] at hmissing
  cases hmissing

end QrCommandCenter.Scraper
