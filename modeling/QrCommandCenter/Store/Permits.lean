import QrCommandCenter.Store.Rate

/-!
# The permits of a host

A permit is granted under the lock of the host's row; the look for a permit that can be used again runs before it. The
concurrency follows the observations while permits are outstanding, and expired permits are those at or before the
clock of the host's bucket.

* `acquireLocked` : `AcquireHostPermit` after the look for an existing permit, `PermitOp` : the store with that half as a
  step of its own;
* `acquireLocked_cases` : a paused host, a blocked request, or a grant;
* `GrantSound` : what a grant leaves behind, `HostBound` : the permits of a host under its limits;
* `host_permits_bounded` : both through any interleaving.
-/

namespace QrCommandCenter
open Domain Table Transition

namespace Store

variable {state : HostRow} {now : Time} {row : PermitRow}

/-! ## The two halves of `AcquireHostPermit` -/

section
variable (s : Store) (request : AcquireHostPermitRequest)

def newPermit (now : Time) : PermitRow where
  id := s.nextPermitId
  host := request.host
  targetId := request.targetID
  workerId := request.workerID
  leaseGeneration := request.leaseGeneration
  acquiredAt := now
  expiresAt := now + request.ttl

def grantPermit (available : ℚ) (now : Time) : Store :=
  { s.persistTokens request.host available now with
    permits := s.permits ++ [s.newPermit request now]
    nextPermitId := s.nextPermitId + 1 }

/-- `AcquireHostPermit` from the lock of the host's row on. -/
def acquireLocked : Except StoreError (Store × PermitDecision) :=
  match s.host? request.host with
  | none => .error (.hostStateNotFound request.host)
  | some state =>
    let now := max request.now state.tokensUpdatedAt
    let s := s.expirePermits request.host now
    match s.target? request.targetID with
    | none => .error (.leaseLost "")
    | some target =>
      if target.ref.host ≠ request.host ∨ target.leaseGeneration ≠ request.leaseGeneration then
        .error (.leaseLost "")
      else match state.pausedUntil with
      | none => s.decidePermit request state now
      | some until_ =>
        if now < until_ then .ok (s, { retryAt := until_, paused := true })
        else s.decidePermit request state now

end

variable {s s' : Store} {request : AcquireHostPermitRequest} {decision : PermitDecision}

/-- An acquire is rejected, uses an existing permit again, or goes on under the lock. -/
theorem acquireHostPermit_locked (h : s.acquireHostPermit request = .ok (s', decision)) :
    s' = s ∧ (∃ p ∈ s.permits, p.targetId = request.targetID ∧ p.leaseGeneration = request.leaseGeneration) ∨
      s.acquireLocked request = .ok (s', decision) := by
  unfold acquireHostPermit at h
  split at h
  · cases h
  split at h
  · cases h
  split at h
  · rename_i existing hfound
    cases h
    have hsame := List.find?_some hfound
    simp only [Bool.and_eq_true, decide_eq_true_eq] at hsame
    exact .inl ⟨rfl, existing, List.mem_of_find?_eq_some hfound, hsame.1⟩
  · exact .inr h

theorem decidePermit_cases (h : s.decidePermit request state now = .ok (s', decision)) :
    s' = s.persistTokens request.host (refillTokens state now) now ∧ decision.permit = none ∨
      ((s.activePermits request.host now).length : Int) < state.currentConcurrency ∧
      (∀ p ∈ s.permits, ¬ (p.targetId = request.targetID ∧ p.leaseGeneration = request.leaseGeneration)) ∧
      s' = s.grantPermit request (refillTokens state now - 1) now ∧
      decision.permit = some (permitOf (s.newPermit request now)) := by
  simp only [decidePermit] at h
  split at h
  · cases h
    exact .inl ⟨rfl, rfl⟩
  · rename_i hactive
    split at h
    · cases h
      exact .inl ⟨rfl, rfl⟩
    · obtain ⟨⟨s₁, row⟩, h₁, h⟩ := bind_eq_ok.mp h
      cases h
      simp only [insertPermit] at h₁
      split at h₁
      · cases h₁
      · rename_i hunique
        cases h₁
        refine .inr ⟨not_le.mp hactive, fun p hp hsame => hunique ?_, rfl, rfl⟩
        rw [List.any_eq_true]
        exact ⟨p, hp, by simp only [hsame.1, hsame.2, decide_true, Bool.and_self]⟩

structure Locked (s : Store) (request : AcquireHostPermitRequest) (state : HostRow) (target : TargetRow) : Prop where
  hostRow : s.host? request.host = some state
  targetRow : s.target? request.targetID = some target
  fence : target.leaseGeneration = request.leaseGeneration

/-- **All that an acquire does under the lock**: it expires permits, and finds the host paused, is blocked, or grants. -/
theorem acquireLocked_cases (h : s.acquireLocked request = .ok (s', decision)) :
    ∃ state target now, Locked s request state target ∧ now = max request.now state.tokensUpdatedAt ∧
      (s' = s.expirePermits request.host now ∧ decision.permit = none ∨
        s' = (s.expirePermits request.host now).persistTokens request.host (refillTokens state now) now ∧
          decision.permit = none ∨
        (∀ until_, state.pausedUntil = some until_ → until_ ≤ now) ∧
        (((s.expirePermits request.host now).activePermits request.host now).length : Int) < state.currentConcurrency ∧
        (∀ p ∈ (s.expirePermits request.host now).permits,
          ¬ (p.targetId = request.targetID ∧ p.leaseGeneration = request.leaseGeneration)) ∧
        s' = (s.expirePermits request.host now).grantPermit request (refillTokens state now - 1) now ∧
        decision.permit = some (permitOf (s.newPermit request now))) := by
  unfold acquireLocked at h
  split at h
  · cases h
  rename_i state hstate
  simp only at h
  split at h
  · cases h
  rename_i target htarget
  split at h
  · cases h
  rename_i hfence
  rw [not_or, not_not, not_not] at hfence
  refine ⟨state, target, _, ⟨hstate, htarget, hfence.2⟩, rfl, ?_⟩
  split at h
  · rename_i hpaused
    rcases decidePermit_cases h with hblocked | hgranted
    · exact .inr (.inl hblocked)
    · refine .inr (.inr ⟨fun until_ huntil => ?_, hgranted⟩)
      rw [hpaused] at huntil
      cases huntil
  · rename_i paused hpaused
    split at h
    · cases h
      exact .inl ⟨rfl, rfl⟩
    · rename_i hpast
      rcases decidePermit_cases h with hblocked | hgranted
      · exact .inr (.inl hblocked)
      · refine .inr (.inr ⟨fun until_ huntil => ?_, hgranted⟩)
        rw [hpaused] at huntil
        cases huntil
        exact not_lt.mp hpast

/-! ## Grants -/

/-- What a grant leaves behind: a permit of the target's lease, a host that is not paused, and no more unexpired permits
than the concurrency. -/
structure GrantSound (s : Store) (p : PermitRow) : Prop where
  fence : ∃ t, s.target? p.targetId = some t ∧ t.leaseGeneration = p.leaseGeneration
  host : ∃ h, s.host? p.host = some h ∧ (∀ until_, h.pausedUntil = some until_ → until_ ≤ h.tokensUpdatedAt) ∧
    ((s.activePermits p.host h.tokensUpdatedAt).length : Int) ≤ h.currentConcurrency

def PermitsUnique (s : Store) : Prop := (s.permits.map fun p => (p.targetId, p.leaseGeneration)).Nodup

structure HostBound (host : String) (limit : Int) (s : Store) : Prop where
  absent : s.host? host = none → ∀ p ∈ s.permits, p.host ≠ host
  concurrency : ∀ h, s.host? host = some h →
    1 ≤ h.currentConcurrency ∧ h.currentConcurrency ≤ h.baselineConcurrency ∧ h.baselineConcurrency ≤ limit
  active : ∀ h, s.host? host = some h → ((s.activePermits host h.tokensUpdatedAt).length : Int) ≤ limit

variable {host : String} {limit : Int}

theorem activePermits_le {now' : Time} (hd : Deleted s.permits s'.permits) (hnow : now ≤ now') :
    (s'.activePermits host now').length ≤ (s.activePermits host now).length := by
  obtain ⟨p, hp⟩ := hd
  unfold activePermits
  rw [hp]
  refine List.Sublist.length_le ?_
  refine List.Sublist.trans (List.Sublist.filter _ List.filter_sublist) ?_
  refine List.monotone_filter_right s.permits fun q hq => ?_
  simp only [Bool.and_eq_true, decide_eq_true_eq] at hq ⊢
  exact ⟨hq.1, lt_of_le_of_lt hnow hq.2⟩

/-- A step that at most deletes permits, while the row of the host keeps or raises its clock and stays below the limit. -/
theorem HostBound.shrink (h : HostBound host limit s) (hd : Deleted s.permits s'.permits)
    (hnone : s'.host? host = none → s.host? host = none)
    (hrow : ∀ h', s'.host? host = some h' →
      (s.host? host = none ∨ ∃ r, s.host? host = some r ∧ r.tokensUpdatedAt ≤ h'.tokensUpdatedAt) ∧
        1 ≤ h'.currentConcurrency ∧ h'.currentConcurrency ≤ h'.baselineConcurrency ∧ h'.baselineConcurrency ≤ limit) :
    HostBound host limit s' := by
  refine ⟨fun hn p hp => h.absent (hnone hn) p (hd.mem hp), fun h' hh' => (hrow h' hh').2, fun h' hh' => ?_⟩
  obtain ⟨hbefore | ⟨r, hr, hclock⟩, hone, hcurrent, hlimit⟩ := hrow h' hh'
  · -- the host is new, so it has no permits
    have hempty : s'.activePermits host h'.tokensUpdatedAt = [] := by
      unfold activePermits
      rw [List.filter_eq_nil_iff]
      intro p hp hactive
      simp only [Bool.and_eq_true, decide_eq_true_eq] at hactive
      exact h.absent hbefore p (hd.mem hp) hactive.1
    rw [hempty]
    show (0 : Int) ≤ limit
    omega
  · have hle : (s'.activePermits host h'.tokensUpdatedAt).length ≤ (s.activePermits host r.tokensUpdatedAt).length :=
      activePermits_le hd hclock
    have hactive := h.active r hr
    omega

theorem HostBound.of_frame (h : HostBound host limit s) (hhosts : s'.hosts = s.hosts)
    (hd : Deleted s.permits s'.permits) : HostBound host limit s' := by
  have hhost : s'.host? host = s.host? host := by
    unfold host?
    rw [hhosts]
  refine h.shrink hd (fun hn => hhost ▸ hn) fun h' hh' => ?_
  rw [hhost] at hh'
  exact ⟨.inr ⟨h', hh', le_refl _⟩, h.concurrency h' hh'⟩

theorem HostBound.of_updateHost (h : HostBound host limit s) (name : String) {f : HostRow → HostRow}
    (hhosts : s'.hosts = updateWhere (fun r => r.host = name) f s.hosts) (hname : ∀ r, (f r).host = r.host)
    (hd : Deleted s.permits s'.permits)
    (hf : name = host → ∀ r, s.host? host = some r → r.tokensUpdatedAt ≤ (f r).tokensUpdatedAt ∧
      1 ≤ (f r).currentConcurrency ∧ (f r).currentConcurrency ≤ (f r).baselineConcurrency ∧
      (f r).baselineConcurrency ≤ limit) :
    HostBound host limit s' := by
  have hhost := host?_updateWhere name hhosts hname host
  refine h.shrink hd (fun hn => ?_) fun h' hh' => ?_
  · rw [hhost, Option.map_eq_none_iff] at hn
    exact hn
  · rw [hhost] at hh'
    obtain ⟨r, hr, heq⟩ := Option.map_eq_some_iff.mp hh'
    have hrhost : r.host = host := (lookup_mem hr).2
    by_cases hcase : r.host = name
    · rw [if_pos hcase] at heq
      obtain ⟨hclock, hbounds⟩ := hf (hcase.symm.trans hrhost) r hr
      rw [← heq]
      exact ⟨.inr ⟨r, hr, hclock⟩, hbounds⟩
    · rw [if_neg hcase] at heq
      rw [← heq]
      exact ⟨.inr ⟨r, hr, le_refl _⟩, h.concurrency r hr⟩

/-! ## Steps -/

theorem PermitsUnique.deleted (h : s.PermitsUnique) (hd : Deleted s.permits s'.permits) : s'.PermitsUnique := by
  obtain ⟨p, hp⟩ := hd
  unfold PermitsUnique
  rw [hp]
  exact List.Nodup.sublist (List.filter_sublist.map _) h

theorem activePermits_grant (host : String) (now : Time) (hpermits : s'.permits = s.permits ++ [row]) :
    (s'.activePermits host now).length ≤ (s.activePermits host now).length + 1 := by
  unfold activePermits
  rw [hpermits, List.filter_append, List.length_append]
  have hone := List.length_filter_le (fun p : PermitRow => decide (p.host = host) && decide (now < p.expiresAt)) [row]
  simp only [List.length_singleton] at hone
  omega

theorem persistTokens_host {available : ℚ} (hstate : s.host? host = some state) :
    (s.persistTokens host available now).host? host =
      some { state with availableTokens := available, tokensUpdatedAt := now } := by
  have hname : state.host = host := (lookup_mem hstate).2
  rw [host?_updateWhere host rfl (fun _ => ?_) host, hstate, Option.map_some, if_pos hname]
  rfl

theorem expirePermits_deleted (s : Store) (host : String) (now : Time) :
    Deleted s.permits (s.expirePermits host now).permits := ⟨_, rfl⟩

theorem acquireLocked_unique (hu : s.PermitsUnique) (h : s.acquireLocked request = .ok (s', decision)) :
    s'.PermitsUnique := by
  obtain ⟨state, target, now, -, -, ⟨rfl, -⟩ | ⟨rfl, -⟩ | ⟨-, -, hfresh, rfl, -⟩⟩ := acquireLocked_cases h
  · exact hu.deleted (expirePermits_deleted s request.host now)
  · exact hu.deleted (expirePermits_deleted s request.host now)
  · have hexpired : (s.expirePermits request.host now).PermitsUnique := hu.deleted (expirePermits_deleted _ _ _)
    unfold PermitsUnique grantPermit at *
    rw [List.map_append, List.nodup_append]
    refine ⟨hexpired, List.nodup_singleton _, fun pair hold _ hnew heq => ?_⟩
    obtain ⟨p, hp, hpair⟩ := List.mem_map.mp hold
    rw [heq, List.mem_singleton.mp hnew] at hpair
    exact hfresh p hp ⟨(Prod.mk.inj hpair).1, (Prod.mk.inj hpair).2⟩

theorem acquireLocked_keyed (hk : s.PermitsKeyed) (h : s.acquireLocked request = .ok (s', decision)) :
    s'.PermitsKeyed := by
  obtain ⟨state, target, now, -, -, ⟨rfl, -⟩ | ⟨rfl, -⟩ | ⟨-, -, -, rfl, -⟩⟩ := acquireLocked_cases h
  · exact hk.deleteWhere _
  · exact hk.deleteWhere _
  · exact Keyed.snoc (hk.deleteWhere _) rfl (lt_add_one s.nextPermitId)

theorem acquireLocked_grant (hk : s.PermitsKeyed) (h : s.acquireLocked request = .ok (s', decision)) :
    ∀ p ∈ inserted PermitRow.id s.permits s'.permits, GrantSound s' p := by
  obtain ⟨state, target, now, hlocked, -, ⟨rfl, -⟩ | ⟨rfl, -⟩ | ⟨hpaused, hactive, -, rfl, -⟩⟩ := acquireLocked_cases h
  · rw [(expirePermits_deleted s request.host now).inserted]
    exact List.forall_mem_nil _
  · show ∀ p ∈ inserted PermitRow.id s.permits (s.expirePermits request.host now).permits, _
    rw [(expirePermits_deleted s request.host now).inserted]
    exact List.forall_mem_nil _
  · have hinserted : inserted PermitRow.id s.permits
        ((s.expirePermits request.host now).permits ++ [s.newPermit request now]) = [s.newPermit request now] := by
      refine inserted_append (fun k hk' => ?_) fun r hr => ?_
      · obtain ⟨q, hq, e⟩ := List.mem_map.mp hk'
        exact e ▸ List.mem_map_of_mem (mem_deleteWhere.mp hq).1
      · rw [List.mem_singleton.mp hr]
        exact hk.lookup_next
    intro p hp
    change p ∈ inserted PermitRow.id s.permits
      ((s.expirePermits request.host now).permits ++ [s.newPermit request now]) at hp
    rw [hinserted, List.mem_singleton] at hp
    rw [hp]
    have hstate : (s.expirePermits request.host now).host? request.host = some state := hlocked.hostRow
    refine ⟨⟨target, hlocked.targetRow, hlocked.fence⟩, _, persistTokens_host hstate, hpaused, ?_⟩
    have hcount : ((((s.expirePermits request.host now).grantPermit request (refillTokens state now - 1) now).activePermits
        request.host now).length : Int) ≤ ((s.expirePermits request.host now).activePermits request.host now).length + 1 :=
      Int.ofNat_le.mpr (activePermits_grant request.host now rfl)
    exact hcount.trans (Int.add_one_le_of_lt hactive)

theorem HostBound.persistTokens (hb : HostBound host limit s) {target : TargetRow}
    (hlocked : Locked s request state target) (hnow : state.tokensUpdatedAt ≤ now) (available : ℚ) :
    HostBound host limit ((s.expirePermits request.host now).persistTokens request.host available now) := by
  refine hb.of_updateHost request.host rfl (fun _ => ?_) (expirePermits_deleted s request.host now) fun hname row hrow => ?_
  · rfl
  · rw [← hname, hlocked.hostRow] at hrow
    cases hrow
    exact ⟨hnow, hb.concurrency state (hname ▸ hlocked.hostRow)⟩

theorem HostBound.granted (hb : HostBound host limit s) (hhosts : s'.hosts = s.hosts)
    (hpermits : s'.permits = s.permits ++ [row]) (hroom : row.host = host → ∃ h, s.host? host = some h ∧
      ((s.activePermits host h.tokensUpdatedAt).length : Int) < limit) : HostBound host limit s' := by
  have hhost : s'.host? host = s.host? host := by
    unfold host?
    rw [hhosts]
  refine ⟨fun hn p hp => ?_, fun h hh => hb.concurrency h (hhost ▸ hh), fun h hh => ?_⟩
  · rw [hhost] at hn
    rw [hpermits] at hp
    rcases List.mem_append.mp hp with hp | hp
    · exact hb.absent hn p hp
    · rw [List.mem_singleton.mp hp]
      intro hrow
      obtain ⟨h, hh, -⟩ := hroom hrow
      rw [hn] at hh
      cases hh
  · rw [hhost] at hh
    by_cases hrow : row.host = host
    · obtain ⟨h', hh', hlt⟩ := hroom hrow
      rw [hh] at hh'
      cases hh'
      have hcount := activePermits_grant host h.tokensUpdatedAt hpermits
      omega
    · have hsame : s'.activePermits host h.tokensUpdatedAt = s.activePermits host h.tokensUpdatedAt := by
        unfold activePermits
        rw [hpermits, List.filter_append]
        simp [hrow]
      rw [hsame]
      exact hb.active h hh

theorem acquireLocked_bound (hb : HostBound host limit s) (h : s.acquireLocked request = .ok (s', decision)) :
    HostBound host limit s' := by
  obtain ⟨state, target, now, hlocked, hnow, ⟨rfl, -⟩ | ⟨rfl, -⟩ | ⟨-, hactive, -, rfl, -⟩⟩ := acquireLocked_cases h
  · exact hb.of_frame rfl (expirePermits_deleted s request.host now)
  · exact hb.persistTokens hlocked (hnow ▸ le_max_right _ _) _
  · have hpersisted := hb.persistTokens hlocked (hnow ▸ le_max_right _ _) (refillTokens state now - 1)
    refine hpersisted.granted rfl rfl fun hname => ?_
    change request.host = host at hname
    subst hname
    have hstate : (s.expirePermits request.host now).host? request.host = some state := hlocked.hostRow
    refine ⟨_, persistTokens_host hstate, ?_⟩
    obtain ⟨-, hcurrent, hlimit⟩ := hb.concurrency state hlocked.hostRow
    exact lt_of_lt_of_le hactive (hcurrent.trans hlimit)

theorem observeHost_bound {observation : HostObservation} (hb : HostBound host limit s)
    (h : s.observeHost observation = .ok s') : HostBound host limit s' := by
  obtain ⟨state, hstate, rfl⟩ := observeHost_inv h
  refine hb.of_updateHost observation.host rfl (fun row => observeRow_host row observation _) (Deleted.refl _)
    fun hname row hrow => ?_
  rw [← hname, hstate] at hrow
  cases hrow
  obtain ⟨hone, hcurrent, hlimit⟩ := hb.concurrency state (hname ▸ hstate)
  obtain ⟨hclock, -, ⟨-, -, hbaseline⟩, -, hconcurrency⟩ :=
    observeRow_observed state observation (max observation.observedAt state.tokensUpdatedAt)
  obtain ⟨hone', hcurrent'⟩ := hconcurrency ⟨hone, hcurrent⟩
  rw [hclock, hbaseline]
  exact ⟨le_max_right _ _, hone', hcurrent', hlimit⟩

theorem seedHost_bound {clock : Time} {seed : HostStateSeed} (hb : HostBound host limit s)
    (hseed : seed.host = host → seed.baselineConcurrency ≤ limit) (h : s.seedHost clock seed = .ok s') :
    HostBound host limit s' := by
  obtain ⟨-, -, hone, ⟨hnone, now, -, rfl⟩ | ⟨-, rfl⟩⟩ := seedHost_inv h
  · have hhost : Store.host? { s with hosts := s.hosts ++ [hostSeedRow now seed] } host =
        (s.host? host).or (if seed.host = host then some (hostSeedRow now seed) else none) := by
      unfold host?
      rw [lookup_append]
      simp [lookup, hostSeedRow]
    refine hb.shrink (Deleted.refl _) (fun hn => ?_) fun row hrow => ?_
    · rw [hhost, Option.or_eq_none_iff] at hn
      exact hn.1
    · rw [hhost] at hrow
      rcases Option.or_eq_some_iff.mp hrow with hrow | ⟨hbefore, hrow⟩
      · exact ⟨.inr ⟨row, hrow, le_refl _⟩, hb.concurrency row hrow⟩
      · obtain ⟨hname, hrow⟩ := Option.ite_none_right_eq_some.mp hrow
        cases hrow
        exact ⟨.inl hbefore, hone, le_refl _, hseed hname⟩
  · refine hb.of_updateHost seed.host rfl (fun _ => ?_) (Deleted.refl _) fun hname row hrow => ?_
    · rfl
    · obtain ⟨hcurrent, -, -⟩ := hb.concurrency row hrow
      exact ⟨le_refl _, le_min hcurrent hone, min_le_right _ _, hseed hname⟩

end Store

/-! ## Runs -/

/-- A transaction of the store, or the half of an acquire under the lock, after its look for an existing permit. -/
inductive PermitOp where
  | transaction (op : Op)
  | acquireLocked (request : AcquireHostPermitRequest)

def permitExec (notificationLength : SnapshotMetadata → Nat) (s : Store) : PermitOp → Store × Response
  | .transaction op => s.exec notificationLength op
  | .acquireLocked request => s.answer .decided (s.acquireLocked request)

def seededConcurrency (host : String) (e : Event Store PermitOp Response) : List Int :=
  match e.op, e.out with
  | .transaction (.seedHost _ seed), .done => if seed.host = host then [seed.baselineConcurrency] else []
  | _, _ => []

def largestSeeded (host : String) (events : List (Event Store PermitOp Response)) : Int :=
  (events.flatMap (seededConcurrency host)).foldr max 0

theorem le_foldr_max {n : Int} {ns : List Int} (hn : n ∈ ns) : n ≤ ns.foldr max 0 := by
  induction ns with
  | nil => cases hn
  | cons m ns ih =>
    rcases List.mem_cons.mp hn with rfl | hn
    · exact le_max_left _ _
    · exact (ih hn).trans (le_max_right _ _)

structure PermitsHold (host : String) (limit : Int) (s : Store) : Prop where
  keyed : s.PermitsKeyed
  unique : s.PermitsUnique
  bound : Store.HostBound host limit s

/-- An operation at most deletes permits, or it is an acquire that went on under the lock. -/
inductive PermitMove (s s' : Store) : Prop where
  | deleted (hd : Deleted s.permits s'.permits) (hnext : s'.nextPermitId = s.nextPermitId)
  | locked {request : AcquireHostPermitRequest} {decision : PermitDecision}
      (h : s.acquireLocked request = .ok (s', decision))

section Runs
variable (notificationLength : SnapshotMetadata → Nat)
variable {s : Store} {host : String} {limit : Int}

theorem permitExec_move (s : Store) (op : PermitOp) : PermitMove s (permitExec notificationLength s op).1 := by
  have hs : PermitMove s s := .deleted (Deleted.refl _) rfl
  have hframe : ∀ op, Store.writesHost op = false → PermitMove s (permitExec notificationLength s (.transaction op)).1 := by
    intro op hwrites
    have h := Store.exec_hostFrame notificationLength s hwrites
    exact .deleted h.deleted h.nextPermitId
  cases op with
  | acquireLocked request =>
    exact Store.answer_of hs fun _ _ h => .locked h
  | transaction op =>
    cases op with
    | acquireHostPermit request =>
      refine Store.answer_of hs fun s' decision h => ?_
      rcases Store.acquireHostPermit_locked h with ⟨rfl, -⟩ | h
      · exact hs
      · exact .locked h
    | seedHost clock seed =>
      refine Store.settle_of hs fun s' h => ?_
      obtain ⟨-, -, -, ⟨-, now, -, rfl⟩ | ⟨-, rfl⟩⟩ := Store.seedHost_inv h <;> exact .deleted (Deleted.refl _) rfl
    | observeHost observation =>
      refine Store.settle_of hs fun s' h => ?_
      obtain ⟨state, -, rfl⟩ := Store.observeHost_inv h
      exact .deleted (Deleted.refl _) rfl
    | _ => exact hframe _ rfl

variable {op : PermitOp}

theorem permitExec_bound (hb : Store.HostBound host limit s)
    (hseed : ∀ n ∈ seededConcurrency host (Event.of (permitExec notificationLength) s op), n ≤ limit) :
    Store.HostBound host limit (permitExec notificationLength s op).1 := by
  have hframe : ∀ op, Store.writesHost op = false →
      Store.HostBound host limit (permitExec notificationLength s (.transaction op)).1 := by
    intro op hwrites
    have h := Store.exec_hostFrame notificationLength s hwrites
    exact hb.of_frame h.hosts h.deleted
  cases op with
  | acquireLocked request => exact Store.answer_of hb fun _ _ h => Store.acquireLocked_bound hb h
  | transaction op =>
    cases op with
    | acquireHostPermit request =>
      refine Store.answer_of hb fun s' decision h => ?_
      rcases Store.acquireHostPermit_locked h with ⟨rfl, -⟩ | h
      · exact hb
      · exact Store.acquireLocked_bound hb h
    | seedHost clock seed =>
      refine Store.settle_of hb fun s' h => Store.seedHost_bound hb (fun hname => hseed _ ?_) h
      simp [seededConcurrency, Event.of, permitExec, Store.exec, h, Store.settle, hname]
    | observeHost observation => exact Store.settle_of hb fun _ h => Store.observeHost_bound hb h
    | _ => exact hframe _ rfl

theorem permitExec_keyed (s : Store) (op : PermitOp) (hk : s.PermitsKeyed) :
    (permitExec notificationLength s op).1.PermitsKeyed := by
  obtain ⟨hd, hnext⟩ | hlocked := permitExec_move notificationLength s op
  · unfold Store.PermitsKeyed
    rw [hnext]
    exact hd.keyed hk
  · exact Store.acquireLocked_keyed hk hlocked

theorem permitExec_holds (h : PermitsHold host limit s)
    (hseed : ∀ n ∈ seededConcurrency host (Event.of (permitExec notificationLength) s op), n ≤ limit) :
    PermitsHold host limit (permitExec notificationLength s op).1 := by
  have hbound := permitExec_bound notificationLength h.bound hseed
  have hkeyed := permitExec_keyed notificationLength s op h.keyed
  obtain ⟨hd, -⟩ | hlocked := permitExec_move notificationLength s op
  · exact ⟨hkeyed, h.unique.deleted hd, hbound⟩
  · exact ⟨hkeyed, Store.acquireLocked_unique h.unique hlocked, hbound⟩

theorem permitExec_grants (hk : s.PermitsKeyed) (op : PermitOp) :
    ∀ p ∈ inserted PermitRow.id s.permits (permitExec notificationLength s op).1.permits,
      (permitExec notificationLength s op).1.GrantSound p := by
  obtain ⟨hd, -⟩ | hlocked := permitExec_move notificationLength s op
  · rw [hd.inserted]
    exact List.forall_mem_nil _
  · exact Store.acquireLocked_grant hk hlocked

theorem permitsHold_run (ops : List PermitOp) (host : String) :
    PermitsHold host (largestSeeded host (trace (permitExec notificationLength) {} ops))
      (final (permitExec notificationLength) {} ops) := by
  have hempty : PermitsHold host (largestSeeded host (trace (permitExec notificationLength) {} ops)) {} := by
    refine ⟨Keyed.nil, List.nodup_nil, fun _ => List.forall_mem_nil _, fun h hh => ?_, fun h hh => ?_⟩
    · cases hh
    · cases hh
  refine final_inv_of_trace hempty fun s op he hs => permitExec_holds notificationLength hs fun n hn => ?_
  exact le_foldr_max (List.mem_flatMap.mpr ⟨_, he, hn⟩)

/-- **The permits of a host.** In every interleaving from empty tables each new permit is for the lease its target has,
of a host that is not paused, and within the concurrency in force; the unexpired permits never exceed the largest
concurrency seeded; and no two permits are for one target and generation. -/
theorem host_permits_bounded (ops : List PermitOp) :
    (∀ e ∈ trace (permitExec notificationLength) {} ops,
      ∀ p ∈ inserted PermitRow.id e.pre.permits e.post.permits, e.post.GrantSound p) ∧
    (∀ host h, (final (permitExec notificationLength) {} ops).host? host = some h →
      (((final (permitExec notificationLength) {} ops).activePermits host h.tokensUpdatedAt).length : Int) ≤
        largestSeeded host (trace (permitExec notificationLength) {} ops)) ∧
    (final (permitExec notificationLength) {} ops).PermitsUnique := by
  refine ⟨fun e he p hp => ?_, fun host => (permitsHold_run notificationLength ops host).bound.active,
    (permitsHold_run notificationLength ops "").unique⟩
  have hempty : Store.PermitsKeyed {} := Keyed.nil
  obtain ⟨hk, heq⟩ := trace_inv (permitExec_keyed notificationLength) hempty he
  rw [heq] at hp ⊢
  exact permitExec_grants notificationLength hk e.op p hp

end Runs

end QrCommandCenter
