import QrCommandCenter.Scraper.Coordinator
import QrCommandCenter.Store.Columns
import QrCommandCenter.Store.Fencing

/-!
# Runs beside the other transactions

Any number of coordinators: a run takes a claimed target, fetches and judges it, and commits what it built some time
later. In between the store moves on.

* `builtInput` : the `CommitInput` that `RunClaimedWithRelease` builds, `runClaimed_built` : what a run does with it;
* `Coordinators`, `RunOp`, `Coordinators.exec` : the store, the claimed targets, and the runs that are about to commit;
* `HeldRow s row` : the row that was claimed, which keeps its content as long as the lease is held (`HeldRow.exec`);
* `Coordinators.Sound` : the invariant of every reachable state.
-/

namespace QrCommandCenter.Scraper
open Domain Table Transition

variable {config : Config} {s : Store} {env : RunEnv} {target : ScrapeTarget} {input : CommitInput}

/-! ## The machine -/

/-- The input that `RunClaimedWithRelease` builds for its commit, unless it refuses the claim or is canceled. -/
def builtInput (config : Config) (s : Store) (env : RunEnv) (target : ScrapeTarget) : Option CommitInput :=
  if target.id ≤ 0 ∨ target.leaseGeneration ≤ 0 then none
  else match target.ref.validate with
  | .error _ => none
  | .ok () =>
    if env.canceled || env.fetched.failure = some .canceled then none
    else some (commitInput env target (judge config env target (previousSnapshot s env target.ref)))

/-- A run that is about to commit: the target as it was claimed, what the run has read, and the input it built. -/
structure PendingRun where
  target : ScrapeTarget
  env : RunEnv
  input : CommitInput

/-- The store, the targets that claims handed out, and the runs that are about to commit. -/
structure Coordinators where
  store : Store := {}
  claimed : List ScrapeTarget := []
  pending : List PendingRun := []

inductive RunOp where
  | transaction (op : Op)
  /-- The run of the `k`th claimed target fetches, reads the previous snapshot and builds its input. -/
  | build (k : Nat) (env : RunEnv)
  | commit (k : Nat) (clocks : CommitClocks)

def claimedTargets : Response → List ScrapeTarget
  | .claimed targets => targets
  | _ => []

namespace Coordinators

def exec (config : Config) (notificationLength : SnapshotMetadata → Nat) (w : Coordinators) :
    RunOp → Coordinators × Response
  | .transaction op =>
    if op.isCommit then (w, .done)
    else ({ w with
      store := (w.store.exec notificationLength op).1
      claimed := w.claimed ++ claimedTargets (w.store.exec notificationLength op).2 },
      (w.store.exec notificationLength op).2)
  | .build k env =>
    match w.claimed[k]? with
    | none => (w, .done)
    | some target =>
      match builtInput config w.store env target with
      | none => (w, .done)
      | some input => ({ w with pending := w.pending ++ [⟨target, env, input⟩] }, .done)
  | .commit k clocks =>
    match w.pending[k]? with
    | none => (w, .done)
    | some run => ({ w with store := (w.store.exec notificationLength (.commit clocks run.input)).1 },
        (w.store.exec notificationLength (.commit clocks run.input)).2)

end Coordinators

/-! ## Inputs that were built -/

def PendingRun.Built (config : Config) (run : PendingRun) : Prop :=
  ∃ s, builtInput config s run.env run.target = some run.input

theorem builtInput_eq_some (h : builtInput config s env target = some input) : target.ref.validate = .ok () ∧
      input = commitInput env target (judge config env target (previousSnapshot s env target.ref)) := by
  unfold builtInput at h
  split at h
  · cases h
  · split at h
    · cases h
    · rename_i hvalid
      split at h
      · cases h
      · cases h
        exact ⟨hvalid, rfl⟩

def concludeRun (clocks : RunClocks) (target : ScrapeTarget) (judgement : Judgement) (input : CommitInput) (s : Store) :
    Except StoreError (Store × CommitResult) → Store × RunReport
  | .error err => (s, .commitFailed err)
  | .ok (s', result) =>
    (if successfulOutcome judgement.outcome then
      (s'.settle (s'.reconcileLifecycle clocks.reconcile (reconcileInput target input result))).1 else s',
    .finished judgement result)

/-- **A run commits the input it built**: after an observation of the host, and before the reconcile of a success. -/
theorem runClaimed_built (len : SnapshotMetadata → Nat) (clocks : RunClocks)
    (h : builtInput config s env target = some input) :
    ∃ s₁ judgement, Store.HostsOnly s s₁ ∧ input = commitInput env target judgement ∧
      runClaimed config len s target env clocks =
        concludeRun clocks target judgement input s₁ (s₁.commit len clocks.commit input) := by
  unfold builtInput at h
  split at h
  · cases h
  rename_i hpositive
  split at h
  · cases h
  rename_i hvalid
  split at h
  · cases h
  rename_i hcanceled
  cases h
  refine ⟨(s.settle (s.observeHost (runObservation env target (judge config env target
    (previousSnapshot s env target.ref))))).1, _, Store.settle_of rfl fun _ h => Store.observeHost_hostsOnly h, rfl, ?_⟩
  unfold runClaimed
  rw [if_neg hpositive, hvalid]
  simp only
  rw [if_neg hcanceled]
  split <;> rename_i hcommit <;> rw [hcommit] <;> rfl

/-! ## Rows that were claimed -/

/-- The row that was claimed is still there; while its lease is held its content stays. -/
def HeldRow (s : Store) (row : TargetRow) : Prop :=
  ∃ t, s.target? row.id = some t ∧ t.ref = row.ref ∧ row.leaseGeneration ≤ t.leaseGeneration ∧
    (t.leaseGeneration = row.leaseGeneration → t.leaseOwner ≠ none → t.content = row.content)

def HeldTarget (s : Store) (target : ScrapeTarget) : Prop :=
  ∃ row, target = scanScrapeTarget row ∧ row.checks = true ∧ HeldRow s row

section Held
variable {len : SnapshotMetadata → Nat} {s : Store}
variable {target : ScrapeTarget}

/-- What a step does to a row: the lease moves on, and the content stays while the lease is held. -/
theorem exec_row (hw : s.WellFormed) (op : Op) {id : Int} {t : TargetRow} (ht : s.target? id = some t) :
    ∃ t', (s.exec len op).1.target? id = some t' ∧ t'.ref = t.ref ∧ t.LeaseStep t' ∧
      (t'.leaseOwner ≠ none → t'.content = t.content) := by
  obtain ⟨t', ht', href, hlease⟩ := (Store.exec_step len s op).evolves.kept id t ht
  refine ⟨t', ht', href, hlease, fun howner => ?_⟩
  cases hop : op.isCommit with
  | false =>
    obtain ⟨t'', ht'', htouched⟩ := (Store.exec_touched len s hop).kept id t ht
    rw [ht'] at ht''
    cases ht''
    exact htouched.content
  | true =>
    cases op with
    | commit clocks input =>
      revert ht'
      refine Store.answer_of (P := fun s' => s'.target? id = some t' → t'.content = t.content) (fun hsame => ?_)
        fun s' result h ht' => ?_
      · cases ht.symm.trans hsame
        rfl
      rcases Store.commit_ok h with ⟨rfl, -⟩ | ⟨target, run, heffect⟩
      · cases ht.symm.trans ht'
        rfl
      rcases Store.commit_committed hw.targets h with ⟨rfl, -⟩ | ⟨target', hcommitted⟩
      · cases ht.symm.trans ht'
        rfl
      obtain ⟨t₁, ht₁, hmoved⟩ := heffect.targets.kept id t ht
      obtain ⟨t₂, ht₂, htouched⟩ := hcommitted.rows.kept id t ht
      cases ht'.symm.trans ht₁
      cases ht'.symm.trans ht₂
      by_cases hid : t.id = input.targetID
      · exact absurd (hmoved.committed hid).1 howner
      · have hcontent := htouched.content
        rw [Store.updatedRow, if_neg hid] at hcontent
        exact hcontent
    | _ => cases hop

theorem HeldRow.exec {row : TargetRow} (h : HeldRow s row) (hw : s.WellFormed) (op : Op) :
    HeldRow (s.exec len op).1 row := by
  obtain ⟨t, ht, href, hle, hcontent⟩ := h
  obtain ⟨t', ht', href', hlease, hkept⟩ := exec_row hw op ht
  refine ⟨t', ht', href'.trans href, hle.trans hlease.generation_le, fun hgeneration howner => ?_⟩
  rw [hkept howner]
  rcases hlease with hlt | ⟨heq, hfree⟩
  · exact absurd hgeneration (hle.trans_lt hlt).ne'
  · exact hcontent (heq.symm.trans hgeneration) fun hnone => howner (hfree hnone)

theorem HeldTarget.exec (h : HeldTarget s target) (hw : s.WellFormed) (op : Op) :
    HeldTarget (s.exec len op).1 target := by
  obtain ⟨row, hrow, hchecks, hheld⟩ := h
  exact ⟨row, hrow, hchecks, hheld.exec hw op⟩

theorem claimedTargets_settle (x : Except StoreError Store) :
    target ∉ claimedTargets (s.settle x).2 := by
  cases x <;> exact List.not_mem_nil

theorem claimedTargets_answer {α : Type} {respond : α → Response} {x : Except StoreError (Store × α)}
    (h : ∀ a, claimedTargets (respond a) = []) :
    target ∉ claimedTargets (s.answer respond x).2 := by
  cases x with
  | error e => exact List.not_mem_nil
  | ok r =>
    rw [Store.answer, h]
    exact List.not_mem_nil

theorem claimedTargets_claimed (hk : s.TargetsKeyed) (op : Op)
    (h : target ∈ claimedTargets (s.exec len op).2) :
    s.Claimed (s.exec len op).1 target := by
  cases op with
  | claimDue locked request =>
    simp only [Store.exec] at h ⊢
    cases hclaim : s.claimDue locked request with
    | error e => rw [hclaim] at h; cases h
    | ok r =>
      rw [hclaim] at h
      exact (Store.claimDue_claimed hk hclaim).2 target h
  | claimOne locked request =>
    simp only [Store.exec] at h ⊢
    cases hclaim : s.claimOne locked request with
    | error e => rw [hclaim] at h; cases h
    | ok r =>
      rw [hclaim] at h
      rw [List.mem_singleton.mp h]
      exact Store.claimOne_claimed hk hclaim
  | pruneRuns | prunePermits | pruneCommitEvents | releaseHostPermit | updateListenerCheckpoint => cases h
  | commit | repairStaleTargets | pruneSnapshots | prune | acquireHostPermit =>
    exact absurd h (claimedTargets_answer fun _ => rfl)
  | _ => exact absurd h (claimedTargets_settle _)

/-- **A claim takes a lease that no run has used**: in every run of the store, the targets it returns have a generation above
those of all recorded runs of theirs, so that `Commit` takes none of them for a replay. -/
theorem claims_unrecorded (len : SnapshotMetadata → Nat) (ops : List Op) : (trace (Store.exec len) {} ops).Forall fun e =>
    ∀ target ∈ claimedTargets e.out, ∀ r ∈ e.pre.runs, r.targetId = target.id → r.leaseGeneration < target.leaseGeneration := by
  refine List.forall_iff_forall_mem.mpr fun e he target htarget r hr hid => ?_
  obtain ⟨hw, heq⟩ := trace_inv (Store.exec_wellFormed len) Store.wellFormed_empty he
  rw [heq] at htarget
  obtain ⟨t, t', ht, -, rfl, hgeneration⟩ := claimedTargets_claimed hw.targets e.op htarget
  obtain ⟨t₀, ht₀, hle⟩ := hw.runs r hr
  rw [hid, ht] at ht₀
  cases ht₀
  show r.leaseGeneration < t'.leaseGeneration
  omega

/-! ## The invariant -/

/-- A well-formed store, and claimed targets and pending runs of its rows. -/
structure Coordinators.Sound (config : Config) (w : Coordinators) : Prop where
  store : w.store.WellFormed
  claimed : ∀ target ∈ w.claimed, HeldTarget w.store target
  pending : ∀ run ∈ w.pending, HeldTarget w.store run.target ∧ run.Built config

namespace Coordinators
variable {config : Config} {w : Coordinators} {k : Nat}

/-- **All that the commit of a pending run can do**: nothing, if it fails or replays, or one of `Store.Committed`. -/
theorem exec_commit {run : PendingRun} (hrun : w.pending[k]? = some run) (clocks : CommitClocks)
    (hk : w.store.TargetsKeyed) : ((w.exec config len (.commit k clocks)).1 = w ∧
      ∀ result, (w.exec config len (.commit k clocks)).2 = .committed result →
        w.store.run? run.input.targetID run.input.leaseGeneration ≠ none) ∨
    ∃ s' target result, Store.Committed run.input w.store s' target result ∧
      w.store.commit len clocks run.input = .ok (s', result) ∧
      w.exec config len (.commit k clocks) = ({ w with store := s' }, .committed result) := by
  simp only [exec, hrun, Store.exec]
  cases hcommit : w.store.commit len clocks run.input with
  | error err => exact .inl ⟨rfl, fun result hout => by cases hout⟩
  | ok r =>
    obtain ⟨s', result⟩ := r
    rcases Store.commit_committed hk hcommit with ⟨rfl, hreplay⟩ | ⟨target, hcommitted⟩
    · refine .inl ⟨rfl, fun _ _ hunrecorded => ?_⟩
      rw [Store.existingCommitResult, hunrecorded] at hreplay
      cases hreplay
    · exact .inr ⟨s', target, result, hcommitted, rfl, rfl⟩

theorem exec_commit_none (h : w.pending[k]? = none) (clocks : CommitClocks) :
    w.exec config len (.commit k clocks) = (w, .done) := by
  simp only [exec, h]

/-- **All that a step can do to the store**: nothing, a transaction that is no commit, or the commit of a pending run. -/
theorem exec_store (op : RunOp) (hk : w.store.TargetsKeyed) :
    (w.exec config len op).1.store = w.store ∨
    (∃ tx, op = .transaction tx ∧ tx.isCommit = false ∧
      (w.exec config len op).1.store = (w.store.exec len tx).1) ∨
    ∃ input target result, Store.Committed input w.store (w.exec config len op).1.store target result := by
  cases op with
  | transaction tx =>
    cases htx : tx.isCommit with
    | true => exact .inl (by simp only [exec, htx, if_true])
    | false => exact .inr (.inl ⟨tx, rfl, htx, by simp only [exec, htx]; rfl⟩)
  | build k env =>
    left
    simp only [exec]
    split
    · rfl
    · split <;> rfl
  | commit k clocks =>
    cases hrun : w.pending[k]? with
    | none => exact .inl (by rw [exec_commit_none hrun])
    | some run =>
      rcases exec_commit hrun clocks hk with ⟨heq, -⟩ | ⟨s', target, result, hcommitted, -, heq⟩
      · exact .inl (by rw [heq])
      · rw [heq]
        exact .inr (.inr ⟨run.input, target, result, hcommitted⟩)

theorem sound_start (config : Config) : Sound config {} :=
  ⟨Store.wellFormed_empty, List.forall_mem_nil _, List.forall_mem_nil _⟩

theorem Sound.store_exec (h : Sound config w) (op : Op) :
    Sound config { w with store := (w.store.exec len op).1 } :=
  ⟨Store.exec_wellFormed len w.store op h.store,
    fun target htarget => (h.claimed target htarget).exec h.store op,
    fun run hrun => ⟨(h.pending run hrun).1.exec h.store op, (h.pending run hrun).2⟩⟩

theorem exec_sound (op : RunOp) (h : Sound config w) : Sound config (w.exec config len op).1 := by
  cases op with
  | transaction op =>
    simp only [exec]
    split
    · exact h
    · have hexec : Sound config { w with store := (w.store.exec len op).1 } := h.store_exec op
      refine ⟨hexec.store, fun target htarget => ?_, hexec.pending⟩
      rcases List.mem_append.mp htarget with htarget | htarget
      · exact hexec.claimed target htarget
      · obtain ⟨t, t', ht, ht', heq, -⟩ := claimedTargets_claimed h.store.targets op htarget
        have hid : t'.id = target.id := (lookup_mem ht').2
        exact ⟨t', heq, hexec.store.sound.checked t' (lookup_mem ht').1, t', by rw [hid]; exact ht', rfl, le_rfl,
          fun _ _ => rfl⟩
  | build k env =>
    simp only [exec]
    split
    · exact h
    · rename_i target htarget
      split
      · exact h
      · rename_i input hinput
        refine ⟨h.store, h.claimed, fun run hrun => ?_⟩
        rcases List.mem_append.mp hrun with hrun | hrun
        · exact h.pending run hrun
        · rw [List.mem_singleton.mp hrun]
          exact ⟨h.claimed target (List.mem_of_getElem? htarget), w.store, hinput⟩
  | commit k clocks =>
    simp only [exec]
    split
    · exact h
    · exact h.store_exec _

end Coordinators

end Held

end QrCommandCenter.Scraper
