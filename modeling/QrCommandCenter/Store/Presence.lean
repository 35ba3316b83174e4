import QrCommandCenter.Store.System

/-!
# The presence of a child

The columns of a target that say whether it is there, `enabled`, `lifecycle_state` and the two missing counters, as a
machine of their own that the transactions of the store refine.

* `Presence` : the columns; `seeded`, `omitted`, `confirmed`, `missed` : what a statement does to them;
* `Store.presence` : the presence of a target, `none` when it is not there;
* `upsertSeeds_presence`, `commit_presence`, `reconcileLifecycle_presence` : the transactions that move it, exactly;
* `exec_presence` : all others leave it, or reset it as a seed does.
-/

namespace QrCommandCenter
open Domain Table

structure Presence where
  enabled : Bool := true
  state : LifecycleState := .active
  missing : Int := 0
  consecutive : Int := 0
deriving DecidableEq, Repr

namespace Presence

variable {refs : List TargetRef} {ref : TargetRef}

/-- An upsert, and the listed children of `applyChildPresence`. -/
def seeded (p : Presence) : Presence := { p with enabled := true, missing := 0 }

/-- The other children of `applyChildPresence`. -/
def omitted (p : Presence) : Presence :=
  { p with missing := min 2 (p.missing + 1), enabled := if 1 ≤ p.missing then false else p.enabled }

/-- The listed children of `ReconcileLifecycle`. -/
def confirmed (p : Presence) : Presence := { p with enabled := true, state := .active, consecutive := 0 }

/-- The other children of `ReconcileLifecycle`; a tombstoned one is left alone. -/
def missed (threshold : Int) (p : Presence) : Presence :=
  if p.state = .tombstoned then p
  else { p with
    enabled := if threshold ≤ p.consecutive + 1 then false else p.enabled
    state := if threshold ≤ p.consecutive + 1 then .tombstoned else .missing
    consecutive := p.consecutive + 1 }

@[simp] theorem seeded_seeded (p : Presence) : p.seeded.seeded = p.seeded := rfl

/-- The presence after an upsert of some seeds; a target that was not there is inserted with the column defaults. -/
def upserted (refs : List TargetRef) (ref : TargetRef) (p : Option Presence) : Option Presence :=
  if ref ∈ refs then some (p.getD {}).seeded else p

theorem upserted_of_mem (h : ref ∈ refs) (p : Option Presence) : upserted refs ref p = some (p.getD {}).seeded := if_pos h

theorem upserted_of_not_mem (h : ref ∉ refs) (p : Option Presence) : upserted refs ref p = p := if_neg h

end Presence

def TargetRow.presence (t : TargetRow) : Presence where
  enabled := t.enabled
  state := t.lifecycleState
  missing := t.missingCount
  consecutive := t.consecutiveMissingCount

def childOf (parent child : TargetRef) : Bool :=
  childScope parent = some (child.kind, child.parentKey) && child.host = parent.host

namespace Store

variable {seeds : List TargetSeed} {input : CommitInput}

variable {n : Nat} {parent : TargetRef} {len : SnapshotMetadata → Nat} {result : CommitResult}

def presence (s : Store) (ref : TargetRef) : Option Presence := (s.targetByRef? ref).map TargetRow.presence

variable {s s' : Store} {now : Time} {ref : TargetRef}

theorem presence_congr (h : s'.targets = s.targets) : s'.presence ref = s.presence ref := by
  unfold presence targetByRef?
  rw [h]

/-! ## Statements -/

variable {p : TargetRow → Bool} {f : TargetRow → TargetRow}

theorem updateWhere_presence {g : Presence → Presence}
    (h : s'.targets = updateWhere p f s.targets) (href : ∀ t, (f t).ref = t.ref)
    (hg : ∀ t, t.ref = ref → (if p t then f t else t).presence = g t.presence) :
    s'.presence ref = (s.presence ref).map g := by
  unfold presence targetByRef?
  rw [h, lookup_updateWhere href]
  cases hl : lookup TargetRow.ref s.targets ref with
  | none => rfl
  | some t =>
    simp only [Option.map_some]
    rw [hg t (lookup_mem hl).2]

theorem updateTargets_presence
    (h : s.updateTargets p f = .ok (s', n)) (hf : ∀ t, (f t).ref = t.ref ∧ (f t).presence = t.presence) :
    s'.presence ref = s.presence ref := by
  have htargets : s'.targets = updateWhere p f s.targets := by rw [(updateTargets_ok h).1]
  rw [@updateWhere_presence s s' ref p f id htargets (fun t => (hf t).1) fun t _ => ?_, Option.map_id_fun, id]
  split
  · exact (hf t).2
  · rfl

theorem upsertSeed_presence {seed : TargetSeed} (h : s.upsertSeed now seed = .ok s') :
    s'.presence ref = Presence.upserted [seed.ref] ref (s.presence ref) := by
  obtain ⟨-, ⟨t, _, ht, hu⟩ | ⟨hnew, rfl⟩⟩ := upsertSeed_inv h
  · -- the target is there: the conflict update resets its counter
    have htargets := congrArg Store.targets (updateTargets_ok hu).1
    by_cases href : ref = seed.ref
    · rw [updateWhere_presence (g := Presence.seeded) htargets (fun _ => rfl) fun t ht => ?_,
        Presence.upserted_of_mem (by simp [href])]
      · rw [href]
        simp only [presence, ht, Option.map_some, Option.getD_some]
      · rw [if_pos (by simp [ht, href])]
        rfl
    · rw [updateWhere_presence (g := id) htargets (fun _ => rfl) fun t ht => ?_,
        Presence.upserted_of_not_mem (by simp [href]), Option.map_id_fun, id]
      rw [if_neg (by simp [ht, href])]
      rfl
  · -- the target is new
    unfold presence targetByRef? at *
    simp only [lookup_append]
    by_cases href : ref = seed.ref
    · subst href
      rw [Presence.upserted_of_mem (by simp), hnew]
      simp [lookup, seedRow, TargetRow.presence, Presence.seeded]
    · have hother : lookup TargetRow.ref [seedRow s.nextTargetId now seed] ref = none :=
        lookup_eq_none.mpr fun r hr e => href (by rw [← e, List.mem_singleton.mp hr]; rfl)
      rw [Presence.upserted_of_not_mem (by simp [href]), hother, Option.or_none]

theorem upsertAll_presence (h : upsertAll now s seeds = .ok s') :
    s'.presence ref = Presence.upserted (seeds.map TargetSeed.ref) ref (s.presence ref) := by
  induction seeds generalizing s with
  | nil =>
    cases h
    rfl
  | cons seed rest ih =>
    obtain ⟨s₁, h₁, h₂⟩ := bind_eq_ok.mp h
    rw [ih h₂, upsertSeed_presence h₁]
    unfold Presence.upserted
    by_cases hseed : ref = seed.ref
    · simp [hseed]
    · simp [hseed]

theorem mem_dedupSeeds :
    ref ∈ (dedupSeeds seeds).map TargetSeed.ref ↔ ref ∈ seeds.map TargetSeed.ref := by
  constructor
  · intro h
    obtain ⟨seed, hseed, rfl⟩ := List.mem_map.mp h
    exact List.mem_map_of_mem (dedupSeeds_subset hseed)
  · intro h
    obtain ⟨seed, hseed, rfl⟩ := List.mem_map.mp h
    obtain ⟨kept, hkept, href⟩ := dedupSeeds_ref hseed
    exact List.mem_map.mpr ⟨kept, hkept, href⟩

/-- **An upsert resets the presence of the targets it seeds, and leaves all others.** -/
theorem upsertSeeds_presence (h : s.upsertSeeds now seeds = .ok s') :
    s'.presence ref = Presence.upserted (seeds.map TargetSeed.ref) ref (s.presence ref) := by
  obtain ⟨_, -, h⟩ := bind_eq_ok.mp h
  rw [upsertAll_presence h]
  unfold Presence.upserted
  simp only [mem_dedupSeeds]

/-! ## The statements on children -/

section Children
variable {parent : TargetRef} {scope : SnapshotKind × String} {t : TargetRow}

theorem inScope_eq (hscope : childScope parent = some scope) (ht : t.ref = ref) :
    inScope parent.host scope.1 scope.2 t = childOf parent ref := by
  obtain ⟨childKind, parentKey⟩ := scope
  unfold inScope childOf
  rw [hscope, ht, Bool.eq_iff_iff]
  simp only [Bool.and_eq_true, decide_eq_true_eq, Option.some.injEq, Prod.mk.injEq]
  constructor
  · rintro ⟨⟨hhost, hkind⟩, hparent⟩
    exact ⟨⟨hkind.symm, hparent.symm⟩, hhost⟩
  · rintro ⟨⟨hkind, hparent⟩, hhost⟩
    exact ⟨⟨hhost, hkind.symm⟩, hparent.symm⟩

theorem listedChild_eq (hscope : childScope parent = some scope) (ht : t.ref = ref) (seen : List TargetRef) :
    listedChild parent scope seen t = (childOf parent ref && decide (ref ∈ seen)) ∧
      unlistedChild parent scope seen t = (childOf parent ref && !decide (ref ∈ seen)) := by
  unfold listedChild unlistedChild
  cases hin : inScope parent.host scope.1 scope.2 t with
  | false =>
    rw [← inScope_eq hscope ht, hin]
    exact ⟨rfl, rfl⟩
  | true =>
    rw [← inScope_eq hscope ht, hin]
    simp only [inScope, Bool.and_eq_true, decide_eq_true_eq] at hin
    have hseen : (seenKeys parent scope.1 scope.2 seen).contains t.ref.resourceKey = decide (ref ∈ seen) := by
      rw [Bool.eq_iff_iff, seenKeys_contains ⟨hin.1.1, hin.1.2, hin.2⟩, decide_eq_true_eq, ht]
    rw [hseen]
    exact ⟨rfl, rfl⟩

theorem childOf_of_scope_none (hscope : childScope parent = none) : childOf parent ref = false := by
  unfold childOf
  rw [hscope]
  rfl

end Children

/-- An `UPDATE` that picks the row of the target or not; `live` is a further condition on the row. -/
theorem updateChosen_presence (g : Presence → Presence)
    (live : TargetRow → Bool) {chosen : Bool} (h : s.updateTargets p f = .ok (s', n))
    (hp : ∀ t, t.ref = ref → p t = (chosen && live t))
    (hf : ∀ t, (f t).ref = t.ref ∧ (if live t then f t else t).presence = g t.presence) :
    s'.presence ref = if chosen then (s.presence ref).map g else s.presence ref := by
  have htargets := congrArg Store.targets (updateTargets_ok h).1
  cases chosen with
  | true =>
    refine updateWhere_presence htargets (fun t => (hf t).1) fun t ht => ?_
    rw [hp t ht]
    exact (hf t).2
  | false =>
    rw [updateWhere_presence (g := id) htargets (fun t => (hf t).1) fun t ht => ?_, Option.map_id_fun]
    · rfl
    · rw [hp t ht]
      rfl

theorem applyChildPresence_presence {seen : List TargetRef} (h : s.applyChildPresence now parent seen = .ok s') :
    s'.presence ref = if childOf parent ref then
      (s.presence ref).map (if ref ∈ seen then Presence.seeded else Presence.omitted) else s.presence ref := by
  unfold applyChildPresence at h
  split at h
  · rename_i hscope
    cases h
    rw [childOf_of_scope_none hscope]
    rfl
  · rename_i childKind childParent hscope
    obtain ⟨s₁, h₁, h⟩ := bind_eq_ok.mp h
    obtain ⟨⟨s₂, n⟩, h₂, h⟩ := bind_eq_ok.mp h
    obtain ⟨n₁, h₁⟩ := updateSeen_inv h₁
    cases h
    have hlisted := fun (t : TargetRow) (ht : t.ref = ref) => listedChild_eq hscope ht seen
    rw [updateChosen_presence Presence.omitted (fun _ => true) h₂ (fun t ht => (hlisted t ht).2.trans (Bool.and_true _).symm)
        fun t => ⟨rfl, rfl⟩,
      updateChosen_presence Presence.seeded (fun _ => true) h₁ (fun t ht => (hlisted t ht).1.trans (Bool.and_true _).symm)
        fun t => ⟨rfl, rfl⟩]
    cases hchild : childOf parent ref with
    | false => simp
    | true => by_cases hseen : ref ∈ seen <;> simp [hseen]

def reconciledPresence (input : LifecycleReconcileInput) (ref : TargetRef) (p : Option Presence) : Option Presence :=
  if (childScope input.parentRef).isNone then p
  else
    let p := Presence.upserted (input.discoveredSeeds.map TargetSeed.ref) ref p
    if childOf input.parentRef ref then
      p.map (if ref ∈ input.seenChildRefs then Presence.confirmed
        else Presence.missed (tombstoneThresholdForChildKind ref.kind))
    else p

theorem missChild_presence (threshold : Int) (t : TargetRow) :
    (if (t.lifecycleState = .active || t.lifecycleState = .missing : Bool) then missChild now threshold t
      else t).presence = t.presence.missed threshold := by
  unfold Presence.missed
  cases hstate : t.lifecycleState <;> simp [TargetRow.presence, missChild, hstate]

/-- **A reconcile confirms the children that are listed and counts a miss of the others.** -/
theorem reconcileLifecycle_presence {input : LifecycleReconcileInput} (h : s.reconcileLifecycle now input = .ok s') :
    s'.presence ref = reconciledPresence input ref (s.presence ref) := by
  unfold reconciledPresence
  obtain ⟨hscope, rfl⟩ | ⟨scope, s₁, s₂, n₁, n₂, hscope, h₁, h₂, h₃⟩ := reconcileLifecycle_inv h
  · rw [hscope]
    rfl
  have hlisted := fun (t : TargetRow) (ht : t.ref = ref) => listedChild_eq hscope ht input.seenChildRefs
  rw [updateChosen_presence (Presence.missed (tombstoneThresholdForChildKind scope.1)) _ h₃
      (fun t ht => by rw [(hlisted t ht).2]) fun t => ⟨rfl, missChild_presence _ t⟩,
    updateChosen_presence Presence.confirmed (fun _ => true) h₂ (fun t ht => (hlisted t ht).1.trans (Bool.and_true _).symm)
      fun t => ⟨rfl, rfl⟩, upsertSeeds_presence h₁, hscope]
  cases hchild : childOf input.parentRef ref with
  | false => simp
  | true =>
    have hkind : scope.1 = ref.kind := by
      unfold childOf at hchild
      rw [hscope] at hchild
      simp only [Bool.and_eq_true, decide_eq_true_eq, Option.some.injEq] at hchild
      rw [hchild.1]
    by_cases hseen : ref ∈ input.seenChildRefs <;> simp [hseen, hkind]

/-! ## The commit -/

/-- The presence of a target after a commit that is no replay; `parent` is the committed target. -/
def committedPresence (input : CommitInput) (parent ref : TargetRef) (p : Option Presence) : Option Presence :=
  let p := Presence.upserted (input.discovered.map TargetSeed.ref) ref p
  if publishes input && childOf parent ref then
    p.map (if ref ∈ input.seenChildRefs then Presence.seeded else Presence.omitted)
  else p

theorem committedRow_presence (input : CommitInput) (seq version : Int) (snapshotID : Option Int) (t : TargetRow) :
    (committedRow input seq version snapshotID t).ref = t.ref ∧
      (committedRow input seq version snapshotID t).presence = t.presence := by
  unfold committedRow
  split <;> exact ⟨rfl, rfl⟩

theorem commitTarget_presence {seq version : Int} {snapshotID : Option Int}
    (h : s.commitTarget input seq version snapshotID = .ok s') : s'.presence ref = s.presence ref := by
  obtain ⟨sᵤ, n, hu, hrefresh⟩ := commitTarget_ok h
  rw [← updateTargets_presence hu (committedRow_presence input seq version snapshotID), hrefresh]
  split
  · exact presence_congr rfl
  · rfl

theorem recordDiscovery_presence (h : s.recordDiscovery now input parent = .ok s') :
    s'.presence ref = committedPresence input parent ref (s.presence ref) := by
  obtain ⟨s₁, h₁, h⟩ := bind_eq_ok.mp h
  obtain ⟨s₂, h₂, h⟩ := bind_eq_ok.mp h
  have hcandidates : s₂.presence ref = s₁.presence ref := presence_congr (by rw [insertCandidates_ok h₂])
  unfold committedPresence
  rw [← upsertSeeds_presence h₁, ← hcandidates]
  split at h
  · rename_i hp
    rw [applyChildPresence_presence h, hp, Bool.true_and]
  · rename_i hp
    cases h
    simp [hp]

variable {target : TargetRow}

theorem commitRun_presence
    (ht : s.target? input.targetID = some target) (h : s.commitRun len now input = .ok (s', result)) :
    s'.presence ref = committedPresence input target.ref ref (s.presence ref) := by
  obtain ⟨target', seq, runID, version, s₁, s₂, s₃, s₄, snapshotID, h₀, -, -, h₁, h₂, h₃, h₄, h₅⟩ := commitRun_inv h
  have hlocked := (fencedTarget_ok h₀).1
  rw [ht] at hlocked
  cases hlocked
  have e₁ : s₁.presence ref = s.presence ref := by
    obtain ⟨-, -, e⟩ := insertRun_runRow h₁
    exact presence_congr (by rw [e])
  have e₂ : s₂.presence ref = s₁.presence ref := presence_congr (by rw [(insertVersion_ok h₂).2])
  have e₅ : s'.presence ref = s₄.presence ref := presence_congr (by rw [(announce_ok h₅).1])
  rw [e₅, recordDiscovery_presence h₄, commitTarget_presence h₃, e₂, e₁]

/-- **A commit moves the presence of what it discovers and, when it publishes, of its children**; a replay moves none. -/
theorem commit_presence {clocks : CommitClocks} (ht : s.target? input.targetID = some target)
    (h : s.commit len clocks input = .ok (s', result)) :
    s'.presence ref = if (s.run? input.targetID input.leaseGeneration).isSome then s.presence ref
      else committedPresence input target.ref ref (s.presence ref) := by
  obtain ⟨_, -, h⟩ := bind_eq_ok.mp h
  obtain ⟨replay, hr, h⟩ := bind_eq_ok.mp h
  unfold existingCommitResult at hr
  cases hrun : s.run? input.targetID input.leaseGeneration with
  | none =>
    rw [hrun] at hr
    cases hr
    exact commitRun_presence ht h
  | some run =>
    rw [hrun] at hr
    simp only at hr
    have hreplay : ∃ answer, replay = some answer := by
      split at hr
      · cases hr
        exact ⟨_, rfl⟩
      · obtain ⟨_, -, hr⟩ := bind_eq_ok.mp hr
        cases hr
        exact ⟨_, rfl⟩
    obtain ⟨answer, rfl⟩ := hreplay
    cases h
    rfl

/-! ## The other operations -/

/-- A transaction that may drop a child. -/
def movesPresence : Op → Bool
  | .commit _ input => publishes input
  | .reconcileLifecycle _ _ => true
  | _ => false

/-- The presence of a target after a transaction that drops no child. -/
def Retained (p p' : Option Presence) : Prop := p' = p ∨ p' = some (p.getD {}).seeded

theorem Retained.upserted (refs : List TargetRef) (ref : TargetRef) (p : Option Presence) :
    Retained p (Presence.upserted refs ref p) := by
  unfold Presence.upserted
  split
  · exact .inr rfl
  · exact .inl rfl

theorem Retained.trans {a b c : Option Presence} (h₁ : Retained a b) (h₂ : Retained b c) : Retained a c := by
  rcases h₁ with rfl | rfl
  · exact h₂
  · rcases h₂ with rfl | rfl
    · exact .inr rfl
    · exact .inr rfl

/-- **Every other operation retains every target.** -/
theorem exec_presence (len : SnapshotMetadata → Nat) (s : Store) {op : Op}
    (hop : movesPresence op = false) (ref : TargetRef) :
    Retained (s.presence ref) ((s.exec len op).1.presence ref) := by
  have h := exec_cases len s op
  generalize (s.exec len op).1 = s' at h ⊢
  cases h with
  | unchanged => exact .inl rfl
  | seeded h =>
    rw [upsertSeeds_presence h]
    exact .upserted _ ref _
  | leased _ h hf =>
    refine .inl (updateTargets_presence h fun t => ?_)
    rw [(hf t).columns]
    exact ⟨rfl, rfl⟩
  | @committed clocks input _ _ h =>
    -- a commit that publishes nothing upserts its seeds at most
    have hunpublished : publishes input = false := hop
    rcases commit_ok h with ⟨rfl, -⟩ | ⟨target, run, heffect⟩
    · exact .inl rfl
    · rw [commit_presence heffect.locked h, if_neg (by rw [heffect.unrecorded]; decide)]
      unfold committedPresence
      rw [hunpublished]
      exact .upserted _ ref _
  | reconciled => cases hop
  | pruned _ h => exact .inl (presence_congr (by rw [h.frame]))
  | dequeued => exact .inl rfl
  | hosted _ h => exact .inl (presence_congr (by rw [h]))

end Store

end QrCommandCenter
