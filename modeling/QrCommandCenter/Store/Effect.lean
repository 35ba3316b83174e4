import QrCommandCenter.Store.Schema

/-!
# Effects on `scrape_targets`

* `TargetRow.lease`, `.pointer`, `.lifecycle` : the column groups whose history the invariants follow;
* `TargetRow.LeaseStep` : how the lease of a row may move;
* `TargetsEffect R s s'` : only `scrape_targets` changed, its rows moved by `R`, new rows have the column defaults
  (`TargetsEffect.refl`, `.trans`, `.mono`);
* `updateTargets_effect`, `insertTarget_effect` : the effect of an `UPDATE` and of an `INSERT`.
-/

namespace QrCommandCenter
open Domain Table

/-! ## Column groups -/

def TargetRow.lease (t : TargetRow) : Int × Option String × Option Time :=
  (t.leaseGeneration, t.leaseOwner, t.leaseExpiresAt)

/-- The published pointer and the counters that move with it. -/
def TargetRow.pointer (t : TargetRow) : Option Int × Int × Option ContentHash × Int × Int :=
  (t.currentSnapshotId, t.currentVersion, t.currentContentHash, t.validationSeq, t.previousRecordCount)

def TargetRow.lifecycle (t : TargetRow) : LifecycleState × Int × Option Int × Option Time × Option Time :=
  (t.lifecycleState, t.consecutiveMissingCount, t.lastSeenParentVersion, t.tombstonedAt, t.reactivatedAt)

/-- A row as `INSERT` leaves it, with the column defaults. -/
structure TargetRow.Fresh (t : TargetRow) : Prop where
  lease : t.lease = (0, none, none)
  pointer : t.pointer = (none, 0, none, 0, 0)

/-- A lease only moves on: to a later generation, or within one generation and then never from free to held. -/
def TargetRow.LeaseStep (t t' : TargetRow) : Prop :=
  t.leaseGeneration < t'.leaseGeneration ∨
    t'.leaseGeneration = t.leaseGeneration ∧ (t.leaseOwner = none → t'.leaseOwner = none)

theorem TargetRow.LeaseStep.refl (t : TargetRow) : t.LeaseStep t := .inr ⟨rfl, fun h => h⟩

variable {t t' : TargetRow}

theorem TargetRow.LeaseStep.generation_le (h : t.LeaseStep t') : t.leaseGeneration ≤ t'.leaseGeneration := by
  rcases h with h | ⟨h, -⟩ <;> omega

theorem TargetRow.LeaseStep.of_lease_eq (h : t'.lease = t.lease) : t.LeaseStep t' := by
  simp only [TargetRow.lease, Prod.mk.injEq] at h
  exact .inr ⟨h.1, fun hn => h.2.1.trans hn⟩

def TargetRow.Counted (t : TargetRow) : Prop := t.lifecycleState ≠ .tombstoned → t.consecutiveMissingCount ≤ 2

/-- What every `UPDATE` of `scrape_targets` keeps of a row. -/
structure TargetRow.Keeps (t t' : TargetRow) : Prop where
  id : t'.id = t.id
  ref : t'.ref = t.ref
  counted : t.Counted → t'.Counted

namespace Store

variable {a b s s' : Store} {n : Nat} {p : TargetRow → Bool} {f : TargetRow → TargetRow} {c : Store}

/-! ## Effects -/

/-- `s'` differs from `s` in `scrape_targets` and its sequence only. -/
def TargetsOnly (s s' : Store) : Prop := s' = { s with targets := s'.targets, nextTargetId := s'.nextTargetId }

theorem TargetsOnly.trans (h₁ : TargetsOnly a b) (h₂ : TargetsOnly b c) : TargetsOnly a c := by
  unfold TargetsOnly at *
  rw [h₂, h₁]

def TargetsKeyed (s : Store) : Prop := Keyed TargetRow.id s.nextTargetId s.targets

/-- The unique key of references, the `CHECK`s and the bound on the missing counters. -/
structure TargetsSound (s : Store) : Prop where
  refs : (s.targets.map TargetRow.ref).Nodup
  checked : ∀ t ∈ s.targets, t.checks = true
  counted : ∀ t ∈ s.targets, t.Counted

theorem TargetsSound.congr (hs : s.TargetsSound) (h : s'.targets = s.targets) : s'.TargetsSound := by
  refine ⟨?_, ?_, ?_⟩ <;> rw [h]
  exacts [hs.refs, hs.checked, hs.counted]

/-- What a statement on `scrape_targets` does to the store. -/
structure TargetsEffect (R : TargetRow → TargetRow → Prop) (s s' : Store) : Prop where
  frame : TargetsOnly s s'
  evolves : Evolves TargetRow.id R TargetRow.Fresh s.targets s'.targets
  keyed : s.TargetsKeyed → s'.TargetsKeyed
  sound : s.TargetsSound → s'.TargetsSound

variable {R R₁ R₂ : TargetRow → TargetRow → Prop}

theorem TargetsEffect.refl (hR : ∀ t, R t t) (s : Store) : TargetsEffect R s s :=
  ⟨rfl, Evolves.refl hR _ _, fun h => h, fun h => h⟩

theorem TargetsEffect.trans (h₁ : TargetsEffect R₁ a b) (h₂ : TargetsEffect R₂ b c)
    (hR : ∀ x y z, R₁ x y → R₂ y z → R x z) (hF : ∀ y z, TargetRow.Fresh y → R₂ y z → TargetRow.Fresh z) :
    TargetsEffect R a c :=
  ⟨h₁.frame.trans h₂.frame, h₁.evolves.trans h₂.evolves hR hF (fun _ h => h), fun h => h₂.keyed (h₁.keyed h),
    fun h => h₂.sound (h₁.sound h)⟩

theorem TargetsEffect.mono (h : TargetsEffect R₁ a b) (hR : ∀ x y, R₁ x y → R x y) :
    TargetsEffect R a b :=
  ⟨h.frame, h.evolves.mono hR (fun _ h => h), h.keyed, h.sound⟩

section
variable (h : s.updateTargets p f = .ok (s', n))
include h

theorem updateTargets_sound (hkeeps : ∀ t : TargetRow, t.Keeps (f t)) (hs : s.TargetsSound) : s'.TargetsSound := by
  obtain ⟨rfl, -, hchecks⟩ := updateTargets_ok h
  refine ⟨?_, fun t' ht' => ?_, fun t' ht' => ?_⟩
  · show ((updateWhere p f s.targets).map TargetRow.ref).Nodup
    rw [map_key_updateWhere fun t => (hkeeps t).ref]
    exact hs.refs
  · obtain ⟨t, ht, rfl⟩ := mem_updateWhere ht'
    split
    · rename_i hp
      exact hchecks t ht hp
    · exact hs.checked t ht
  · obtain ⟨t, ht, rfl⟩ := mem_updateWhere ht'
    split
    · exact (hkeeps t).counted (hs.counted t ht)
    · exact hs.counted t ht

theorem updateTargets_effect (hkeeps : ∀ t : TargetRow, t.Keeps (f t))
    (hR : ∀ t, p t = true → R t (f t)) (hrefl : ∀ t, R t t) : TargetsEffect R s s' := by
  have hsound := updateTargets_sound h hkeeps
  obtain ⟨rfl, -, -⟩ := updateTargets_ok h
  exact ⟨rfl, Evolves.updateWhere (fun t => (hkeeps t).id) hR (fun t _ => hrefl t) _ _,
    fun hk => Keyed.updateWhere hk fun t => (hkeeps t).id, hsound⟩

theorem updateTargets_target? (hid : ∀ t, (f t).id = t.id) (id : Int) :
    s'.target? id = (s.target? id).map (fun t => if p t then f t else t) := by
  obtain ⟨rfl, -, -⟩ := updateTargets_ok h
  exact lookup_updateWhere hid s.targets id

end

theorem insertTarget_effect {row : TargetRow} (hf : row.Fresh) (hid : row.id = s.nextTargetId)
    (hnew : s.targetByRef? row.ref = none) (hchecks : row.checks = true) (hcounted : row.Counted) (hrefl : ∀ t, R t t) :
    TargetsEffect R s { s with targets := s.targets ++ [row], nextTargetId := s.nextTargetId + 1 } := by
  refine ⟨rfl, Evolves.append hrefl _ fun r hr => ?_, fun hk => Keyed.snoc hk hid (by simp),
    fun hs => ⟨nodup_map_snoc hs.refs hnew, fun t ht => ?_, fun t ht => ?_⟩⟩
  · rw [List.mem_singleton.mp hr]
    exact hf
  · rcases List.mem_append.mp ht with ht | ht
    · exact hs.checked t ht
    · rw [List.mem_singleton.mp ht]
      exact hchecks
  · rcases List.mem_append.mp ht with ht | ht
    · exact hs.counted t ht
    · rw [List.mem_singleton.mp ht]
      exact hcounted

theorem targetByRef?_evolves {F : TargetRow → Prop} (h : Evolves TargetRow.id R F s.targets s'.targets)
    (hR : ∀ t t', R t t' → t'.ref = t.ref) (hk : s.TargetsKeyed) (hs' : s'.TargetsSound) {ref : TargetRef}
    (ht : s.targetByRef? ref = some t) : ∃ t', s'.targetByRef? ref = some t' ∧ R t t' := by
  obtain ⟨hmem, href⟩ := lookup_mem ht
  obtain ⟨t', ht', hmoved⟩ := h.kept t.id t (lookup_of_nodup hk.nodup hmem)
  refine ⟨t', ?_, hmoved⟩
  rw [← href, ← hR t t' hmoved]
  exact lookup_of_nodup hs'.refs (lookup_mem ht').1

theorem TargetsEffect.mem (h : TargetsEffect R s s') (hk : s.TargetsKeyed) (ht : t ∈ s.targets) :
    ∃ t' ∈ s'.targets, R t t' := by
  obtain ⟨t', ht', hR⟩ := h.evolves.kept t.id t (lookup_of_nodup hk.nodup ht)
  exact ⟨t', (lookup_mem ht').1, hR⟩

end Store

end QrCommandCenter
