import Mathlib.Data.Set.Function
import QrCommandCenter.Scraper.Safety

/-!
# The children of a published listing

A catalog lists courses and a course lists sessions; every listed child is a target of its own. The runs of one parent,
one after another, keep the children of its published document active and enabled as long as no run is answered by a 304.

* `childRef`, `Listed` : the children a document lists, and that they are active and enabled;
* `discovered_ref` : a run has seen the children of the value it fetched;
* `ParentRun`, `runParent` : a claim of the parent and its run;
* `Tracked` : the invariant, `runParent_tracked` : every run but a 304 keeps it;
* `listed_children_active` : the children through any sequence of such runs.
-/

namespace QrCommandCenter.Scraper
open Domain Table Store Transition

variable {target : ScrapeTarget}

variable {env : RunEnv} {judgement : Judgement} {run : RunRow} {config : Config} {raw : Document}

/-! ## Listed children -/

/-- The child of `parent` with this identifier. -/
def childRef (parent : TargetRef) (scope : SnapshotKind × String) (id : String) : TargetRef where
  host := parent.host
  kind := scope.1
  parentKey := scope.2
  resourceKey := id

def Listed (s : Store) (parent : TargetRef) (scope : SnapshotKind × String) (document : Document) : Prop :=
  ∀ id ∈ identifiers document, ∃ t, s.targetByRef? (childRef parent scope id) = some t ∧
    t.lifecycleState = .active ∧ t.enabled = true

variable {parent : TargetRef} {scope : SnapshotKind × String} {s s' : Store} {document : Document}

theorem childSeeds_ref (hscope : childScope parent = some scope) (hkind : kindOf document = some parent.kind)
    (now : Time) : (childSeeds parent now document).map TargetSeed.ref =
      (identifiers document).map (childRef parent scope) := by
  unfold childScope at hscope
  cases document with
  | catalog | course =>
    rw [← Option.some.inj hkind] at hscope
    cases hscope
    simp only [childSeeds, identifiers, List.map_map]
    rfl
  | session | profiles =>
    rw [← Option.some.inj hkind] at hscope
    cases hscope
  | other text => cases hkind

theorem jitterSeeds_ref (draw : Nat → Nat) (i : Nat) (seeds : List TargetSeed) :
    (jitterSeeds draw i seeds).map TargetSeed.ref = seeds.map TargetSeed.ref := by
  induction seeds generalizing i with
  | nil => rfl
  | cons seed rest ih => simp only [jitterSeeds, List.map_cons, ih]

theorem discovered_ref (hscope : childScope target.ref = some scope)
    (hraw : env.fetched.result.value.document? target.ref.kind = some document)
    (houtcome : judgement.outcome = .changed ∨ judgement.outcome = .unchanged) :
    ((discovered env target judgement).map TargetSeed.ref).Perm
      ((identifiers document).map (childRef target.ref scope)) := by
  unfold discovered discoverTargets
  rw [if_pos houtcome, jitterSeeds_ref, hraw, ← childSeeds_ref hscope (kindOf_document? hraw) env.finishedAt]
  exact (List.perm_insertionSort _ _).map _

/-! ## What steps do to the children -/

theorem Listed.evolves {R : TargetRow → TargetRow → Prop} {F : TargetRow → Prop} (hlisted : Listed s parent scope document)
    (h : Evolves TargetRow.id R F s.targets s'.targets)
    (hR : ∀ t t', R t t' → t'.ref = t.ref ∧ t'.lifecycle = t.lifecycle ∧ (t.enabled = true → t'.enabled = true))
    (hk : s.TargetsKeyed) (hs' : s'.TargetsSound) : Listed s' parent scope document := by
  intro id hid
  obtain ⟨t, ht, hactive, henabled⟩ := hlisted id hid
  obtain ⟨t', ht', hmoved⟩ := targetByRef?_evolves h (fun t t' hm => (hR t t' hm).1) hk hs' ht
  obtain ⟨-, hlifecycle, hstays⟩ := hR t t' hmoved
  simp only [TargetRow.lifecycle, Prod.mk.injEq] at hlifecycle
  exact ⟨t', ht', hlifecycle.1.trans hactive, hstays henabled⟩

/-- The row `t` of the parent publishes `document`, whose children are listed; the content hash has no collision in `D`. -/
structure Tracks (codec : Codec) (listing : String → List String) (D : Set Document) (parent : TargetRef)
    (scope : SnapshotKind × String) (s : Store) (t : TargetRow) (row : SnapshotRow) (document : Document) : Prop where
  publication : Published codec s t row document
  ref : t.ref = parent
  known : document ∈ D
  body : ∀ raw, row.rawBodyHash = some raw → ∀ id, id ∈ identifiers document ↔ id ∈ listing raw
  listed : Listed s parent scope document

variable {codec : Codec} {listing : String → List String} {D : Set Document} {t : TargetRow} {row : SnapshotRow}

section
variable (h : Tracks codec listing D parent scope s t row document)
include h

theorem Tracks.leaseMoved (hw : s.WellFormed) (heffect : TargetsEffect TargetRow.LeaseMoved s s') :
    ∃ t', s'.target? t.id = some t' ∧ Tracks codec listing D parent scope s' t' row document := by
  obtain ⟨t', ht', hsteady, hpublished⟩ := h.publication.quiet (.of_targets (fun _ _ hm => hm.steady) heffect)
  refine ⟨t', ht', hpublished, hsteady.ref.trans h.ref, h.known, h.body, ?_⟩
  refine h.listed.evolves heffect.evolves (fun t t' hm => ⟨hm.ref, hm.lifecycle, fun he => ?_⟩) hw.targets
    (heffect.sound hw.sound)
  rw [hm.enabled, he]

theorem Tracks.hostsOnly (hhosts : HostsOnly s s') : Tracks codec listing D parent scope s' t row document := by
  have hp := h.publication
  rw [hhosts]
  exact ⟨⟨hp.present, hp.pointer, hp.stored, hp.payload, hp.kind, hp.hash, hp.nonzero, hp.count, hp.distinct, hp.named⟩,
    h.ref, h.known, h.body, h.listed⟩

theorem Tracks.kept (hw : s.WellFormed)
    {input : CommitInput} {target : TargetRow} (heffect : CommitEffect input s s' target run)
    (hp : publishes input = false) : ∃ t' row', Tracks codec listing D parent scope s' t' row' document := by
  obtain ⟨t', row', href, hpublished, hbody⟩ := h.publication.kept heffect hp
  refine ⟨t', row', hpublished, href.trans h.ref, h.known, ?_, ?_⟩
  · rw [hbody.rawBodyHash]
    exact h.body
  · exact h.listed.evolves heffect.targets (fun _ _ hm => ⟨hm.ref, hm.lifecycle, hm.enabled hp⟩) hw.targets
      (heffect.sound hw.sound)

end

/-- What the run of a fetched listing has committed: the document that is published then, and the listing it has seen. -/
structure Seen (config : Config) (listing : String → List String) (D : Set Document) (parent : TargetRef)
    (env : RunEnv) (s : Store) (t : TargetRow) (row : SnapshotRow) (document raw : Document) : Prop where
  publication : Published config.codec s t row document
  ref : t.ref = parent
  known : document ∈ D
  body : ∀ raw, row.rawBodyHash = some raw → ∀ id, id ∈ identifiers document ↔ id ∈ listing raw
  typed : env.fetched.result.value.document? parent.kind = some raw
  ids : ∀ id ∈ identifiers document, id ∈ identifiers raw

theorem reconciled_tracks (input : LifecycleReconcileInput)
    (hw : s.WellFormed) (h : Seen config listing D parent env s t row document raw)
    (hparent : input.parentRef = parent) (hscope : childScope parent = some scope)
    (hseeded : validateSeeds input.discoveredSeeds = .ok () ∧ ∀ seed ∈ dedupSeeds input.discoveredSeeds, s.Seeded seed)
    (hseen : input.seenChildRefs = input.discoveredSeeds.map TargetSeed.ref)
    (hperm : (input.discoveredSeeds.map TargetSeed.ref).Perm ((identifiers raw).map (childRef parent scope))) (now : Time) :
    (s.settle (s.reconcileLifecycle now input)).1.WellFormed ∧
      ∃ t', Tracks config.codec listing D parent scope (s.settle (s.reconcileLifecycle now input)).1 t' row document := by
  obtain ⟨s', hreconcile⟩ := reconcileLifecycle_succeeds hw.targets hw.sound hseeded.1 hseeded.2 now
  have heffect := reconcileLifecycle_ok hreconcile
  have hquiet : Quiet s s' := .of_targets (fun _ _ hm => hm.steady) heffect
  rw [hreconcile]
  obtain ⟨t', -, hsteady, hpublished⟩ := h.publication.quiet hquiet
  refine ⟨hquiet.wellFormed hw, t', hpublished, hsteady.ref.trans h.ref, h.known, h.body, fun id hid => ?_⟩
  have hmem : childRef parent scope id ∈ input.discoveredSeeds.map TargetSeed.ref :=
    hperm.mem_iff.mpr (List.mem_map_of_mem (h.ids id hid))
  obtain ⟨seed, hseed, hseedRef⟩ := List.mem_map.mp hmem
  rw [← hparent] at hscope
  obtain ⟨child, hchild, hactive, -, henabled⟩ := reconcileLifecycle_listed hscope hw.targets hw.sound hseeded.2
    hreconcile hseed (by rw [hseen]; exact List.mem_map_of_mem hseed) (by rw [hseedRef, hparent]; exact ⟨rfl, rfl, rfl⟩)
  rw [hseedRef] at hchild
  exact ⟨child, hchild, hactive, henabled⟩

/-! ## One run -/

/-- What the source promises of a fetch: a value of the kind's type, whose listing is a function of the raw body and
whose document is in `D`. -/
structure Promised (codec : Codec) (listing : String → List String) (D : Set Document) (kind : SnapshotKind)
    (fetched : Fetched) : Prop where
  typed : fetched.failure = none → ∃ raw, fetched.result.value.document? kind = some raw
  lists : fetched.failure = none → fetched.result.metadata.rawBodyHash ≠ "" →
    ∀ raw, fetched.result.value.document? kind = some raw →
      ∀ id, id ∈ identifiers raw ↔ id ∈ listing fetched.result.metadata.rawBodyHash
  known : ∀ raw, fetched.result.value.document? kind = some raw → canonicalForm codec raw ∈ D

section Run
variable {config : Config} {env : RunEnv}

section
variable (hw : s.WellFormed) (h : Tracks config.codec listing D parent scope s t row document)
include hw h

theorem fastPath_lists
    (hpromised : Promised config.codec listing D parent.kind env.fetched) (hfetched : env.fetched.failure = none)
    (hraw : rawHashUnchanged (previousSnapshot s env parent) env.fetched.result = true)
    (htyped : env.fetched.result.value.document? parent.kind = some raw) :
    ∀ id ∈ identifiers document, id ∈ identifiers raw := by
  cases hprevious : previousSnapshot s env parent with
  | error err =>
    rw [hprevious] at hraw
    cases hraw
  | ok snapshot =>
    obtain ⟨-, hbody, -⟩ := h.publication.current hw.sound (h.ref.symm ▸ previousSnapshot_ok hprevious)
    rw [hprevious] at hraw
    simp only [rawHashUnchanged, Bool.and_eq_true, decide_eq_true_eq] at hraw
    obtain ⟨⟨⟨hnonempty, heq⟩, -⟩, -⟩ := hraw
    rw [← heq] at hnonempty
    have hstored : row.rawBodyHash = some env.fetched.result.metadata.rawBodyHash := by
      cases hrow : row.rawBodyHash with
      | none =>
        rw [hrow] at hbody
        rw [heq] at hnonempty
        exact absurd hbody hnonempty
      | some raw =>
        rw [hrow] at hbody
        rw [heq, hbody]
        rfl
    intro id hid
    exact (hpromised.lists hfetched hnonempty raw htyped id).mpr ((h.body _ hstored id).mp hid)

theorem commit_seen
    (hD : Set.InjOn config.codec.sum256 D) (hpromised : Promised config.codec listing D parent.kind env.fetched)
    (hmodified : env.fetched.failure ≠ some .notModified)
    (hjudged : Judged config env (scanScrapeTarget t) (previousSnapshot s env t.ref) judgement)
    (houtcome : successfulOutcome judgement.outcome = true)
    {s₁ s₂ : Store} (hw₁ : s₁.WellFormed) (h₁ : Tracks config.codec listing D parent scope s₁ t row document)
    (hvalidated : validateCommit (commitInput env (scanScrapeTarget t) judgement) = .ok ())
    (heffect : CommitEffect (commitInput env (scanScrapeTarget t) judgement) s₁ s₂ t run) :
    (∃ t' row' document' raw, Seen config listing D parent env s₂ t' row' document' raw) ∧
      (judgement.outcome = .changed ∨ judgement.outcome = .unchanged) := by
  have href : (scanScrapeTarget t).ref = parent := h.ref
  -- an outcome that publishes nothing keeps the document
  have hkept : judgement.changed = false → ∀ raw,
      env.fetched.result.value.document? parent.kind = some raw →
      (∀ id ∈ identifiers document, id ∈ identifiers raw) →
      ∃ t' row' document' raw, Seen config listing D parent env s₂ t' row' document' raw := by
    intro hchanged raw htyped hids
    have hp : publishes (commitInput env (scanScrapeTarget t) judgement) = false := by
      show (_ && judgement.changed) = false
      rw [hchanged, Bool.and_false]
    obtain ⟨t', row', htracks⟩ := h₁.kept hw₁ heffect hp
    exact ⟨t', row', document, raw, htracks.publication, htracks.ref, htracks.known, htracks.body, htyped, hids⟩
  cases hjudged with
  | failed _ hfailed _ =>
    rw [hfailed] at houtcome
    cases houtcome
  | notModified hfetch _ => exact absurd hfetch hmodified
  | fastPath hfetch hraw =>
    obtain ⟨raw, htyped⟩ := hpromised.typed hfetch
    exact ⟨hkept rfl raw htyped (fastPath_lists hw h hpromised hfetch (h.ref ▸ hraw) htyped), .inr rfl⟩
  | unchanged _ hfetch hcanonical hhash hunchanged hchanged =>
    rw [href] at hcanonical
    obtain ⟨raw, htyped, hform, hsum, -⟩ := canonicalize_ok hcanonical
    -- the hash of the published document is that of the candidate
    have heq : canonicalForm config.codec raw = document := by
      refine hD (hpromised.known raw htyped) h.known ?_
      rw [← hform, ← hsum, hhash.2]
      simp only [scanScrapeTarget, h.publication.hash, Option.getD_some]
    refine ⟨hkept hchanged raw htyped fun id hid => ?_, .inr hunchanged⟩
    rw [← heq] at hid
    exact (identifiers_canonicalForm config.codec raw).mem_iff.mp hid
  | @changed _ document' payload hfetch hcanonical hvalid hoc hchanged hpayload =>
    obtain ⟨raw, htyped, hform, -, -⟩ := canonicalize_ok hcanonical
    rw [href] at htyped
    obtain ⟨t', row', hpublishedRef, hpublished, hbody⟩ :=
      published_of_commit hw₁ hvalidated heffect rfl hcanonical hvalid hoc hchanged hpayload
    have hperm := identifiers_canonicalForm config.codec raw
    rw [← hform] at hperm
    refine ⟨⟨t', row', document', raw, hpublished, hpublishedRef.trans href, ?_, ?_, htyped,
      fun id hid => hperm.mem_iff.mp hid⟩, .inl hoc⟩
    · rw [hform]
      exact hpromised.known raw htyped
    · intro rawHash hrawHash id
      rw [hbody] at hrawHash
      unfold nullIfEmpty at hrawHash
      split at hrawHash
      · cases hrawHash
      · rename_i hnonempty
        cases hrawHash
        rw [hperm.mem_iff]
        exact hpromised.lists hfetch hnonempty raw htyped id

end

/-- **A run that is not answered by a 304 keeps the children of the published listing.** -/
theorem runClaimed_tracks (len : SnapshotMetadata → Nat) (clocks : RunClocks)
    (hscope : childScope parent = some scope) (hw : s.WellFormed)
    (h : Tracks config.codec listing D parent scope s t row document) (hrun : s.run? t.id t.leaseGeneration = none)
    (hD : Set.InjOn config.codec.sum256 D) (hpromised : Promised config.codec listing D parent.kind env.fetched)
    (hmodified : env.fetched.failure ≠ some .notModified) :
    (runClaimed config len s (scanScrapeTarget t) env clocks).1.WellFormed ∧
      ∃ t' row' document', Tracks config.codec listing D parent scope
        (runClaimed config len s (scanScrapeTarget t) env clocks).1 t' row' document' := by
  have hran := runClaimed_ran config len s (scanScrapeTarget t) env clocks
  generalize runClaimed config len s (scanScrapeTarget t) env clocks = after at hran
  -- the commit is no replay, since the claim took a new lease
  have hcommitted : ∀ {s₁ s₂ : Store} {judgement : Judgement} {result : CommitResult}, HostsOnly s s₁ →
      s₁.commit len clocks.commit (commitInput env (scanScrapeTarget t) judgement) = .ok (s₂, result) →
      s₁.WellFormed ∧ Tracks config.codec listing D parent scope s₁ t row document ∧
        ∃ run, CommitEffect (commitInput env (scanScrapeTarget t) judgement) s₁ s₂ t run := by
    intro s₁ s₂ judgement result hhost hcommit
    have h₁ := h.hostsOnly hhost
    obtain ⟨target, run, heffect⟩ := commit_effect hcommit (by rw [hhost]; exact hrun)
    have hlocked := heffect.locked
    rw [show (commitInput env (scanScrapeTarget t) judgement).targetID = t.id from rfl, h₁.publication.present] at hlocked
    cases hlocked
    exact ⟨(Quiet.of_hosts hhost).wellFormed hw, h₁, run, heffect⟩
  cases hran with
  | refused err => exact ⟨hw, t, row, document, h⟩
  | canceled s' heffect =>
    obtain ⟨t', -, htracks⟩ := h.leaseMoved hw heffect
    exact ⟨(Quiet.of_targets (fun _ _ hm => hm.steady) heffect).wellFormed hw, t', row, document, htracks⟩
  | commitFailed s₁ err hhost => exact ⟨(Quiet.of_hosts hhost).wellFormed hw, t, row, document, h.hostsOnly hhost⟩
  | failed s₁ s₂ result hhost hcommit houtcome =>
    obtain ⟨hw₁, h₁, run, heffect⟩ := hcommitted hhost hcommit
    have hp : publishes (commitInput env (scanScrapeTarget t) (runJudgement config s (scanScrapeTarget t) env)) =
        false := by
      show (successfulOutcome (runJudgement config s (scanScrapeTarget t) env).outcome && _) = false
      rw [houtcome, Bool.false_and]
    obtain ⟨t', row', htracks⟩ := h₁.kept hw₁ heffect hp
    exact ⟨heffect.wellFormed hw₁, t', row', document, htracks⟩
  | succeeded s₁ s₂ result hhost hcommit houtcome =>
    obtain ⟨hw₁, h₁, run, heffect⟩ := hcommitted hhost hcommit
    obtain ⟨⟨t', row', document', raw, hseen⟩, hlisting⟩ :=
      commit_seen hw h hD hpromised hmodified (judge_judged config env (scanScrapeTarget t) _) houtcome hw₁ h₁
        (commit_valid hcommit) heffect
    have href : (scanScrapeTarget t).ref = parent := h.ref
    have hscope' : childScope (scanScrapeTarget t).ref = some scope := href ▸ hscope
    have htyped : env.fetched.result.value.document? (scanScrapeTarget t).ref.kind = some raw := href ▸ hseen.typed
    have hperm := discovered_ref hscope' htyped hlisting
    rw [href] at hperm
    obtain ⟨hw₃, t₃, htracks⟩ := reconciled_tracks
      (reconcileInput (scanScrapeTarget t)
        (commitInput env (scanScrapeTarget t) (runJudgement config s (scanScrapeTarget t) env)) result)
      (heffect.wellFormed hw₁) hseen h.ref hscope (heffect.seeded hw₁.targets) rfl hperm clocks.reconcile
    exact ⟨hw₃, t₃, row', document', htracks⟩

end Run

/-! ## Sequences of runs -/

/-- How the parent comes to be claimed: by itself, or among the targets that are due. -/
inductive Claim where
  | one (locked : List Int) (request : ClaimOneRequest)
  | due (locked : List Int) (request : ClaimRequest)

def claimParent (s : Store) (parent : TargetRef) : Claim → Store × Option ScrapeTarget
  | .one locked request =>
    match s.claimOne locked { request with ref := parent } with
    | .ok (s', target) => (s', some target)
    | .error _ => (s, none)
  | .due locked request =>
    match s.claimDue locked request with
    | .ok (s', targets) => (s', targets.find? fun target => target.ref = parent)
    | .error _ => (s, none)

structure ParentRun where
  claim : Claim
  env : RunEnv
  clocks : RunClocks

def runParent (config : Config) (notificationLength : SnapshotMetadata → Nat) (parent : TargetRef) (s : Store)
    (run : ParentRun) : Store × Option RunReport :=
  match claimParent s parent run.claim with
  | (s', none) => (s', none)
  | (s', some target) =>
    let after := runClaimed config notificationLength s' target run.env run.clocks
    (after.1, some after.2)

theorem claimParent_claims (hk : s.TargetsKeyed) (parent : TargetRef) (claim : Claim) :
    TargetsEffect TargetRow.LeaseMoved s (claimParent s parent claim).1 ∧
      ∀ target, (claimParent s parent claim).2 = some target →
        s.Claimed (claimParent s parent claim).1 target ∧ target.ref = parent := by
  have hnone : TargetsEffect TargetRow.LeaseMoved s s ∧
      ∀ target, (none : Option ScrapeTarget) = some target → s.Claimed s target ∧ target.ref = parent := by
    refine ⟨.refl TargetRow.LeaseMoved.refl s, fun target htarget => ?_⟩
    cases htarget
  cases claim with
  | one locked request =>
    cases h : s.claimOne locked { request with ref := parent } with
    | error err =>
      simp only [claimParent, h]
      exact hnone
    | ok out =>
      simp only [claimParent, h]
      refine ⟨claimOne_ok h, fun target htarget => ?_⟩
      cases htarget
      exact ⟨claimOne_claimed hk h, claimOne_ref h⟩
  | due locked request =>
    cases h : s.claimDue locked request with
    | error err =>
      simp only [claimParent, h]
      exact hnone
    | ok out =>
      simp only [claimParent, h]
      refine ⟨claimDue_ok h, fun target hfound => ?_⟩
      have href := List.find?_some hfound
      exact ⟨(claimDue_claimed hk h).2 target (List.mem_of_find?_eq_some hfound), of_decide_eq_true href⟩

def ChildrenActive (codec : Codec) (parent : TargetRef) (scope : SnapshotKind × String) (s : Store) : Prop :=
  ∃ t row document, Published codec s t row document ∧ t.ref = parent ∧ Listed s parent scope document

structure Tracked (codec : Codec) (listing : String → List String) (D : Set Document) (parent : TargetRef)
    (scope : SnapshotKind × String) (s : Store) : Prop where
  wellFormed : s.WellFormed
  tracks : ∃ t row document, Tracks codec listing D parent scope s t row document

theorem runParent_tracked {len : SnapshotMetadata → Nat}
    (hscope : childScope parent = some scope) (hD : Set.InjOn config.codec.sum256 D) {run : ParentRun}
    (hpromised : Promised config.codec listing D parent.kind run.env.fetched)
    (hmodified : run.env.fetched.failure ≠ some .notModified) (h : Tracked config.codec listing D parent scope s) :
    Tracked config.codec listing D parent scope (runParent config len parent s run).1 := by
  obtain ⟨t, row, document, htracks⟩ := h.tracks
  obtain ⟨heffect, hclaims⟩ := claimParent_claims h.wellFormed.targets parent run.claim
  have hw' := (Quiet.of_targets (fun _ _ hm => hm.steady) heffect).wellFormed h.wellFormed
  obtain ⟨t', ht', htracks'⟩ := htracks.leaseMoved h.wellFormed heffect
  unfold runParent
  split
  · rename_i hclaim
    rw [hclaim] at htracks' hw'
    exact ⟨hw', t', row, document, htracks'⟩
  · rename_i s' target hclaim
    obtain ⟨hclaimed, href⟩ := hclaims target (by rw [hclaim])
    obtain ⟨t₁, ht₁, htarget, hrun⟩ := claimed_unrecorded h.wellFormed heffect hclaimed
    rw [hclaim] at ht₁ hrun htracks' hw'
    -- the claimed row is the parent's, of which there is only one
    have heq : t₁ = t' := by
      refine List.inj_on_of_nodup_map hw'.sound.refs (lookup_mem ht₁).1 htracks'.publication.mem ?_
      rw [htracks'.ref, ← href, htarget]
      rfl
    rw [htarget, heq]
    rw [heq] at hrun
    obtain ⟨hw'', t'', row'', document'', htracks''⟩ :=
      runClaimed_tracks len run.clocks hscope hw' htracks' hrun hD hpromised hmodified
    exact ⟨hw'', t'', row'', document'', htracks''⟩

/-- **The children of the published listing are active and enabled after each run**, as long as none is answered by a
304. -/
theorem listed_children_active (config : Config) (notificationLength : SnapshotMetadata → Nat) (parent : TargetRef)
    (scope : SnapshotKind × String) (listing : String → List String) (D : Set Document) (s : Store)
    (runs : List ParentRun) (hscope : childScope parent = some scope) (hD : Set.InjOn config.codec.sum256 D)
    (hs : Tracked config.codec listing D parent scope s)
    (hpromised : ∀ run ∈ runs, Promised config.codec listing D parent.kind run.env.fetched)
    (hmodified : ∀ run ∈ runs, run.env.fetched.failure ≠ some .notModified) (n : Nat) :
    ChildrenActive config.codec parent scope (final (runParent config notificationLength parent) s (runs.take n)) := by
  have htracked : Tracked config.codec listing D parent scope
      (final (runParent config notificationLength parent) s (runs.take n)) :=
    final_inv_of_mem hs fun s run hrun h => runParent_tracked hscope hD (hpromised run (List.mem_of_mem_take hrun))
      (hmodified run (List.mem_of_mem_take hrun)) h
  obtain ⟨t, row, document, htracks⟩ := htracked.tracks
  exact ⟨t, row, document, htracks.publication, htracks.ref, htracks.listed⟩

/-! ## A catalog with one course -/

def oneCourse : Document := .catalog (sampleCatalog ["1"])

def catalogScope : SnapshotKind × String := (.courseDetail, "")

/-- The catalog with its course published, and the target of the course. -/
def familyStore : Store :=
  { sampleStore sampleCodec catalogRef oneCourse none with
    targets := [sampleRow sampleCodec catalogRef oneCourse,
      seedRow 2 second (courseSeed catalogRef second { courseID := "1", name := "Course", status := .active })]
    nextTargetId := 3 }

def familyRun (fetched : Fetched) : ParentRun where
  claim := .one [] { ref := catalogRef, now := 2 * hour, workerID := "a", leaseDuration := minute }
  env := { startedAt := 2 * hour, finishedAt := 2 * hour, fetched := fetched }
  clocks := ⟨⟨2 * hour, 2 * hour, 2 * hour⟩, 2 * hour, 2 * hour⟩

def sameListing : Fetched := { result := { value := .courses (sampleCatalog ["1"]) } }

def notModifiedListing : Fetched := { result := {}, failure := some .notModified }

theorem familyStore_tracked : Tracked sampleCodec (fun _ => ["1"]) {oneCourse} catalogRef catalogScope familyStore where
  wellFormed := ⟨⟨by decide +kernel, by decide +kernel⟩,
    ⟨by decide +kernel, by decide +kernel, by unfold TargetRow.Counted; decide +kernel⟩,
    ⟨by decide +kernel, by decide +kernel⟩, fun r hr => nomatch hr⟩
  tracks := by
    refine ⟨sampleRow sampleCodec catalogRef oneCourse, sampleSnapshot sampleCodec oneCourse none, oneCourse,
      ⟨rfl, rfl, rfl, rfl, rfl, rfl, by decide +kernel, rfl, by decide +kernel, by decide +kernel⟩, rfl, rfl,
      fun _ hraw => (nomatch hraw), fun id hid => ?_⟩
    rw [show identifiers oneCourse = ["1"] from rfl, List.mem_singleton] at hid
    rw [hid]
    exact ⟨seedRow 2 second (courseSeed catalogRef second { courseID := "1", name := "Course", status := .active }),
      by decide +kernel, rfl, rfl⟩

theorem sameListing_promised : Promised sampleCodec (fun _ => ["1"]) {oneCourse} .courseCatalog sameListing where
  typed := fun _ => ⟨oneCourse, rfl⟩
  lists := fun _ hraw => absurd rfl hraw
  known := fun raw hraw => by
    cases hraw
    rfl

theorem notModifiedListing_promised :
    Promised sampleCodec (fun _ => ["1"]) {oneCourse} .courseCatalog notModifiedListing where
  typed := fun h => nomatch h
  lists := fun h => nomatch h
  known := fun _ hraw => nomatch hraw

theorem listed_children_active_family :
    Tracked sampleCodec (fun _ => ["1"]) {oneCourse} catalogRef catalogScope familyStore ∧
    ChildrenActive sampleCodec catalogRef catalogScope (final (runParent sampleConfig (fun _ => 0) catalogRef) familyStore
      ([familyRun sameListing, familyRun sameListing].take 2)) := by
  refine ⟨familyStore_tracked, listed_children_active sampleConfig _ _ _ (fun _ => ["1"]) {oneCourse} _ _ rfl
    (Set.injOn_singleton _ _) familyStore_tracked ?_ ?_ 2⟩
  · intro run hrun
    simp only [List.mem_cons, List.not_mem_nil, or_false, or_self] at hrun
    rw [hrun]
    exact sameListing_promised
  · intro run hrun
    simp only [List.mem_cons, List.not_mem_nil, or_false, or_self] at hrun
    rw [hrun]
    exact nofun

/-- **A 304 marks the listed course as missing.** -/
theorem notModified_marks_missing :
    Tracked sampleCodec (fun _ => ["1"]) {oneCourse} catalogRef catalogScope familyStore ∧
    Promised sampleCodec (fun _ => ["1"]) {oneCourse} .courseCatalog notModifiedListing ∧
    ¬ ChildrenActive sampleCodec catalogRef catalogScope
      (final (runParent sampleConfig (fun _ => 0) catalogRef) familyStore [familyRun notModifiedListing]) := by
  refine ⟨familyStore_tracked, notModifiedListing_promised, ?_⟩
  rintro ⟨t, row, document, hpublished, href, hlisted⟩
  -- the catalog still points at its first snapshot, which lists the course
  have hpointer : ∀ x ∈ (final (runParent sampleConfig (fun _ => 0) catalogRef) familyStore
      [familyRun notModifiedListing]).targets, x.ref = catalogRef → x.currentSnapshotId = some 1 := by decide +kernel
  have hpayload : ((lookup SnapshotRow.id (final (runParent sampleConfig (fun _ => 0) catalogRef) familyStore
      [familyRun notModifiedListing]).snapshots 1).map SnapshotRow.payload) = some (.document oneCourse) := by
    decide +kernel
  have hmissing : ((final (runParent sampleConfig (fun _ => 0) catalogRef) familyStore
      [familyRun notModifiedListing]).targetByRef? (childRef catalogRef catalogScope "1")).map
        TargetRow.lifecycleState = some .missing := by decide +kernel
  have hrow : row.id = 1 := by
    have h := hpointer t hpublished.mem href
    rw [hpublished.pointer] at h
    exact Option.some.inj h
  have hdocument : document = oneCourse := by
    have h := hpublished.stored
    rw [hrow] at h
    rw [h, Option.map_some, hpublished.payload] at hpayload
    cases hpayload
    rfl
  obtain ⟨child, hchild, hactive, -⟩ := hlisted "1" (by rw [hdocument]; exact List.mem_singleton.mpr rfl)
  rw [hchild, Option.map_some, hactive] at hmissing
  cases hmissing

end QrCommandCenter.Scraper
