import Mathlib.Data.Finset.Card
import Mathlib.Data.Finset.Dedup
import QrCommandCenter.Scraper.Published

/-!
# The guard on suspicious changes

A run that finds far fewer records or identifiers than are published has to confirm the change by a second fetch before
it publishes, and is quarantined otherwise.

* `SuspiciousDrop` : the change is suspicious, by counts and identifier sets;
* `SuspiciousRun` : a run of an active target whose accepted fetch is such a change;
* `ChangeGuarded` : it publishes with a confirmation only, or is quarantined;
* `changeGuarded_iff` : when a suspicious run is guarded.
-/

namespace QrCommandCenter.Scraper
open Domain Table Store

variable {document : Document} {kind : SnapshotKind} {published candidate : Document}

/-! ## Suspicious changes -/

/-- The candidate empties the published collection, or drops too many of its records or of its identifiers. -/
def SuspiciousDrop (policy : ChangeSafetyPolicy) (published candidate : Document) : Prop :=
  let p := (identifiers published).length
  let n := (identifiers candidate).length
  let P := (identifiers published).toFinset
  let C := (identifiers candidate).toFinset
  0 < p ∧ n = 0 ∨ policy.minimumPreviousCount ≤ p ∧
    (policy.maximumDropRatio < ((p : ℚ) - n) / p ∨ policy.maxMissingIDRatio < ((P \ C).card : ℚ) / P.card)

instance (policy : ChangeSafetyPolicy) (published candidate : Document) :
    Decidable (SuspiciousDrop policy published candidate) :=
  inferInstanceAs (Decidable (_ ∨ _))

theorem identifierSet_eq (hdistinct : (identifiers document).Nodup)
    (hnamed : ∀ id ∈ identifiers document, isBlank id = false) : identifierSet document = identifiers document := by
  have hfilter : (identifiers document).filter (fun id => id ≠ "") = identifiers document := by
    rw [List.filter_eq_self]
    intro id hid
    have hblank := hnamed id hid
    rw [decide_eq_true_eq]
    rintro rfl
    exact absurd hblank (by decide)
  unfold identifierSet
  rw [hfilter, List.Nodup.dedup hdistinct]

theorem missingRatio_eq {previous current : List String} (hprevious : previous.Nodup) :
    missingRatio previous current =
      ((previous.toFinset \ current.toFinset).card : ℚ) / previous.toFinset.card := by
  have hdiff : previous.toFinset \ current.toFinset = (previous.filter fun id => !current.contains id).toFinset := by
    ext id
    simp
  have hcard : (previous.toFinset \ current.toFinset).card = previous.countP fun id => !current.contains id := by
    rw [hdiff, List.toFinset_card_of_nodup (hprevious.filter _), List.countP_eq_length_filter]
  unfold missingRatio
  rw [hcard, List.toFinset_card_of_nodup hprevious]

/-- The classifier finds the drop exactly when it is told the number of published records. -/
theorem classify_suspiciousDrop (warnings : List ValidationWarning)
    (hkind : kindOf candidate = some kind) (hdistinct : (identifiers published).Nodup)
    (hnamed : ∀ id ∈ identifiers published, isBlank id = false) (hdistinct' : (identifiers candidate).Nodup)
    (hnamed' : ∀ id ∈ identifiers candidate, isBlank id = false) :
    (classifyChangeAgainst defaultChangeSafetyPolicy (validated kind candidate warnings)
        (identifiers published).length (some (identifierSet published))).status = .suspicious ↔
      SuspiciousDrop defaultChangeSafetyPolicy published candidate := by
  have hpolicy : (0 : ℚ) ≤ defaultChangeSafetyPolicy.maxMissingIDRatio := by norm_num [defaultChangeSafetyPolicy]
  have hminimum : defaultChangeSafetyPolicy.minimumPreviousCount = 2 := rfl
  rw [classify_suspicious_iff hpolicy warnings hkind, identifierSet_eq hdistinct hnamed,
    identifierSet_eq hdistinct' hnamed', missingRatio_eq hdistinct, ← List.length_eq_zero_iff]
  unfold SuspiciousDrop dropRatio
  simp only [hminimum, Int.cast_natCast]
  constructor
  · rintro ⟨hpositive, hzero | hdrop⟩
    · exact .inl ⟨by omega, hzero⟩
    · exact .inr hdrop
  · rintro (⟨hpositive, hzero⟩ | ⟨hcount, hdrop⟩)
    · exact ⟨by omega, .inl hzero⟩
    · exact ⟨by omega, .inr ⟨hcount, hdrop⟩⟩

theorem not_suspiciousDrop_of_perm (h : (identifiers candidate).Perm (identifiers published)) :
    ¬ SuspiciousDrop defaultChangeSafetyPolicy published candidate := by
  have hlength := h.length_eq
  have hsets : (identifiers candidate).toFinset = (identifiers published).toFinset := List.toFinset_eq_of_perm _ _ h
  unfold SuspiciousDrop
  simp only [hlength, hsets, Finset.sdiff_self, Finset.card_empty, Nat.cast_zero, zero_div, sub_self]
  rintro (⟨hpositive, hzero⟩ | ⟨-, hdrop | hmissing⟩)
  · omega
  · exact absurd hdrop (by norm_num [defaultChangeSafetyPolicy])
  · exact absurd hmissing (by norm_num [defaultChangeSafetyPolicy])

def countedKind (kind : SnapshotKind) : Prop := kind = .courseCatalog ∨ kind = .studentProfiles

instance (kind : SnapshotKind) : Decidable (countedKind kind) := inferInstanceAs (Decidable (_ ∨ _))

theorem countRecords_counted (hkind : kindOf document = some kind) (h : countedKind kind) :
    countRecords document = (identifiers document).length := by
  rcases h with rfl | rfl <;> cases document <;> cases hkind <;> simp [countRecords, identifiers]

theorem countRecords_uncounted (hkind : kindOf document = some kind) (h : ¬ countedKind kind) :
    countRecords document = 0 := by
  cases document with
  | catalog courses => cases hkind; exact absurd (.inl rfl) h
  | profiles profiles => cases hkind; exact absurd (.inr rfl) h
  | course | session | other => rfl

/-! ## Guarded runs -/

/-- The response has the raw body of the published snapshot, on one page and under this parser. -/
def SameRawBody (row : SnapshotRow) (result : FetchResult) : Prop :=
  result.metadata.rawBodyHash ≠ "" ∧ row.rawBodyHash = some result.metadata.rawBodyHash ∧
    row.parserVersion = some parserVersion ∧ result.fetchedPages ≤ 1

instance (row : SnapshotRow) (result : FetchResult) : Decidable (SameRawBody row result) :=
  inferInstanceAs (Decidable (_ ∧ _))

/-- A run of an active target: the published snapshot can be read, and the fetch is accepted and is a suspicious change
of it. -/
structure SuspiciousRun (config : Config) (s : Store) (t : TargetRow) (row : SnapshotRow)
    (published candidate : Document) (env : RunEnv) (hash : ContentHash) (count : Int) : Prop where
  sound : s.TargetsSound
  publication : Published config.codec s t row published
  active : t.lifecycleState = .active
  readable : env.previousUnreadable = false ∧ ∃ snapshot, s.current t.ref = .ok snapshot
  running : env.canceled = false
  fetched : env.fetched.failure = none
  typed : env.fetched.result.value.document? t.ref.kind = some candidate
  canonical : ∃ document, canonicalize config.codec t.ref.kind env.fetched.result.value config.canonicalPayloadLimit =
    .ok (document, hash, count)
  valid : ∃ payload, validatePayload t.ref.kind env.fetched.result.value t.ref.resourceKey = .ok payload
  differs : t.currentContentHash ≠ some hash
  drop : SuspiciousDrop defaultChangeSafetyPolicy published candidate

/-- A new version is committed only after a second fetch with the same hash and count; every other run is quarantined,
with the pointer as it was. -/
structure ChangeGuarded (config : Config) (s : Store) (t : TargetRow) (env : RunEnv) (hash : ContentHash)
    (count : Int) : Prop where
  confirmed :
    publishes (commitInput env (scanScrapeTarget t) (runJudgement config s (scanScrapeTarget t) env)) = true →
    ∃ second, (runJudgement config s (scanScrapeTarget t) env).confirmation = some second ∧
      Agrees config t.ref.kind hash count second
  quarantined :
    publishes (commitInput env (scanScrapeTarget t) (runJudgement config s (scanScrapeTarget t) env)) = false →
    (commitInput env (scanScrapeTarget t) (runJudgement config s (scanScrapeTarget t) env)).outcome = .quarantined ∧
    ∀ notificationLength clocks, ∃ t',
      (runClaimed config notificationLength s (scanScrapeTarget t) env clocks).1.target? t.id = some t' ∧
      t'.pointer = t.pointer

section Guard
variable {config : Config} {s : Store} {t : TargetRow} {row : SnapshotRow} {published candidate : Document}
  {env : RunEnv} {hash : ContentHash} {count : Int}

theorem commit_failed_pointer {len : SnapshotMetadata → Nat} {clocks : CommitClocks}
    {input : CommitInput} {result : CommitResult} {s' : Store}
    (h : s.commit len clocks input = .ok (s', result))
    (hfailed : successfulOutcome input.outcome = false) (ht : s.target? t.id = some t) :
    ∃ t', s'.target? t.id = some t' ∧ t'.pointer = t.pointer := by
  rcases commit_ok h with ⟨rfl, -⟩ | ⟨target, run, heffect⟩
  · exact ⟨t, ht, rfl⟩
  · obtain ⟨t', ht', hmoved⟩ := heffect.targets.kept t.id t ht
    refine ⟨t', ht', ?_⟩
    by_cases hid : t.id = input.targetID
    · rw [(hmoved.committed hid).2]
      simp [commitPointer, publishes, hfailed]
    · exact (hmoved.kept hid).pointer

theorem run_failed_pointer {target : ScrapeTarget} (len : SnapshotMetadata → Nat) (clocks : RunClocks)
    (hfailed : successfulOutcome (runJudgement config s target env).outcome = false) (ht : s.target? t.id = some t) :
    ∃ t', (runClaimed config len s target env clocks).1.target? t.id = some t' ∧
      t'.pointer = t.pointer := by
  have hran := runClaimed_ran config len s target env clocks
  generalize runClaimed config len s target env clocks = after at hran
  cases hran with
  | refused err => exact ⟨t, ht, rfl⟩
  | canceled s' h =>
    obtain ⟨t', ht', hmoved⟩ := h.evolves.kept t.id t ht
    exact ⟨t', ht', hmoved.pointer⟩
  | commitFailed s₁ err hhost =>
    have ht₁ : s₁.target? t.id = some t := by rw [hhost]; exact ht
    exact ⟨t, ht₁, rfl⟩
  | failed s₁ s₂ result hhost hcommit houtcome =>
    have ht₁ : s₁.target? t.id = some t := by rw [hhost]; exact ht
    exact commit_failed_pointer hcommit hfailed ht₁
  | succeeded s₁ s₂ result hhost hcommit houtcome =>
    rw [hfailed] at houtcome
    cases houtcome

theorem published_previous (h : Published config.codec s t row published) (hsound : s.TargetsSound)
    (hreadable : env.previousUnreadable = false ∧ ∃ snapshot, s.current t.ref = .ok snapshot) :
    ∃ snapshot, previousSnapshot s env t.ref = .ok snapshot ∧
      previousIDs t.ref.kind (.ok snapshot) = some (identifierSet published) ∧
      snapshot.rawBodyHash = row.rawBodyHash.getD "" ∧ snapshot.parserVersion = row.parserVersion.getD "" := by
  obtain ⟨hread, snapshot, hcurrent⟩ := hreadable
  obtain ⟨hpayload, hbody, hparser⟩ := h.current hsound hcurrent
  refine ⟨snapshot, ?_, ?_, hbody, hparser⟩
  · unfold previousSnapshot
    rw [hread, hcurrent]
    rfl
  · simp only [previousIDs, hpayload, snapshotIDs]
    exact if_pos h.kind

/-- The count a run is measured against is the one of the published document. -/
theorem published_previousCount (h : Published config.codec s t row published) :
    previousCount (scanScrapeTarget t) = countRecords published := by
  have hcurrent : (scanScrapeTarget t).hasCurrentSnapshot = true := by
    simp only [scanScrapeTarget, h.pointer, Option.isSome_some]
  unfold previousCount
  rw [if_pos hcurrent]
  exact h.count

theorem rawHashUnchanged_iff {snapshot : Snapshot} {result : FetchResult}
    (hraw : snapshot.rawBodyHash = row.rawBodyHash.getD "")
    (hparser : snapshot.parserVersion = row.parserVersion.getD "") :
    rawHashUnchanged (.ok snapshot) result = true ↔ SameRawBody row result := by
  have hnonempty : parserVersion ≠ "" := by decide
  simp only [rawHashUnchanged, SameRawBody, hraw, hparser]
  cases row.rawBodyHash with
  | none => simp
  | some raw =>
    cases row.parserVersion with
    | none => simp [hnonempty.symm]
    | some version =>
      simp only [Option.getD_some, ne_eq, Bool.and_eq_true, decide_eq_true_eq, Option.some.injEq]
      constructor
      · rintro ⟨⟨⟨hne, heq⟩, hversion⟩, hpages⟩
        exact ⟨by rw [heq]; simpa using hne, heq.symm, hversion, hpages⟩
      · rintro ⟨hne, heq, hversion, hpages⟩
        exact ⟨⟨⟨by rw [heq]; simpa using hne, heq.symm⟩, hversion⟩, hpages⟩

theorem published_fastPath (h : Published config.codec s t row published) (hsound : s.TargetsSound)
    (hreadable : env.previousUnreadable = false ∧ ∃ snapshot, s.current t.ref = .ok snapshot)
    (hfetched : env.fetched.failure = none) (hraw : SameRawBody row env.fetched.result) :
    runJudgement config s (scanScrapeTarget t) env = { outcome := .unchanged } := by
  obtain ⟨snapshot, hprevious, -, hbody, hparser⟩ := published_previous h hsound hreadable
  show judge config env (scanScrapeTarget t) (previousSnapshot s env t.ref) = _
  rw [hprevious]
  unfold judge
  rw [hfetched]
  exact if_pos ((rawHashUnchanged_iff hbody hparser).mpr hraw)

section
variable (h : SuspiciousRun config s t row published candidate env hash count)
include h

theorem SuspiciousRun.judged (hraw : ¬ SameRawBody row env.fetched.result) :
    ∃ document warnings previous, previousIDs t.ref.kind previous = some (identifierSet published) ∧
      kindOf candidate = some t.ref.kind ∧ (identifiers candidate).Nodup ∧
      (∀ id ∈ identifiers candidate, isBlank id = false) ∧
      runJudgement config s (scanScrapeTarget t) env =
        judgeAccepted config env (scanScrapeTarget t) previous document hash count
          (validated t.ref.kind candidate warnings) := by
  obtain ⟨snapshot, hprevious, hids, hbody, hparser⟩ :=
    published_previous h.publication h.sound h.readable
  obtain ⟨document, hcanonical⟩ := h.canonical
  obtain ⟨payload, hvalid⟩ := h.valid
  obtain ⟨raw, haccepted⟩ := validatePayload_ok hvalid
  have hraw' : raw = candidate := by
    have htyped := haccepted.typed
    rw [h.typed] at htyped
    exact (Option.some.inj htyped).symm
  rw [hraw'] at haccepted
  obtain ⟨warnings, rfl⟩ := haccepted.counted
  refine ⟨document, warnings, .ok snapshot, hids, kindOf_document? h.typed, haccepted.nodup, haccepted.named, ?_⟩
  have hslow : rawHashUnchanged (.ok snapshot) env.fetched.result = false := by
    rw [← Bool.not_eq_true, rawHashUnchanged_iff hbody hparser]
    exact hraw
  show judge config env (scanScrapeTarget t) (previousSnapshot s env t.ref) = _
  rw [hprevious]
  unfold judge judgeValue
  rw [h.fetched]
  simp only [hslow, Bool.false_eq_true, if_false]
  rw [show (scanScrapeTarget t).ref = t.ref from rfl, hcanonical]
  simp only [hvalid]

theorem SuspiciousRun.settleChange_eq (document : Document) (pending : Judgement) :
    settleChange (scanScrapeTarget t) document hash pending =
      { pending with outcome := .changed, changed := true, payload := .document document, contentHash := hash } := by
  have hne : hash ≠ (scanScrapeTarget t).currentContentHash := by
    have hdiffers := h.differs
    rw [h.publication.hash] at hdiffers
    simp only [scanScrapeTarget, h.publication.hash, Option.getD_some]
    exact fun e => hdiffers (congrArg some e.symm)
  unfold settleChange
  rw [if_pos (by simp [hne])]

theorem SuspiciousRun.fastPath_unguarded (hraw : SameRawBody row env.fetched.result) : ¬ ChangeGuarded config s t env hash count := by
  have hjudgement := published_fastPath h.publication h.sound h.readable h.fetched hraw
  intro hguarded
  have hquarantined := hguarded.quarantined
  rw [hjudgement] at hquarantined
  exact absurd (hquarantined rfl).1 (by simp [commitInput])

theorem SuspiciousRun.uncounted_unguarded (hraw : ¬ SameRawBody row env.fetched.result) (hkind : ¬ countedKind t.ref.kind) :
    ¬ ChangeGuarded config s t env hash count := by
  obtain ⟨document, warnings, previous, -, -, -, -, hjudgement⟩ := h.judged hraw
  have hcount : previousCount (scanScrapeTarget t) = 0 := by
    rw [published_previousCount h.publication, countRecords_uncounted h.publication.kind hkind]
  have hstatus : (classifyChangeAgainst defaultChangeSafetyPolicy (validated t.ref.kind candidate warnings)
      (previousCount (scanScrapeTarget t)) (previousIDs (scanScrapeTarget t).ref.kind previous)).status = .changed := by
    unfold classifyChangeAgainst
    rw [hcount, if_pos le_rfl]
  intro hguarded
  have hconfirmed := hguarded.confirmed
  unfold judgeAccepted at hjudgement
  simp only [hstatus, h.settleChange_eq] at hjudgement
  rw [hjudgement] at hconfirmed
  obtain ⟨second, hsecond, -⟩ := hconfirmed rfl
  cases hsecond

theorem SuspiciousRun.counted_guarded (hraw : ¬ SameRawBody row env.fetched.result) (hkind : countedKind t.ref.kind) :
    ChangeGuarded config s t env hash count := by
  obtain ⟨document, warnings, previous, hids, hcandidate, hdistinct, hnamed, hjudgement⟩ := h.judged hraw
  have hstatus : (classifyChangeAgainst defaultChangeSafetyPolicy (validated t.ref.kind candidate warnings)
      (previousCount (scanScrapeTarget t)) (previousIDs (scanScrapeTarget t).ref.kind previous)).status =
        .suspicious := by
    rw [published_previousCount h.publication, countRecords_counted h.publication.kind hkind,
      show (scanScrapeTarget t).ref = t.ref from rfl, hids,
      classify_suspiciousDrop warnings hcandidate h.publication.distinct h.publication.named hdistinct hnamed]
    exact h.drop
  unfold judgeAccepted at hjudgement
  simp only [hstatus, h.settleChange_eq] at hjudgement
  cases hconfirm : confirmChange config env (scanScrapeTarget t) env.fetched.result hash count with
  | confirmed =>
    obtain ⟨second, hsecond, hagrees⟩ := confirmChange_confirmed_iff.mp hconfirm
    simp only [hconfirm] at hjudgement
    refine ⟨fun _ => ⟨second, ?_, hagrees⟩, fun hp => ?_⟩
    · rw [hjudgement]
      exact hsecond
    · rw [hjudgement] at hp
      cases hp
  | refused code evidence =>
    simp only [hconfirm] at hjudgement
    have houtcome : (runJudgement config s (scanScrapeTarget t) env).outcome = .quarantined := by rw [hjudgement]
    have hfailed : successfulOutcome (runJudgement config s (scanScrapeTarget t) env).outcome = false := by
      rw [houtcome]
      rfl
    refine ⟨fun hp => ?_, fun _ => ⟨houtcome, fun notificationLength clocks => ?_⟩⟩
    · rw [hjudgement] at hp
      cases hp
    · exact run_failed_pointer notificationLength clocks hfailed h.publication.present

end

/-- **When a suspicious change is guarded**: exactly for the kinds whose records are counted, off the fast path. -/
theorem changeGuarded_iff (h : SuspiciousRun config s t row published candidate env hash count) :
    ChangeGuarded config s t env hash count ↔
      (t.ref.kind = .courseCatalog ∨ t.ref.kind = .studentProfiles) ∧ ¬ SameRawBody row env.fetched.result := by
  constructor
  · intro hguarded
    have hraw : ¬ SameRawBody row env.fetched.result := fun hraw => h.fastPath_unguarded hraw hguarded
    refine ⟨?_, hraw⟩
    by_contra hkind
    exact h.uncounted_unguarded hraw hkind hguarded
  · rintro ⟨hkind, hraw⟩
    exact h.counted_guarded hraw hkind

theorem published_unchanged (h : Published config.codec s t row published) {previous : Except StoreError Snapshot}
    (hids : previousIDs t.ref.kind previous = some (identifierSet published))
    (hcanonical : canonicalize config.codec t.ref.kind env.fetched.result.value config.canonicalPayloadLimit =
      .ok (published, hash, count))
    {payload : ValidatedPayload}
    (hvalid : validatePayload t.ref.kind env.fetched.result.value t.ref.resourceKey = .ok payload) :
    (judgeValue config env (scanScrapeTarget t) previous).outcome = .unchanged := by
  obtain ⟨raw, hraw, hform, hhash, -⟩ := canonicalize_ok hcanonical
  obtain ⟨raw', haccepted⟩ := validatePayload_ok hvalid
  have hrawEq : raw' = raw := by
    have htyped := haccepted.typed
    rw [hraw] at htyped
    exact (Option.some.inj htyped).symm
  rw [hrawEq] at haccepted
  obtain ⟨warnings, rfl⟩ := haccepted.counted
  have hperm : (identifiers raw).Perm (identifiers published) := by
    rw [hform]
    exact (identifiers_canonicalForm config.codec raw).symm
  -- nothing is dropped, so the classifier lets the value pass
  have hstatus : (classifyChangeAgainst defaultChangeSafetyPolicy (validated t.ref.kind raw warnings)
      (previousCount (scanScrapeTarget t)) (previousIDs (scanScrapeTarget t).ref.kind previous)).status = .changed := by
    rw [published_previousCount h, show (scanScrapeTarget t).ref = t.ref from rfl, hids]
    by_cases hkind : countedKind t.ref.kind
    · rw [countRecords_counted h.kind hkind]
      have hsafe := (classify_suspiciousDrop warnings (kindOf_document? hraw) h.distinct h.named
        haccepted.nodup haccepted.named).not.mpr (not_suspiciousDrop_of_perm hperm)
      generalize (classifyChangeAgainst _ _ _ _).status = status at hsafe ⊢
      cases status with
      | changed => rfl
      | suspicious => exact absurd rfl hsafe
    · rw [countRecords_uncounted h.kind hkind]
      unfold classifyChangeAgainst
      rw [if_pos le_rfl]
  have hsame : (!(scanScrapeTarget t).hasContentHash || decide (hash ≠ (scanScrapeTarget t).currentContentHash)) =
      false := by
    simp [ScrapeTarget.hasContentHash, scanScrapeTarget, h.pointer, h.hash, h.nonzero, hhash]
  unfold judgeValue
  rw [show (scanScrapeTarget t).ref = t.ref from rfl, hcanonical]
  simp only [hvalid, judgeAccepted, hstatus, settleChange, hsame, Bool.false_eq_true, if_false]

end Guard

/-! ## Suspicious runs of a course and of a catalog -/

/-- A codec whose hash is the number of identifiers. -/
def sampleCodec : Codec where
  marshalledLength := fun _ => 0
  sum256 := fun document => BitVec.ofNat 256 ((identifiers document).length + 1)
  normalizeTimestampString := fun text => text

def sampleConfig : Config where
  codec := sampleCodec
  canonicalPayloadLimit := 1000

def sampleFetch (value : Value) (now : Time) : RunEnv where
  startedAt := now
  finishedAt := now
  fetched := { result := { value := value } }

def sampleRow (codec : Codec) (ref : TargetRef) (document : Document) : TargetRow where
  id := 1
  ref := ref
  attributes := .object []
  priority := 50
  currentIntervalSeconds := 60
  minIntervalSeconds := 60
  maxIntervalSeconds := 60
  maxServeAgeSeconds := 3600
  nextRunAt := second
  lastValidatedAt := some second
  validationSeq := 1
  currentSnapshotId := some 1
  currentVersion := 1
  currentContentHash := some (codec.sum256 document)
  leaseOwner := some "a"
  leaseGeneration := 2
  leaseExpiresAt := some hour
  previousRecordCount := countRecords document
  updatedAt := second

def sampleSnapshot (codec : Codec) (document : Document) (rawBodyHash : Option String) : SnapshotRow where
  id := 1
  targetId := 1
  runId := some 1
  version := 1
  contentHash := codec.sum256 document
  payload := .document document
  contentFetchedAt := second
  verifiedAt := some second
  parserVersion := some parserVersion
  schemaVersion := some schemaVersion
  rawBodyHash := rawBodyHash
  complete := true
  manifest := {}
  validationReport := {}

/-- The store after the first run of the target and the second claim. -/
def sampleStore (codec : Codec) (ref : TargetRef) (document : Document) (rawBodyHash : Option String) : Store where
  hosts := [hostSeedRow second
    { host := ref.host, baselineRequestsPerSecond := 1, burst := 1, baselineConcurrency := 1, now := second }]
  targets := [sampleRow codec ref document]
  snapshots := [sampleSnapshot codec document rawBodyHash]
  nextTargetId := 2
  nextRunId := 2
  nextSnapshotId := 2
  nextEventSequence := 2

theorem sampleStore_published {codec : Codec} {ref : TargetRef} (hkind : kindOf document = some ref.kind)
    (hnonzero : isZeroContentHash (codec.sum256 document) = false) (hdistinct : (identifiers document).Nodup)
    (hnamed : ∀ id ∈ identifiers document, isBlank id = false) (rawBodyHash : Option String) :
    Published codec (sampleStore codec ref document rawBodyHash) (sampleRow codec ref document)
      (sampleSnapshot codec document rawBodyHash) document :=
  ⟨rfl, rfl, rfl, rfl, hkind, rfl, hnonzero, rfl, hdistinct, hnamed⟩

def sampleCourse (sessions : List String) : CourseDetail where
  courseID := "c"
  name := "Course"
  status := .active
  sessions := sessions.map fun id => { sessionID := id }

def sampleCatalog (courses : List String) : List CourseSummary :=
  courses.map fun id => { courseID := id, name := "Course", status := .active }

def courseRef : TargetRef := { host := "h", kind := .courseDetail, resourceKey := "c" }

def catalogRef : TargetRef := { host := "h", kind := .courseCatalog, resourceKey := "all" }

def threeSessions : Document := .course (sampleCourse ["1", "2", "3"])
def courseStore : Store := sampleStore sampleCodec courseRef threeSessions none
def courseRow : TargetRow := sampleRow sampleCodec courseRef threeSessions
def courseSnapshot : SnapshotRow := sampleSnapshot sampleCodec threeSessions none
def emptyCourse : RunEnv := sampleFetch (.course (sampleCourse [])) hour

def threeCourses : Document := .catalog (sampleCatalog ["1", "2", "3"])
def catalogStore : Store := sampleStore sampleCodec catalogRef threeCourses none
def catalogRow : TargetRow := sampleRow sampleCodec catalogRef threeCourses
def catalogSnapshot : SnapshotRow := sampleSnapshot sampleCodec threeCourses none
def emptyCatalog : RunEnv := sampleFetch (.courses []) hour

theorem courseRun_suspicious :
    SuspiciousRun sampleConfig courseStore courseRow courseSnapshot threeSessions (.course (sampleCourse []))
      emptyCourse 1 0 where
  sound := ⟨by decide +kernel, by decide +kernel, by unfold TargetRow.Counted; decide +kernel⟩
  publication := sampleStore_published rfl (by decide +kernel) (by decide +kernel) (by decide +kernel) none
  active := rfl
  readable := ⟨rfl, isOk_iff.mp (by decide +kernel)⟩
  running := rfl
  fetched := rfl
  typed := rfl
  canonical := ⟨.course (sampleCourse []), by decide +kernel⟩
  valid := isOk_iff.mp (by decide +kernel)
  differs := by decide +kernel
  drop := by decide +kernel

theorem catalogRun_suspicious :
    SuspiciousRun sampleConfig catalogStore catalogRow catalogSnapshot threeCourses (.catalog []) emptyCatalog 1 0 where
  sound := ⟨by decide +kernel, by decide +kernel, by unfold TargetRow.Counted; decide +kernel⟩
  publication := sampleStore_published rfl (by decide +kernel) (by decide +kernel) (by decide +kernel) none
  active := rfl
  readable := ⟨rfl, isOk_iff.mp (by decide +kernel)⟩
  running := rfl
  fetched := rfl
  typed := rfl
  canonical := ⟨.catalog [], by decide +kernel⟩
  valid := isOk_iff.mp (by decide +kernel)
  differs := by decide +kernel
  drop := by decide +kernel

theorem changeGuarded_iff_catalogRun :
    SuspiciousRun sampleConfig catalogStore catalogRow catalogSnapshot threeCourses (.catalog []) emptyCatalog 1 0 ∧
    ChangeGuarded sampleConfig catalogStore catalogRow emptyCatalog 1 0 :=
  ⟨catalogRun_suspicious,
    (changeGuarded_iff catalogRun_suspicious).mpr ⟨.inl rfl, by decide +kernel⟩⟩

theorem courseRun_unguarded :
    SuspiciousRun sampleConfig courseStore courseRow courseSnapshot threeSessions (.course (sampleCourse []))
      emptyCourse 1 0 ∧
    ¬ ChangeGuarded sampleConfig courseStore courseRow emptyCourse 1 0 ∧
    ((runClaimed sampleConfig (fun _ => 0) courseStore (scanScrapeTarget courseRow) emptyCourse
      ⟨⟨hour, hour, hour⟩, hour, hour⟩).1.target? 1).map TargetRow.currentVersion = some 2 :=
  ⟨courseRun_suspicious, courseRun_suspicious.uncounted_unguarded (by decide +kernel) (by decide +kernel),
    by decide +kernel⟩

end QrCommandCenter.Scraper
