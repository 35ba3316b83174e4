import QrCommandCenter.Scraper.Policy
import QrCommandCenter.Service.Resume
import QrCommandCenter.Store.Listing

/-!
# Snapshot messages in the browser

`web/src/shared/realtime/snapshot-events.ts` and the schema of `websocket-client.ts`: the browser parses a whole WebSocket
message before it looks at any of it, and keeps the highest version it was told for each target.

* `snapshotMetadataSchema`, `eventSchema` : which messages are parsed;
* `applySnapshotStateSync`, `acceptSnapshotCommitted`, `handleSnapshots` : what a parsed message records;
* `Origin`, `emitted` : the three ways in which the server produces a message;
* `Taken` : the message is parsed, and the versions it carries are recorded;
* `taken_iff` : in every reachable state, a state sync is taken exactly when no student profiles are published, a
  notification exactly when it is of another kind, and a replayed outbox event never.
-/

namespace QrCommandCenter.Web
open Domain Table Transition

variable {metadata item : SnapshotMetadata} {s : Store}

/-! ## The client -/

/-- `Number.MAX_SAFE_INTEGER`, the bound of `z.number().int()`. -/
def maxSafeInteger : Int := 9007199254740991

def knownKind : SnapshotKind → Bool
  | .courseCatalog => true
  | .courseDetail => true
  | .sessionDetail => true
  | _ => false

/-- `snapshotMetadataSchema`; the server always encodes the parent key. -/
def snapshotMetadataSchema (metadata : SnapshotMetadata) : Bool :=
  knownKind metadata.kind && 1 ≤ metadata.resourceKey.length && 0 < metadata.version && metadata.version ≤ maxSafeInteger

inductive Message where
  | snapshotStateSync (items : List SnapshotMetadata)
  | snapshotCommitted (metadata : SnapshotMetadata)
deriving DecidableEq, Repr

def Message.items : Message → List SnapshotMetadata
  | .snapshotStateSync items => items
  | .snapshotCommitted metadata => [metadata]

/-- `eventSchema`: one item that is not parsed discards the message. -/
def eventSchema (message : Message) : Bool := message.items.all snapshotMetadataSchema

/-- The `snapshotVersions` map; a target without an entry has version 0. -/
abbrev Versions := String → Int

def snapshotVersionKey (metadata : SnapshotMetadata) : String :=
  metadata.kind.text ++ "\x00" ++ metadata.parentKey ++ "\x00" ++ metadata.resourceKey

section
variable (versions : Versions)

/-- The step of both handlers: a higher version replaces the recorded one. -/
def record (metadata : SnapshotMetadata) : Versions :=
  if versions (snapshotVersionKey metadata) < metadata.version then
    Function.update versions (snapshotVersionKey metadata) metadata.version
  else versions

def applySnapshotStateSync (items : List SnapshotMetadata) : Versions := items.foldl record versions

/-- `acceptSnapshotCommitted`, with whether the version is a new one. -/
def acceptSnapshotCommitted (metadata : SnapshotMetadata) : Versions × Bool :=
  if metadata.version ≤ versions (snapshotVersionKey metadata) then (versions, false)
  else (Function.update versions (snapshotVersionKey metadata) metadata.version, true)

/-- What `#handleMessage` does to the versions. -/
def handleSnapshots (message : Message) : Versions :=
  if eventSchema message then
    match message with
    | .snapshotStateSync items => applySnapshotStateSync versions items
    | .snapshotCommitted metadata => (acceptSnapshotCommitted versions metadata).1
  else versions

end

/-! ## What is recorded -/

theorem record_of_le {versions : Versions} (h : metadata.version ≤ versions (snapshotVersionKey metadata)) :
    record versions metadata = versions :=
  if_neg (not_lt.mpr h)

theorem record_of_lt {versions : Versions} (h : versions (snapshotVersionKey metadata) < metadata.version) :
    record versions metadata = Function.update versions (snapshotVersionKey metadata) metadata.version := if_pos h

section
variable (versions : Versions) (metadata : SnapshotMetadata)

theorem acceptSnapshotCommitted_fst : (acceptSnapshotCommitted versions metadata).1 = record versions metadata := by
  unfold acceptSnapshotCommitted
  split
  · rename_i h
    exact (record_of_le h).symm
  · rename_i h
    exact (record_of_lt (not_le.mp h)).symm

theorem le_record (key : String) : versions key ≤ record versions metadata key := by
  unfold record
  split
  · rename_i h
    by_cases hkey : key = snapshotVersionKey metadata
    · rw [hkey, Function.update_self]
      exact le_of_lt h
    · rw [Function.update_of_ne hkey]
  · exact le_rfl

theorem version_le_record : metadata.version ≤ record versions metadata (snapshotVersionKey metadata) := by
  unfold record
  split
  · rw [Function.update_self]
  · rename_i h
    exact not_lt.mp h

end

section
variable (versions : Versions)

theorem le_applySnapshotStateSync (items : List SnapshotMetadata) (key : String) :
    versions key ≤ applySnapshotStateSync versions items key := by
  induction items generalizing versions with
  | nil => exact le_rfl
  | cons item rest ih => exact (le_record versions item key).trans (ih (record versions item))

theorem version_le_applySnapshotStateSync {items : List SnapshotMetadata} (h : item ∈ items) :
    item.version ≤ applySnapshotStateSync versions items (snapshotVersionKey item) := by
  induction items generalizing versions with
  | nil => cases h
  | cons first rest ih =>
    rcases List.mem_cons.mp h with rfl | h
    · exact (version_le_record versions item).trans (le_applySnapshotStateSync _ rest _)
    · exact ih (record versions first) h

theorem record_cases (metadata : SnapshotMetadata) (key : String) : record versions metadata key = versions key ∨
      snapshotVersionKey metadata = key ∧ record versions metadata key = metadata.version := by
  unfold record
  split
  · by_cases hkey : key = snapshotVersionKey metadata
    · exact .inr ⟨hkey.symm, by rw [hkey, Function.update_self]⟩
    · exact .inl (Function.update_of_ne hkey _ _)
  · exact .inl rfl

theorem applySnapshotStateSync_cases (items : List SnapshotMetadata) (key : String) :
    applySnapshotStateSync versions items key = versions key ∨
      ∃ item ∈ items, snapshotVersionKey item = key ∧ applySnapshotStateSync versions items key = item.version := by
  induction items generalizing versions with
  | nil => exact .inl rfl
  | cons first rest ih =>
    show applySnapshotStateSync (record versions first) rest key = _ ∨ _
    rcases ih (record versions first) with hrest | ⟨item, hitem, hkey, hversion⟩
    · rcases record_cases versions first key with hfirst | ⟨hkey, hfirst⟩
      · exact .inl (hrest.trans hfirst)
      · exact .inr ⟨first, List.mem_cons_self, hkey, hrest.trans hfirst⟩
    · exact .inr ⟨item, List.mem_cons_of_mem first hitem, hkey, hversion⟩

theorem handleSnapshots_cases (message : Message) (key : String) :
    handleSnapshots versions message key = versions key ∨ eventSchema message = true ∧
      ∃ item ∈ message.items, snapshotVersionKey item = key ∧ handleSnapshots versions message key = item.version := by
  unfold handleSnapshots
  split
  · rename_i hparsed
    cases message with
    | snapshotStateSync items =>
      exact (applySnapshotStateSync_cases versions items key).imp_right fun hitem => ⟨hparsed, hitem⟩
    | snapshotCommitted metadata =>
      simp only [acceptSnapshotCommitted_fst]
      refine (record_cases versions metadata key).imp_right fun hitem => ?_
      exact ⟨hparsed, metadata, List.mem_singleton_self metadata, hitem⟩
  · exact .inl rfl

theorem version_le_handleSnapshots {message : Message} (hparsed : eventSchema message = true)
    (hitem : item ∈ message.items) :
    item.version ≤ handleSnapshots versions message (snapshotVersionKey item) := by
  unfold handleSnapshots
  rw [if_pos hparsed]
  cases message with
  | snapshotStateSync items => exact version_le_applySnapshotStateSync versions hitem
  | snapshotCommitted metadata =>
    rw [List.mem_singleton.mp hitem]
    show metadata.version ≤ (acceptSnapshotCommitted versions metadata).1 _
    rw [acceptSnapshotCommitted_fst]
    exact version_le_record versions metadata

end

def Taken (versions : Versions) (message : Message) : Prop :=
  eventSchema message = true ∧
    ∀ item ∈ message.items, item.version ≤ handleSnapshots versions message (snapshotVersionKey item)

theorem taken_iff_parsed (versions : Versions) (message : Message) :
    Taken versions message ↔ ∀ item ∈ message.items, snapshotMetadataSchema item = true := by
  constructor
  · rintro ⟨hparsed, -⟩
    exact List.all_eq_true.mp hparsed
  · intro hitems
    have hparsed : eventSchema message = true := List.all_eq_true.mpr hitems
    exact ⟨hparsed, fun item hitem => version_le_handleSnapshots versions hparsed hitem⟩

/-! ## The server -/

/-- How a message comes about: `ListMetadata` for a new connection, the notification of a commit, or an outbox event
that a listener catches up with. -/
inductive Origin where
  | stateSync (now : Time)
  | notification (clocks : CommitClocks) (input : CommitInput) (eventSequence : Int)
  | outbox (event : CommitEvent) (eventSequence : Int)

def notified (notificationLength : SnapshotMetadata → Nat) (s : Store) (clocks : CommitClocks) (input : CommitInput) :
    Option SnapshotMetadata :=
  if (s.run? input.targetID input.leaseGeneration).isSome then none
  else match s.commit notificationLength clocks input with
    | .ok (_, result) => result.metadata
    | .error _ => none

def emitted (notificationLength : SnapshotMetadata → Nat) (s : Store) : Origin → Option Message
  | .stateSync now =>
    match s.listMetadata now with
    | .ok items => some (.snapshotStateSync items)
    | .error _ => none
  | .notification clocks input eventSequence =>
    (notified notificationLength s clocks input).map fun metadata =>
      .snapshotCommitted { metadata with eventSequence := eventSequence }
  | .outbox event eventSequence =>
    if event ∈ s.events ∧ event.targetKind.valid then
      some (.snapshotCommitted { kind := event.targetKind, version := event.snapshotVersion, eventSequence := eventSequence })
    else none

theorem replayEvents_emitted (l : Service.Listener) (maxSequence : Int) (events : List CommitEvent) :
    ∀ event ∈ (Service.replayEvents l maxSequence events).1.published, event ∈ l.published ∨
      ∃ e ∈ events, e.targetKind.valid = true ∧ ∃ eventSequence,
        event = { kind := e.targetKind, version := e.snapshotVersion, eventSequence := eventSequence } := by
  induction events generalizing l maxSequence with
  | nil => exact fun event hevent => .inl hevent
  | cons first rest ih =>
    intro event hevent
    unfold Service.replayEvents at hevent
    split at hevent
    · rcases ih _ _ event hevent with hold | ⟨e, he, hrest⟩
      · exact .inl hold
      · exact .inr ⟨e, List.mem_cons_of_mem first he, hrest⟩
    · rename_i hvalid
      rcases ih _ _ event hevent with hold | ⟨e, he, hrest⟩
      · unfold Service.Listener.observe at hold
        simp only [if_true] at hold
        split at hold
        · exact .inl hold
        · rcases List.mem_append.mp hold with hold | hnew
          · exact .inl hold
          · exact .inr ⟨first, List.mem_cons_self, by simpa using hvalid, _, List.mem_singleton.mp hnew⟩
      · exact .inr ⟨e, List.mem_cons_of_mem first he, hrest⟩

/-- The condition on the state and the origin of a message. -/
def Deliverable (s : Store) : Origin → Prop
  | .stateSync _ => ∀ p ∈ s.publishedTargets, p.1.ref.kind ≠ .studentProfiles ∧ p.1.currentVersion ≤ maxSafeInteger
  | .notification _ input _ => ∀ t, s.target? input.targetID = some t →
    t.ref.kind ≠ .studentProfiles ∧ t.currentVersion < maxSafeInteger
  | .outbox _ _ => False

/-- What holds of the targets of every reachable store. -/
structure NamedStore (s : Store) : Prop where
  wellFormed : s.WellFormed
  named : s.Named

theorem namedStore_exec (len : SnapshotMetadata → Nat) (s : Store) (op : Op) (h : NamedStore s) :
    NamedStore (s.exec len op).1 :=
  ⟨Store.exec_wellFormed len s op h.wellFormed, Store.exec_named len h.wellFormed h.named op⟩

theorem namedStore_final (len : SnapshotMetadata → Nat) (ops : List Op) :
    NamedStore (final (Store.exec len) {} ops) :=
  final_inv (namedStore_exec len) ⟨Store.wellFormed_empty, Store.named_empty⟩ ops

theorem knownKind_iff {kind : SnapshotKind} (hvalid : kind.valid = true) :
    knownKind kind = true ↔ kind ≠ .studentProfiles := by
  cases kind with
  | other text => cases hvalid
  | _ => decide

theorem schema_iff (h : NamedStore s) {t : TargetRow} (ht : t ∈ s.targets) (hkind : item.kind = t.ref.kind)
    (hkey : item.resourceKey = t.ref.resourceKey) (hpositive : 0 < item.version) :
    snapshotMetadataSchema item = true ↔ t.ref.kind ≠ .studentProfiles ∧ item.version ≤ maxSafeInteger := by
  have hvalid : t.ref.kind.valid = true := by
    have hchecks := h.wellFormed.sound.checked t ht
    simp only [TargetRow.checks, Bool.and_eq_true] at hchecks
    obtain ⟨⟨⟨⟨⟨⟨⟨⟨⟨⟨⟨⟨⟨⟨⟨hvalid, -⟩, -⟩, -⟩, -⟩, -⟩, -⟩, -⟩, -⟩, -⟩, -⟩, -⟩, -⟩, -⟩, -⟩, -⟩ := hchecks
    exact hvalid
  have hlength : 1 ≤ t.ref.resourceKey.length := by
    rw [Nat.one_le_iff_ne_zero, ne_eq, String.length_eq_zero_iff]
    exact h.named.resourceKey ht
  unfold snapshotMetadataSchema
  rw [hkind, hkey, Bool.and_eq_true, Bool.and_eq_true, Bool.and_eq_true, knownKind_iff hvalid]
  simp only [decide_eq_true_eq, hlength, hpositive, and_true]

/-- The columns of a published version are positive. -/
theorem published_version (h : NamedStore s) {t : TargetRow} (ht : t ∈ s.targets) :
    0 ≤ t.currentVersion ∧ (t.currentSnapshotId ≠ none → 0 < t.currentVersion) := by
  have hchecks := h.wellFormed.sound.checked t ht
  simp only [TargetRow.checks, Bool.and_eq_true, Bool.or_eq_true, decide_eq_true_eq] at hchecks
  obtain ⟨⟨⟨⟨⟨⟨-, hnonneg⟩, -⟩, -⟩, hpointer⟩, -⟩, -⟩ := hchecks
  refine ⟨hnonneg, fun hpublished => ?_⟩
  rcases hpointer with ⟨⟨hnone, -⟩, -⟩ | ⟨⟨-, hpositive⟩, -⟩
  · exact absurd (Option.isNone_iff_eq_none.mp hnone) hpublished
  · exact hpositive

theorem stateSync_taken_iff (h : NamedStore s) {now : Time} {items : List SnapshotMetadata}
    (hitems : s.listMetadata now = .ok items) :
    (∀ item ∈ items, snapshotMetadataSchema item = true) ↔ Deliverable s (.stateSync now) := by
  obtain ⟨hfrom, hto⟩ := Store.mapM_mem hitems
  have hschema : ∀ p ∈ s.publishedTargets, ∀ item, Store.scanMetadata now p.1 p.2 = .ok item →
      (snapshotMetadataSchema item = true ↔
        p.1.ref.kind ≠ .studentProfiles ∧ p.1.currentVersion ≤ maxSafeInteger) := by
    intro p hp item hscan
    obtain ⟨ht, id, hid⟩ := Store.mem_publishedTargets hp
    have hlists := Store.scanMetadata_lists hscan
    have hpositive := (published_version h ht).2 (by rw [hid]; exact Option.some_ne_none id)
    rw [schema_iff h ht hlists.kind hlists.resourceKey (by rw [hlists.version]; exact hpositive), hlists.version]
  constructor
  · intro hparsed p hp
    obtain ⟨item, hitem, hscan⟩ := hto p hp
    exact (hschema p hp item hscan).mp (hparsed item hitem)
  · intro hdeliverable item hitem
    obtain ⟨p, hp, hscan⟩ := hfrom item hitem
    exact (hschema p hp item hscan).mpr (hdeliverable p hp)

theorem notification_taken_iff {len : SnapshotMetadata → Nat} (h : NamedStore s)
    {clocks : CommitClocks} {input : CommitInput} (eventSequence : Int)
    (hnotified : notified len s clocks input = some metadata) :
    snapshotMetadataSchema { metadata with eventSequence := eventSequence } = true ↔
      Deliverable s (.notification clocks input eventSequence) := by
  unfold notified at hnotified
  split at hnotified
  · cases hnotified
  rename_i hunrecorded
  split at hnotified
  · rename_i s' result hcommit
    obtain ⟨t, ht, hmetadata⟩ :=
      Store.commit_metadata hcommit (Option.not_isSome_iff_eq_none.mp hunrecorded) hnotified
    have hmem := (lookup_mem ht).1
    have hversion : metadata.version = t.currentVersion + 1 := by rw [hmetadata]; rfl
    have hnonneg := (published_version h hmem).1
    rw [schema_iff h hmem (by rw [hmetadata]; rfl) (by rw [hmetadata]; rfl) (by show 0 < metadata.version; omega)]
    show _ ∧ metadata.version ≤ maxSafeInteger ↔ _
    rw [hversion]
    constructor
    · rintro ⟨hkind, hle⟩ t' ht'
      rw [ht] at ht'
      cases ht'
      exact ⟨hkind, hle⟩
    · intro hdeliverable
      exact hdeliverable t ht
  · cases hnotified

/-- **Which messages are taken**: a state sync exactly when no student profiles are published, a notification exactly
when it is not of them, an outbox event never; and versions have to be safe integers. -/
theorem taken_iff (notificationLength : SnapshotMetadata → Nat) (ops : List Op) (origin : Origin) (message : Message)
    (h : emitted notificationLength (final (Store.exec notificationLength) {} ops) origin = some message)
    (versions : Versions) :
    Taken versions message ↔ Deliverable (final (Store.exec notificationLength) {} ops) origin := by
  have hstore := namedStore_final notificationLength ops
  generalize final (Store.exec notificationLength) {} ops = s at h hstore
  rw [taken_iff_parsed]
  cases origin with
  | stateSync now =>
    simp only [emitted] at h
    split at h
    · rename_i items hitems
      cases h
      exact stateSync_taken_iff hstore hitems
    · cases h
  | notification clocks input eventSequence =>
    obtain ⟨metadata, hmetadata, heq⟩ := Option.map_eq_some_iff.mp h
    cases heq
    rw [← notification_taken_iff hstore eventSequence hmetadata]
    exact List.forall_mem_singleton
  | outbox event eventSequence =>
    simp only [emitted] at h
    split at h
    · cases h
      refine ⟨fun hparsed => ?_, fun hdeliverable => hdeliverable.elim⟩
      -- the event names no target, and the schema wants a key
      have hschema := hparsed _ (List.mem_singleton_self _)
      simp [snapshotMetadataSchema] at hschema
    · cases h

/-! ## The root targets -/

/-- `rootSnapshotSeeds` of `internal/app/bootstrap.go`. -/
def rootSnapshotSeeds (host : String) (now : Time) : List TargetSeed :=
  [{ host := host, kind := .courseCatalog, resourceKey := "catalog" },
    { host := host, kind := .studentProfiles, resourceKey := "profiles" }].map fun ref : TargetRef =>
    let policy := Scraper.policyFor ref.kind (.other "")
    { ref := ref
      attributes := .empty
      initialInterval := policy.initial
      minInterval := policy.min
      maxInterval := policy.max
      maxServeAge := policy.maxServeAge
      nextRunAt := now }

def rootCommit (targetID : Int) (document : Document) : Op :=
  .commit ⟨hour, hour, hour⟩ { Service.firstCommit with targetID := targetID, payload := .document document }

def claimRoot (kind : SnapshotKind) (resourceKey : String) : Op :=
  .claimOne [] { ref := { host := "h", kind := kind, resourceKey := resourceKey }, now := second, workerID := "a",
                 leaseDuration := hour }

def catalogOps : List Op :=
  [.seedHost second { host := "h", baselineRequestsPerSecond := 1, burst := 1, baselineConcurrency := 1, now := second },
    .seed second (rootSnapshotSeeds "h" second), claimRoot .courseCatalog "catalog", rootCommit 1 (.catalog [])]

def profilesOps : List Op := catalogOps ++ [claimRoot .studentProfiles "profiles", rootCommit 2 (.profiles [])]

theorem taken_iff_catalog :
    ∃ message, emitted (fun _ => 0) (final (Store.exec fun _ => 0) {} catalogOps) (.stateSync hour) = some message ∧
      message.items ≠ [] ∧ Taken (fun _ => 0) message := by
  obtain ⟨message, hmessage⟩ :
      ∃ message, emitted (fun _ => 0) (final (Store.exec fun _ => 0) {} catalogOps) (.stateSync hour) = some message :=
    Option.isSome_iff_exists.mp (by decide +kernel)
  have hitems : (emitted (fun _ => 0) (final (Store.exec fun _ => 0) {} catalogOps) (.stateSync hour)).all
      (fun message => message.items ≠ []) = true := by decide +kernel
  rw [hmessage, Option.all_some, decide_eq_true_eq] at hitems
  have hdeliverable : ∀ p ∈ (final (Store.exec fun _ => 0) {} catalogOps).publishedTargets,
      p.1.ref.kind ≠ .studentProfiles ∧ p.1.currentVersion ≤ maxSafeInteger := by decide +kernel
  exact ⟨message, hmessage, hitems,
    (taken_iff (fun _ => 0) catalogOps (.stateSync hour) message hmessage (fun _ => 0)).mpr hdeliverable⟩

theorem discarded (s : Store) (origin : Origin) (p : Message → Bool)
    (h : (emitted (fun _ => 0) s origin).any (fun message => p message && !eventSchema message) = true) :
    ∃ message, emitted (fun _ => 0) s origin = some message ∧ p message = true ∧ ¬ Taken (fun _ => 0) message := by
  obtain ⟨message, hmessage, hfacts⟩ := (Option.any_eq_true _ _).mp h
  rw [Bool.and_eq_true, Bool.not_eq_true'] at hfacts
  refine ⟨message, hmessage, hfacts.1, ?_⟩
  rintro ⟨hparsed, -⟩
  rw [hfacts.2] at hparsed
  cases hparsed

/-- **With both root targets published a state sync is discarded**, the catalog's version with it, and so are profile
notifications and replayed outbox events. -/
theorem profiles_discarded :
    (∃ message, emitted (fun _ => 0) (final (Store.exec fun _ => 0) {} profilesOps) (.stateSync hour) = some message ∧
      (∃ item ∈ message.items, item.kind = .courseCatalog) ∧ ¬ Taken (fun _ => 0) message) ∧
    (∃ message, emitted (fun _ => 0) (final (Store.exec fun _ => 0) {} (profilesOps.take 5))
      (.notification ⟨hour, hour, hour⟩
        { Service.firstCommit with targetID := 2, payload := .document (.profiles []) } 1) = some message ∧
      ¬ Taken (fun _ => 0) message) ∧
    ∃ message, emitted (fun _ => 0) (final (Store.exec fun _ => 0) {} catalogOps)
      (.outbox ⟨1, 1, 1, 1, .courseCatalog, hour⟩ 1) = some message ∧ ¬ Taken (fun _ => 0) message := by
  refine ⟨?_, ?_, ?_⟩
  · obtain ⟨message, hmessage, hcatalog, htaken⟩ :=
      discarded (final (Store.exec fun _ => 0) {} profilesOps) (.stateSync hour)
        (fun message => message.items.any fun item => item.kind = .courseCatalog) (by decide +kernel)
    obtain ⟨item, hitem, hkind⟩ := List.any_eq_true.mp hcatalog
    exact ⟨message, hmessage, ⟨item, hitem, of_decide_eq_true hkind⟩, htaken⟩
  · obtain ⟨message, hmessage, -, htaken⟩ := discarded (final (Store.exec fun _ => 0) {} (profilesOps.take 5))
      (.notification ⟨hour, hour, hour⟩
        { Service.firstCommit with targetID := 2, payload := .document (.profiles []) } 1) (fun _ => true) (by decide +kernel)
    exact ⟨message, hmessage, htaken⟩
  · obtain ⟨message, hmessage, -, htaken⟩ := discarded (final (Store.exec fun _ => 0) {} catalogOps)
      (.outbox ⟨1, 1, 1, 1, .courseCatalog, hour⟩ 1) (fun _ => true) (by decide +kernel)
    exact ⟨message, hmessage, htaken⟩

end QrCommandCenter.Web
