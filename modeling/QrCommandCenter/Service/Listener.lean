import Mathlib.Logic.Function.Basic
import QrCommandCenter.Store.System

/-!
# The snapshot notification listener

`internal/service/snapshot_notification_listener.go`: the bridge from the commits of the store to the event hub of one
process. It replays the outbox from a durable checkpoint when it connects and after every notification.

* `Listener`, `observe` : the versions a process has observed, and what it has published;
* `Faults` : the store calls that fail;
* `processMissedEvents`, `catchUp`, `catchUpFromCheckpoint`, `reconcile`, `handlePayload`;
* `replayEvents_published`, `replayEvents_snd` : what a replay publishes, and the sequence it reaches;
* `processMissedEvents_ok` : what a catch-up that returns nil has done.
-/

namespace QrCommandCenter.Service
open Domain Table

def snapshotNotificationPayloadLimit : Nat := 8 * 1024
def snapshotNotificationCatchUpBatchSize : Int := 500
def snapshotNotificationConsumerName : String := "snapshot-websocket"

/-! ## Observed versions -/

def snapshotMetadataKey (metadata : SnapshotMetadata) : String :=
  metadata.kind.text ++ "\x00" ++ metadata.parentKey ++ "\x00" ++ metadata.resourceKey

def targetKey (ref : TargetRef) : String :=
  snapshotMetadataKey { kind := ref.kind, parentKey := ref.parentKey, resourceKey := ref.resourceKey, version := 0 }

/-- `SnapshotNotificationListener`: its memory, and the `SnapshotCommitted` events it has given to the hub. -/
structure Listener where
  /-- Whether there is a `CommitEventStore`. -/
  eventStore : Bool := true
  versions : String → Int := fun _ => 0
  initialized : Bool := false
  ready : Bool := false
  eventSeq : Int := 0
  published : List SnapshotMetadata := []

def Listener.observe (l : Listener) (metadata : SnapshotMetadata) (publish : Bool) : Listener :=
  let key := snapshotMetadataKey metadata
  if metadata.version ≤ l.versions key then l
  else
    let l' := { l with versions := Function.update l.versions key metadata.version }
    if publish then
      { l' with
        eventSeq := l.eventSeq + 1
        published := l.published ++ [{ metadata with eventSequence := l.eventSeq + 1 }] }
    else l'

/-! ## Replay -/

/-- The store calls that fail, each with the text of its error. -/
structure Faults where
  getListenerCheckpoint : Option String := none
  updateListenerCheckpoint : Option String := none
  missedEvents : Option String := none
  compactedMissedEvents : Option String := none
  listMetadata : Option String := none
deriving DecidableEq, Repr

/-- The events of one catch-up: compacted, or all of them when the compacted query fails. -/
def queryMissedEvents (s : Store) (faults : Faults) (afterSequence limit : Int) : Except String (List CommitEvent) :=
  match faults.compactedMissedEvents with
  | none => .ok (s.compactedMissedEvents afterSequence limit)
  | some _ =>
    match faults.missedEvents with
    | none => .ok (s.missedEvents afterSequence limit)
    | some text => .error ("query missed events: " ++ text)

/-- The loop of `processMissedEvents` over the events, with the highest sequence so far. -/
def replayEvents (l : Listener) (maxSequence : Int) : List CommitEvent → Listener × Int
  | [] => (l, maxSequence)
  | event :: rest =>
    if !event.targetKind.valid then replayEvents l maxSequence rest
    else replayEvents (l.observe { kind := event.targetKind, version := event.snapshotVersion } true)
      (if maxSequence < event.sequence then event.sequence else maxSequence) rest

/-- `processMissedEvents`, with any batch size. -/
def processMissedEvents (limit : Int) (s : Store) (l : Listener) (faults : Faults) (afterSequence : Int) :
    Store × Listener × Except String Unit :=
  if !l.eventStore then (s, l, .ok ())
  else
    match queryMissedEvents s faults afterSequence limit with
    | .error text => (s, l, .error text)
    | .ok events =>
      let after := replayEvents l 0 events
      if 0 < after.2 then
        match faults.updateListenerCheckpoint with
        | some text => (s, after.1, .error ("update listener checkpoint: " ++ text))
        | none => (s.updateListenerCheckpoint snapshotNotificationConsumerName after.2, after.1, .ok ())
      else (s, after.1, .ok ())

/-! ## Catching up -/

/-- `reconcile`; `metadata` is what `ListMetadata` returns. -/
def reconcile (l : Listener) (faults : Faults) (metadata : List SnapshotMetadata) : Listener × Except String Unit :=
  match faults.listMetadata with
  | some text => (l, .error ("reconcile snapshot metadata: " ++ text))
  | none => (metadata.foldl (fun l' item => l'.observe item l.initialized) l, .ok ())

section
variable (s : Store) (l : Listener) (faults : Faults)

/-- The second half of `catchUp`: a full reconciliation. -/
def catchUpFromMetadata (metadata : List SnapshotMetadata) :
    Store × Listener × Except String Unit :=
  match reconcile l faults metadata with
  | (l', .error text) => (s, l', .error text)
  | (l', .ok ()) => (s, { l' with initialized := true, ready := true }, .ok ())

def catchUp (metadata : List SnapshotMetadata) :
    Store × Listener × Except String Unit :=
  if l.eventStore then
    match faults.getListenerCheckpoint with
    | some text => (s, l, .error ("read listener checkpoint: " ++ text))
    | none =>
      let checkpoint := s.getListenerCheckpoint snapshotNotificationConsumerName
      if 0 < checkpoint then
        match processMissedEvents snapshotNotificationCatchUpBatchSize s l faults checkpoint with
        | (s', l', .error text) => (s', l', .error ("catch up missed events: " ++ text))
        | (s', l', .ok ()) => (s', { l' with initialized := true, ready := true }, .ok ())
      else catchUpFromMetadata s l faults metadata
  else catchUpFromMetadata s l faults metadata

def catchUpFromCheckpoint : Store × Listener × Except String Unit :=
  if !l.eventStore then (s, l, .ok ())
  else
    match faults.getListenerCheckpoint with
    | some text => (s, l, .error ("read listener checkpoint for catch-up: " ++ text))
    | none =>
      let checkpoint := s.getListenerCheckpoint snapshotNotificationConsumerName
      if checkpoint = 0 then (s, l, .ok ())
      else processMissedEvents snapshotNotificationCatchUpBatchSize s l faults checkpoint

end

/-! ## Notifications -/

/-- The payload of a notification: its length in bytes, and what it decodes to. -/
structure Payload where
  length : Nat := 0
  decoded : Except String SnapshotMetadata

def handlePayload (l : Listener) (payload : Payload) : Listener × Except String Unit :=
  if snapshotNotificationPayloadLimit < payload.length then (l, .error "snapshot notification exceeds 8 KiB")
  else
    match payload.decoded with
    | .error text => (l, .error ("decode snapshot notification: " ++ text))
    | .ok metadata =>
      if !metadata.kind.valid || metadata.resourceKey = "" || metadata.version ≤ 0 || metadata.validationSeq ≤ 0 ||
          isZeroTime metadata.validatedAt then (l, .error "invalid snapshot notification metadata")
      else (l.observe metadata true, .ok ())

/-! ## What a replay does -/

theorem observe_published (l : Listener) (metadata : SnapshotMetadata) (publish : Bool) :
    ∃ events, (l.observe metadata publish).published = l.published ++ events ∧
      ∀ event ∈ events, { event with eventSequence := metadata.eventSequence } = metadata := by
  unfold Listener.observe
  simp only
  split
  · exact ⟨[], (List.append_nil _).symm, List.forall_mem_nil _⟩
  · split
    · refine ⟨_, rfl, fun event hevent => ?_⟩
      rw [List.mem_singleton.mp hevent]
    · exact ⟨[], (List.append_nil _).symm, List.forall_mem_nil _⟩

/-- A replay publishes events that name no target: their parent key and resource key are empty. -/
theorem replayEvents_published (l : Listener) (maxSequence : Int) (events : List CommitEvent) :
    ∃ new, (replayEvents l maxSequence events).1.published = l.published ++ new ∧
      ∀ event ∈ new, event.parentKey = "" ∧ event.resourceKey = "" := by
  induction events generalizing l maxSequence with
  | nil => exact ⟨[], (List.append_nil _).symm, List.forall_mem_nil _⟩
  | cons event rest ih =>
    unfold replayEvents
    split
    · exact ih l maxSequence
    · obtain ⟨first, hfirst, hfirstKeys⟩ :=
        observe_published l { kind := event.targetKind, version := event.snapshotVersion } true
      obtain ⟨new, hnew, hnewKeys⟩ :=
        ih (l.observe { kind := event.targetKind, version := event.snapshotVersion } true)
          (if maxSequence < event.sequence then event.sequence else maxSequence)
      refine ⟨first ++ new, by rw [hnew, hfirst, List.append_assoc], ?_⟩
      intro x hx
      rcases List.mem_append.mp hx with hx | hx
      · have hsame := hfirstKeys x hx
        simp only [SnapshotMetadata.mk.injEq] at hsame
        exact ⟨hsame.2.2.1, hsame.2.1⟩
      · exact hnewKeys x hx

/-- The highest sequence of the events of valid kinds, from `start` on. -/
def lastSequence (start : Int) (events : List CommitEvent) : Int :=
  (events.filter fun event => event.targetKind.valid).foldl (fun m event => max m event.sequence) start

theorem lastSequence_cons (start : Int) (event : CommitEvent) (rest : List CommitEvent) :
    lastSequence start (event :: rest) =
      lastSequence (if event.targetKind.valid then max start event.sequence else start) rest := by
  unfold lastSequence
  rw [List.filter_cons]
  split <;> rfl

theorem replayEvents_snd (l : Listener) (start : Int) (events : List CommitEvent) :
    (replayEvents l start events).2 = lastSequence start events := by
  induction events generalizing l start with
  | nil => rfl
  | cons event rest ih =>
    unfold replayEvents
    rw [lastSequence_cons]
    split
    · rename_i hinvalid
      have hkind : ¬ event.targetKind.valid = true := by simpa using hinvalid
      rw [ih, if_neg hkind]
    · rename_i hvalid
      have hkind : event.targetKind.valid = true := by simpa using hvalid
      have hmax : (if start < event.sequence then event.sequence else start) = max start event.sequence := by
        split <;> omega
      rw [ih, if_pos hkind, hmax]

theorem lastSequence_mem (start : Int) (events : List CommitEvent) :
    lastSequence start events = start ∨ ∃ event ∈ events, lastSequence start events = event.sequence := by
  induction events generalizing start with
  | nil => exact .inl rfl
  | cons event rest ih =>
    rw [lastSequence_cons]
    rcases ih (if event.targetKind.valid then max start event.sequence else start) with hstart | ⟨x, hx, heq⟩
    · rw [hstart]
      split
      · rcases max_choice start event.sequence with hmax | hmax
        · exact .inl hmax
        · exact .inr ⟨event, List.mem_cons_self, hmax⟩
      · exact .inl rfl
    · exact .inr ⟨x, List.mem_cons_of_mem _ hx, heq⟩

/-- **What a catch-up that returns nil has done**: replayed the events it queried, and stored their last sequence if
any. -/
theorem processMissedEvents_ok {limit : Int} {s : Store} {l : Listener} {faults : Faults} {afterSequence : Int}
    (hstore : l.eventStore = true) (hnil : (processMissedEvents limit s l faults afterSequence).2.2 = .ok ()) :
    ∃ events, queryMissedEvents s faults afterSequence limit = .ok events ∧
      (processMissedEvents limit s l faults afterSequence).2.1 = (replayEvents l 0 events).1 ∧
      (processMissedEvents limit s l faults afterSequence).1 =
        if 0 < lastSequence 0 events then
          s.updateListenerCheckpoint snapshotNotificationConsumerName (lastSequence 0 events)
        else s := by
  unfold processMissedEvents at hnil ⊢
  rw [hstore] at hnil ⊢
  cases hquery : queryMissedEvents s faults afterSequence limit with
  | error text =>
    rw [hquery] at hnil
    cases hnil
  | ok events =>
    simp only [hquery, replayEvents_snd, Bool.not_true, Bool.false_eq_true, if_false] at hnil ⊢
    refine ⟨events, rfl, ?_⟩
    split
    · rename_i hmoved
      rw [if_pos hmoved] at hnil
      split
      · rename_i text hfault
        rw [hfault] at hnil
        cases hnil
      · exact ⟨rfl, rfl⟩
    · exact ⟨rfl, rfl⟩

end QrCommandCenter.Service
