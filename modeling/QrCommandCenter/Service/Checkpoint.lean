import QrCommandCenter.Service.Replay

/-!
# A listener without a checkpoint

A listener that finds no checkpoint reconciles from the metadata and stores none. After a notification it reads the
checkpoint again, finds zero and returns. So the checkpoint of a consumer that starts without one is never stored.

* `Bridge`, `BridgeOp`, `Bridge.exec` : the store and one listener, with its connections and notifications;
* `Unchecked` : the invariant, no checkpoint is stored (`exec_unchecked`);
* `checkpoint_never_stored` : every handled notification leaves the checkpoint below the sequence of every event;
* `announcements_increase` : the events a listener publishes, over any run.
-/

namespace QrCommandCenter.Service
open Domain Table Transition

variable {s : Store} {b : Bridge}

/-! ## The store and a listener -/

structure Bridge where
  store : Store
  listener : Listener := {}
  connected : Bool := false

/-- What can happen: a transaction of the store, and the steps of `Run` and `runConnection`. -/
inductive BridgeOp where
  | store (op : Op)
  /-- A connection is made and has executed `LISTEN`; `metadata` is what `ListMetadata` would return. -/
  | connect (faults : Faults) (metadata : List SnapshotMetadata)
  | notify (channel : String) (payload : Payload) (faults : Faults)
  | disconnect

inductive BridgeOutput where
  | done
  | ignored
  | refused (text : String)
  /-- `catchUp` or `catchUpFromCheckpoint` has returned. -/
  | caughtUp (result : Except String Unit)
deriving DecidableEq

def Bridge.exec (notificationLength : SnapshotMetadata → Nat) (b : Bridge) : BridgeOp → Bridge × BridgeOutput
  | .store op => ({ b with store := (b.store.exec notificationLength op).1 }, .done)
  | .connect faults metadata =>
    if b.connected then (b, .ignored)
    else
      let after := catchUp b.store b.listener faults metadata
      -- an error of `catchUp` ends the connection
      ({ store := after.1, listener := after.2.1, connected := after.2.2 matches .ok _ }, .caughtUp after.2.2)
  | .notify channel payload faults =>
    if !b.connected || channel ≠ "snapshot_committed" then (b, .ignored)
    else
      match handlePayload b.listener payload with
      | (l, .error text) => ({ b with listener := l }, .refused text)
      | (l, .ok ()) =>
        -- an error of `catchUpFromCheckpoint` is only logged
        let after := catchUpFromCheckpoint b.store l faults
        ({ b with store := after.1, listener := after.2.1 }, .caughtUp after.2.2)
  | .disconnect => ({ b with connected := false }, .done)

/-- Nobody but the listener writes its checkpoint. -/
def BridgeOp.Foreign : BridgeOp → Prop
  | .store (.updateListenerCheckpoint consumerName _) => consumerName ≠ snapshotNotificationConsumerName
  | _ => True

/-! ## The checkpoint stays absent -/

def NoCheckpoint (s : Store) : Prop :=
  lookup CheckpointRow.consumerName s.checkpoints snapshotNotificationConsumerName = none

theorem NoCheckpoint.eq_zero (h : NoCheckpoint s) :
    s.getListenerCheckpoint snapshotNotificationConsumerName = 0 := by
  unfold Store.getListenerCheckpoint
  rw [h]
  rfl

/-- A transaction stores none, unless it is the one that writes the checkpoint of the consumer. -/
theorem NoCheckpoint.exec (h : NoCheckpoint s) (len : SnapshotMetadata → Nat) {op : Op}
    (hop : ∀ consumerName sequence, op = .updateListenerCheckpoint consumerName sequence →
      consumerName ≠ snapshotNotificationConsumerName) : NoCheckpoint (s.exec len op).1 := by
  by_cases hupdate : ∃ consumerName sequence, op = .updateListenerCheckpoint consumerName sequence
  · obtain ⟨consumerName, sequence, rfl⟩ := hupdate
    have hne : snapshotNotificationConsumerName ≠ consumerName := fun heq => hop consumerName sequence rfl heq.symm
    exact (Store.lookup_update_ne s hne sequence).trans h
  · unfold NoCheckpoint
    rw [Store.exec_checkpoints len s fun consumerName sequence heq =>
      hupdate ⟨consumerName, sequence, heq⟩]
    exact h

theorem catchUpFromMetadata_store (s : Store) (l : Listener) (faults : Faults) (metadata : List SnapshotMetadata) :
    (catchUpFromMetadata s l faults metadata).1 = s := by
  unfold catchUpFromMetadata
  split <;> rfl

theorem NoCheckpoint.catchUp (h : NoCheckpoint s) (l : Listener) (faults : Faults) (metadata : List SnapshotMetadata) :
    (catchUp s l faults metadata).1 = s := by
  unfold Service.catchUp
  split
  · split
    · rfl
    · simp only [h.eq_zero, lt_irrefl, if_false]
      exact catchUpFromMetadata_store s l faults metadata
  · exact catchUpFromMetadata_store s l faults metadata

theorem NoCheckpoint.catchUpFromCheckpoint (h : NoCheckpoint s) (l : Listener) (faults : Faults) :
    (catchUpFromCheckpoint s l faults).1 = s := by
  unfold Service.catchUpFromCheckpoint
  split
  · rfl
  · split
    · rfl
    · simp only [h.eq_zero, if_true]

/-- The invariant of a run without a checkpoint. -/
structure Unchecked (b : Bridge) : Prop where
  absent : NoCheckpoint b.store
  sequenced : b.store.Sequenced

theorem Unchecked.congr {b' : Bridge} (h : Unchecked b) (hstore : b'.store = b.store) : Unchecked b' := by
  refine ⟨?_, ?_⟩
  · rw [hstore]
    exact h.absent
  · rw [hstore]
    exact h.sequenced

theorem exec_unchecked (len : SnapshotMetadata → Nat) (h : Unchecked b) {op : BridgeOp}
    (hop : op.Foreign) : Unchecked (b.exec len op).1 := by
  cases op with
  | store op =>
    refine ⟨h.absent.exec len ?_, (Store.exec_step len b.store op).sequenced h.sequenced⟩
    rintro consumerName sequence rfl
    exact hop
  | connect faults metadata =>
    simp only [Bridge.exec]
    split
    · exact h
    · exact h.congr (h.absent.catchUp b.listener faults metadata)
  | notify channel payload faults =>
    simp only [Bridge.exec]
    split
    · exact h
    · split
      · exact ⟨h.absent, h.sequenced⟩
      · rename_i l _
        exact h.congr (h.absent.catchUpFromCheckpoint l faults)
  | disconnect => exact ⟨h.absent, h.sequenced⟩

theorem trace_unchecked (len : SnapshotMetadata → Nat) {ops : List BridgeOp} (h : Unchecked b)
    (hops : ∀ op ∈ ops, op.Foreign) {event : Event Bridge BridgeOp BridgeOutput}
    (hevent : event ∈ trace (Bridge.exec len) b ops) :
    Unchecked event.pre ∧ Unchecked event.post := by
  induction ops generalizing b with
  | nil => cases hevent
  | cons op ops ih =>
    have hafter := exec_unchecked len h (hops op List.mem_cons_self)
    rcases List.mem_cons.mp hevent with rfl | hevent
    · exact ⟨h, hafter⟩
    · exact ih hafter (fun op' hop' => hops op' (List.mem_cons_of_mem op hop')) hevent

/-- **No notification ever moves the checkpoint of a consumer that starts without one**: it stays below the sequence of
every committed event. -/
theorem checkpoint_never_stored (notificationLength : SnapshotMetadata → Nat) (b : Bridge) (ops : List BridgeOp)
    (habsent : NoCheckpoint b.store) (hsequenced : b.store.Sequenced) (hops : ∀ op ∈ ops, op.Foreign) :
    ∀ event ∈ trace (Bridge.exec notificationLength) b ops, ∀ channel payload faults,
      event.op = .notify channel payload faults → event.out = .caughtUp (.ok ()) →
      ∀ e ∈ event.pre.store.events,
        ¬ e.sequence ≤ event.post.store.getListenerCheckpoint snapshotNotificationConsumerName := by
  intro event hevent channel payload faults _ _ e he
  obtain ⟨hpre, hpost⟩ := trace_unchecked notificationLength ⟨habsent, hsequenced⟩ hops hevent
  rw [hpost.absent.eq_zero]
  have hpositive := (hpre.sequenced.events e he).1
  omega

/-! ## What a listener announces -/

structure Announcing (l : Listener) : Prop where
  count : l.eventSeq = l.published.length
  numbered : l.published.map SnapshotMetadata.eventSequence = (List.range l.published.length).map fun i => (i : Int) + 1
  known : ∀ event ∈ l.published, event.version ≤ l.versions (snapshotMetadataKey event)
  increasing : l.published.Pairwise fun a b => snapshotMetadataKey a = snapshotMetadataKey b → a.version < b.version

namespace Announcing
variable {l : Listener} {faults : Faults}

theorem ready (h : Announcing l) : Announcing { l with initialized := true, ready := true } :=
  ⟨h.count, h.numbered, h.known, h.increasing⟩

theorem observe (h : Announcing l) (metadata : SnapshotMetadata) (publish : Bool) :
    Announcing (l.observe metadata publish) := by
  unfold Listener.observe
  dsimp only
  split
  · exact h
  next hnewer =>
  have hknown : ∀ event ∈ l.published, event.version ≤
      Function.update l.versions (snapshotMetadataKey metadata) metadata.version (snapshotMetadataKey event) := by
    intro event hevent
    have hold := h.known event hevent
    grind [Function.update_apply]
  split
  · refine ⟨by simp [h.count], by simp [h.count, h.numbered, List.range_succ], fun event hevent => ?_,
      List.pairwise_append.mpr ⟨h.increasing, List.pairwise_singleton _ _, fun event hevent new hnew hkey => ?_⟩⟩
    · rcases List.mem_append.mp hevent with hevent | hevent
      · exact hknown event hevent
      · cases List.mem_singleton.mp hevent
        simp [snapshotMetadataKey]
    · cases List.mem_singleton.mp hnew
      have hold := h.known event hevent
      rw [hkey] at hold
      exact hold.trans_lt (not_le.mp hnewer)
  · exact ⟨h.count, h.numbered, hknown, h.increasing⟩

theorem processMissedEvents (h : Announcing l) (limit afterSequence : Int) :
    Announcing (processMissedEvents limit s l faults afterSequence).2.1 := by
  have hreplay (l : Listener) (h : Announcing l) (start : Int) (events : List CommitEvent) :
      Announcing (replayEvents l start events).1 := by
    induction events generalizing l start with
    | nil => exact h
    | cons event rest ih => grind [replayEvents, observe]
  grind [Service.processMissedEvents]

theorem catchUp (h : Announcing l) (metadata : List SnapshotMetadata) : Announcing (catchUp s l faults metadata).2.1 := by
  have hobserved : Announcing (metadata.foldl (fun l' item => l'.observe item l.initialized) l) :=
    List.foldlRecOn metadata _ h fun l' h' item _ => h'.observe item _
  have hmetadata : Announcing (catchUpFromMetadata s l faults metadata).2.1 := by
    grind [catchUpFromMetadata, reconcile, ready]
  grind [Service.catchUp, processMissedEvents, ready]

theorem exec (len : SnapshotMetadata → Nat) (h : Announcing b.listener) (op : BridgeOp) :
    Announcing (b.exec len op).1.listener := by
  cases op with
  | store op => exact h
  | connect faults metadata => grind [Bridge.exec, catchUp]
  | notify channel payload faults =>
    have hpayload : Announcing (handlePayload b.listener payload).1 := by grind [handlePayload, observe]
    grind [Bridge.exec, catchUpFromCheckpoint, processMissedEvents]
  | disconnect => exact h

end Announcing

/-- **What a listener announces** in any run of commits, connections, notifications and failures: its events are numbered
from 1 without a gap, and the versions of each snapshot strictly increase. -/
theorem announcements_increase (len : SnapshotMetadata → Nat) (store : Store) (eventStore : Bool) (ops : List BridgeOp) :
    let published := (final (Bridge.exec len) { store, listener := { eventStore } } ops).listener.published
    published.map SnapshotMetadata.eventSequence = (List.range published.length).map (fun i => (i : Int) + 1) ∧
      published.Pairwise fun a b => snapshotMetadataKey a = snapshotMetadataKey b → a.version < b.version := by
  have hinit : Announcing { eventStore } := ⟨rfl, rfl, by simp, .nil⟩
  have h := @final_inv _ _ _ _ (fun b : Bridge => Announcing b.listener) (fun _ op hb => hb.exec len op)
    { store, listener := { eventStore } } hinit ops
  exact ⟨h.numbered, h.increasing⟩

/-! ## The first notification -/

/-- A course whose lease worker `a` holds, and no checkpoint. -/
def freshStore : Store where
  hosts := [Store.hostSeedRow second
    { host := "h", baselineRequestsPerSecond := 1, burst := 1, baselineConcurrency := 1, now := second }]
  targets := [{ replayRow with leaseOwner := some "a", leaseGeneration := 1, leaseExpiresAt := some (2 * hour) }]
  nextTargetId := 2

def firstCommit : CommitInput where
  targetID := 1
  workerID := "a"
  leaseGeneration := 1
  outcome := .changed
  startedAt := hour
  finishedAt := hour
  nextRunAt := 2 * hour
  currentInterval := minute
  consecutiveFailures := 0
  recentChanges := []
  validatedAt := some hour
  validationSeqAfter := some 1
  changed := true
  contentHash := 1
  payload := .document (.course { courseID := "c", name := "Course", status := .active, sessions := [] })
  manifest := { complete := true }

/-- The metadata of that commit, as its notification carries it. -/
def firstMetadata : SnapshotMetadata where
  kind := .courseDetail
  resourceKey := "c"
  version := 1
  validationSeq := 1
  validatedAt := hour
  qualityState := .verifiedFresh
  complete := true

def firstNotification : BridgeOp := .notify "snapshot_committed" { decoded := .ok firstMetadata } {}
def beforeNotification : List BridgeOp := [.connect {} [], .store (.commit ⟨hour, hour, hour⟩ firstCommit)]

theorem freshStore_sequenced : freshStore.Sequenced := ⟨by decide, nofun⟩

theorem firstNotification_foreign : ∀ op ∈ beforeNotification ++ [firstNotification], op.Foreign := by
  intro op hop
  simp only [beforeNotification, firstNotification, List.cons_append, List.nil_append, List.mem_cons, List.not_mem_nil,
    or_false] at hop
  rcases hop with rfl | rfl | rfl <;> trivial

def notifiedBridge : Bridge := final (Bridge.exec fun _ => 0) { store := freshStore } beforeNotification

theorem firstNotification_mem : Event.of (Bridge.exec fun _ => 0) notifiedBridge firstNotification ∈
    trace (Bridge.exec fun _ => 0) { store := freshStore } (beforeNotification ++ [firstNotification]) := by
  rw [trace_snoc]
  exact List.mem_append_right _ (List.mem_singleton.mpr rfl)

theorem notifiedBridge_eq : (notifiedBridge.exec (fun _ => 0) firstNotification).2 = .caughtUp (.ok ()) ∧
    notifiedBridge.store.events = [⟨1, 1, 1, 1, .courseDetail, hour⟩] ∧
    (notifiedBridge.exec (fun _ => 0) firstNotification).1.store.getListenerCheckpoint
      snapshotNotificationConsumerName = 0 := by
  decide +kernel

theorem checkpoint_never_stored_first : NoCheckpoint freshStore ∧ ¬ (1 : Int) ≤
    (notifiedBridge.exec (fun _ => 0) firstNotification).1.store.getListenerCheckpoint snapshotNotificationConsumerName :=
  ⟨rfl, checkpoint_never_stored (fun _ => 0) { store := freshStore } (beforeNotification ++ [firstNotification]) rfl
    freshStore_sequenced firstNotification_foreign _ firstNotification_mem _ _ _ rfl notifiedBridge_eq.1
    ⟨1, 1, 1, 1, .courseDetail, hour⟩ (by
      show _ ∈ notifiedBridge.store.events
      rw [notifiedBridge_eq.2.1]
      exact List.mem_singleton.mpr rfl)⟩

/-- **The first notification is handled and caught up, and no checkpoint is stored.** -/
theorem notified_without_checkpoint : NoCheckpoint freshStore ∧
    (∀ op ∈ beforeNotification ++ [firstNotification], op.Foreign) ∧
    ∃ event ∈ trace (Bridge.exec fun _ => 0) { store := freshStore } (beforeNotification ++ [firstNotification]),
      event.op = firstNotification ∧ event.out = .caughtUp (.ok ()) ∧
      ∃ e ∈ event.pre.store.events, ¬ e.sequence ≤
        event.post.store.getListenerCheckpoint snapshotNotificationConsumerName := by
  obtain ⟨hout, hevents, hcheckpoint⟩ := notifiedBridge_eq
  refine ⟨rfl, firstNotification_foreign, _, firstNotification_mem, rfl, hout, ⟨1, 1, 1, 1, .courseDetail, hour⟩, ?_, ?_⟩
  · show _ ∈ notifiedBridge.store.events
    rw [hevents]
    exact List.mem_singleton.mpr rfl
  · show ¬ (1 : Int) ≤ (notifiedBridge.exec (fun _ => 0) firstNotification).1.store.getListenerCheckpoint
      snapshotNotificationConsumerName
    rw [hcheckpoint]
    decide

end QrCommandCenter.Service
