import QrCommandCenter.Service.Listener

/-!
# What a replay announces

`processMissedEvents` builds the metadata it observes from the kind and the version of an outbox event alone, so an
announced event names no target, all targets of a kind share one entry of the versions map, and the checkpoint may move
past targets that the limited query has not returned.

* `Highest s c c' t e` : `e` has the highest version of target `t` among its events in `(c, c']`;
* `Announced` : every target with such an event was announced under its own keys, or had been observed before;
* `announced_iff` : this holds exactly when every such target had been observed before.
-/

namespace QrCommandCenter.Service
open Domain Table

/-- `e` has the highest version among the events of `t` with a sequence in `(c, c']`. -/
structure Highest (s : Store) (c c' : Int) (t : TargetRow) (e : CommitEvent) : Prop where
  stored : e ∈ s.events
  target : e.targetId = t.id
  after : c < e.sequence
  upTo : e.sequence ≤ c'
  highest : ∀ o ∈ s.events, o.targetId = t.id → c < o.sequence → o.sequence ≤ c' → o.snapshotVersion ≤ e.snapshotVersion

/-- Between the listeners `l` and `l'` this version of the target was published under the target's own keys. -/
def PublishedAs (l l' : Listener) (ref : TargetRef) (version : Int) : Prop :=
  ∃ event ∈ l'.published.drop l.published.length, event.kind = ref.kind ∧ event.parentKey = ref.parentKey ∧
    event.resourceKey = ref.resourceKey ∧ event.version = version

/-- Every target with an event in `(c, c']` was announced at the highest version of these, unless it had been observed at
that version or a higher one. -/
def Announced (s : Store) (l l' : Listener) (c c' : Int) : Prop :=
  ∀ t ∈ s.targets, ∀ e, Highest s c c' t e →
    PublishedAs l l' t.ref e.snapshotVersion ∨ e.snapshotVersion ≤ l.versions (targetKey t.ref)

/-- Every target with an event in `(c, c']` had been observed at the highest version of these. -/
def ObservedBefore (s : Store) (l : Listener) (c c' : Int) : Prop :=
  ∀ t ∈ s.targets, ∀ e, Highest s c c' t e → e.snapshotVersion ≤ l.versions (targetKey t.ref)

/-- The last sequence of the batch that a catch-up after `c` queries. -/
def batchEnd (s : Store) (faults : Faults) (c limit : Int) : Int :=
  match queryMissedEvents s faults c limit with
  | .ok events => lastSequence 0 events
  | .error _ => 0

variable {limit : Int} {s : Store} {l : Listener} {faults : Faults} {c c' : Int}

section
variable (hstore : l.eventStore = true) (hnil : (processMissedEvents limit s l faults c).2.2 = .ok ())
include hstore hnil

theorem processMissedEvents_moved (hold : s.getListenerCheckpoint snapshotNotificationConsumerName ≠ c')
    (hmoved : (processMissedEvents limit s l faults c).1.getListenerCheckpoint snapshotNotificationConsumerName = c') :
    c' = batchEnd s faults c limit := by
  obtain ⟨events, hquery, -, hafter⟩ := processMissedEvents_ok hstore hnil
  have hend : batchEnd s faults c limit = lastSequence 0 events := by
    unfold batchEnd
    rw [hquery]
  rw [hafter] at hmoved
  split at hmoved
  · rw [Store.getListenerCheckpoint_update] at hmoved
    rw [hend, hmoved]
  · exact absurd hmoved hold

theorem not_publishedAs {ref : TargetRef} (hnamed : ref.resourceKey ≠ "") (version : Int) :
    ¬ PublishedAs l (processMissedEvents limit s l faults c).2.1 ref version := by
  rintro ⟨event, hevent, -, -, hresource, -⟩
  obtain ⟨events, -, hlistener, -⟩ := processMissedEvents_ok hstore hnil
  obtain ⟨new, hnew, hkeys⟩ := replayEvents_published l 0 events
  rw [hlistener, hnew, List.drop_left] at hevent
  apply hnamed
  rw [← hresource, (hkeys event hevent).2]

end

/-- **A replay that moves the checkpoint announces every target it moves past exactly when nothing was left to
announce**: all were observed before at their highest versions. -/
theorem announced_iff (limit : Int) (s : Store) (l : Listener) (faults : Faults) (c c' : Int)
    (hnamed : ∀ t ∈ s.targets, t.ref.resourceKey ≠ "") (hstore : l.eventStore = true)
    (hnil : (processMissedEvents limit s l faults c).2.2 = .ok ())
    (hold : s.getListenerCheckpoint snapshotNotificationConsumerName ≠ c')
    (hmoved : (processMissedEvents limit s l faults c).1.getListenerCheckpoint snapshotNotificationConsumerName = c') :
    Announced s l (processMissedEvents limit s l faults c).2.1 c c' ↔
      ObservedBefore s l c (batchEnd s faults c limit) := by
  rw [← processMissedEvents_moved hstore hnil hold hmoved]
  constructor
  · intro hannounced t ht e he
    rcases hannounced t ht e he with hpublished | hobserved
    · exact absurd hpublished (not_publishedAs hstore hnil (hnamed t ht) e.snapshotVersion)
    · exact hobserved
  · intro hbefore t ht e he
    exact .inr (hbefore t ht e he)

/-! ## A course with one event -/

/-- A course with the first version committed after the checkpoint. -/
def replayRow : TargetRow where
  id := 1
  ref := { host := "h", kind := .courseDetail, resourceKey := "c" }
  attributes := .object []
  priority := 50
  currentIntervalSeconds := 60
  minIntervalSeconds := 60
  maxIntervalSeconds := 60
  maxServeAgeSeconds := 3600
  nextRunAt := second
  updatedAt := second

def replayStore : Store where
  targets := [replayRow]
  events := [⟨2, 1, 1, 1, .courseDetail, second⟩]
  checkpoints := [⟨snapshotNotificationConsumerName, 1⟩]
  nextTargetId := 2
  nextEventSequence := 3

def notifiedListener : Listener where
  versions := fun key => if key = targetKey replayRow.ref then 1 else 0

theorem replayStore_named : ∀ t ∈ replayStore.targets, t.ref.resourceKey ≠ "" := by decide

theorem replayStore_highest {t : TargetRow} (ht : t ∈ replayStore.targets) {e : CommitEvent}
    (he : Highest replayStore c c' t e) : t = replayRow ∧ e.snapshotVersion = 1 := by
  have hstored := he.stored
  simp only [replayStore, List.mem_singleton] at ht hstored
  exact ⟨ht, by rw [hstored]⟩

theorem announced_iff_notified :
    (processMissedEvents 500 replayStore notifiedListener {} 1).1.getListenerCheckpoint
      snapshotNotificationConsumerName = 2 ∧
    Announced replayStore notifiedListener (processMissedEvents 500 replayStore notifiedListener {} 1).2.1 1 2 := by
  have hmoved : (processMissedEvents 500 replayStore notifiedListener {} 1).1.getListenerCheckpoint
      snapshotNotificationConsumerName = 2 := by decide +kernel
  refine ⟨hmoved, (announced_iff 500 replayStore notifiedListener {} 1 2 replayStore_named rfl rfl (by decide +kernel)
    hmoved).mpr fun t ht e he => ?_⟩
  obtain ⟨rfl, hversion⟩ := replayStore_highest ht he
  show e.snapshotVersion ≤ if targetKey replayRow.ref = targetKey replayRow.ref then 1 else 0
  rw [hversion, if_pos rfl]

/-- **A replay moves the checkpoint past a course and does not announce it.** -/
theorem replay_unannounced :
    (processMissedEvents 500 replayStore {} {} 1).2.2 = .ok () ∧
    (processMissedEvents 500 replayStore {} {} 1).1.getListenerCheckpoint snapshotNotificationConsumerName = 2 ∧
    ¬ Announced replayStore {} (processMissedEvents 500 replayStore {} {} 1).2.1 1 2 := by
  refine ⟨rfl, by decide +kernel, fun hannounced => ?_⟩
  have hhighest : Highest replayStore 1 2 replayRow ⟨2, 1, 1, 1, .courseDetail, second⟩ :=
    ⟨by decide, rfl, by decide, by decide, by decide⟩
  rcases hannounced replayRow (by decide) _ hhighest with hpublished | hobserved
  · exact not_publishedAs rfl rfl (by decide) _ hpublished
  · exact absurd hobserved (by decide)

end QrCommandCenter.Service
