import QrCommandCenter.Store.Schema
import Mathlib.Data.List.MinMax
import Mathlib.Data.List.Sort

/-!
# The outbox and its consumers' checkpoints

The reads and writes of `snapshot_commit_events` and `snapshot_listener_checkpoints` by the notification listener.

* `getListenerCheckpoint`, `updateListenerCheckpoint`;
* `missedEvents`, `compactedMissedEvents` : the events after a checkpoint, all or the latest of each target;
* `pruneCommitEvents` : retention of the outbox.
-/

namespace QrCommandCenter
open Domain Table

namespace Store

variable {s : Store} {c limit : Int} {e : CommitEvent}

/-- `GetListenerCheckpoint`; zero when the consumer has none. -/
def getListenerCheckpoint (s : Store) (consumerName : String) : Int :=
  ((lookup CheckpointRow.consumerName s.checkpoints consumerName).map CheckpointRow.lastSequence).getD 0

/-- `UpdateListenerCheckpoint`; it stores any sequence, also one below the stored one. -/
def updateListenerCheckpoint (s : Store) (consumerName : String) (sequence : Int) : Store :=
  match lookup CheckpointRow.consumerName s.checkpoints consumerName with
  | none => { s with checkpoints := s.checkpoints ++ [{ consumerName, lastSequence := sequence }] }
  | some _ => { s with
      checkpoints := updateWhere (fun c => c.consumerName = consumerName)
        (fun c => { c with lastSequence := sequence }) s.checkpoints }

def eventLimit (limit : Int) : Nat := if limit ≤ 0 then 100 else limit.toNat

def eventsAfter (s : Store) (afterSequence : Int) : List CommitEvent :=
  s.events.filter fun e => afterSequence < e.sequence

def missedEvents (s : Store) (afterSequence limit : Int) : List CommitEvent :=
  ((s.eventsAfter afterSequence).insertionSort fun a b => a.sequence ≤ b.sequence).take (eventLimit limit)

def latestEvents (s : Store) (afterSequence : Int) : List CommitEvent :=
  ((s.eventsAfter afterSequence).filter fun e =>
      (s.eventsAfter afterSequence).all fun o => o.targetId ≠ e.targetId || o.sequence ≤ e.sequence).insertionSort
    fun a b => a.targetId ≤ b.targetId

/-- `CompactedMissedEvents`: `DISTINCT ON (target_id)` by descending sequence, with the limit counting targets. -/
def compactedMissedEvents (s : Store) (afterSequence limit : Int) : List CommitEvent :=
  (s.latestEvents afterSequence).take (eventLimit limit)

/-- `PruneCommitEvents`, with the number of deleted events. -/
def pruneCommitEvents (s : Store) (now : Time) : Store × Nat :=
  let floor := ((s.checkpoints.map CheckpointRow.lastSequence).min?).getD 0 - 1000
  let old := fun e : CommitEvent => e.sequence < floor && e.committedAt < now - 7 * 24 * hour
  ({ s with events := deleteWhere old s.events }, s.events.countP old)

/-! ## What the statements read and keep -/

theorem mem_latestEvents :
    e ∈ s.latestEvents c ↔ (e ∈ s.events ∧ c < e.sequence) ∧
      ∀ o ∈ s.events, c < o.sequence → o.targetId = e.targetId → o.sequence ≤ e.sequence := by
  have hafter : ∀ o, o ∈ s.eventsAfter c ↔ o ∈ s.events ∧ c < o.sequence := by simp [eventsAfter]
  rw [latestEvents, (List.perm_insertionSort _ _).mem_iff, List.mem_filter, hafter, List.all_eq_true]
  refine and_congr_right fun _ => ⟨fun h o ho hc ht => ?_, fun h o ho => ?_⟩
  · simpa [ht] using h o ((hafter o).mpr ⟨ho, hc⟩)
  · obtain ⟨hm, hc⟩ := (hafter o).mp ho
    by_cases ht : o.targetId = e.targetId
    · simpa [ht] using h o hm hc ht
    · simp [ht]

theorem exists_latestEvents (he : e ∈ s.events) (hc : c < e.sequence) :
    ∃ o ∈ s.latestEvents c, o.targetId = e.targetId ∧ e.sequence ≤ o.sequence := by
  have hmem : ∀ o, o ∈ s.events.filter (fun o => c < o.sequence && o.targetId = e.targetId) ↔
      o ∈ s.events ∧ c < o.sequence ∧ o.targetId = e.targetId := by simp
  obtain ⟨o, ho⟩ : ∃ o, o ∈ (s.events.filter fun o => c < o.sequence && o.targetId = e.targetId).argmax
      CommitEvent.sequence := by
    refine Option.isSome_iff_exists.mp (Option.ne_none_iff_isSome.mp fun hnone => ?_)
    have hempty := List.argmax_eq_none.mp hnone
    have hself := (hmem e).mpr ⟨he, hc, rfl⟩
    rw [hempty] at hself
    cases hself
  obtain ⟨hstored, hafter, htarget⟩ := (hmem o).mp (List.argmax_mem ho)
  refine ⟨o, mem_latestEvents.mpr ⟨⟨hstored, hafter⟩, fun x hx hcx hxo => ?_⟩, htarget, ?_⟩
  · exact List.le_of_mem_argmax ((hmem x).mpr ⟨hx, hcx, hxo.trans htarget⟩) ho
  · exact List.le_of_mem_argmax ((hmem e).mpr ⟨he, hc, rfl⟩) ho

/-- An event after a sequence that the limited query leaves out is not before any event of the batch. -/
theorem missedEvents_le {o : CommitEvent} (he : e ∈ s.events) (hc : c < e.sequence)
    (hout : e ∉ s.missedEvents c limit) (ho : o ∈ s.missedEvents c limit) : o.sequence ≤ e.sequence := by
  have hsorted := List.pairwise_insertionSort (fun a b : CommitEvent => a.sequence ≤ b.sequence) (s.eventsAfter c)
  have hmem : e ∈ (s.eventsAfter c).insertionSort fun a b => a.sequence ≤ b.sequence := by
    rw [(List.perm_insertionSort _ _).mem_iff]
    simp [eventsAfter, he, hc]
  unfold missedEvents at hout ho
  rw [← List.take_append_drop (eventLimit limit) ((s.eventsAfter c).insertionSort _)] at hsorted hmem
  rcases List.mem_append.mp hmem with hin | hrest
  · exact absurd hin hout
  · exact (List.pairwise_append.mp hsorted).2.2 o ho e hrest

theorem mem_of_mem_missedEvents (he : e ∈ s.missedEvents c limit) :
    e ∈ s.events ∧ c < e.sequence := by
  have hin := List.mem_of_mem_take he
  rw [(List.perm_insertionSort _ _).mem_iff] at hin
  simpa [eventsAfter] using hin

theorem mem_of_mem_compactedMissedEvents (he : e ∈ s.compactedMissedEvents c limit) : e ∈ s.events ∧ c < e.sequence :=
  (mem_latestEvents.mp (List.mem_of_mem_take he)).1

theorem getListenerCheckpoint_update (s : Store) (consumerName : String) (sequence : Int) :
    (s.updateListenerCheckpoint consumerName sequence).getListenerCheckpoint consumerName = sequence := by
  unfold updateListenerCheckpoint getListenerCheckpoint
  split
  · rename_i hn
    rw [lookup_append, hn]
    simp [lookup]
  · rename_i row hrow
    simp [lookup_updateWhere, hrow, (lookup_mem hrow).2]

theorem lookup_update_ne (s : Store) {consumerName other : String} (hne : other ≠ consumerName) (sequence : Int) :
    lookup CheckpointRow.consumerName (s.updateListenerCheckpoint consumerName sequence).checkpoints other =
      lookup CheckpointRow.consumerName s.checkpoints other := by
  unfold updateListenerCheckpoint
  split
  · rw [lookup_append]
    have hnew : lookup CheckpointRow.consumerName [(⟨consumerName, sequence⟩ : CheckpointRow)] other = none := by
      simp [lookup, hne.symm]
    rw [hnew, Option.or_none]
  · refine (lookup_updateWhere (fun c : CheckpointRow => ?_) s.checkpoints other).trans ?_
    · rfl
    · cases hrow : lookup CheckpointRow.consumerName s.checkpoints other with
      | none => rfl
      | some row =>
        rw [Option.map_some, if_neg]
        rw [(lookup_mem hrow).2]
        simpa using hne

end Store

end QrCommandCenter
