import QrCommandCenter.Store.Rate

/-!
# The pause of a host

An observation writes `paused_until` after a 429 and after a failed authentication, whatever pause is in force; a success
keeps the pause, and every other outcome leaves the column alone.

* `Pausing s observation state until_` : the pause that an observation finds;
* `PauseKept` : the observation does not shorten it;
* `PauseOutlasts` : the pauses that the new one does not cut short, in terms of what the observation reads;
* `pause_kept_iff` : over every run of the store these are the same.
-/

namespace QrCommandCenter
open Domain Table Transition

variable {state : HostRow} {observation : HostObservation} {observedAt until_ : Time}

structure Pausing (s : Store) (observation : HostObservation) (state : HostRow) (until_ : Time) : Prop where
  row : s.host? observation.host = some state
  pause : state.pausedUntil = some until_
  inForce : max observation.observedAt state.tokensUpdatedAt < until_

def PauseKept (s s' : Store) (observation : HostObservation) : Prop :=
  ∀ state until_, Pausing s observation state until_ →
    ∃ state' later, s'.host? observation.host = some state' ∧ state'.pausedUntil = some later ∧ until_ ≤ later

/-- The ends of a pause that an observation at `observedAt` does not cut short. -/
def HostRow.Outlasted (state : HostRow) (observation : HostObservation) (observedAt until_ : Time) : Prop :=
  match observation.outcome with
  | .rateLimited => until_ ≤ observedAt + 15 * minute ∨ until_ ≤ observedAt + observation.retryAfter ∨
      ∃ last, state.last429At = some last ∧ observedAt - last ≤ hour ∧ until_ ≤ observedAt + hour
  | .authError => until_ ≤ observedAt + 15 * minute
  | _ => True

def PauseOutlasts (s : Store) (observation : HostObservation) : Prop :=
  ∀ state until_, Pausing s observation state until_ →
    (isBlank observation.host || isZeroTime observation.observedAt) = false →
    state.Outlasted observation (max observation.observedAt state.tokensUpdatedAt) until_

/-! ## One observation -/

theorem le_rateLimitPause : until_ ≤ observedAt + rateLimitPause state observation observedAt ↔
      until_ ≤ observedAt + 15 * minute ∨ until_ ≤ observedAt + observation.retryAfter ∨
        ∃ last, state.last429At = some last ∧ observedAt - last ≤ hour ∧ until_ ≤ observedAt + hour := by
  unfold rateLimitPause
  simp only [← max_def_lt]
  cases hlast : state.last429At with
  | none =>
    rw [← max_add_add_left, le_max_iff]
    constructor
    · rintro (h | h)
      · exact .inl h
      · exact .inr (.inl h)
    · rintro (h | h | ⟨last, hnone, -⟩)
      · exact .inl h
      · exact .inr h
      · cases hnone
  | some last =>
    simp only
    split
    · rename_i hrecent
      rw [← max_add_add_left, ← max_add_add_left, le_max_iff, le_max_iff, or_assoc]
      constructor
      · rintro (h | h | h)
        · exact .inl h
        · exact .inr (.inl h)
        · exact .inr (.inr ⟨last, rfl, hrecent, h⟩)
      · rintro (h | h | ⟨_, -, -, h⟩)
        · exact .inl h
        · exact .inr (.inl h)
        · exact .inr (.inr h)
    · rename_i hrecent
      rw [← max_add_add_left, le_max_iff]
      constructor
      · rintro (h | h)
        · exact .inl h
        · exact .inr (.inl h)
      · rintro (h | h | ⟨last', hlast', hrecent', -⟩)
        · exact .inl h
        · exact .inr h
        · cases hlast'
          exact absurd hrecent' hrecent

theorem observeRow_pause_iff (hpause : state.pausedUntil = some until_) (hforce : observedAt < until_) :
    (∃ later, (observeRow state observation observedAt).pausedUntil = some later ∧ until_ ≤ later) ↔
      state.Outlasted observation observedAt until_ := by
  have hsame : ∀ row : HostRow, row.pausedUntil = some until_ → ∃ later, row.pausedUntil = some later ∧ until_ ≤ later :=
    fun row hrow => ⟨until_, hrow, le_refl _⟩
  have hlater : ∀ {end_ : Time}, (∃ later, some end_ = some later ∧ until_ ≤ later) → until_ ≤ end_ := by
    rintro end_ ⟨later, heq, hle⟩
    rw [Option.some.inj heq]
    exact hle
  unfold HostRow.Outlasted
  cases houtcome : observation.outcome with
  | rateLimited =>
    simp only [observeRow, houtcome]
    rw [← le_rateLimitPause]
    exact ⟨hlater, fun hle => ⟨_, rfl, hle⟩⟩
  | authError =>
    simp only [observeRow, houtcome]
    exact ⟨hlater, fun hle => ⟨_, rfl, hle⟩⟩
  | changed | unchanged | notModified =>
    refine iff_of_true (hsame _ ?_) trivial
    simp only [observeRow, houtcome, hpause, if_pos hforce]
  | transientError =>
    refine iff_of_true (hsame _ ?_) trivial
    simp only [observeRow, houtcome]
    split <;> exact hpause
  | _ =>
    refine iff_of_true (hsame _ ?_) trivial
    simp only [observeRow, houtcome]
    exact hpause

theorem observed_host? {s : Store} {now : Time} (hstate : s.host? observation.host = some state) :
    (s.updateHost observation.host fun h => observeRow h observation now).host? observation.host =
      some (observeRow state observation now) := by
  rw [Store.host?_updateWhere observation.host rfl (fun h => observeRow_host h observation _), hstate, Option.map_some,
    if_pos (lookup_mem hstate).2]

/-- **One observation** keeps the pauses it finds exactly when it outlasts them. -/
theorem observeHost_pause_iff (s : Store) (observation : HostObservation) :
    PauseKept s (s.settle (s.observeHost observation)).1 observation ↔ PauseOutlasts s observation := by
  by_cases hcheck : (isBlank observation.host || isZeroTime observation.observedAt) = true
  · -- a rejected observation leaves the store as it is
    have hrejected : (s.settle (s.observeHost observation)).1 = s := by
      unfold Store.observeHost
      rw [if_pos hcheck]
      rfl
    rw [hrejected]
    refine iff_of_true (fun state until_ h => ⟨state, until_, h.row, h.pause, le_refl _⟩) fun _ _ _ haccepted => ?_
    rw [hcheck] at haccepted
    cases haccepted
  · have hrow : ∀ state, s.host? observation.host = some state →
        (s.settle (s.observeHost observation)).1.host? observation.host =
          some (observeRow state observation (max observation.observedAt state.tokensUpdatedAt)) := by
      intro state hstate
      have hok : s.observeHost observation = .ok (s.updateHost observation.host fun h =>
          observeRow h observation (max observation.observedAt state.tokensUpdatedAt)) := by
        unfold Store.observeHost
        rw [if_neg hcheck, hstate]
      rw [hok]
      exact observed_host? hstate
    refine forall_congr' fun state => forall_congr' fun until_ => forall_congr' fun h => ?_
    rw [forall_prop_of_true (Bool.not_eq_true _ ▸ hcheck), ← observeRow_pause_iff h.pause h.inForce]
    constructor
    · rintro ⟨state', later, hstate', hlater⟩
      rw [hrow state h.row] at hstate'
      cases hstate'
      exact ⟨later, hlater⟩
    · rintro ⟨later, hlater⟩
      exact ⟨_, later, hrow state h.row, hlater⟩

/-! ## Runs -/

section Runs
variable (notificationLength : SnapshotMetadata → Nat)
variable {s : Store} {host : String}

/-- **The pauses of a run.** From any state, the observations shorten no pause exactly when every pause in force is
outlasted by the one written. -/
theorem pause_kept_iff (s : Store) (ops : List Op) :
    (∀ e ∈ trace (Store.exec notificationLength) s ops, ∀ observation, e.op = .observeHost observation →
      PauseKept e.pre e.post observation) ↔
    (∀ e ∈ trace (Store.exec notificationLength) s ops, ∀ observation, e.op = .observeHost observation →
      PauseOutlasts e.pre observation) := by
  refine forall_congr' fun e => forall_congr' fun he => forall_congr' fun observation => forall_congr' fun hop => ?_
  rw [← observeHost_pause_iff, trace_event he, hop]
  rfl

end Runs

/-- A host after a 429 at minute one with a `Retry-After` of two hours. -/
def limitedStore : Store := final (Store.exec fun _ => 0) {}
  [.seedHost second meteredSeed,
    .observeHost { host := "h", outcome := .rateLimited, retryAfter := 2 * hour, observedAt := minute }]

/-- A minute later a run that was in flight fails to authenticate. -/
def lateAuthError : HostObservation := { host := "h", outcome := .authError, observedAt := 2 * minute }

theorem auth_error_shortens_pause :
    ((limitedStore.host? "h").map HostRow.pausedUntil = some (some (minute + 2 * hour)) ∧
      ((limitedStore.exec (fun _ => 0) (.observeHost lateAuthError)).1.host? "h").map HostRow.pausedUntil =
        some (some (17 * minute))) ∧
    ¬ ∀ e ∈ trace (Store.exec fun _ => 0) limitedStore [.observeHost lateAuthError],
      ∀ observation, e.op = .observeHost observation → PauseKept e.pre e.post observation := by
  have hrows : (limitedStore.host? "h").map (fun h => (h.pausedUntil, h.tokensUpdatedAt)) =
        some (some (minute + 2 * hour), minute) ∧
      ((limitedStore.exec (fun _ => 0) (.observeHost lateAuthError)).1.host? "h").map HostRow.pausedUntil =
        some (some (17 * minute)) := by
    decide +kernel
  obtain ⟨hbefore, hafter⟩ := hrows
  obtain ⟨state, hstate, hpair⟩ := Option.map_eq_some_iff.mp hbefore
  have hpause : state.pausedUntil = some (minute + 2 * hour) := congrArg Prod.fst hpair
  have hclock : state.tokensUpdatedAt = minute := congrArg Prod.snd hpair
  refine ⟨⟨by rw [hstate, Option.map_some, hpause], hafter⟩, fun hkept => ?_⟩
  have hforce : max lateAuthError.observedAt state.tokensUpdatedAt < minute + 2 * hour := by
    rw [hclock]
    decide
  obtain ⟨state', later, hstate', hlater, hle⟩ :=
    hkept _ List.mem_cons_self lateAuthError rfl state _ ⟨hstate, hpause, hforce⟩
  change (limitedStore.exec (fun _ => 0) (.observeHost lateAuthError)).1.host? "h" = some state' at hstate'
  rw [hstate', Option.map_some, hlater] at hafter
  cases hafter
  exact absurd hle (by decide)

end QrCommandCenter
