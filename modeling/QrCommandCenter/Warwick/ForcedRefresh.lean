import QrCommandCenter.Warwick.SingleSession
import QrCommandCenter.Lib.Heap

/-!
# Forced refreshes of the one session

* `WarwickAuth.Sound` : a session that is still to be stored has been seen by nobody, and a caller that was given a later
  session never finds the rejected one again;
* `WarwickAuth.Moved`, `Sound.moved` : what a step of a caller does to the sessions, and that it keeps the invariant;
* `refreshed_later_iff` : forced refreshes return later logins exactly when no double check finds an earlier fresh session.
-/

namespace QrCommandCenter.Warwick
open Domain Transition

/-! ## Steps -/

def AuthGoal.rejected : AuthGoal → Option SessionState
  | .first => none
  | .doubleCheck rejected => some rejected
  | .second rejected => some rejected

def AuthGoal.retried : AuthGoal → Option SessionState
  | .second rejected => some rejected
  | _ => none

namespace AuthPhase

/-- The goal of a call of `GetValidSessionContext`. -/
def goal : AuthPhase → Option AuthGoal
  | .lookup goal => some goal
  | .gate goal => some goal
  | .lock goal => some goal
  | .login goal => some goal
  | _ => none

def obtained : AuthPhase → List SessionState
  | .using rejected s => rejected.toList ++ [s]
  | .dropping rejected => [rejected]
  | .queued rejected => [rejected]
  | .forcedLogin rejected => [rejected]
  | .publish rejected _ => [rejected]
  | phase => (phase.goal.bind AuthGoal.rejected).toList

def pending : AuthPhase → Option SessionState
  | .publish _ s => some s
  | _ => none

def second (phase : AuthPhase) : Option SessionState := phase.goal.bind AuthGoal.retried

def reads (phase : AuthPhase) (input : AuthInput) : Option AuthGoal :=
  match phase with
  | .lookup goal => if input.canceled then none else some goal
  | .lock goal => some goal
  | _ => none

structure Keeps (phase phase' : AuthPhase) : Prop where
  obtained : ∀ s ∈ phase'.obtained, s ∈ phase.obtained
  pending : phase'.pending = none
  second : ∀ rejected, phase'.second = some rejected → phase.second = some rejected

end AuthPhase

namespace WarwickAuth

variable {a : WarwickAuth} {w : Nat} {c : AuthCaller} {s : SessionState}

/-- A login that somebody was given, or whose session is stored. -/
def Seen (a : WarwickAuth) (n : Nat) : Prop :=
  (∃ s, a.session = some s ∧ s.login = n) ∨
    ∃ (w : Nat) (c : AuthCaller), a.callers[w]? = some c ∧ ∃ s ∈ c.phase.obtained, s.login = n

/-- A login whose session caller `w` is going to store. -/
def Pends (a : WarwickAuth) (w n : Nat) : Prop :=
  ∃ c s, a.callers[w]? = some c ∧ c.phase.pending = some s ∧ s.login = n

structure Sound (a : WarwickAuth) : Prop where
  seen : ∀ n, a.Seen n → n < a.logins ∧ ∀ w, ¬ a.Pends w n
  pends : ∀ w n, a.Pends w n → n < a.logins ∧ ∀ v, a.Pends v n → v = w
  /-- a session that is still to be stored comes from a login after the one that was rejected -/
  later : ∀ (w : Nat) (c : AuthCaller) s, a.callers[w]? = some c → c.phase.pending = some s →
    ∀ t ∈ c.phase.obtained, t.login < s.login
  /-- in a second attempt the rejected session is not the stored one -/
  replaced : ∀ (w : Nat) (c : AuthCaller) rejected, a.callers[w]? = some c → c.phase.second = some rejected →
    ∀ s, a.session = some s → s.login ≠ rejected.login

theorem sound_empty : Sound {} := by
  refine ⟨?_, ?_, ?_, ?_⟩
  · rintro n (⟨s, h, -⟩ | ⟨w, c, h, -⟩) <;> cases h
  · rintro w n ⟨c, s, h, -⟩
    cases h
  all_goals
    intro w c s h
    cases h

/-! ## Steps keep the invariant -/

/-- Caller `w` arrives or moves, and is now `c`: what is stored was stored, was to be stored by it, or is new; it was given
what somebody has seen or what is stored, and has a new session to store if it has one. -/
structure Moved (a a' : WarwickAuth) (w : Nat) (c : AuthCaller) : Prop where
  callers : ∀ {v : Nat} {d : AuthCaller}, a'.callers[v]? = some d → v = w ∧ d = c ∨ v ≠ w ∧ a.callers[v]? = some d
  logins : a.logins ≤ a'.logins
  stored : ∀ s, a'.session = some s →
    a.session = some s ∨ a.Pends w s.login ∨ a.logins ≤ s.login ∧ s.login < a'.logins
  obtained : ∀ s ∈ c.phase.obtained, a.Seen s.login ∨ a'.session = some s
  pending : ∀ s, c.phase.pending = some s → a'.session = a.session ∧ a.logins ≤ s.login ∧ s.login < a'.logins
  second : ∀ rejected, c.phase.second = some rejected → ∀ s, a'.session = some s → s.login ≠ rejected.login

section Moved
variable {a' : WarwickAuth} {n v : Nat}

theorem Moved.seen (hm : a.Moved a' w c) (h : a'.Seen n) :
    a.Seen n ∨ a'.session ≠ a.session ∧ (a.Pends w n ∨ a.logins ≤ n ∧ n < a'.logins) := by
  have hstored : ∀ s, a'.session = some s → s.login = n →
      a.Seen n ∨ a'.session ≠ a.session ∧ (a.Pends w n ∨ a.logins ≤ n ∧ n < a'.logins) := by
    rintro s hs rfl
    by_cases hsame : a'.session = a.session
    · exact .inl (.inl ⟨s, hsame ▸ hs, rfl⟩)
    · exact (hm.stored s hs).imp (fun hold => .inl ⟨s, hold, rfl⟩) fun hnew => ⟨hsame, hnew⟩
  rcases h with ⟨s, hs, hn⟩ | ⟨v, d, hv, s, hs, hn⟩
  · exact hstored s hs hn
  · rcases hm.callers hv with ⟨-, rfl⟩ | ⟨-, hv⟩
    · rcases hm.obtained s hs with hseen | hs
      · exact .inl (hn ▸ hseen)
      · exact hstored s hs hn
    · exact .inl (.inr ⟨v, d, hv, s, hs, hn⟩)

theorem Moved.pends (hm : a.Moved a' w c) (h : a'.Pends v n) :
    v ≠ w ∧ a.Pends v n ∨ v = w ∧ a'.session = a.session ∧ a.logins ≤ n ∧ n < a'.logins := by
  obtain ⟨d, s, hv, hs, rfl⟩ := h
  rcases hm.callers hv with ⟨rfl, rfl⟩ | ⟨hne, hv⟩
  · exact .inr ⟨rfl, hm.pending s hs⟩
  · exact .inl ⟨hne, d, s, hv, hs, rfl⟩

theorem second_mem_obtained {phase : AuthPhase} {rejected : SessionState} (h : phase.second = some rejected) :
    rejected ∈ phase.obtained := by
  unfold AuthPhase.second at h
  obtain ⟨goal, hgoal, hretried⟩ := Option.bind_eq_some_iff.mp h
  cases goal with
  | second other =>
    cases hretried
    cases phase <;> cases hgoal <;> exact List.mem_cons_self
  | _ => cases hretried

theorem Sound.moved (h : a.Sound) (hm : a.Moved a' w c) : a'.Sound := by
  refine ⟨fun n hn => ?_, fun v n hv => ?_, fun v d s hv hs t ht => ?_, fun v d rejected hv hr s hs => ?_⟩
  · rcases hm.seen hn with hseen | ⟨hstored, hnew⟩
    · refine ⟨(h.seen n hseen).1.trans_le hm.logins, fun v hv => ?_⟩
      rcases hm.pends hv with ⟨-, hv⟩ | ⟨-, -, hv, -⟩
      · exact (h.seen n hseen).2 v hv
      · exact ((h.seen n hseen).1.trans_le hv).false
    · have hlt : n < a'.logins := hnew.elim (fun hw => (h.pends w n hw).1.trans_le hm.logins) fun hw => hw.2
      refine ⟨hlt, fun v hv => ?_⟩
      rcases hm.pends hv with ⟨hne, hv⟩ | ⟨-, hsame, -⟩
      · rcases hnew with hw | hw
        · exact hne ((h.pends w n hw).2 v hv)
        · exact ((h.pends v n hv).1.trans_le hw.1).false
      · exact hstored hsame
  · rcases hm.pends hv with ⟨-, hold⟩ | ⟨rfl, -, hnew⟩
    · refine ⟨(h.pends v n hold).1.trans_le hm.logins, fun u hu => ?_⟩
      rcases hm.pends hu with ⟨-, hu⟩ | ⟨-, -, hu, -⟩
      · exact (h.pends v n hold).2 u hu
      · exact absurd ((h.pends v n hold).1.trans_le hu) (lt_irrefl n)
    · refine ⟨hnew.2, fun u hu => ?_⟩
      rcases hm.pends hu with ⟨-, hu⟩ | ⟨hu, -⟩
      · exact absurd ((h.pends u n hu).1.trans_le hnew.1) (lt_irrefl n)
      · exact hu
  · rcases hm.callers hv with ⟨-, rfl⟩ | ⟨-, hv⟩
    · obtain ⟨hsame, hnew, -⟩ := hm.pending s hs
      have hseen : a.Seen t.login := (hm.obtained t ht).elim (fun hseen => hseen) fun hstored =>
        .inl ⟨t, hsame ▸ hstored, rfl⟩
      exact (h.seen t.login hseen).1.trans_le hnew
    · exact h.later v d s hv hs t ht
  · rcases hm.callers hv with ⟨-, rfl⟩ | ⟨-, hv⟩
    · exact hm.second rejected hr s hs
    · obtain ⟨hlt, hunseen⟩ := h.seen rejected.login (.inr ⟨v, d, hv, rejected, second_mem_obtained hr, rfl⟩)
      rcases hm.stored s hs with hold | hpends | hnew
      · exact h.replaced v d rejected hv hr s hold
      · exact fun he => hunseen w (he ▸ hpends)
      · exact (hlt.trans_le hnew.1).ne'

end Moved

/-- What a report has to say: a refresh returns a later login, and the second attempt is not made with the rejected one. -/
def Later : AuthReport → Prop
  | .refreshed rejected s => rejected.login < s.login
  | .attempted rejected s => s.login ≠ rejected.login

def Good (r : WarwickAuth × List AuthReport) : Prop := r.1.Sound ∧ ∀ report ∈ r.2, Later report

theorem Sound.good (h : a.Sound) : Good (a, []) := ⟨h, fun _ hr => absurd hr List.not_mem_nil⟩

section Step
variable {a' : WarwickAuth}

theorem Sound.call (h : a.Sound) (retry : AuthRetry) : Good (a.exec (.call retry)) := by
  refine (h.moved (w := a.callers.length) (c := ⟨retry, .lookup .first, false⟩) ?_).good
  refine ⟨fun hv => ?_, le_rfl, fun s hs => .inl hs, ?_, ?_, ?_⟩
  · exact (getElem?_append_cases hv).imp_right fun hv => ⟨(List.getElem?_eq_some_iff.mp hv).1.ne, hv⟩
  -- a new caller was given nothing
  all_goals
    intro s hs
    cases hs

theorem Sound.gates (h : a.Sound) (locked refreshGate forceRefreshGate : Bool) :
    Sound { a with locked := locked, refreshGate := refreshGate, forceRefreshGate := forceRefreshGate } :=
  ⟨h.seen, h.pends, h.later, h.replaced⟩

section
variable (h : a.Sound) (hw : a.callers[w]? = some c)
include h hw

theorem Sound.quiet {session : Option SessionState} {d : AuthCaller} {phase : AuthPhase}
    (hsession : ∀ s, session = some s → a.session = some s) (hkeeps : c.phase.Keeps phase) :
    Good ({ a with session := session }.moveTo w d phase, []) := by
  refine Sound.good (h.moved (w := w) (c := { d with phase := phase })
    ⟨getElem?_set_cases, le_rfl, fun s hs => .inl (hsession s hs), ?_, ?_, ?_⟩)
  · exact fun s hs => .inl (.inr ⟨w, c, hw, s, hkeeps.obtained s hs, rfl⟩)
  · intro s hs
    cases hkeeps.pending.symm.trans hs
  · exact fun rejected hr s hs => h.replaced w c rejected hw (hkeeps.second rejected hr) s (hsession s hs)

theorem Sound.finish : Good (a.moveTo w c .finished, []) :=
  h.quiet hw (fun _ hs => hs) ⟨fun _ hs => absurd hs List.not_mem_nil, rfl, fun _ hr => by cases hr⟩

theorem Sound.deliver (hlogins : a.logins ≤ a'.logins) (hcallers : a'.callers = a.callers)
    (hsession : a'.session = some s)
    (hs : a.session = some s ∨ a.Pends w s.login ∨ a.logins ≤ s.login ∧ s.login < a'.logins) {goal : AuthGoal}
    (hgoal : ∀ t, goal.rejected = some t → t ∈ c.phase.obtained)
    (hsecond : ∀ rejected, goal = .second rejected → s.login ≠ rejected.login)
    (hcheck : ∀ rejected, goal = .doubleCheck rejected → rejected.login < s.login) :
    Good (a'.deliver w c goal s) := by
  have hmoved : ∀ (gate : Bool) (phase : AuthPhase), phase.pending = none →
      (∀ t ∈ phase.obtained, goal.rejected = some t ∨ t = s) →
      (∀ rejected, phase.second = some rejected → goal = .doubleCheck rejected) →
      Sound ({ a' with forceRefreshGate := gate }.moveTo w c phase) := by
    intro gate phase hpending hobtained hretried
    refine h.moved (w := w) (c := { c with phase := phase })
      ⟨fun hv => getElem?_set_cases (hcallers ▸ hv), hlogins, ?_, ?_, ?_, ?_⟩
    · intro t ht
      cases hsession.symm.trans ht
      exact hs
    · intro t ht
      rcases hobtained t ht with hrejected | rfl
      · exact .inl (.inr ⟨w, c, hw, t, hgoal t hrejected, rfl⟩)
      · exact .inr hsession
    · intro t ht
      cases hpending.symm.trans ht
    · intro rejected hr t ht
      cases hsession.symm.trans ht
      exact (hcheck rejected (hretried rejected hr)).ne'
  cases goal with
  | first =>
    refine ⟨hmoved a'.forceRefreshGate (.using none s) rfl (by simp [AuthPhase.obtained]) ?_, by simp [WarwickAuth.deliver]⟩
    exact fun _ hr => by cases hr
  | second rejected =>
    refine ⟨hmoved a'.forceRefreshGate (.using (some rejected) s) rfl ?_ fun _ hr => ?_, ?_⟩
    · simp [AuthPhase.obtained, AuthGoal.rejected]
    · cases hr
    · simpa [WarwickAuth.deliver, Later] using hsecond rejected rfl
  | doubleCheck rejected =>
    have hlt := hcheck rejected rfl
    unfold WarwickAuth.deliver refreshed
    dsimp only
    split
    · refine ⟨hmoved _ (.lookup (.second rejected)) rfl ?_ ?_, by simpa [Later] using hlt⟩
      · simp [AuthPhase.obtained, AuthPhase.goal, AuthGoal.rejected]
      · simp [AuthPhase.second, AuthPhase.goal, AuthGoal.retried]
    · refine ⟨hmoved _ .finished rfl ?_ fun _ hr => ?_, by simpa [Later] using hlt⟩
      · simp [AuthPhase.obtained, AuthPhase.goal]
      · cases hr
    · refine ⟨hmoved _ (.using (some rejected) s) rfl ?_ fun _ hr => ?_, ?_⟩
      · simp [AuthPhase.obtained, AuthGoal.rejected]
      · cases hr
      · simpa [Later, hlt] using hlt.ne'

end

end Step

/-! ## Runs -/

/-- If the step is a double check that finds a fresh session, it is from a later login than the rejected one. -/
def FindsLater (a : WarwickAuth) : AuthOp → Prop
  | .call _ => True
  | .advance w input => ∀ (c : AuthCaller) rejected s, a.callers[w]? = some c →
    c.phase.reads input = some (.doubleCheck rejected) → a.locked = false → a.session = some s →
    s.fresh input.now = true → rejected.login < s.login

section Advance
variable {a a' : WarwickAuth} {w : Nat} {c : AuthCaller} {input : AuthInput} {goal : AuthGoal}

theorem reads_goal {phase : AuthPhase} (h : phase.reads input = some goal) : phase.goal = some goal := by
  unfold AuthPhase.reads at h
  split at h
  · split at h
    · cases h
    · exact h
  · exact h
  · cases h

theorem rejected_mem_obtained {phase : AuthPhase} (h : phase.goal = some goal) {t : SessionState}
    (ht : goal.rejected = some t) : t ∈ phase.obtained := by
  have hobtained : phase.obtained = goal.rejected.toList := by cases phase <;> cases h <;> rfl
  rw [hobtained, ht]
  exact List.mem_cons_self

theorem filter_fresh {session : Option SessionState} {now : Time} :
    session.filter (·.fresh now) = some s ↔ session = some s ∧ s.fresh now = true := by
  rw [Option.filter_eq_some_iff]

section
variable (h : a.Sound) (hw : a.callers[w]? = some c)
include h hw

theorem Sound.obtained_lt {t : SessionState} (ht : t ∈ c.phase.obtained) : t.login < a.logins :=
  (h.seen t.login (.inr ⟨w, c, hw, t, ht, rfl⟩)).1

theorem Sound.fail (hgoal : c.phase.goal = some goal) (canceled : Bool) : Good (a.fail w c goal canceled, []) := by
  unfold WarwickAuth.fail
  split
  · next rejected =>
    split
    · exact (h.gates a.locked a.refreshGate false).finish hw
    · refine h.quiet hw (fun _ hs => hs) ⟨fun t ht => ?_, rfl, fun _ hr => by cases hr⟩
      rw [List.mem_singleton.mp ht]
      exact rejected_mem_obtained hgoal rfl
  · exact h.finish hw

theorem Sound.received (hfinds : a.FindsLater (.advance w input)) (hread : c.phase.reads input = some goal)
    (hlocked : ¬ a.locked = true) (hfilter : a.session.filter (·.fresh input.now) = some s) :
    Good (a.deliver w c goal s) := by
  obtain ⟨hs, hfresh⟩ := filter_fresh.mp hfilter
  have hgoal := reads_goal hread
  refine h.deliver hw le_rfl rfl hs (.inl hs) (fun t => rejected_mem_obtained hgoal) ?_ ?_
  · rintro rejected rfl
    refine h.replaced w c rejected hw ?_ s hs
    unfold AuthPhase.second
    rw [hgoal]
    rfl
  · rintro rejected rfl
    exact hfinds c rejected s hw hread (Bool.eq_false_iff.mpr hlocked) hs hfresh

theorem advance_good (hfinds : a.FindsLater (.advance w input)) : Good (a.advance w c input) := by
  unfold advance
  split
  case h_1 goal hphase =>
    split
    · exact h.fail hw (by rw [hphase]; rfl) true
    · next hcanceled =>
      split
      · exact h.good
      · next hlocked =>
        split
        · next s hfilter =>
          refine h.received hw hfinds ?_ hlocked hfilter
          rw [hphase]
          exact if_neg hcanceled
        · refine h.quiet hw (fun _ hs => hs) ?_
          rw [hphase]
          exact ⟨fun _ hs => hs, rfl, fun _ hr => hr⟩
  case h_2 goal hphase =>
    split
    · exact h.fail hw (by rw [hphase]; rfl) true
    · split
      · exact h.good
      · refine (h.gates a.locked true a.forceRefreshGate).quiet hw (fun _ hs => hs) ?_
        rw [hphase]
        exact ⟨fun _ hs => hs, rfl, fun _ hr => hr⟩
  case h_3 goal hphase =>
    split
    · exact h.good
    · next hlocked =>
      split
      · next s hfilter =>
        refine (h.gates a.locked false a.forceRefreshGate).received hw hfinds ?_ hlocked hfilter
        rw [hphase]
        rfl
      · refine (h.gates true a.refreshGate a.forceRefreshGate).quiet hw (fun _ hs => hs) ?_
        rw [hphase]
        exact ⟨fun _ hs => hs, rfl, fun _ hr => hr⟩
  case h_4 goal hphase =>
    have hgoal : c.phase.goal = some goal := by rw [hphase]; rfl
    have hlt : ∀ t, goal.rejected = some t → t.login < a.logins := fun t ht =>
      h.obtained_lt hw (rejected_mem_obtained hgoal ht)
    dsimp only
    split
    · exact (h.gates false false a.forceRefreshGate).fail hw hgoal input.canceled
    · refine h.deliver hw ?_ ?_ ?_ (.inr (.inr ?_)) (fun t => rejected_mem_obtained hgoal) ?_ ?_
      · exact Nat.le_succ _
      · rfl
      · rfl
      · exact ⟨le_rfl, Nat.lt_succ_self _⟩
      · rintro rejected rfl
        exact (hlt rejected rfl).ne'
      · rintro rejected rfl
        exact hlt rejected rfl
  case h_5 rejected s hphase =>
    have hkept : ∀ t ∈ [s], t ∈ c.phase.obtained := by
      rw [hphase]
      exact fun t ht => List.mem_append_right _ ht
    split
    · exact h.quiet hw (fun _ hs => hs) ⟨hkept, rfl, fun _ hr => by cases hr⟩
    · exact h.quiet hw (fun _ hs => hs) ⟨hkept, rfl, fun _ hr => by cases hr⟩
    · exact h.quiet hw (fun _ hs => hs) ⟨hkept, rfl, fun _ hr => by cases hr⟩
    · exact h.finish hw
  case h_6 rejected hphase =>
    split
    · exact h.good
    · refine h.quiet hw (fun s hs => (Option.filter_eq_some_iff.mp hs).1) ?_
      rw [hphase]
      exact ⟨fun _ hs => hs, rfl, fun _ hr => by cases hr⟩
  case h_7 rejected hphase =>
    split
    · exact h.finish hw
    · split
      · exact h.good
      · refine (h.gates a.locked a.refreshGate true).quiet hw (fun _ hs => hs) ?_
        rw [hphase]
        exact ⟨fun _ hs => hs, rfl, fun _ hr => by cases hr⟩
  case h_8 rejected hphase =>
    split
    · exact (h.gates a.locked a.refreshGate false).finish hw
    · next cookie _ =>
      -- the new session is not stored yet
      refine Sound.good (h.moved (w := w) (c := { c with phase := .publish rejected (a.performLogin input cookie) }) ?_)
      refine ⟨getElem?_set_cases, Nat.le_succ _, fun s hs => .inl hs, fun s hs => ?_, fun s hs => ?_, ?_⟩
      · exact .inl (.inr ⟨w, c, hw, s, by rwa [hphase], rfl⟩)
      · cases hs
        exact ⟨rfl, le_rfl, Nat.lt_succ_self _⟩
      · exact fun _ hr => by cases hr
  case h_9 rejected s hphase =>
    split
    · exact h.good
    · have hpending : c.phase.pending = some s := by rw [hphase]; rfl
      have hrejected : rejected ∈ c.phase.obtained := by rw [hphase]; exact List.mem_cons_self
      show Good (WarwickAuth.deliver { a with session := some s } w c (.doubleCheck rejected) s)
      refine h.deliver hw ?_ ?_ ?_ (.inr (.inl ⟨c, s, hw, hpending, rfl⟩)) ?_ (fun _ hr => by cases hr) ?_
      · exact le_rfl
      · rfl
      · rfl
      · rintro t ⟨⟩
        exact hrejected
      · rintro other ⟨⟩
        exact h.later w c s hw hpending rejected hrejected
  case h_10 hphase => exact h.good

end

end Advance

/-- Under the invariant, a step keeps it and reports later sessions, if a double check finds none but later ones. -/
theorem exec_good (h : a.Sound) {op : AuthOp} (hfinds : a.FindsLater op) : Good (a.exec op) := by
  cases op with
  | call retry => exact h.call retry
  | advance w input =>
    simp only [exec]
    cases hw : a.callers[w]? with
    | none => exact h.good
    | some c => exact advance_good h hw hfinds

theorem deliver_doubleCheck (a : WarwickAuth) (w : Nat) (c : AuthCaller) (rejected s : SessionState) :
    .refreshed rejected s ∈ (a.deliver w c (.doubleCheck rejected) s).2 := by
  unfold deliver refreshed
  dsimp only
  split <;> exact List.mem_cons_self

theorem advance_reads {input : AuthInput} {rejected : SessionState}
    (hread : c.phase.reads input = some (.doubleCheck rejected)) (hlocked : a.locked = false)
    (hs : a.session = some s) (hfresh : s.fresh input.now = true) :
    .refreshed rejected s ∈ (a.advance w c input).2 := by
  have hfilter := filter_fresh.mpr ⟨hs, hfresh⟩
  unfold AuthPhase.reads at hread
  unfold advance
  split at hread
  · next goal hphase =>
    split at hread
    · cases hread
    · next hcanceled =>
      cases hread
      rw [hphase]
      dsimp only
      rw [if_neg hcanceled, hlocked, if_neg Bool.false_ne_true, hfilter]
      exact deliver_doubleCheck a w c rejected s
  · next goal hphase =>
    cases hread
    rw [hphase]
    dsimp only
    rw [hlocked, if_neg Bool.false_ne_true, hfilter]
    exact deliver_doubleCheck _ w c rejected s
  · cases hread

/-- Steps with reports about later sessions only are those whose double check finds no earlier one. -/
theorem later_iff (h : a.Sound) (op : AuthOp) :
    (∀ report ∈ (a.exec op).2, Later report) ↔ a.FindsLater op := by
  refine ⟨fun hreports => ?_, fun hfinds => (exec_good h hfinds).2⟩
  cases op with
  | call retry => trivial
  | advance w input =>
    intro c rejected s hw hread hlocked hs hfresh
    have hmem := @advance_reads a w c s input rejected hread hlocked hs hfresh
    refine hreports (.refreshed rejected s) ?_
    simp only [exec, hw]
    exact hmem

/-- **Forced refreshes return sessions of later logins, and second attempts avoid the rejected session, exactly when
every double check that finds a fresh session finds one of a later login.** -/
theorem refreshed_later_iff (ops : List AuthOp) :
    (∀ e ∈ trace exec {} ops, ∀ report ∈ e.out, Later report) ↔ ∀ e ∈ trace exec {} ops, e.pre.FindsLater e.op := by
  refine trace_forall_iff ?_ ?_ sound_empty ops
  · exact fun a op h => later_iff h op
  · exact fun a op h hfinds => (exec_good h hfinds).1

/-- A caller logs in, sees its cookie rejected a minute later and asks for a refresh. -/
def rejectedCookie : List AuthOp :=
  [.call .rereads, .advance 0 {}, .advance 0 {}, .advance 0 {}, .advance 0 { login := some "cookie" },
    .advance 0 { now := minute, rejects := true }, .advance 0 { now := minute }, .advance 0 { now := minute },
    .advance 0 { now := minute }]

/-- **A forced refresh returns the rejected cookie, and the second attempt is made with it.** -/
theorem rejected_cookie_returned :
    (trace exec {} rejectedCookie).flatMap Event.out =
        [.refreshed ⟨"cookie", sessionTTL, 0⟩ ⟨"cookie", sessionTTL, 0⟩,
          .attempted ⟨"cookie", sessionTTL, 0⟩ ⟨"cookie", sessionTTL, 0⟩] ∧
      ¬ ∀ e ∈ trace exec {} rejectedCookie, ∀ report ∈ e.out, Later report := by
  have hreports : (trace exec {} rejectedCookie).flatMap Event.out =
      [.refreshed ⟨"cookie", sessionTTL, 0⟩ ⟨"cookie", sessionTTL, 0⟩,
        .attempted ⟨"cookie", sessionTTL, 0⟩ ⟨"cookie", sessionTTL, 0⟩] := by decide +kernel
  refine ⟨hreports, fun hlater => ?_⟩
  have hmem : .refreshed ⟨"cookie", sessionTTL, 0⟩ ⟨"cookie", sessionTTL, 0⟩ ∈
      (trace exec {} rejectedCookie).flatMap Event.out := hreports ▸ List.mem_cons_self
  obtain ⟨e, he, hreport⟩ := List.mem_flatMap.mp hmem
  exact Nat.lt_irrefl 0 (hlater e he _ hreport)

end WarwickAuth

end QrCommandCenter.Warwick
