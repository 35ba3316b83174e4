import QrCommandCenter.Warwick.SessionPool

/-!
# Logins that fail because their caller gave up

A login that ends with the error of its caller's context says nothing about the session, which the pool goes on to hand out.

* `Pools.attempt?` : the login that an operation makes, if it makes one;
* `Pools.reported` : the error that its caller gets;
* `Pools.RequestLocal` : a cancelled login leaves the back-off alone and is not reported as a conflict;
* `Pools.NotForcedOnCandidate` : the condition under which that holds;
* `Pools.cancelled_logins_request_local` : the two agree over every run.
-/

namespace QrCommandCenter.Warwick
open Domain Transition

/-- `errors.Is(err, ErrAuthConflict)`. -/
def PoolErr.isAuthConflict : PoolErr → Bool
  | .authConflict => true
  | .acquireSession err => err.isAuthConflict
  | _ => false

namespace Pools

variable {s : PooledSession} {err : ContextErr}

/-! ## The logins of a run -/

/-- A call of `doLoginLocked` on the session at `pointer`, which ends at `later`. -/
structure Attempt where
  pointer : Nat
  session : PooledSession
  login : Except PoolErr String
  later : Time

/-- The login of an acquisition: its session has no good cookie and is not backed off. -/
def ensureAttempt? (c : Pools) (k : Nat) (answers : Answers) : Option Attempt := do
  let call ← c.calls[k]?
  match call.phase with
  | .locking index =>
    let (pointer, s) ← c.session? call.pool index
    if (s.cached answers.now).isSome || s.isBackedOff answers.now then none
    else some { pointer := pointer, session := s, login := answers.login, later := answers.later }
  | _ => none

def forceAttempt? (c : Pools) (ref : Nat) (answers : Answers) : Option Attempt := do
  let r ← c.refs[ref]?
  let pointer ← r.session
  let s ← c.heap[pointer]?
  if answers.ctxErr.isSome || s.isBackedOff answers.now then none
  else some { pointer := pointer, session := s, login := answers.login, later := answers.later }

def attempt? (c : Pools) : Op → Option Attempt
  | .advance k answers => c.ensureAttempt? k answers
  | .forceRefreshOnSessionContext _ ref answers => c.forceAttempt? ref answers
  | _ => none

/-- The error of call `k`, when its context answers `ctxErr` after the index is back. -/
def callErr? (c : Pools) (k : Nat) (ctxErr : Option ContextErr) : Option PoolErr :=
  match (c.calls[k]?).map Call.phase with
  | some (.givingBack _ reason) => some (reason.result ctxErr)
  | _ => none

section
variable (e : Event Pools Op Reply)

/-- The error that the caller of a login gets from it; an acquisition looks at its context once more before it returns. -/
def reported (ctxErr : Option ContextErr) : Option PoolErr :=
  match e.op, e.out with
  | .advance k _, _ => e.post.callErr? k ctxErr
  | .forceRefreshOnSessionContext _ _ _, .cookie (some (.error err)) => some err
  | _, _ => none

/-- A login that ends with the error of its caller's context changes no back-off, and nobody takes it for a conflict. -/
def RequestLocal : Prop :=
  ∀ (a : Attempt) (err : ContextErr), attempt? e.pre e.op = some a → a.login = .error (.context err) →
    (∃ s, e.post.heap[a.pointer]? = some s ∧ s.backedOffUntil = a.session.backedOffUntil ∧
      s.backoffCount = a.session.backoffCount) ∧
    ∀ ctxErr err', reported e ctxErr = some err' → err'.isAuthConflict = false

/-- No login of a forced refresh ends with its caller's context while its session is a kick candidate. -/
def NotForcedOnCandidate : Prop :=
  ∀ (pool ref : Nat) (answers : Answers) (a : Attempt) (err : ContextErr),
    e.op = .forceRefreshOnSessionContext pool ref answers → forceAttempt? e.pre ref answers = some a →
      a.login = .error (.context err) → a.session.isKickCandidate a.later = false

end

/-! ## One login -/

variable {c : Pools} {k ref : Nat} {answers : Answers} {a : Attempt}

theorem ensureAttempt?_eq_some (h : c.ensureAttempt? k answers = some a) :
    ∃ call index, c.calls[k]? = some call ∧ call.phase = .locking index ∧
      c.session? call.pool index = some (a.pointer, a.session) ∧ a.session.cached answers.now = none ∧
      a.session.isBackedOff answers.now = false ∧ a.login = answers.login ∧ a.later = answers.later := by
  unfold ensureAttempt? at h
  obtain ⟨call, hcall, h⟩ := Option.bind_eq_some_iff.mp h
  split at h
  · rename_i index hphase
    obtain ⟨⟨pointer, s⟩, hsession, h⟩ := Option.bind_eq_some_iff.mp h
    dsimp only at h
    split at h
    · cases h
    · rename_i hfree
      cases h
      rw [Bool.or_eq_true, not_or, Bool.not_eq_true, Bool.not_eq_true, Option.isSome_eq_false_iff] at hfree
      exact ⟨call, index, hcall, hphase, hsession, Option.isNone_iff_eq_none.mp hfree.1, hfree.2, rfl, rfl⟩
  · cases h

theorem forceAttempt?_eq_some (h : c.forceAttempt? ref answers = some a) :
    ∃ r, c.refs[ref]? = some r ∧ r.session = some a.pointer ∧ c.heap[a.pointer]? = some a.session ∧
      answers.ctxErr = none ∧ a.session.isBackedOff answers.now = false ∧ a.login = answers.login ∧
      a.later = answers.later := by
  unfold forceAttempt? at h
  obtain ⟨r, hr, h⟩ := Option.bind_eq_some_iff.mp h
  obtain ⟨pointer, hpointer, h⟩ := Option.bind_eq_some_iff.mp h
  obtain ⟨s, hs, h⟩ := Option.bind_eq_some_iff.mp h
  split at h
  · cases h
  · rename_i hfree
    cases h
    rw [Bool.or_eq_true, not_or, Bool.not_eq_true, Bool.not_eq_true, Option.isSome_eq_false_iff] at hfree
    exact ⟨r, hr, hpointer, hs, Option.isNone_iff_eq_none.mp hfree.1, hfree.2, rfl, rfl⟩

theorem heap_of_session? {pool index pointer : Nat} (h : c.session? pool index = some (pointer, s)) :
    c.heap[pointer]? = some s := by
  unfold session? at h
  obtain ⟨p, -, h⟩ := Option.bind_eq_some_iff.mp h
  obtain ⟨pointer', -, h⟩ := Option.bind_eq_some_iff.mp h
  obtain ⟨s', hs, h⟩ := Option.bind_eq_some_iff.mp h
  cases h
  exact hs

theorem ensureValidLocked_context {now later : Time} (hcached : s.cached now = none)
    (hfree : s.isBackedOff now = false) :
    s.ensureValidLocked (.error (.context err)) now later = (s, .error (.context err)) := by
  unfold PooledSession.ensureValidLocked PooledSession.doLoginLocked
  rw [hcached, hfree]
  rfl

theorem forceRefreshLocked_context {now later : Time} (hfree : s.isBackedOff now = false) :
    s.forceRefreshLocked (.error (.context err)) now later =
      if s.isKickCandidate later then (s.applyBackoff later, .error .authConflict) else (s, .error (.context err)) := by
  unfold PooledSession.forceRefreshLocked PooledSession.doLoginLocked
  rw [hfree]
  rfl

/-! ## Both entry points -/

theorem result_not_conflict (ctxErr : Option ContextErr) (err : ContextErr) :
    ((GivesBack.failed (.context err)).result ctxErr).isAuthConflict = false := by
  cases ctxErr with
  | none | some => rfl

/-- **A cancelled login of an acquisition is request-local.** -/
theorem advance_requestLocal (c : Pools) (k : Nat) (answers : Answers) :
    RequestLocal (Event.of exec c (.advance k answers)) := by
  intro a err ha hlogin
  replace ha : c.ensureAttempt? k answers = some a := ha
  obtain ⟨call, index, hcall, hphase, hsession, hcached, hfree, hl, hlater⟩ := ensureAttempt?_eq_some ha
  have hpost : (exec c (.advance k answers)).1 =
      { c with heap := c.heap.set a.pointer a.session }.moveTo k call
        (.givingBack index (.failed (.context err))) := by
    show c.advance k answers = _
    unfold advance acquireIndex
    simp only [hcall, hphase, hsession]
    rw [← hl, hlogin, ensureValidLocked_context hcached hfree]
  refine ⟨⟨a.session, ?_, rfl, rfl⟩, fun ctxErr err' hreported => ?_⟩
  · show (exec c (.advance k answers)).1.heap[a.pointer]? = _
    rw [hpost]
    exact getElem?_set_same (heap_of_session? hsession)
  · have hget : (exec c (.advance k answers)).1.callErr? k ctxErr =
        some ((GivesBack.failed (.context err)).result ctxErr) := by
      rw [hpost]
      unfold callErr? moveTo
      simp only [getElem?_set_same hcall, Option.map_some]
    have hreport : (exec c (.advance k answers)).1.callErr? k ctxErr = some err' := hreported
    rw [hget] at hreport
    cases hreport
    exact result_not_conflict ctxErr err

theorem forceRefresh_context (ha : c.forceAttempt? ref answers = some a) (hlogin : a.login = .error (.context err)) :
    c.forceRefresh ref answers =
      if a.session.isKickCandidate a.later then
        ({ c with heap := c.heap.set a.pointer (a.session.applyBackoff a.later) }, some (.error .authConflict))
      else ({ c with heap := c.heap.set a.pointer a.session }, some (.error (.context err))) := by
  obtain ⟨r, hr, hpointer, hs, hctx, hfree, hl, hlater⟩ := forceAttempt?_eq_some ha
  unfold forceRefresh
  rw [hl] at hlogin
  simp only [hr, hctx, hpointer, Option.bind_some, hs, Option.map_some, hlogin, forceRefreshLocked_context hfree, hlater]
  by_cases hkick : a.session.isKickCandidate answers.later = true
  · simp only [hkick, if_true]
  · simp only [hkick, if_false, Bool.false_eq_true]

/-- **A cancelled login of a forced refresh is request-local exactly on a session that no kick is suspected of.** -/
theorem forceRefresh_requestLocal_iff (c : Pools) (pool ref : Nat) (answers : Answers) :
    RequestLocal (Event.of exec c (.forceRefreshOnSessionContext pool ref answers)) ↔
      NotForcedOnCandidate (Event.of exec c (.forceRefreshOnSessionContext pool ref answers)) := by
  constructor
  · intro h pool' ref' answers' a err hop ha hlogin
    cases hop
    replace ha : c.forceAttempt? ref answers = some a := ha
    obtain ⟨-, hreport⟩ := h a err ha hlogin
    have hforce := forceRefresh_context ha hlogin
    by_contra hkick
    rw [Bool.not_eq_false] at hkick
    rw [if_pos hkick] at hforce
    have hconflict : reported (Event.of exec c (.forceRefreshOnSessionContext pool ref answers)) none =
        some .authConflict := by
      unfold reported Event.of exec
      simp only [hforce]
    cases hreport none _ hconflict
  · intro h a err ha hlogin
    replace ha : c.forceAttempt? ref answers = some a := ha
    have hkick := h pool ref answers a err rfl ha hlogin
    have hforce := forceRefresh_context ha hlogin
    rw [if_neg (by rw [hkick]; exact Bool.false_ne_true)] at hforce
    obtain ⟨r, hr, hpointer, hs, -⟩ := forceAttempt?_eq_some ha
    refine ⟨⟨a.session, ?_, rfl, rfl⟩, fun ctxErr err' hreported => ?_⟩
    · show (c.forceRefresh ref answers).1.heap[a.pointer]? = _
      rw [hforce]
      exact getElem?_set_same hs
    · have hreport : reported (Event.of exec c (.forceRefreshOnSessionContext pool ref answers)) ctxErr =
          some (.context err) := by
        unfold reported Event.of exec
        simp only [hforce]
      rw [hreport] at hreported
      cases hreported
      rfl

/-! ## Every run -/

theorem exec_requestLocal_iff (c : Pools) (op : Op) :
    RequestLocal (Event.of exec c op) ↔ NotForcedOnCandidate (Event.of exec c op) := by
  cases op with
  | advance k answers =>
    refine iff_of_true (advance_requestLocal c k answers) ?_
    intro pool ref answers' a err hop
    cases hop
  | forceRefreshOnSessionContext pool ref answers => exact forceRefresh_requestLocal_iff c pool ref answers
  | _ =>
    refine iff_of_true ?_ ?_
    · intro a err ha
      cases ha
    · intro pool ref answers a err hop
      cases hop

/-- **The cancelled logins are request-local exactly when none belongs to a forced refresh of a session that counts as a
kick candidate.** -/
theorem cancelled_logins_request_local (ops : List Op) :
    (∀ e ∈ trace exec {} ops, RequestLocal e) ↔ ∀ e ∈ trace exec {} ops, NotForcedOnCandidate e :=
  trace_forall_iff (fun c op (_ : True) => exec_requestLocal_iff c op) (fun _ _ _ _ => trivial) trivial ops

def loggedInOps : List Op :=
  [.newSessionPool 1 1 1 0 fun _ => 0, .acquire 0 .qr, .advance 0 { now := minute }, .advance 0 { now := minute },
    .advance 0 { now := minute, later := minute, login := .ok "cookie" }, .advance 0 { now := minute }]

/-- A minute later its reference is refreshed by a caller that gives up during the login. -/
def cancelledAnswers : Answers :=
  { now := 2 * minute, later := 2 * minute, login := .error (.context .canceled) }

theorem cancelled_refresh_backs_off : ¬ ∀ (ops : List Op), ∀ e ∈ trace exec {} ops, RequestLocal e := by
  intro h
  have hlocal := h (loggedInOps ++ [.forceRefreshOnSessionContext 0 0 cancelledAnswers]) _
    (mem_trace_snoc _ loggedInOps _)
  obtain ⟨a, ha⟩ := Option.isSome_iff_exists.mp
    (by decide +kernel : ((final exec {} loggedInOps).forceAttempt? 0 cancelledAnswers).isSome = true)
  have hkick : ((final exec {} loggedInOps).forceAttempt? 0 cancelledAnswers).all
      (fun a => a.session.isKickCandidate a.later) = true := by decide +kernel
  rw [ha, Option.all_some] at hkick
  obtain ⟨-, -, -, -, -, -, hlogin, -⟩ := forceAttempt?_eq_some ha
  have hfalse := (exec_requestLocal_iff _ _).mp hlocal 0 0 cancelledAnswers a .canceled rfl ha hlogin
  rw [hkick] at hfalse
  cases hfalse

end Pools

end QrCommandCenter.Warwick
