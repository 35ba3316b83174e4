import QrCommandCenter.Warwick.SessionPool

/-!
# One session for all callers

`WarwickAuth` of `internal/warwick/auth.go` and the callers that retry once after a rejected cookie. The environment chooses which
caller moves, the clock, the answers of the login page and of the upstream, and when a caller notices that its context is over.

* `AuthGoal`, `AuthPhase`, `AuthCaller` : what a caller wants a session for, and where it stands;
* `WarwickAuth.advance` : one step of `GetValidSessionContext`, `ForceRefreshContext` or of the code around them;
* `AuthReport` : a forced refresh returns, or the second attempt is made.

Logins are numbered in the order in which they complete. Generations are left out: no caller looks at them.
-/

namespace QrCommandCenter.Warwick
open Domain

/-- `sessionState`, with the number of its login. -/
structure SessionState where
  cookieValue : String
  expiresAt : Time
  login : Nat
  deriving DecidableEq, Repr

/-- `now.Before(expiresAt.Add(-sessionRefreshBuffer))`. -/
def SessionState.fresh (s : SessionState) (now : Time) : Bool := decide (now < s.expiresAt - sessionRefreshBuffer)

/-- Why a caller asks for a valid session; `rejected` is the session whose cookie it saw rejected. -/
inductive AuthGoal
  | first
  /-- the double check of `ForceRefreshContext` -/
  | doubleCheck (rejected : SessionState)
  | second (rejected : SessionState)
  deriving DecidableEq, Repr

/-- What the caller does around `ForceRefreshContext`. -/
inductive AuthRetry
  /-- it asks for a valid session again: `GetCourses`, `fetchCoursesRaw`, `GetSessionDetail` -/
  | rereads
  /-- it uses the cookie that the refresh returns: `FetchAttendanceLabelContext` -/
  | uses
  /-- it drops the stored session if it has the rejected cookie, and uses the returned one: `fetchWithAuth` -/
  | drops
  deriving DecidableEq, Repr

inductive AuthPhase
  /-- at the start of `GetValidSessionContext` -/
  | lookup (goal : AuthGoal)
  /-- before `acquireGate(ctx, a.refreshGate)` -/
  | gate (goal : AuthGoal)
  /-- with the refresh gate, before `sessionMu.Lock()` -/
  | lock (goal : AuthGoal)
  /-- with the gate and the lock, the login under way -/
  | login (goal : AuthGoal)
  /-- a request with the cookie of `session` is under way; `rejected` is set in the second attempt -/
  | using (rejected : Option SessionState) (session : SessionState)
  /-- before the stored session is dropped -/
  | dropping (rejected : SessionState)
  /-- before `acquireGate(ctx, a.forceRefreshGate)` -/
  | queued (rejected : SessionState)
  /-- the login of a forced refresh is under way -/
  | forcedLogin (rejected : SessionState)
  /-- before the new session is stored -/
  | publish (rejected session : SessionState)
  | finished
  deriving DecidableEq, Repr

structure AuthCaller where
  retry : AuthRetry
  phase : AuthPhase
  /-- the second attempt was rejected too -/
  last : Bool := false
  deriving DecidableEq, Repr

structure WarwickAuth where
  session : Option SessionState := none
  /-- `sessionMu` is held by a login -/
  locked : Bool := false
  refreshGate : Bool := false
  forceRefreshGate : Bool := false
  /-- the logins that have completed -/
  logins : Nat := 0
  callers : List AuthCaller := []
  deriving DecidableEq, Repr

structure AuthInput where
  now : Time := 0
  /-- the context is over, and this step notices it -/
  canceled : Bool := false
  /-- the cookie of the login that completes, if it succeeds -/
  login : Option String := none
  /-- the upstream rejects the cookie -/
  rejects : Bool := false
  deriving DecidableEq, Repr

inductive AuthOp
  | call (retry : AuthRetry)
  | advance (caller : Nat) (input : AuthInput)
  deriving DecidableEq, Repr

/-- What is seen from outside. -/
inductive AuthReport
  /-- `ForceRefreshContext` returns the cookie of `session` to a caller that saw `rejected` rejected -/
  | refreshed (rejected session : SessionState)
  /-- the second attempt is made with the cookie of `session` -/
  | attempted (rejected session : SessionState)
  deriving DecidableEq, Repr

namespace WarwickAuth

section
variable (a : WarwickAuth) (w : Nat) (c : AuthCaller)

def moveTo (phase : AuthPhase) : WarwickAuth :=
  { a with callers := a.callers.set w { c with phase := phase } }

def refreshed (rejected s : SessionState) : WarwickAuth × List AuthReport :=
  let a := { a with forceRefreshGate := false }
  match c.retry, c.last with
  | .rereads, false => (a.moveTo w c (.lookup (.second rejected)), [.refreshed rejected s])
  | .rereads, true => (a.moveTo w c .finished, [.refreshed rejected s])
  | _, _ => (a.moveTo w c (.using (some rejected) s), [.refreshed rejected s, .attempted rejected s])

def deliver (goal : AuthGoal) (s : SessionState) : WarwickAuth × List AuthReport :=
  match goal with
  | .first => (a.moveTo w c (.using none s), [])
  | .doubleCheck rejected => a.refreshed w c rejected s
  | .second rejected => (a.moveTo w c (.using (some rejected) s), [.attempted rejected s])

def fail (goal : AuthGoal) (canceled : Bool) : WarwickAuth :=
  match goal with
  | .doubleCheck rejected =>
    if canceled then { a with forceRefreshGate := false }.moveTo w c .finished else a.moveTo w c (.forcedLogin rejected)
  | _ => a.moveTo w c .finished

end

/-- `performLoginContext` of the next login. -/
def performLogin (a : WarwickAuth) (input : AuthInput) (cookie : String) : SessionState where
  cookieValue := cookie
  expiresAt := input.now + sessionTTL
  login := a.logins

/-- One step of caller `w`; a caller that has to wait stays where it is. -/
def advance (a : WarwickAuth) (w : Nat) (c : AuthCaller) (input : AuthInput) : WarwickAuth × List AuthReport :=
  match c.phase with
  | .lookup goal =>
    if input.canceled then (a.fail w c goal true, [])
    else if a.locked then (a, [])
    else
      match a.session.filter (·.fresh input.now) with
      | some s => a.deliver w c goal s
      | none => (a.moveTo w c (.gate goal), [])
  | .gate goal =>
    if input.canceled then (a.fail w c goal true, [])
    else if a.refreshGate then (a, [])
    else ({ a with refreshGate := true }.moveTo w c (.lock goal), [])
  | .lock goal =>
    if a.locked then (a, [])
    else
      match a.session.filter (·.fresh input.now) with
      | some s => { a with refreshGate := false }.deliver w c goal s
      | none => ({ a with locked := true }.moveTo w c (.login goal), [])
  | .login goal =>
    let a := { a with locked := false, refreshGate := false }
    match input.login with
    | none => (a.fail w c goal input.canceled, [])
    | some cookie =>
      let s := a.performLogin input cookie
      { a with session := some s, logins := a.logins + 1 }.deliver w c goal s
  | .using rejected s =>
    match rejected, input.rejects, c.retry with
    | none, true, .drops => (a.moveTo w c (.dropping s), [])
    | none, true, _ => (a.moveTo w c (.queued s), [])
    -- the loop of two attempts refreshes once more before it ends
    | some _, true, .rereads => (a.moveTo w { c with last := true } (.queued s), [])
    | _, _, _ => (a.moveTo w c .finished, [])
  | .dropping rejected =>
    if a.locked then (a, [])
    else
      ({ a with session := a.session.filter (·.cookieValue != rejected.cookieValue) }.moveTo w c (.queued rejected), [])
  | .queued rejected =>
    if input.canceled then (a.moveTo w c .finished, [])
    else if a.forceRefreshGate then (a, [])
    else ({ a with forceRefreshGate := true }.moveTo w c (.lookup (.doubleCheck rejected)), [])
  | .forcedLogin rejected =>
    match input.login with
    | none => ({ a with forceRefreshGate := false }.moveTo w c .finished, [])
    | some cookie =>
      ({ a with logins := a.logins + 1 }.moveTo w c (.publish rejected (a.performLogin input cookie)), [])
  | .publish rejected s =>
    if a.locked then (a, []) else { a with session := some s }.refreshed w c rejected s
  | .finished => (a, [])

def exec (a : WarwickAuth) : AuthOp → WarwickAuth × List AuthReport
  | .call retry => ({ a with callers := a.callers ++ [{ retry := retry, phase := .lookup .first }] }, [])
  | .advance w input =>
    match a.callers[w]? with
    | some c => a.advance w c input
    | none => (a, [])

end WarwickAuth

end QrCommandCenter.Warwick
