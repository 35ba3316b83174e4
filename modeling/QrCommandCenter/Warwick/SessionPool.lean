import QrCommandCenter.Domain.Classroom
import QrCommandCenter.Lib.Heap
import QrCommandCenter.Lib.Transition
import Mathlib.Algebra.Order.Ring.Int

/-!
# The session pool

`internal/warwick/session_pool.go`: logged-in sessions handed out by index through one bounded queue per traffic tier.

* `PooledSession` with `ensureValidSession`, `doLoginLocked` and the back-off after a suspected admin kick;
* `SessionPool`, `newSessionPool`, `availableForTier`;
* `Pools` : the heap with all pools, references and running calls, and `Pools.exec` : one step of one of them.

A blocking call is cut at every point where another goroutine can come in: the receive from the queue, each look at the
context, the login, and the send that gives an index back. What the context, the clock and the login answer is chosen by the
operation. A context may answer differently at two looks in any order, which includes every real one.
-/

namespace QrCommandCenter.Warwick
open Domain

/-! ## Errors and tiers -/

inductive SessionTier
  | qr
  | teacher
  | interactive
  | other (code : Int)
  deriving DecidableEq, Repr

/-- `ctx.Err()` of a context that is over. -/
inductive ContextErr
  | canceled
  | deadlineExceeded
  deriving DecidableEq, Repr

/-- How long a caller that found no session waited, as the message says it. -/
inductive Waited
  | never
  | notRequested
  | upTo (timeout : Duration)
  deriving DecidableEq, Repr

inductive PoolErr
  /-- `warwick: <field> must be >= 1, got %d` -/
  | tooFew (field : String) (got : Int)
  /-- `warwick: nil acquisition context` -/
  | nilContext
  /-- `warwick: unknown session tier %d` -/
  | unknownTier (tier : SessionTier)
  | context (err : ContextErr)
  /-- `ErrNoAvailableSessions` with the tier and its size -/
  | noAvailableSessions (tier : SessionTier) (size : Int) (waited : Waited)
  /-- `warwick: acquire session: %w` -/
  | acquireSession (err : PoolErr)
  | authConflict
  /-- any other failure of `loginWithContext` -/
  | login (message : String)
  deriving DecidableEq, Repr

/-! ## One session -/

def sessionRefreshBuffer : Duration := 5 * minute
def sessionTTL : Duration := 60 * minute
def sessionMinValidAge : Duration := 2 * minute
def sessionMaxValidAge : Duration := 55 * minute
def sessionBackoffInitial : Duration := 30 * second
def sessionBackoffMax : Duration := 15 * minute
def sessionBackoffMaxAttempts : Nat := 6

structure PooledSession where
  cookie : String := ""
  obtainedAt : Time := 0
  expiresAt : Time := 0
  generation : Nat := 0
  backedOffUntil : Time := 0
  backoffCount : Nat := 0
  deriving DecidableEq, Repr

namespace PooledSession

section
variable (s : PooledSession)

def applyBackoff (now : Time) : PooledSession :=
  let count := s.backoffCount + 1
  -- a session obtained at most two minutes ago was kicked for certain: the longest back-off at once
  let count := if count = 1 ∧ now - s.obtainedAt ≤ sessionMinValidAge then sessionBackoffMaxAttempts else count
  let count := if sessionBackoffMaxAttempts < count then sessionBackoffMaxAttempts else count
  let d := sessionBackoffInitial * 2 ^ (count - 1)
  let d := if sessionBackoffMax < d then sessionBackoffMax else d
  { s with backoffCount := count, backedOffUntil := now + d }

def resetBackoff : PooledSession := { s with backedOffUntil := 0, backoffCount := 0 }

def isBackedOff (now : Time) : Bool := now < s.backedOffUntil

def isKickCandidate (now : Time) : Bool :=
  !isZeroTime s.obtainedAt && now - s.obtainedAt ≤ sessionMaxValidAge

/-- The cookie and the generation, as long as they are good for the refresh buffer. -/
def cached (now : Time) : Option (String × Nat) :=
  if s.cookie ≠ "" ∧ now < s.expiresAt - sessionRefreshBuffer then some (s.cookie, s.generation) else none

section
variable (login : Except PoolErr String)

/-- `doLoginLocked`: `login` is what `loginWithContext` returned, at `now`. -/
def doLoginLocked (now : Time) :
    PooledSession × Except PoolErr (String × Nat) :=
  match login with
  | .error err => (s, .error err)
  | .ok cookie =>
    ({ s with cookie := cookie, obtainedAt := now, expiresAt := now + sessionTTL, generation := s.generation + 1 },
      .ok (cookie, s.generation + 1))

/-- The part of `ensureValidSession` under the write lock; the login starts at `now` and ends at `later`. -/
def ensureValidLocked (now later : Time) :
    PooledSession × Except PoolErr (String × Nat) :=
  match s.cached now with
  | some found => (s, .ok found)
  | none =>
    if s.isBackedOff now then (s, .error .authConflict)
    else
      match s.doLoginLocked login later with
      -- a cancelled caller is not evidence of a kick
      | (s, .error (.context err)) => (s, .error (.context err))
      | (s, .error err) =>
        if s.isKickCandidate later then (s.applyBackoff later, .error .authConflict) else (s, .error err)
      | (s, .ok found) => (s.resetBackoff, .ok found)

/-- The part of `ForceRefreshOnSessionContext` under the write lock. -/
def forceRefreshLocked (now later : Time) :
    PooledSession × Except PoolErr (String × Nat) :=
  if s.isBackedOff now then (s, .error .authConflict)
  else
    match s.doLoginLocked login later with
    | (s, .error err) =>
      if s.isKickCandidate later then (s.applyBackoff later, .error .authConflict) else (s, .error err)
    | (s, .ok found) => (s.resetBackoff, .ok found)

end

end

end PooledSession

/-! ## A pool -/

structure Chan where
  items : List Nat := []
  cap : Nat := 0
  deriving DecidableEq, Repr

structure SessionPool where
  sessions : List Nat
  qrAvailable : Chan
  teacherAvailable : Chan
  interactiveAvailable : Chan
  qrSize : Int
  teacherSize : Int
  interactiveSize : Int
  deriving DecidableEq, Repr

namespace SessionPool

def availableForTier (p : SessionPool) : SessionTier → Except PoolErr (Chan × Int)
  | .qr => .ok (p.qrAvailable, p.qrSize)
  | .teacher => .ok (p.teacherAvailable, p.teacherSize)
  | .interactive => .ok (p.interactiveAvailable, p.interactiveSize)
  | .other code => .error (.unknownTier (.other code))

def withItems (p : SessionPool) (tier : SessionTier) (items : List Nat) : SessionPool :=
  match tier with
  | .qr => { p with qrAvailable.items := items }
  | .teacher => { p with teacherAvailable.items := items }
  | .interactive => { p with interactiveAvailable.items := items }
  | .other _ => p

end SessionPool

/-- The first field of `NewSessionPool` that is below one. -/
def sizeErr (qrSessions teacherSessions interactiveSessions : Int) : Option PoolErr :=
  if qrSessions < 1 then some (.tooFew "qrSessions" qrSessions)
  else if teacherSessions < 1 then some (.tooFew "teacherSessions" teacherSessions)
  else if interactiveSessions < 1 then some (.tooFew "interactiveSessions" interactiveSessions)
  else none

/-- The pool that `NewSessionPool` returns: its sessions lie at `base` and after, the indices are queued tier by tier. -/
def newSessionPool (base qr teacher interactive : Nat) : SessionPool where
  sessions := List.range' base (qr + teacher + interactive)
  qrAvailable := { items := List.range' 0 qr, cap := qr }
  teacherAvailable := { items := List.range' qr teacher, cap := teacher }
  interactiveAvailable := { items := List.range' (qr + teacher) interactive, cap := interactive }
  qrSize := qr
  teacherSize := teacher
  interactiveSize := interactive

/-- A new session: no cookie, and an expiry up to five minutes in the past. -/
def newSession (now : Time) (stagger : Duration) : PooledSession := { expiresAt := now - stagger }

/-! ## References and running calls -/

/-- `SessionRef`; `session` and `pool` are pointers. A reference made outside the package has neither. -/
structure SessionRef where
  cookie : String := ""
  generation : Nat := 0
  session : Option Nat := none
  pool : Option Nat := none
  tier : SessionTier := .qr
  index : Nat := 0
  released : Bool := false
  deriving DecidableEq, Repr

/-- Why `acquireIndex` gives its index back: the context was over, or `ensureValidSession` failed. -/
inductive GivesBack
  | over (err : ContextErr)
  | failed (err : PoolErr)
  deriving DecidableEq, Repr

/-- The error that `acquireIndex` returns once the index is back. -/
def GivesBack.result (ctxErr : Option ContextErr) : GivesBack → PoolErr
  | .over err => .context err
  | .failed err =>
    match ctxErr with
    | some ctxErr => .context ctxErr
    | none => .acquireSession err

inductive Phase
  /-- in the `select`, with the timer running -/
  | waiting (timeout : Duration)
  /-- at the start of `acquireIndex` -/
  | received (index : Nat)
  /-- at the start of `ensureValidSession` -/
  | ensuring (index : Nat)
  /-- the cookie is not good: before the write lock -/
  | locking (index : Nat)
  /-- `ensureValidSession` has returned a cookie -/
  | ensured (index : Nat) (cookie : String) (generation : Nat)
  /-- before `available <- index` -/
  | givingBack (index : Nat) (reason : GivesBack)
  /-- the reference returned, or the error -/
  | returned (result : Except PoolErr Nat)
  deriving DecidableEq, Repr

/-- A call of `Acquire` (with the background context, which is never over) or `AcquireWithTimeoutContext`. -/
structure Call where
  pool : Nat
  tier : SessionTier
  background : Bool
  phase : Phase
  deriving DecidableEq, Repr

def Call.ref (call : Call) (index : Nat) (cookie : String) (generation pointer : Nat) : SessionRef where
  cookie := cookie
  generation := generation
  session := some pointer
  pool := some call.pool
  tier := call.tier
  index := index

/-- A call of `Release` that has marked its reference and sends the index to the queue of `tier` of `pool`. -/
structure Release where
  pool : Nat
  tier : SessionTier
  index : Nat
  sent : Bool := false
  deriving DecidableEq, Repr

/-- All pools of the process, with their sessions, references and calls. -/
structure Pools where
  heap : List PooledSession := []
  pools : List SessionPool := []
  refs : List SessionRef := []
  calls : List Call := []
  releases : List Release := []

namespace Pools

/-! ## Queues -/

section
variable (c : Pools) (pool : Nat) (tier : SessionTier)

def channel? : Option Chan := do
  let p ← c.pools[pool]?
  let found ← (p.availableForTier tier).toOption
  pure found.1

def setItems (items : List Nat) : Pools :=
  match c.pools[pool]? with
  | none => c
  | some p => { c with pools := c.pools.set pool (p.withItems tier items) }

/-- `<-available`; none if the queue is empty. -/
def receive : Option (Nat × Pools) :=
  match c.channel? pool tier with
  | some { items := index :: items, cap := _ } => some (index, c.setItems pool tier items)
  | _ => none

/-- `available <- index`; none if the queue is full, so that the send blocks. -/
def send (index : Nat) : Option Pools :=
  match c.channel? pool tier with
  | some ch => if ch.items.length < ch.cap then some (c.setItems pool tier (ch.items ++ [index])) else none
  | none => none

end

/-! ## The operations -/

section
variable (c : Pools)

def addPool (p : SessionPool) (sessions : List PooledSession) : Pools :=
  { c with heap := c.heap ++ sessions, pools := c.pools ++ [p] }

def newPool (qrSessions teacherSessions interactiveSessions : Int) (now : Time) (stagger : Nat → Duration) :
    Pools × Except PoolErr Nat :=
  match sizeErr qrSessions teacherSessions interactiveSessions with
  | some err => (c, .error err)
  | none =>
    let p := newSessionPool c.heap.length qrSessions.toNat teacherSessions.toNat interactiveSessions.toNat
    (c.addPool p ((List.range p.sessions.length).map fun i => newSession now (stagger i)), .ok c.pools.length)

section
variable (pool : Nat) (tier : SessionTier)

def start (background : Bool) (phase : Phase) : Pools :=
  { c with calls := c.calls ++ [{ pool := pool, tier := tier, background := background, phase := phase }] }

/-- The `select` with a default case. -/
def tryReceive (background : Bool) (size : Int) (waited : Waited) : Pools :=
  match c.receive pool tier with
  | some (index, c) => c.start pool tier background (.received index)
  | none => c.start pool tier background (.returned (.error (.noAvailableSessions tier size waited)))

/-- `Acquire`, up to `acquireIndex`. -/
def acquire : Pools :=
  match c.pools[pool]? with
  | none => c
  | some p =>
    match p.availableForTier tier with
    | .error err => c.start pool tier true (.returned (.error err))
    | .ok (_, size) => c.tryReceive pool tier true size .never

end

/-- `AcquireWithTimeoutContext`, up to its `select`; `ctx` is none for a nil context, else what it answers. -/
def acquireWithTimeoutContext (pool : Nat) (ctx : Option (Option ContextErr)) (tier : SessionTier)
    (timeout : Duration) : Pools :=
  match c.pools[pool]? with
  | none => c
  | some p =>
    match ctx with
    | none => c.start pool tier false (.returned (.error .nilContext))
    | some ctxErr =>
      match p.availableForTier tier with
      | .error err => c.start pool tier false (.returned (.error err))
      | .ok (_, size) =>
        match ctxErr with
        | some err => c.start pool tier false (.returned (.error (.context err)))
        | none =>
          if timeout ≤ 0 then c.tryReceive pool tier false size .notRequested
          else c.start pool tier false (.waiting timeout)

def moveTo (k : Nat) (call : Call) (phase : Phase) : Pools :=
  { c with calls := c.calls.set k { call with phase := phase } }

end

inductive Wake
  | done (err : ContextErr)
  | available
  | timer

/-- The `select` of call `k` takes a case; an operation on a case that is not ready does nothing. -/
def wake (c : Pools) (k : Nat) (case : Wake) : Pools :=
  match c.calls[k]? with
  | none => c
  | some call =>
    match call.phase with
    | .waiting timeout =>
      match case with
      | .done err => c.moveTo k call (.returned (.error (.context err)))
      | .available =>
        match c.receive call.pool call.tier with
        | some (index, c) => c.moveTo k call (.received index)
        | none => c
      | .timer =>
        match (c.pools[call.pool]?).bind fun p => (p.availableForTier call.tier).toOption with
        | some (_, size) => c.moveTo k call (.returned (.error (.noAvailableSessions call.tier size (.upTo timeout))))
        | none => c
    | _ => c

/-- What call `k` finds at its next step: the answers of its context, the clock and the login. -/
structure Answers where
  ctxErr : Option ContextErr := none
  now : Time := 0
  later : Time := 0
  login : Except PoolErr String := .ok ""

section
variable (c : Pools)

def session? (pool index : Nat) : Option (Nat × PooledSession) := do
  let p ← c.pools[pool]?
  let pointer ← p.sessions[index]?
  let s ← c.heap[pointer]?
  pure (pointer, s)

/-- `acquireIndex` of call `k`, to its next look at context, session or queue; `ctxErr` is what its context answers. -/
def acquireIndex (k : Nat) (call : Call) (ctxErr : Option ContextErr) (answers : Answers) : Pools :=
  match call.phase with
  | .waiting _ => c
  | .received index =>
    match ctxErr with
    | some err => c.moveTo k call (.givingBack index (.over err))
    | none => c.moveTo k call (.ensuring index)
  | .ensuring index =>
    match ctxErr with
    | some err => c.moveTo k call (.givingBack index (.failed (.context err)))
    | none =>
      match c.session? call.pool index with
      | none => c
      | some (_, s) =>
        match s.cached answers.now with
        | some (cookie, generation) => c.moveTo k call (.ensured index cookie generation)
        | none => c.moveTo k call (.locking index)
  | .locking index =>
    match c.session? call.pool index with
    | none => c
    | some (pointer, s) =>
      match s.ensureValidLocked answers.login answers.now answers.later with
      | (s, .ok (cookie, generation)) =>
        { c with heap := c.heap.set pointer s }.moveTo k call (.ensured index cookie generation)
      | (s, .error err) => { c with heap := c.heap.set pointer s }.moveTo k call (.givingBack index (.failed err))
  | .ensured index cookie generation =>
    match ctxErr with
    | some err => c.moveTo k call (.givingBack index (.over err))
    | none =>
      match c.session? call.pool index with
      | none => c
      | some (pointer, _) =>
        { c with refs := c.refs ++ [call.ref index cookie generation pointer] }.moveTo k call
          (.returned (.ok c.refs.length))
  | .givingBack index reason =>
    match c.send call.pool call.tier index with
    | none => c
    | some c => c.moveTo k call (.returned (.error (reason.result ctxErr)))
  | .returned _ => c

def advance (k : Nat) (answers : Answers) : Pools :=
  match c.calls[k]? with
  | none => c
  | some call => c.acquireIndex k call (if call.background then none else answers.ctxErr) answers

/-- The pool that takes a reference back: none if one of the checks of `Release` stops it. -/
def owner? (r : SessionRef) (pointer : Nat) : Option Nat :=
  match r.pool with
  | none => none
  | some owner =>
    match c.pools[owner]? with
    | none => none
    | some p =>
      if p.sessions[r.index]? ≠ some pointer then none
      else
        match p.availableForTier r.tier with
        | .error _ => none
        | .ok _ => some owner

/-- `Release`, up to its send. The pool it is called on is not looked at. -/
def release (ref : Option Nat) : Pools :=
  match ref with
  | none => c
  | some ref =>
    match c.refs[ref]? with
    | none => c
    | some r =>
      match r.session with
      | none => c
      | some pointer =>
        if r.released then c
        else
          let refs := c.refs.set ref { r with released := true }
          match c.owner? r pointer with
          | none => { c with refs := refs }
          | some owner =>
            { c with
              refs := refs,
              releases := c.releases ++ [{ pool := owner, tier := r.tier, index := r.index }] }

/-- The send of the `Release` call `k`. -/
def sendReleased (k : Nat) : Pools :=
  match c.releases[k]? with
  | none => c
  | some call =>
    if call.sent then c
    else
      match c.send call.pool call.tier call.index with
      | none => c
      | some c => { c with releases := c.releases.set k { call with sent := true } }

/-- `ForceRefreshOnSessionContext` on a reference that has a session; a nil context counts as one that is never over. -/
def forceRefresh (ref : Nat) (answers : Answers) : Pools × Option (Except PoolErr (String × Nat)) :=
  match c.refs[ref]? with
  | none => (c, none)
  | some r =>
    match answers.ctxErr with
    | some err => (c, some (.error (.context err)))
    | none =>
      match r.session.bind fun pointer => (c.heap[pointer]?).map (Prod.mk pointer) with
      | none => (c, none)
      | some (pointer, s) =>
        match s.forceRefreshLocked answers.login answers.now answers.later with
        | (s, .error err) => ({ c with heap := c.heap.set pointer s }, some (.error err))
        | (s, .ok (cookie, generation)) =>
          ({ c with
              heap := c.heap.set pointer s,
              refs := c.refs.set ref { r with cookie := cookie, generation := generation } },
            some (.ok (cookie, generation)))

end

inductive Op
  | newSessionPool (qrSessions teacherSessions interactiveSessions : Int) (now : Time) (stagger : Nat → Duration)
  | acquire (pool : Nat) (tier : SessionTier)
  | acquireWithTimeoutContext (pool : Nat) (ctx : Option (Option ContextErr)) (tier : SessionTier) (timeout : Duration)
  | wake (call : Nat) (case : Wake)
  | advance (call : Nat) (answers : Answers)
  /-- `Release` called on `pool` -/
  | release (pool : Nat) (ref : Option Nat)
  | sendReleased (call : Nat)
  | forceRefreshOnSessionContext (pool ref : Nat) (answers : Answers)
  /-- a reference written down by a caller -/
  | newRef (cookie : String) (generation : Nat)

inductive Reply
  | none
  | pool (result : Except PoolErr Nat)
  | cookie (result : Option (Except PoolErr (String × Nat)))

def exec (c : Pools) : Op → Pools × Reply
  | .newSessionPool qrSessions teacherSessions interactiveSessions now stagger =>
    let (c, result) := c.newPool qrSessions teacherSessions interactiveSessions now stagger
    (c, .pool result)
  | .acquire pool tier => (c.acquire pool tier, .none)
  | .acquireWithTimeoutContext pool ctx tier timeout => (c.acquireWithTimeoutContext pool ctx tier timeout, .none)
  | .wake call case => (c.wake call case, .none)
  | .advance call answers => (c.advance call answers, .none)
  | .release _ ref => (c.release ref, .none)
  | .sendReleased call => (c.sendReleased call, .none)
  | .forceRefreshOnSessionContext _ ref answers =>
    let (c, result) := c.forceRefresh ref answers
    (c, .cookie result)
  | .newRef cookie generation =>
    ({ c with refs := c.refs ++ [{ cookie := cookie, generation := generation }] }, .none)

end Pools

end QrCommandCenter.Warwick
