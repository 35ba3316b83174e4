import Mathlib.Data.Fintype.Pi
import QrCommandCenter.Lib.QueryCache
import QrCommandCenter.Web.SnapshotEvents

/-!
# Query results in the browser

The browser caches what the REST endpoints return and drops it on the word of the WebSocket: `invalidation-map.ts` says which
queries a committed snapshot invalidates, `websocket-client.ts` when that is done.

* `getAffectedQueryKeys` : the keys that a commit invalidates, and `endpointReads` : the targets an endpoint is built from;
* `Browser`, `BrowserOp`, `Browser.exec` : the committed versions, the WebSocket of `RealtimeClient`, and the cached queries;
* `Current` : every cached result is as new as the version recorded for its targets;
* `Covers` : every older result that is cached or on its way belongs to a query that the message invalidates;
* `exec_fresh_iff` : a step keeps older results invalidated exactly when it handles no message that leaves one out;
* `results_current` : in a run without such a message the results of an idle browser are current.
-/

namespace QrCommandCenter.Web
open Domain Transition QueryCache Service

variable {key : QueryKey}

/-! ## Queries -/

/-- A part of a query key: a string, or another value by its JSON text. -/
inductive KeyPart where
  | text (text : String)
  | value (json : String)
deriving DecidableEq, Repr

abbrev QueryKey := List KeyPart

/-- `getAffectedQueryKeys`; the server always encodes the parent key. -/
def getAffectedQueryKeys (metadata : SnapshotMetadata) : List QueryKey :=
  match metadata.kind with
  | .courseCatalog => [[.text "courses"]]
  | .courseDetail =>
    [[.text "courses"],
      [.text "courses", .text "detail", .text metadata.resourceKey],
      [.text "attendance", .text metadata.resourceKey],
      [.text "absence-dashboard"]]
  | .sessionDetail =>
    [[.text "courses", .text "detail", .text metadata.parentKey],
      [.text "sessions", .text metadata.parentKey],
      [.text "sessions", .text metadata.parentKey, .text metadata.resourceKey],
      [.text "attendance", .text metadata.parentKey],
      [.text "absence-dashboard"]]
  | _ => []

/-- The targets of `GetCourseDetail`: the course, the catalog that is laid over it, and the counts of its sessions. -/
def courseReads (courseId : String) (ref : TargetRef) : Bool :=
  match ref.kind with
  | .courseCatalog => true
  | .courseDetail => ref.resourceKey = courseId
  | .sessionDetail => ref.parentKey = courseId
  | _ => false

def endpointReads (key : QueryKey) (ref : TargetRef) : Bool :=
  match key with
  | [.text "courses"] => ref.kind = .courseCatalog || ref.kind = .courseDetail || ref.kind = .sessionDetail
  | [.text "sessions", .text courseId] => courseReads courseId ref
  | [.text "sessions", .text courseId, .text sessionId] =>
    (ref.kind = .sessionDetail && ref.parentKey = courseId && ref.resourceKey = sessionId) || ref.kind = .studentProfiles
  | [.text "attendance", .text courseId, .value _] => courseReads courseId ref || ref.kind = .studentProfiles
  | [.text "attendance", .text "batch", .value _, .value _] =>
    ref.kind = .courseCatalog || ref.kind = .courseDetail || ref.kind = .sessionDetail
  | [.text "absence-dashboard", .text "report", .value _] => ref.kind.valid
  | _ => false

/-! ## The browser -/

inductive Socket where
  | connecting
  | opened (inbox : List Message)

/-- The browser next to the committed versions of one host. -/
structure Browser where
  latest : Versions := fun _ => 0
  snapshotVersions : Versions := fun _ => 0
  queries : List (Query KeyPart TargetRef) := []
  socket : Option Socket := none
  reconnectTimer : Bool := false
  reconnectAttempts : Nat := 0
  stopped : Bool := true

inductive BrowserOp where
  | commit (ref : TargetRef)
  /-- the server sends a message about versions that are committed -/
  | send (message : Message)
  | start
  | stop
  | onopen
  | onclose
  /-- the reconnect timer fires -/
  | timeout
  | onmessage
  | query (op : QueryCache.Op KeyPart TargetRef)

def maxReconnectAttempts : Nat := 10

namespace Browser

/-- What the server has sent and the browser has not handled. -/
def inbox (c : Browser) : List Message :=
  match c.socket with
  | some (.opened inbox) => inbox
  | _ => []

def known (c : Browser) (ref : TargetRef) : Int := c.snapshotVersions (targetKey ref)

def current (c : Browser) (ref : TargetRef) : Int := c.latest (targetKey ref)

/-- `#connect`. -/
def connect (c : Browser) : Browser := if c.stopped then c else { c with socket := some .connecting }

/-- The `onopen` of a socket: after a reconnect everything is invalidated. -/
def onopen (cancels : Bool → Bool → Bool) (c : Browser) : Browser :=
  match c.socket with
  | some .connecting =>
    { c with
      socket := some (.opened [])
      reconnectAttempts := 0
      queries := if 0 < c.reconnectAttempts then invalidateQueries cancels [] c.queries else c.queries }
  | _ => c

def onclose (c : Browser) : Browser :=
  match c.socket with
  | none => c
  | some _ =>
    { c with
      socket := none
      reconnectAttempts := c.reconnectAttempts + 1
      reconnectTimer := c.reconnectAttempts + 1 ≤ maxReconnectAttempts }

/-- The part of `#handleMessage` that is about snapshots. -/
def handleMessage (cancels : Bool → Bool → Bool) (c : Browser) (message : Message) : Browser :=
  if eventSchema message then
    match message with
    | .snapshotStateSync items => { c with snapshotVersions := applySnapshotStateSync c.snapshotVersions items }
    | .snapshotCommitted metadata =>
      match acceptSnapshotCommitted c.snapshotVersions metadata with
      | (versions, true) =>
        { c with
          snapshotVersions := versions
          queries := invalidateKeys cancels (getAffectedQueryKeys metadata) c.queries }
      | (versions, false) => { c with snapshotVersions := versions }
  else c

def onmessage (cancels : Bool → Bool → Bool) (c : Browser) : Browser :=
  match c.socket with
  | some (.opened (message :: inbox)) => { c with socket := some (.opened inbox) }.handleMessage cancels message
  | _ => c

def send (c : Browser) (message : Message) : Browser :=
  match c.socket with
  | some (.opened inbox) =>
    if message.items.all fun item => item.version ≤ c.latest (snapshotVersionKey item) then
      { c with socket := some (.opened (inbox ++ [message])) }
    else c
  | _ => c

/-- The step of an operation; `cancels` says which running fetches an invalidation drops. -/
def exec (cancels : Bool → Bool → Bool) (c : Browser) : BrowserOp → Browser × Unit
  | .commit ref => ({ c with latest := Function.update c.latest (targetKey ref) (c.latest (targetKey ref) + 1) }, ())
  | .send message => (c.send message, ())
  | .start => (if c.stopped then { c with stopped := false }.connect else c, ())
  | .stop => ({ c with stopped := true, reconnectTimer := false, socket := none }, ())
  | .onopen => (c.onopen cancels, ())
  | .onclose => (c.onclose, ())
  | .timeout => (if c.reconnectTimer then { c with reconnectTimer := false }.connect else c, ())
  | .onmessage => (c.onmessage cancels, ())
  | .query op => ({ c with queries := QueryCache.exec endpointReads c.current c.queries op }, ())

end Browser

/-! ## What a message does -/

variable {cancels : Bool → Bool → Bool} {c : Browser}

def Message.affects : Message → QueryKey → Bool
  | .snapshotStateSync _, _ => false
  | .snapshotCommitted metadata, key => (getAffectedQueryKeys metadata).any fun affected => affected.isPrefixOf key

def Browser.invalidates (c : Browser) (message : Message) (key : QueryKey) : Bool :=
  eventSchema message && message.affects key &&
    message.items.all fun item => c.snapshotVersions (snapshotVersionKey item) < item.version

theorem handleMessage_eq (cancels : Bool → Bool → Bool) (c : Browser) (message : Message) :
    c.handleMessage cancels message =
      { c with
        snapshotVersions := handleSnapshots c.snapshotVersions message
        queries := c.queries.map fun q => if c.invalidates message q.key then q.invalidate cancels else q } := by
  unfold Browser.handleMessage handleSnapshots Browser.invalidates
  by_cases hparsed : eventSchema message = true
  · simp only [hparsed, if_true, Bool.true_and]
    cases message with
    | snapshotStateSync items => simp [Message.affects]
    | snapshotCommitted metadata =>
      by_cases hold : metadata.version ≤ c.snapshotVersions (snapshotVersionKey metadata)
      · simp [acceptSnapshotCommitted, hold, Message.items, not_lt.mpr hold]
      · simp [acceptSnapshotCommitted, hold, Message.items, Message.affects, invalidateKeys_eq, not_le.mp hold]
  · simp [hparsed]

/-- What is cached and not invalidated, and what is being fetched, is as new as what is recorded. -/
def Fresh (c : Browser) : Prop := ∀ q ∈ c.queries, q.Fresh c.known

/-- The browser was told of committed versions only. -/
structure Bounded (c : Browser) : Prop where
  recorded : ∀ key, c.snapshotVersions key ≤ c.latest key
  inbox : ∀ message ∈ c.inbox, ∀ item ∈ message.items, item.version ≤ c.latest (snapshotVersionKey item)

/-- The message invalidates what it makes old: a result built from an older version of one of its targets is invalidated
already or under an affected key, and dropped if it is on its way. -/
def Covers (cancels : Bool → Bool → Bool) (c : Browser) (message : Message) : Prop :=
  eventSchema message = true → ∀ item ∈ message.items, ∀ q ∈ c.queries,
    (q.invalidated = false → ∀ x ∈ q.cached, targetKey x.1 = snapshotVersionKey item → x.2 < item.version →
      message.affects q.key = true) ∧
    ∀ x ∈ q.running, targetKey x.1 = snapshotVersionKey item → x.2 < item.version →
      message.affects q.key = true ∧ cancels q.active q.data.isSome = true

theorem invalidates_of_affects {message : Message} (hparsed : eventSchema message = true) {item : SnapshotMetadata}
    (hitem : item ∈ message.items) (haffects : message.affects key = true)
    (hnew : c.snapshotVersions (snapshotVersionKey item) < item.version) : c.invalidates message key = true := by
  unfold Browser.invalidates
  rw [hparsed, haffects]
  cases message with
  | snapshotStateSync items => cases haffects
  | snapshotCommitted metadata =>
    rw [List.mem_singleton.mp hitem] at hnew
    simpa [Message.items] using hnew

theorem affects_of_invalidates {message : Message} (h : c.invalidates message key = true) :
    message.affects key = true := by
  unfold Browser.invalidates at h
  rw [Bool.and_eq_true, Bool.and_eq_true] at h
  exact h.1.2

/-- **A message keeps a fresh cache fresh exactly when it covers what it makes old.** -/
theorem handleMessage_fresh_iff (hfresh : Fresh c) (message : Message) :
    Fresh (c.handleMessage cancels message) ↔ Covers cancels c message := by
  rw [handleMessage_eq]
  have hreached : Fresh { c with
        snapshotVersions := handleSnapshots c.snapshotVersions message
        queries := c.queries.map fun q => if c.invalidates message q.key then q.invalidate cancels else q } ↔
      ∀ q ∈ c.queries, q.Reached (fun ref => handleSnapshots c.snapshotVersions message (targetKey ref)) cancels
        (c.invalidates message q.key) := by
    unfold Fresh
    rw [List.forall_mem_map]
    exact forall₂_congr fun q _ => fresh_announce_iff cancels (c.invalidates message q.key) q
  rw [hreached]
  constructor
  · intro h hparsed item hitem q hq
    have hle := version_le_handleSnapshots c.snapshotVersions hparsed hitem
    refine ⟨fun hmark x hx hkey hlt => ?_, fun x hx hkey hlt => ?_⟩
    · exact affects_of_invalidates ((h q hq).cached hmark x hx (by rw [hkey]; exact lt_of_lt_of_le hlt hle))
    · have hdropped := (h q hq).running x hx (by rw [hkey]; exact lt_of_lt_of_le hlt hle)
      exact ⟨affects_of_invalidates hdropped.1, hdropped.2⟩
  · intro h q hq
    -- what was fresh and is old now is older than an item of the message, which is then a new one
    have hnew : ∀ x : TargetRef × Int, c.known x.1 ≤ x.2 →
        x.2 < handleSnapshots c.snapshotVersions message (targetKey x.1) →
        eventSchema message = true ∧ ∃ item ∈ message.items, targetKey x.1 = snapshotVersionKey item ∧ x.2 < item.version ∧
          c.snapshotVersions (snapshotVersionKey item) < item.version := by
      intro x hknown hlt
      rcases handleSnapshots_cases c.snapshotVersions message (targetKey x.1) with hsame | ⟨hparsed, item, hitem, hkey, hversion⟩
      · rw [hsame] at hlt
        exact absurd hknown (not_le.mpr hlt)
      · rw [hversion] at hlt
        exact ⟨hparsed, item, hitem, hkey.symm, hlt, by rw [hkey]; exact lt_of_le_of_lt hknown hlt⟩
    refine ⟨fun hmark x hx hlt => ?_, fun x hx hlt => ?_⟩
    · obtain ⟨hparsed, item, hitem, hkey, hold, hrecorded⟩ := hnew x ((hfresh q hq).cached hmark x hx) hlt
      exact invalidates_of_affects hparsed hitem ((h hparsed item hitem q hq).1 hmark x hx hkey hold) hrecorded
    · obtain ⟨hparsed, item, hitem, hkey, hold, hrecorded⟩ := hnew x ((hfresh q hq).running x hx) hlt
      obtain ⟨haffects, hdropped⟩ := (h hparsed item hitem q hq).2 x hx hkey hold
      exact ⟨invalidates_of_affects hparsed hitem haffects hrecorded, hdropped⟩

/-! ## Runs -/

def Browser.next (c : Browser) : Option Message := c.inbox.head?

def BrowserOp.handles : BrowserOp → Bool
  | .onmessage => true
  | _ => false

/-- A message that is handled covers what it makes old. -/
def Covered (cancels : Bool → Bool → Bool) (e : Event Browser BrowserOp Unit) : Prop :=
  e.op.handles = true → ∀ message ∈ e.pre.next, Covers cancels e.pre message

theorem onmessage_fresh_iff (hfresh : Fresh c) :
    Fresh (c.onmessage cancels) ↔ ∀ message ∈ c.next, Covers cancels c message := by
  unfold Browser.onmessage Browser.next Browser.inbox
  split
  · rename_i message inbox hsocket
    simp only [hsocket, List.head?_cons, Option.mem_some_iff, forall_eq']
    exact handleMessage_fresh_iff (c := { c with socket := some (.opened inbox) }) hfresh message
  · rename_i hsocket
    refine ⟨fun _ message hmessage => ?_, fun _ => hfresh⟩
    cases hs : c.socket with
    | none => simp [hs] at hmessage
    | some socket =>
      cases socket with
      | connecting => simp [hs] at hmessage
      | opened inbox =>
        cases inbox with
        | nil => simp [hs] at hmessage
        | cons message inbox => exact absurd hs (hsocket message inbox)

theorem onopen_fresh (hfresh : Fresh c) : Fresh (c.onopen cancels) := by
  unfold Browser.onopen
  split
  · show ∀ q ∈ (if 0 < c.reconnectAttempts then invalidateQueries cancels [] c.queries else c.queries), q.Fresh c.known
    split
    · intro q' hq'
      obtain ⟨q, hq, rfl⟩ := List.mem_map.mp hq'
      split
      · exact (hfresh q hq).invalidate cancels
      · exact hfresh q hq
    · exact hfresh
  · exact hfresh

/-- **A step keeps older results invalidated exactly when it handles no message that leaves one out.** -/
theorem exec_fresh_iff (cancels : Bool → Bool → Bool) (c : Browser) (op : BrowserOp) (hfresh : Fresh c) (hb : Bounded c) :
    Fresh (c.exec cancels op).1 ↔ Covered cancels (Event.of (Browser.exec cancels) c op) := by
  have hother : op.handles = false → Covered cancels (Event.of (Browser.exec cancels) c op) :=
    fun hfalse htrue => absurd (hfalse.symm.trans htrue) Bool.false_ne_true
  cases op with
  | commit ref => exact iff_of_true hfresh (hother rfl)
  | send message =>
    refine iff_of_true ?_ (hother rfl)
    show Fresh (c.send message)
    unfold Browser.send
    split
    · split <;> exact hfresh
    · exact hfresh
  | start =>
    refine iff_of_true ?_ (hother rfl)
    show Fresh (if c.stopped then { c with stopped := false }.connect else c)
    split <;> exact hfresh
  | stop => exact iff_of_true hfresh (hother rfl)
  | onopen => exact iff_of_true (onopen_fresh hfresh) (hother rfl)
  | onclose =>
    refine iff_of_true ?_ (hother rfl)
    show Fresh c.onclose
    unfold Browser.onclose
    split <;> exact hfresh
  | timeout =>
    refine iff_of_true ?_ (hother rfl)
    show Fresh (if c.reconnectTimer then { c with reconnectTimer := false }.connect else c)
    split
    · unfold Browser.connect
      split <;> exact hfresh
    · exact hfresh
  | onmessage => exact (onmessage_fresh_iff hfresh).trans ⟨fun h _ => h, fun h => h rfl⟩
  | query op =>
    refine iff_of_true ?_ (hother rfl)
    exact QueryCache.exec_fresh (fun ref => hb.recorded (targetKey ref)) hfresh op

theorem Bounded.of_frame {c' : Browser} (h : Bounded c) (hlatest : c'.latest = c.latest)
    (hversions : c'.snapshotVersions = c.snapshotVersions) (hinbox : c'.inbox ⊆ c.inbox) : Bounded c' := by
  refine ⟨?_, ?_⟩ <;> rw [hlatest]
  · rw [hversions]
    exact h.recorded
  · exact fun message hmessage => h.inbox message (hinbox hmessage)

theorem connect_bounded (h : Bounded c) : Bounded c.connect := by
  unfold Browser.connect
  split
  · exact h
  · exact h.of_frame rfl rfl (List.nil_subset _)

theorem onmessage_bounded (h : Bounded c) : Bounded (c.onmessage cancels) := by
  unfold Browser.onmessage
  split
  · rename_i message inbox hsocket
    have hinbox : c.inbox = message :: inbox := by simp [Browser.inbox, hsocket]
    rw [handleMessage_eq]
    refine ⟨fun key => ?_, fun m hm => h.inbox m (by rw [hinbox]; exact List.mem_cons_of_mem message hm)⟩
    rcases handleSnapshots_cases c.snapshotVersions message key with hsame | ⟨-, item, hitem, hkey, hversion⟩
    · exact hsame.le.trans (h.recorded key)
    · refine hversion.le.trans ?_
      rw [← hkey]
      exact h.inbox message (by rw [hinbox]; exact List.mem_cons_self) item hitem
  · exact h

theorem exec_bounded (cancels : Bool → Bool → Bool) (c : Browser) (op : BrowserOp) (h : Bounded c) :
    Bounded (c.exec cancels op).1 := by
  cases op with
  | commit ref =>
    have hgrows : ∀ key, c.latest key ≤ Function.update c.latest (targetKey ref) (c.latest (targetKey ref) + 1) key := by
      intro key
      by_cases hkey : key = targetKey ref
      · rw [hkey, Function.update_self]
        omega
      · rw [Function.update_of_ne hkey]
    exact ⟨fun key => (h.recorded key).trans (hgrows key),
      fun message hmessage item hitem => (h.inbox message hmessage item hitem).trans (hgrows _)⟩
  | send message =>
    show Bounded (c.send message)
    unfold Browser.send
    split
    · rename_i inbox hsocket
      split
      · rename_i hcommitted
        refine ⟨h.recorded, fun m hm => ?_⟩
        rcases List.mem_append.mp hm with hm | hm
        · exact h.inbox m (by simpa [Browser.inbox, hsocket] using hm)
        · rw [List.mem_singleton.mp hm]
          simpa using hcommitted
      · exact h
    · exact h
  | start =>
    show Bounded (if c.stopped then { c with stopped := false }.connect else c)
    split
    · exact connect_bounded (h.of_frame rfl rfl (List.Subset.refl _))
    · exact h
  | stop => exact h.of_frame rfl rfl (List.nil_subset _)
  | onopen =>
    show Bounded (c.onopen cancels)
    unfold Browser.onopen
    split
    · exact h.of_frame rfl rfl (List.nil_subset _)
    · exact h
  | onclose =>
    show Bounded c.onclose
    unfold Browser.onclose
    split
    · exact h
    · exact h.of_frame rfl rfl (List.nil_subset _)
  | timeout =>
    show Bounded (if c.reconnectTimer then { c with reconnectTimer := false }.connect else c)
    split
    · exact connect_bounded (h.of_frame rfl rfl (List.Subset.refl _))
    · exact h
  | onmessage => exact onmessage_bounded h
  | query op => exact h.of_frame rfl rfl (List.Subset.refl _)

structure Sound (c : Browser) : Prop where
  fresh : Fresh c
  bounded : Bounded c

theorem sound_empty : Sound {} := ⟨List.forall_mem_nil _, ⟨fun _ => le_rfl, List.forall_mem_nil _⟩⟩

theorem exec_sound (cancels : Bool → Bool → Bool) (c : Browser) (op : BrowserOp) (h : Sound c)
    (hcovered : Covered cancels (Event.of (Browser.exec cancels) c op)) : Sound (c.exec cancels op).1 :=
  ⟨(exec_fresh_iff cancels c op h.fresh h.bounded).mpr hcovered, exec_bounded cancels c op h.bounded⟩

theorem exec_versions_le (cancels : Bool → Bool → Bool) (c : Browser) (op : BrowserOp) (key : String) :
    c.snapshotVersions key ≤ (c.exec cancels op).1.snapshotVersions key := by
  cases op with
  | onmessage =>
    have hhandle (message : Message) : c.snapshotVersions key ≤ handleSnapshots c.snapshotVersions message key := by
      unfold handleSnapshots
      split
      · cases message with
        | snapshotStateSync items => exact le_applySnapshotStateSync _ items key
        | snapshotCommitted metadata => simpa only [acceptSnapshotCommitted_fst] using le_record _ metadata key
      · exact le_rfl
    simp only [Browser.exec, Browser.onmessage]
    split
    · rw [handleMessage_eq]
      exact hhandle _
    · exact le_rfl
  | _ => grind [Browser.exec, Browser.send, Browser.connect, Browser.onopen, Browser.onclose]

/-- **A browser never goes back**: from any state and over any run, with stops and reconnects, the versions it has recorded
grow. -/
theorem versions_grow (cancels : Bool → Bool → Bool) (c : Browser) (ops : List BrowserOp) (key : String) :
    c.snapshotVersions key ≤ (final (Browser.exec cancels) c ops).snapshotVersions key :=
  @final_inv _ _ _ _ (fun c' : Browser => c.snapshotVersions key ≤ c'.snapshotVersions key)
    (fun c' op h => h.trans (exec_versions_le cancels c' op key)) c le_rfl ops

/-- Nothing is left to do: every message is handled, no query is invalidated, and no fetch runs. -/
structure Idle (c : Browser) : Prop where
  inbox : c.inbox.length = 0
  queries : ∀ q ∈ c.queries, q.invalidated = false ∧ q.fetch.isNone = true

/-- Every cached result is at least as new as the version recorded for each of its targets. -/
def Current (c : Browser) : Prop := ∀ q ∈ c.queries, ∀ x ∈ q.cached, c.snapshotVersions (targetKey x.1) ≤ x.2

/-- **In a run whose messages cover what they make old, the results of an idle browser are current.** -/
theorem results_current (cancels : Bool → Bool → Bool) (ops : List BrowserOp)
    (hcovered : ∀ e ∈ trace (Browser.exec cancels) {} ops, Covered cancels e)
    (hidle : Idle (final (Browser.exec cancels) {} ops)) : Current (final (Browser.exec cancels) {} ops) := by
  have hsound : Sound (final (Browser.exec cancels) {} ops) :=
    final_inv_of_trace sound_empty fun c op he h => exec_sound cancels c op h (hcovered _ he)
  exact fun q hq => (hsound.fresh q hq).cached (hidle.queries q hq).1

/-! ## A session -/

def sampleSession : TargetRef := { host := "h", kind := .sessionDetail, parentKey := "c", resourceKey := "s" }

def sessionVersion (version : Int) : SnapshotMetadata :=
  { kind := .sessionDetail, parentKey := "c", resourceKey := "s", version := version }

def fetchSession : List BrowserOp :=
  [.query (.mount [.text "sessions", .text "c", .text "s"]), .query (.start 0), .query (.read 0 sampleSession),
    .query (.finish 0)]

/-- A version is committed while the session is shown, and announced. -/
def announcedOps : List BrowserOp :=
  [.commit sampleSession, .start, .onopen] ++ fetchSession ++
    [.commit sampleSession, .send (.snapshotCommitted (sessionVersion 2)), .onmessage] ++ fetchSession

/-- A version is committed after the session was fetched and before the WebSocket opens for the first time. -/
def syncedOps : List BrowserOp :=
  [.commit sampleSession, .start] ++ fetchSession ++
    [.commit sampleSession, .onopen, .send (.snapshotStateSync [sessionVersion 2]), .onmessage]

instance decidableCovers (cancels : Bool → Bool → Bool) (c : Browser) (message : Message) :
    Decidable (Covers cancels c message) :=
  inferInstanceAs (Decidable (eventSchema message = true → ∀ item ∈ message.items, ∀ q ∈ c.queries,
    (q.invalidated = false → ∀ x ∈ q.cached, targetKey x.1 = snapshotVersionKey item → x.2 < item.version →
      message.affects q.key = true) ∧
    ∀ x ∈ q.running, targetKey x.1 = snapshotVersionKey item → x.2 < item.version →
      message.affects q.key = true ∧ cancels q.active q.data.isSome = true))

instance decidableCovered (cancels : Bool → Bool → Bool) (e : Event Browser BrowserOp Unit) :
    Decidable (Covered cancels e) :=
  inferInstanceAs (Decidable (e.op.handles = true → ∀ message ∈ e.pre.next, Covers cancels e.pre message))

instance decidableIdle (c : Browser) : Decidable (Idle c) :=
  decidable_of_iff (c.inbox.length = 0 ∧ ∀ q ∈ c.queries, q.invalidated = false ∧ q.fetch.isNone = true)
    ⟨fun h => ⟨h.1, h.2⟩, fun h => ⟨h.inbox, h.queries⟩⟩

instance decidableCurrent (c : Browser) : Decidable (Current c) :=
  inferInstanceAs (Decidable (∀ q ∈ c.queries, ∀ x ∈ q.cached, c.snapshotVersions (targetKey x.1) ≤ x.2))

theorem results_current_announced :
    (final (Browser.exec fun active cached => active && cached) {} announcedOps).snapshotVersions (targetKey sampleSession) = 2 ∧
      Current (final (Browser.exec fun active cached => active && cached) {} announcedOps) :=
  ⟨by decide +kernel, results_current _ announcedOps (by decide +kernel) (by decide +kernel)⟩

/-- **A state sync records a version and leaves the older result as it is**, whatever an invalidation would drop. -/
theorem synced_not_current :
    ¬ ∃ cancels : Bool → Bool → Bool, ∀ ops : List BrowserOp,
      Idle (final (Browser.exec cancels) {} ops) → Current (final (Browser.exec cancels) {} ops) := by
  rintro ⟨cancels, hcurrent⟩
  have hsynced : ∀ cancels : Bool → Bool → Bool,
      Idle (final (Browser.exec cancels) {} syncedOps) ∧ ¬ Current (final (Browser.exec cancels) {} syncedOps) := by
    decide +kernel
  exact (hsynced cancels).2 (hcurrent syncedOps (hsynced cancels).1)

end QrCommandCenter.Web
