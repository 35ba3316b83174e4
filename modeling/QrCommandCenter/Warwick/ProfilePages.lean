import QrCommandCenter.Warwick.Source
import QrCommandCenter.Lib.Transition

/-!
# The pages of student profiles

`fetchProfiles` of `internal/warwick/snapshot_source.go`: page 0 sizes the set, workers fetch the other pages concurrently and
write them by index, the pages are checked in order, and page 0 is fetched once more.

* `validateProfileRecordCounts`, `validateProfilePageRows`, `mergeProfileRows`, `profilePageFingerprint` : the checks;
* `Crawl` and `Crawl.step` : the workers with their channel, results and first error;
* `mergePages`, `fetchProfiles` : the whole fetch, for one interleaving of the workers.

What `requestJSON` returns is chosen by the environment at every request.
-/

namespace QrCommandCenter.Warwick
open Domain Scraper Transition

/-! ## Pages -/

def profilePageSize : Nat := 500
def profilePageConcurrency : Nat := 4
def maxProfileRecords : Int := 100000

/-- A page of `UserGroupSearch`. -/
abbrev ProfilePage := DataTable UserGroupRow

/-- What `fetchPage` returns: the metadata, the bytes read, and the page or an error. -/
abbrev ProfileAnswer := ResponseMetadata × Int × Except FetchFailure ProfilePage

def expectedProfilePageRows (total start : Int) : Int :=
  if (profilePageSize : Int) < total - start then profilePageSize else total - start

def validateProfileRecordCounts (page : ProfilePage) : Except String Unit :=
  if page.recordsTotal < 0 ∨ page.recordsFiltered < 0 ∨ page.recordsTotal < page.recordsFiltered ∨
      maxProfileRecords < page.recordsFiltered then
    .error "UserGroupSearch record count outside supported range"
  else .ok ()

def validateProfilePageRows (page : ProfilePage) (total start : Int) : Except String Unit :=
  if expectedProfilePageRows total start < 0 ∨ (page.data.length : Int) ≠ expectedProfilePageRows total start then
    .error "UserGroupSearch returned an incomplete page"
  else .ok ()

def UserGroupRow.trimmed (row : UserGroupRow) : StudentProfile where
  studentID := trimSpace row.studentID
  studentGuid := trimSpace row.studentGuid
  fullName := row.fullName
  school := row.school

/-- The profiles so far, with the identifiers that are taken. -/
structure MergedProfiles where
  profiles : List StudentProfile := []
  seenStudentIDs : List String := []
  seenStudentGUIDs : List String := []

/-- The body of the loop of `mergeProfileRows`. -/
def mergeProfileRow (m : MergedProfiles) (row : UserGroupRow) : Except String MergedProfiles := do
  recordUniqueIdentifier m.seenStudentIDs "UserGroupSearch" "student" row.trimmed.studentID
  recordUniqueIdentifier m.seenStudentGUIDs "UserGroupSearch" "student GUID" row.trimmed.studentGuid
  .ok
    { profiles := m.profiles ++ [row.trimmed],
      seenStudentIDs := row.trimmed.studentID :: m.seenStudentIDs,
      seenStudentGUIDs := row.trimmed.studentGuid :: m.seenStudentGUIDs }

def mergeProfileRows : MergedProfiles → List UserGroupRow → Except String MergedProfiles
  | m, [] => .ok m
  | m, row :: rows => do
    let m ← mergeProfileRow m row
    mergeProfileRows m rows

/-! ## The fingerprint of a page -/

/-- The pair that a row adds to the fingerprint. -/
def UserGroupRow.identity (row : UserGroupRow) : String :=
  trimSpace row.studentID ++ "|" ++ trimSpace row.studentGuid

def joinLines : List String → List Char
  | [] => []
  | [line] => line.toList
  | line :: next :: lines => line.toList ++ '\n' :: joinLines (next :: lines)

/-- `profilePageFingerprint`; `sum256` is the hex digest of the SHA-256 hash. -/
def profilePageFingerprint (sum256 : String → String) (rows : List UserGroupRow) : String :=
  sum256 (String.ofList (joinLines ((rows.map UserGroupRow.identity).mergeSort fun a b => decide (a ≤ b))))

/-! ## The workers -/

/-- A slot of `results`; one that is never filled is the zero value. -/
structure PageResult where
  page : ProfilePage := ⟨0, 0, []⟩
  bytes : Int := 0
  deriving DecidableEq, Repr

def PageResult.of (answer : ProfileAnswer) : PageResult where
  page := answer.2.2.toOption.getD ⟨0, 0, []⟩
  bytes := answer.2.1

/-- Where a worker stands; pages are numbered by `start / profilePageSize`. -/
inductive CrawlPhase
  /-- at `range starts` -/
  | ranging
  /-- before `fetchCtx.Err()` -/
  | received (page : Nat)
  | fetching (page : Nat)
  /-- before `resultMu.Lock()` -/
  | storing (page : Nat) (answer : ProfileAnswer)
  | done

/-- The concurrent part of a fetch. `answers` keeps what the upstream has answered, page by page. -/
structure Crawl where
  starts : List Nat
  workers : List CrawlPhase
  results : List PageResult
  firstErr : Option (FetchFailure × ResponseMetadata) := none
  /-- the context of the caller is over -/
  ended : Bool := false
  /-- `cancel` was called -/
  cancelled : Bool := false
  answers : List (Nat × ProfileAnswer) := []

inductive CrawlOp
  /-- the context of the caller ends -/
  | expire
  /-- a worker receives from `starts`, or finds it closed -/
  | take (worker : Nat)
  | check (worker : Nat)
  | reply (worker : Nat) (answer : ProfileAnswer)
  | store (worker : Nat)

namespace Crawl

/-- The workers of a set of `remaining` pages after the first one. -/
def start (remaining : Nat) : Crawl where
  starts := List.range' 1 remaining
  workers := List.replicate (min profilePageConcurrency remaining) .ranging
  results := List.replicate remaining {}

def moveTo (c : Crawl) (w : Nat) (phase : CrawlPhase) : Crawl := { c with workers := c.workers.set w phase }

def storeResult (c : Crawl) (page : Nat) (answer : ProfileAnswer) : Crawl :=
  let c := { c with results := c.results.set (page - 1) (.of answer) }
  match c.firstErr, answer.2.2 with
  | none, .error failure => { c with firstErr := some (failure, answer.1), cancelled := true }
  | _, _ => c

def step (c : Crawl) : CrawlOp → Crawl
  | .expire => { c with ended := true }
  | .take w =>
    match c.workers[w]?, c.starts with
    | some .ranging, [] => c.moveTo w .done
    | some .ranging, page :: starts => { c with starts := starts }.moveTo w (.received page)
    | _, _ => c
  | .check w =>
    match c.workers[w]? with
    | some (.received page) => if c.ended || c.cancelled then c.moveTo w .done else c.moveTo w (.fetching page)
    | _ => c
  | .reply w answer =>
    match c.workers[w]? with
    | some (.fetching page) =>
      { c with answers := c.answers ++ [(page, answer)] }.moveTo w (.storing page answer)
    | _ => c
  | .store w =>
    match c.workers[w]? with
    | some (.storing page answer) => (c.storeResult page answer).moveTo w .ranging
    | _ => c

def exec (c : Crawl) (op : CrawlOp) : Crawl × Unit := (c.step op, ())

def isDone (c : Crawl) : Bool := c.workers.all fun phase =>
  match phase with
  | .done => true
  | _ => false

end Crawl

/-! ## The whole fetch -/

/-- The checks of page number `number`, and its merge. -/
def checkPage (total : Int) (number : Nat) (page : ProfilePage) (m : MergedProfiles) : Except String MergedProfiles := do
  validateProfileRecordCounts page
  if page.recordsFiltered ≠ total then .error "UserGroupSearch record count changed during pagination"
  else do
    validateProfilePageRows page total (number * profilePageSize)
    mergeProfileRows m page.data

def mergePages (total : Int) : Nat → List PageResult → MergedProfiles → Except String MergedProfiles
  | _, [], m => .ok m
  | number, result :: results, m => do
    let m ← checkPage total number result.page m
    mergePages total (number + 1) results m

/-- How many pages hold `total` profiles. -/
def expectedPages (total : Int) : Nat := ((total + profilePageSize - 1) / profilePageSize).toNat

structure ProfileSet where
  metadata : ResponseMetadata
  total : Int
  bytes : Int

namespace ProfileSet

section
variable (set : ProfileSet)

def refuse (bytes : Int) : Fetched :=
  { result := { metadata := set.metadata, bytesRead := bytes }, failure := some (.fetchError .invalidPayload) }

def finish (bytes : Int) (fetchedPages : Int) (profiles : List StudentProfile) : Fetched :=
  if (profiles.length : Int) ≠ set.total then set.refuse bytes
  else
    { result :=
        { value := .profiles profiles, metadata := set.metadata, bytesRead := bytes, reportedCount := set.total,
          expectedPages := expectedPages set.total, fetchedPages := fetchedPages } }

/-- The second fetch of page 0, which has to show the same rows as the first one. -/
def compare (sum256 : String → String) (first : ProfilePage) (bytes : Int) (refetch : ProfileAnswer)
    (profiles : List StudentProfile) : Fetched :=
  match refetch.2.2 with
  | .error failure => { result := { metadata := refetch.1, bytesRead := bytes }, failure := some failure }
  | .ok again =>
    match validateProfileRecordCounts again with
    | .error _ => set.refuse bytes
    | .ok _ =>
      if again.recordsFiltered ≠ set.total ∨ (again.data.length : Int) ≠ expectedProfilePageRows set.total 0 ∨
          profilePageFingerprint sum256 again.data ≠ profilePageFingerprint sum256 first.data then set.refuse bytes
      else set.finish bytes (expectedPages set.total + 1) profiles

def conclude (sum256 : String → String) (first : ProfilePage) (c : Crawl) (m : MergedProfiles)
    (refetch : ProfileAnswer) : Fetched :=
  let bytes := set.bytes + (c.results.map PageResult.bytes).sum
  match c.firstErr with
  | some (failure, metadata) => { result := { metadata := metadata, bytesRead := bytes }, failure := some failure }
  | none =>
    match mergePages set.total 1 c.results m with
    | .error _ => set.refuse bytes
    | .ok m => set.compare sum256 first (bytes + refetch.2.1) refetch m.profiles

end

end ProfileSet

def readFirstPage (page : ProfilePage) : Except String MergedProfiles := do
  validateProfileRecordCounts page
  validateProfilePageRows page page.recordsFiltered 0
  mergeProfileRows {} page.data

/-- `fetchProfiles`, when the workers interleave as `ops` says; none as long as they have not all returned. -/
def fetchProfiles (sum256 : String → String) (first : ProfileAnswer) (ops : List CrawlOp) (refetch : ProfileAnswer) :
    Option Fetched :=
  match first.2.2 with
  | .error failure => some { result := { metadata := first.1, bytesRead := first.2.1 }, failure := some failure }
  | .ok page =>
    let set : ProfileSet :=
      { metadata := { first.1 with etag := "", lastModified := "", cacheControl := "" }, total := page.recordsFiltered,
        bytes := first.2.1 }
    match readFirstPage page with
    | .error _ => some (set.refuse set.bytes)
    | .ok m =>
      if expectedPages set.total ≤ 1 then some (set.finish set.bytes 1 m.profiles)
      else
        let c := final Crawl.exec (Crawl.start (expectedPages set.total - 1)) ops
        if c.isDone then some (set.conclude sum256 page c m refetch) else none

end QrCommandCenter.Warwick
