import AgentHarness.GoalLineage.Basic
import AgentHarness.Lib.Latest
import AgentHarness.Lib.Run

/-!
The doctor of the goal lineages, the call that records a supersession, and the events that write to the
three ledgers they read.
-/

namespace GoalLineage

/-
The readable rows of the three ledgers.
-/
structure GoalLineageLedgers where
  projections : List GoalProjectionReceipt
  authorities : List VirtualSessionAuthorityReceipt
  supersessions : List GoalLineageSupersessionV1

def GoalLineageLedgers.empty : GoalLineageLedgers where
  projections := []
  authorities := []
  supersessions := []

def latestAuthorities (values : List VirtualSessionAuthorityReceipt)
    : FMap String VirtualSessionAuthorityReceipt :=
  Latest.latestBy VirtualSessionAuthorityReceipt.key replacesAuthority values

def latestProjections (values : List GoalProjectionReceipt) : FMap String GoalProjectionReceipt :=
  Latest.latestBy GoalProjectionReceipt.key replacesProjection values

def projectionAuthority (projection : GoalProjectionReceipt)
    (authorities : FMap String VirtualSessionAuthorityReceipt)
    : Option VirtualSessionAuthorityReceipt :=
  authorities.lookup projection.authorityKey

def exactIdentity (projection : GoalProjectionReceipt)
    (authority : Option VirtualSessionAuthorityReceipt)
    : Bool :=
  authority.isSome
    && projection.projectionComplete
    && !TextFile.isBlank projection.objective
    && projection.laneDigest = authority.map (·.laneDigest)
    && projection.backendContextGeneration = authority.bind (·.backendContextGeneration)
    && authority.any (·.status = "authoritative-v2")

def lineageDisposition (projection : GoalProjectionReceipt)
    (authority : Option VirtualSessionAuthorityReceipt)
    : GoalLineageDisposition × Bool × String :=
  if authority.isNone then
    (.missingAuthority, false,
      "no exact-v2 virtual-session authority exists for this queue/session")
  else if !exactIdentity projection authority then
    let stale := projection.laneDigest = authority.map (·.laneDigest)
      && projection.backendContextGeneration ≠ authority.bind (·.backendContextGeneration)
    if stale then
      (.staleGeneration, false, "backend goal projection belongs to a stale backend generation")
    else
      (.invalidIdentity, false,
        "backend goal projection does not match exact lane/virtual-session authority")
  else if !isActiveStatus projection.status then
    (.inactive, false, "exact-authority backend goal projection is not active")
  else
    (.runnable, true, "active goal matches current exact-v2 lane and backend generation")

section Doctor

variable (sha256 : CollisionFree)

def objectiveChecksum (projection : GoalProjectionReceipt) : String :=
  sha256.checksumJson (.string projection.objective)

def familyId (projection : GoalProjectionReceipt)
    (authority : Option VirtualSessionAuthorityReceipt)
    : String :=
  sha256.checksumJson (familyPayload (authority.map (·.laneDigest))
    (authority.map (·.virtualSessionId)) (objectiveChecksum sha256 projection))

def lineageId (projection : GoalProjectionReceipt)
    (authority : Option VirtualSessionAuthorityReceipt)
    : String :=
  sha256.checksumJson (lineagePayload (familyId sha256 projection authority)
    projection.backendContextGeneration projection.sourceThreadId
    (projectionGoalIdentity projection))

def lineageRow (projection : GoalProjectionReceipt)
    (authority : Option VirtualSessionAuthorityReceipt)
    : GoalLineageV1 :=
  let (disposition, runnable, reason) := lineageDisposition projection authority
  {
    schema := goalLineageSchema
    lineageId := lineageId sha256 projection authority
    campaignFamilyId := familyId sha256 projection authority
    queueId := projection.queueId
    sourceSessionKey := projection.sessionKey
    virtualSessionId := authority.map (·.virtualSessionId)
    laneDigest := authority.map (·.laneDigest)
    backendContextGeneration := projection.backendContextGeneration
    sourceThreadId := projection.sourceThreadId
    sourceTurnId := projection.sourceTurnId
    goalReference := projectionGoalIdentity projection
    backendGoalRef := projection.backendGoalRef
    objectiveChecksum := objectiveChecksum sha256 projection
    goalChecksum := projection.goalChecksum
    projectionChecksum := projection.projectionChecksum
    goalStatus := projection.status
    observationPhase := projection.observationPhase
    turnRelation := projection.turnRelation
    sourceFinalEligible := projectionSourceFinalIsEligible projection.sourceFinalEligible
      projection.observationPhase projection.turnRelation
    observationOrder := projection.observationOrder
    observedAtMs := projection.observedAtMs
    authorityObservedAtMs := authority.map (·.updatedAtMs)
    disposition
    runnable
    supersededByLineageId := none
    reason }

def lineageRows (projections : List GoalProjectionReceipt)
    (authorities : List VirtualSessionAuthorityReceipt)
    : List GoalLineageV1 :=
  let latest := latestAuthorities authorities
  (latestProjections projections).values.map fun projection =>
    lineageRow sha256 projection (projectionAuthority projection latest)

structure SupersessionScan where
  map : FMap String String
  ids : List String
  blockers : List String

def supersessionId (campaignFamilyId winnerLineageId supersededLineageId : String) : String :=
  sha256.checksumJson (supersessionPayload campaignFamilyId winnerLineageId supersededLineageId)

def identityValid (supersededIds : List String) (receipt : GoalLineageSupersessionV1)
    (winner loser : GoalLineageV1)
    : Bool :=
  winner.campaignFamilyId = loser.campaignFamilyId
    && receipt.campaignFamilyId = winner.campaignFamilyId
    && winner.laneDigest = some receipt.laneDigest
    && winner.virtualSessionId = some receipt.virtualSessionId
    && receipt.supersessionId
      = supersessionId sha256 winner.campaignFamilyId winner.lineageId loser.lineageId
    && winner.runnable
    && !supersededIds.contains receipt.winnerLineageId

def receiptPair (supersededIds : List String) (lineages : List GoalLineageV1)
    (receipt : GoalLineageSupersessionV1)
    : Except String Unit := do
  .require (receipt.winnerLineageId ≠ receipt.supersededLineageId)
    s!"invalid self-supersession receipt {receipt.supersessionId}"
  let winner ← .ofOption (lineages.find? (·.lineageId = receipt.winnerLineageId))
    s!"supersession receipt {receipt.supersessionId} references a missing winner"
  let loser ← .ofOption (lineages.find? (·.lineageId = receipt.supersededLineageId))
    s!"supersession receipt {receipt.supersessionId} references a missing superseded lineage"
  .require (identityValid sha256 supersededIds receipt winner loser)
    s!"supersession receipt {receipt.supersessionId} failed same-campaign/exact-authority/winner validation"

def scanReceipt (supersededIds : List String) (lineages : List GoalLineageV1)
    (scan : SupersessionScan) (receipt : GoalLineageSupersessionV1)
    : SupersessionScan :=
  if receipt.supersessionId ∈ scan.ids then
    scan
  else
    let ids := receipt.supersessionId :: scan.ids
    match receiptPair sha256 supersededIds lineages receipt with
    | .error blocker => { scan with ids, blockers := scan.blockers ++ [blocker] }
    | .ok () =>
      let existing := scan.map.lookup receipt.supersededLineageId
      let map := scan.map.insert receipt.supersededLineageId receipt.winnerLineageId
      if existing.any (· ≠ receipt.winnerLineageId) then
        let blocker :=
          s!"conflicting supersession winners for lineage {receipt.supersededLineageId}"
        { map, ids, blockers := scan.blockers ++ [blocker] }
      else
        { map, ids, blockers := scan.blockers }

def validSupersessionMap (receipts : List GoalLineageSupersessionV1)
    (lineages : List GoalLineageV1)
    : SupersessionScan :=
  let supersededIds := receipts.map (·.supersededLineageId)
  receipts.foldl (scanReceipt sha256 supersededIds lineages) { map := ∅, ids := [], blockers := [] }

def applySupersession (supersededBy : FMap String String) (lineage : GoalLineageV1)
    : GoalLineageV1 :=
  match supersededBy.lookup lineage.lineageId with
  | none => lineage
  | some winner => {
      lineage with
      disposition := .superseded
      runnable := false
      supersededByLineageId := some winner
      reason := s!"append-only reconciliation superseded this backend goal row with {winner}" }

structure GoalLineageDoctorOptions where
  laneDigest : Option String
  virtualSessionId : Option String

structure GoalLineageDoctorReport where
  schema : String
  status : GoalLineageDoctorStatus
  readOnly : Bool
  projectionsSeen : Nat
  authorityReceiptsSeen : Nat
  supersessionReceiptsSeen : Nat
  campaigns : List GoalLineageCampaignV1
  lineages : List GoalLineageV1
  blockers : List String
  warnings : List String

def failClosedWarnings (lineages : List GoalLineageV1) : List String :=
  (lineages.filter fun lineage =>
      isActiveStatus lineage.goalStatus && !lineage.runnable
        && lineage.disposition ≠ .superseded).map fun lineage =>
    s!"active lineage {lineage.lineageId} is fail-closed: {lineage.reason}"

def activeRows (rows : List GoalLineageV1) : Nat :=
  rows.countP fun row => isActiveStatus row.goalStatus

def runnableRows (rows : List GoalLineageV1) : Nat :=
  rows.countP (·.runnable)

def unresolvedRows (rows : List GoalLineageV1) : Nat :=
  rows.countP fun row => isActiveStatus row.goalStatus && row.disposition ≠ .superseded

def grouped (lineages : List GoalLineageV1) : List (String × List GoalLineageV1) :=
  (((lineages.map (·.campaignFamilyId)).dedup).insertionSort Text.le).map fun family =>
    (family, lineages.filter (·.campaignFamilyId = family))

def campaignOf (family : String × List GoalLineageV1) : Option GoalLineageCampaignV1 :=
  let (campaignFamilyId, rows) := family
  rows.head?.map fun first => {
    campaignFamilyId
    objectiveChecksum := first.objectiveChecksum
    laneDigest := first.laneDigest
    virtualSessionId := first.virtualSessionId
    activeLineages := activeRows rows
    runnableLineages := runnableRows rows
    unresolvedActiveLineages := unresolvedRows rows
    canonicalLineageId :=
      if runnableRows rows = 1 then (rows.find? (·.runnable)).map (·.lineageId) else none
    reconciliationRequired := 1 < unresolvedRows rows }

def familyNeedsReconciliation (rows : List GoalLineageV1) : Bool :=
  1 < unresolvedRows rows || 1 < runnableRows rows

def familyIsBlocked (rows : List GoalLineageV1) : Bool :=
  (rows.any fun row =>
      isActiveStatus row.goalStatus
        && (row.disposition = .missingAuthority || row.disposition = .invalidIdentity))
    || (0 < activeRows rows && runnableRows rows = 0)

def reportStatus (blockers : List String) (lineages : List GoalLineageV1)
    : GoalLineageDoctorStatus :=
  let families := grouped lineages
  if !blockers.isEmpty || families.any (familyIsBlocked ·.2) then
    .blocked
  else if families.any (familyNeedsReconciliation ·.2) then
    .reconciliationRequired
  else if (families.filterMap campaignOf).isEmpty then
    .empty
  else
    .ready

def reportLineages (options : GoalLineageDoctorOptions) (lineages : List GoalLineageV1)
    : List GoalLineageV1 :=
  let inLane := lineages.filter fun lineage =>
    options.laneDigest.all fun expected => lineage.laneDigest = some expected
  let inSession := inLane.filter fun lineage =>
    options.virtualSessionId.all fun expected => lineage.virtualSessionId = some expected
  inSession.insertionSort lineageLe

def runGoalLineageDoctor (ledgers : GoalLineageLedgers) (options : GoalLineageDoctorOptions)
    : GoalLineageDoctorReport :=
  let rows := lineageRows sha256 ledgers.projections ledgers.authorities
  let scan := validSupersessionMap sha256 ledgers.supersessions rows
  let lineages := reportLineages options (rows.map (applySupersession scan.map))
  {
    schema := goalLineageDoctorSchema
    status := reportStatus scan.blockers lineages
    readOnly := true
    projectionsSeen := ledgers.projections.length
    authorityReceiptsSeen := ledgers.authorities.length
    supersessionReceiptsSeen := ledgers.supersessions.length
    campaigns := (grouped lineages).filterMap campaignOf
    lineages
    blockers := scan.blockers
    warnings := failClosedWarnings lineages }

structure GoalLineageSupersessionOptions where
  winnerLineageId : String
  supersededLineageId : String
  reason : String

def acceptedSupersession (ledgers : GoalLineageLedgers) (options : GoalLineageSupersessionOptions)
    (recordedAtMs : Int)
    : Except IoError GoalLineageSupersessionV1 := do
  let winner := Text.trim options.winnerLineageId
  let superseded := Text.trim options.supersededLineageId
  let reason := Text.trim options.reason
  .require (winner ≠ "" && superseded ≠ "" && reason ≠ "")
    { kind := .invalidInput, message := "winner, superseded lineage, and reason are required" }
  .require (winner ≠ superseded)
    { kind := .invalidInput, message := "a lineage cannot supersede itself" }
  .require (reason.length ≤ 240)
    { kind := .invalidInput, message := "supersession reason exceeds 240 characters" }
  let report := runGoalLineageDoctor sha256 ledgers { laneDigest := none, virtualSessionId := none }
  let winnerRow ← .ofOption (report.lineages.find? (·.lineageId = winner))
    { kind := .notFound, message := "winner lineage not found" }
  let supersededRow ← .ofOption (report.lineages.find? (·.lineageId = superseded))
    { kind := .notFound, message := "superseded lineage not found" }
  .require (winnerRow.campaignFamilyId = supersededRow.campaignFamilyId)
    {
      kind := .invalidInput
      message := "winner and superseded lineage are not in the same campaign family" }
  let laneDigest ← .ofOption winnerRow.laneDigest
    { kind := .invalidData, message := "winner lacks exact lane authority" }
  let virtualSessionId ← .ofOption winnerRow.virtualSessionId
    { kind := .invalidData, message := "winner lacks virtual-session authority" }
  .require winnerRow.runnable
    {
      kind := .invalidInput
      message := "winner lineage is not the current exact-lane runnable row" }
  return {
    schema := goalLineageSupersessionSchema
    supersessionId := supersessionId sha256 winnerRow.campaignFamilyId winner superseded
    campaignFamilyId := winnerRow.campaignFamilyId
    winnerLineageId := winner
    supersededLineageId := superseded
    laneDigest
    virtualSessionId
    reason
    recordedAtMs }

def appendGoalLineageSupersession (ledgers : GoalLineageLedgers)
    (options : GoalLineageSupersessionOptions) (recordedAtMs : Int)
    : Outcome GoalLineageLedgers GoalLineageSupersessionV1 :=
  match acceptedSupersession sha256 ledgers options recordedAtMs with
  | .error e => (ledgers, .error e)
  | .ok receipt =>
    match ledgers.supersessions.find? (·.supersessionId = receipt.supersessionId) with
    | some existing => (ledgers, .ok existing)
    | none => ({ ledgers with supersessions := ledgers.supersessions ++ [receipt] }, .ok receipt)

inductive GoalLineageEvent where
  | projection (receipt : GoalProjectionReceipt)
  | authority (receipt : VirtualSessionAuthorityReceipt)
  | supersession (options : GoalLineageSupersessionOptions) (recordedAtMs : Int)

def step (ledgers : GoalLineageLedgers) (event : GoalLineageEvent) : GoalLineageLedgers :=
  match event with
  | .projection receipt => { ledgers with projections := ledgers.projections ++ [receipt] }
  | .authority receipt => { ledgers with authorities := ledgers.authorities ++ [receipt] }
  | .supersession options recordedAtMs =>
    (appendGoalLineageSupersession sha256 ledgers options recordedAtMs).1

def ledgersAfter (events : List GoalLineageEvent) : GoalLineageLedgers :=
  Run.exec (step sha256) .empty events

end Doctor

end GoalLineage
