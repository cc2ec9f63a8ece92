import AgentHarness.OperationPlan.Basic
import Mathlib.Data.Finset.Card

/-!
The mutations of an operation plan. Each one runs under the mutation transaction lock of its plan
directory, so it is a function from the contents of the directory to its new contents and the
result handed to the caller. An error is a result too: what was written before it stays written.
-/

namespace OperationPlan

namespace PlanDir

def writeJsonPlan (dir : PlanDir) (plan : Plan) : PlanDir :=
  { dir with plan := some plan }

def appendItemLine (dir : PlanDir) (item : Item) : PlanDir :=
  { dir with items := dir.items ++ [item] }

def appendPlanEvent (dir : PlanDir) (event : Event) : PlanDir :=
  { dir with events := dir.events ++ [event] }

def appendPlanReceipt (dir : PlanDir) (receipt : Receipt) : PlanDir :=
  { dir with receipts := dir.receipts ++ [receipt] }

def appendComment (dir : PlanDir) (comment : Comment) : PlanDir :=
  { dir with comments := dir.comments ++ [comment] }

end PlanDir

def Plan.bump (plan : Plan) (nowMs : Int) : Plan :=
  { plan with version := saturatingSucc plan.version, updatedAtMs := nowMs }

structure CreateOptions where
  planId : String
  originQueueId : Option String
  sessionKey : String
  agentId : String
  goal : String
  acceptanceCriteria : Option String
  constraints : Option String
  maxOpenItems : Option Nat
  maxFanout : Option Nat
  nowMs : Int

structure CreateReport where
  plan : Plan
  created : Bool
  reason : String
  receipt : Receipt

def createOperationPlanInternalLocked (dir : PlanDir) (options : CreateOptions)
    (laneDigest : Option String) (enforceExactLane : Bool)
    : PlanDir × Except IoError CreateReport :=
  match readJsonPlan dir with
  | .ok plan =>
    if enforceExactLane && plan.laneDigest != laneDigest then
      (dir, .error {
        kind := .invalidData
        message := "operation plan `" ++ options.planId ++
          "` is not owned by the requested exact lane digest" })
    else
      let receipt : Receipt := {
        atMs := options.nowMs
        planId := options.planId
        action := .createPlan
        itemId := none
        planVersion := plan.version
        itemVersion := none
        success := true
        reason := "plan already exists"
        duplicated := true }
      -- the receipt of a repeated creation is returned but not written
      (dir, .ok { plan, created := false, reason := "plan already existed", receipt })
  | .error _ =>
    let plan : Plan := {
      planId := options.planId
      originQueueId := options.originQueueId
      sessionKey := options.sessionKey
      agentId := options.agentId
      laneDigest
      goal := options.goal
      status := .open
      acceptanceCriteria := options.acceptanceCriteria
      constraints := options.constraints
      maxOpenItems := options.maxOpenItems
      maxFanout := options.maxFanout
      createdAtMs := options.nowMs
      updatedAtMs := options.nowMs
      version := 1 }
    let event : Event := {
      atMs := options.nowMs
      planId := options.planId
      itemId := none
      kind := .created
      detail := "created operation plan"
      planVersion := plan.version
      itemVersion := none }
    let receipt : Receipt := {
      atMs := options.nowMs
      planId := options.planId
      action := .createPlan
      itemId := none
      planVersion := plan.version
      itemVersion := none
      success := true
      reason := "created plan"
      duplicated := false }
    (((dir.writeJsonPlan plan).appendPlanEvent event).appendPlanReceipt receipt,
      .ok { plan, created := true, reason := "created new plan", receipt })

def validateLaneDigest (value : String) : Except IoError Unit :=
  if value.utf8ByteSize = 64 && value.toList.all Text.isLowerHexdigit then
    .ok ()
  else
    .error {
      kind := .invalidInput
      message := "lane digest must be a canonical lowercase SHA-256 hex string" }

def validateDependencyIds (dependsOn : List String) (existingItems : FMap String Item)
    : Except IoError Unit :=
  go dependsOn
where
  go : List String → Except IoError Unit
    | [] => .ok ()
    | dep :: rest =>
      if dep = "" then
        .error { kind := .invalidInput, message := "dependency id cannot be empty" }
      else if (existingItems.lookup dep).isNone then
        .error { kind := .notFound, message := s!"dependency {dep} does not exist" }
      else if dependsOn.count dep > 1 then
        .error { kind := .invalidInput, message := s!"duplicate dependency {dep}" }
      else
        go rest

theorem card_sdiff_insert_lt {keys visiting : Finset String} {itemId : String} (hkey : itemId ∈ keys)
    (hnew : itemId ∉ visiting)
    : (keys \ insert itemId visiting).card < (keys \ visiting).card := by
  apply Finset.card_lt_card
  rw [Finset.ssubset_iff_of_subset]
  . use itemId
    simp [hkey, hnew]
  . apply Finset.sdiff_subset_sdiff
    . exact Finset.Subset.refl _
    . exact Finset.subset_insert _ _

theorem mem_toFinset_keys {items : FMap String Item} {itemId : String} {item : Item}
    (h : items.lookup itemId = some item)
    : itemId ∈ items.keys.toFinset := by
  rw [List.mem_toFinset, FMap.mem_keys_iff]
  exact ⟨item, h⟩

-- A successful `visit` takes its item out of `visiting` again, so the set a caller sees is the one
-- it passed down; only `visited` flows back.
mutual

def visit (items : FMap String Item) (itemId : String) (visiting visited : Finset String)
    : Except IoError (Finset String) :=
  if itemId ∈ visited then
    .ok visited
  else if hvisiting : itemId ∈ visiting then
    .error { kind := .invalidInput, message := s!"dependency cycle detected at item {itemId}" }
  else
    match hitem : items.lookup itemId with
    | none => .ok (insert itemId visited)
    | some item =>
      have := card_sdiff_insert_lt (mem_toFinset_keys hitem) hvisiting
      match visitAll items item.dependsOn (insert itemId visiting) visited with
      | .error e => .error e
      | .ok visited => .ok (insert itemId visited)
termination_by ((items.keys.toFinset \ visiting).card, 0)

def visitAll (items : FMap String Item) (itemIds : List String) (visiting visited : Finset String)
    : Except IoError (Finset String) :=
  match itemIds with
  | [] => .ok visited
  | itemId :: rest =>
    match visit items itemId visiting visited with
    | .error e => .error e
    | .ok visited => visitAll items rest visiting visited
termination_by ((items.keys.toFinset \ visiting).card, itemIds.length + 1)

end

def validateDependencyAcyclicity (order : HashOrder String) (items : FMap String Item)
    : Except IoError Unit :=
  match visitAll items (order.keys items.keys) ∅ ∅ with
  | .error e => .error e
  | .ok _ => .ok ()

structure AddItemOptions where
  planId : String
  itemId : String
  title : String
  body : String
  dependsOn : List String
  acceptanceCriteria : Option String
  risk : Option String
  nowMs : Int

structure AddItemReport where
  item : Item
  receipt : Receipt

def openItems (items : FMap String Item) : Nat :=
  items.values.countP (fun item => !item.status.isTerminal)

def addOperationPlanItemLocked (dir : PlanDir) (options : AddItemOptions)
    : PlanDir × Except IoError AddItemReport :=
  match readJsonPlan dir with
  | .error e => (dir, .error e)
  | .ok plan =>
    let items := readItemMap dir.items
    if (items.lookup options.itemId).isSome then
      (dir, .error {
        kind := .alreadyExists
        message := s!"item {options.itemId} already exists" })
    else if plan.maxOpenItems.any (fun maxOpenItems => openItems items ≥ maxOpenItems) then
      (dir, .error {
        kind := .invalidInput
        message := s!"maxOpenItems limit of {plan.maxOpenItems.getD 0} would be exceeded" })
    else
      match validateDependencyIds options.dependsOn items with
      | .error e => (dir, .error e)
      | .ok () =>
        let item : Item := {
          planId := options.planId
          itemId := options.itemId
          title := options.title
          body := options.body
          status := .todo
          dependsOn := options.dependsOn
          assignee := none
          workerJobId := none
          queueId := none
          acceptanceCriteria := options.acceptanceCriteria
          evidence := []
          artifacts := []
          risk := options.risk
          delegationIdempotencyKey := none
          version := 1
          createdAtMs := options.nowMs
          updatedAtMs := options.nowMs }
        let plan := plan.bump options.nowMs
        let event : Event := {
          atMs := options.nowMs
          planId := options.planId
          itemId := some item.itemId
          kind := .itemAdded
          detail := s!"added item {options.itemId}"
          planVersion := plan.version
          itemVersion := some item.version }
        let receipt : Receipt := {
          atMs := options.nowMs
          planId := item.planId
          action := .addItem
          itemId := some item.itemId
          planVersion := plan.version
          itemVersion := some item.version
          success := true
          reason := "added item"
          duplicated := false }
        ((((dir.appendItemLine item).writeJsonPlan plan).appendPlanEvent event).appendPlanReceipt
          receipt, .ok { item, receipt })

structure UpdateItemOptions where
  planId : String
  itemId : String
  title : Option String
  body : Option String
  status : Option ItemStatus
  dependsOn : Option (List String)
  assignee : Option String
  workerJobId : Option String
  queueId : Option String
  evidence : Option (List String)
  addEvidence : List String
  replaceEvidence : Bool
  risk : Option String
  expectedItemVersion : Option Nat
  nowMs : Int

structure UpdateItemReport where
  item : Item
  receipt : Receipt
  duplicated : Bool

def itemNotFound : IoError :=
  { kind := .notFound, message := "item not found" }

def versionMismatch (expected found : Nat) : IoError :=
  { kind := .invalidData, message := s!"version mismatch: expected {expected}, found {found}" }

def updateStatus (current : Item) (status : Option ItemStatus) : Except IoError Item :=
  match status with
  | none => .ok current
  | some status =>
    if current.status.canTransitionTo status then
      .ok { current with status }
    else
      .error {
        kind := .invalidInput
        message := s!"invalid transition {current.status.debug} -> {status.debug}" }

/-
`items` is the map without `current`: an item that names itself fails as a missing dependency.
-/
def updateDependsOn (order : HashOrder String) (items : FMap String Item) (current : Item)
    (dependsOn : Option (List String))
    : Except IoError Item :=
  match dependsOn with
  | none => .ok current
  | some dependsOn =>
    match validateDependencyIds dependsOn items with
    | .error e => .error e
    | .ok () =>
      let current := { current with dependsOn }
      match validateDependencyAcyclicity order (items.insert current.itemId current) with
      | .error e => .error e
      | .ok () => .ok current

/-
`sort` followed by `dedup`, which drops consecutive repetitions.
-/
def sortDedup (values : List String) : List String :=
  (values.insertionSort Text.le).destutter (· ≠ ·)

def updateEvidence (current evidence : List String) : List String :=
  if evidence = [] then current else sortDedup (current ++ evidence)

def updateItemFields (current : Item) (options : UpdateItemOptions) : Item :=
  let (kept, added) :=
    match options.evidence with
    | none => (current.evidence, options.addEvidence)
    | some evidence =>
      if options.replaceEvidence then
        (evidence, options.addEvidence)
      else
        (current.evidence, options.addEvidence ++ evidence)
  { current with
    assignee := options.assignee <|> current.assignee
    workerJobId := options.workerJobId <|> current.workerJobId
    queueId := options.queueId <|> current.queueId
    risk := options.risk <|> current.risk
    evidence := updateEvidence kept added
    version := saturatingSucc current.version
    updatedAtMs := options.nowMs }

def updateOperationPlanItemLocked (dir : PlanDir) (options : UpdateItemOptions)
    (order : HashOrder String)
    : PlanDir × Except IoError UpdateItemReport :=
  match readJsonPlan dir with
  | .error e => (dir, .error e)
  | .ok plan =>
    let items := readItemMap dir.items
    match items.lookup options.itemId with
    | none => (dir, .error itemNotFound)
    | some current =>
      let items := items.erase options.itemId
      match options.expectedItemVersion with
      | none =>
        (dir, .error {
          kind := .invalidInput
          message :=
            "--expected-version is required when updating an existing operation-plan item" })
      | some expected =>
        if current.version ≠ expected then
          (dir, .error (versionMismatch expected current.version))
        else
          match updateStatus current options.status with
          | .error e => (dir, .error e)
          | .ok current =>
            let current := {
              current with
              title := options.title.getD current.title
              body := options.body.getD current.body }
            match updateDependsOn order items current options.dependsOn with
            | .error e => (dir, .error e)
            | .ok current =>
              let current := updateItemFields current options
              let plan := plan.bump options.nowMs
              let event : Event := {
                atMs := options.nowMs
                planId := options.planId
                itemId := some current.itemId
                kind := .itemUpdated
                detail := s!"updated item {current.itemId}"
                planVersion := plan.version
                itemVersion := some current.version }
              let receipt : Receipt := {
                atMs := options.nowMs
                planId := options.planId
                action := .updateItem
                itemId := some current.itemId
                planVersion := plan.version
                itemVersion := some current.version
                success := true
                reason := "updated item"
                duplicated := false }
              ((((dir.appendItemLine current).writeJsonPlan plan).appendPlanEvent
                event).appendPlanReceipt receipt, .ok { item := current, receipt, duplicated := false })

structure DelegateItemOptions where
  planId : String
  itemId : String
  assignee : String
  workerJobId : Option String
  queueId : Option String
  idempotencyKey : String
  expectedItemVersion : Option Nat
  nowMs : Int

def duplicateDelegation (dir : PlanDir) (options : DelegateItemOptions) (plan : Plan)
    (current : Item) (reason : String)
    : PlanDir × Except IoError UpdateItemReport :=
  let receipt : Receipt := {
    atMs := options.nowMs
    planId := options.planId
    action := .delegateItem
    itemId := some options.itemId
    planVersion := plan.version
    itemVersion := some current.version
    success := false
    reason
    duplicated := true }
  (dir.appendPlanReceipt receipt, .error { kind := .alreadyExists, message := reason })

def delegateOperationPlanItemLocked (dir : PlanDir) (options : DelegateItemOptions)
    (order : HashOrder String)
    : PlanDir × Except IoError UpdateItemReport :=
  match readJsonPlan dir with
  | .error e => (dir, .error e)
  | .ok plan =>
    let items := readItemMap dir.items
    match items.lookup options.itemId with
    | none => (dir, .error itemNotFound)
    | some current =>
      let items := items.erase options.itemId
      if current.delegationIdempotencyKey = some options.idempotencyKey then
        duplicateDelegation dir options plan current
          s!"idempotency key already used for item {current.itemId}"
      else
        match findItemIdByIdempotencyKey order options.idempotencyKey items with
        | some existingItemId =>
          duplicateDelegation dir options plan current
            s!"idempotency key reused for item {existingItemId}"
        | none =>
          match options.expectedItemVersion with
          | none =>
            (dir, .error {
              kind := .invalidInput
              message :=
                "--expected-version is required when delegating an existing operation-plan item" })
          | some expected =>
            if current.version ≠ expected then
              (dir, .error (versionMismatch expected current.version))
            else
              let delegated : Item := {
                current with
                version := saturatingSucc current.version
                updatedAtMs := options.nowMs
                assignee := some options.assignee
                workerJobId := options.workerJobId
                queueId := options.queueId
                delegationIdempotencyKey := some options.idempotencyKey }
              -- the event carries the version of the plan before this mutation
              let event : Event := {
                atMs := options.nowMs
                planId := delegated.planId
                itemId := some delegated.itemId
                kind := .itemDelegated
                detail := s!"delegated item {delegated.itemId} with key {options.idempotencyKey}"
                planVersion := plan.version
                itemVersion := some delegated.version }
              let plan := plan.bump options.nowMs
              let receipt : Receipt := {
                atMs := options.nowMs
                planId := delegated.planId
                action := .delegateItem
                itemId := some delegated.itemId
                planVersion := plan.version
                itemVersion := some delegated.version
                success := true
                reason := "delegated item"
                duplicated := false }
              ((((dir.appendItemLine delegated).appendPlanEvent event).writeJsonPlan
                plan).appendPlanReceipt receipt,
                .ok { item := delegated, receipt, duplicated := false })

structure PromoteDependenciesOptions where
  planId : String
  nowMs : Int

structure PromoteDependenciesReport where
  promotedItemIds : List String
  receipt : Receipt

def doneItems (latestMap : FMap String Item) : List String :=
  (latestMap.values.filter (fun item => item.status = .done)).map Item.itemId

def isPromotable (latestMap : FMap String Item) (item : Item) : Bool :=
  item.status = .todo
    && item.dependsOn.all
      (fun dep => (latestMap.lookup dep).isSome && (doneItems latestMap).contains dep)

def promoteItem (plan : Plan) (options : PromoteDependenciesOptions) (dir : PlanDir) (item : Item)
    : PlanDir :=
  let next : Item := {
    item with
    status := .ready
    version := saturatingSucc item.version
    updatedAtMs := options.nowMs }
  let event : Event := {
    atMs := options.nowMs
    planId := options.planId
    itemId := some next.itemId
    kind := .itemPromotedToReady
    detail := "dependency-ready promotion"
    planVersion := plan.version
    itemVersion := some next.version }
  (dir.appendItemLine next).appendPlanEvent event

def promoteOperationPlanItemsFromDependenciesLocked (dir : PlanDir)
    (options : PromoteDependenciesOptions) (order : HashOrder String)
    : PlanDir × Except IoError PromoteDependenciesReport :=
  match readJsonPlan dir with
  | .error e => (dir, .error e)
  | .ok plan =>
    let latestMap := readItemMap dir.items
    let items := (order.keys latestMap.keys).filterMap latestMap.lookup
    let ready := items.filter (isPromotable latestMap)
    let dir := ready.foldl (promoteItem plan options) dir
    let promoted := ready.map Item.itemId
    let plan := if promoted = [] then plan else plan.bump options.nowMs
    let dir := if promoted = [] then dir else dir.writeJsonPlan plan
    let receipt : Receipt := {
      atMs := options.nowMs
      planId := options.planId
      action := .promoteDependencies
      itemId := none
      planVersion := plan.version
      itemVersion := none
      success := true
      reason := s!"promoted {promoted.length} items"
      duplicated := false }
    (dir.appendPlanReceipt receipt, .ok { promotedItemIds := promoted, receipt })

structure CommentOptions where
  planId : String
  author : Option String
  body : String
  nowMs : Int

structure CommentReport where
  comment : Comment
  receipt : Receipt

def commentOnOperationPlanLocked (dir : PlanDir) (options : CommentOptions)
    : PlanDir × Except IoError CommentReport :=
  match readJsonPlan dir with
  | .error e => (dir, .error e)
  | .ok plan =>
    let comment : Comment := {
      atMs := options.nowMs
      planId := options.planId
      author := options.author
      body := options.body }
    let event : Event := {
      atMs := options.nowMs
      planId := options.planId
      itemId := none
      kind := .commentAdded
      detail := s!"comment added to plan {comment.planId}"
      planVersion := plan.version
      itemVersion := none }
    let plan := plan.bump options.nowMs
    let receipt : Receipt := {
      atMs := options.nowMs
      planId := comment.planId
      action := .comment
      itemId := none
      planVersion := plan.version
      itemVersion := none
      success := true
      reason := "comment appended"
      duplicated := false }
    ((((dir.appendComment comment).appendPlanEvent event).writeJsonPlan plan).appendPlanReceipt
      receipt, .ok { comment, receipt })

structure BlockOptions where
  planId : String
  reason : Option String
  nowMs : Int

structure PlanReport where
  plan : Plan
  receipt : Receipt

def blockOperationPlanLocked (dir : PlanDir) (options : BlockOptions)
    : PlanDir × Except IoError PlanReport :=
  match readJsonPlan dir with
  | .error e => (dir, .error e)
  | .ok plan =>
    if plan.status = .completed then
      (dir, .error { kind := .invalidInput, message := "cannot block completed plan" })
    else
      let plan := { plan with status := .blocked }.bump options.nowMs
      let event : Event := {
        atMs := options.nowMs
        planId := plan.planId
        itemId := none
        kind := .blocked
        detail := options.reason.getD "plan blocked"
        planVersion := plan.version
        itemVersion := none }
      let receipt : Receipt := {
        atMs := options.nowMs
        planId := plan.planId
        action := .block
        itemId := none
        planVersion := plan.version
        itemVersion := none
        success := true
        reason := "plan blocked"
        duplicated := false }
      (((dir.writeJsonPlan plan).appendPlanEvent event).appendPlanReceipt receipt,
        .ok { plan, receipt })

structure CompleteOptions where
  planId : String
  reason : Option String
  nowMs : Int

def completionBlocker (item : Item) : Option IoError :=
  if !item.status.isTerminal then
    some {
      kind := .invalidInput
      message := s!"cannot complete plan because item {item.itemId} is {item.status.asStr}" }
  else if item.status = .done && item.evidence.isEmpty then
    some {
      kind := .invalidInput
      message := s!"cannot complete plan because done item {item.itemId} has no evidence" }
  else
    none

def completeOperationPlanLocked (dir : PlanDir) (options : CompleteOptions)
    : PlanDir × Except IoError PlanReport :=
  match readJsonPlan dir with
  | .error e => (dir, .error e)
  | .ok plan =>
    let items := readItems dir.items
    if plan.status = .completed then
      let receipt : Receipt := {
        atMs := options.nowMs
        planId := options.planId
        action := .complete
        itemId := none
        planVersion := plan.version
        itemVersion := none
        success := true
        reason := "already completed"
        duplicated := true }
      (dir.appendPlanReceipt receipt, .ok { plan, receipt })
    else if plan.status = .canceled then
      (dir, .error { kind := .invalidInput, message := "cannot complete canceled plan" })
    else
      match items.findSome? completionBlocker with
      | some e => (dir, .error e)
      | none =>
        let plan := { plan with status := .completed }.bump options.nowMs
        let event : Event := {
          atMs := options.nowMs
          planId := options.planId
          itemId := none
          kind := .completed
          detail := options.reason.getD "plan completed"
          planVersion := plan.version
          itemVersion := none }
        let receipt : Receipt := {
          atMs := options.nowMs
          planId := options.planId
          action := .complete
          itemId := none
          planVersion := plan.version
          itemVersion := none
          success := true
          reason := "plan completed"
          duplicated := false }
        (((dir.writeJsonPlan plan).appendPlanEvent event).appendPlanReceipt receipt,
          .ok { plan, receipt })

inductive Call where
  | create (options : CreateOptions)
  | createV2 (options : CreateOptions) (laneDigest : String)
  | addItem (options : AddItemOptions)
  | updateItem (options : UpdateItemOptions) (order : HashOrder String)
  | delegateItem (options : DelegateItemOptions) (order : HashOrder String)
  | promote (options : PromoteDependenciesOptions) (order : HashOrder String)
  | comment (options : CommentOptions)
  | block (options : BlockOptions)
  | complete (options : CompleteOptions)

namespace Call

def planId (call : Call) : String :=
  match call with
  | .create options => options.planId
  | .createV2 options _ => options.planId
  | .addItem options => options.planId
  | .updateItem options _ => options.planId
  | .delegateItem options _ => options.planId
  | .promote options _ => options.planId
  | .comment options => options.planId
  | .block options => options.planId
  | .complete options => options.planId

def performLocked (call : Call) (dir : PlanDir) : PlanDir :=
  match call with
  | .create options => (createOperationPlanInternalLocked dir options none false).1
  | .createV2 options laneDigest =>
    match validateLaneDigest laneDigest with
    | .error _ => dir
    | .ok () => (createOperationPlanInternalLocked dir options (some laneDigest) true).1
  | .addItem options => (addOperationPlanItemLocked dir options).1
  | .updateItem options order => (updateOperationPlanItemLocked dir options order).1
  | .delegateItem options order => (delegateOperationPlanItemLocked dir options order).1
  | .promote options order =>
    (promoteOperationPlanItemsFromDependenciesLocked dir options order).1
  | .comment options => (commentOnOperationPlanLocked dir options).1
  | .block options => (blockOperationPlanLocked dir options).1
  | .complete options => (completeOperationPlanLocked dir options).1

end Call

/-
One call on the store of a harness home. The directory is chosen by the sanitized plan id.
-/
def Store.perform (store : Store) (call : Call) : Store :=
  let name := safeName call.planId
  store.set name (call.performLocked (store name))

end OperationPlan
