import AgentHarness.OperationPlan.Lemmas.Graph

/-!
What one call can do to a plan directory.
-/

namespace OperationPlan

namespace Call

def outcome (call : Call) (dir : PlanDir) : Except IoError Unit :=
  match call with
  | .create options =>
    (createOperationPlanInternalLocked dir options none false).2.map fun _ => ()
  | .createV2 options laneDigest =>
    match validateLaneDigest laneDigest with
    | .error e => .error e
    | .ok () =>
      (createOperationPlanInternalLocked dir options (some laneDigest) true).2.map fun _ => ()
  | .addItem options => (addOperationPlanItemLocked dir options).2.map fun _ => ()
  | .updateItem options order =>
    (updateOperationPlanItemLocked dir options order).2.map fun _ => ()
  | .delegateItem options order =>
    (delegateOperationPlanItemLocked dir options order).2.map fun _ => ()
  | .promote options order =>
    (promoteOperationPlanItemsFromDependenciesLocked dir options order).2.map fun _ => ()
  | .comment options => (commentOnOperationPlanLocked dir options).2.map fun _ => ()
  | .block options => (blockOperationPlanLocked dir options).2.map fun _ => ()
  | .complete options => (completeOperationPlanLocked dir options).2.map fun _ => ()

def succeeds (call : Call) (dir : PlanDir) : Bool :=
  (call.outcome dir).isOk

def isCreate (call : Call) : Bool :=
  match call with
  | .create _ => true
  | .createV2 _ _ => true
  | _ => false

def isDuplicateDelegation (call : Call) (dir : PlanDir) : Bool :=
  match call with
  | .delegateItem options _ =>
    dir.plan.isSome
      && ((readItemMap dir.items).lookup options.itemId).isSome
      && (readItems dir.items).any fun item =>
        item.delegationIdempotencyKey = some options.idempotencyKey
  | _ => false

-- the events are written before the version of the plan is counted up
def logsFirst (call : Call) : Bool :=
  match call with
  | .delegateItem _ _ | .promote _ _ | .comment _ => true
  | _ => false

end Call

def promotedItem (nowMs : Int) (item : Item) : Item :=
  { item with
    status := .ready
    version := saturatingSucc item.version
    updatedAtMs := nowMs }

def delegatedItem (options : DelegateItemOptions) (current : Item) : Item :=
  { current with
    version := saturatingSucc current.version
    updatedAtMs := options.nowMs
    assignee := some options.assignee
    workerJobId := options.workerJobId
    queueId := options.queueId
    delegationIdempotencyKey := some options.idempotencyKey }

def readyItems (order : HashOrder String) (items : List Item) : List Item :=
  ((order.keys (readItemMap items).keys).filterMap (readItemMap items).lookup).filter
    (isPromotable (readItemMap items))

structure UpdatesItem (options : UpdateItemOptions) (old row : Item) : Prop where
  itemId : row.itemId = old.itemId
  version : row.version = saturatingSucc old.version
  key : row.delegationIdempotencyKey = old.delegationIdempotencyKey
  status : row.status = options.status.getD old.status
  transition : ∀ status, options.status = some status → old.status.canTransitionTo status
  evidence : row.evidence = (updateItemFields old options).evidence

structure AddsItem (plan : Plan) (items : List Item) (options : AddItemOptions) (row : Item)
    : Prop where
  itemId : row.itemId = options.itemId
  fresh : (latestItems items).lookup row.itemId = none
  limit : ∀ maxOpenItems, plan.maxOpenItems = some maxOpenItems →
    openItems (readItemMap items) < maxOpenItems
  dependsOn : validateDependencyIds options.dependsOn (readItemMap items) = .ok ()
  status : row.status = .todo
  version : row.version = 1
  key : row.delegationIdempotencyKey = none

inductive Mutation (plan : Plan) (items : List Item) : Call → Plan → List Item → Prop where
  | addItem {options row} (h : AddsItem plan items options row)
    : Mutation plan items (.addItem options) (plan.bump options.nowMs) (items ++ [row])
  | updateItem {options order old row} (hold : (latestItems items).lookup options.itemId = some old)
    (hversion : options.expectedItemVersion = some old.version) (hrow : UpdatesItem options old row)
    : Mutation plan items (.updateItem options order) (plan.bump options.nowMs) (items ++ [row])
  | delegateItem {options order old}
    (hold : (latestItems items).lookup options.itemId = some old)
    (hversion : options.expectedItemVersion = some old.version)
    (hkey : ∀ itemId item, (latestItems items).lookup itemId = some item →
      item.delegationIdempotencyKey ≠ some options.idempotencyKey)
    : Mutation plan items (.delegateItem options order) (plan.bump options.nowMs)
        (items ++ [delegatedItem options old])
  | promote {options order} (hready : readyItems order items ≠ [])
    : Mutation plan items (.promote options order) (plan.bump options.nowMs)
        (items ++ (readyItems order items).map (promotedItem options.nowMs))
  | comment {options} : Mutation plan items (.comment options) (plan.bump options.nowMs) items
  | block {options} (hstatus : plan.status ≠ .completed)
    : Mutation plan items (.block options) ({ plan with status := .blocked }.bump options.nowMs) items
  | complete {options} (hstatus : plan.status ≠ .completed)
    (hitems : ∀ item ∈ readItems items, completionBlocker item = none)
    : Mutation plan items (.complete options)
        ({ plan with status := .completed }.bump options.nowMs) items

def Call.isQuiet (call : Call) (dir : PlanDir) : Bool :=
  match call with
  | .create _ | .createV2 _ _ => dir.plan.isSome
  | .promote _ order => readyItems order dir.items = []
  | .complete _ => dir.plan.any (fun plan => plan.status = .completed)
  | _ => false

/-
`Effect dir call ok plan items`: the call succeeds if `ok` and leaves this plan and these items.
-/
inductive Effect (dir : PlanDir) (call : Call) : Bool → Option Plan → List Item → Prop where
  | refused : Effect dir call false dir.plan dir.items
  | quiet (hquiet : call.isQuiet dir) (hplan : dir.plan.isSome)
    : Effect dir call true dir.plan dir.items
  | created {plan : Plan} (hcreate : call.isCreate) (hplan : dir.plan = none)
    (hstatus : plan.status = .open) (hversion : plan.version = 1)
    : Effect dir call true (some plan) dir.items
  | mutated {plan plan' : Plan} {items' : List Item} (hplan : dir.plan = some plan)
    (hmutation : Mutation plan dir.items call plan' items')
    : Effect dir call true (some plan') items'

/-
`Written dir call ok dir'`: the call succeeds if `ok` and leaves the directory `dir'`.
-/
inductive Written (dir : PlanDir) (call : Call) : Bool → PlanDir → Prop where
  | refused (hnew : call.isDuplicateDelegation dir = false) : Written dir call false dir
  | duplicate {receipt : Receipt} (hduplicate : call.isDuplicateDelegation dir)
    (hreceipt : receipt.success = false)
    : Written dir call false (dir.appendPlanReceipt receipt)
  | quiet {plan : Plan} {receipts : List Receipt} (hquiet : call.isQuiet dir)
    (hplan : dir.plan = some plan)
    (hreceipts : ∃ written, receipts = dir.receipts ++ written
      ∧ ∀ receipt ∈ written, receipt.planVersion = plan.version)
    : Written dir call true { dir with receipts }
  | created {plan : Plan} {event : Event} {receipt : Receipt} (hcreate : call.isCreate)
    (hplan : dir.plan = none) (hid : plan.planId = call.planId) (hstatus : plan.status = .open)
    (hversion : plan.version = 1) (hevent : event.planVersion = plan.version)
    (hreceipt : receipt.planVersion = plan.version)
    : Written dir call true
        (((dir.writeJsonPlan plan).appendPlanEvent event).appendPlanReceipt receipt)
  | mutated {plan plan' : Plan} {items' : List Item} {events : List Event}
    {comments : List Comment} {receipt : Receipt} (hplan : dir.plan = some plan)
    (hmutation : Mutation plan dir.items call plan' items') (hwritten : events ≠ [])
    (hevents : ∀ event ∈ events,
      event.planVersion = if call.logsFirst then plan.version else plan'.version)
    (hreceipt : receipt.planVersion = plan'.version)
    : Written dir call true {
        plan := some plan'
        items := items'
        events := dir.events ++ events
        comments
        receipts := dir.receipts ++ [receipt] }

theorem plan_eq_of_readJsonPlan {dir : PlanDir} {plan : Plan} (h : readJsonPlan dir = .ok plan)
    : dir.plan = some plan := by
  unfold readJsonPlan at h
  split at h
  . next hplan =>
    injection h with h
    rw [hplan, h]
  . contradiction

theorem plan_eq_none_of_readJsonPlan {dir : PlanDir} {e : IoError}
    (h : readJsonPlan dir = .error e)
    : dir.plan = none := by
  unfold readJsonPlan at h
  split at h
  . contradiction
  . next hplan => exact hplan

theorem written_create (dir : PlanDir) (call : Call) (hcreate : call.isCreate)
    (hquiet : call.isQuiet dir = dir.plan.isSome) (hnew : call.isDuplicateDelegation dir = false)
    (options : CreateOptions) (hid : options.planId = call.planId) (laneDigest : Option String)
    (enforceExactLane : Bool)
    : let result := createOperationPlanInternalLocked dir options laneDigest enforceExactLane
      Written dir call result.2.isOk result.1 := by
  unfold createOperationPlanInternalLocked
  split
  . next plan hread =>
    have hplan := plan_eq_of_readJsonPlan hread
    dsimp only
    split
    . exact Written.refused hnew
    . apply Written.quiet _ hplan ⟨[], by simp, by simp⟩
      rw [hquiet, hplan]
      rfl
  . next hread =>
    apply Written.created hcreate (plan_eq_none_of_readJsonPlan hread) hid
    . rfl
    . rfl
    . rfl
    . rfl

theorem written_addItem (dir : PlanDir) (options : AddItemOptions)
    : let result := addOperationPlanItemLocked dir options
      Written dir (.addItem options) result.2.isOk result.1 := by
  unfold addOperationPlanItemLocked
  split
  . exact Written.refused rfl
  . next plan hread =>
    dsimp only
    split
    . exact Written.refused rfl
    . next hfresh =>
      split
      . exact Written.refused rfl
      . next hlimit =>
        split
        . exact Written.refused rfl
        . next hdepends =>
          apply Written.mutated (plan_eq_of_readJsonPlan hread) _ (List.cons_ne_nil _ _) _ rfl
          . apply Mutation.addItem
            constructor
            . rfl
            . simpa [lookup_readItemMap] using hfresh
            . intro maxOpenItems h
              simpa [h] using hlimit
            . exact hdepends
            . rfl
            . rfl
            . rfl
          . simp [Call.logsFirst]

variable {item : Item} {order : HashOrder String} {items : List Item}

theorem updateStatus_cases {current : Item} {status : Option ItemStatus}
    (h : updateStatus current status = .ok item)
    : item = { current with status := status.getD current.status }
        ∧ ∀ next, status = some next → current.status.canTransitionTo next := by
  unfold updateStatus at h
  split at h
  . injection h with h
    simp [← h]
  . split at h
    . next htransition =>
      injection h with h
      refine ⟨h.symm, ?_⟩
      intro next hnext
      injection hnext with hnext
      rw [← hnext]
      exact htransition
    . contradiction

theorem updateDependsOn_fields {items : FMap String Item} {current : Item}
    {dependsOn : Option (List String)}
    (h : updateDependsOn order items current dependsOn = .ok item)
    : item = { current with dependsOn := item.dependsOn } := by
  unfold updateDependsOn at h
  split at h
  . injection h with h
    rw [h]
  . split at h
    . contradiction
    . dsimp only at h
      split at h
      . contradiction
      . injection h with h
        rw [← h]

theorem updatesItem_of_staged {options : UpdateItemOptions} {old : Item} {title body : String}
    {dependsOn : List String}
    (htransition : ∀ next, options.status = some next → old.status.canTransitionTo next)
    (hitem : item = {
      old with
      status := options.status.getD old.status
      title
      body
      dependsOn })
    : UpdatesItem options old (updateItemFields item options) := by
  subst hitem
  constructor
  . exact updateItemFields_itemId _ options
  . unfold updateItemFields
    split
    rfl
  . unfold updateItemFields
    split
    rfl
  . unfold updateItemFields
    split
    rfl
  . exact htransition
  . unfold updateItemFields
    cases options.evidence with
    | none => rfl
    | some evidence => rfl

theorem written_updateItem (dir : PlanDir) (options : UpdateItemOptions) (order : HashOrder String)
    : let result := updateOperationPlanItemLocked dir options order
      Written dir (.updateItem options order) result.2.isOk result.1 := by
  unfold updateOperationPlanItemLocked
  split
  . exact Written.refused rfl
  . next plan hread =>
    dsimp only
    split
    . exact Written.refused rfl
    . next old hold =>
      rw [lookup_readItemMap] at hold
      split
      . exact Written.refused rfl
      . next expected hexpected =>
        split
        . exact Written.refused rfl
        . next hversion =>
          split
          . exact Written.refused rfl
          . next staged hstatus =>
            have hstaged := updateStatus_cases hstatus
            split
            . exact Written.refused rfl
            . next item hdepends =>
              apply Written.mutated (plan_eq_of_readJsonPlan hread) _ (List.cons_ne_nil _ _) _ rfl
              . apply Mutation.updateItem hold
                . rw [hexpected]
                  simpa using Eq.symm (not_not.mp hversion)
                . apply updatesItem_of_staged hstaged.2
                  have hfields := updateDependsOn_fields hdepends
                  rw [hstaged.1] at hfields
                  exact hfields
              . simp [Call.logsFirst]

theorem findItemIdByIdempotencyKey_eq_none {key : String} {items : FMap String Item}
    (h : findItemIdByIdempotencyKey order key items = none)
    : ∀ itemId item, items.lookup itemId = some item →
        item.delegationIdempotencyKey ≠ some key := by
  intro itemId item hitem hkey
  unfold findItemIdByIdempotencyKey at h
  rw [List.find?_eq_none] at h
  have hmem : itemId ∈ order.keys items.keys := by
    rw [HashOrder.mem_keys, FMap.mem_keys_iff]
    exact ⟨item, hitem⟩
  apply h itemId hmem
  simp [hitem, hkey]

theorem exists_latestItems_iff {p : Item → Prop}
    : (∃ item ∈ readItems items, p item)
        ↔ ∃ itemId item, (latestItems items).lookup itemId = some item ∧ p item := by
  constructor
  . rintro ⟨item, hitem, hp⟩
    exact ⟨item.itemId, item, mem_readItems.mp hitem, hp⟩
  . rintro ⟨itemId, item, hitem, hp⟩
    refine ⟨item, ?_, hp⟩
    rw [mem_readItems, itemId_of_lookup_latestItems hitem]
    exact hitem

theorem written_delegateItem (dir : PlanDir) (options : DelegateItemOptions)
    (order : HashOrder String)
    : let result := delegateOperationPlanItemLocked dir options order
      Written dir (.delegateItem options order) result.2.isOk result.1 := by
  unfold delegateOperationPlanItemLocked
  split
  . next hread =>
    apply Written.refused
    simp [Call.isDuplicateDelegation, plan_eq_none_of_readJsonPlan hread]
  . next plan hread =>
    have hplan := plan_eq_of_readJsonPlan hread
    dsimp only
    split
    . next hnone =>
      apply Written.refused
      simp [Call.isDuplicateDelegation, hnone]
    . next old hold =>
      have hduplicate : Call.isDuplicateDelegation (.delegateItem options order) dir
          ↔ ∃ itemId item, (latestItems dir.items).lookup itemId = some item
            ∧ item.delegationIdempotencyKey = some options.idempotencyKey := by
        simp [Call.isDuplicateDelegation, hplan, hold, exists_latestItems_iff]
      rw [lookup_readItemMap] at hold
      split
      . next hown => exact Written.duplicate (hduplicate.mpr ⟨_, old, hold, hown⟩) rfl
      . next hown =>
        split
        . next existingItemId hfind =>
          apply Written.duplicate _ rfl
          rw [hduplicate]
          unfold findItemIdByIdempotencyKey at hfind
          have hfound := List.find?_some hfind
          rw [Option.any_eq_true] at hfound
          rcases hfound with ⟨item, hlookup, hkey⟩
          rw [FMap.lookup_erase_eq, lookup_readItemMap] at hlookup
          split at hlookup
          . contradiction
          . exact ⟨existingItemId, item, hlookup, by simpa using hkey⟩
        . next hfind =>
          have hunused : ∀ itemId item, (latestItems dir.items).lookup itemId = some item →
              item.delegationIdempotencyKey ≠ some options.idempotencyKey := by
            intro itemId item hitem
            by_cases hid : itemId = options.itemId
            . rw [hid, hold] at hitem
              injection hitem with hitem
              rw [← hitem]
              exact hown
            . apply findItemIdByIdempotencyKey_eq_none hfind itemId
              rw [FMap.lookup_erase_eq, if_neg hid, lookup_readItemMap]
              exact hitem
          have hnew : Call.isDuplicateDelegation (.delegateItem options order) dir = false := by
            rw [← Bool.not_eq_true, hduplicate]
            rintro ⟨itemId, item, hitem, hkey⟩
            exact hunused itemId item hitem hkey
          split
          . exact Written.refused hnew
          . next expected hexpected =>
            split
            . exact Written.refused hnew
            . next hversion =>
              apply Written.mutated hplan _ (List.cons_ne_nil _ _) _ rfl
              . apply Mutation.delegateItem hold _ hunused
                rw [hexpected]
                simpa using Eq.symm (not_not.mp hversion)
              . simp [Call.logsFirst]

def promotedEvent (plan : Plan) (options : PromoteDependenciesOptions) (item : Item) : Event where
  atMs := options.nowMs
  planId := options.planId
  itemId := some item.itemId
  kind := .itemPromotedToReady
  detail := "dependency-ready promotion"
  planVersion := plan.version
  itemVersion := some (saturatingSucc item.version)

theorem foldl_promoteItem (plan : Plan) (options : PromoteDependenciesOptions) (ready : List Item)
    (dir : PlanDir)
    : ready.foldl (promoteItem plan options) dir = { dir with
        items := dir.items ++ ready.map (promotedItem options.nowMs)
        events := dir.events ++ ready.map (promotedEvent plan options) } := by
  induction ready generalizing dir with
  | nil => simp
  | cons item ready ih =>
    rw [List.foldl_cons, ih]
    simp [promoteItem, PlanDir.appendItemLine, PlanDir.appendPlanEvent, promotedItem, promotedEvent]

theorem written_promote (dir : PlanDir) (options : PromoteDependenciesOptions)
    (order : HashOrder String)
    : let result := promoteOperationPlanItemsFromDependenciesLocked dir options order
      Written dir (.promote options order) result.2.isOk result.1 := by
  unfold promoteOperationPlanItemsFromDependenciesLocked
  split
  . exact Written.refused rfl
  . next plan hread =>
    have hplan := plan_eq_of_readJsonPlan hread
    have hitems : List.filter (isPromotable (readItemMap dir.items))
        (List.filterMap (readItemMap dir.items).lookup (order.keys (readItemMap dir.items).keys))
          = readyItems order dir.items := rfl
    dsimp only
    rw [hitems]
    by_cases hready : readyItems order dir.items = []
    . simp only [hready, List.map_nil, List.foldl_nil, if_true]
      apply Written.quiet _ hplan ⟨[_], rfl, by simp⟩
      simp [Call.isQuiet, hready]
    . simp only [List.map_eq_nil_iff, hready, if_false, foldl_promoteItem]
      apply Written.mutated hplan (Mutation.promote hready) _ _ rfl
      . simpa using hready
      . simp [Call.logsFirst, promotedEvent]

theorem written_comment (dir : PlanDir) (options : CommentOptions)
    : let result := commentOnOperationPlanLocked dir options
      Written dir (.comment options) result.2.isOk result.1 := by
  unfold commentOnOperationPlanLocked
  split
  . exact Written.refused rfl
  . next plan hread =>
    apply Written.mutated (plan_eq_of_readJsonPlan hread) Mutation.comment (List.cons_ne_nil _ _) _
      rfl
    simp [Call.logsFirst]

theorem written_block (dir : PlanDir) (options : BlockOptions)
    : let result := blockOperationPlanLocked dir options
      Written dir (.block options) result.2.isOk result.1 := by
  unfold blockOperationPlanLocked
  split
  . exact Written.refused rfl
  . next plan hread =>
    dsimp only
    split
    . exact Written.refused rfl
    . next hstatus =>
      apply Written.mutated (plan_eq_of_readJsonPlan hread) (Mutation.block hstatus)
        (List.cons_ne_nil _ _) _ rfl
      simp [Call.logsFirst]

theorem written_complete (dir : PlanDir) (options : CompleteOptions)
    : let result := completeOperationPlanLocked dir options
      Written dir (.complete options) result.2.isOk result.1 := by
  unfold completeOperationPlanLocked
  split
  . exact Written.refused rfl
  . next plan hread =>
    have hplan := plan_eq_of_readJsonPlan hread
    dsimp only
    split
    . next hstatus =>
      apply Written.quiet _ hplan ⟨[_], rfl, by simp⟩
      simp [Call.isQuiet, hplan, hstatus]
    . next hstatus =>
      split
      . exact Written.refused rfl
      . split
        . exact Written.refused rfl
        . next hnone =>
          apply Written.mutated hplan _ (List.cons_ne_nil _ _) _ rfl
          . apply Mutation.complete hstatus
            simpa using hnone
          . simp [Call.logsFirst]

theorem isOk_map {ε : Type u} {α : Type v} {β : Type w} (f : α → β) (result : Except ε α)
    : (result.map f).isOk = result.isOk := by
  cases result with
  | error e => rfl
  | ok a => rfl

theorem written_performLocked (call : Call) (dir : PlanDir)
    : Written dir call (call.succeeds dir) (call.performLocked dir) := by
  unfold Call.succeeds
  cases call with
  | create options =>
    simp only [Call.outcome, isOk_map]
    exact written_create dir (.create options) rfl rfl rfl options rfl none false
  | createV2 options laneDigest =>
    simp only [Call.outcome, Call.performLocked]
    cases validateLaneDigest laneDigest with
    | error e => exact Written.refused rfl
    | ok valid =>
      simp only [isOk_map]
      exact written_create dir (.createV2 options laneDigest) rfl rfl rfl options rfl
        (some laneDigest) true
  | addItem options =>
    simp only [Call.outcome, isOk_map]
    exact written_addItem dir options
  | updateItem options order =>
    simp only [Call.outcome, isOk_map]
    exact written_updateItem dir options order
  | delegateItem options order =>
    simp only [Call.outcome, isOk_map]
    exact written_delegateItem dir options order
  | promote options order =>
    simp only [Call.outcome, isOk_map]
    exact written_promote dir options order
  | comment options =>
    simp only [Call.outcome, isOk_map]
    exact written_comment dir options
  | block options =>
    simp only [Call.outcome, isOk_map]
    exact written_block dir options
  | complete options =>
    simp only [Call.outcome, isOk_map]
    exact written_complete dir options

theorem effect_performLocked (call : Call) (dir : PlanDir)
    : Effect dir call (call.succeeds dir) (call.performLocked dir).plan
        (call.performLocked dir).items := by
  have h := written_performLocked call dir
  generalize call.succeeds dir = ok at h
  generalize call.performLocked dir = after at h
  cases h with
  | refused hnew => exact Effect.refused
  | duplicate hduplicate hreceipt => exact Effect.refused
  | quiet hquiet hplan hreceipts => exact Effect.quiet hquiet (by simp [hplan])
  | created hcreate hplan hid hstatus hversion hevent hreceipt =>
    exact Effect.created hcreate hplan hstatus hversion
  | mutated hplan hmutation hwritten hevents hreceipt => exact Effect.mutated hplan hmutation

theorem lookup_latestItems_append_of_notMem {rows : List Item} {itemId : String}
    (h : itemId ∉ rows.map Item.itemId)
    : (latestItems (items ++ rows)).lookup itemId = (latestItems items).lookup itemId := by
  induction rows using List.reverseRecOn with
  | nil => simp
  | append_singleton rows row ih =>
    rw [List.map_append, List.mem_append, not_or] at h
    rw [← List.append_assoc, latestItems_concat, FMap.lookup_insert_eq, if_neg, ih h.1]
    simpa using h.2

theorem lookup_latestItems_append_of_mem (items : List Item) {rows : List Item} {row : Item}
    (hnodup : (rows.map Item.itemId).Nodup) (hrow : row ∈ rows)
    : (latestItems (items ++ rows)).lookup row.itemId = some row := by
  induction rows using List.reverseRecOn with
  | nil => simp at hrow
  | append_singleton rows last ih =>
    rw [List.map_append, List.nodup_append] at hnodup
    rw [← List.append_assoc, latestItems_concat, FMap.lookup_insert_eq]
    rw [List.mem_append, List.mem_singleton] at hrow
    cases hrow with
    | inl hmem =>
      have hne : row.itemId ≠ last.itemId := by
        apply hnodup.2.2 row.itemId (List.mem_map_of_mem hmem)
        simp
      rw [if_neg hne]
      exact ih hnodup.1 hmem
    | inr heq => simp [heq]

theorem mem_readyItems (h : item ∈ readyItems order items)
    : (latestItems items).lookup item.itemId = some item ∧ item.status = .todo := by
  unfold readyItems at h
  rw [List.mem_filter, List.mem_filterMap] at h
  cases h.1 with
  | intro itemId hlookup =>
    have hlatest := hlookup.2
    rw [lookup_readItemMap] at hlatest
    refine ⟨?_, ?_⟩
    . rw [itemId_of_lookup_latestItems hlatest]
      exact hlatest
    . have hstatus := h.2
      simp only [isPromotable, Bool.and_eq_true, decide_eq_true_eq] at hstatus
      exact hstatus.1

theorem sublist_map_filterMap_lookup {items : FMap String Item}
    (hkey : ∀ itemId item, items.lookup itemId = some item → item.itemId = itemId)
    (itemIds : List String)
    : ((itemIds.filterMap items.lookup).map Item.itemId).Sublist itemIds := by
  induction itemIds with
  | nil => simp
  | cons itemId itemIds ih =>
    cases hlookup : items.lookup itemId with
    | none =>
      simp only [List.filterMap_cons, hlookup]
      exact ih.cons itemId
    | some item =>
      simp only [List.filterMap_cons, hlookup, List.map_cons, hkey itemId item hlookup]
      exact ih.cons_cons itemId

theorem nodup_readyItems (order : HashOrder String) (items : List Item)
    : ((readyItems order items).map Item.itemId).Nodup := by
  have hkey : ∀ itemId item, (readItemMap items).lookup itemId = some item → item.itemId = itemId := by
    intro itemId item h
    rw [lookup_readItemMap] at h
    exact itemId_of_lookup_latestItems h
  have hfiltered : ((readyItems order items).map Item.itemId).Sublist
      (order.keys (readItemMap items).keys) := by
    apply List.Sublist.trans
    . apply List.Sublist.map
      exact List.filter_sublist
    . exact sublist_map_filterMap_lookup hkey _
  apply hfiltered.nodup
  rw [(order.keys_perm _).nodup_iff]
  exact (readItemMap items).keys_nodup

def Call.touches (call : Call) (items : List Item) (itemId : String) : Bool :=
  match call with
  | .updateItem options _ => options.itemId = itemId
  | .delegateItem options _ => options.itemId = itemId
  | .promote _ order => itemId ∈ (readyItems order items).map Item.itemId
  | _ => false

inductive Rewrites (call : Call) (old row : Item) : Prop where
  | updated {options order} (hcall : call = .updateItem options order)
    (hid : options.itemId = old.itemId) (hversion : options.expectedItemVersion = some old.version)
    (hrow : UpdatesItem options old row)
  | delegated {options order} (hcall : call = .delegateItem options order)
    (hid : options.itemId = old.itemId) (hversion : options.expectedItemVersion = some old.version)
    (hrow : row = delegatedItem options old)
  | promoted {options order} (hcall : call = .promote options order) (hstatus : old.status = .todo)
    (hrow : row = promotedItem options.nowMs old)

/-
What a mutation does to the item with a given id: nothing, its first row, or a new row.
-/
inductive LatestChange (plan : Plan) (items items' : List Item) (call : Call) (itemId : String)
    : Prop where
  | same (htouches : call.touches items itemId = false)
    (hlookup : (latestItems items').lookup itemId = (latestItems items).lookup itemId)
  | added {options row} (hcall : call = .addItem options) (hrow : AddsItem plan items options row)
    (hid : row.itemId = itemId) (hlookup : (latestItems items').lookup itemId = some row)
  | rewritten {old row} (htouches : call.touches items itemId)
    (hold : (latestItems items).lookup itemId = some old)
    (hlookup : (latestItems items').lookup itemId = some row) (hrow : Rewrites call old row)

theorem lookup_latestItems_concat (items : List Item) (row : Item) (itemId : String)
    : (latestItems (items ++ [row])).lookup itemId
        = if itemId = row.itemId then some row else (latestItems items).lookup itemId := by
  rw [latestItems_concat, FMap.lookup_insert_eq]

theorem latestChange_promote {plan : Plan} {options : PromoteDependenciesOptions} (itemId : String)
    : LatestChange plan items (items ++ (readyItems order items).map (promotedItem options.nowMs))
        (.promote options order) itemId := by
  have hids : ((readyItems order items).map (promotedItem options.nowMs)).map Item.itemId
      = (readyItems order items).map Item.itemId := by
    rw [List.map_map]
    rfl
  by_cases hmem : itemId ∈ (readyItems order items).map Item.itemId
  . rw [List.mem_map] at hmem
    cases hmem with
    | intro old h =>
      have hold := mem_readyItems h.1
      have hrow : promotedItem options.nowMs old
          ∈ (readyItems order items).map (promotedItem options.nowMs) := List.mem_map_of_mem h.1
      have hnodup : (((readyItems order items).map (promotedItem options.nowMs)).map
          Item.itemId).Nodup := by
        rw [hids]
        exact nodup_readyItems order items
      have hlookup := lookup_latestItems_append_of_mem items hnodup hrow
      rw [← h.2]
      apply LatestChange.rewritten _ hold.1 hlookup
      . exact Rewrites.promoted rfl hold.2 rfl
      . simp only [Call.touches, decide_eq_true_eq]
        exact List.mem_map_of_mem h.1
  . apply LatestChange.same
    . simpa [Call.touches] using hmem
    . apply lookup_latestItems_append_of_notMem
      rw [hids]
      exact hmem

theorem latestChange_of_mutation {plan plan' : Plan} {items' : List Item} {call : Call}
    (h : Mutation plan items call plan' items') (itemId : String)
    : LatestChange plan items items' call itemId := by
  cases h with
  | @addItem options row hrow =>
    by_cases hid : itemId = row.itemId
    . apply LatestChange.added rfl hrow hid.symm
      rw [lookup_latestItems_concat, if_pos hid]
    . apply LatestChange.same rfl
      rw [lookup_latestItems_concat, if_neg hid]
  | @updateItem options order old row hold hversion hrow =>
    have hrowId : row.itemId = options.itemId := by
      rw [hrow.itemId, itemId_of_lookup_latestItems hold]
    by_cases hid : itemId = options.itemId
    . subst hid
      apply LatestChange.rewritten (by simp [Call.touches]) hold
      . rw [lookup_latestItems_concat, if_pos hrowId.symm]
      . apply Rewrites.updated rfl _ hversion hrow
        rw [itemId_of_lookup_latestItems hold]
    . apply LatestChange.same
      . simpa [Call.touches] using Ne.symm hid
      . rw [lookup_latestItems_concat, hrowId, if_neg hid]
  | @delegateItem options order old hold hversion hkey =>
    have hrowId : (delegatedItem options old).itemId = options.itemId := by
      rw [← itemId_of_lookup_latestItems hold]
      rfl
    by_cases hid : itemId = options.itemId
    . subst hid
      apply LatestChange.rewritten (by simp [Call.touches]) hold
      . rw [lookup_latestItems_concat, if_pos hrowId.symm]
      . apply Rewrites.delegated rfl _ hversion rfl
        rw [itemId_of_lookup_latestItems hold]
    . apply LatestChange.same
      . simpa [Call.touches] using Ne.symm hid
      . rw [lookup_latestItems_concat, hrowId, if_neg hid]
  | promote hready => exact latestChange_promote itemId
  | comment => exact LatestChange.same rfl rfl
  | block hstatus => exact LatestChange.same rfl rfl
  | complete hstatus hitems => exact LatestChange.same rfl rfl

theorem invariant_of_guarded_calls (inv : Option Plan → List Item → Prop)
    (guard : PlanDir → Call → Prop) (hnil : inv none [])
    (hstep : ∀ dir call ok plan items, inv dir.plan dir.items → guard dir call →
      Effect dir call ok plan items → inv plan items)
    {calls : List Call}
    (hguard : Run.Guarded Store.perform
      (fun store call => guard (store (safeName call.planId)) call) Store.empty calls)
    (name : String)
    : inv (Run.exec Store.perform Store.empty calls name).plan
        (Run.exec Store.perform Store.empty calls name).items := by
  have hrun := Run.exec_invariant_of_guarded
    (fun store : Store => ∀ name, inv (store name).plan (store name).items)
    ?_ ?_ hguard
  . exact hrun name
  . intro store call hinv hcall name
    unfold Store.perform
    by_cases hname : name = safeName call.planId
    . rw [hname, Store.set_same]
      apply hstep _ _ _ _ _ (hinv (safeName call.planId)) hcall
      exact effect_performLocked call (store (safeName call.planId))
    . rw [Store.set_of_ne _ _ hname]
      apply hinv
  . intro name
    exact hnil

theorem invariant_of_calls (inv : Option Plan → List Item → Prop) (hnil : inv none [])
    (hstep : ∀ dir call ok plan items, inv dir.plan dir.items →
      Effect dir call ok plan items → inv plan items)
    (calls : List Call) (name : String)
    : inv (Run.exec Store.perform Store.empty calls name).plan
        (Run.exec Store.perform Store.empty calls name).items := by
  apply invariant_of_guarded_calls inv (fun _ _ => True) hnil
  . intro dir call ok plan items hinv _ heffect
    exact hstep dir call ok plan items hinv heffect
  . apply Run.guarded_of_forall
    intro call _ store
    trivial

def Outlives (before after : Option Plan) : Prop :=
  ∀ plan ∈ before, ∃ status version updatedAtMs,
    after = some { plan with status, version, updatedAtMs }
      ∧ (plan.status = .completed → status = .completed)

theorem Outlives.refl (plan : Option Plan) : Outlives plan plan := by
  intro plan hplan
  exact ⟨plan.status, plan.version, plan.updatedAtMs, hplan, id⟩

theorem Outlives.trans {before plan after : Option Plan} (h : Outlives before plan)
    (h' : Outlives plan after)
    : Outlives before after := by
  intro first hfirst
  obtain ⟨_, _, _, rfl, hcompleted⟩ := h first hfirst
  obtain ⟨status, version, updatedAtMs, hafter, hcompleted'⟩ := h' _ rfl
  exact ⟨status, version, updatedAtMs, hafter, fun hstatus => hcompleted' (hcompleted hstatus)⟩

theorem outlives_of_effect {dir : PlanDir} {call : Call} {ok : Bool} {plan : Option Plan}
    {items : List Item} (h : Effect dir call ok plan items)
    : Outlives dir.plan plan := by
  cases h with
  | refused => exact .refl _
  | quiet => exact .refl _
  | created _ hplan =>
    rw [hplan]
    intro plan hnone
    cases hnone
  | mutated hplan hmutation =>
    rw [hplan]
    rintro _ ⟨⟩
    cases hmutation with
    | block hstatus => exact ⟨_, _, _, rfl, fun hcompleted => absurd hcompleted hstatus⟩
    | complete => exact ⟨_, _, _, rfl, fun _ => rfl⟩
    | _ => exact ⟨_, _, _, rfl, id⟩

/-
No call loses a plan or changes more of it than its status, its version and its time, and a plan that is
completed stays completed.
-/
theorem plans_outlive_calls (store : Store) (calls : List Call) (name : String)
    : Outlives (store name).plan (Run.exec Store.perform store calls name).plan := by
  refine Run.exec_invariant (fun later : Store => ∀ name, Outlives (store name).plan (later name).plan)
    ?_ (fun name => .refl _) calls name
  intro later call hlater name
  apply (hlater name).trans
  unfold Store.perform
  by_cases hname : name = safeName call.planId
  . rw [hname, Store.set_same]
    exact outlives_of_effect (effect_performLocked call _)
  . rw [Store.set_of_ne _ _ hname]
    exact .refl _

end OperationPlan
