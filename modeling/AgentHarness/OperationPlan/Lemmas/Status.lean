import AgentHarness.OperationPlan.Lemmas.Mutation

/-!
The statuses of a plan and of its items along a run: how many items are open, that a terminal item
stays terminal, and what a completed plan has to keep.
-/

namespace OperationPlan

def Item.isOpen (item : Item) : Bool :=
  !item.status.isTerminal

theorem openItems_eq_length (items : FMap String Item)
    : openItems items = (items.keysWhere fun _ item => item.isOpen).length := by
  unfold openItems FMap.keysWhere FMap.values
  rw [List.countP_map, List.length_map, ← List.countP_eq_length_filter]
  rfl

theorem openItems_le_of_subset {items items' : FMap String Item} (itemIds : List String)
    (h : ∀ itemId item, items.lookup itemId = some item → item.isOpen →
      itemId ∈ itemIds ∨ ∃ item', items'.lookup itemId = some item' ∧ item'.isOpen)
    : openItems items ≤ itemIds.length + openItems items' := by
  rw [openItems_eq_length, openItems_eq_length, ← List.length_append]
  apply List.Subperm.length_le
  apply List.Nodup.subperm (FMap.nodup_keysWhere items _)
  intro itemId hmem
  rw [FMap.mem_keysWhere] at hmem
  rw [List.mem_append, FMap.mem_keysWhere]
  cases hmem with
  | intro item hitem => exact h itemId item hitem.1 hitem.2

theorem openItems_readItemMap (items : List Item)
    : openItems (readItemMap items) = openItems (latestItems items) := by
  have hle : ∀ left right : FMap String Item, (∀ itemId, left.lookup itemId = right.lookup itemId) →
      openItems left ≤ openItems right := by
    intro left right heq
    rw [← Nat.zero_add (openItems right)]
    apply openItems_le_of_subset []
    intro itemId item hitem hopen
    right
    rw [heq] at hitem
    exact ⟨item, hitem, hopen⟩
  apply Nat.le_antisymm
  . apply hle
    exact lookup_readItemMap items
  . apply hle
    intro itemId
    rw [lookup_readItemMap]

theorem countP_readItems (items : List Item)
    : (readItems items).countP Item.isOpen = openItems (latestItems items) := by
  unfold readItems
  rw [(List.perm_insertionSort _ _).countP_eq]
  rfl

theorem isTerminal_of_canTransitionTo {current next : ItemStatus} (hcurrent : current.isTerminal)
    (h : current.canTransitionTo next)
    : next.isTerminal := by
  cases current with
  | todo | ready | running | review => contradiction
  | done | blocked | canceled =>
    cases next with
    | canceled => rfl
    | todo | ready | running | review | done | blocked => contradiction

variable {call : Call} {items items' : List Item} {plan plan' : Plan} {dir : PlanDir}
  {itemId : String} {row : Item}

theorem isTerminal_of_rewrites {old : Item} (h : Rewrites call old row)
    (hold : old.status.isTerminal)
    : row.status.isTerminal := by
  cases h with
  | @updated options order hcall hid hversion hrow =>
    rw [hrow.status]
    cases hstatus : options.status with
    | none => exact hold
    | some status =>
      apply isTerminal_of_canTransitionTo hold
      exact hrow.transition status hstatus
  | delegated hcall hid hversion hrow =>
    rw [hrow]
    exact hold
  | promoted hcall hstatus hrow =>
    rw [hstatus] at hold
    contradiction

theorem isTerminal_of_mutation (h : Mutation plan items call plan' items') {old : Item}
    (hold : (latestItems items).lookup itemId = some old) (hterminal : old.status.isTerminal)
    : ∃ row, (latestItems items').lookup itemId = some row ∧ row.status.isTerminal := by
  cases latestChange_of_mutation h itemId with
  | same htouches hlookup =>
    rw [hold] at hlookup
    exact ⟨old, hlookup, hterminal⟩
  | added hcall hrow hid hlookup =>
    have hfresh := hrow.fresh
    rw [hid, hold] at hfresh
    contradiction
  | rewritten htouches hlatest hlookup hrow =>
    rw [hold] at hlatest
    injection hlatest with hlatest
    rw [← hlatest] at hrow
    exact ⟨_, hlookup, isTerminal_of_rewrites hrow hterminal⟩

theorem isOpen_of_mutation (h : Mutation plan items call plan' items')
    (hrow : (latestItems items').lookup itemId = some row) (hopen : row.isOpen)
    : (∃ options, call = .addItem options ∧ options.itemId = itemId)
        ∨ ∃ old, (latestItems items).lookup itemId = some old ∧ old.isOpen := by
  cases latestChange_of_mutation h itemId with
  | same htouches hlookup =>
    right
    rw [hrow] at hlookup
    exact ⟨row, hlookup.symm, hopen⟩
  | @added options row' hcall hadds hid hlookup =>
    left
    refine ⟨options, hcall, ?_⟩
    rw [← hadds.itemId, hid]
  | @rewritten old row' htouches hold hlookup hrewrites =>
    right
    rw [hrow] at hlookup
    injection hlookup with hlookup
    refine ⟨old, hold, ?_⟩
    cases hterminal : old.status.isTerminal with
    | false => simp [Item.isOpen, hterminal]
    | true =>
      have hclosed := isTerminal_of_rewrites hrewrites hterminal
      rw [← hlookup] at hclosed
      simp [Item.isOpen, hclosed] at hopen

theorem openItems_addItem {options : AddItemOptions}
    (h : Mutation plan items (.addItem options) plan' items')
    : openItems (latestItems items') ≤ 1 + openItems (latestItems items) := by
  apply openItems_le_of_subset [options.itemId]
  intro itemId row hrow hopen
  cases isOpen_of_mutation h hrow hopen with
  | inl hadd =>
    left
    cases hadd with
    | intro other hother =>
      injection hother.1 with heq
      rw [heq, hother.2]
      simp
  | inr hold =>
    right
    exact hold

theorem openItems_of_mutation (h : Mutation plan items call plan' items')
    (hadd : ∀ options, call ≠ .addItem options)
    : openItems (latestItems items') ≤ openItems (latestItems items) := by
  rw [← Nat.zero_add (openItems (latestItems items))]
  apply openItems_le_of_subset []
  intro itemId row hrow hopen
  cases isOpen_of_mutation h hrow hopen with
  | inl hother =>
    cases hother with
    | intro options hoptions => exact absurd hoptions.1 (hadd options)
  | inr hold =>
    right
    exact hold

theorem maxOpenItems_of_mutation (h : Mutation plan items call plan' items')
    : plan'.maxOpenItems = plan.maxOpenItems := by
  cases h <;> rfl

/-
A directory without a plan has no items, and a plan with a limit has at most so many open ones.
-/
structure OpenInv (plan : Option Plan) (items : List Item) : Prop where
  noPlan : plan = none → items = []
  bound : ∀ current, plan = some current → ∀ maxOpenItems, current.maxOpenItems = some maxOpenItems →
    openItems (latestItems items) ≤ maxOpenItems

theorem openInv_mutation (hinv : OpenInv (some plan) items)
    (h : Mutation plan items call plan' items')
    : OpenInv (some plan') items' := by
  constructor
  . intro hnone
    contradiction
  . intro current hcurrent maxOpenItems hmax
    injection hcurrent with hcurrent
    rw [← hcurrent, maxOpenItems_of_mutation h] at hmax
    have hbound := hinv.bound plan rfl maxOpenItems hmax
    by_cases hadd : ∃ options, call = .addItem options
    . cases hadd with
      | intro options hcall =>
        subst hcall
        have hle := openItems_addItem h
        cases h with
        | addItem hrow =>
          have hlimit := hrow.limit maxOpenItems hmax
          rw [openItems_readItemMap] at hlimit
          omega
    . have hle := openItems_of_mutation h (fun options hcall => hadd ⟨options, hcall⟩)
      omega

theorem openInv_effect {ok : Bool} {plan : Option Plan} (hinv : OpenInv dir.plan dir.items)
    (h : Effect dir call ok plan items)
    : OpenInv plan items := by
  cases h with
  | refused => exact hinv
  | quiet hquiet hplan => exact hinv
  | created hcreate hplan hstatus hversion =>
    constructor
    . intro hnone
      contradiction
    . intro current _ maxOpenItems _
      rw [hinv.noPlan hplan]
      exact Nat.zero_le _
  | mutated hplan hmutation =>
    rw [hplan] at hinv
    exact openInv_mutation hinv hmutation

theorem isTerminal_of_effect {ok : Bool} {plan : Option Plan} (h : Effect dir call ok plan items)
    (hterminal : ∃ item, (latestItems dir.items).lookup itemId = some item ∧ item.status.isTerminal)
    : ∃ item, (latestItems items).lookup itemId = some item ∧ item.status.isTerminal := by
  cases h with
  | refused => exact hterminal
  | quiet hquiet hplan => exact hterminal
  | created hcreate hplan hstatus hversion => exact hterminal
  | mutated hplan hmutation =>
    cases hterminal with
    | intro old h => exact isTerminal_of_mutation hmutation h.1 h.2

theorem isTerminal_of_perform {store : Store} {name : String}
    (hterminal : ∃ item, (latestItems (store name).items).lookup itemId = some item
      ∧ item.status.isTerminal)
    : ∃ item, (latestItems (store.perform call name).items).lookup itemId = some item
        ∧ item.status.isTerminal := by
  unfold Store.perform
  by_cases hname : name = safeName call.planId
  . subst hname
    rw [Store.set_same]
    exact isTerminal_of_effect (effect_performLocked call _) hterminal
  . rw [Store.set_of_ne _ _ hname]
    exact hterminal

theorem exists_readItems_iff {p : Item → Prop}
    : (∃ item ∈ readItems items, item.itemId = itemId ∧ p item)
        ↔ ∃ item, (latestItems items).lookup itemId = some item ∧ p item := by
  constructor
  . intro h
    cases h with
    | intro item h =>
      have hlookup := mem_readItems.mp h.1
      rw [h.2.1] at hlookup
      exact ⟨item, hlookup, h.2.2⟩
  . intro h
    cases h with
    | intro item h =>
      have hid := itemId_of_lookup_latestItems h.1
      refine ⟨item, ?_, hid, h.2⟩
      rw [mem_readItems, hid]
      exact h.1

theorem openItems_bounded_of_calls (calls later : List Call) (planId : String)
    : let dir := Run.exec Store.perform Store.empty calls (safeName planId)
      let dir' := Run.exec Store.perform Store.empty (calls ++ later) (safeName planId)
      (∀ plan maxOpenItems, dir.plan = some plan → plan.maxOpenItems = some maxOpenItems →
          (readItems dir.items).countP (fun item => !item.status.isTerminal) ≤ maxOpenItems)
        ∧ ∀ itemId, (∃ item ∈ readItems dir.items, item.itemId = itemId ∧ item.status.isTerminal) →
          ∃ item ∈ readItems dir'.items, item.itemId = itemId ∧ item.status.isTerminal := by
  constructor
  . intro plan maxOpenItems hplan hmax
    have hinv := invariant_of_calls OpenInv ⟨fun _ => rfl, by simp⟩
      (fun _ _ _ _ _ => openInv_effect) calls (safeName planId)
    change (readItems _).countP Item.isOpen ≤ maxOpenItems
    rw [countP_readItems]
    exact hinv.bound plan hplan maxOpenItems hmax
  . intro itemId h
    rw [exists_readItems_iff] at h ⊢
    rw [Run.exec_append]
    apply Run.exec_invariant
      (fun store : Store => ∃ item, (latestItems (store (safeName planId)).items).lookup itemId
        = some item ∧ item.status.isTerminal)
    . intro store call hterminal
      exact isTerminal_of_perform hterminal
    . exact h

def sampleCreate : CreateOptions where
  planId := "plan-1"
  originQueueId := none
  sessionKey := "session-1"
  agentId := "main"
  goal := "ship it"
  acceptanceCriteria := none
  constraints := none
  maxOpenItems := some 1
  maxFanout := none
  nowMs := 1000

def sampleAdd (itemId : String) : AddItemOptions where
  planId := "plan-1"
  itemId
  title := "write the report"
  body := ""
  dependsOn := []
  acceptanceCriteria := none
  risk := none
  nowMs := 2000

def sampleCancel (itemId : String) : UpdateItemOptions where
  planId := "plan-1"
  itemId
  title := none
  body := none
  status := some .canceled
  dependsOn := none
  assignee := none
  workerJobId := none
  queueId := none
  evidence := none
  addEvidence := []
  replaceEvidence := false
  risk := none
  expectedItemVersion := some 1
  nowMs := 3000

def sampleCanceled : List Call :=
  [.create sampleCreate, .addItem (sampleAdd "item-1"),
    .updateItem (sampleCancel "item-1") (HashOrder.insertion String)]

def sampleReplaced : List Call := [.addItem (sampleAdd "item-2")]

def sampleDir (calls : List Call) : PlanDir :=
  Run.exec Store.perform Store.empty calls (safeName "plan-1")

theorem openItems_bounded_of_sampleCanceled
    : (readItems (sampleDir sampleCanceled).items).countP (fun item => !item.status.isTerminal) ≤ 1
        ∧ ∃ item ∈ readItems (sampleDir (sampleCanceled ++ sampleReplaced)).items,
          item.itemId = "item-1" ∧ item.status.isTerminal := by
  have h := openItems_bounded_of_calls sampleCanceled sampleReplaced "plan-1"
  have hplan : ∃ plan, (sampleDir sampleCanceled).plan = some plan
      ∧ plan.maxOpenItems = some 1 := by
    have hsome : (sampleDir sampleCanceled).plan.any (fun plan => plan.maxOpenItems = some 1) := by
      decide +kernel
    simpa [Option.any_eq_true] using hsome
  have hitem : ∃ item ∈ readItems (sampleDir sampleCanceled).items,
      item.itemId = "item-1" ∧ item.status.isTerminal := by
    decide +kernel
  cases hplan with
  | intro plan hplan => exact ⟨h.1 plan 1 hplan.1 hplan.2, h.2 "item-1" hitem⟩

theorem sortDedup_eq_nil {values : List String} (h : sortDedup values = []) : values = [] := by
  unfold sortDedup at h
  rw [List.destutter_eq_nil] at h
  have hperm := List.perm_insertionSort Text.le values
  rw [h] at hperm
  exact hperm.nil_eq.symm

theorem updateItemFields_evidence_eq_nil {current : Item} {options : UpdateItemOptions}
    (h : (updateItemFields current options).evidence = [])
    : current.evidence = []
        ∨ options.evidence = some [] ∧ options.replaceEvidence ∧ options.addEvidence = [] := by
  have hnil : ∀ kept added, updateEvidence kept added = [] → kept = [] ∧ added = [] := by
    intro kept added hevidence
    unfold updateEvidence at hevidence
    split at hevidence
    . next hadded => exact ⟨hevidence, hadded⟩
    . have happend := sortDedup_eq_nil hevidence
      exact List.append_eq_nil_iff.mp happend
  unfold updateItemFields at h
  cases hevidence : options.evidence with
  | none =>
    left
    rw [hevidence] at h
    exact (hnil _ _ h).1
  | some evidence =>
    rw [hevidence] at h
    cases hreplace : options.replaceEvidence with
    | false =>
      left
      simp only [hreplace] at h
      exact (hnil _ _ h).1
    | true =>
      right
      simp only [hreplace, if_true] at h
      have hboth := hnil _ _ h
      simp [hboth.1, hboth.2]

/-
The two calls that are accepted on a completed plan although they undo what its completion has
checked: an item is added, or the evidence of a done item is replaced by nothing.
-/
def Call.reopensCompleted (call : Call) (dir : PlanDir) : Bool :=
  dir.plan.any (fun plan => plan.status = .completed) &&
    match call with
    | .addItem options =>
      ((readItemMap dir.items).lookup options.itemId).isNone
        && dir.plan.all (fun plan => plan.maxOpenItems.all fun maxOpenItems =>
          openItems (readItemMap dir.items) < maxOpenItems)
        && (validateDependencyIds options.dependsOn (readItemMap dir.items)).isOk
    | .updateItem options _ =>
      ((readItemMap dir.items).lookup options.itemId).any fun item =>
        item.status = .done
          && options.status.isNone
          && options.expectedItemVersion = some item.version
          && options.evidence = some []
          && options.replaceEvidence
          && options.addEvidence = []
    | _ => false

def CompletedInv (plan : Option Plan) (items : List Item) : Prop :=
  ∀ current, plan = some current → current.status = .completed →
    ∀ itemId item, (latestItems items).lookup itemId = some item → completionBlocker item = none

theorem completionBlocker_eq_none {item : Item}
    : completionBlocker item = none
        ↔ item.status.isTerminal ∧ (item.status = .done → item.evidence ≠ []) := by
  unfold completionBlocker
  cases hterminal : item.status.isTerminal with
  | false => simp
  | true =>
    cases hevidence : item.evidence with
    | nil => simp
    | cons head tail => simp

theorem reopensCompleted_addItem {options : AddItemOptions} (hplan : dir.plan = some plan)
    (hstatus : plan.status = .completed) (hrow : AddsItem plan dir.items options row)
    : Call.reopensCompleted (.addItem options) dir := by
  have hfresh := hrow.fresh
  rw [hrow.itemId] at hfresh
  have hlimit : plan.maxOpenItems.all fun maxOpenItems =>
      openItems (readItemMap dir.items) < maxOpenItems := by
    cases hmax : plan.maxOpenItems with
    | none => rfl
    | some maxOpenItems => simpa using hrow.limit maxOpenItems hmax
  simp only [Call.reopensCompleted, hplan, lookup_readItemMap, hfresh, hrow.dependsOn]
  simpa [hstatus, Except.isOk, Except.toBool] using hlimit

theorem completionBlocker_updated {options : UpdateItemOptions} {order : HashOrder String}
    {old : Item} (hplan : dir.plan = some plan) (hstatus : plan.status = .completed)
    (hspared : Call.reopensCompleted (.updateItem options order) dir = false)
    (hold : (latestItems dir.items).lookup options.itemId = some old)
    (hversion : options.expectedItemVersion = some old.version) (hrow : UpdatesItem options old row)
    (hblocker : completionBlocker old = none)
    : completionBlocker row = none := by
  rw [completionBlocker_eq_none] at hblocker ⊢
  constructor
  . have hid := (itemId_of_lookup_latestItems hold).symm
    have hrewrites : Rewrites (.updateItem options order) old row :=
      Rewrites.updated rfl hid hversion hrow
    exact isTerminal_of_rewrites hrewrites hblocker.1
  . intro hdone hnil
    have hkept : options.status = none ∧ old.status = .done := by
      have hrowStatus := hrow.status
      rw [hdone] at hrowStatus
      cases hnext : options.status with
      | none =>
        rw [hnext] at hrowStatus
        exact ⟨rfl, hrowStatus.symm⟩
      | some next =>
        rw [hnext] at hrowStatus
        have htransition := hrow.transition next hnext
        have hterminal := hblocker.1
        rw [← show ItemStatus.done = next from hrowStatus] at htransition
        cases hcurrent : old.status with
        | todo | ready | running | review => simp [hcurrent, ItemStatus.isTerminal] at hterminal
        | done | blocked | canceled =>
          simp [hcurrent, ItemStatus.canTransitionTo] at htransition
    rw [hrow.evidence] at hnil
    cases updateItemFields_evidence_eq_nil hnil with
    | inl hempty => exact hblocker.2 hkept.2 hempty
    | inr hreplaced =>
      simp [Call.reopensCompleted, hplan, hstatus, lookup_readItemMap, hold, hkept.1, hkept.2,
        hversion, hreplaced.1, hreplaced.2.1, hreplaced.2.2] at hspared

theorem completedInv_mutation (hinv : CompletedInv dir.plan dir.items)
    (hplan : dir.plan = some plan) (hspared : call.reopensCompleted dir = false)
    (h : Mutation plan dir.items call plan' items') (hstatus : plan.status = .completed)
    : ∀ itemId item, (latestItems items').lookup itemId = some item →
        completionBlocker item = none := by
  intro itemId item hitem
  have hkept := hinv plan hplan hstatus itemId
  cases latestChange_of_mutation h itemId with
  | same htouches hlookup =>
    rw [hlookup] at hitem
    exact hkept item hitem
  | added hcall hrow hid hlookup =>
    subst hcall
    rw [reopensCompleted_addItem hplan hstatus hrow] at hspared
    contradiction
  | @rewritten old row htouches hold hlookup hrow =>
    rw [hlookup] at hitem
    injection hitem with hitem
    subst hitem
    have hblocker := hkept old hold
    cases hrow with
    | updated hcall hid hversion hupdates =>
      subst hcall
      apply completionBlocker_updated hplan hstatus hspared _ hversion hupdates hblocker
      rw [hid, itemId_of_lookup_latestItems hold]
      exact hold
    | delegated hcall hid hversion hdelegated =>
      rw [hdelegated]
      exact hblocker
    | promoted hcall htodo hpromoted =>
      rw [completionBlocker_eq_none, htodo] at hblocker
      exact absurd hblocker.1 (by decide)

theorem completedInv_effect {ok : Bool} {plan : Option Plan}
    (hinv : CompletedInv dir.plan dir.items) (hspared : call.reopensCompleted dir = false)
    (h : Effect dir call ok plan items)
    : CompletedInv plan items := by
  cases h with
  | refused => exact hinv
  | quiet hquiet hplan => exact hinv
  | created hcreate hplan hstatus hversion =>
    intro current hcurrent hcompleted
    injection hcurrent with hcurrent
    rw [← hcurrent, hstatus] at hcompleted
    contradiction
  | @mutated plan plan' items' hplan hmutation =>
    intro current hcurrent hcompleted
    injection hcurrent with hcurrent
    subst hcurrent
    have hsame := completedInv_mutation hinv hplan hspared hmutation
    cases hmutation with
    | addItem hrow => exact hsame hcompleted
    | updateItem hold hversion hrow => exact hsame hcompleted
    | delegateItem hold hversion hkey => exact hsame hcompleted
    | promote hready => exact hsame hcompleted
    | comment => exact hsame hcompleted
    | block hstatus => contradiction
    | complete hstatus hitems =>
      intro itemId item hitem
      apply hitems
      rw [mem_readItems, itemId_of_lookup_latestItems hitem]
      exact hitem

def CompletionHolds (dir : PlanDir) : Prop :=
  ∀ plan, dir.plan = some plan → plan.status = .completed → ∀ item ∈ readItems dir.items,
    item.status.isTerminal ∧ (item.status = .done → item.evidence ≠ [])

theorem completionHolds_of_calls (calls : List Call) (planId : String)
    (hspared : Run.Guarded Store.perform
      (fun store call => call.reopensCompleted (store (safeName call.planId)) = false)
      Store.empty calls)
    : CompletionHolds (Run.exec Store.perform Store.empty calls (safeName planId)) := by
  have hinv := invariant_of_guarded_calls CompletedInv
    (fun dir call => call.reopensCompleted dir = false) (by simp [CompletedInv])
    (fun _ _ _ _ _ => completedInv_effect) hspared (safeName planId)
  intro plan hplan hcompleted item hitem
  rw [← completionBlocker_eq_none]
  exact hinv plan hplan hcompleted item.itemId item (mem_readItems.mp hitem)

def sampleComplete : CompleteOptions where
  planId := "plan-1"
  reason := none
  nowMs := 4000

def sampleUpdate (version : Nat) (status : ItemStatus) : Call :=
  .updateItem {
    sampleCancel "item-1" with
    status := some status
    addEvidence := ["report.md"]
    expectedItemVersion := some version } (HashOrder.insertion String)

-- an item is done with evidence, the plan is completed, and a comment on it is taken
def sampleCompleted : List Call :=
  [.create sampleCreate, .addItem (sampleAdd "item-1"), sampleUpdate 1 .ready, sampleUpdate 2 .running,
    sampleUpdate 3 .review, sampleUpdate 4 .done, .complete sampleComplete,
    .comment { planId := "plan-1", author := none, body := "looks good", nowMs := 5000 }]

theorem completionHolds_of_sampleCompleted
    : (sampleDir sampleCompleted).plan.any (fun plan => plan.status = .completed)
        ∧ (readItems (sampleDir sampleCompleted).items).map
          (fun item => (item.status, item.evidence.isEmpty)) = [(.done, false)]
        ∧ (sampleDir sampleCompleted).comments.length = 1
        ∧ CompletionHolds (sampleDir sampleCompleted) := by
  refine ⟨by decide +kernel, by decide +kernel, by decide +kernel, ?_⟩
  apply completionHolds_of_calls
  decide +kernel

/-
A completed plan accepts a new item, which is open.
-/
theorem completion_undone_by_addItem
    : ¬∀ calls : List Call, ∀ planId : String,
        CompletionHolds (Run.exec Store.perform Store.empty calls (safeName planId)) := by
  intro h
  have hrun := h [.create sampleCreate, .complete sampleComplete, .addItem (sampleAdd "item-1")]
    "plan-1"
  have hcompleted : ∃ plan,
      (sampleDir [.create sampleCreate, .complete sampleComplete,
        .addItem (sampleAdd "item-1")]).plan = some plan ∧ plan.status = .completed := by
    have hsome : (sampleDir [.create sampleCreate, .complete sampleComplete,
        .addItem (sampleAdd "item-1")]).plan.any (fun plan => plan.status = .completed) := by
      decide +kernel
    simpa [Option.any_eq_true] using hsome
  have hopen : ∃ item ∈ readItems (sampleDir [.create sampleCreate, .complete sampleComplete,
      .addItem (sampleAdd "item-1")]).items, item.status.isTerminal = false := by
    decide +kernel
  cases hcompleted with
  | intro plan hplan =>
    cases hopen with
    | intro item hitem =>
      have hterminal := (hrun plan hplan.1 hplan.2 item hitem.1).1
      rw [hitem.2] at hterminal
      contradiction

end OperationPlan
