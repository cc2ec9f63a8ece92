import AgentHarness.OperationPlan.Lemmas.Status

/-!
What a refused call leaves behind, and the versions that the accepted ones count.
-/

namespace OperationPlan

variable {dir : PlanDir} {call : Call} {plan plan' : Plan} {items' : List Item}

theorem refused_call_keeps_plan (call : Call) (dir : PlanDir) (e : IoError)
    (h : call.outcome dir = .error e)
    : if call.isDuplicateDelegation dir then
        ∃ receipt, receipt.success = false ∧ call.performLocked dir = dir.appendPlanReceipt receipt
      else
        call.performLocked dir = dir := by
  have hrefused : call.succeeds dir = false := by
    rw [Call.succeeds, h]
    rfl
  have hwritten := written_performLocked call dir
  rw [hrefused] at hwritten
  generalize call.performLocked dir = after at hwritten ⊢
  cases hwritten with
  | refused hnew =>
    rw [hnew]
    rfl
  | duplicate hduplicate hreceipt =>
    rw [if_pos hduplicate]
    exact ⟨_, hreceipt, rfl⟩

def sampleDelegate (itemId idempotencyKey : String) (version : Nat) : DelegateItemOptions where
  planId := "plan-1"
  itemId
  assignee := "worker"
  workerJobId := none
  queueId := none
  idempotencyKey
  expectedItemVersion := some version
  nowMs := 3000

def sampleDelegation (itemId idempotencyKey : String) (version : Nat) : Call :=
  .delegateItem (sampleDelegate itemId idempotencyKey version) (HashOrder.insertion String)

def sampleDelegated : List Call :=
  [.create sampleCreate, .addItem (sampleAdd "item-1"), sampleDelegation "item-1" "key-1" 1]

theorem refused_sampleDelegation_keeps_plan
    : ∃ receipt : Receipt, receipt.success = false
        ∧ (sampleDelegation "item-1" "key-1" 2).performLocked (sampleDir sampleDelegated)
          = (sampleDir sampleDelegated).appendPlanReceipt receipt := by
  have hrefused : (sampleDelegation "item-1" "key-1" 2).outcome (sampleDir sampleDelegated)
      = .error {
        kind := .alreadyExists
        message := "idempotency key already used for item item-1" } := by
    decide +kernel
  have h := refused_call_keeps_plan (sampleDelegation "item-1" "key-1" 2)
    (sampleDir sampleDelegated) _ hrefused
  have hduplicate : (sampleDelegation "item-1" "key-1" 2).isDuplicateDelegation
      (sampleDir sampleDelegated) := by
    decide +kernel
  rw [if_pos hduplicate] at h
  exact h

/-
How many calls of a run are on one directory and count there, each judged by what the directory holds
when the call is made.
-/
def countCalls (counts : Call → PlanDir → Bool) (name : String) : Store → List Call → Nat
  | _, [] => 0
  | store, call :: calls =>
    (if safeName call.planId = name ∧ counts call (store name) then 1 else 0)
      + countCalls counts name (store.perform call) calls

theorem countCalls_append (counts : Call → PlanDir → Bool) (name : String) (store : Store)
    (xs ys : List Call)
    : countCalls counts name store (xs ++ ys)
        = countCalls counts name store xs
          + countCalls counts name (Run.exec Store.perform store xs) ys := by
  induction xs generalizing store with
  | nil => simp [countCalls]
  | cons call xs ih =>
    simp only [List.cons_append, countCalls, Run.exec_cons, ih]
    omega

theorem countCalls_le_length (counts : Call → PlanDir → Bool) (name : String) (store : Store)
    (calls : List Call)
    : countCalls counts name store calls ≤ calls.length := by
  induction calls generalizing store with
  | nil => simp [countCalls]
  | cons call calls ih =>
    have hrest := ih (store.perform call)
    simp only [countCalls, List.length_cons]
    split
    . omega
    . omega

namespace Call

def isSuccess (call : Call) (dir : PlanDir) : Bool :=
  call.succeeds dir && !call.isCreate

def mutatesPlan (call : Call) (dir : PlanDir) : Bool :=
  call.isSuccess dir && !call.isQuiet dir

def mutatesItem (itemId : String) (call : Call) (dir : PlanDir) : Bool :=
  call.succeeds dir && call.touches dir.items itemId

def requests (call : Call) (name itemId : String) (version : Nat) : Prop :=
  safeName call.planId = name ∧
    match call with
    | .updateItem options _ =>
      options.itemId = itemId ∧ options.expectedItemVersion = some version
    | .delegateItem options _ =>
      options.itemId = itemId ∧ options.expectedItemVersion = some version
    | _ => False

end Call

theorem isQuiet_of_mutation (hplan : dir.plan = some plan)
    (h : Mutation plan dir.items call plan' items')
    : call.isQuiet dir = false ∧ call.isCreate = false := by
  cases h with
  | addItem hrow => exact ⟨rfl, rfl⟩
  | updateItem hold hversion hrow => exact ⟨rfl, rfl⟩
  | delegateItem hold hversion hkey => exact ⟨rfl, rfl⟩
  | promote hready => simp [Call.isQuiet, Call.isCreate, hready]
  | comment => exact ⟨rfl, rfl⟩
  | block hstatus => exact ⟨rfl, rfl⟩
  | complete hstatus hitems => simp [Call.isQuiet, Call.isCreate, hplan, hstatus]

theorem version_of_mutation {items : List Item} (h : Mutation plan items call plan' items')
    : plan'.version = saturatingSucc plan.version := by
  cases h <;> rfl

theorem version_of_rewrites {old row : Item} (h : Rewrites call old row)
    : row.version = saturatingSucc old.version := by
  cases h with
  | updated hcall hid hversion hrow => exact hrow.version
  | delegated hcall hid hversion hrow => rw [hrow]; rfl
  | promoted hcall hstatus hrow => rw [hrow]; rfl

theorem saturatingSucc_eq {n : Nat} (h : n < u64Max) : saturatingSucc n = n + 1 := by
  unfold saturatingSucc
  omega

/-
The versions in a directory: a plan counts the calls that have written it, an item those that have
written a new row for it.
-/
structure VersionInv (planCount : Nat) (itemCount : String → Nat) (plan : Option Plan)
    (items : List Item)
    : Prop where
  planVersion : ∀ current, plan = some current → current.version = 1 + planCount
  itemVersion : ∀ itemId item, (latestItems items).lookup itemId = some item →
    item.version = 1 + itemCount itemId
  noPlan : plan = none → planCount = 0 ∧ items = []
  noItem : ∀ itemId, (latestItems items).lookup itemId = none → itemCount itemId = 0

def Call.planCount (call : Call) (dir : PlanDir) : Nat :=
  if call.mutatesPlan dir then 1 else 0

def Call.itemCount (call : Call) (dir : PlanDir) (itemId : String) : Nat :=
  if call.mutatesItem itemId dir then 1 else 0

theorem touches_of_isQuiet (h : call.isQuiet dir) (itemId : String)
    : call.touches dir.items itemId = false := by
  cases call with
  | promote options order =>
    simp only [Call.isQuiet, decide_eq_true_eq] at h
    simp [Call.touches, h]
  | create options => rfl
  | createV2 options laneDigest => rfl
  | addItem options => rfl
  | updateItem options order => contradiction
  | delegateItem options order => contradiction
  | comment options => rfl
  | block options => rfl
  | complete options => rfl

theorem touches_of_isCreate (h : call.isCreate) (items : List Item) (itemId : String)
    : call.touches items itemId = false := by
  cases call with
  | create options => rfl
  | createV2 options laneDigest => rfl
  | addItem | updateItem | delegateItem | promote | comment | block | complete => contradiction

theorem versionInv_mutation {planCount : Nat} {itemCount : String → Nat}
    (hinv : VersionInv planCount itemCount dir.plan dir.items) (hplanCount : 1 + planCount < u64Max)
    (hitemCount : ∀ itemId, 1 + itemCount itemId < u64Max) (hplan : dir.plan = some plan)
    (hok : call.succeeds dir = true) (h : Mutation plan dir.items call plan' items')
    : VersionInv (planCount + call.planCount dir)
        (fun itemId => itemCount itemId + call.itemCount dir itemId) (some plan') items' := by
  have hquiet := isQuiet_of_mutation hplan h
  constructor
  . intro current hcurrent
    injection hcurrent with hcurrent
    have hversion := hinv.planVersion plan hplan
    rw [← hcurrent, version_of_mutation h, saturatingSucc_eq (by omega), hversion]
    simp [Call.planCount, Call.mutatesPlan, Call.isSuccess, hok, hquiet.1, hquiet.2]
    omega
  . intro itemId item hitem
    cases latestChange_of_mutation h itemId with
    | same htouches hlookup =>
      rw [hlookup] at hitem
      simp only [Call.itemCount, Call.mutatesItem, htouches, Bool.and_false]
      exact hinv.itemVersion itemId item hitem
    | added hcall hrow hid hlookup =>
      rw [hlookup] at hitem
      injection hitem with hitem
      have hfresh := hrow.fresh
      rw [hid] at hfresh
      rw [← hitem, hrow.version, hinv.noItem itemId hfresh, hcall]
      simp [Call.itemCount, Call.mutatesItem, Call.touches]
    | rewritten htouches hold hlookup hrow =>
      rw [hlookup] at hitem
      injection hitem with hitem
      have hversion := hinv.itemVersion itemId _ hold
      have hbound := hitemCount itemId
      rw [← hitem, version_of_rewrites hrow, saturatingSucc_eq (by omega), hversion]
      simp [Call.itemCount, Call.mutatesItem, hok, htouches]
      omega
  . intro hnone
    contradiction
  . intro itemId hnone
    cases latestChange_of_mutation h itemId with
    | same htouches hlookup =>
      rw [hlookup] at hnone
      simp only [Call.itemCount, Call.mutatesItem, htouches, Bool.and_false]
      exact hinv.noItem itemId hnone
    | added hcall hrow hid hlookup =>
      rw [hlookup] at hnone
      contradiction
    | rewritten htouches hold hlookup hrow =>
      rw [hlookup] at hnone
      contradiction

theorem versionInv_performLocked {planCount : Nat} {itemCount : String → Nat}
    (hinv : VersionInv planCount itemCount dir.plan dir.items) (hplanCount : 1 + planCount < u64Max)
    (hitemCount : ∀ itemId, 1 + itemCount itemId < u64Max)
    : VersionInv (planCount + call.planCount dir)
        (fun itemId => itemCount itemId + call.itemCount dir itemId)
        (call.performLocked dir).plan (call.performLocked dir).items := by
  have h := effect_performLocked call dir
  generalize hok : call.succeeds dir = ok at h
  generalize (call.performLocked dir).plan = plan at h ⊢
  generalize (call.performLocked dir).items = items at h ⊢
  cases h with
  | refused =>
    simp only [Call.planCount, Call.itemCount, Call.mutatesPlan, Call.isSuccess, Call.mutatesItem,
      hok, Bool.false_and]
    exact hinv
  | quiet hquiet hplan =>
    simp only [Call.planCount, Call.itemCount, Call.mutatesPlan, Call.mutatesItem,
      touches_of_isQuiet hquiet, hquiet, Bool.not_true, Bool.and_false]
    exact hinv
  | created hcreate hplan hstatus hversion =>
    have hempty := hinv.noPlan hplan
    simp only [Call.planCount, Call.itemCount, Call.mutatesPlan, Call.isSuccess, Call.mutatesItem,
      touches_of_isCreate hcreate, hcreate, Bool.not_true, Bool.and_false, Bool.false_and]
    constructor
    . intro current hcurrent
      injection hcurrent with hcurrent
      rw [← hcurrent, hversion, hempty.1]
      rfl
    . exact hinv.itemVersion
    . intro hnone
      contradiction
    . exact hinv.noItem
  | mutated hplan hmutation =>
    exact versionInv_mutation hinv hplanCount hitemCount hplan hok hmutation

theorem versionInv_of_calls (calls : List Call) (hlimit : calls.length < u64Max) (name : String)
    : let dir := Run.exec Store.perform Store.empty calls name
      VersionInv (countCalls Call.mutatesPlan name Store.empty calls)
        (fun itemId => countCalls (Call.mutatesItem itemId) name Store.empty calls)
        dir.plan dir.items := by
  induction calls using List.reverseRecOn with
  | nil =>
    constructor
    . intro current hcurrent
      contradiction
    . intro itemId item hitem
      contradiction
    . intro _
      exact ⟨rfl, rfl⟩
    . intro itemId _
      rfl
  | append_singleton calls call ih =>
    rw [List.length_append, List.length_singleton] at hlimit
    have hinv := ih (by omega)
    have hplanCount := countCalls_le_length Call.mutatesPlan name Store.empty calls
    have hitemCount := fun itemId =>
      countCalls_le_length (Call.mutatesItem itemId) name Store.empty calls
    simp only [countCalls_append, Run.exec_concat, countCalls, Nat.add_zero]
    unfold Store.perform
    by_cases hname : safeName call.planId = name
    . subst hname
      rw [Store.set_same]
      simp only [true_and]
      apply versionInv_performLocked hinv
      . omega
      . intro itemId
        have := hitemCount itemId
        omega
    . rw [Store.set_of_ne _ _ (Ne.symm hname)]
      simp only [hname, false_and, if_false, Nat.add_zero]
      exact hinv

theorem lookup_of_requests {name itemId : String} {version : Nat}
    (hrequest : call.requests name itemId version) (hok : call.succeeds dir = true)
    : call.mutatesItem itemId dir
        ∧ ∃ item, (latestItems dir.items).lookup itemId = some item ∧ item.version = version := by
  have h := effect_performLocked call dir
  rw [hok] at h
  generalize (call.performLocked dir).plan = plan at h
  generalize (call.performLocked dir).items = items at h
  have hkind := hrequest.2
  cases call with
  | updateItem options order =>
    dsimp only at hkind
    refine ⟨by simp [Call.mutatesItem, hok, Call.touches, hkind.1], ?_⟩
    cases h with
    | quiet hquiet hplan => contradiction
    | created hcreate hplan hstatus hversion => contradiction
    | mutated hplan hmutation =>
      cases hmutation with
      | updateItem hold hversion hrow =>
        rw [hkind.2] at hversion
        injection hversion with hversion
        rw [hkind.1] at hold
        exact ⟨_, hold, hversion.symm⟩
  | delegateItem options order =>
    dsimp only at hkind
    refine ⟨by simp [Call.mutatesItem, hok, Call.touches, hkind.1], ?_⟩
    cases h with
    | quiet hquiet hplan => contradiction
    | created hcreate hplan hstatus hversion => contradiction
    | mutated hplan hmutation =>
      cases hmutation with
      | delegateItem hold hversion hkey =>
        rw [hkind.2] at hversion
        injection hversion with hversion
        rw [hkind.1] at hold
        exact ⟨_, hold, hversion.symm⟩
  | create | createV2 | addItem | promote | comment | block | complete => contradiction

theorem requests_disjoint {before between : List Call} {first second : Call}
    {name itemId : String} {version : Nat}
    (hlimit : (before ++ first :: between).length < u64Max)
    (hfirst : first.requests name itemId version) (hsecond : second.requests name itemId version)
    (hok : first.succeeds (Run.exec Store.perform Store.empty before name) = true)
    : second.succeeds (Run.exec Store.perform Store.empty (before ++ first :: between) name)
        = false := by
  by_contra hsucceeds
  rw [Bool.not_eq_false] at hsucceeds
  have hlength : before.length < u64Max := by
    rw [List.length_append] at hlimit
    omega
  have hinv := versionInv_of_calls before hlength name
  have hinv' := versionInv_of_calls (before ++ first :: between) hlimit name
  have hold := lookup_of_requests hfirst hok
  have hnew := lookup_of_requests hsecond hsucceeds
  cases hold.2 with
  | intro old hold' =>
    cases hnew.2 with
    | intro new hnew' =>
      have hversion := hinv.itemVersion itemId old hold'.1
      have hversion' := hinv'.itemVersion itemId new hnew'.1
      rw [countCalls_append, countCalls, if_pos ⟨hfirst.1, hold.1⟩] at hversion'
      rw [hold'.2] at hversion
      rw [hnew'.2] at hversion'
      omega

theorem versions_of_calls (calls : List Call) (hlimit : calls.length < u64Max) (planId : String)
    : let name := safeName planId
      let dir := fun calls : List Call => Run.exec Store.perform Store.empty calls name
      (∀ before first between second after itemId version,
          calls = before ++ first :: between ++ second :: after →
          first.requests name itemId version → second.requests name itemId version →
          ¬(first.succeeds (dir before) = true
            ∧ second.succeeds (dir (before ++ first :: between)) = true))
        ∧ (∀ item ∈ readItems (dir calls).items,
          item.version = 1 + countCalls (Call.mutatesItem item.itemId) name Store.empty calls)
        ∧ ∀ plan, (dir calls).plan = some plan →
          plan.version = 1 + countCalls Call.mutatesPlan name Store.empty calls := by
  have hinv := versionInv_of_calls calls hlimit (safeName planId)
  refine ⟨?_, ?_, ?_⟩
  . intro before first between second after itemId version hcalls hfirst hsecond hboth
    have hlength : (before ++ first :: between).length < u64Max := by
      rw [hcalls, List.length_append] at hlimit
      omega
    have hrefused := requests_disjoint hlength hfirst hsecond hboth.1
    rw [hboth.2] at hrefused
    contradiction
  . intro item hitem
    exact hinv.itemVersion item.itemId item (mem_readItems.mp hitem)
  . exact hinv.planVersion

theorem versions_of_sampleDelegated
    : (∀ item ∈ readItems (sampleDir sampleDelegated).items, item.version
          = 1 + countCalls (Call.mutatesItem item.itemId) "plan-1" Store.empty sampleDelegated)
        ∧ (sampleDir sampleDelegated).plan.any fun plan => plan.version = 3 := by
  have hname : safeName "plan-1" = "plan-1" := by decide +kernel
  have hlimit : sampleDelegated.length < u64Max := by decide
  have h := versions_of_calls sampleDelegated hlimit "plan-1"
  rw [hname] at h
  refine ⟨?_, by decide +kernel⟩
  unfold sampleDir
  rw [hname]
  exact h.2.1

def samplePromote : Call :=
  .promote { planId := "plan-1", nowMs := 3000 } (HashOrder.insertion String)

/-
A promotion that finds nothing to promote succeeds and leaves the version of the plan.
-/
theorem promotion_without_version
    : ¬∀ calls : List Call, calls.length < u64Max → ∀ planId plan,
        (Run.exec Store.perform Store.empty calls (safeName planId)).plan = some plan →
        plan.version = 1 + countCalls Call.isSuccess (safeName planId) Store.empty calls := by
  intro h
  have hplan : ∃ plan, (sampleDir [.create sampleCreate, samplePromote]).plan = some plan
      ∧ plan.version = 1 := by
    have hsome : (sampleDir [.create sampleCreate, samplePromote]).plan.any
        (fun plan => plan.version = 1) := by
      decide +kernel
    simpa [Option.any_eq_true] using hsome
  have hcount : countCalls Call.isSuccess (safeName "plan-1") Store.empty
      [.create sampleCreate, samplePromote] = 1 := by
    decide +kernel
  cases hplan with
  | intro plan hplan =>
    have hversion := h [.create sampleCreate, samplePromote] (by decide) "plan-1" plan hplan.1
    rw [hplan.2, hcount] at hversion
    contradiction

end OperationPlan

/-!
Idempotency keys of delegations. A delegation looks for its key in the latest rows of the items, so a
key is known as long as no later delegation of the same item has put another one in its place.
-/

namespace OperationPlan

namespace Call

def delegates (call : Call) (name idempotencyKey : String) : Prop :=
  safeName call.planId = name ∧
    match call with
    | .delegateItem options _ => options.idempotencyKey = idempotencyKey
    | _ => False

/-
A delegation of the expected version under a key that is in the log of the items, but in the latest
row of none of them.
-/
def reusesForgottenKey (call : Call) (dir : PlanDir) : Bool :=
  match call with
  | .delegateItem options _ =>
    ((readItemMap dir.items).lookup options.itemId).any
        (fun item => options.expectedItemVersion = some item.version)
      && dir.items.any (fun row => row.delegationIdempotencyKey = some options.idempotencyKey)
      && !(readItems dir.items).any
        (fun item => item.delegationIdempotencyKey = some options.idempotencyKey)
  | _ => false

end Call

def HasKey (items : List Item) (idempotencyKey : String) : Prop :=
  ∃ row ∈ items, row.delegationIdempotencyKey = some idempotencyKey

variable {idempotencyKey : String}

theorem hasKey_of_mutation {plan plan' : Plan} {items items' : List Item} {call : Call}
    (h : Mutation plan items call plan' items') (hkey : HasKey items idempotencyKey)
    : HasKey items' idempotencyKey := by
  cases hkey with
  | intro row hrow =>
    refine ⟨row, ?_, hrow.2⟩
    cases h with
    | addItem h => exact List.mem_append_left _ hrow.1
    | updateItem hold hversion h => exact List.mem_append_left _ hrow.1
    | delegateItem hold hversion h => exact List.mem_append_left _ hrow.1
    | promote hready => exact List.mem_append_left _ hrow.1
    | comment => exact hrow.1
    | block hstatus => exact hrow.1
    | complete hstatus hitems => exact hrow.1

variable {name : String}

theorem hasKey_perform {store : Store} (call : Call)
    (hkey : HasKey (store name).items idempotencyKey)
    : HasKey (store.perform call name).items idempotencyKey := by
  unfold Store.perform
  by_cases hname : name = safeName call.planId
  . subst hname
    rw [Store.set_same]
    have h := effect_performLocked call (store (safeName call.planId))
    generalize (call.performLocked (store (safeName call.planId))).items = items at h ⊢
    generalize (call.performLocked (store (safeName call.planId))).plan = plan at h
    generalize call.succeeds (store (safeName call.planId)) = ok at h
    cases h with
    | refused => exact hkey
    | quiet hquiet hplan => exact hkey
    | created hcreate hplan hstatus hversion => exact hkey
    | mutated hplan hmutation => exact hasKey_of_mutation hmutation hkey
  . rw [Store.set_of_ne _ _ hname]
    exact hkey

theorem mutation_of_delegates {call : Call} {dir : PlanDir}
    (hcall : call.delegates name idempotencyKey) (hok : call.succeeds dir = true)
    : ∃ options order old, call = .delegateItem options order
        ∧ options.idempotencyKey = idempotencyKey
        ∧ (latestItems dir.items).lookup options.itemId = some old
        ∧ options.expectedItemVersion = some old.version
        ∧ (∀ item ∈ readItems dir.items,
          item.delegationIdempotencyKey ≠ some options.idempotencyKey)
        ∧ HasKey (call.performLocked dir).items idempotencyKey := by
  have h := effect_performLocked call dir
  rw [hok] at h
  have hkind := hcall.2
  cases call with
  | delegateItem options order =>
    dsimp only at hkind
    generalize hitems : (Call.performLocked (.delegateItem options order) dir).items = items at h ⊢
    generalize (Call.performLocked (.delegateItem options order) dir).plan = plan at h
    cases h with
    | quiet hquiet hplan => contradiction
    | created hcreate hplan hstatus hversion => contradiction
    | mutated hplan hmutation =>
      cases hmutation with
      | @delegateItem _ _ old hold hversion hkey =>
        refine ⟨options, order, old, rfl, hkind, hold, hversion, ?_, ?_⟩
        . intro item hitem
          exact hkey item.itemId item (mem_readItems.mp hitem)
        . refine ⟨delegatedItem options old, ?_, ?_⟩
          . exact List.mem_append_right _ (List.mem_singleton_self _)
          . rw [← hkind]
            rfl
  | create | createV2 | addItem | updateItem | promote | comment | block | complete =>
    contradiction

theorem reusesForgottenKey_of_delegates {call : Call} {dir : PlanDir}
    (hcall : call.delegates name idempotencyKey) (hok : call.succeeds dir = true)
    (hkey : HasKey dir.items idempotencyKey)
    : call.reusesForgottenKey dir := by
  have h := mutation_of_delegates hcall hok
  rcases h with ⟨options, order, old, rfl, hoptions, hold, hversion, hlatest, -⟩
  have hrow : dir.items.any
      (fun row => row.delegationIdempotencyKey = some options.idempotencyKey) := by
    rw [List.any_eq_true, hoptions]
    cases hkey with
    | intro row hrow => exact ⟨row, hrow.1, by simpa using hrow.2⟩
  have hforgotten : (readItems dir.items).any
      (fun item => item.delegationIdempotencyKey = some options.idempotencyKey) = false := by
    rw [List.any_eq_false]
    intro item hitem
    simpa using hlatest item hitem
  simp [Call.reusesForgottenKey, lookup_readItemMap, hold, hversion, hrow, hforgotten]

theorem delegations_distinct_of_calls (calls : List Call) (planId : String)
    (hguard : Run.Guarded Store.perform
      (fun store call => call.reusesForgottenKey (store (safeName call.planId)) = false)
      Store.empty calls)
    : let dir := fun calls : List Call =>
        Run.exec Store.perform Store.empty calls (safeName planId)
      ∀ before first between second after idempotencyKey,
        calls = before ++ first :: between ++ second :: after →
        first.delegates (safeName planId) idempotencyKey →
        second.delegates (safeName planId) idempotencyKey →
        ¬(first.succeeds (dir before) = true
          ∧ second.succeeds (dir (before ++ first :: between)) = true) := by
  intro dir before first between second after idempotencyKey hcalls hfirst hsecond hboth
  rw [hcalls, Run.guarded_append] at hguard
  have hspared : second.reusesForgottenKey (Run.exec Store.perform Store.empty
      (before ++ first :: between) (safeName second.planId)) = false := hguard.2.1
  rw [hsecond.1] at hspared
  have hleft : HasKey (Run.exec Store.perform Store.empty (before ++ [first])
      (safeName planId)).items idempotencyKey := by
    have hrow := mutation_of_delegates hfirst hboth.1
    rcases hrow with ⟨-, -, -, -, -, -, -, -, hkey⟩
    rw [Run.exec_concat]
    unfold Store.perform
    rw [hfirst.1, Store.set_same]
    exact hkey
  have hkept : HasKey (dir (before ++ first :: between)).items idempotencyKey := by
    rw [← List.singleton_append, ← List.append_assoc]
    change HasKey (Run.exec Store.perform Store.empty _ _).items _
    rw [Run.exec_append]
    apply Run.exec_invariant
      (fun store : Store => HasKey (store (safeName planId)).items idempotencyKey)
    . intro store call hkey
      exact hasKey_perform call hkey
    . exact hleft
  have hreuses := reusesForgottenKey_of_delegates hsecond hboth.2 hkept
  rw [hspared] at hreuses
  contradiction

def sampleRepeated : List Call := [sampleDelegation "item-1" "key-1" 2]

theorem delegations_distinct_of_sampleRepeated
    : ¬((sampleDelegation "item-1" "key-1" 1).succeeds
          (sampleDir [.create sampleCreate, .addItem (sampleAdd "item-1")]) = true
        ∧ (sampleDelegation "item-1" "key-1" 2).succeeds (sampleDir sampleDelegated) = true) := by
  have hguard : Run.Guarded Store.perform
      (fun store call => call.reusesForgottenKey (store (safeName call.planId)) = false)
      Store.empty (sampleDelegated ++ sampleRepeated) := by
    decide +kernel
  apply delegations_distinct_of_calls (sampleDelegated ++ sampleRepeated) "plan-1" hguard
    [.create sampleCreate, .addItem (sampleAdd "item-1")] _ [] _ [] "key-1"
  . rfl
  . exact ⟨rfl, rfl⟩
  . exact ⟨rfl, rfl⟩

def sampleRedelegated : List Call := sampleDelegated ++ [sampleDelegation "item-1" "key-2" 2]

/-
A second delegation of the item puts another key in the place of the first, which is then free again.
-/
theorem delegation_key_used_twice
    : ¬∀ (calls : List Call) (planId : String),
        let dir := fun calls : List Call =>
          Run.exec Store.perform Store.empty calls (safeName planId)
        ∀ before first between second after idempotencyKey,
          calls = before ++ first :: between ++ second :: after →
          first.delegates (safeName planId) idempotencyKey →
          second.delegates (safeName planId) idempotencyKey →
          ¬(first.succeeds (dir before) = true
            ∧ second.succeeds (dir (before ++ first :: between)) = true) := by
  intro h
  apply h (sampleRedelegated ++ [sampleDelegation "item-1" "key-1" 3]) "plan-1"
    [.create sampleCreate, .addItem (sampleAdd "item-1")] (sampleDelegation "item-1" "key-1" 1)
    [sampleDelegation "item-1" "key-2" 2] (sampleDelegation "item-1" "key-1" 3) [] "key-1"
  . rfl
  . exact ⟨rfl, rfl⟩
  . exact ⟨rfl, rfl⟩
  . decide +kernel

end OperationPlan
