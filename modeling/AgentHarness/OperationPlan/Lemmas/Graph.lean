import AgentHarness.Lib.Dependency
import AgentHarness.Lib.Run
import AgentHarness.OperationPlan.Impl

/-!
The dependency relation of the items of a plan.
-/

namespace OperationPlan

open Dependency

def dependencies (items : FMap String Item) (itemId : String) : Option (List String) :=
  (items.lookup itemId).map Item.dependsOn

variable {item : Item} {items : List Item}

theorem dependencies_of_lookup {items : FMap String Item} {itemId : String}
    (h : items.lookup itemId = some item)
    : dependencies items itemId = some item.dependsOn := by
  simp [dependencies, h]

theorem dependencies_insert (items : FMap String Item) (item : Item)
    : ∀ itemId, dependencies (items.insert item.itemId item) itemId
        = if itemId = item.itemId then some item.dependsOn else dependencies items itemId := by
  intro itemId
  unfold dependencies
  rw [FMap.lookup_insert_eq]
  split
  . rfl
  . rfl

theorem dependencies_isSome (items : FMap String Item) (itemId : String)
    : (dependencies items itemId).isSome = (items.lookup itemId).isSome := by
  simp [dependencies]

theorem latestItems_concat (items : List Item) (item : Item)
    : latestItems (items ++ [item]) = (latestItems items).insert item.itemId item := by
  unfold latestItems
  rw [FMap.ofValues_concat]

theorem itemId_of_lookup_latestItems {itemId : String}
    (h : (latestItems items).lookup itemId = some item)
    : item.itemId = itemId := by
  exact FMap.key_of_lookup_ofValues h

theorem mem_readItems
    : item ∈ readItems items ↔ (latestItems items).lookup item.itemId = some item := by
  unfold readItems
  rw [(List.perm_insertionSort _ _).mem_iff, FMap.mem_values_iff]
  constructor
  . intro h
    cases h with
    | intro itemId hlookup =>
      have hkey := itemId_of_lookup_latestItems hlookup
      rw [hkey]
      exact hlookup
  . intro h
    exact ⟨item.itemId, h⟩

theorem nodup_map_itemId_readItems (items : List Item)
    : ((readItems items).map Item.itemId).Nodup := by
  unfold readItems
  rw [((List.perm_insertionSort _ _).map Item.itemId).nodup_iff]
  apply FMap.nodup_map_key_values
  intro itemId item h
  exact itemId_of_lookup_latestItems h

theorem lookup_readItemMap (items : List Item) (itemId : String)
    : (readItemMap items).lookup itemId = (latestItems items).lookup itemId := by
  apply Option.ext
  intro item
  unfold readItemMap
  rw [FMap.lookup_ofValues_of_nodup (nodup_map_itemId_readItems items), mem_readItems]
  constructor
  . intro h
    rw [← h.2]
    exact h.1
  . intro h
    have hkey := itemId_of_lookup_latestItems h
    rw [hkey]
    exact ⟨h, rfl⟩

theorem mem_of_validateDependencyIds_go {dependsOn rest : List String}
    {existingItems : FMap String Item}
    (h : validateDependencyIds.go dependsOn existingItems rest = .ok ())
    : ∀ dep ∈ rest, (existingItems.lookup dep).isSome := by
  induction rest with
  | nil => simp
  | cons head rest ih =>
    unfold validateDependencyIds.go at h
    split at h
    . contradiction
    . split at h
      . contradiction
      . next hsome =>
        split at h
        . contradiction
        . intro dep hdep
          rw [List.mem_cons] at hdep
          cases hdep with
          | inl heq =>
            rw [heq]
            simpa [Option.isSome_iff_ne_none] using hsome
          | inr hmem => exact ih h dep hmem

theorem mem_of_validateDependencyIds {dependsOn : List String} {existingItems : FMap String Item}
    (h : validateDependencyIds dependsOn existingItems = .ok ())
    : ∀ dep ∈ dependsOn, (existingItems.lookup dep).isSome :=
  mem_of_validateDependencyIds_go h

-- The induction is on the search itself: what it has put into `visited` is accessible, and a
-- successful visit puts its own item there after all of the item's dependencies.
mutual

theorem visit_acc {items : FMap String Item} {itemId : String}
    {visiting visited visited' : Finset String}
    (hinv : ∀ a ∈ visited, Acc (Needs (dependencies items)) a)
    (h : visit items itemId visiting visited = .ok visited')
    : (∀ a ∈ visited', Acc (Needs (dependencies items)) a) ∧ visited ⊆ visited'
        ∧ itemId ∈ visited' := by
  unfold visit at h
  split at h
  . next hmem =>
    injection h with h
    subst h
    exact ⟨hinv, Finset.Subset.refl _, hmem⟩
  . split at h
    . contradiction
    . next hvisiting =>
      split at h
      . next hnone =>
        injection h with h
        subst h
        have hacc : Acc (Needs (dependencies items)) itemId := by
          apply acc_of_none
          simp [dependencies, hnone]
        refine ⟨?_, Finset.subset_insert _ _, Finset.mem_insert_self _ _⟩
        intro a ha
        rw [Finset.mem_insert] at ha
        cases ha with
        | inl heq => rw [heq]; exact hacc
        | inr hmem => exact hinv a hmem
      . next item hitem =>
        have hlt := card_sdiff_insert_lt (mem_toFinset_keys hitem) hvisiting
        dsimp only at h
        split at h
        . contradiction
        . next visited'' hall =>
          injection h with h
          subst h
          have hdeps := visitAll_acc hinv hall
          have hacc : Acc (Needs (dependencies items)) itemId := by
            apply acc_of_deps (dependencies_of_lookup hitem)
            intro b hb
            exact hdeps.1 b (hdeps.2.2 b hb)
          refine ⟨?_, ?_, Finset.mem_insert_self _ _⟩
          . intro a ha
            rw [Finset.mem_insert] at ha
            cases ha with
            | inl heq => rw [heq]; exact hacc
            | inr hmem => exact hdeps.1 a hmem
          . exact Finset.Subset.trans hdeps.2.1 (Finset.subset_insert _ _)
termination_by ((items.keys.toFinset \ visiting).card, 0)

theorem visitAll_acc {items : FMap String Item} {itemIds : List String}
    {visiting visited visited' : Finset String}
    (hinv : ∀ a ∈ visited, Acc (Needs (dependencies items)) a)
    (h : visitAll items itemIds visiting visited = .ok visited')
    : (∀ a ∈ visited', Acc (Needs (dependencies items)) a) ∧ visited ⊆ visited'
        ∧ ∀ itemId ∈ itemIds, itemId ∈ visited' := by
  unfold visitAll at h
  split at h
  . injection h with h
    subst h
    exact ⟨hinv, Finset.Subset.refl _, by simp⟩
  . next itemId rest =>
    split at h
    . contradiction
    . next visited'' hvisit =>
      have hhead := visit_acc hinv hvisit
      have htail := visitAll_acc hhead.1 h
      refine ⟨htail.1, Finset.Subset.trans hhead.2.1 htail.2.1, ?_⟩
      intro a ha
      rw [List.mem_cons] at ha
      cases ha with
      | inl heq =>
        rw [heq]
        exact htail.2.1 hhead.2.2
      | inr hmem => exact htail.2.2 a hmem
termination_by ((items.keys.toFinset \ visiting).card, itemIds.length + 1)

end

theorem acc_of_validateDependencyAcyclicity {order : HashOrder String} {items : FMap String Item}
    (h : validateDependencyAcyclicity order items = .ok ())
    : ∀ itemId, Acc (Needs (dependencies items)) itemId := by
  unfold validateDependencyAcyclicity at h
  split at h
  . contradiction
  . next visited hall =>
    have hsearch := visitAll_acc (by simp) hall
    intro itemId
    by_cases hitem : (items.lookup itemId).isSome
    . apply hsearch.1
      apply hsearch.2.2
      rw [HashOrder.mem_keys, FMap.mem_keys_iff]
      exact Option.isSome_iff_exists.mp hitem
    . apply acc_of_none
      simpa [dependencies] using hitem

/-
The state a plan directory keeps: every dependency is an item and every item is accessible.
-/
structure GraphInv (items : List Item) : Prop where
  closed : Closed (dependencies (latestItems items))
  acc : ∀ itemId, Acc (Needs (dependencies (latestItems items))) itemId

theorem graphInv_nil : GraphInv [] := by
  have hnone : ∀ itemId, dependencies (latestItems []) itemId = none := by
    intro itemId
    simp [dependencies, latestItems]
  constructor
  . intro a b hneeds
    cases hneeds with
    | intro deps h => simp [hnone] at h
  . intro itemId
    exact acc_of_none (hnone itemId)

theorem graphInv_of_dependencies_eq {items' : List Item} (hinv : GraphInv items)
    (heq : dependencies (latestItems items') = dependencies (latestItems items))
    : GraphInv items' := by
  constructor
  . rw [heq]
    exact hinv.closed
  . rw [heq]
    exact hinv.acc

theorem dependencies_concat_same
    (hdeps : dependencies (latestItems items) item.itemId = some item.dependsOn)
    : dependencies (latestItems (items ++ [item])) = dependencies (latestItems items) := by
  funext itemId
  rw [latestItems_concat, dependencies_insert]
  split
  . next h =>
    rw [h, hdeps]
  . rfl

theorem graphInv_concat_same (hinv : GraphInv items)
    (hdeps : dependencies (latestItems items) item.itemId = some item.dependsOn)
    : GraphInv (items ++ [item]) := by
  apply graphInv_of_dependencies_eq hinv
  exact dependencies_concat_same hdeps

theorem closed_concat (hclosed : Closed (dependencies (latestItems items)))
    (hdeps : ∀ dep ∈ item.dependsOn, ((latestItems items).lookup dep).isSome)
    : Closed (dependencies (latestItems (items ++ [item]))) := by
  intro a b hneeds
  cases hneeds with
  | intro deps h =>
    rw [latestItems_concat, dependencies_insert] at h
    have hb : (dependencies (latestItems items) b).isSome := by
      split at h
      . have hd := h.1
        injection hd with hd
        rw [dependencies_isSome]
        apply hdeps
        rw [hd]
        exact h.2
      . exact hclosed a b ⟨deps, h⟩
    rw [latestItems_concat, dependencies_insert]
    split
    . rfl
    . exact hb

theorem graphInv_concat_fresh (hinv : GraphInv items)
    (hfresh : (latestItems items).lookup item.itemId = none)
    (hdeps : ∀ dep ∈ item.dependsOn, ((latestItems items).lookup dep).isSome)
    : GraphInv (items ++ [item]) := by
  constructor
  . exact closed_concat hinv.closed hdeps
  . rw [latestItems_concat]
    apply acc_insert_fresh hinv.closed hinv.acc _ _ (dependencies_insert _ _)
    . simp [dependencies, hfresh]
    . intro dep hdep
      rw [dependencies_isSome]
      exact hdeps dep hdep

theorem addOperationPlanItemLocked_items (dir : PlanDir) (options : AddItemOptions)
    : (addOperationPlanItemLocked dir options).1.items = dir.items
        ∨ ∃ item, (addOperationPlanItemLocked dir options).1.items = dir.items ++ [item]
          ∧ (latestItems dir.items).lookup item.itemId = none
          ∧ ∀ dep ∈ item.dependsOn, ((latestItems dir.items).lookup dep).isSome := by
  unfold addOperationPlanItemLocked
  split
  . left
    rfl
  . dsimp only
    split
    . left
      rfl
    . next hfresh =>
      split
      . left
        rfl
      . split
        . left
          rfl
        . next hdeps =>
          right
          refine ⟨_, rfl, ?_, ?_⟩
          . simpa [lookup_readItemMap] using hfresh
          . intro dep hdep
            rw [← lookup_readItemMap]
            exact mem_of_validateDependencyIds hdeps dep hdep

theorem updateStatus_dependencies {current : Item} {status : Option ItemStatus}
    (h : updateStatus current status = .ok item)
    : item.itemId = current.itemId ∧ item.dependsOn = current.dependsOn := by
  unfold updateStatus at h
  split at h
  . injection h with h
    simp [← h]
  . split at h
    . injection h with h
      simp [← h]
    . contradiction

theorem updateDependsOn_cases {order : HashOrder String} {items : FMap String Item} {current : Item}
    {dependsOn : Option (List String)}
    (h : updateDependsOn order items current dependsOn = .ok item)
    : item = current
        ∨ (item.itemId = current.itemId
          ∧ (∀ dep ∈ item.dependsOn, (items.lookup dep).isSome)
          ∧ ∀ itemId, Acc (Needs (dependencies (items.insert item.itemId item))) itemId) := by
  unfold updateDependsOn at h
  split at h
  . left
    injection h with h
    exact h.symm
  . split at h
    . contradiction
    . next hids =>
      dsimp only at h
      split at h
      . contradiction
      . next hacyclic =>
        right
        injection h with h
        subst h
        refine ⟨rfl, ?_, ?_⟩
        . exact mem_of_validateDependencyIds hids
        . exact acc_of_validateDependencyAcyclicity hacyclic

theorem updateItemFields_itemId (current : Item) (options : UpdateItemOptions)
    : (updateItemFields current options).itemId = current.itemId := by
  unfold updateItemFields
  split
  rfl

theorem updateItemFields_dependsOn (current : Item) (options : UpdateItemOptions)
    : (updateItemFields current options).dependsOn = current.dependsOn := by
  unfold updateItemFields
  split
  rfl

theorem dependencies_erase_insert {item' : Item} (hid : item'.itemId = item.itemId)
    (hdeps : item'.dependsOn = item.dependsOn)
    : dependencies (((readItemMap items).erase item.itemId).insert item.itemId item)
        = dependencies (latestItems (items ++ [item'])) := by
  funext itemId
  rw [latestItems_concat, dependencies_insert, dependencies_insert, hid, hdeps]
  split
  . rfl
  . next hne =>
    unfold dependencies
    rw [FMap.lookup_erase_eq, if_neg hne, lookup_readItemMap]

theorem graphInv_updateOperationPlanItemLocked (dir : PlanDir) (options : UpdateItemOptions)
    (order : HashOrder String) (hinv : GraphInv dir.items)
    : GraphInv (updateOperationPlanItemLocked dir options order).1.items := by
  unfold updateOperationPlanItemLocked
  split
  . exact hinv
  . dsimp only
    split
    . exact hinv
    . next old hold =>
      rw [lookup_readItemMap] at hold
      have holdId := itemId_of_lookup_latestItems hold
      split
      . exact hinv
      . split
        . exact hinv
        . split
          . exact hinv
          . next current hstatus =>
            have hcurrent := updateStatus_dependencies hstatus
            split
            . exact hinv
            . next item hdepends =>
              have hid := updateItemFields_itemId item options
              have hdeps := updateItemFields_dependsOn item options
              have hitem := updateDependsOn_cases hdepends
              cases hitem with
              | inl heq =>
                apply graphInv_concat_same hinv
                rw [hid, hdeps, heq]
                dsimp only
                rw [hcurrent.1, hcurrent.2, holdId]
                exact dependencies_of_lookup hold
              | inr hchecked =>
                have hitemId : item.itemId = options.itemId := by
                  rw [hchecked.1, ← holdId]
                  exact hcurrent.1
                constructor
                . apply closed_concat hinv.closed
                  intro dep hdep
                  rw [hdeps] at hdep
                  have hsome := hchecked.2.1 dep hdep
                  rw [FMap.lookup_erase_eq] at hsome
                  split at hsome
                  . contradiction
                  . rw [lookup_readItemMap] at hsome
                    exact hsome
                . have hacc := hchecked.2.2
                  rw [← hitemId, dependencies_erase_insert hid hdeps] at hacc
                  exact hacc

theorem delegateOperationPlanItemLocked_items (dir : PlanDir) (options : DelegateItemOptions)
    (order : HashOrder String)
    : (delegateOperationPlanItemLocked dir options order).1.items = dir.items
        ∨ ∃ item, (delegateOperationPlanItemLocked dir options order).1.items = dir.items ++ [item]
          ∧ dependencies (latestItems dir.items) item.itemId = some item.dependsOn := by
  unfold delegateOperationPlanItemLocked
  split
  . left
    rfl
  . dsimp only
    split
    . left
      rfl
    . next old hold =>
      rw [lookup_readItemMap] at hold
      have holdId := itemId_of_lookup_latestItems hold
      split
      . left
        rfl
      . split
        . left
          rfl
        . split
          . left
            rfl
          . split
            . left
              rfl
            . right
              refine ⟨_, rfl, ?_⟩
              dsimp only
              rw [holdId]
              exact dependencies_of_lookup hold

theorem foldl_promoteItem_dependencies {plan : Plan} {options : PromoteDependenciesOptions}
    {ready : List Item} {dir : PlanDir}
    (hready : ∀ item ∈ ready,
      dependencies (latestItems dir.items) item.itemId = some item.dependsOn)
    : dependencies (latestItems (ready.foldl (promoteItem plan options) dir).items)
        = dependencies (latestItems dir.items) := by
  induction ready generalizing dir with
  | nil => rfl
  | cons item ready ih =>
    have hhead := hready item (by simp)
    have hstep : dependencies (latestItems (promoteItem plan options dir item).items)
        = dependencies (latestItems dir.items) := by
      apply dependencies_concat_same
      exact hhead
    rw [List.foldl_cons, ih, hstep]
    intro other hother
    rw [hstep]
    apply hready
    simp [hother]

theorem graphInv_promoteOperationPlanItemsFromDependenciesLocked (dir : PlanDir)
    (options : PromoteDependenciesOptions) (order : HashOrder String) (hinv : GraphInv dir.items)
    : GraphInv (promoteOperationPlanItemsFromDependenciesLocked dir options order).1.items := by
  unfold promoteOperationPlanItemsFromDependenciesLocked
  split
  . exact hinv
  . next plan hplan =>
    have hitems : ∀ promoted : List String, ∀ d : PlanDir, ∀ plan : Plan, ∀ receipt : Receipt,
        ((if promoted = [] then d else d.writeJsonPlan plan).appendPlanReceipt receipt).items
          = d.items := by
      intro promoted d plan receipt
      split
      . rfl
      . rfl
    dsimp only
    rw [hitems]
    apply graphInv_of_dependencies_eq hinv
    apply foldl_promoteItem_dependencies
    intro item hitem
    have hlookup := (List.mem_filter.mp hitem).1
    rw [List.mem_filterMap] at hlookup
    cases hlookup with
    | intro itemId h =>
      have hlatest := h.2
      rw [lookup_readItemMap] at hlatest
      rw [itemId_of_lookup_latestItems hlatest]
      exact dependencies_of_lookup hlatest

theorem createOperationPlanInternalLocked_items (dir : PlanDir) (options : CreateOptions)
    (laneDigest : Option String) (enforceExactLane : Bool)
    : (createOperationPlanInternalLocked dir options laneDigest enforceExactLane).1.items
        = dir.items := by
  unfold createOperationPlanInternalLocked
  split
  . split
    . rfl
    . rfl
  . rfl

theorem commentOnOperationPlanLocked_items (dir : PlanDir) (options : CommentOptions)
    : (commentOnOperationPlanLocked dir options).1.items = dir.items := by
  unfold commentOnOperationPlanLocked
  split
  . rfl
  . rfl

theorem blockOperationPlanLocked_items (dir : PlanDir) (options : BlockOptions)
    : (blockOperationPlanLocked dir options).1.items = dir.items := by
  unfold blockOperationPlanLocked
  split
  . rfl
  . dsimp only
    split
    . rfl
    . rfl

theorem completeOperationPlanLocked_items (dir : PlanDir) (options : CompleteOptions)
    : (completeOperationPlanLocked dir options).1.items = dir.items := by
  unfold completeOperationPlanLocked
  split
  . rfl
  . dsimp only
    split
    . rfl
    . split
      . rfl
      . split
        . rfl
        . rfl

theorem graphInv_performLocked (call : Call) (dir : PlanDir) (hinv : GraphInv dir.items)
    : GraphInv (call.performLocked dir).items := by
  cases call with
  | create options =>
    dsimp only [Call.performLocked]
    rw [createOperationPlanInternalLocked_items]
    exact hinv
  | createV2 options laneDigest =>
    dsimp only [Call.performLocked]
    split
    . exact hinv
    . rw [createOperationPlanInternalLocked_items]
      exact hinv
  | addItem options =>
    dsimp only [Call.performLocked]
    cases addOperationPlanItemLocked_items dir options with
    | inl h =>
      rw [h]
      exact hinv
    | inr h =>
      cases h with
      | intro item h =>
        rw [h.1]
        exact graphInv_concat_fresh hinv h.2.1 h.2.2
  | updateItem options order =>
    exact graphInv_updateOperationPlanItemLocked dir options order hinv
  | delegateItem options order =>
    dsimp only [Call.performLocked]
    cases delegateOperationPlanItemLocked_items dir options order with
    | inl h =>
      rw [h]
      exact hinv
    | inr h =>
      cases h with
      | intro item h =>
        rw [h.1]
        exact graphInv_concat_same hinv h.2
  | promote options order =>
    exact graphInv_promoteOperationPlanItemsFromDependenciesLocked dir options order hinv
  | comment options =>
    dsimp only [Call.performLocked]
    rw [commentOnOperationPlanLocked_items]
    exact hinv
  | block options =>
    dsimp only [Call.performLocked]
    rw [blockOperationPlanLocked_items]
    exact hinv
  | complete options =>
    dsimp only [Call.performLocked]
    rw [completeOperationPlanLocked_items]
    exact hinv

theorem graphInv_perform (store : Store) (call : Call)
    (hinv : ∀ name, GraphInv (store name).items)
    : ∀ name, GraphInv (store.perform call name).items := by
  intro name
  unfold Store.perform
  by_cases hname : name = safeName call.planId
  . rw [hname, Store.set_same]
    apply graphInv_performLocked
    apply hinv
  . rw [Store.set_of_ne _ _ hname]
    apply hinv

/-
`DependsOn items dep itemId`: the item with the id `itemId` lists `dep` among its dependencies.
-/
def DependsOn (items : List Item) (dep itemId : String) : Prop :=
  ∃ item ∈ items, item.itemId = itemId ∧ dep ∈ item.dependsOn

structure WellFormedGraph (items : List Item) : Prop where
  closed : ∀ dep itemId, DependsOn items dep itemId → ∃ item ∈ items, item.itemId = dep
  irreflexive : ∀ itemId, ¬DependsOn items itemId itemId
  acyclic : ∀ itemId, ¬Relation.TransGen (DependsOn items) itemId itemId

theorem needs_of_dependsOn {dep itemId : String} (h : DependsOn (readItems items) dep itemId)
    : Needs (dependencies (latestItems items)) dep itemId := by
  cases h with
  | intro item h =>
    have hlookup := mem_readItems.mp h.1
    rw [h.2.1] at hlookup
    exact ⟨item.dependsOn, dependencies_of_lookup hlookup, h.2.2⟩

theorem wellFormedGraph_of_graphInv (hinv : GraphInv items)
    : WellFormedGraph (readItems items) := by
  have hacyclic := acyclic_of_acc hinv.acc
  have hmono : ∀ {a b}, Relation.TransGen (DependsOn (readItems items)) a b
      → Relation.TransGen (Needs (dependencies (latestItems items))) a b := by
    intro a b h
    exact Relation.TransGen.mono (fun _ _ => needs_of_dependsOn) a b h
  constructor
  . intro dep itemId h
    have hsome := hinv.closed itemId dep (needs_of_dependsOn h)
    rw [dependencies_isSome, Option.isSome_iff_exists] at hsome
    cases hsome with
    | intro item hitem =>
      have hid := itemId_of_lookup_latestItems hitem
      refine ⟨item, ?_, hid⟩
      rw [mem_readItems, hid]
      exact hitem
  . intro itemId h
    exact hacyclic itemId (hmono (Relation.TransGen.single h))
  . intro itemId h
    exact hacyclic itemId (hmono h)

theorem wellFormedGraph_of_calls (calls : List Call) (planId : String)
    : WellFormedGraph
        (readItems (Run.exec Store.perform Store.empty calls (safeName planId)).items) := by
  have hempty : ∀ name, GraphInv (Store.empty name).items := by
    intro name
    exact graphInv_nil
  have hrun := Run.exec_invariant (fun store : Store => ∀ name, GraphInv (store name).items)
    graphInv_perform hempty calls
  apply wellFormedGraph_of_graphInv
  exact hrun (safeName planId)

end OperationPlan
