import AgentHarness.RuntimeQueue.Lease
import Mathlib.Data.String.Basic

/-!
When a session lane blocks itself. A continuation waits for every human message of its lane, a human
message waits for the older items of its lane, continuations that are not prepared aside. The lane
moves exactly if the oldest of the items a human message waits for is human itself, or if there is
nothing for the two rules to disagree on.
-/

namespace RuntimeQueue

theorem olderThan_irrefl (item : PendingQueueItem) : olderThan item item = false := by
  simp [olderThan]

theorem olderThan_trans {left middle right : PendingQueueItem}
    (hleft : olderThan left middle = true) (hright : olderThan middle right = true)
    : olderThan left right = true := by
  simp only [olderThan, Bool.or_eq_true, Bool.and_eq_true, decide_eq_true_eq] at *
  cases hleft with
  | inl hleft =>
    cases hright with
    | inl hright => left; omega
    | inr hright => left; omega
  | inr hleft =>
    cases hright with
    | inl hright => left; omega
    | inr hright =>
      right
      refine ⟨by omega, ?_⟩
      exact String.lt_trans hleft.2 hright.2

theorem olderThan_total {left right : PendingQueueItem} (hne : left.queueId ≠ right.queueId)
    : olderThan left right = true ∨ olderThan right left = true := by
  simp only [olderThan, Bool.or_eq_true, Bool.and_eq_true, decide_eq_true_eq]
  by_cases hleft : left.createdAtMs < right.createdAtMs
  . exact .inl (.inl hleft)
  . by_cases hright : right.createdAtMs < left.createdAtMs
    . exact .inr (.inl hright)
    . have heq : left.createdAtMs = right.createdAtMs := by omega
      cases lt_or_gt_of_ne hne with
      | inl h => exact .inl (.inr ⟨heq, h⟩)
      | inr h => exact .inr (.inr ⟨heq.symm, h⟩)

def oldest (items : List PendingQueueItem) : Option PendingQueueItem :=
  items.find? fun item => items.all fun other => !olderThan other item

variable {items : List PendingQueueItem}

theorem exists_oldest (hne : items ≠ [])
    : ∃ item, item ∈ items ∧ ∀ other, other ∈ items → olderThan other item = false := by
  induction items with
  | nil => contradiction
  | cons head rest ih =>
    by_cases hrest : rest = []
    . refine ⟨head, by simp, ?_⟩
      intro other hother
      simp only [hrest, List.mem_singleton] at hother
      rw [hother]
      apply olderThan_irrefl
    . cases ih hrest with
      | intro item hitem =>
        by_cases hhead : olderThan head item = true
        . refine ⟨head, by simp, ?_⟩
          intro other hother
          cases List.mem_cons.mp hother with
          | inl h =>
            rw [h]
            apply olderThan_irrefl
          | inr h =>
            apply Bool.eq_false_iff.mpr
            intro hother
            have hold := olderThan_trans hother hhead
            rw [hitem.2 other h] at hold
            contradiction
        . refine ⟨item, by simp [hitem.1], ?_⟩
          intro other hother
          cases List.mem_cons.mp hother with
          | inl h =>
            rw [h]
            exact Bool.eq_false_iff.mpr hhead
          | inr h => exact hitem.2 other h

theorem oldest_spec {item : PendingQueueItem} (h : oldest items = some item)
    : item ∈ items ∧ ∀ other, other ∈ items → olderThan other item = false := by
  refine ⟨List.mem_of_find?_eq_some h, ?_⟩
  have hall := List.find?_some h
  simpa using hall

theorem oldest_isSome (hne : items ≠ [])
    : ∃ item, oldest items = some item := by
  cases exists_oldest hne with
  | intro item hitem =>
    apply Option.isSome_iff_exists.mp
    rw [oldest, List.find?_isSome]
    refine ⟨item, hitem.1, ?_⟩
    simpa using hitem.2

theorem oldest_eq_some {item : PendingQueueItem} (hnodup : (items.map (·.queueId)).Nodup)
    (hmem : item ∈ items) (hold : ∀ other, other ∈ items → olderThan other item = false)
    : oldest items = some item := by
  cases oldest_isSome (List.ne_nil_of_mem hmem) with
  | intro first hfirst =>
    have hspec := oldest_spec hfirst
    by_cases hid : first.queueId = item.queueId
    . rw [hfirst, List.inj_on_of_nodup_map hnodup hspec.1 hmem hid]
    . cases olderThan_total hid with
      | inl h =>
        rw [hold first hspec.1] at h
        contradiction
      | inr h =>
        rw [hspec.2 item hmem] at h
        contradiction

section

variable (preparedIds terminalRunIds parkedRunIds : List String) (config : RuntimeDispatchConfig)
variable (laneKey : String)

/-
The items of a lane that are still to run.
-/
def activeLane (pendingItems : List PendingQueueItem) : List PendingQueueItem :=
  pendingItems.filter fun item =>
    item.queueId ∉ terminalRunIds
      && item.queueId ∉ parkedRunIds
      && laneKeyOf config item = some laneKey

def isUnpreparedContinuation (item : PendingQueueItem) : Bool :=
  isAutonomousContinuationItem item && item.queueId ∉ preparedIds

def isCoordinatorResume (item : PendingQueueItem) : Bool :=
  !isAutonomousContinuationItem item && !isOrdinaryHumanIngressItem item

/-
The lane has no human message, or a human message is the first in line once the continuations that
are not prepared are set aside, or the first in line is a coordinator resume.
-/
def laneMoves (lane : List PendingQueueItem) : Bool :=
  !lane.any isOrdinaryHumanIngressItem
    || (oldest (lane.filter fun item => !isUnpreparedContinuation preparedIds item)).any
      isOrdinaryHumanIngressItem
    || (oldest lane).any isCoordinatorResume

/-
An item of the lane is free if it is no continuation beside a human message and no item it waits
for is older.
-/
def FreeInLane (lane : List PendingQueueItem) (item : PendingQueueItem) : Prop :=
  (isAutonomousContinuationItem item = true
      → ∀ other, other ∈ lane → isOrdinaryHumanIngressItem other = false)
    ∧ ∀ other, other ∈ lane
      → (isOrdinaryHumanIngressItem item = true
        → isUnpreparedContinuation preparedIds other = false)
      → olderThan other item = false

def sessionFifo : Bool :=
  (config.classes.lookup "interactive").any (·.sessionFifo)

variable {item : PendingQueueItem} {pendingItems : List PendingQueueItem}

theorem mem_activeLane
    : item ∈ activeLane terminalRunIds parkedRunIds config laneKey pendingItems
        ↔ item ∈ pendingItems ∧ item.queueId ∉ terminalRunIds ∧ item.queueId ∉ parkedRunIds
          ∧ laneKeyOf config item = some laneKey := by
  simp [activeLane, and_assoc]

theorem laneKeyOf_eq_some (h : laneKeyOf config item = some laneKey)
    : ∃ classConfig, config.classes.lookup item.runtimeClass = some classConfig
        ∧ itemSessionLaneKey item classConfig = some laneKey
        ∧ sessionFifo config = classConfig.sessionFifo := by
  rw [laneKeyOf, Option.bind_eq_some_iff] at h
  cases h with
  | intro classConfig h =>
    refine ⟨classConfig, h.1, h.2, ?_⟩
    have hclass : item.runtimeClass = "interactive" := by
      have hkey := h.2
      unfold itemSessionLaneKey at hkey
      split at hkey
      . next hmain =>
        simp only [isInteractiveChannelMainLane, Bool.and_eq_true, decide_eq_true_eq] at hmain
        exact hmain.1.1.1.2
      . contradiction
    have hlookup := h.1
    rw [hclass] at hlookup
    rw [sessionFifo, hlookup, Option.any_some]

theorem sameSessionFifoBlocker_of_not_sessionFifo (hkey : laneKeyOf config item = some laneKey)
    (hfifo : sessionFifo config = false)
    : sameSessionFifoBlocker pendingItems item preparedIds terminalRunIds parkedRunIds config
        = none := by
  cases laneKeyOf_eq_some config laneKey hkey with
  | intro classConfig h =>
    rw [hfifo] at h
    simp [sameSessionFifoBlocker, h.1, ← h.2.2]

theorem humanPriorityItem_eq_none
    : humanPriorityItem pendingItems item terminalRunIds parkedRunIds config laneKey = none
        ↔ ∀ other, other ∈ activeLane terminalRunIds parkedRunIds config laneKey pendingItems
          → other.queueId ≠ item.queueId → isOrdinaryHumanIngressItem other = false := by
  simp only [humanPriorityItem, List.find?_eq_none, mem_activeLane, isOtherLaneItem]
  constructor
  . intro h other hother hid
    have := h other hother.1
    simpa [hid, hother.2] using this
  . intro h other hin hfound
    simp only [Bool.and_eq_true, decide_eq_true_eq] at hfound
    have := h other ⟨hin, hfound.1.1.1.2, hfound.1.1.2, hfound.1.2⟩ hfound.1.1.1.1
    rw [this] at hfound
    simp at hfound

theorem olderLaneItem_eq_none
    : olderLaneItem pendingItems item preparedIds terminalRunIds parkedRunIds config laneKey = none
        ↔ ∀ other, other ∈ activeLane terminalRunIds parkedRunIds config laneKey pendingItems
          → other.queueId ≠ item.queueId
          → (isOrdinaryHumanIngressItem item = true
            → isUnpreparedContinuation preparedIds other = false)
          → olderThan other item = false := by
  have hwaits : ∀ other : PendingQueueItem,
      (!isOrdinaryHumanIngressItem item || !isAutonomousContinuationItem other
        || other.queueId ∈ preparedIds) = true
      ↔ (isOrdinaryHumanIngressItem item = true
          → isUnpreparedContinuation preparedIds other = false) := by
    intro other
    cases isOrdinaryHumanIngressItem item
    . simp
    . cases hcontinuation : isAutonomousContinuationItem other
      . simp [isUnpreparedContinuation, hcontinuation]
      . simp [isUnpreparedContinuation, hcontinuation]
  simp only [olderLaneItem, List.find?_eq_none, mem_activeLane, isOtherLaneItem]
  constructor
  . intro h other hother hid hwait
    have := h other hother.1
    rw [Bool.and_eq_true, Bool.and_eq_true, hwaits other] at this
    simp only [hid, hother.2, ne_eq, not_false_eq_true, decide_true, Bool.and_self, true_and,
      not_and, Bool.not_eq_true] at this
    exact this hwait
  . intro h other hin hfound
    simp only [Bool.and_eq_true, hwaits other] at hfound
    simp only [decide_eq_true_eq] at hfound
    have := h other ⟨hin, hfound.1.1.1.1.2, hfound.1.1.1.2, hfound.1.1.2⟩ hfound.1.1.1.1.1
      hfound.1.2
    rw [this] at hfound
    simp at hfound

theorem not_isOrdinaryHuman_of_continuation (h : isAutonomousContinuationItem item = true)
    : isOrdinaryHumanIngressItem item = false := by
  simp [isOrdinaryHumanIngressItem, h]

theorem sameSessionFifoBlocker_eq_none (hnodup : (pendingItems.map (·.queueId)).Nodup)
    (hmem : item ∈ activeLane terminalRunIds parkedRunIds config laneKey pendingItems)
    (hfifo : sessionFifo config = true)
    : sameSessionFifoBlocker pendingItems item preparedIds terminalRunIds parkedRunIds config = none
        ↔ FreeInLane preparedIds
          (activeLane terminalRunIds parkedRunIds config laneKey pendingItems) item := by
  have hkey := (mem_activeLane _ _ _ _).mp hmem
  -- another row of the same id is the item itself, which waits for nothing of its own
  have hself : ∀ other, other ∈ activeLane terminalRunIds parkedRunIds config laneKey pendingItems
      → other.queueId = item.queueId → other = item := by
    intro other hin hid
    exact List.inj_on_of_nodup_map hnodup ((mem_activeLane _ _ _ _).mp hin).1 hkey.1 hid
  cases laneKeyOf_eq_some config laneKey hkey.2.2.2 with
  | intro classConfig h =>
    rw [hfifo] at h
    have hblocker : sameSessionFifoBlocker pendingItems item preparedIds terminalRunIds
          parkedRunIds config = none
        ↔ (isAutonomousContinuationItem item = true
            → humanPriorityItem pendingItems item terminalRunIds parkedRunIds config laneKey = none)
          ∧ olderLaneItem pendingItems item preparedIds terminalRunIds parkedRunIds config laneKey
            = none := by
      simp only [sameSessionFifoBlocker, h.1, ← h.2.2, h.2.1, Bool.not_true, Bool.false_eq_true,
        ↓reduceIte]
      split
      . next human hhuman =>
        by_cases hcontinuation : isAutonomousContinuationItem item = true
        . rw [if_pos hcontinuation] at hhuman
          simp [hcontinuation, hhuman]
        . rw [if_neg hcontinuation] at hhuman
          contradiction
      . next hnone =>
        by_cases hcontinuation : isAutonomousContinuationItem item = true
        . rw [if_pos hcontinuation] at hnone
          simp [hnone]
        . simp [hcontinuation]
    rw [hblocker, humanPriorityItem_eq_none, olderLaneItem_eq_none]
    constructor
    . intro hnone
      constructor
      . intro hcontinuation other hother
        by_cases hid : other.queueId = item.queueId
        . rw [hself other hother hid]
          exact not_isOrdinaryHuman_of_continuation hcontinuation
        . exact hnone.1 hcontinuation other hother hid
      . intro other hother hwait
        by_cases hid : other.queueId = item.queueId
        . rw [hself other hother hid]
          apply olderThan_irrefl
        . exact hnone.2 other hother hid hwait
    . intro hfree
      constructor
      . intro hcontinuation other hother _
        exact hfree.1 hcontinuation other hother
      . intro other hother _ hwait
        exact hfree.2 other hother hwait

theorem exists_freeInLane_iff_laneMoves {lane : List PendingQueueItem}
    (hnodup : (lane.map (·.queueId)).Nodup) (hne : lane ≠ [])
    : (∃ item, item ∈ lane ∧ FreeInLane preparedIds lane item)
        ↔ laneMoves preparedIds lane = true := by
  have hfilter : ((lane.filter fun item => !isUnpreparedContinuation preparedIds item).map
      (·.queueId)).Nodup := by
    apply List.Nodup.sublist _ hnodup
    apply List.Sublist.map
    apply List.filter_sublist
  simp only [laneMoves, Bool.or_eq_true, Bool.not_eq_true', List.any_eq_false, Option.any_eq_true]
  constructor
  . intro hexists
    cases hexists with
    | intro item h =>
      by_cases hcontinuation : isAutonomousContinuationItem item = true
      . left
        left
        intro other hother
        simp [h.2.1 hcontinuation other hother]
      . by_cases hhuman : isOrdinaryHumanIngressItem item = true
        . left
          right
          refine ⟨item, ?_, hhuman⟩
          apply oldest_eq_some hfilter
          . rw [List.mem_filter]
            refine ⟨h.1, ?_⟩
            simp [isUnpreparedContinuation, hcontinuation]
          . intro other hother
            rw [List.mem_filter] at hother
            apply h.2.2 other hother.1
            intro _
            simpa using hother.2
        . right
          refine ⟨item, ?_, ?_⟩
          . apply oldest_eq_some hnodup h.1
            intro other hother
            apply h.2.2 other hother
            intro himpossible
            exact absurd himpossible hhuman
          . simp [isCoordinatorResume, hcontinuation, hhuman]
  . intro hmoves
    cases hmoves with
    | inl h =>
      cases h with
      | inl hquiet =>
        cases oldest_isSome hne with
        | intro item hitem =>
          have hspec := oldest_spec hitem
          refine ⟨item, hspec.1, ?_, ?_⟩
          . intro _ other hother
            simpa using hquiet other hother
          . intro other hother _
            exact hspec.2 other hother
      | inr hfirst =>
        cases hfirst with
        | intro item h =>
          have hspec := oldest_spec h.1
          refine ⟨item, (List.mem_filter.mp hspec.1).1, ?_, ?_⟩
          . intro hcontinuation
            rw [not_isOrdinaryHuman_of_continuation hcontinuation] at h
            simp at h
          . intro other hother hwait
            apply hspec.2 other
            rw [List.mem_filter]
            refine ⟨hother, ?_⟩
            simp [hwait h.2]
    | inr hfirst =>
      cases hfirst with
      | intro item h =>
        have hspec := oldest_spec h.1
        refine ⟨item, hspec.1, ?_, ?_⟩
        . intro hcontinuation
          have hresume := h.2
          simp [isCoordinatorResume, hcontinuation] at hresume
        . intro other hother _
          exact hspec.2 other hother

/-
A lane with work to do has a free item exactly if its class does not keep its sessions in order or
`laneMoves`.
-/
theorem exists_unblocked_iff_laneMoves (pendingItems : List PendingQueueItem)
    (hnodup : (pendingItems.map (·.queueId)).Nodup)
    (hlane : activeLane terminalRunIds parkedRunIds config laneKey pendingItems ≠ [])
    : (∃ item, item ∈ activeLane terminalRunIds parkedRunIds config laneKey pendingItems
        ∧ sameSessionFifoBlocker pendingItems item preparedIds terminalRunIds parkedRunIds config
          = none)
      ↔ sessionFifo config = false
        ∨ laneMoves preparedIds
          (activeLane terminalRunIds parkedRunIds config laneKey pendingItems) = true := by
  have hdistinct : ((activeLane terminalRunIds parkedRunIds config laneKey pendingItems).map
      (·.queueId)).Nodup := by
    apply List.Nodup.sublist _ hnodup
    apply List.Sublist.map
    apply List.filter_sublist
  cases hfifo : sessionFifo config with
  | false =>
    cases List.exists_mem_of_ne_nil _ hlane with
    | intro item hitem =>
      simp only [true_or, iff_true]
      refine ⟨item, hitem, ?_⟩
      have hkey := ((mem_activeLane _ _ _ _).mp hitem).2.2.2
      exact sameSessionFifoBlocker_of_not_sessionFifo _ _ _ config laneKey hkey hfifo
  | true =>
    simp only [Bool.true_eq_false, false_or]
    rw [← exists_freeInLane_iff_laneMoves preparedIds hdistinct hlane]
    constructor
    . intro h
      cases h with
      | intro item h =>
        refine ⟨item, h.1, ?_⟩
        rw [← sameSessionFifoBlocker_eq_none _ _ _ _ _ hnodup h.1 hfifo]
        exact h.2
    . intro h
      cases h with
      | intro item h =>
        refine ⟨item, h.1, ?_⟩
        rw [sameSessionFifoBlocker_eq_none _ _ _ _ _ hnodup h.1 hfifo]
        exact h.2

end

def sampleItem (queueId : String) (createdAtMs : Int) (continuationIntentKey : Option String)
    : PendingQueueItem where
  queueId
  createdAtMs
  agentId := "main"
  sessionKey := "session-1"
  runtimeClass := "interactive"
  origin := "channel"
  cronRunId := none
  platform := "telegram"
  accountId := none
  channelId := "channel-1"
  userId := "user-1"
  continuation := { virtualSessionId := none, continuationIntentKey }
  coordinatorResume := none

def sampleContinuation : PendingQueueItem := sampleItem "queue-1" 1000 (some "intent-1")

def sampleHuman : PendingQueueItem := sampleItem "queue-2" 2000 none

def sampleConfig : RuntimeDispatchConfig where
  globalConcurrencyLimit := 8
  interactiveReserve := 1
  classes := AList.insert "interactive" (defaultRuntimeClassConfig "interactive") ∅

def sampleLaneKey : String :=
  "v2:interactive:main:telegram:legacy-default:channel-1:user-1:session-1"

/-
A continuation that is prepared but not leased and a newer human message wait for each other.
-/
theorem lane_blocks_itself
    : ¬∀ (pendingItems : List PendingQueueItem) (preparedIds terminalRunIds parkedRunIds : List String)
        (config : RuntimeDispatchConfig) (laneKey : String),
        (pendingItems.map (·.queueId)).Nodup
        → activeLane terminalRunIds parkedRunIds config laneKey pendingItems ≠ []
        → ∃ item, item ∈ activeLane terminalRunIds parkedRunIds config laneKey pendingItems
          ∧ sameSessionFifoBlocker pendingItems item preparedIds terminalRunIds parkedRunIds config
            = none := by
  intro hclaim
  have hlane : activeLane [] [] sampleConfig sampleLaneKey [sampleContinuation, sampleHuman]
      = [sampleContinuation, sampleHuman] := by
    decide +kernel
  have hcontinuation : sameSessionFifoBlocker [sampleContinuation, sampleHuman] sampleContinuation
      ["queue-1"] [] [] sampleConfig ≠ none := by
    decide +kernel
  have hhuman : sameSessionFifoBlocker [sampleContinuation, sampleHuman] sampleHuman
      ["queue-1"] [] [] sampleConfig ≠ none := by
    decide +kernel
  have h := hclaim [sampleContinuation, sampleHuman] ["queue-1"] [] [] sampleConfig sampleLaneKey
    (by decide +kernel)
  rw [hlane] at h
  cases h (by simp) with
  | intro item h =>
    cases List.mem_cons.mp h.1 with
    | inl heq =>
      rw [heq] at h
      exact hcontinuation h.2
    | inr htail =>
      rw [List.mem_singleton.mp htail] at h
      exact hhuman h.2

theorem sampleHuman_outranks
    : ∃ item, item ∈ activeLane [] [] sampleConfig sampleLaneKey [sampleContinuation, sampleHuman]
        ∧ sameSessionFifoBlocker [sampleContinuation, sampleHuman] item [] [] [] sampleConfig
          = none := by
  apply (exists_unblocked_iff_laneMoves [] [] [] sampleConfig sampleLaneKey
    [sampleContinuation, sampleHuman] (by decide +kernel) (by decide +kernel)).mpr
  right
  decide +kernel

end RuntimeQueue
