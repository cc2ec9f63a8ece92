import AgentHarness.AgentProgress.Lemmas.PlannedQueues
import AgentHarness.AgentProgress.Lemmas.Window

/-!
Planners of several platforms over one state.
-/

namespace AgentProgress

open ProgressEventIndex

section Shown

variable (json : HistoryJson) (home : DeliveryHome) (call : PlanCall) (index : ProgressEventIndex)
variable (queueId : String)

def shownEvents : List StoredProgressEvent :=
  sortByLine (queueEvents json.toProgressJson index queueId)

def shownQueue : PlannedQueue where
  queueId
  events := shownEvents json index queueId
  closedByControl := false

/-
A queue of the platform of the call that is open and in the index, and that the call has no reason of its own to
keep back: nothing was sent of it, and nothing has claimed a surface of it.
-/
structure Unsent (platform : String) : Prop where
  filter : call.options.platform = some platform
  indexed : queueId ∈ queueIds index.rows
  platform : ∀ stored ∈ shownEvents json index queueId, stored.event.platform = platform
  isOpen : ∀ stored ∈ shownEvents json index queueId, isTerminalEvent stored.event = false
  unrecorded : home.delivery.queues.lookup queueId = none
  unclaimed : ∀ latest ∈ (shownEvents json index queueId).getLast?, ∀ kind,
    home.claims.lookup
      (progressSurfaceClaimFile (statusSurfaceKeyForEvent latest.event queueId kind)) = none
  enabled : ∀ stored ∈ shownEvents json index queueId,
    call.world.progressDeliveryEnabled stored.event = true
  current : ∀ stored ∈ shownEvents json index queueId,
    home.delivery.progressEventSessionSuperseded stored.event = false
  recent : ∀ latest ∈ (shownEvents json index queueId).getLast?,
    progressEventIsHistoricalForFreshSurface latest.event call.options.nowMs = false
  uncontrolled : ∀ sessionKey, call.world.terminalControl queueId sessionKey = none

def earlierRequests : List SurfaceRequest :=
  ((planQueueList json home call index).takeWhile (·.queueId ≠ queueId)).flatMap
    (queueRequests (planState json home call index).queues call.options call.world)

def bodyText : String :=
  renderAgentProgressActions ((shownEvents json index queueId).map (·.event))
    call.options.maxEventsPerPanel call.options.maxPreviewChars

def OpensSurface : Prop :=
  ∀ latest ∈ (shownEvents json index queueId).getLast?,
    Free call.options.nowMs (earlierRequests json home call index queueId)
        (statusSurfaceKeyForEvent latest.event queueId .status)
      ∨ Text.trim (bodyText json call index queueId) ≠ ""
        ∧ Free call.options.nowMs (earlierRequests json home call index queueId)
          (statusSurfaceKeyForEvent latest.event queueId .body)

end Shown

section Show

variable {json : HistoryJson} {home : DeliveryHome} {call : PlanCall} {index : ProgressEventIndex}
variable {platform queueId : String}

theorem lookup_trimmed_queues {state : AgentProgressDeliveryState}
    {options : AgentProgressDeliveryPlanOptions} (h : state.queues.lookup queueId = none)
    : (state.trimmed options).queues.lookup queueId = none := by
  unfold AgentProgressDeliveryState.trimmed
    AgentProgressDeliveryState.boundLegacyCompactedProgressState
    AgentProgressDeliveryState.pruneOldTerminalDeliveryState
  dsimp only
  split
  . exact h
  . rw [FMap.lookup_eraseAll, h, ite_self]

theorem superseded_trimmed (state : AgentProgressDeliveryState)
    (options : AgentProgressDeliveryPlanOptions)
    : (state.trimmed options).supersededSessions = state.supersededSessions := by
  unfold AgentProgressDeliveryState.trimmed
    AgentProgressDeliveryState.boundLegacyCompactedProgressState
    AgentProgressDeliveryState.pruneOldTerminalDeliveryState
  dsimp only
  split
  . rfl
  . rfl

theorem shownEvents_ne_nil (hsound : IndexSound json.toProgressJson index)
    (h : queueId ∈ queueIds index.rows)
    : shownEvents json index queueId ≠ [] := by
  have hne := (queueEvents_ne_nil hsound).mpr h
  unfold shownEvents sortByLine
  intro hnil
  have hlength := congrArg List.length hnil
  rw [List.length_insertionSort, List.length_nil, List.length_eq_zero_iff] at hlength
  exact hne hlength

theorem sortByLine_sortByLine (events : List StoredProgressEvent)
    : sortByLine (sortByLine events) = sortByLine events := by
  apply List.Pairwise.insertionSort_eq
  apply List.pairwise_insertionSort

theorem keptEvents_of_unsent (h : Unsent json home call index queueId platform)
    : keptEvents (home.delivery.trimmed call.options) call.options call.world
        (shownEvents json index queueId) = shownEvents json index queueId := by
  unfold keptEvents
  rw [List.filter_eq_self]
  intro stored hstored
  have hcurrent := h.current stored hstored
  unfold AgentProgressDeliveryState.progressEventSessionSuperseded at hcurrent ⊢
  rw [superseded_trimmed, hcurrent, h.enabled stored hstored, h.filter]
  simp [h.platform stored hstored]

theorem decideQueue_of_unsent (hsound : IndexSound json.toProgressJson index)
    (h : Unsent json home call index queueId platform)
    : decideQueue (home.delivery.trimmed call.options) call.options call.world queueId
        (shownEvents json index queueId) = .show (shownQueue json index queueId) := by
  have hopen : (shownEvents json index queueId).any (isTerminalEvent ·.event) = false := by
    rw [List.any_eq_false]
    intro stored hstored
    simp [h.isOpen stored hstored]
  unfold decideQueue
  dsimp only
  rw [keptEvents_of_unsent h, lookup_trimmed_queues h.unrecorded]
  cases hlast : (shownEvents json index queueId).getLast? with
  | none => exact absurd (List.getLast?_eq_none_iff.mp hlast) (shownEvents_ne_nil hsound h.indexed)
  | some latest =>
    have hrecent := h.recent latest hlast
    simp [hopen, hrecent, h.uncontrolled, shownQueue]

theorem mem_knownQueueIds {state : AgentProgressDeliveryState} (hblank : Text.trim queueId ≠ "")
    : queueId ∈ state.knownQueueIds
        ↔ (state.queues.lookup queueId).isSome ∨ (state.compactedEvents.lookup queueId).isSome := by
  unfold AgentProgressDeliveryState.knownQueueIds
  rw [List.mem_filter, List.mem_append, ← AList.mem_keys, ← AList.mem_keys, ← AList.lookup_isSome,
    ← AList.lookup_isSome]
  simp [hblank]

theorem selected_of_considered (hplan : FreshPlan json home call index)
    (hqueue : queueId ∈ queueIds index.rows) {events : List StoredProgressEvent}
    (h : (allByQueue (home.delivery.trimmed call.options)
      (planSnapshot json home call index)).lookup queueId = some events)
    : Selected index (home.delivery.trimmed call.options).knownQueueIds home.delivery.ledger queueId := by
  by_contra hunselected
  obtain ⟨-, -, hselected⟩ | ⟨hnone, -⟩ := hplan.events queueId
  . exact hunselected hselected
  . rw [lookup_allByQueue, hnone, Option.none_or, hplan.reset] at h
    apply hunselected
    split at h
    . cases h
    . left
      rw [mem_knownQueueIds (nonblank_of_mem hplan.sound hqueue)]
      right
      cases hlookup : (home.delivery.trimmed call.options).compactedEvents.lookup queueId with
      | none =>
        rw [hlookup] at h
        cases h
      | some _ => rfl

theorem selected_of_mem (hplan : FreshPlan json home call index)
    (hqueue : queueId ∈ queueIds index.rows)
    (hmem : queueId ∈ (planQueueList json home call index).map (·.queueId))
    : Selected index (home.delivery.trimmed call.options).knownQueueIds home.delivery.ledger queueId := by
  obtain ⟨queue, hplanned, rfl⟩ := List.mem_map.mp hmem
  obtain ⟨events, hevents, -⟩ := mem_plannedQueues.mp hplanned
  exact selected_of_considered hplan hqueue hevents

theorem shownQueue_mem (hplan : FreshPlan json home call index)
    (h : Unsent json home call index queueId platform)
    (hselected : Selected index (home.delivery.trimmed call.options).knownQueueIds home.delivery.ledger
      queueId)
    : shownQueue json index queueId ∈ planQueueList json home call index := by
  refine mem_plannedQueues.mpr ⟨shownEvents json index queueId, ?_, decideQueue_of_unsent hplan.sound h⟩
  show (allByQueue _ _).lookup queueId = _
  rw [lookup_allByQueue]
  obtain ⟨hevents, -⟩ | ⟨-, hnot⟩ := hplan.events queueId
  . rw [hevents]
    rfl
  . exact absurd ⟨h.indexed, hselected⟩ hnot

theorem lookup_planClaims {file : String} (h : home.claims.lookup file = none)
    : (planClaims json home call index).lookup file = none := by
  have hremove : ∀ (queueIds : List String) (claims : SurfaceClaims), claims.lookup file = none →
      (queueIds.foldl (·.removeProgressSurfaceClaimsForQueue ·) claims).lookup file = none := by
    intro queueIds
    induction queueIds with
    | nil => exact fun _ h => h
    | cons queueId queueIds ih =>
      intro claims hclaims
      rw [List.foldl_cons]
      apply ih
      unfold SurfaceClaims.removeProgressSurfaceClaimsForQueue
      rw [FMap.lookup_eraseAll, hclaims, ite_self]
  exact hremove _ _ h

theorem lookup_planState_queues (h : home.delivery.queues.lookup queueId = none)
    : (planState json home call index).queues.lookup queueId = none := by
  show ((home.delivery.trimmed call.options).queues.eraseAll _).lookup queueId = none
  rw [FMap.lookup_eraseAll, lookup_trimmed_queues h, ite_self]

end Show

section Lanes

variable {options : AgentProgressDeliveryPlanOptions} {world : DeliveryWorld} {maxUpdates : Nat}
variable {queue : PlannedQueue} {first latest : StoredProgressEvent}
variable {kind : AgentProgressDeliveryMessageKind} {claims : SurfaceClaims}

@[simp]
theorem statusSurfaceKey_surfaceRequest (textHash : String)
    : (queue.surfaceRequest latest kind textHash).statusSurfaceKey
        = statusSurfaceKeyForEvent latest.event queue.queueId kind := rfl

theorem decideLane_unrecorded (hopen : queue.closedByControl = false)
    : queue.decideLane none options maxUpdates latest kind
        = if Text.trim (queue.laneText none options maxUpdates kind) = "" then
            .skip
          else
            .claim (queue.surfaceRequest latest kind
              (fnv1a64Hex (queue.laneText none options maxUpdates kind))) := by
  unfold PlannedQueue.decideLane
  simp [hopen]

theorem planLane_claim {request : SurfaceRequest}
    (h : queue.decideLane none options maxUpdates latest kind = .claim request)
    : ((queue.planLane none options maxUpdates first latest kind claims).1 ≠ none
        ↔ (claims.acquireProgressSurfaceClaim request options.nowMs).1 ≠ .activePending) := by
  unfold PlannedQueue.planLane
  simp only [h]
  split
  . next hacquire => simp [hacquire]
  . next hacquire => simp [hacquire]
  . next hacquire => simp [hacquire]

theorem acquire_activePending {request : SurfaceRequest} {nowMs : Int}
    (h : (claims.acquireProgressSurfaceClaim request nowMs).1 = .activePending)
    : (claims.acquireProgressSurfaceClaim request nowMs).2 = claims := by
  unfold SurfaceClaims.acquireProgressSurfaceClaim at h ⊢
  dsimp only at h ⊢
  repeat' split at h
  all_goals cases h
  all_goals simp_all

theorem planLane_none
    (h : (queue.planLane none options maxUpdates first latest kind claims).1 = none)
    : (queue.planLane none options maxUpdates first latest kind claims).2 = claims := by
  cases hdecide : queue.decideLane none options maxUpdates latest kind with
  | skip => simp [PlannedQueue.planLane, hdecide]
  | edit providerMessageId => simp [PlannedQueue.planLane, hdecide] at h
  | claim request =>
    have hpending : (claims.acquireProgressSurfaceClaim request options.nowMs).1 = .activePending := by
      by_contra hne
      exact (planLane_claim hdecide).mpr hne h
    have hclaims := acquire_activePending hpending
    unfold PlannedQueue.planLane
    simp only [hdecide]
    split
    . next hacquire => rw [hacquire] at hpending; cases hpending
    . next hacquire => rw [hacquire] at hpending; cases hpending
    . next hacquire => rw [hacquire] at hclaims; exact hclaims

section Unrecorded

variable {earlier : List SurfaceRequest} (hopen : queue.closedByControl = false)
variable (hqueue : queue.queueId ∉ earlier.map (·.queueId))
include hopen hqueue

theorem planLane_unrecorded
    (hfree : claims.lookup
      (progressSurfaceClaimFile (statusSurfaceKeyForEvent latest.event queue.queueId kind)) = none)
    : (queue.planLane none options maxUpdates first latest kind
          (acquireAll options.nowMs claims earlier)).1 ≠ none
        ↔ Text.trim (queue.laneText none options maxUpdates kind) ≠ ""
          ∧ Free options.nowMs earlier (statusSurfaceKeyForEvent latest.event queue.queueId kind) := by
  have hdecide := @decideLane_unrecorded options maxUpdates queue latest kind hopen
  by_cases hblank : Text.trim (queue.laneText none options maxUpdates kind) = ""
  . rw [if_pos hblank] at hdecide
    have hnone : (queue.planLane none options maxUpdates first latest kind
        (acquireAll options.nowMs claims earlier)).1 = none := by
      unfold PlannedQueue.planLane
      simp only [hdecide]
    constructor
    . intro hne
      exact absurd hnone hne
    . rintro ⟨htext, -⟩
      exact absurd hblank htext
  . rw [if_neg hblank] at hdecide
    rw [planLane_claim hdecide, acquire_iff_free, statusSurfaceKey_surfaceRequest,
      and_iff_right hblank]
    . rw [statusSurfaceKey_surfaceRequest]
      exact hfree
    . exact hqueue

theorem planQueue_unrecorded {queues : FMap String AgentProgressDeliveryCursor}
    (hterminal : queue.terminal = false) (hcursor : queues.lookup queue.queueId = none)
    (hfirst : queue.sorted.head? = some first) (hlatest : queue.sorted.getLast? = some latest)
    (hfree : ∀ kind, claims.lookup
      (progressSurfaceClaimFile (statusSurfaceKeyForEvent latest.event queue.queueId kind)) = none)
    : (planQueue queues options world (acquireAll options.nowMs claims earlier) queue).1 ≠ []
        ↔ Free options.nowMs earlier (statusSurfaceKeyForEvent latest.event queue.queueId .status)
          ∨ Text.trim (queue.laneText none options
              (world.maxNonterminalUpdatesPerLane.getD options.maxNonterminalUpdatesPerLane) .body) ≠ ""
            ∧ Free options.nowMs earlier
              (statusSurfaceKeyForEvent latest.event queue.queueId .body) := by
  let maxUpdates := world.maxNonterminalUpdatesPerLane.getD options.maxNonterminalUpdatesPerLane
  have hbody := @planLane_unrecorded options maxUpdates queue first latest .body claims earlier hopen
    hqueue (hfree .body)
  have hstatus := @planLane_unrecorded options maxUpdates queue first latest .status claims earlier hopen
    hqueue (hfree .status)
  have hinked : Text.trim (queue.laneText none options maxUpdates .status) ≠ "" :=
    renderAgentProgressStatus_ne _ _ _ _ _
  rw [and_iff_right hinked] at hstatus
  rw [← hbody, ← hstatus]
  unfold planQueue
  simp only [hfirst, hlatest, hterminal, hcursor, Bool.false_and, Bool.false_eq_true, if_false]
  cases hlane : (queue.planLane none options maxUpdates first latest .body
      (acquireAll options.nowMs claims earlier)).1 with
  | some item => simp [maxUpdates]
  | none =>
    have hclaims := planLane_none hlane
    simp only [maxUpdates] at hclaims ⊢
    rw [hclaims]
    simp

end Unrecorded

end Lanes

/-
An open queue of the platform with events in the index, and with nothing sent or claimed, gets something to
send.
-/
def PlatformShown (json : HistoryJson) (home : DeliveryHome) (call : PlanCall) : Prop :=
  ∀ index, home.freshIndex json call = some index → ∀ platform queueId,
    Unsent json home call index queueId platform →
      ∃ pending, home.planned json call = .ok pending ∧ ∃ item ∈ pending, item.queueId = queueId

/-
The call has the queue in its state, or the index has an event of it behind the line that the planners have read,
or they have not read this index at all; and a surface of it is free.
-/
def PlatformVisible (json : HistoryJson) (home : DeliveryHome) (call : PlanCall) : Prop :=
  ∀ index, home.freshIndex json call = some index → ∀ platform queueId,
    Unsent json home call index queueId platform →
      Selected index (home.delivery.trimmed call.options).knownQueueIds home.delivery.ledger queueId
        ∧ OpensSurface json home call index queueId

section Platforms

variable {json : HistoryJson} {home : DeliveryHome} {call : PlanCall} {index : ProgressEventIndex}
variable {platform queueId : String}

theorem terminal_shownQueue (h : Unsent json home call index queueId platform)
    : (shownQueue json index queueId).terminal = false := by
  unfold PlannedQueue.terminal latestTerminalEvent
  rw [Option.isSome_eq_false_iff, Option.isNone_iff_eq_none, List.find?_eq_none]
  intro event hevent
  rw [List.mem_reverse] at hevent
  obtain ⟨stored, hstored, rfl⟩ := List.mem_map.mp hevent
  have hshown : stored ∈ shownEvents json index queueId :=
    ((List.perm_insertionSort _ _).mem_iff).mp hstored
  simp [h.isOpen stored hshown]

theorem item_iff_opens (hplan : FreshPlan json home call index)
    (h : Unsent json home call index queueId platform)
    (hselected : Selected index (home.delivery.trimmed call.options).knownQueueIds home.delivery.ledger
      queueId)
    : (∃ item ∈ (planQueues (planState json home call index).queues call.options call.world
          (planClaims json home call index) (planQueueList json home call index)).1,
          item.queueId = queueId)
        ↔ OpensSurface json home call index queueId := by
  obtain ⟨before, after, hsplit⟩ := List.append_of_mem (shownQueue_mem hplan h hselected)
  have hnodup : ((planQueueList json home call index).map (·.queueId)).Nodup := nodup_plannedQueues
  have hbefore : (planQueueList json home call index).takeWhile (·.queueId ≠ queueId) = before := by
    rw [hsplit, List.map_append, List.map_cons, List.nodup_append] at hnodup
    rw [hsplit, List.takeWhile_append_of_pos]
    . simp [shownQueue]
    . intro queue hqueue
      have hne := hnodup.2.2 _ (List.mem_map_of_mem hqueue) _ List.mem_cons_self
      simpa [shownQueue] using hne
  have hother : queueId ∉ (earlierRequests json home call index queueId).map (·.queueId) := by
    intro hmem
    obtain ⟨request, hrequest, hrequestQueue⟩ := List.mem_map.mp hmem
    obtain ⟨queue, hqueue, hasked⟩ := List.mem_flatMap.mp hrequest
    have hdiffers := List.mem_takeWhile_imp hqueue
    rw [queueId_queueRequests _ _ _ hasked] at hrequestQueue
    simp [hrequestQueue] at hdiffers
  rw [hsplit] at hnodup
  have hsorted : (shownQueue json index queueId).sorted = shownEvents json index queueId :=
    sortByLine_sortByLine _
  have hne := shownEvents_ne_nil hplan.sound h.indexed
  obtain ⟨latest, hlatest⟩ : ∃ latest, (shownEvents json index queueId).getLast? = some latest :=
    Option.ne_none_iff_exists'.mp fun hnone => hne (List.getLast?_eq_none_iff.mp hnone)
  obtain ⟨first, hfirst⟩ : ∃ first, (shownEvents json index queueId).head? = some first :=
    Option.ne_none_iff_exists'.mp fun hnone => hne (List.head?_eq_none_iff.mp hnone)
  have hearlier : earlierRequests json home call index queueId
      = before.flatMap (queueRequests (planState json home call index).queues call.options call.world) := by
    unfold earlierRequests
    rw [hbefore]
  have hitem := @exists_item_iff (planState json home call index).queues call.options call.world
    (shownQueue json index queueId) (planClaims json home call index) before after hnodup
  rw [hsplit]
  refine hitem.trans ?_
  rw [← hearlier, planQueue_unrecorded rfl hother (terminal_shownQueue h)
    (lookup_planState_queues h.unrecorded) (hsorted ▸ hfirst) (hsorted ▸ hlatest)
    fun kind => lookup_planClaims (h.unclaimed latest hlatest kind)]
  unfold OpensSurface bodyText
  rw [hlatest]
  simp only [Option.mem_some, forall_eq', PlannedQueue.laneText, hsorted]
  rfl

theorem pending_iff (hplan : FreshPlan json home call index)
    (h : Unsent json home call index queueId platform)
    : (∃ pending, home.planned json call = .ok pending ∧ ∃ item ∈ pending, item.queueId = queueId)
        ↔ Selected index (home.delivery.trimmed call.options).knownQueueIds home.delivery.ledger queueId
          ∧ OpensSurface json home call index queueId := by
  constructor
  . rintro ⟨pending, hpending, item, hitem, hqueue⟩
    rw [hplan.pending] at hpending
    obtain rfl := Except.ok.inj hpending
    have hmem := queueId_planQueues _ _ _ hitem
    rw [hqueue] at hmem
    have hselected := selected_of_mem hplan h.indexed hmem
    refine ⟨hselected, ?_⟩
    exact (item_iff_opens hplan h hselected).mp ⟨item, hitem, hqueue⟩
  . rintro ⟨hselected, hopens⟩
    exact ⟨_, hplan.pending, (item_iff_opens hplan h hselected).mpr hopens⟩

theorem platform_shown_iff (json : HistoryJson) (events : Option ChannelDelivery.LedgerFile)
    (actions : List DeliveryAction)
    : Run.Guarded (DeliveryHome.step json)
          (fun home action => ∀ call, action = .plan call → PlatformShown json home call)
          (DeliveryHome.start events) actions
        ↔ Run.Guarded (DeliveryHome.step json)
          (fun home action => ∀ call, action = .plan call → PlatformVisible json home call)
          (DeliveryHome.start events) actions := by
  have hside : Run.Guarded (DeliveryHome.step json) (fun _ _ => True) (DeliveryHome.start events) actions :=
    Run.guarded_of_forall (fun _ _ _ => trivial) _
  refine Run.guarded_congr (fun home => IndexSound json.toProgressJson home.files.index) ?_ ?_
    indexSound_empty hside
  . intro home action hsound _
    apply forall_congr'
    intro call
    apply forall_congr'
    intro _
    unfold PlatformShown PlatformVisible
    apply forall_congr'
    intro index
    apply forall_congr'
    intro hindex
    have hplan := freshPlan_of_freshIndex hsound hindex
    apply forall_congr'
    intro platform
    apply forall_congr'
    intro queueId
    apply forall_congr'
    intro hunsent
    exact pending_iff hplan hunsent
  . intro home action hsound _ _
    exact indexSound_step hsound action

end Platforms

section Sample

def sampleDeliveryJson : HistoryJson where
  toProgressJson := ProgressStore.sampleJson
  eventOfSlice bytes :=
    match TextFile.decode bytes with
    | some text => ProgressStore.sampleJson.event text
    | none => .error "invalid unicode code point"
  render event := event.queueId

def planFor (platform : Option String) : PlanCall where
  options := { platform, nowMs := 2 }

def plannedElsewhere : List DeliveryAction :=
  [.append (Text.utf8Bytes "a.\n") 1, .plan (planFor (some "discord"))]

theorem hidden_by_other_platform
    : ¬Run.Guarded (DeliveryHome.step sampleDeliveryJson)
        (fun home action => ∀ call, action = .plan call → PlatformShown sampleDeliveryJson home call)
        (DeliveryHome.start none) (plannedElsewhere ++ [.plan (planFor (some "telegram"))]) := by
  intro h
  rw [Run.guarded_append] at h
  have hshown := h.2.1 _ rfl
  have hfacts : ∀ home, home = Run.exec (DeliveryHome.step sampleDeliveryJson) (DeliveryHome.start none)
        plannedElsewhere →
      (home.freshIndex sampleDeliveryJson (planFor (some "telegram"))).map
          (fun index => (queueIds index.rows, shownEvents sampleDeliveryJson index "a"))
        = some (["a"], [{
            lineNumber := 1
            event := ProgressStore.sampleEvent "a" .runtime .progress }])
      ∧ home.delivery.queues.lookup "a" = none
      ∧ home.claims.entries = []
      ∧ home.delivery.supersededSessions = []
      ∧ (home.planned sampleDeliveryJson (planFor (some "telegram"))).toOption = some [] := by
    rintro _ rfl
    decide +kernel
  generalize Run.exec (DeliveryHome.step sampleDeliveryJson) (DeliveryHome.start none) plannedElsewhere
    = home at hshown hfacts
  obtain ⟨hindex, hqueues, hclaims, hsessions, hplanned⟩ := hfacts home rfl
  obtain ⟨index, hfresh, hsame⟩ := Option.map_eq_some_iff.mp hindex
  rw [Prod.mk.injEq] at hsame
  obtain ⟨hids, hevents⟩ := hsame
  have hunsent : Unsent sampleDeliveryJson home (planFor (some "telegram")) index "a" "telegram" := by
    constructor
    . rfl
    . rw [hids]
      exact List.mem_singleton.mpr rfl
    . rw [hevents]
      simp [ProgressStore.sampleEvent]
    . rw [hevents]
      simp [ProgressStore.sampleEvent, isTerminalEvent]
    . exact hqueues
    . intro latest _ kind
      apply AList.lookup_eq_none.mpr
      rw [AList.mem_keys, AList.keys, hclaims]
      exact List.not_mem_nil
    . intro _ _
      rfl
    . intro _ _
      unfold AgentProgressDeliveryState.progressEventSessionSuperseded
      rw [hsessions]
      rfl
    . rw [hevents]
      decide
    . intro _
      rfl
  obtain ⟨pending, hpending, item, hitem, -⟩ := hshown index hfresh "telegram" "a" hunsent
  rw [hpending] at hplanned
  obtain rfl := Option.some.inj hplanned
  cases hitem

end Sample

end AgentProgress
