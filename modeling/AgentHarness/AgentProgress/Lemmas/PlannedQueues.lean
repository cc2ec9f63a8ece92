import AgentHarness.AgentProgress.Lemmas.Selection

/-!
A fresh plan taken apart: the events it considers, the queues it shows, and the claims that each of them finds
when its turn comes.
-/

namespace AgentProgress

open ProgressEventIndex

section Considered

variable {state : AgentProgressDeliveryState} {snapshot : DeliverySnapshot} {call : PlanCall}

theorem lookup_overlay (cached events : FMap String (List StoredProgressEvent)) (queueId : String)
    : (FMap.ofKeys (cached.keys ++ events.keys) fun queueId =>
          ((events.lookup queueId).or (cached.lookup queueId)).map sortByLine).lookup queueId
        = ((events.lookup queueId).or (cached.lookup queueId)).map sortByLine := by
  rw [FMap.lookup_ofKeys]
  split
  . rfl
  . next hkey =>
    rw [List.mem_append, not_or, ← AList.mem_keys, ← AList.mem_keys, ← AList.lookup_eq_none,
      ← AList.lookup_eq_none] at hkey
    rw [hkey.1, hkey.2]
    rfl

theorem lookup_allByQueue (queueId : String)
    : (allByQueue state snapshot).lookup queueId
        = ((snapshot.events.lookup queueId).or
            (if snapshot.reset then none else state.compactedEvents.lookup queueId)).map sortByLine := by
  apply (lookup_overlay _ _ _).trans
  split
  . rw [AList.lookup_empty]
  . rfl

theorem queueId_of_show {state : AgentProgressDeliveryState} {options : AgentProgressDeliveryPlanOptions}
    {world : DeliveryWorld} {queueId : String} {events : List StoredProgressEvent} {queue : PlannedQueue}
    (h : decideQueue state options world queueId events = .show queue)
    : queue.queueId = queueId := by
  unfold decideQueue at h
  dsimp only at h
  repeat' split at h
  all_goals cases h
  all_goals rfl

theorem mem_plannedQueues {queue : PlannedQueue}
    : queue ∈ plannedQueues state snapshot call
        ↔ ∃ events, (allByQueue state snapshot).lookup queue.queueId = some events
          ∧ decideQueue state call.options call.world queue.queueId events = .show queue := by
  unfold plannedQueues queueDecisions
  rw [List.mem_filterMap]
  constructor
  . rintro ⟨decision, hdecision, hshow⟩
    obtain ⟨queueId, hqueue, rfl⟩ := List.mem_map.mp hdecision
    obtain ⟨events, hevents⟩ := (FMap.mem_sortedKeys _).mp hqueue
    dsimp only at hshow
    split at hshow
    . next shown hdecide =>
      cases hshow
      rw [hevents, Option.getD_some] at hdecide
      rw [queueId_of_show hdecide]
      exact ⟨events, hevents, hdecide⟩
    . cases hshow
  . rintro ⟨events, hevents, hdecide⟩
    refine ⟨(queue.queueId, .show queue), ?_, rfl⟩
    rw [List.mem_map]
    refine ⟨queue.queueId, (FMap.mem_sortedKeys _).mpr ⟨events, hevents⟩, ?_⟩
    rw [hevents, Option.getD_some, hdecide]

theorem nodup_plannedQueues : ((plannedQueues state snapshot call).map (·.queueId)).Nodup := by
  have hsub : ((plannedQueues state snapshot call).map (·.queueId)).Sublist
      ((allByQueue state snapshot).sortedKeys Text.le) := by
    unfold plannedQueues queueDecisions
    dsimp only
    induction (allByQueue state snapshot).sortedKeys Text.le with
    | nil => exact List.Sublist.refl _
    | cons queueId queueIds ih =>
      rw [List.map_cons, List.filterMap_cons]
      split
      . exact ih.cons _
      . next queue hqueue =>
        split at hqueue
        . next shown hdecide =>
          cases hqueue
          rw [List.map_cons, queueId_of_show hdecide]
          exact ih.cons_cons _
        . cases hqueue
  exact hsub.nodup (FMap.nodup_sortedKeys _ _)

end Considered

section Claims

variable (queues : FMap String AgentProgressDeliveryCursor) (options : AgentProgressDeliveryPlanOptions)
variable (world : DeliveryWorld)

def acquireAll (nowMs : Int) (claims : SurfaceClaims) (requests : List SurfaceRequest) : SurfaceClaims :=
  requests.foldl (fun claims request => (claims.acquireProgressSurfaceClaim request nowMs).2) claims

def laneRequest (queue : PlannedQueue) (latest : StoredProgressEvent)
    (kind : AgentProgressDeliveryMessageKind)
    : Option SurfaceRequest :=
  match queue.decideLane (queues.lookup queue.queueId) options
      (world.maxNonterminalUpdatesPerLane.getD options.maxNonterminalUpdatesPerLane) latest kind with
  | .claim request => some request
  | _ => none

def queueRequests (queue : PlannedQueue) : List SurfaceRequest :=
  match queue.sorted.getLast? with
  | none => []
  | some latest =>
    if queue.terminal && world.finalSourceDeliveryIsStillPending queue.queueId latest.event then
      []
    else
      (laneRequest queues options world queue latest .body).toList
        ++ (laneRequest queues options world queue latest .status).toList

variable {queue : PlannedQueue} {latest : StoredProgressEvent}
  {kind : AgentProgressDeliveryMessageKind} {request : SurfaceRequest}
  {item : AgentProgressDeliveryPending}

theorem queueId_decideLane {cursor : Option AgentProgressDeliveryCursor} {maxUpdates : Nat}
    (h : queue.decideLane cursor options maxUpdates latest kind = .claim request)
    : request.queueId = queue.queueId := by
  unfold PlannedQueue.decideLane at h
  generalize queue.laneText cursor options maxUpdates kind = text at h
  generalize fnv1a64Hex text = textHash at h
  dsimp only at h
  repeat' split at h
  all_goals injection h
  next h =>
    rw [← h]
    rfl

theorem queueId_laneRequest (h : laneRequest queues options world queue latest kind = some request)
    : request.queueId = queue.queueId := by
  unfold laneRequest at h
  split at h
  . next hdecide =>
    cases h
    exact queueId_decideLane options hdecide
  . cases h

theorem queueId_queueRequests (h : request ∈ queueRequests queues options world queue)
    : request.queueId = queue.queueId := by
  unfold queueRequests at h
  split at h
  . cases h
  . split at h
    . cases h
    . rw [List.mem_append, Option.mem_toList, Option.mem_toList] at h
      cases h with
      | inl hbody => exact queueId_laneRequest queues options world hbody
      | inr hstatus => exact queueId_laneRequest queues options world hstatus

theorem claims_planLane (queue : PlannedQueue) (first latest : StoredProgressEvent)
    (kind : AgentProgressDeliveryMessageKind) (claims : SurfaceClaims)
    : (queue.planLane (queues.lookup queue.queueId) options
          (world.maxNonterminalUpdatesPerLane.getD options.maxNonterminalUpdatesPerLane) first latest kind
          claims).2
        = acquireAll options.nowMs claims (laneRequest queues options world queue latest kind).toList := by
  unfold PlannedQueue.planLane laneRequest
  dsimp only
  cases queue.decideLane (queues.lookup queue.queueId) options
      (world.maxNonterminalUpdatesPerLane.getD options.maxNonterminalUpdatesPerLane) latest kind with
  | skip => rfl
  | edit providerMessageId => rfl
  | claim request =>
    simp only [Option.toList_some, acquireAll, List.foldl_cons, List.foldl_nil]
    split
    . next hacquire => rw [hacquire]
    . next hacquire => rw [hacquire]
    . next hacquire => rw [hacquire]

theorem claims_planQueue (claims : SurfaceClaims) (queue : PlannedQueue)
    : (planQueue queues options world claims queue).2
        = acquireAll options.nowMs claims (queueRequests queues options world queue) := by
  unfold planQueue queueRequests
  cases hlast : queue.sorted.getLast? with
  | none =>
    have hnil : queue.sorted = [] := List.getLast?_eq_none_iff.mp hlast
    rw [hnil]
    rfl
  | some latest =>
    cases hfirst : queue.sorted.head? with
    | none =>
      rw [List.head?_eq_none_iff.mp hfirst] at hlast
      cases hlast
    | some first =>
      dsimp only
      split
      . rfl
      . dsimp only
        rw [claims_planLane, claims_planLane]
        unfold acquireAll
        rw [List.foldl_append]

theorem claims_planQueues (claims : SurfaceClaims) (planned : List PlannedQueue)
    : (planQueues queues options world claims planned).2
        = acquireAll options.nowMs claims (planned.flatMap (queueRequests queues options world)) := by
  induction planned generalizing claims with
  | nil => rfl
  | cons queue planned ih =>
    unfold planQueues
    dsimp only
    rw [ih, claims_planQueue, List.flatMap_cons]
    unfold acquireAll
    rw [List.foldl_append]

theorem planQueues_cons (claims : SurfaceClaims) (queue : PlannedQueue) (rest : List PlannedQueue)
    : planQueues queues options world claims (queue :: rest)
        = ((planQueue queues options world claims queue).1
            ++ (planQueues queues options world (planQueue queues options world claims queue).2 rest).1,
          (planQueues queues options world (planQueue queues options world claims queue).2 rest).2) :=
  rfl

theorem planQueues_append (claims : SurfaceClaims) (before after : List PlannedQueue)
    : (planQueues queues options world claims (before ++ after)).1
        = (planQueues queues options world claims before).1
          ++ (planQueues queues options world
            (planQueues queues options world claims before).2 after).1 := by
  induction before generalizing claims with
  | nil => rfl
  | cons queue before ih =>
    rw [List.cons_append, planQueues_cons, planQueues_cons]
    dsimp only
    rw [ih, List.append_assoc]

theorem queueId_planLane {cursor : Option AgentProgressDeliveryCursor} {maxUpdates : Nat}
    {first : StoredProgressEvent} {claims : SurfaceClaims}
    (h : (queue.planLane cursor options maxUpdates first latest kind claims).1 = some item)
    : item.queueId = queue.queueId := by
  unfold PlannedQueue.planLane at h
  dsimp only at h
  repeat' split at h
  all_goals cases h
  all_goals rfl

theorem queueId_planQueue {claims : SurfaceClaims}
    (h : item ∈ (planQueue queues options world claims queue).1)
    : item.queueId = queue.queueId := by
  unfold planQueue at h
  dsimp only at h
  split at h
  . split at h
    . cases h
    . rw [List.mem_append, Option.mem_toList, Option.mem_toList] at h
      cases h with
      | inl hbody => exact queueId_planLane options hbody
      | inr hstatus => exact queueId_planLane options hstatus
  . cases h

theorem queueId_planQueues {claims : SurfaceClaims} {planned : List PlannedQueue}
    (h : item ∈ (planQueues queues options world claims planned).1)
    : item.queueId ∈ planned.map (·.queueId) := by
  induction planned generalizing claims with
  | nil => cases h
  | cons queue planned ih =>
    unfold planQueues at h
    dsimp only at h
    rw [List.mem_append] at h
    rw [List.map_cons, List.mem_cons]
    cases h with
    | inl hfirst => exact .inl (queueId_planQueue queues options world hfirst)
    | inr hrest => exact .inr (ih hrest)

theorem exists_item_iff {claims : SurfaceClaims} {before after : List PlannedQueue}
    (hnodup : ((before ++ queue :: after).map (·.queueId)).Nodup)
    : (∃ item ∈ (planQueues queues options world claims (before ++ queue :: after)).1,
          item.queueId = queue.queueId)
        ↔ (planQueue queues options world
            (acquireAll options.nowMs claims (before.flatMap (queueRequests queues options world)))
            queue).1 ≠ [] := by
  rw [List.map_append, List.map_cons, List.nodup_append] at hnodup
  obtain ⟨-, hrest, hdisjoint⟩ := hnodup
  rw [List.nodup_cons] at hrest
  rw [planQueues_append, planQueues_cons, claims_planQueues]
  dsimp only
  constructor
  . rintro ⟨item, hitem, hqueue⟩
    rw [List.mem_append, List.mem_append] at hitem
    obtain hbefore | hown | hafter := hitem
    . have hmem := queueId_planQueues queues options world hbefore
      exact absurd hqueue (hdisjoint _ hmem _ List.mem_cons_self)
    . exact List.ne_nil_of_mem hown
    . have hmem := queueId_planQueues queues options world hafter
      rw [hqueue] at hmem
      exact absurd hmem hrest.1
  . intro hne
    obtain ⟨item, hitem⟩ := List.exists_mem_of_ne_nil _ hne
    refine ⟨item, ?_, queueId_planQueue queues options world hitem⟩
    rw [List.mem_append, List.mem_append]
    exact .inr (.inl hitem)

end Claims

section Held

variable {nowMs : Int} {claims : SurfaceClaims}

structure Held (nowMs : Int) (claims : SurfaceClaims) (file statusSurfaceKey : String)
    (queueIds : List String)
    : Prop where
  claim : ∃ existing, claims.lookup file = some existing
    ∧ existing.statusSurfaceKey = statusSurfaceKey
    ∧ existing.providerMessageId = none
    ∧ existing.expiresAtMs = saturateI64 (nowMs + progressSurfaceClaimTtlMs)
    ∧ existing.queueId ∈ queueIds

variable {request : SurfaceRequest} {file : String}

theorem lookup_acquire_ne (h : file ≠ progressSurfaceClaimFile request.statusSurfaceKey)
    : (claims.acquireProgressSurfaceClaim request nowMs).2.lookup file = claims.lookup file := by
  unfold SurfaceClaims.acquireProgressSurfaceClaim
  dsimp only
  repeat' split
  all_goals first
    | rfl
    | exact AList.lookup_insert_ne h

theorem held_acquire_free
    (h : claims.lookup (progressSurfaceClaimFile request.statusSurfaceKey) = none)
    : Held nowMs (claims.acquireProgressSurfaceClaim request nowMs).2
        (progressSurfaceClaimFile request.statusSurfaceKey) request.statusSurfaceKey
        [request.queueId] := by
  unfold SurfaceClaims.acquireProgressSurfaceClaim
  simp only [h]
  exact ⟨_, AList.lookup_insert _, rfl, rfl, rfl, by simp [progressSurfaceClaimFromEvent]⟩

theorem held_acquire {statusSurfaceKey : String} {queueIds : List String}
    (h : Held nowMs claims file statusSurfaceKey queueIds)
    : Held nowMs (claims.acquireProgressSurfaceClaim request nowMs).2 file statusSurfaceKey
        (queueIds ++ [request.queueId]) := by
  obtain ⟨existing, hlookup, hkey, hprovider, hexpires, hqueue⟩ := h.claim
  have hsame : Held nowMs claims file statusSurfaceKey (queueIds ++ [request.queueId]) :=
    ⟨existing, hlookup, hkey, hprovider, hexpires, List.mem_append_left _ hqueue⟩
  by_cases hfile : file = progressSurfaceClaimFile request.statusSurfaceKey
  . subst hfile
    have hclaimed : request.statusSurfaceKey = statusSurfaceKey →
        Held nowMs (claims.insert (progressSurfaceClaimFile request.statusSurfaceKey)
            (progressSurfaceClaimFromEvent request nowMs))
          (progressSurfaceClaimFile request.statusSurfaceKey) statusSurfaceKey
          (queueIds ++ [request.queueId]) := by
      intro hrequest
      exact ⟨_, AList.lookup_insert _, hrequest, rfl, rfl, by simp [progressSurfaceClaimFromEvent]⟩
    unfold SurfaceClaims.acquireProgressSurfaceClaim
    simp only [hlookup, hprovider, Option.filter_none]
    split
    . exact hsame
    . next hmatch =>
      rw [not_not, hkey] at hmatch
      split
      . exact hclaimed hmatch.symm
      . split
        . exact hclaimed hmatch.symm
        . exact hsame
  . refine ⟨existing, ?_, hkey, hprovider, hexpires, List.mem_append_left _ hqueue⟩
    rw [lookup_acquire_ne hfile]
    exact hlookup

def asksFor (file : String) (request : SurfaceRequest) : Bool :=
  progressSurfaceClaimFile request.statusSurfaceKey = file

theorem held_acquireAll (hfree : claims.lookup file = none) (requests : List SurfaceRequest)
    : match requests.find? (asksFor file) with
      | none => (acquireAll nowMs claims requests).lookup file = none
      | some first => Held nowMs (acquireAll nowMs claims requests) file first.statusSurfaceKey
          (requests.map (·.queueId)) := by
  induction requests using List.reverseRecOn with
  | nil => exact hfree
  | append_singleton requests request ih =>
    have hacquire : acquireAll nowMs claims (requests ++ [request])
        = ((acquireAll nowMs claims requests).acquireProgressSurfaceClaim request nowMs).2 := by
      unfold acquireAll
      rw [List.foldl_append]
      rfl
    rw [hacquire, List.find?_append]
    cases hfirst : requests.find? (asksFor file) with
    | some first =>
      rw [hfirst] at ih
      rw [Option.some_or, List.map_append]
      exact held_acquire ih
    | none =>
      rw [hfirst] at ih
      rw [Option.none_or, List.find?_singleton]
      split
      . next other hother =>
        split at hother
        . cases hother
        . next hasks =>
          have hne : file ≠ progressSurfaceClaimFile request.statusSurfaceKey := by
            intro heq
            exact hasks (decide_eq_true heq.symm)
          rw [lookup_acquire_ne hne]
          exact ih
      . next first hother =>
        split at hother
        . next hasks =>
          cases hother
          have hfile : progressSurfaceClaimFile request.statusSurfaceKey = file :=
            of_decide_eq_true hasks
          rw [← hfile] at ih ⊢
          obtain ⟨existing, hlookup, hkey, hprovider, hexpires, hqueue⟩ := (held_acquire_free ih).claim
          refine ⟨existing, hlookup, hkey, hprovider, hexpires, ?_⟩
          rw [List.map_append]
          exact List.mem_append_right _ hqueue
        . cases hother

/-
Whether a lane gets the file of its surface in a call: no earlier lane asks for the file, or the first one that
does asks for this surface and its claim is over at once.
-/
def Free (nowMs : Int) (earlier : List SurfaceRequest) (statusSurfaceKey : String) : Prop :=
  ∀ first, earlier.find? (asksFor (progressSurfaceClaimFile statusSurfaceKey)) = some first →
    first.statusSurfaceKey = statusSurfaceKey
      ∧ saturateI64 (nowMs + progressSurfaceClaimTtlMs) ≤ nowMs
      ∧ 0 < saturateI64 (nowMs + progressSurfaceClaimTtlMs)

theorem acquire_iff_free {earlier : List SurfaceRequest}
    (hfree : claims.lookup (progressSurfaceClaimFile request.statusSurfaceKey) = none)
    (hqueue : request.queueId ∉ earlier.map (·.queueId))
    : ((acquireAll nowMs claims earlier).acquireProgressSurfaceClaim request nowMs).1 ≠ .activePending
        ↔ Free nowMs earlier request.statusSurfaceKey := by
  have hheld := @held_acquireAll nowMs claims _ hfree earlier
  unfold Free
  split at hheld
  . next hnone =>
    unfold SurfaceClaims.acquireProgressSurfaceClaim
    simp only [hnone, hheld]
    simp
  . next first hfirst =>
    obtain ⟨existing, hlookup, hkey, hprovider, hexpires, hother⟩ := hheld.claim
    have hne : existing.queueId ≠ request.queueId := fun heq => hqueue (heq ▸ hother)
    unfold SurfaceClaims.acquireProgressSurfaceClaim
    simp only [hfirst, hlookup, hprovider, Option.filter_none, progressSurfaceClaimExpired, hexpires,
      Option.isNone_none, Bool.true_and]
    constructor
    . intro hclaimed other hother
      cases hother
      split at hclaimed
      . exact absurd rfl hclaimed
      . next hmatch =>
        rw [not_not, hkey] at hmatch
        split at hclaimed
        . next hexpired =>
          rw [Bool.and_eq_true, decide_eq_true_eq, decide_eq_true_eq] at hexpired
          exact ⟨hmatch, hexpired.2, hexpired.1⟩
        . exact absurd rfl hclaimed
    . intro hall
      obtain ⟨hmatch, hexpired, hpositive⟩ := hall first rfl
      rw [if_neg (by rw [not_not, hkey]; exact hmatch), if_pos (by simp [hexpired, hpositive])]
      simp

end Held

section Fresh

variable {json : HistoryJson} {home : DeliveryHome} {call : PlanCall} {index : ProgressEventIndex}

def planSnapshot (json : HistoryJson) (home : DeliveryHome) (call : PlanCall)
    (index : ProgressEventIndex)
    : DeliverySnapshot :=
  let state := home.delivery.trimmed call.options
  (index.readProgressEventDeliverySnapshot json.toProgressJson state.knownQueueIds
    state.ledger).toOption.getD { events := ∅, reset := false }

def planQueueList (json : HistoryJson) (home : DeliveryHome) (call : PlanCall)
    (index : ProgressEventIndex)
    : List PlannedQueue :=
  plannedQueues (home.delivery.trimmed call.options) (planSnapshot json home call index) call

def planState (json : HistoryJson) (home : DeliveryHome) (call : PlanCall) (index : ProgressEventIndex)
    : AgentProgressDeliveryState :=
  plannedState (home.delivery.trimmed call.options) (planSnapshot json home call index) call index

def planClaims (json : HistoryJson) (home : DeliveryHome) (call : PlanCall) (index : ProgressEventIndex)
    : SurfaceClaims :=
  claimsWithoutControlled (home.delivery.trimmed call.options) (planSnapshot json home call index) call
    home.claims

structure FreshPlan (json : HistoryJson) (home : DeliveryHome) (call : PlanCall)
    (index : ProgressEventIndex)
    : Prop where
  pending : home.planned json call = .ok (planQueues (planState json home call index).queues call.options
    call.world (planClaims json home call index) (planQueueList json home call index)).1
  delivery : (home.step json (.plan call)).delivery = planState json home call index
  claims : (home.step json (.plan call)).claims
    = (planQueues (planState json home call index).queues call.options call.world
      (planClaims json home call index) (planQueueList json home call index)).2
  files : (home.step json (.plan call)).files
    = { recovered home.files with index }
  sound : IndexSound json.toProgressJson index
  reset : (planSnapshot json home call index).reset = index.snapshotReset home.delivery.ledger
  events : ∀ queueId,
    (planSnapshot json home call index).events.lookup queueId
        = some (queueEvents json.toProgressJson index queueId)
      ∧ queueId ∈ queueIds index.rows
      ∧ Selected index (home.delivery.trimmed call.options).knownQueueIds home.delivery.ledger queueId
    ∨ (planSnapshot json home call index).events.lookup queueId = none
      ∧ ¬(queueId ∈ queueIds index.rows
        ∧ Selected index (home.delivery.trimmed call.options).knownQueueIds home.delivery.ledger queueId)

theorem ledger_trimmed (state : AgentProgressDeliveryState) (options : AgentProgressDeliveryPlanOptions)
    : (state.trimmed options).ledger = state.ledger := by
  unfold AgentProgressDeliveryState.trimmed
    AgentProgressDeliveryState.boundLegacyCompactedProgressState
    AgentProgressDeliveryState.pruneOldTerminalDeliveryState
  dsimp only
  split
  . rfl
  . rfl

theorem freshPlan_of_freshIndex (hsound : IndexSound json.toProgressJson home.files.index)
    (h : home.freshIndex json call = some index)
    : FreshPlan json home call index := by
  unfold DeliveryHome.freshIndex at h
  dsimp only at h
  split at h
  . cases h
  . next hbusy =>
    split at h
    . next hrecovered =>
      split at h
      . next found hfound =>
        cases h
        have hindex := indexSound_lookup (indexSound_finish _ hsound) hfound
        obtain ⟨snapshot, hsnapshot, hreset, hevents⟩ := exists_snapshot hindex
          (home.delivery.trimmed call.options).knownQueueIds (home.delivery.trimmed call.options).ledger
        have hsame : planSnapshot json home call index = snapshot := by
          unfold planSnapshot
          dsimp only
          rw [hsnapshot]
          rfl
        have hbusyFalse : call.world.busy = false := by
          simpa using hbusy
        have hplan : home.planAgentProgressDelivery json call
            = (.ok (planQueues (planState json home call index).queues call.options call.world
                (planClaims json home call index) (planQueueList json home call index)).1,
              { files := { recovered home.files with index }
                delivery := planState json home call index
                claims := (planQueues (planState json home call index).queues call.options call.world
                  (planClaims json home call index) (planQueueList json home call index)).2 }) := by
          unfold DeliveryHome.planAgentProgressDelivery
          rw [if_neg hbusy]
          dsimp only
          rw [if_pos hrecovered]
          unfold DeliveryHome.planRecovered
          dsimp only
          rw [hbusyFalse, hfound]
          dsimp only
          rw [hsnapshot]
          unfold planQueueList planState planClaims
          rw [hsame]
          rfl
        refine ⟨?_, ?_, ?_, ?_, hindex, ?_, ?_⟩
        . unfold DeliveryHome.planned
          rw [hplan]
        . unfold DeliveryHome.step
          dsimp only
          rw [hplan]
        . unfold DeliveryHome.step
          dsimp only
          rw [hplan]
        . unfold DeliveryHome.step
          dsimp only
          rw [hplan]
        . rw [hsame, hreset, ledger_trimmed]
        . rw [hsame]
          rw [ledger_trimmed] at hevents
          exact hevents
      . cases h
    . cases h

end Fresh

end AgentProgress
