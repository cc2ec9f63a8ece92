import AgentHarness.AgentProgress.Delivery
import AgentHarness.AgentProgress.Lemmas.HistoryUnblocked
import AgentHarness.AgentProgress.Lemmas.EventTail

/-!
The runs of the progress delivery: events are appended and compacted, and the dispatchers plan, record and
release.
-/

namespace AgentProgress

open ChannelDelivery (LedgerFile)

inductive DeliveryAction where
  | append (bytes : List UInt8) (modifiedAtUnixNanos : Nat)
  | compact (call : CompactionCall)
  | plan (call : PlanCall)
  | record (call : RecordCall)
  | release (statusSurfaceKey queueId : String)

namespace DeliveryHome

variable (json : HistoryJson)

def start (events : Option LedgerFile) : DeliveryHome where
  files := { events }

def step (self : DeliveryHome) (action : DeliveryAction) : DeliveryHome :=
  match action with
  | .append bytes modifiedAtUnixNanos =>
    { self with files := historyStep json self.files (.append bytes modifiedAtUnixNanos) }
  | .compact call => { self with files := historyStep json self.files (.compact call) }
  | .plan call => (self.planAgentProgressDelivery json call).2
  | .record call => (self.recordAgentProgressDelivery json call).2
  | .release statusSurfaceKey queueId =>
    self.releaseAgentProgressSurfaceClaim statusSurfaceKey queueId

def planned (self : DeliveryHome) (call : PlanCall)
    : Except IoError (List AgentProgressDeliveryPending) :=
  (self.planAgentProgressDelivery json call).1

def freshIndex (self : DeliveryHome) (call : PlanCall) : Option ProgressEventIndex :=
  if call.world.busy then
    none
  else
    let script := recoverProgressHistoryCompactionIfNeeded
    if script.succeeds HistoryOp.apply self.files then
      match currentOrLastCommittedIndex json (script.finish HistoryOp.apply self.files) false with
      | .ok (index, true) => some index
      | _ => none
    else
      none

end DeliveryHome

end AgentProgress

/-!
Which queues a plan takes from a fresh index, and with which events.
-/

namespace AgentProgress

open ProgressEventIndex
open ChannelDelivery (LedgerFile rawLines)

section Sound

variable (json : ProgressJson)

def RowSound (row : ProgressEventRow) : Prop :=
  Text.trim row.queueId ≠ ""
    ∧ ∃ event, json.event row.eventJson = .ok event ∧ event.queueId = row.queueId

def IndexSound (index : ProgressEventIndex) : Prop :=
  ∀ row ∈ index.rows, RowSound json row

variable {json}

theorem indexSound_empty : IndexSound json {} := by
  intro row hrow
  cases hrow

theorem rowSound_insert {trimmed : String} {event : AgentProgressEvent}
    (h : lineEvent json trimmed = some event) (lineNumber : Nat)
    : RowSound json (insertProgressEvent lineNumber trimmed event) := by
  unfold lineEvent at h
  split at h
  . cases h
  . split at h
    . cases h
    . next hparse =>
      split at h
      . cases h
      . next hqueue =>
        cases h
        exact ⟨hqueue, event, hparse, rfl⟩

theorem sound_readProgressEvents {raws : List (List UInt8)} {offsetBytes lineNumber : Nat} {read : Read}
    (h : readProgressEvents json offsetBytes lineNumber raws = .ok read)
    : ∀ row ∈ read.rows, RowSound json row := by
  induction raws generalizing offsetBytes lineNumber read with
  | nil =>
    obtain rfl := Except.ok.inj h
    intro row hrow
    cases hrow
  | cons raw raws ih =>
    rw [readProgressEvents, Except.bind_eq_ok] at h
    obtain ⟨line, -, h⟩ := h
    dsimp only at h
    split at h
    . obtain rfl := Except.ok.inj h
      intro row hrow
      cases hrow
    . rw [Except.bind_eq_ok] at h
      obtain ⟨rest, hrest, h⟩ := h
      have hsound := ih hrest
      obtain rfl := Except.ok.inj h
      cases hevent : lineEvent json (Text.trim line) with
      | none => simpa only [hevent] using hsound
      | some event =>
        simp only [List.forall_mem_cons]
        exact ⟨rowSound_insert hevent _, hsound⟩

theorem sound_readFromCursor {index gathered : ProgressEventIndex} {file : LedgerFile}
    {cursor : ProgressEventLedgerCursor} (hindex : IndexSound json index)
    (h : index.readProgressEventsFromCursor json file cursor = .ok gathered)
    : IndexSound json gathered := by
  unfold readProgressEventsFromCursor at h
  dsimp only at h
  rw [Except.bind_eq_ok] at h
  obtain ⟨read, hread, h⟩ := h
  obtain rfl := Except.ok.inj h
  intro row hrow
  rw [List.mem_append] at hrow
  cases hrow with
  | inl hold => exact hindex row hold
  | inr hnew => exact sound_readProgressEvents hread row hnew

theorem sound_gather {index gathered : ProgressEventIndex} {file : LedgerFile}
    (hindex : IndexSound json index) (h : index.gather json file = .ok gathered)
    : IndexSound json gathered := by
  unfold gather at h
  split at h
  . obtain rfl := Except.ok.inj h
    exact hindex
  . exact sound_readFromCursor hindex h
  . exact sound_readFromCursor indexSound_empty h

theorem sound_refresh {limits : RetentionLimits} {index next : ProgressEventIndex}
    {events : Option LedgerFile} (hindex : IndexSound json index)
    (h : index.refreshProgressEventIndexLocked json limits events = .ok next)
    : IndexSound json next := by
  unfold refreshProgressEventIndexLocked at h
  split at h
  . split at h
    . obtain rfl := Except.ok.inj h
      exact indexSound_empty
    . obtain rfl := Except.ok.inj h
      exact hindex
  . split at h
    . obtain rfl := Except.ok.inj h
      exact hindex
    . rw [Except.bind_eq_ok] at h
      obtain ⟨gathered, hgather, h⟩ := h
      rw [Except.bind_eq_ok] at h
      obtain ⟨rows, hretain, h⟩ := h
      obtain rfl := Except.ok.inj h
      rw [retain_eq_ok] at hretain
      intro row hrow
      rw [hretain.2] at hrow
      exact sound_gather hindex hgather row (List.mem_filter.mp hrow).1

end Sound

section Runs

variable {json : HistoryJson} {home : DeliveryHome}

theorem index_apply {op : HistoryOp} {files next : HistoryFiles} (h : op.apply files = some next)
    : next.index = files.index ∨ next.index = {} := by
  cases op
  all_goals simp only [HistoryOp.apply] at h
  all_goals repeat' split at h
  all_goals cases h
  all_goals simp

theorem indexSound_finish (script : HistoryScript) {files : HistoryFiles}
    (h : IndexSound json.toProgressJson files.index)
    : IndexSound json.toProgressJson (script.finish HistoryOp.apply files).index := by
  refine @Script.finish_invariant _ _ HistoryOp.apply
    (fun files => IndexSound json.toProgressJson files.index) ?_ script files h
  intro op files next hop hsound
  cases index_apply hop with
  | inl hsame =>
    rw [hsame]
    exact hsound
  | inr hempty =>
    rw [hempty]
    exact indexSound_empty

theorem indexSound_history (h : IndexSound json.toProgressJson home.files.index)
    (action : HistoryAction)
    : IndexSound json.toProgressJson (historyStep json home.files action).index := by
  unfold historyStep
  cases action with
  | append bytes modifiedAtUnixNanos =>
    dsimp only
    split
    . exact indexSound_finish _ h
    . exact indexSound_finish _ h
  | compact call => exact indexSound_finish _ h

theorem indexSound_lookup {files : HistoryFiles} {busy fresh : Bool} {index : ProgressEventIndex}
    (h : IndexSound json.toProgressJson files.index)
    (hindex : currentOrLastCommittedIndex json files busy = .ok (index, fresh))
    : IndexSound json.toProgressJson index := by
  unfold currentOrLastCommittedIndex at hindex
  split at hindex
  . cases hindex
    exact h
  . split at hindex
    . next hrefresh =>
      cases hindex
      exact sound_refresh h hrefresh
    . split at hindex
      . cases hindex
        exact h
      . cases hindex

theorem indexSound_planRecovered (h : IndexSound json.toProgressJson home.files.index) (call : PlanCall)
    : IndexSound json.toProgressJson (home.planRecovered json call).2.files.index := by
  unfold DeliveryHome.planRecovered
  dsimp only
  split
  . exact h
  . exact h
  . next hindex =>
    have hsound := indexSound_lookup h hindex
    split
    . exact hsound
    . exact hsound

theorem indexSound_step (h : IndexSound json.toProgressJson home.files.index) (action : DeliveryAction)
    : IndexSound json.toProgressJson (home.step json action).files.index := by
  unfold DeliveryHome.step
  cases action with
  | append bytes modifiedAtUnixNanos => exact indexSound_history h _
  | compact call => exact indexSound_history h _
  | release statusSurfaceKey queueId => exact h
  | plan call =>
    dsimp only
    unfold DeliveryHome.planAgentProgressDelivery
    split
    . exact indexSound_planRecovered h call
    . dsimp only
      split
      . exact indexSound_planRecovered (indexSound_finish _ h) call
      . exact indexSound_finish _ h
  | record call =>
    dsimp only
    unfold DeliveryHome.recordAgentProgressDelivery DeliveryHome.recordIndex
    split
    . exact h
    . next index fresh hindex =>
      have hsound : IndexSound json.toProgressJson index := by
        split at hindex
        . cases hindex
          exact h
        . exact indexSound_lookup h hindex
      dsimp only
      split
      . exact hsound
      . split
        . exact hsound
        . exact hsound

end Runs

section Snapshot

variable {json : ProgressJson} {index : ProgressEventIndex}

def queueEvents (json : ProgressJson) (index : ProgressEventIndex) (queueId : String)
    : List StoredProgressEvent :=
  (index.indexedEventsForQueue json queueId).toOption.getD []

def sortByLine (events : List StoredProgressEvent) : List StoredProgressEvent :=
  events.insertionSort fun left right => left.lineNumber ≤ right.lineNumber

/-
A queue of the index that a plan looks up: one it knows, one with an event behind the line it has read, or any
where the line is not of this index.
-/
def Selected (index : ProgressEventIndex) (knownQueueIds : List String)
    (after : AgentProgressDeliveryLedgerCursor) (queueId : String)
    : Prop :=
  queueId ∈ knownQueueIds
    ∨ after.indexProjectionGeneration = 0
    ∨ index.snapshotReset after = true
    ∨ after.lineNumber < latestLine index.rows queueId

theorem find?_map_key {β : Type} (value : String → β) {keys : List String} {key : String}
    (h : key ∈ keys)
    : (keys.map fun key => (key, value key)).find? (·.1 = key) = some (key, value key) := by
  induction keys with
  | nil => cases h
  | cons other keys ih =>
    rw [List.map_cons, List.find?_cons]
    by_cases hkey : other = key
    . simp [hkey]
    . have hrest : key ∈ keys := by
        simpa [Ne.symm hkey] using h
      simpa [hkey] using ih hrest

theorem indexedEvent_eq_ok {row : ProgressEventRow} (h : RowSound json row)
    : ∃ stored, indexedEvent json row = .ok stored ∧ stored.lineNumber = row.lineNumber
      ∧ stored.event.queueId = row.queueId := by
  obtain ⟨-, event, hparse, hqueue⟩ := h
  refine ⟨{ lineNumber := row.lineNumber, event }, ?_, rfl, hqueue⟩
  unfold indexedEvent
  rw [hparse]

theorem exists_indexedEvents {rows : List ProgressEventRow} (h : ∀ row ∈ rows, RowSound json row)
    : ∃ events, rows.mapM (indexedEvent json) = .ok events
      ∧ events.map (·.lineNumber) = rows.map (·.lineNumber)
      ∧ events.map (·.event.queueId) = rows.map (·.queueId) := by
  induction rows with
  | nil => exact ⟨[], rfl, rfl, rfl⟩
  | cons row rows ih =>
    rw [List.forall_mem_cons] at h
    obtain ⟨stored, hstored, hline, hqueue⟩ := indexedEvent_eq_ok h.1
    obtain ⟨events, hevents, hlines, hqueues⟩ := ih h.2
    refine ⟨stored :: events, ?_, ?_, ?_⟩
    . rw [List.mapM_cons, hstored, hevents]
      rfl
    . simp [hline, hlines]
    . simp [hqueue, hqueues]

variable (h : IndexSound json index)
include h

theorem queueEvents_spec (queueId : String)
    : index.indexedEventsForQueue json queueId = .ok (queueEvents json index queueId)
      ∧ (queueEvents json index queueId).map (·.lineNumber)
        = (partition index.rows queueId).map (·.lineNumber)
      ∧ ∀ stored ∈ queueEvents json index queueId, stored.event.queueId = queueId := by
  have hrows : ∀ row ∈ partition index.rows queueId, RowSound json row := by
    intro row hrow
    exact h row (mem_partition.mp hrow).1
  obtain ⟨events, hevents, hlines, hqueues⟩ := exists_indexedEvents hrows
  have hsame : queueEvents json index queueId = events := by
    unfold queueEvents indexedEventsForQueue
    rw [hevents]
    rfl
  rw [hsame]
  refine ⟨hevents, hlines, ?_⟩
  intro stored hstored
  have hmem := List.mem_map_of_mem (f := fun stored : StoredProgressEvent => stored.event.queueId) hstored
  rw [hqueues, List.mem_map] at hmem
  obtain ⟨row, hrow, hqueue⟩ := hmem
  rw [← hqueue]
  exact (mem_partition.mp hrow).2

theorem queueEvents_ne_nil {queueId : String}
    : queueEvents json index queueId ≠ [] ↔ queueId ∈ queueIds index.rows := by
  have hlines := (queueEvents_spec h queueId).2.1
  rw [mem_queueIds]
  constructor
  . intro hne
    cases hrows : partition index.rows queueId with
    | nil =>
      rw [hrows] at hlines
      exact absurd (List.map_eq_nil_iff.mp hlines) hne
    | cons row rows =>
      have hrow : row ∈ partition index.rows queueId := by simp [hrows]
      exact ⟨row, mem_partition.mp hrow⟩
  . rintro ⟨row, hrow⟩ hnil
    rw [hnil] at hlines
    have hmem := mem_partition.mpr hrow
    rw [List.map_eq_nil_iff.mp hlines.symm] at hmem
    cases hmem

theorem nonblank_of_mem {queueId : String} (hqueue : queueId ∈ queueIds index.rows)
    : Text.trim queueId ≠ "" := by
  obtain ⟨row, hrow, hqueue⟩ := mem_queueIds.mp hqueue
  rw [← hqueue]
  exact (h row hrow).1

theorem mem_snapshotQueueIds {knownQueueIds : List String} {after : AgentProgressDeliveryLedgerCursor}
    {delta : List StoredProgressEvent} {queueId : String}
    (hdelta : index.indexedEventsAfterLine json (index.effectiveAfterLine after) = .ok delta)
    (hqueue : queueId ∈ queueIds index.rows)
    : queueId ∈ index.snapshotQueueIds knownQueueIds after delta
        ↔ Selected index knownQueueIds after queueId := by
  have hrows : ∀ row ∈ index.rows.filter (index.effectiveAfterLine after < ·.lineNumber),
      RowSound json row := by
    intro row hrow
    exact h row (List.mem_filter.mp hrow).1
  obtain ⟨events, hevents, -, hqueues⟩ := exists_indexedEvents hrows
  have hsame : delta = events := by
    unfold indexedEventsAfterLine at hdelta
    rw [hevents] at hdelta
    exact (Except.ok.inj hdelta).symm
  have hnew : queueId ∈ delta.map (·.event.queueId)
      ↔ index.effectiveAfterLine after < latestLine index.rows queueId := by
    rw [hsame, hqueues, ← not_iff_not, Nat.not_lt, latestLine_le]
    simp only [List.mem_map, List.mem_filter, decide_eq_true_eq, not_exists, not_and, and_imp]
    constructor
    . intro hnone row hrow hrowQueue
      by_contra hline
      exact hnone row hrow (Nat.lt_of_not_le hline) hrowQueue
    . intro hle row hrow hline hrowQueue
      have := hle row hrow hrowQueue
      omega
  unfold snapshotQueueIds Selected
  dsimp only
  rw [List.mem_filter, List.mem_append, List.mem_append, hnew, or_assoc]
  simp only [nonblank_of_mem h hqueue, ne_eq, not_false_eq_true, decide_true, and_true]
  unfold effectiveAfterLine
  by_cases hreset : index.snapshotReset after = true
  . simp [hreset, hqueue]
  . by_cases hgeneration : after.indexProjectionGeneration = 0
    . simp [hgeneration, hqueue]
    . simp [hreset, hgeneration]

theorem exists_snapshot (knownQueueIds : List String) (after : AgentProgressDeliveryLedgerCursor)
    : ∃ snapshot, index.readProgressEventDeliverySnapshot json knownQueueIds after = .ok snapshot
      ∧ snapshot.reset = index.snapshotReset after
      ∧ ∀ queueId, snapshot.events.lookup queueId = some (queueEvents json index queueId)
          ∧ queueId ∈ queueIds index.rows ∧ Selected index knownQueueIds after queueId
        ∨ snapshot.events.lookup queueId = none
          ∧ ¬(queueId ∈ queueIds index.rows ∧ Selected index knownQueueIds after queueId) := by
  have hrows : ∀ row ∈ index.rows.filter (index.effectiveAfterLine after < ·.lineNumber),
      RowSound json row := by
    intro row hrow
    exact h row (List.mem_filter.mp hrow).1
  obtain ⟨delta, hdelta, -⟩ := exists_indexedEvents hrows
  have hfound : (index.snapshotQueueIds knownQueueIds after delta).mapM (fun queueId => do
      return (queueId, ← index.indexedEventsForQueue json queueId))
      = .ok ((index.snapshotQueueIds knownQueueIds after delta).map fun queueId =>
        (queueId, queueEvents json index queueId)) := by
    rw [Except.mapM_eq_ok, List.forall₂_map_right_iff, List.forall₂_same]
    intro queueId _
    rw [(queueEvents_spec h queueId).1]
    rfl
  let keys := index.snapshotQueueIds knownQueueIds after delta
  let found := keys.map fun queueId => (queueId, queueEvents json index queueId)
  refine ⟨{
    events := FMap.ofKeys keys fun queueId =>
      ((found.find? (·.1 = queueId)).map (·.2)).filter (· ≠ [])
    reset := index.snapshotReset after }, ?_, rfl, ?_⟩
  . unfold readProgressEventDeliverySnapshot indexedEventsForQueueIds
    rw [show index.indexedEventsAfterLine json _ = .ok delta from hdelta, Except.bind_eq_ok]
    refine ⟨delta, rfl, ?_⟩
    dsimp only
    rw [hfound]
    rfl
  . intro queueId
    dsimp only
    rw [FMap.lookup_ofKeys]
    by_cases hmem : queueId ∈ keys
    . rw [if_pos hmem, find?_map_key _ hmem, Option.map_some, Option.filter_some]
      by_cases hqueue : queueId ∈ queueIds index.rows
      . left
        have hselected := (mem_snapshotQueueIds h hdelta hqueue).mp hmem
        simp [(queueEvents_ne_nil h).mpr hqueue, hqueue, hselected]
      . right
        have hnil : queueEvents json index queueId = [] := by
          by_contra hne
          exact hqueue ((queueEvents_ne_nil h).mp hne)
        simp [hnil, hqueue]
    . right
      rw [if_neg hmem]
      refine ⟨rfl, ?_⟩
      rintro ⟨hqueue, hselected⟩
      exact hmem ((mem_snapshotQueueIds h hdelta hqueue).mpr hselected)

end Snapshot

end AgentProgress
