import AgentHarness.AgentProgress.History
import AgentHarness.ChannelDelivery.Lemmas.Tail
import Mathlib.Data.List.Dedup

/-!
What a compaction moves: whole queues of the hot ledger.
-/

namespace AgentProgress

open ChannelDelivery (LedgerFile rawLines)

theorem rawLines_line {line : List UInt8} (h : TextFile.newline ∉ line)
    : rawLines (line ++ [TextFile.newline]) = [line ++ [TextFile.newline]] := by
  unfold rawLines
  rw [ChannelDelivery.rawLines_go_skip [] h]
  simp [rawLines.go]

theorem rawLines_go_sublist {line bytes : List UInt8} (hline : TextFile.newline ∉ line)
    {some : List (List UInt8)} (h : some.Sublist (rawLines.go line bytes))
    : rawLines some.flatten = some := by
  induction bytes generalizing line some with
  | nil =>
    rw [ChannelDelivery.rawLines_go_torn line List.not_mem_nil, List.append_nil] at h
    split at h
    . rw [List.sublist_nil.mp h]
      rfl
    . next hne =>
      rw [List.sublist_singleton] at h
      cases h with
      | inl hnil =>
        rw [hnil]
        rfl
      | inr hone =>
        rw [hone, List.flatten_singleton, ChannelDelivery.rawLines_torn hline, if_neg hne]
  | cons byte rest ih =>
    rw [rawLines.go] at h
    split at h
    . next hbyte =>
      rw [hbyte] at h
      cases h with
      | cons _ hrest => exact ih List.not_mem_nil hrest
      | cons_cons _ hrest =>
        rw [List.flatten_cons, ChannelDelivery.rawLines_append (ChannelDelivery.closed_concat line),
          rawLines_line hline, ih List.not_mem_nil hrest]
        rfl
    . next hbyte =>
      refine ih ?_ h
      simp [hline, Ne.symm hbyte]

theorem rawLines_flatten_of_sublist {bytes : List UInt8} {some : List (List UInt8)}
    (h : some.Sublist (rawLines bytes))
    : rawLines some.flatten = some :=
  rawLines_go_sublist List.not_mem_nil h

theorem rawLines_ne_nil {bytes raw : List UInt8} (h : raw ∈ rawLines bytes) : raw ≠ [] := by
  intro hnil
  have hone := rawLines_flatten_of_sublist (List.singleton_sublist.mpr h)
  rw [hnil] at hone
  cases hone

theorem flatMap_filter_perm {α : Type} {key : α → String} {keys : List String} (h : keys.Nodup)
    (l : List α)
    : (keys.flatMap fun k => l.filter (key · = k)).Perm (l.filter (key · ∈ keys)) := by
  induction keys with
  | nil => simp
  | cons k keys ih =>
    rw [List.nodup_cons] at h
    rw [List.flatMap_cons]
    have hsplit := List.filter_append_perm (fun a => decide (key a = k)) (l.filter (key · ∈ k :: keys))
    rw [List.filter_filter, List.filter_filter] at hsplit
    refine List.Perm.trans ?_ hsplit
    apply List.Perm.append
    . apply List.Perm.of_eq
      apply List.filter_congr
      intro a _
      simp only [List.mem_cons]
      by_cases hk : key a = k <;> simp [hk]
    . refine (ih h.2).trans (List.Perm.of_eq ?_)
      apply List.filter_congr
      intro a _
      by_cases hk : key a = k
      . simp [hk, h.1]
      . simp [hk]

variable {json : HistoryJson}

def hotEvent (json : HistoryJson) (raw : List UInt8) : Option AgentProgressEvent :=
  let trimmed := trimAsciiWhitespace raw
  if trimmed = [] then none else (json.eventOfSlice trimmed).toOption

def hotEvents (json : HistoryJson) (bytes : List UInt8) : List AgentProgressEvent :=
  (rawLines bytes).filterMap (hotEvent json)

theorem hotLine_eq_queueEvent {raw : List UInt8} {event : AgentProgressEvent}
    : hotLine json raw = .queueEvent event
        ↔ hotEvent json raw = some event ∧ Text.trim event.queueId ≠ "" := by
  unfold hotLine hotEvent
  dsimp only
  split
  . simp
  . cases hparse : json.eventOfSlice (trimAsciiWhitespace raw) with
    | error e => simp [Except.toOption]
    | ok found =>
      dsimp only [Except.toOption]
      split
      . next hqueue =>
        rw [HotLine.queueEvent.injEq, Option.some.injEq]
        constructor
        . rintro rfl
          exact ⟨rfl, hqueue⟩
        . exact And.left
      . next hqueue =>
        constructor
        . intro h
          cases h
        . rintro ⟨hfound, htrim⟩
          rw [← Option.some.inj hfound] at htrim
          exact absurd htrim hqueue

theorem queueId_eq_some {raw : List UInt8} {queueId : String}
    : (hotLine json raw).queueId = some queueId
        ↔ ∃ event, hotEvent json raw = some event ∧ event.queueId = queueId
          ∧ Text.trim queueId ≠ "" := by
  constructor
  . intro h
    cases hline : hotLine json raw with
    | blank =>
      rw [hline] at h
      cases h
    | unclassified =>
      rw [hline] at h
      cases h
    | queueEvent event =>
      rw [hline] at h
      obtain rfl := Option.some.inj h
      obtain ⟨hevent, htrim⟩ := hotLine_eq_queueEvent.mp hline
      exact ⟨event, hevent, rfl, htrim⟩
  . rintro ⟨event, hevent, rfl, htrim⟩
    rw [hotLine_eq_queueEvent.mpr ⟨hevent, htrim⟩]
    rfl

def queueLines (json : HistoryJson) (bytes : List UInt8) (queueId : String) : List (List UInt8) :=
  (rawLines bytes).filter fun raw => (hotLine json raw).queueId = some queueId

section Scan

variable {bytes : List UInt8}

theorem mem_events {entry : QueueEventLine}
    : entry ∈ (scanHotProgressEvents json bytes).events
        ↔ ∃ raw, (raw, entry.lineNumber) ∈ (rawLines bytes).zipIdx 1
          ∧ hotLine json raw = .queueEvent entry.event
          ∧ entry.canonicalV2 = canonicalV2 entry.event ∧ entry.rawBytes = raw.length := by
  unfold scanHotProgressEvents
  dsimp only
  rw [List.mem_filterMap]
  constructor
  . rintro ⟨⟨raw, lineNumber⟩, hmem, hentry⟩
    unfold queueEventLine at hentry
    cases hline : hotLine json raw with
    | blank => simp [hline] at hentry
    | unclassified => simp [hline] at hentry
    | queueEvent event =>
      simp only [hline, Option.some.injEq] at hentry
      subst hentry
      exact ⟨raw, hmem, hline, rfl, rfl⟩
  . rintro ⟨raw, hmem, hline, hcanonical, hraw⟩
    refine ⟨(raw, entry.lineNumber), hmem, ?_⟩
    unfold queueEventLine
    simp only [hline, ← hcanonical, ← hraw]

theorem map_event_queueEventLine (raw : List UInt8) (lineNumber : Nat)
    : (queueEventLine json raw lineNumber).map (·.event)
        = (hotEvent json raw).filter fun event => Text.trim event.queueId ≠ "" := by
  unfold queueEventLine
  cases hline : hotLine json raw with
  | queueEvent event =>
    obtain ⟨hevent, htrim⟩ := hotLine_eq_queueEvent.mp hline
    rw [hevent, Option.filter_some_pos (by simpa using htrim)]
    rfl
  | blank =>
    symm
    rw [Option.map_none, Option.filter_eq_none_iff]
    intro event hevent htrim
    rw [hotLine_eq_queueEvent.mpr ⟨hevent, by simpa using htrim⟩] at hline
    cases hline
  | unclassified =>
    symm
    rw [Option.map_none, Option.filter_eq_none_iff]
    intro event hevent htrim
    rw [hotLine_eq_queueEvent.mpr ⟨hevent, by simpa using htrim⟩] at hline
    cases hline

theorem filterMap_zipIdx {α β : Type} (f : α → Option β) (l : List α) (start : Nat)
    : ((l.zipIdx start).filterMap fun line => f line.1) = l.filterMap f := by
  induction l generalizing start with
  | nil => rfl
  | cons a l ih => rw [List.zipIdx_cons, List.filterMap_cons, List.filterMap_cons, ih]

theorem map_event_events
    : (scanHotProgressEvents json bytes).events.map (·.event)
        = (hotEvents json bytes).filter fun event => Text.trim event.queueId ≠ "" := by
  unfold scanHotProgressEvents hotEvents
  dsimp only
  rw [List.map_filterMap, List.filter_filterMap]
  refine Eq.trans ?_ (filterMap_zipIdx _ (rawLines bytes) 1)
  apply List.filterMap_congr
  intro line _
  apply map_event_queueEventLine

end Scan

structure Movable (scan : HotProgressScan) (deliveredTerminalEvents : List (String × String))
    (queueId : String)
    : Prop where
  canonical : ∀ entry ∈ scan.queueEvents queueId, entry.canonicalV2 = true
  stable : ∀ entry ∈ scan.queueEvents queueId, scan.lastUnstableLine < entry.lineNumber
  ended : ∃ last eventId, (scan.queueEvents queueId).getLast? = some last
    ∧ isTerminalEvent last.event = true ∧ validProgressEventId last.event.eventId = some eventId
    ∧ (queueId, eventId) ∈ deliveredTerminalEvents

namespace HotProgressScan

variable {scan : HotProgressScan} {delivered : List (String × String)}
  {policy : HistoryCompactionPolicy}

theorem movable_of_compactableQueue {queueId : String} {candidate : CompactableQueue}
    (h : scan.compactableQueue delivered queueId = some candidate)
    : candidate.queueId = queueId ∧ candidate.events = scan.queueEvents queueId
        ∧ Movable scan delivered queueId := by
  unfold compactableQueue at h
  dsimp only at h
  split at h
  . cases h
  . next last hlast =>
    split at h
    . cases h
    . next hcanonical =>
      split at h
      . cases h
      . next hstable =>
        split at h
        . cases h
        . next hterminal =>
          split at h
          . cases h
          . next eventId hid =>
            split at h
            . next hdelivered =>
              cases h
              refine ⟨rfl, rfl, ?_, ?_, last, eventId, hlast, by simpa using hterminal, hid, hdelivered⟩
              . simpa using hcanonical
              . intro entry hentry
                by_contra hle
                exact hstable (List.any_eq_true.mpr ⟨entry, hentry, by simpa using hle⟩)
            . cases h

theorem mem_candidates {candidate : CompactableQueue} (h : candidate ∈ scan.candidates delivered)
    : candidate.events = scan.queueEvents candidate.queueId
        ∧ Movable scan delivered candidate.queueId := by
  unfold candidates at h
  rw [List.mem_insertionSort, List.mem_filterMap] at h
  obtain ⟨queueId, -, hcandidate⟩ := h
  obtain ⟨hqueue, hevents, hmovable⟩ := movable_of_compactableQueue hcandidate
  rw [hqueue]
  exact ⟨hevents, hmovable⟩

theorem nodup_candidates : ((scan.candidates delivered).map (·.queueId)).Nodup := by
  unfold candidates
  rw [((List.perm_insertionSort _ _).map _).nodup_iff]
  have hnodup : scan.queueIds.Nodup := by
    unfold queueIds
    rw [(List.perm_insertionSort _ _).nodup_iff]
    exact List.nodup_dedup _
  have hsub : ((scan.queueIds.filterMap (scan.compactableQueue delivered)).map (·.queueId)).Sublist
      scan.queueIds := by
    induction scan.queueIds with
    | nil => exact List.Sublist.slnil
    | cons queueId rest ih =>
      rw [List.filterMap_cons]
      cases hcandidate : scan.compactableQueue delivered queueId with
      | none => exact ih.cons _
      | some candidate =>
        rw [List.map_cons, (movable_of_compactableQueue hcandidate).1]
        exact ih.cons_cons _
  exact hsub.nodup hnodup

theorem selectForBytes_sublist (maxHotBytes projectedHotBytes : Nat) (l : List CompactableQueue)
    : (selectForBytes maxHotBytes projectedHotBytes l).Sublist l := by
  induction l generalizing projectedHotBytes with
  | nil => exact List.Sublist.slnil
  | cons candidate rest ih =>
    unfold selectForBytes
    split
    . exact List.nil_sublist _
    . exact (ih _).cons_cons _

theorem selectedQueueIds_sublist
    : (scan.selectedQueueIds delivered policy).Sublist
        ((scan.candidates delivered).map (·.queueId)) := by
  unfold selectedQueueIds
  dsimp only
  apply List.Sublist.map
  conv => rhs; rw [← List.take_append_drop ((scan.candidates delivered).length
    - min policy.maxTerminalQueues (scan.candidates delivered).length) (scan.candidates delivered)]
  apply List.Sublist.append_left
  apply selectForBytes_sublist

theorem movable_of_selected {queueId : String}
    (h : queueId ∈ scan.selectedQueueIds delivered policy)
    : Movable scan delivered queueId := by
  obtain ⟨candidate, hcandidate, rfl⟩ := List.mem_map.mp (selectedQueueIds_sublist.subset h)
  exact (mem_candidates hcandidate).2

theorem selectedEvents_perm
    : (scan.selectedEvents delivered (scan.selectedQueueIds delivered policy)).Perm
        (scan.events.filter (·.event.queueId ∈ scan.selectedQueueIds delivered policy)) := by
  have hkeys : ((scan.candidates delivered).filter
      (·.queueId ∈ scan.selectedQueueIds delivered policy)).flatMap (·.events)
      = (((scan.candidates delivered).filter
        (·.queueId ∈ scan.selectedQueueIds delivered policy)).map (·.queueId)).flatMap
          scan.queueEvents := by
    rw [List.flatMap_map]
    apply List.flatMap_congr
    intro candidate hcandidate
    exact (mem_candidates (List.mem_of_mem_filter hcandidate)).1
  unfold selectedEvents
  rw [hkeys]
  have hnodup : (((scan.candidates delivered).filter
      (·.queueId ∈ scan.selectedQueueIds delivered policy)).map (·.queueId)).Nodup := by
    have hsub := @List.filter_sublist _
      (fun candidate : CompactableQueue =>
        decide (candidate.queueId ∈ scan.selectedQueueIds delivered policy))
      (scan.candidates delivered)
    exact (hsub.map _).nodup nodup_candidates
  refine (flatMap_filter_perm hnodup scan.events).trans (List.Perm.of_eq ?_)
  apply List.filter_congr
  intro entry _
  rw [decide_eq_decide, List.mem_map]
  constructor
  . rintro ⟨candidate, hcandidate, hqueue⟩
    rw [← hqueue]
    simpa using (List.mem_filter.mp hcandidate).2
  . intro hselected
    obtain ⟨candidate, hcandidate, hqueue⟩ :=
      List.mem_map.mp (selectedQueueIds_sublist.subset hselected)
    refine ⟨candidate, List.mem_filter.mpr ⟨hcandidate, ?_⟩, hqueue⟩
    rw [hqueue]
    simpa using hselected

end HotProgressScan

section Snapshot

variable {bytes : List UInt8} {call : CompactionCall}

def takenOut (json : HistoryJson) (call : CompactionCall) (bytes raw : List UInt8) : Bool :=
  (hotLine json raw).queueId.any (· ∈ selectedBy json call bytes)

theorem takenOut_iff {raw : List UInt8}
    : takenOut json call bytes raw = true
        ↔ ∃ event, hotEvent json raw = some event ∧ Text.trim event.queueId ≠ ""
          ∧ event.queueId ∈ selectedBy json call bytes := by
  unfold takenOut
  rw [Option.any_eq_true]
  constructor
  . rintro ⟨queueId, hqueue, hselected⟩
    obtain ⟨event, hevent, rfl, htrim⟩ := queueId_eq_some.mp hqueue
    exact ⟨event, hevent, htrim, by simpa using hselected⟩
  . rintro ⟨event, hevent, htrim, hselected⟩
    exact ⟨event.queueId, queueId_eq_some.mpr ⟨event, hevent, rfl, htrim⟩, by simpa using hselected⟩

theorem rawLines_snapshotBy
    : rawLines (snapshotBy json call bytes)
        = (rawLines bytes).filter fun raw => !takenOut json call bytes raw := by
  have hsnapshot : snapshotBy json call bytes
      = ((rawLines bytes).filter fun raw => !takenOut json call bytes raw).flatten := by
    unfold snapshotBy HotProgressScan.snapshot scanHotProgressEvents
    dsimp only
    rw [List.filter_map, List.flatMap_map, List.flatMap_id']
    rfl
  rw [hsnapshot]
  apply rawLines_flatten_of_sublist
  exact List.filter_sublist

theorem queueLines_snapshotBy (queueId : String)
    : queueLines json (snapshotBy json call bytes) queueId
        = if queueId ∈ selectedBy json call bytes then [] else queueLines json bytes queueId := by
  unfold queueLines
  rw [rawLines_snapshotBy, List.filter_filter]
  split
  . next hselected =>
    rw [List.filter_eq_nil_iff]
    intro raw _
    simp only [Bool.and_eq_true, decide_eq_true_eq, Bool.not_eq_true', not_and]
    intro hqueue
    simp [takenOut, hqueue, hselected]
  . next hselected =>
    apply List.filter_congr
    intro raw _
    by_cases hqueue : (hotLine json raw).queueId = some queueId
    . simp [takenOut, hqueue, hselected]
    . simp [hqueue]

theorem filterMap_takenOut
    : ((rawLines bytes).filter (takenOut json call bytes)).filterMap (hotEvent json)
        = ((scanHotProgressEvents json bytes).events.filter
          (·.event.queueId ∈ selectedBy json call bytes)).map (·.event) := by
  have hmap := @List.filter_map _ _ (fun entry : QueueEventLine => entry.event)
    (fun event => decide (event.queueId ∈ selectedBy json call bytes))
    (scanHotProgressEvents json bytes).events
  refine Eq.trans ?_ hmap
  rw [map_event_events]
  unfold hotEvents
  rw [List.filterMap_filter, List.filter_filterMap, List.filter_filterMap]
  apply List.filterMap_congr
  intro raw _
  cases hevent : hotEvent json raw with
  | none => simp
  | some event =>
    by_cases htaken : takenOut json call bytes raw = true
    . obtain ⟨found, hfound, htrim, hselected⟩ := takenOut_iff.mp htaken
      rw [hevent, Option.some.injEq] at hfound
      subst hfound
      rw [if_pos htaken, Option.filter_some_pos (by simpa using htrim),
        Option.filter_some_pos (by simpa using hselected)]
    . rw [if_neg htaken]
      rw [takenOut_iff] at htaken
      symm
      rw [Option.filter_eq_none_iff]
      intro found hfound hselected
      have htrim := Option.filter_eq_some_iff.mp hfound
      exact htaken ⟨found, htrim.1 ▸ hevent, by simpa using htrim.2, by simpa using hselected⟩

theorem hotEvents_perm
    : (hotEvents json bytes).Perm
        ((movedBy json call bytes).map (·.event)
          ++ hotEvents json (snapshotBy json call bytes)) := by
  have hsplit := (List.filter_append_perm (takenOut json call bytes) (rawLines bytes)).symm.filterMap
    (hotEvent json)
  rw [List.filterMap_append, filterMap_takenOut] at hsplit
  unfold hotEvents
  rw [rawLines_snapshotBy]
  refine hsplit.trans (List.Perm.append_right _ ?_)
  exact (HotProgressScan.selectedEvents_perm.map _).symm

theorem validProgressEventId_of_moved {entry : QueueEventLine}
    (h : entry ∈ movedBy json call bytes)
    : ∃ eventId, validProgressEventId entry.event.eventId = some eventId := by
  have hmem := List.mem_filter.mp (HotProgressScan.selectedEvents_perm.mem_iff.mp h)
  have hmovable := HotProgressScan.movable_of_selected (by simpa using hmem.2)
  have hcanonical := hmovable.canonical entry (List.mem_filter.mpr ⟨hmem.1, by simp⟩)
  obtain ⟨raw, -, -, hentry, -⟩ := mem_events.mp hmem.1
  rw [hentry] at hcanonical
  unfold canonicalV2 at hcanonical
  rw [Bool.and_eq_true] at hcanonical
  exact Option.isSome_iff_exists.mp hcanonical.2

theorem queueId_of_moved {entry : QueueEventLine} (h : entry ∈ movedBy json call bytes)
    : Text.trim entry.event.queueId ≠ "" := by
  have hmem := List.mem_filter.mp (HotProgressScan.selectedEvents_perm.mem_iff.mp h)
  obtain ⟨raw, -, hline, -⟩ := mem_events.mp hmem.1
  exact (hotLine_eq_queueEvent.mp hline).2

theorem length_snapshotBy (h : movedBy json call bytes ≠ [])
    : (snapshotBy json call bytes).length < bytes.length := by
  obtain ⟨entry, hentry⟩ := List.exists_mem_of_ne_nil _ h
  have hmem := List.mem_filter.mp (HotProgressScan.selectedEvents_perm.mem_iff.mp hentry)
  obtain ⟨raw, hraw, hline, -⟩ := mem_events.mp hmem.1
  have hraw : raw ∈ rawLines bytes := List.fst_mem_of_mem_zipIdx hraw
  have htaken : takenOut json call bytes raw = true := by
    obtain ⟨hevent, htrim⟩ := hotLine_eq_queueEvent.mp hline
    exact takenOut_iff.mpr ⟨entry.event, hevent, htrim, of_decide_eq_true hmem.2⟩
  have hperm := List.filter_append_perm (takenOut json call bytes) (rawLines bytes)
  have hlength := hperm.flatten.length_eq
  rw [ChannelDelivery.rawLines_flatten, List.flatten_append, List.length_append,
    ← rawLines_snapshotBy, ChannelDelivery.rawLines_flatten] at hlength
  have hpos : 0 < raw.length := List.length_pos_iff.mpr (rawLines_ne_nil hraw)
  have hle := (List.sublist_flatten_of_mem (List.mem_filter.mpr ⟨hraw, htaken⟩)).length_le
  omega

end Snapshot

end AgentProgress

/-!
What an exact lookup reads: the events of the hot ledger and of the committed rows, each of them once, in an
order of their own.
-/

namespace FMap

variable {α : Type u} {β : Type v} [DecidableEq α]

theorem values_insert_of_notMem {m : FMap α β} {k : α} (h : k ∉ m) (v : β)
    : FMap.values (m.insert k v) = v :: m.values := by
  unfold values
  rw [AList.entries_insert_of_notMem h]
  rfl

theorem mem_ofValues {key : β → α} {values : List β} {k : α}
    : k ∈ ofValues key values ↔ k ∈ values.map key := by
  induction values using List.reverseRecOn with
  | nil => simp
  | append_singleton values v ih =>
    rw [ofValues_concat, AList.mem_insert, ih, List.map_append, List.mem_append, or_comm]
    simp

theorem values_ofValues_perm {key : β → α} {values : List β} (h : (values.map key).Nodup)
    : (ofValues key values).values.Perm values := by
  induction values using List.reverseRecOn with
  | nil => exact List.Perm.refl _
  | append_singleton values v ih =>
    rw [List.map_append, List.nodup_append] at h
    have hnew : key v ∉ ofValues key values := by
      rw [mem_ofValues]
      intro hmem
      exact h.2.2 _ hmem (key v) (by simp) rfl
    rw [ofValues_concat, values_insert_of_notMem hnew]
    exact ((ih h.1).cons v).trans (List.perm_append_singleton v values).symm

end FMap

namespace AgentProgress

open ChannelDelivery (LedgerFile rawLines)

theorem colon_notMem_toString (n : Nat) : ':' ∉ (toString n).toList := by
  intro h
  have := Text.isDigit_toString ':' h
  contradiction

def eventIdentity (event : AgentProgressEvent) : Option String :=
  validProgressEventId event.eventId

variable {record : ProgressHistoryRecord}

theorem historyIdentityKey_eq_of_some {eventId : String}
    (h : eventIdentity record.event = some eventId)
    : historyIdentityKey record = "event:" ++ eventId := by
  unfold historyIdentityKey
  rw [show validProgressEventId record.event.eventId = some eventId from h]

theorem toList_historyIdentityKey_of_none (h : eventIdentity record.event = none)
    (hhot : record.cold = false)
    : ∃ lead : List Char, (historyIdentityKey record).toList
        = 'h' :: lead ++ ':' :: (toString record.originalLine).toList := by
  unfold historyIdentityKey
  rw [show validProgressEventId record.event.eventId = none from h, hhot]
  refine ⟨"ot:legacy:".toList ++ record.event.queueId.toList, ?_⟩
  simp [String.toList_append]

theorem historyIdentityKey_inj {left right : ProgressHistoryRecord}
    (hleft : eventIdentity left.event = none → left.cold = false)
    (hright : eventIdentity right.event = none → right.cold = false)
    (h : historyIdentityKey left = historyIdentityKey right)
    : (∃ eventId, eventIdentity left.event = some eventId
        ∧ eventIdentity right.event = some eventId)
      ∨ (eventIdentity left.event = none ∧ eventIdentity right.event = none
        ∧ left.originalLine = right.originalLine) := by
  have hchars := congrArg String.toList h
  cases hl : eventIdentity left.event with
  | some leftId =>
    cases hr : eventIdentity right.event with
    | some rightId =>
      rw [historyIdentityKey_eq_of_some hl, historyIdentityKey_eq_of_some hr, String.toList_append,
        String.toList_append, List.append_cancel_left_eq] at hchars
      exact .inl ⟨leftId, rfl, by rw [String.toList_inj.mp hchars]⟩
    | none =>
      obtain ⟨lead, hkey⟩ := toList_historyIdentityKey_of_none hr (hright hr)
      rw [historyIdentityKey_eq_of_some hl, hkey, String.toList_append] at hchars
      exact absurd (List.cons.inj hchars).1 (by decide)
  | none =>
    obtain ⟨lead, hkey⟩ := toList_historyIdentityKey_of_none hl (hleft hl)
    cases hr : eventIdentity right.event with
    | some rightId =>
      rw [historyIdentityKey_eq_of_some hr, hkey, String.toList_append] at hchars
      exact absurd (List.cons.inj hchars).1 (by decide)
    | none =>
      obtain ⟨lead', hkey'⟩ := toList_historyIdentityKey_of_none hr (hright hr)
      rw [hkey, hkey'] at hchars
      have hdigits := (Text.segment_inj (colon_notMem_toString _) (colon_notMem_toString _) hchars).2
      refine .inr ⟨rfl, rfl, ?_⟩
      have hvalue := congrArg Text.digitsValue hdigits
      rwa [Text.digitsValue_toString, Text.digitsValue_toString] at hvalue

def coldEvents (json : HistoryJson) (files : HistoryFiles) : List AgentProgressEvent :=
  (committedRows files).filterMap fun row => (json.event row.eventJson).toOption

def Faithful (json : HistoryJson) (row : HistoryCandidate) : Prop :=
  ∃ event, json.event row.eventJson = .ok event ∧ eventIdentity event = some row.eventId
    ∧ event.queueId = row.queueId ∧ Text.trim row.queueId ≠ ""

structure Consistent (json : HistoryJson) (files : HistoryFiles) : Prop where
  faithful : ∀ row ∈ committedRows files, Faithful json row
  distinct : ((hotEvents json files.bytes ++ coldEvents json files).filterMap eventIdentity).Nodup

variable {json : HistoryJson} {files : HistoryFiles}

theorem exists_committedRecord {row : HistoryCandidate} (h : Faithful json row)
    : ∃ record, committedRecord json row = .ok record := by
  obtain ⟨event, hparse, hid, -, -⟩ := h
  refine ⟨{ originalLine := row.sourceLine, event, cold := true }, ?_⟩
  unfold committedRecord
  rw [hparse]
  dsimp only
  rw [if_neg]
  rw [show validProgressEventId event.eventId = some row.eventId from hid]
  simp

theorem committedRecord_eq_ok {row : HistoryCandidate} (h : committedRecord json row = .ok record)
    : json.event row.eventJson = .ok record.event ∧ record.cold = true
        ∧ ∃ eventId, eventIdentity record.event = some eventId := by
  unfold committedRecord at h
  split at h
  . cases h
  . next event hparse =>
    split at h
    . cases h
    . next hid =>
      cases h
      refine ⟨hparse, rfl, ?_⟩
      rw [Option.isNone_iff_eq_none] at hid
      exact Option.ne_none_iff_exists'.mp hid

theorem records_of_rows {rows : List HistoryCandidate} {records : List ProgressHistoryRecord}
    (h : rows.mapM (committedRecord json) = .ok records)
    : (∀ record ∈ records, ∃ eventId, eventIdentity record.event = some eventId)
        ∧ records.map (·.event)
          = rows.filterMap fun row => (json.event row.eventJson).toOption := by
  have hall := Except.mapM_eq_ok.mp h
  clear h
  induction hall with
  | nil => simp
  | cons hrecord _ ih =>
    obtain ⟨hparse, -, hid⟩ := committedRecord_eq_ok hrecord
    rw [List.forall_mem_cons, List.map_cons, List.filterMap_cons, hparse]
    refine ⟨⟨hid, ih.1⟩, ?_⟩
    rw [ih.2]
    rfl

theorem exists_readCommitted (h : ∀ row ∈ committedRows files, Faithful json row)
    (queueIds : List String)
    : ∃ records, readCommittedProgressHistory json files queueIds = .ok records
        ∧ (∀ record ∈ records, ∃ eventId, eventIdentity record.event = some eventId)
        ∧ (records.map (·.event)).Perm ((coldEvents json files).filter (·.queueId ∈ queueIds)) := by
  unfold readCommittedProgressHistory
  dsimp only
  generalize hrows : (committedRows files).filter (fun row =>
    decide (row.queueId ∈ queueIds.filter fun queueId => Text.trim queueId ≠ "")) = rows
  have hperm := List.perm_insertionSort rowLe rows
  obtain ⟨records, hrecords⟩ := @Except.mapM_isOk _ _ _ (rows.insertionSort rowLe)
    (committedRecord json) (by
      intro row hrow
      rw [hperm.mem_iff, ← hrows] at hrow
      exact exists_committedRecord (h row (List.mem_of_mem_filter hrow)))
  obtain ⟨hidentity, hevents⟩ := records_of_rows hrecords
  refine ⟨records, hrecords, hidentity, ?_⟩
  rw [hevents]
  refine (hperm.filterMap _).trans (List.Perm.of_eq ?_)
  unfold coldEvents
  rw [← hrows, List.filterMap_filter, List.filter_filterMap]
  apply List.filterMap_congr
  intro row hrow
  obtain ⟨event, hparse, -, hqueue, htrim⟩ := h row hrow
  rw [hparse]
  dsimp only [Except.toOption]
  by_cases hmem : row.queueId ∈ queueIds
  . rw [Option.filter_some_pos (by simpa [hqueue] using hmem), if_pos (by simp [hmem, htrim])]
  . rw [Option.filter_some_neg (by simpa [hqueue] using hmem), if_neg (by simp [hmem])]

theorem map_event_readHot (queueIds : List String)
    : (readHotProgressHistory json files queueIds).map (·.event)
        = (hotEvents json files.bytes).filter (·.queueId ∈ queueIds) := by
  unfold readHotProgressHistory hotEvents
  rw [List.map_filterMap, List.filter_filterMap]
  refine Eq.trans ?_ (filterMap_zipIdx _ (rawLines files.bytes) 1)
  apply List.filterMap_congr
  intro line _
  unfold hotRecord hotEvent
  dsimp only
  split
  . rfl
  . cases json.eventOfSlice (trimAsciiWhitespace line.1) with
    | error e => rfl
    | ok event =>
      dsimp only [Except.toOption]
      split
      . next hqueue => rw [Option.filter_some_pos (by simpa using hqueue), Option.map_some]
      . next hqueue => rw [Option.filter_some_neg (by simpa using hqueue), Option.map_none]

theorem hotRecord_eq_some {queueIds : List String} {raw : List UInt8} {lineNumber : Nat}
    (h : hotRecord json queueIds raw lineNumber = some record)
    : record.originalLine = lineNumber ∧ record.cold = false := by
  unfold hotRecord at h
  dsimp only at h
  split at h
  . cases h
  . split at h
    . split at h
      . cases h
        exact ⟨rfl, rfl⟩
      . cases h
    . cases h

theorem pairwise_zipIdx {α : Type} (l : List α) (start : Nat)
    : (l.zipIdx start).Pairwise fun left right => left.2 < right.2 := by
  have hrange : ((l.zipIdx start).map (·.2)).Pairwise (· < ·) := by
    rw [List.zipIdx_map_snd]
    exact List.pairwise_lt_range'
  exact List.pairwise_map.mp hrange

theorem pairwise_readHot (queueIds : List String)
    : (readHotProgressHistory json files queueIds).Pairwise fun left right =>
        left.originalLine < right.originalLine := by
  unfold readHotProgressHistory
  rw [List.pairwise_filterMap]
  refine (pairwise_zipIdx _ _).imp ?_
  intro left right hlt record hrecord other hother
  rw [(hotRecord_eq_some hrecord).1, (hotRecord_eq_some hother).1]
  exact hlt

theorem cold_of_mem_readHot {queueIds : List String}
    (h : record ∈ readHotProgressHistory json files queueIds)
    : record.cold = false := by
  obtain ⟨line, -, hline⟩ := List.mem_filterMap.mp h
  exact (hotRecord_eq_some hline).2

theorem nodup_historyIdentityKey {cold hot : List ProgressHistoryRecord}
    (hcold : ∀ record ∈ cold, ∃ eventId, eventIdentity record.event = some eventId)
    (hhot : ∀ record ∈ hot, record.cold = false)
    (hlines : hot.Pairwise fun left right => left.originalLine < right.originalLine)
    (hids : (((cold ++ hot).map (·.event)).filterMap eventIdentity).Nodup)
    : ((cold ++ hot).map historyIdentityKey).Nodup := by
  have hlegacy : (cold ++ hot).Pairwise fun left right =>
      eventIdentity left.event = none → left.originalLine < right.originalLine := by
    rw [List.pairwise_append]
    refine ⟨?_, hlines.imp ?_, ?_⟩
    . rw [List.pairwise_iff_forall_sublist]
      intro left right hsub hnone
      obtain ⟨eventId, hid⟩ := hcold left (hsub.subset (by simp))
      rw [hid] at hnone
      cases hnone
    . intro left right hlt _
      exact hlt
    . intro left hleft right _ hnone
      obtain ⟨eventId, hid⟩ := hcold left hleft
      rw [hid] at hnone
      cases hnone
  have hflag : ∀ record ∈ cold ++ hot, eventIdentity record.event = none → record.cold = false := by
    intro record hrecord hnone
    cases List.mem_append.mp hrecord with
    | inl hmem =>
      obtain ⟨eventId, hid⟩ := hcold record hmem
      rw [hid] at hnone
      cases hnone
    | inr hmem => exact hhot record hmem
  rw [List.filterMap_map, List.Nodup, List.pairwise_filterMap] at hids
  rw [List.Nodup, List.pairwise_map]
  refine ((hids.and hlegacy).imp_of_mem ?_)
  intro left right hleft hright hapart hkey
  cases historyIdentityKey_inj (hflag left hleft) (hflag right hright) hkey with
  | inl hsame =>
    obtain ⟨eventId, hl, hr⟩ := hsame
    exact hapart.1 eventId hl eventId hr rfl
  | inr hsame =>
    have hlt := hapart.2 hsame.1
    omega

theorem exists_readProgressHistory (h : Consistent json files) (queueIds : List String)
    : ∃ records, readProgressHistoryLocked json files queueIds = .ok records
        ∧ (records.map (·.event)).Perm
          ((hotEvents json files.bytes ++ coldEvents json files).filter (·.queueId ∈ queueIds)) := by
  obtain ⟨cold, hcold, hidentity, hevents⟩ := exists_readCommitted h.faithful queueIds
  unfold readProgressHistoryLocked
  rw [hcold]
  refine ⟨_, rfl, ?_⟩
  generalize hread : readHotProgressHistory json files queueIds = hot
  have hall : ((cold ++ hot).map (·.event)).Perm
      ((hotEvents json files.bytes ++ coldEvents json files).filter (·.queueId ∈ queueIds)) := by
    rw [List.map_append, List.filter_append, ← map_event_readHot, hread]
    exact (hevents.append_right _).trans List.perm_append_comm
  have hkeys : ((cold ++ hot).map historyIdentityKey).Nodup := by
    apply nodup_historyIdentityKey hidentity
    . intro record hrecord
      rw [← hread] at hrecord
      exact cold_of_mem_readHot hrecord
    . rw [← hread]
      exact pairwise_readHot queueIds
    . rw [(hall.filterMap eventIdentity).nodup_iff]
      apply List.Nodup.sublist _ h.distinct
      apply List.Sublist.filterMap
      exact List.filter_sublist
  have hsorted : (((FMap.ofValues historyIdentityKey (cold ++ hot)).values.insertionSort
      fun left right => Text.le (historyIdentityKey left) (historyIdentityKey right)).insertionSort
        recordLe).Perm (cold ++ hot) :=
    (List.perm_insertionSort _ _).trans ((List.perm_insertionSort _ _).trans
      (FMap.values_ofValues_perm hkeys))
  exact (hsorted.map _).trans hall

end AgentProgress
