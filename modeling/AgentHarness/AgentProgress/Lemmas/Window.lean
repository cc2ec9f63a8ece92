import AgentHarness.AgentProgress.Lemmas.EventTail

/-!
The rows that the index has after its refreshes against the rows that one rebuild would give it.
-/

namespace AgentProgress

open ChannelDelivery (LedgerFile rawLines Closed CursorAt)
open ProgressEventIndex

namespace ProgressStore

variable (json : ProgressJson)

def start (events : Option LedgerFile) : ProgressStore where
  events

def rebuilt (self : ProgressStore) (limits : RetentionLimits) : Except IoError ProgressEventIndex :=
  ({} : ProgressEventIndex).refreshProgressEventIndexLocked json limits self.events

def cursorLine (self : ProgressStore) : Nat :=
  (self.index.cursor.map (·.lineNumber)).getD 0

def readRows (self : ProgressStore) : List ProgressEventRow :=
  (self.ledgerRows json).filter (·.lineNumber ≤ self.cursorLine)

def newRows (self : ProgressStore) : List ProgressEventRow :=
  (self.ledgerRows json).filter (self.cursorLine < ·.lineNumber)

def SameAsRebuilt (limits : RetentionLimits) (self : ProgressStore) : Prop :=
  ∀ index, self.refresh json limits = .ok index →
    (∃ rebuilt, self.rebuilt json limits = .ok rebuilt
      ∧ index.rows = rebuilt.rows
      ∧ index.cursor.map (·.offsetBytes) = rebuilt.cursor.map (·.offsetBytes)
      ∧ index.cursor.map (·.lineNumber) = rebuilt.cursor.map (·.lineNumber)
      ∧ index.totalLines = rebuilt.totalLines
      ∧ index.validLines = rebuilt.validLines
      ∧ index.invalidLines = rebuilt.invalidLines)
    ∧ ∀ queueId, closed (self.ledgerRows json) queueId = true → queueId ∉ openQueues index.rows

/-
No queue that the refreshes have dropped gets new events, unless it is closed by them and to be dropped at
once again.
-/
def DroppedStayDropped (limits : RetentionLimits) (self : ProgressStore) : Prop :=
  Settled limits (self.readRows json) (self.newRows json)

instance (limits : RetentionLimits) (self : ProgressStore)
    : Decidable (self.DroppedStayDropped json limits) :=
  inferInstanceAs (Decidable (Settled ..))

variable {json} {limits : RetentionLimits} {self : ProgressStore}

def Attached (json : ProgressJson) (store : ProgressStore) (read : List UInt8) : Prop :=
  match store.events with
  | none => store.index = {} ∧ read = []
  | some file => ∃ rest, Behind json store.index file read rest

structure Bounded (json : ProgressJson) (limits : RetentionLimits) (store : ProgressStore) : Prop where
  rows : ∃ read, store.index.rows = bounded limits (eventRows json 0 (rawLines read))
    ∧ Attached json store read
  room : (openQueues store.index.rows).length ≤ limits.maxOpenQueues

variable {read rest : List UInt8} {file : LedgerFile} {index next : ProgressEventIndex}
  {rows : List ProgressEventRow}

theorem bytes_of_some (h : self.events = some file)
    : self.bytes = file.bytes := by
  simp [bytes, h]

theorem attached_none (hfile : self.events = none)
    : Attached json self read ↔ self.index = {} ∧ read = [] := by
  unfold Attached
  rw [hfile]

theorem attached_some (hfile : self.events = some file)
    : Attached json self read ↔ ∃ rest, Behind json self.index file read rest := by
  unfold Attached
  rw [hfile]

theorem attached_start {events : Option LedgerFile} (hclosed : Closed (start events).bytes)
    : Attached json (start events) [] := by
  cases events with
  | none => exact ⟨rfl, rfl⟩
  | some file =>
    exact ⟨file.bytes, rfl, ChannelDelivery.closed_nil, hclosed, List.forall_mem_nil _,
      .inl ⟨rfl, rfl⟩⟩

theorem attached_append {bytes : List UInt8} (h : Attached json self read) (hclosed : Closed bytes)
    (modifiedAtUnixNanos : Nat)
    : Attached json (self.append bytes modifiedAtUnixNanos) read := by
  unfold append
  split
  . exact h
  . cases hfile : self.events with
    | none =>
      rw [attached_none hfile] at h
      refine ⟨bytes, ?_, ?_, hclosed, ?_, .inl h⟩
      . simp [ProgressStore.bytes, hfile, h.2]
      . rw [h.2]
        exact ChannelDelivery.closed_nil
      . rw [h.2]
        exact List.forall_mem_nil _
    | some file =>
      rw [attached_some hfile] at h
      obtain ⟨rest, hbehind⟩ := h
      refine ⟨rest ++ bytes, ?_, hbehind.readClosed, hbehind.restClosed.append hclosed,
        hbehind.readable, hbehind.stands⟩
      dsimp only
      rw [bytes_of_some hfile, hbehind.bytes, List.append_assoc]

theorem bounded_start {events : Option LedgerFile} (hclosed : Closed (start events).bytes)
    : Bounded json limits (start events) where
  rows := ⟨[], rfl, attached_start hclosed⟩
  room := Nat.zero_le _

theorem filter_eventRows (h : Behind json self.index file read rest)
    (hevents : self.events = some file)
    : self.readRows json = eventRows json 0 (rawLines read)
      ∧ self.newRows json = eventRows json (rawLines read).length (rawLines rest) := by
  have hcursor : self.cursorLine = (rawLines read).length := by
    unfold cursorLine
    cases h.stands with
    | inl hempty => simp [hempty.1, hempty.2, rawLines, rawLines.go]
    | inr hstands =>
      obtain ⟨cursor, hcursor, hat⟩ := hstands.cursor
      rw [hcursor]
      exact hat.lineNumber
  have hread : ∀ row ∈ eventRows json 0 (rawLines read), row.lineNumber ≤ (rawLines read).length := by
    intro row hrow
    have hle := (mem_eventRows json hrow).2.1
    omega
  have hnew : ∀ row ∈ eventRows json (rawLines read).length (rawLines rest),
      (rawLines read).length < row.lineNumber := by
    intro row hrow
    exact (mem_eventRows json hrow).1
  have hall : self.ledgerRows json = eventRows json 0 (rawLines read)
      ++ eventRows json (rawLines read).length (rawLines rest) := by
    unfold ledgerRows
    rw [bytes_of_some hevents, h.bytes, eventRows_lines json h.readClosed]
  unfold readRows newRows
  rw [hall, hcursor, List.filter_append, List.filter_append]
  constructor
  . rw [List.filter_eq_self.mpr, List.filter_eq_nil_iff.mpr, List.append_nil]
    . intro row hrow
      simpa using hnew row hrow
    . intro row hrow
      simpa using hread row hrow
  . rw [List.filter_eq_nil_iff.mpr, List.filter_eq_self.mpr, List.nil_append]
    . intro row hrow
      simpa using hnew row hrow
    . intro row hrow
      simpa using hread row hrow

theorem mem_openQueues {queueId : String}
    : queueId ∈ openQueues rows ↔ queueId ∈ queueIds rows ∧ closed rows queueId = false := by
  unfold openQueues
  rw [List.mem_filter, Bool.not_eq_true']

theorem openQueues_subset {others : List ProgressEventRow} (hsub : ∀ row ∈ rows, row ∈ others)
    (hkept : ∀ queueId ∈ openQueues others, queueId ∈ queueIds rows)
    : (openQueues others).length ≤ (openQueues rows).length := by
  apply List.Subperm.length_le
  apply List.subperm_of_subset ((List.nodup_dedup _).filter _)
  intro queueId hqueue
  have hopen := mem_openQueues.mp hqueue
  refine mem_openQueues.mpr ⟨hkept queueId hqueue, ?_⟩
  rw [← Bool.not_eq_true, closed_iff]
  rintro ⟨row, hrow, hrowQueue, hterminal⟩
  have hclosed : closed others queueId = true :=
    closed_iff.mpr ⟨row, hsub row hrow, hrowQueue, hterminal⟩
  rw [hopen.2] at hclosed
  cases hclosed

theorem not_evicted_of_open {queueId : String} (h : closed rows queueId = false)
    : ¬evicted limits rows queueId = true := by
  intro hevicted
  rw [evicted_iff, h] at hevicted
  cases hevicted.1

theorem openQueues_bounded (rows : List ProgressEventRow)
    : (openQueues rows).length ≤ (openQueues (bounded limits rows)).length := by
  apply openQueues_subset fun row hrow => (bounded_sublist limits rows).subset hrow
  intro queueId hqueue
  rw [mem_openQueues] at hqueue
  rw [mem_queueIds_bounded]
  exact ⟨hqueue.1, not_evicted_of_open hqueue.2⟩

theorem length_openQueues_bounded_le (rows : List ProgressEventRow)
    : (openQueues (bounded limits rows)).length ≤ (openQueues rows).length := by
  apply List.Subperm.length_le
  apply List.subperm_of_subset ((List.nodup_dedup _).filter _)
  intro queueId hqueue
  have hqueue := mem_openQueues.mp hqueue
  have hmem := mem_queueIds_bounded.mp hqueue.1
  exact mem_openQueues.mpr ⟨hmem.1, (closed_bounded hmem.2).symm.trans hqueue.2⟩

theorem openQueues_both (read more : List ProgressEventRow)
    : (openQueues (read ++ more)).length ≤ (openQueues (bounded limits read ++ more)).length := by
  apply openQueues_subset fun row hrow => mem_both hrow
  intro queueId hqueue
  rw [mem_openQueues, mem_queueIds_append, closed_append, Bool.or_eq_false_iff] at hqueue
  rw [mem_queueIds_append, mem_queueIds_bounded]
  exact hqueue.1.imp_left fun hread => ⟨hread, not_evicted_of_open hqueue.2.1⟩

/-
What a refresh leaves: the index as it was when nothing is new, or the rows that it has and reads, bounded.
-/
structure Refreshed (json : ProgressJson) (limits : RetentionLimits) (index next : ProgressEventIndex)
    (file : LedgerFile) (read rest : List UInt8) (gathered : ProgressEventIndex)
    : Prop where
  gather : index.gather json file = .ok gathered
  readable : Readable (rawLines rest)
  stands : Stands json next (read ++ rest)
  source : gathered.rows = index.rows ++ eventRows json (rawLines read).length (rawLines rest)
    ∨ rest = [] ∧ gathered.rows = eventRows json 0 (rawLines read)
  rows : progressEventRefreshMode file index.cursor = .current ∧ rest = [] ∧ gathered = index
      ∧ next = index
    ∨ progressEventRefreshMode file index.cursor ≠ .current
      ∧ (openQueues gathered.rows).length ≤ limits.maxOpenQueues
      ∧ next.rows = bounded limits gathered.rows

theorem refreshed_of_ok (h : Behind json index file read rest)
    (hrefresh : index.refreshProgressEventIndexLocked json limits (some file) = .ok next)
    : ∃ gathered, Refreshed json limits index next file read rest gathered := by
  unfold refreshProgressEventIndexLocked at hrefresh
  dsimp only at hrefresh
  split at hrefresh
  . next hmode =>
    -- nothing was read
    obtain rfl := Except.ok.inj hrefresh
    have hgather : index.gather json file = .ok index := by
      unfold ProgressEventIndex.gather
      rw [hmode]
    obtain ⟨hreadable, hstands, hrows⟩ := h.gather_eq_ok hgather
    have hrest : rest = [] := by
      obtain ⟨-, hrest⟩ | ⟨cursor, hother, -⟩ | ⟨reason, hother, -⟩ := h.mode_cases
      . exact hrest
      . rw [hother] at hmode
        cases hmode
      . rw [hother] at hmode
        cases hmode
    exact ⟨index, hgather, ((readable_lines h.readClosed).mp hreadable).2, hstands, hrows,
      .inl ⟨hmode, hrest, rfl, rfl⟩⟩
  . next hmode =>
    rw [Except.bind_eq_ok] at hrefresh
    obtain ⟨gathered, hgather, hrefresh⟩ := hrefresh
    rw [Except.bind_eq_ok] at hrefresh
    obtain ⟨rows, hretain, hnext⟩ := hrefresh
    obtain rfl := Except.ok.inj hnext
    rw [retain_eq_ok] at hretain
    obtain ⟨hcapacity, rfl⟩ := hretain
    obtain ⟨hreadable, hstands, hrows⟩ := h.gather_eq_ok hgather
    refine ⟨gathered, hgather, ((readable_lines h.readClosed).mp hreadable).2, ?_, hrows,
      .inr ⟨hmode, hcapacity, rfl⟩⟩
    exact ⟨hstands.cursor, hstands.totalLines, hstands.validLines, hstands.invalidLines⟩

theorem refreshed_of_attached {self : ProgressStore} (hfile : self.events = some file)
    (h : Attached json self read) (hrefresh : self.refresh json limits = .ok next)
    : ∃ rest gathered, Behind json self.index file read rest
        ∧ Refreshed json limits self.index next file read rest gathered := by
  rw [attached_some hfile] at h
  obtain ⟨rest, hbehind⟩ := h
  unfold refresh at hrefresh
  rw [hfile] at hrefresh
  obtain ⟨gathered, hnext⟩ := refreshed_of_ok hbehind hrefresh
  exact ⟨rest, gathered, hbehind, hnext⟩

/-
With the rows of the index bounded: those that it has and reads, bounded again, or those of the whole ledger
where it reads all of it or nothing.
-/
structure Rebounded (json : ProgressJson) (limits : RetentionLimits) (index next : ProgressEventIndex)
    (read rest : List UInt8)
    : Prop where
  rows : next.rows
      = bounded limits (index.rows ++ eventRows json (rawLines read).length (rawLines rest))
    ∨ rest = [] ∧ next.rows = bounded limits (eventRows json 0 (rawLines (read ++ rest)))
  open_whole : (openQueues (eventRows json 0 (rawLines (read ++ rest)))).length
    ≤ limits.maxOpenQueues
  open_next : (openQueues next.rows).length ≤ limits.maxOpenQueues

theorem rebounded_of_refreshed {gathered : ProgressEventIndex}
    (h : Behind json index file read rest)
    (hrows : index.rows = bounded limits (eventRows json 0 (rawLines read)))
    (hroom : (openQueues index.rows).length ≤ limits.maxOpenQueues)
    (hnext : Refreshed json limits index next file read rest gathered)
    : Rebounded json limits index next read rest := by
  have hwhole := eventRows_lines json h.readClosed rest
  cases hnext.rows with
  | inl hcurrent =>
    obtain ⟨-, hrest, -, hsame⟩ := hcurrent
    rw [hsame]
    refine ⟨?_, ?_, hroom⟩
    . right
      rw [hrest, List.append_nil]
      exact ⟨rfl, hrows⟩
    . rw [hrest, List.append_nil]
      rw [hrows] at hroom
      exact (openQueues_bounded _).trans hroom
  | inr hread =>
    obtain ⟨-, hcapacity, hnextRows⟩ := hread
    have hopen := (@length_openQueues_bounded_le limits gathered.rows).trans hcapacity
    rw [← hnextRows] at hopen
    refine ⟨?_, ?_, hopen⟩
    . rw [hnextRows]
      cases hnext.source with
      | inl happend => exact .inl (congrArg (bounded limits) happend)
      | inr hall =>
        rw [hall.1, List.append_nil]
        exact .inr ⟨rfl, congrArg (bounded limits) hall.2⟩
    . apply le_trans _ hcapacity
      cases hnext.source with
      | inl happend =>
        rw [hwhole, happend, hrows]
        exact openQueues_both _ _
      | inr hall =>
        rw [hall.1, List.append_nil, hall.2]

theorem attached_refresh {gathered : ProgressEventIndex} (h : Behind json index file read rest)
    (hnext : Refreshed json limits index next file read rest gathered)
    : Attached json { events := some file, index := next } (read ++ rest) := by
  refine ⟨[], ?_, h.whole_closed, ChannelDelivery.closed_nil, ?_, .inr hnext.stands⟩
  . rw [h.bytes, List.append_nil]
  . exact (readable_lines h.readClosed).mpr ⟨h.readable, hnext.readable⟩

theorem rebuilt_of_readable (h : Behind json index file read rest)
    (hreadable : Readable (rawLines rest))
    (hroom : (openQueues (eventRows json 0 (rawLines (read ++ rest)))).length ≤ limits.maxOpenQueues)
    : ∃ rebuilt, ({} : ProgressEventIndex).refreshProgressEventIndexLocked json limits (some file)
          = .ok rebuilt
        ∧ rebuilt.rows = bounded limits (eventRows json 0 (rawLines (read ++ rest)))
        ∧ Stands json rebuilt (read ++ rest) := by
  have hfresh := h.fresh
  obtain ⟨gathered, hgather⟩ :=
    hfresh.exists_gather ((readable_lines h.readClosed).mpr ⟨h.readable, hreadable⟩)
  obtain ⟨-, hstands, hrows⟩ := hfresh.gather_eq_ok hgather
  have hall : gathered.rows = eventRows json 0 (rawLines (read ++ rest)) := by
    cases hrows with
    | inl happend => exact happend
    | inr hnone => rw [hnone.2, hnone.1]
  have hretain : retainBoundedProgressEventPayloads limits gathered.rows
      = .ok (bounded limits gathered.rows) := by
    rw [retain_eq_ok, hall]
    exact ⟨hroom, rfl⟩
  refine ⟨{ gathered with rows := bounded limits gathered.rows }, ?_, congrArg (bounded limits) hall, ?_⟩
  . unfold refreshProgressEventIndexLocked
    show (gather json {} file >>= _) = _
    rw [hgather]
    show (retainBoundedProgressEventPayloads limits gathered.rows >>= _) = _
    rw [hretain]
    rfl
  . exact ⟨hstands.cursor, hstands.totalLines, hstands.validLines, hstands.invalidLines⟩

theorem cursor_eq_of_stands {other : ProgressEventIndex} {lines : List UInt8}
    (h : Stands json index lines) (hother : Stands json other lines)
    : index.cursor.map (·.offsetBytes) = other.cursor.map (·.offsetBytes)
      ∧ index.cursor.map (·.lineNumber) = other.cursor.map (·.lineNumber) := by
  obtain ⟨cursor, hcursor, hat⟩ := h.cursor
  obtain ⟨otherCursor, hotherCursor, hotherAt⟩ := hother.cursor
  rw [hcursor, hotherCursor]
  simp [hat.offsetBytes, hotherAt.offsetBytes, hat.lineNumber, hotherAt.lineNumber]

theorem notMem_openQueues {queueId : String} (hclosed : closed rows queueId = true)
    : queueId ∉ openQueues (bounded limits rows) := by
  intro hopen
  rw [mem_openQueues, mem_queueIds_bounded] at hopen
  rw [closed_bounded hopen.1.2, hclosed] at hopen
  cases hopen.2

theorem sameAsRebuilt_iff (hpositive : 0 < limits.eventsPerQueue) (h : Bounded json limits self)
    (hrefresh : self.refresh json limits = .ok next)
    : SameAsRebuilt json limits self ↔ self.DroppedStayDropped json limits := by
  obtain ⟨read, hrows, hevents⟩ := h.rows
  cases hfile : self.events with
  | none =>
    rw [attached_none hfile] at hevents
    have hbytes : self.bytes = [] := by
      simp [bytes, hfile]
    have hrefreshed : self.refresh json limits = .ok {} := by
      unfold refresh
      rw [hfile, hevents.1]
      rfl
    constructor
    . intro _
      unfold DroppedStayDropped Settled newRows ledgerRows
      rw [hbytes]
      intro queueId hqueue
      cases hqueue
    . intro _ index hindex
      rw [hrefreshed] at hindex
      obtain rfl := Except.ok.inj hindex
      refine ⟨⟨{}, ?_, rfl, rfl, rfl, rfl, rfl, rfl⟩, fun _ _ hopen => by cases hopen⟩
      unfold rebuilt
      rw [hfile]
      rfl
  | some file =>
    obtain ⟨rest, gathered, hbehind, hnext⟩ := refreshed_of_attached hfile hevents hrefresh
    have hbound := rebounded_of_refreshed hbehind hrows h.room hnext
    obtain ⟨rebuilt, hrebuilt, hrebuiltRows, hstands⟩ :=
      rebuilt_of_readable hbehind hnext.readable hbound.open_whole
    have hwhole := eventRows_lines json hbehind.readClosed rest
    have hsorted := ascending_eventRows json 0 (rawLines (read ++ rest))
    have hledger : self.ledgerRows json = eventRows json 0 (rawLines (read ++ rest)) := by
      unfold ledgerRows
      rw [bytes_of_some hfile, hbehind.bytes]
    obtain ⟨hread, hnew⟩ := filter_eventRows hbehind hfile
    have hsettled : self.DroppedStayDropped json limits ↔ next.rows = rebuilt.rows := by
      unfold DroppedStayDropped
      rw [hread, hnew, hrebuiltRows]
      rw [hwhole] at hsorted ⊢
      cases hbound.rows with
      | inl happend =>
        rw [happend, hrows]
        exact (bounded_both_iff hpositive hsorted).symm
      | inr hall =>
        rw [hall.2, hwhole, hall.1]
        simp [Settled, rawLines, rawLines.go, eventRows, queueIds]
    rw [hsettled]
    unfold SameAsRebuilt
    rw [hrefresh]
    obtain ⟨hoffset, hline⟩ := cursor_eq_of_stands hnext.stands hstands
    constructor
    . intro hsame
      obtain ⟨⟨other, hother, hrowsEq, -⟩, -⟩ := hsame next rfl
      unfold ProgressStore.rebuilt at hother
      rw [hfile, hrebuilt] at hother
      obtain rfl := Except.ok.inj hother
      exact hrowsEq
    . intro hrowsEq index hindex
      obtain rfl := Except.ok.inj hindex
      refine ⟨⟨rebuilt, ?_, hrowsEq, hoffset, hline, ?_, ?_, ?_⟩, ?_⟩
      . unfold ProgressStore.rebuilt
        rw [hfile]
        exact hrebuilt
      . rw [hnext.stands.totalLines, hstands.totalLines]
      . rw [hnext.stands.validLines, hstands.validLines]
      . rw [hnext.stands.invalidLines, hstands.invalidLines]
      . intro queueId hclosed
        rw [hrowsEq, hrebuiltRows]
        rw [hledger] at hclosed
        exact notMem_openQueues hclosed

def Regular (limits : RetentionLimits) (action : ProgressAction) : Prop :=
  match action with
  | .append bytes _ => Closed bytes
  | .refresh others => others = limits

theorem bounded_append (h : Bounded json limits self) {bytes : List UInt8} (hclosed : Closed bytes)
    (modifiedAtUnixNanos : Nat)
    : Bounded json limits (self.append bytes modifiedAtUnixNanos) := by
  obtain ⟨read, hrows, hattached⟩ := h.rows
  have hindex : (self.append bytes modifiedAtUnixNanos).index = self.index := by
    unfold append
    split
    . rfl
    . rfl
  refine ⟨⟨read, ?_, attached_append hattached hclosed modifiedAtUnixNanos⟩, ?_⟩
  . rw [hindex]
    exact hrows
  . rw [hindex]
    exact h.room

theorem bounded_refresh (h : Bounded json limits self)
    (hrefresh : self.refresh json limits = .ok next) (hsame : SameAsRebuilt json limits self)
    : Bounded json limits { self with index := next } := by
  obtain ⟨⟨rebuilt, hrebuilt, hrowsEq, -⟩, -⟩ := hsame next hrefresh
  obtain ⟨read, hrows, hevents⟩ := h.rows
  cases hfile : self.events with
  | none =>
    rw [attached_none hfile] at hevents
    unfold refresh at hrefresh
    rw [hfile, hevents.1] at hrefresh
    obtain rfl := Except.ok.inj hrefresh
    exact ⟨⟨[], rfl, rfl, rfl⟩, Nat.zero_le _⟩
  | some file =>
    obtain ⟨rest, gathered, hbehind, hnext⟩ := refreshed_of_attached hfile hevents hrefresh
    have hbound := rebounded_of_refreshed hbehind hrows h.room hnext
    obtain ⟨other, hother, hotherRows, -⟩ :=
      rebuilt_of_readable hbehind hnext.readable hbound.open_whole
    unfold ProgressStore.rebuilt at hrebuilt
    rw [hfile, hother] at hrebuilt
    obtain rfl := Except.ok.inj hrebuilt
    exact ⟨⟨read ++ rest, hrowsEq.trans hotherRows, attached_refresh hbehind hnext⟩,
      hbound.open_next⟩

/-
At every refresh that goes through, the rows, line numbers and counters are those of one rebuild from the
ledger, if and only if at every one of them no queue that was dropped comes back.
-/
theorem window_is_rebuilt (json : ProgressJson) {limits : RetentionLimits}
    (hpositive : 0 < limits.eventsPerQueue) {events : Option LedgerFile}
    (hevents : Closed (start events).bytes) {actions : List ProgressAction}
    (hactions : ∀ action ∈ actions, Regular limits action)
    : Run.Guarded (step json)
          (fun self action => action = .refresh limits → SameAsRebuilt json limits self)
          (start events) actions
        ↔ Run.Guarded (step json)
          (fun self action => action = .refresh limits → (self.refresh json limits).toBool →
            self.DroppedStayDropped json limits)
          (start events) actions := by
  have hside : Run.Guarded (step json) (fun _ action => Regular limits action) (start events) actions :=
    Run.guarded_of_forall (fun action haction _ => hactions action haction) _
  have hiff : ∀ self action, Bounded json limits self → Regular limits action →
      ((action = .refresh limits → SameAsRebuilt json limits self)
        ↔ (action = .refresh limits → (self.refresh json limits).toBool →
          self.DroppedStayDropped json limits)) := by
    intro self action h _
    apply forall_congr'
    intro _
    cases hrefresh : self.refresh json limits with
    | error e =>
      constructor
      . intro _ hok
        cases hok
      . intro _ index hindex
        rw [hrefresh] at hindex
        cases hindex
    | ok next =>
      rw [sameAsRebuilt_iff hpositive h hrefresh]
      simp [Except.toBool]
  refine (Run.guarded_congr (Bounded json limits) (fun self action h hregular =>
    (hiff self action h hregular).symm) ?_ (bounded_start hevents) hside).symm
  intro self action h hregular hsame
  cases action with
  | append bytes modifiedAtUnixNanos => exact bounded_append h hregular modifiedAtUnixNanos
  | refresh others =>
    have hlimits : others = limits := hregular
    unfold step
    dsimp only
    rw [hlimits]
    rw [hlimits] at hsame
    cases hrefresh : self.refresh json limits with
    | error e => exact h
    | ok next => exact bounded_refresh h hrefresh (hsame rfl)

-- a queue of one letter, with a sign for its event: at work, ended, or done with a tool
def sampleEvent (queueId : String) (kind : AgentProgressKind) (status : AgentProgressStatus)
    : AgentProgressEvent where
  schema := agentProgressEventSchema
  eventId := none
  atMs := 1
  queueId
  agentId := none
  accountId := none
  threadId := none
  sessionKey := "session"
  platform := "telegram"
  channelId := "dm"
  userId := "user"
  kind
  label := "label"
  preview := "preview"
  status
  lifecycle := none
  elapsedMs := none
  source := none

def sampleJson : ProgressJson where
  event text :=
    match text.toList with
    | [queue, '.'] => .ok (sampleEvent queue.toString .runtime .progress)
    | [queue, '!'] => .ok (sampleEvent queue.toString .runtime .completed)
    | [queue, '?'] => .ok (sampleEvent queue.toString .toolCall .completed)
    | _ => .error "expected value"

def sampleLimits : RetentionLimits where
  eventsPerQueue := 1
  maxOpenQueues := 4
  maxTerminalQueues := 1

def endedQueues : List ProgressAction :=
  [.append (Text.utf8Bytes "a!\nb!\n") 1, .refresh sampleLimits]

def endedAndOpened : List ProgressAction :=
  endedQueues ++ [.append (Text.utf8Bytes "c.\nb!\n") 2, .refresh sampleLimits]

theorem window_is_rebuilt_sample
    : Run.Guarded (step sampleJson)
        (fun self action => action = .refresh sampleLimits →
          SameAsRebuilt sampleJson sampleLimits self)
        (start none) endedAndOpened := by
  refine (@window_is_rebuilt sampleJson sampleLimits (by decide) none rfl endedAndOpened ?_).mpr ?_
  . intro action haction
    simp only [endedAndOpened, endedQueues, List.cons_append, List.nil_append, List.mem_cons,
      List.not_mem_nil, or_false] at haction
    obtain rfl | rfl | rfl | rfl := haction
    . show Closed _
      decide +kernel
    . rfl
    . show Closed _
      decide +kernel
    . rfl
  . decide +kernel

/-
One queue is dropped for another that ended later. Its next event opens it again, while a rebuild finds it
ended, and drops the other one.
-/
theorem dropped_queue_reopened
    : ¬Run.Guarded (step sampleJson)
        (fun self action => action = .refresh sampleLimits →
          SameAsRebuilt sampleJson sampleLimits self)
        (start none) (endedQueues ++ [.append (Text.utf8Bytes "a.\n") 2, .refresh sampleLimits]) := by
  intro h
  have hsame : SameAsRebuilt sampleJson sampleLimits _ := h.2.2.2.1 rfl
  have hdiffer : ∀ store, store = Run.exec (step sampleJson) (start none)
      (endedQueues ++ [.append (Text.utf8Bytes "a.\n") 2]) →
      (store.refresh sampleJson sampleLimits).toOption.map (·.rows)
        ≠ (store.rebuilt sampleJson sampleLimits).toOption.map (·.rows)
      ∧ (store.refresh sampleJson sampleLimits).toOption.isSome := by
    rintro _ rfl
    decide +kernel
  obtain ⟨hrows, hsome⟩ := hdiffer _ rfl
  cases hrefresh : (Run.exec (step sampleJson) (start none)
      (endedQueues ++ [.append (Text.utf8Bytes "a.\n") 2])).refresh sampleJson sampleLimits with
  | error e =>
    rw [hrefresh] at hsome
    cases hsome
  | ok next =>
    obtain ⟨⟨other, hother, hrowsEq, -⟩, -⟩ := hsame next hrefresh
    apply hrows
    rw [hrefresh]
    exact (congrArg some hrowsEq).trans (congrArg (fun x => x.toOption.map (·.rows)) hother).symm

end ProgressStore

end AgentProgress
