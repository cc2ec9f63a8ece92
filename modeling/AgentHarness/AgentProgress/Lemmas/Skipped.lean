import AgentHarness.AgentProgress.Lemmas.Platforms

/-!
What the index still has of the queues that did not end, where the end of a queue is what the planner takes
for it.
-/

namespace AgentProgress

open ChannelDelivery (LedgerFile rawLines Closed)
open ProgressEventIndex

namespace ProgressEventIndex

variable (json : ProgressJson)

def endsQueue (row : ProgressEventRow) : Bool :=
  match json.event row.eventJson with
  | .ok event => isTerminalEvent event
  | .error _ => false

def Live (ledger : List ProgressEventRow) (queueId : String) : Prop :=
  ∀ row ∈ ledger, row.queueId = queueId → endsQueue json row = false

def IsLatestEnd (ledger : List ProgressEventRow) (row : ProgressEventRow) : Prop :=
  endsQueue json row ∧ ∀ other ∈ ledger, other.queueId = row.queueId → endsQueue json other →
    other.lineNumber ≤ row.lineNumber

def InWindow (limits : RetentionLimits) (ledger : List ProgressEventRow) (row : ProgressEventRow)
    : Prop :=
  IsFirst ledger row ∨ recentRank ledger row ≤ limits.eventsPerQueue

structure KeepsLive (limits : RetentionLimits) (ledger rows : List ProgressEventRow) : Prop where
  live : ∀ row ∈ ledger, Live json ledger row.queueId → InWindow limits ledger row → row ∈ rows
  ended : ∀ row ∈ ledger, IsLatestEnd json ledger row → row.queueId ∈ queueIds rows → row ∈ rows

/-
Of the rows that a refresh is about to bound: a queue without a terminal event may be flagged as closed only
while there is room for it, and the latest terminal event of a queue that stays is there, and among the rows
that are kept.
-/
structure Spares (limits : RetentionLimits) (ledger rows : List ProgressEventRow) : Prop where
  room : ∀ queueId ∈ queueIds ledger, Live json ledger queueId → closed rows queueId = true →
    queueRank rows queueId ≤ limits.maxTerminalQueues
  ended : ∀ row ∈ ledger, IsLatestEnd json ledger row → row.queueId ∈ queueIds rows →
    ¬evicted limits rows row.queueId = true → row ∈ rows ∧ Kept limits rows row

variable {json} {limits : RetentionLimits} {ledger rows : List ProgressEventRow}

theorem InWindow.kept {row : ProgressEventRow} (h : InWindow limits ledger row)
    : Kept limits ledger row := by
  cases h with
  | inl hfirst => exact .inr (.inl hfirst)
  | inr hrecent => exact .inl hrecent

theorem keepsLive_bounded_iff (hsub : rows.Sublist ledger)
    : KeepsLive json limits ledger (bounded limits rows)
        ↔ (∀ row ∈ ledger, Live json ledger row.queueId → InWindow limits ledger row → row ∈ rows)
          ∧ Spares json limits ledger rows := by
  constructor
  . intro h
    refine ⟨fun row hrow hlive hwindow => ?_, ?_, ?_⟩
    . exact (bounded_sublist limits rows).subset (h.live row hrow hlive hwindow)
    . intro queueId hqueue hlive hclosed
      rw [mem_queueIds] at hqueue
      obtain ⟨row, hrow, rfl⟩ := hqueue
      obtain ⟨first, hfirst, hsame, hleast⟩ := exists_first hrow
      have hmem := h.live first hfirst (hsame ▸ hlive) (.inl hleast)
      rw [mem_bounded, retained_iff, hsame, evicted_iff, not_and] at hmem
      exact Nat.not_lt.mp (hmem.2.1 hclosed)
    . intro row hrow hend hqueue hkept
      have hmem := h.ended row hrow hend (mem_queueIds_bounded.mpr ⟨hqueue, hkept⟩)
      rw [mem_bounded, retained_iff] at hmem
      exact ⟨hmem.1, hmem.2.2⟩
  . rintro ⟨hthere, hspares⟩
    constructor
    . intro row hrow hlive hwindow
      rw [mem_bounded, retained_iff]
      refine ⟨hthere row hrow hlive hwindow, ?_, hwindow.kept.of_sublist hsub⟩
      rw [evicted_iff, not_and, Nat.not_lt]
      exact hspares.room _ (mem_queueIds.mpr ⟨row, hrow, rfl⟩) hlive
    . intro row hrow hend hqueue
      rw [mem_queueIds_bounded] at hqueue
      obtain ⟨hmem, hkept⟩ := hspares.ended row hrow hend hqueue.1 hqueue.2
      rw [mem_bounded, retained_iff]
      exact ⟨hmem, hqueue.2, hkept⟩

end ProgressEventIndex

namespace ProgressStore

variable (json : ProgressJson)

def RefreshKeepsLive (limits : RetentionLimits) (self : ProgressStore) : Prop :=
  ∀ index, self.refresh json limits = .ok index →
    KeepsLive json limits (self.ledgerRows json) index.rows

/-
The rows that the index has, with those that the refresh reads, still have the window of every live queue;
and if they are bounded, they are spared.
-/
def RefreshSpares (limits : RetentionLimits) (self : ProgressStore) : Prop :=
  ∀ file gathered, self.events = some file → self.index.gather json file = .ok gathered →
    (∀ row ∈ self.ledgerRows json, Live json (self.ledgerRows json) row.queueId →
      InWindow limits (self.ledgerRows json) row → row ∈ gathered.rows)
    ∧ (progressEventRefreshMode file self.index.cursor ≠ .current →
      Spares json limits (self.ledgerRows json) gathered.rows)

variable {json} {limits : RetentionLimits} {self : ProgressStore}

structure Tracked (json : ProgressJson) (store : ProgressStore) (read : List UInt8) : Prop where
  attached : Attached json store read
  sublist : store.index.rows.Sublist (eventRows json 0 (rawLines read))
  ended : ∀ row ∈ eventRows json 0 (rawLines read),
    IsLatestEnd json (eventRows json 0 (rawLines read)) row →
      row.queueId ∈ queueIds store.index.rows → row ∈ store.index.rows

def WholeLines (action : ProgressAction) : Prop :=
  match action with
  | .append bytes _ => Closed bytes
  | .refresh _ => True

theorem tracked_start {events : Option LedgerFile} (hclosed : Closed (start events).bytes)
    : Tracked json (start events) [] where
  attached := attached_start hclosed
  sublist := List.nil_sublist _
  ended := by
    intro row hrow
    cases hrow

variable {read : List UInt8} {next : ProgressEventIndex}

theorem tracked_append {bytes : List UInt8} (h : Tracked json self read) (hclosed : Closed bytes)
    (modifiedAtUnixNanos : Nat)
    : Tracked json (self.append bytes modifiedAtUnixNanos) read := by
  have hattached := attached_append h.attached hclosed modifiedAtUnixNanos
  unfold append at hattached ⊢
  split at hattached
  . next hnil =>
    rw [if_pos hnil]
    exact h
  . next hne =>
    rw [if_neg hne]
    exact ⟨hattached, h.sublist, h.ended⟩

theorem ledgerRows_eq {file : LedgerFile} (hfile : self.events = some file) {rest : List UInt8}
    (h : Behind json self.index file read rest)
    : self.ledgerRows json = eventRows json 0 (rawLines (read ++ rest)) := by
  unfold ledgerRows
  rw [bytes_of_some hfile, h.bytes]

theorem gathered_sublist {file : LedgerFile} {index gathered : ProgressEventIndex}
    {rest : List UInt8} (h : Behind json index file read rest)
    (hsub : index.rows.Sublist (eventRows json 0 (rawLines read)))
    (hnext : Refreshed json limits index next file read rest gathered)
    : gathered.rows.Sublist (eventRows json 0 (rawLines (read ++ rest))) := by
  rw [eventRows_lines json h.readClosed]
  cases hnext.source with
  | inl happend =>
    rw [happend]
    exact hsub.append_right _
  | inr hall =>
    rw [hall.2]
    exact List.sublist_append_left _ _

theorem refreshKeepsLive_iff (h : Tracked json self read)
    (hrefresh : self.refresh json limits = .ok next)
    : RefreshKeepsLive json limits self ↔ self.RefreshSpares json limits := by
  have hkeeps : RefreshKeepsLive json limits self
      ↔ KeepsLive json limits (self.ledgerRows json) next.rows := by
    unfold RefreshKeepsLive
    rw [hrefresh]
    constructor
    . intro hall
      exact hall next rfl
    . intro hkeep index hindex
      obtain rfl := Except.ok.inj hindex
      exact hkeep
  rw [hkeeps]
  cases hfile : self.events with
  | none =>
    have hbytes : self.bytes = [] := by
      simp [bytes, hfile]
    have hnone : self.ledgerRows json = [] := by
      unfold ledgerRows
      rw [hbytes]
      rfl
    rw [hnone]
    constructor
    . intro _ file gathered hsome
      rw [hfile] at hsome
      cases hsome
    . intro _
      constructor
      . intro row hrow
        cases hrow
      . intro row hrow
        cases hrow
  | some file =>
    obtain ⟨rest, gathered, hbehind, hnext⟩ := refreshed_of_attached hfile h.attached hrefresh
    have hledger := ledgerRows_eq hfile hbehind
    have hsub := gathered_sublist hbehind h.sublist hnext
    rw [← hledger] at hsub
    have hspares : self.RefreshSpares json limits ↔
        (∀ row ∈ self.ledgerRows json, Live json (self.ledgerRows json) row.queueId →
          InWindow limits (self.ledgerRows json) row → row ∈ gathered.rows)
        ∧ (progressEventRefreshMode file self.index.cursor ≠ .current →
          Spares json limits (self.ledgerRows json) gathered.rows) := by
      unfold RefreshSpares
      rw [hfile]
      constructor
      . intro hall
        exact hall file gathered rfl hnext.gather
      . rintro hall other others ⟨⟩ hothers
        rw [hnext.gather] at hothers
        obtain rfl := Except.ok.inj hothers
        exact hall
    rw [hspares]
    cases hnext.rows with
    | inl hcurrent =>
      obtain ⟨hmode, hrest, hgathered, hsame⟩ := hcurrent
      rw [hsame, hgathered]
      constructor
      . intro hkeep
        exact ⟨hkeep.live, fun hne => absurd hmode hne⟩
      . intro hthere
        refine ⟨hthere.1, ?_⟩
        rw [hledger, hrest, List.append_nil]
        exact h.ended
    | inr hread =>
      obtain ⟨hmode, -, hrows⟩ := hread
      rw [hrows, keepsLive_bounded_iff hsub, forall_prop_of_true hmode]

theorem tracked_refresh (h : Tracked json self read)
    (hrefresh : self.refresh json limits = .ok next) (hkeep : RefreshKeepsLive json limits self)
    : ∃ read, Tracked json { self with index := next } read := by
  have hkeep := hkeep next hrefresh
  cases hfile : self.events with
  | none =>
    have hattached := h.attached
    rw [attached_none hfile] at hattached
    unfold refresh at hrefresh
    rw [hfile, hattached.1] at hrefresh
    obtain rfl := Except.ok.inj hrefresh
    refine ⟨[], ⟨rfl, rfl⟩, List.nil_sublist _, ?_⟩
    intro row hrow
    cases hrow
  | some file =>
    obtain ⟨rest, gathered, hbehind, hnext⟩ := refreshed_of_attached hfile h.attached hrefresh
    have hsub := gathered_sublist hbehind h.sublist hnext
    rw [ledgerRows_eq hfile hbehind] at hkeep
    refine ⟨read ++ rest, attached_refresh hbehind hnext, ?_, hkeep.ended⟩
    dsimp only
    cases hnext.rows with
    | inl hcurrent =>
      rw [hcurrent.2.2.2, ← hcurrent.2.2.1]
      exact hsub
    | inr hread =>
      rw [hread.2.2]
      exact (bounded_sublist limits _).trans hsub

/-
At every refresh that goes through, whatever its limits, the live queues keep their windows and the queues
that stay keep their latest terminal event, if and only if every one of them spares them.
-/
theorem live_queues_kept (json : ProgressJson) {events : Option LedgerFile}
    (hevents : Closed (start events).bytes) {actions : List ProgressAction}
    (hactions : ∀ action ∈ actions, WholeLines action)
    : Run.Guarded (step json)
          (fun self action => ∀ limits, action = .refresh limits → RefreshKeepsLive json limits self)
          (start events) actions
        ↔ Run.Guarded (step json)
          (fun self action => ∀ limits, action = .refresh limits →
            (self.refresh json limits).toBool → self.RefreshSpares json limits)
          (start events) actions := by
  have hside : Run.Guarded (step json) (fun _ action => WholeLines action) (start events) actions :=
    Run.guarded_of_forall (fun action haction _ => hactions action haction) _
  have hiff : ∀ self action, (∃ read, Tracked json self read) → WholeLines action →
      ((∀ limits, action = .refresh limits → (self.refresh json limits).toBool →
          self.RefreshSpares json limits)
        ↔ (∀ limits, action = .refresh limits → RefreshKeepsLive json limits self)) := by
    rintro self action ⟨read, h⟩ _
    apply forall_congr'
    intro limits
    apply forall_congr'
    intro _
    cases hrefresh : self.refresh json limits with
    | error e =>
      constructor
      . intro _ index hindex
        rw [hrefresh] at hindex
        cases hindex
      . intro _ hok
        cases hok
    | ok next =>
      rw [refreshKeepsLive_iff h hrefresh]
      simp [Except.toBool]
  refine (Run.guarded_congr (fun self => ∃ read, Tracked json self read) hiff ?_
    ⟨[], tracked_start hevents⟩ hside).symm
  rintro self action ⟨read, h⟩ hwhole hkeep
  cases action with
  | append bytes modifiedAtUnixNanos =>
    exact ⟨read, tracked_append h hwhole modifiedAtUnixNanos⟩
  | refresh limits =>
    unfold step
    dsimp only
    cases hrefresh : self.refresh json limits with
    | error e => exact ⟨read, h⟩
    | ok next => exact tracked_refresh h hrefresh (hkeep limits rfl)

section Decidable

variable (json) (limits : RetentionLimits) (ledger rows : List ProgressEventRow)

instance (queueId : String) : Decidable (Live json ledger queueId) :=
  inferInstanceAs (Decidable (∀ row ∈ ledger, _ → _))

instance (row : ProgressEventRow) : Decidable (IsFirst ledger row) :=
  inferInstanceAs (Decidable (∀ other ∈ ledger, _ → _))

instance (row : ProgressEventRow) : Decidable (IsLatestEnd json ledger row) :=
  inferInstanceAs (Decidable (_ ∧ ∀ other ∈ ledger, _ → _ → _))

instance (row : ProgressEventRow) : Decidable (IsLatestTerminal ledger row) :=
  inferInstanceAs (Decidable (_ ∧ ∀ other ∈ ledger, _ → _ → _))

instance (row : ProgressEventRow) : Decidable (InWindow limits ledger row) :=
  inferInstanceAs (Decidable (_ ∨ _))

instance (row : ProgressEventRow) : Decidable (Kept limits ledger row) :=
  inferInstanceAs (Decidable (_ ∨ _ ∨ _))

instance : Decidable (Spares json limits ledger rows) :=
  decidable_of_iff ((∀ queueId ∈ queueIds ledger, Live json ledger queueId →
      closed rows queueId = true → queueRank rows queueId ≤ limits.maxTerminalQueues)
    ∧ ∀ row ∈ ledger, IsLatestEnd json ledger row → row.queueId ∈ queueIds rows →
      ¬evicted limits rows row.queueId = true → row ∈ rows ∧ Kept limits rows row)
    ⟨fun h => ⟨h.1, h.2⟩, fun h => ⟨h.room, h.ended⟩⟩

end Decidable

/-
A queue at work beside two that ended, with room for one of them: then a third one ends, and the first is
done with a tool.
-/
def liveBesideEnded : List ProgressAction :=
  [.append (Text.utf8Bytes "c.\na!\nb!\n") 1, .refresh sampleLimits,
    .append (Text.utf8Bytes "d!\nc?\n") 2, .refresh sampleLimits]

theorem liveBesideEnded_spares {store : ProgressStore} {taken : Nat}
    (h : taken = 1 ∨ taken = 3)
    (hstore : store = Run.exec (step sampleJson) (start none) (liveBesideEnded.take taken))
    : store.RefreshSpares sampleJson sampleLimits := by
  have hspares : store.events.map (fun file =>
        (store.index.gather sampleJson file).toOption.map fun gathered => decide
          ((∀ row ∈ store.ledgerRows sampleJson,
              Live sampleJson (store.ledgerRows sampleJson) row.queueId →
              InWindow sampleLimits (store.ledgerRows sampleJson) row → row ∈ gathered.rows)
            ∧ Spares sampleJson sampleLimits (store.ledgerRows sampleJson) gathered.rows))
      = some (some true) := by
    obtain rfl | rfl := h
    . rw [hstore]
      decide +kernel
    . rw [hstore]
      decide +kernel
  intro file gathered hfile hgather
  rw [hfile, Option.map_some, hgather] at hspares
  have hspares := of_decide_eq_true (Option.some.inj (Option.some.inj hspares))
  exact ⟨hspares.1, fun _ => hspares.2⟩

theorem live_queues_kept_sample
    : Run.Guarded (step sampleJson)
        (fun self action => ∀ limits, action = .refresh limits →
          RefreshKeepsLive sampleJson limits self)
        (start none) liveBesideEnded := by
  refine (@live_queues_kept sampleJson none rfl liveBesideEnded ?_).mpr ?_
  . intro action haction
    simp only [liveBesideEnded, List.mem_cons, List.not_mem_nil, or_false] at haction
    obtain rfl | rfl | rfl | rfl := haction
    . show Closed _
      decide +kernel
    . trivial
    . show Closed _
      decide +kernel
    . trivial
  . refine ⟨fun _ h => (by cases h), ?_, fun _ h => (by cases h), ?_, trivial⟩
    . rintro _ ⟨⟩ _
      exact liveBesideEnded_spares (.inl rfl) rfl
    . rintro _ ⟨⟩ _
      exact liveBesideEnded_spares (.inr rfl) rfl

/-
A queue whose last event is a completed tool call, and one that ended: the first is live for the planner, and
dropped from the index for the second.
-/
theorem live_queue_dropped
    : ¬Run.Guarded (step sampleJson)
        (fun self action => ∀ limits, action = .refresh limits →
          RefreshKeepsLive sampleJson limits self)
        (start none) [.append (Text.utf8Bytes "a?\nb!\n") 1, .refresh sampleLimits] := by
  intro h
  have hkeeps : ∀ store, store = Run.exec (step sampleJson) (start none)
      [.append (Text.utf8Bytes "a?\nb!\n") 1] →
      ∃ row ∈ store.ledgerRows sampleJson, row.queueId = "a" ∧ row.lineNumber = 1
        ∧ (∀ other ∈ store.ledgerRows sampleJson, other.queueId = row.queueId →
          endsQueue sampleJson other = false)
        ∧ (store.refresh sampleJson sampleLimits).toOption.map (·.rows.map (·.queueId))
          = some ["b"] := by
    rintro _ rfl
    decide +kernel
  obtain ⟨row, hrow, hqueue, hline, hlive, hrefresh⟩ := hkeeps _ rfl
  have hkeep : RefreshKeepsLive sampleJson sampleLimits _ := h.2.1 sampleLimits rfl
  cases hindex : (Run.exec (step sampleJson) (start none)
      [.append (Text.utf8Bytes "a?\nb!\n") 1]).refresh sampleJson sampleLimits with
  | error e =>
    rw [hindex] at hrefresh
    cases hrefresh
  | ok index =>
    rw [hindex] at hrefresh
    have hrows : index.rows.map (·.queueId) = ["b"] := Option.some.inj hrefresh
    have hfirst : IsFirst (ProgressStore.ledgerRows sampleJson (Run.exec (step sampleJson) (start none)
        [.append (Text.utf8Bytes "a?\nb!\n") 1])) row := by
      intro other hother _
      have hlow := (mem_eventRows sampleJson hother).1
      omega
    have hmem := (hkeep index hindex).live row hrow hlive (.inl hfirst)
    have hqueues := List.mem_map_of_mem (f := (·.queueId)) hmem
    rw [hrows, hqueue] at hqueues
    simp at hqueues

end ProgressStore

end AgentProgress

/-!
The line that a planner has read, across compactions. Behind one the ledger has new line numbers and the index a
new generation, which starts at the first one again.
-/

namespace AgentProgress

open ChannelDelivery (LedgerFile rawLines Closed)
open ProgressEventIndex

section Last

variable {json : ProgressJson} {limits : RetentionLimits}

def LastLines (json : ProgressJson) (rows : List ProgressEventRow) (read : List UInt8) : Prop :=
  ∀ queueId ∈ queueIds rows,
    latestLine rows queueId = latestLine (eventRows json 0 (rawLines read)) queueId

theorem lastLines_append {rows : List ProgressEventRow} {read rest : List UInt8} (hread : Closed read)
    (h : LastLines json rows read) (hsub : rows.Sublist (eventRows json 0 (rawLines read)))
    : LastLines json (rows ++ eventRows json (rawLines read).length (rawLines rest)) (read ++ rest) := by
  intro queueId hqueue
  rw [eventRows_lines json hread]
  have hsorted : Ascending (eventRows json 0 (rawLines read)
      ++ eventRows json (rawLines read).length (rawLines rest)) := by
    rw [← eventRows_lines json hread]
    apply ascending_eventRows
  by_cases hmore : queueId ∈ queueIds (eventRows json (rawLines read).length (rawLines rest))
  . rw [latestLine_of_mem_more hsorted hsub.subset hmore,
      latestLine_of_mem_more hsorted (fun _ hrow => hrow) hmore]
  . rw [latestLine_append_of_notMem hmore, latestLine_append_of_notMem hmore]
    apply h
    rw [mem_queueIds_append] at hqueue
    exact hqueue.resolve_right hmore

theorem lastLines_bounded (hpositive : 0 < limits.eventsPerQueue) {rows : List ProgressEventRow}
    {read : List UInt8} (h : LastLines json rows read)
    : LastLines json (bounded limits rows) read := by
  intro queueId hqueue
  rw [mem_queueIds_bounded] at hqueue
  rw [latestLine_bounded hpositive hqueue.2]
  exact h queueId hqueue.1

end Last

section Files

variable {json : HistoryJson} {files : HistoryFiles}

structure Fitting (json : HistoryJson) (files : HistoryFiles) : Prop where
  unmarked : files.marker = none
  read : ∃ read,
    ProgressStore.Attached json.toProgressJson { events := files.events, index := files.index } read
      ∧ LastLines json.toProgressJson files.index.rows read
      ∧ files.index.rows.Sublist (eventRows json.toProgressJson 0 (rawLines read))

def ledgerRows (json : HistoryJson) (files : HistoryFiles) : List ProgressEventRow :=
  eventRows json.toProgressJson 0 (rawLines files.bytes)

theorem fitting_fresh {events : Option LedgerFile} (hmarker : files.marker = none)
    (hindex : files.index = {}) (hevents : files.events = events)
    (hclosed : Closed ((events.map (·.bytes)).getD []))
    : Fitting json files := by
  refine ⟨hmarker, [], ?_, ?_, ?_⟩
  . rw [hindex, hevents]
    exact ProgressStore.attached_start hclosed
  . rw [hindex]
    intro queueId hqueue
    cases hqueue
  . rw [hindex]
    exact List.nil_sublist _

theorem recovered_unmarked (h : files.marker = none) : recovered files = files := by
  unfold recovered recoverProgressHistoryCompactionIfNeeded
  simp only [Script.finish, h]

theorem succeeds_unmarked (h : files.marker = none)
    : recoverProgressHistoryCompactionIfNeeded.succeeds HistoryOp.apply files = true := by
  unfold recoverProgressHistoryCompactionIfNeeded
  simp only [Script.succeeds, h]

theorem fitting_append (h : Fitting json files) {bytes : List UInt8} (hclosed : Closed bytes)
    (modifiedAtUnixNanos : Nat)
    : Fitting json (historyStep json files (.append bytes modifiedAtUnixNanos)) := by
  unfold historyStep
  dsimp only
  rw [if_pos (succeeds_unmarked h.unmarked), recovered_unmarked h.unmarked]
  obtain ⟨read, hattached, hlast, hsub⟩ := h.read
  refine ⟨h.unmarked, read, ?_, hlast, hsub⟩
  cases hfile : files.events with
  | none =>
    rw [hfile, ProgressStore.attached_none rfl] at hattached
    refine ⟨bytes, ?_, ?_, hclosed, ?_, .inl hattached⟩
    . simp [HistoryFiles.bytes, hfile, hattached.2]
    . rw [hattached.2]
      exact ChannelDelivery.closed_nil
    . rw [hattached.2]
      exact List.forall_mem_nil _
  | some file =>
    rw [hfile, ProgressStore.attached_some rfl] at hattached
    obtain ⟨rest, hbehind⟩ := hattached
    refine ⟨rest ++ bytes, ?_, hbehind.readClosed, hbehind.restClosed.append hclosed, hbehind.readable,
      hbehind.stands⟩
    simp [HistoryFiles.bytes, hfile, hbehind.bytes, List.append_assoc]

theorem fitting_refresh {limits : RetentionLimits} (hpositive : 0 < limits.eventsPerQueue)
    (h : Fitting json files) {next : ProgressEventIndex}
    (hrefresh : files.index.refreshProgressEventIndexLocked json.toProgressJson limits files.events
      = .ok next)
    : Fitting json { files with index := next }
      ∧ LastLines json.toProgressJson next.rows files.bytes := by
  obtain ⟨read, hattached, hlast, hsub⟩ := h.read
  cases hfile : files.events with
  | none =>
    rw [hfile, ProgressStore.attached_none rfl] at hattached
    dsimp only at hattached
    rw [hfile, hattached.1] at hrefresh
    obtain rfl := Except.ok.inj hrefresh
    have hempty : LastLines json.toProgressJson [] files.bytes := by
      intro queueId hqueue
      cases hqueue
    refine ⟨@fitting_fresh json _ none h.unmarked rfl rfl ChannelDelivery.closed_nil, hempty⟩
  | some file =>
    rw [hfile, ProgressStore.attached_some rfl] at hattached
    obtain ⟨rest, hbehind⟩ := hattached
    rw [hfile] at hrefresh
    obtain ⟨gathered, hnext⟩ := ProgressStore.refreshed_of_ok hbehind hrefresh
    have hgathered : LastLines json.toProgressJson gathered.rows (read ++ rest)
        ∧ gathered.rows.Sublist (eventRows json.toProgressJson 0 (rawLines (read ++ rest))) := by
      refine ⟨?_, ProgressStore.gathered_sublist hbehind hsub hnext⟩
      cases hnext.source with
      | inl happend =>
        rw [happend]
        exact lastLines_append hbehind.readClosed hlast hsub
      | inr hall =>
        rw [hall.1, hall.2, List.append_nil]
        intro queueId _
        rfl
    have hrows : LastLines json.toProgressJson next.rows (read ++ rest)
        ∧ next.rows.Sublist (eventRows json.toProgressJson 0 (rawLines (read ++ rest))) := by
      cases hnext.rows with
      | inl hcurrent =>
        rw [hcurrent.2.2.2, ← hcurrent.2.2.1]
        exact hgathered
      | inr hread =>
        rw [hread.2.2]
        exact ⟨lastLines_bounded hpositive hgathered.1,
          (bounded_sublist limits _).trans hgathered.2⟩
    have hbytes : files.bytes = read ++ rest := by
      simp [HistoryFiles.bytes, hfile, hbehind.bytes]
    rw [hbytes]
    refine ⟨⟨h.unmarked, read ++ rest, ?_, hrows.1, hrows.2⟩, hrows.1⟩
    exact ProgressStore.attached_refresh hbehind hnext

theorem closed_flatMap {raws : List (List UInt8)}
    (h : ∀ raw ∈ raws, raw.getLast? = some TextFile.newline)
    : Closed raws.flatten := by
  induction raws with
  | nil => exact ChannelDelivery.closed_nil
  | cons raw raws ih =>
    rw [List.forall_mem_cons] at h
    rw [List.flatten_cons]
    apply ChannelDelivery.Closed.append
    . obtain ⟨front, hfront⟩ := List.getLast?_eq_some_iff.mp h.1
      rw [hfront]
      exact ChannelDelivery.closed_concat front
    . exact ih h.2

theorem closed_snapshotBy {call : CompactionCall} {bytes : List UInt8} (h : Closed bytes)
    : Closed (snapshotBy json call bytes) := by
  unfold snapshotBy HotProgressScan.snapshot
  rw [List.flatMap_def]
  apply closed_flatMap
  intro raw hraw
  obtain ⟨line, hline, rfl⟩ := List.mem_map.mp hraw
  have hmem := (List.mem_filter.mp hline).1
  unfold scanHotProgressEvents at hmem
  obtain ⟨original, horiginal, rfl⟩ := List.mem_map.mp hmem
  exact ChannelDelivery.complete_of_closed h original horiginal

theorem index_finish_swap (pending : HistoryCompactionPending) (original snapshot : List UInt8)
    (modifiedAtUnixNanos : Nat) (files : HistoryFiles)
    : ((swapProgressEvents pending original snapshot modifiedAtUnixNanos).finish HistoryOp.apply
        files).index = {} := by
  unfold swapProgressEvents writeProgressHistoryFile swapMarked
  simp only [Script.finish, HistoryOp.apply]
  refine @Script.finish_invariant _ _ HistoryOp.apply (fun files => files.index = {}) ?_ _ _ rfl
  intro op before after hop hbefore
  cases index_apply hop with
  | inl hsame => exact hsame.trans hbefore
  | inr hempty => exact hempty

theorem finish_compact (hmarker : files.marker = none) (call : CompactionCall)
    : let after := historyStep json files (.compact call)
      after.marker = none
        ∧ (after.events = files.events ∧ after.index = files.index
          ∨ after.index = {}
            ∧ ∃ file, after.events = some file ∧ file.bytes = snapshotBy json call files.bytes) := by
  have hstart : historyStep json files (.compact call)
      = (compactProgressHistoryLocked json call).finish HistoryOp.apply files := by
    unfold historyStep compactProgressHistory recoverProgressHistoryCompactionIfNeeded
    simp only [Script.andThen, Script.finish, hmarker]
  dsimp only
  rw [hstart]
  unfold compactProgressHistoryLocked
  simp only [Script.finish]
  split
  . exact ⟨hmarker, .inl ⟨rfl, rfl⟩⟩
  . split
    . exact ⟨hmarker, .inl ⟨rfl, rfl⟩⟩
    . next hmoved _ candidates _ =>
      simp only [Script.finish]
      cases hstage : HistoryOp.apply
          (.stage (pendingBy json call files).historyTransactionId candidates) files with
      | none => exact ⟨hmarker, .inl ⟨rfl, rfl⟩⟩
      | some found =>
        have hfound : found = {
            files with history := (planOf hmarker hmoved candidates).stagedHistory } := by
          simp only [HistoryOp.apply] at hstage
          repeat' split at hstage
          all_goals cases hstage
          rfl
        rw [hfound]
        have hended := (@Plan.completes_swap (planOf hmarker hmoved candidates)
          { files with history := (planOf hmarker hmoved candidates).stagedHistory }
          call.modifiedAtUnixNanos hmarker rfl rfl).finish.2
        exact ⟨hended.1, .inr ⟨index_finish_swap _ _ _ _ _, hended.2.1⟩⟩

end Files

section Runs

variable {json : HistoryJson} {home : DeliveryHome}

theorem closed_bytes (h : Fitting json home.files) : Closed home.files.bytes := by
  obtain ⟨read, hattached, -⟩ := h.read
  unfold HistoryFiles.bytes
  cases hfile : home.files.events with
  | none => exact ChannelDelivery.closed_nil
  | some file =>
    rw [hfile, ProgressStore.attached_some rfl] at hattached
    obtain ⟨rest, hbehind⟩ := hattached
    show Closed file.bytes
    rw [hbehind.bytes]
    exact hbehind.whole_closed

theorem fitting_compact (h : Fitting json home.files) (call : CompactionCall)
    : Fitting json (historyStep json home.files (.compact call)) := by
  obtain ⟨hmarker, hsame | ⟨hindex, file, hevents, hbytes⟩⟩ := finish_compact h.unmarked call
  . refine ⟨hmarker, ?_⟩
    rw [hsame.1, hsame.2]
    exact h.read
  . apply fitting_fresh hmarker hindex hevents
    show Closed file.bytes
    rw [hbytes]
    exact closed_snapshotBy (closed_bytes h)

theorem fitting_lookup (h : Fitting json home.files) {busy fresh : Bool} {index : ProgressEventIndex}
    (hindex : currentOrLastCommittedIndex json home.files busy = .ok (index, fresh))
    : Fitting json { home.files with index } := by
  unfold currentOrLastCommittedIndex at hindex
  split at hindex
  . cases hindex
    exact h
  . split at hindex
    . next hrefresh =>
      cases hindex
      exact (fitting_refresh (by decide) h hrefresh).1
    . split at hindex
      . cases hindex
        exact h
      . cases hindex

theorem fitting_planRecovered (h : Fitting json home.files) (call : PlanCall)
    : Fitting json (home.planRecovered json call).2.files := by
  unfold DeliveryHome.planRecovered
  dsimp only
  split
  . exact h
  . exact h
  . next hindex =>
    have hfitting := fitting_lookup h hindex
    split
    . exact hfitting
    . exact hfitting

def WholeAppend (action : DeliveryAction) : Prop :=
  match action with
  | .append bytes _ => Closed bytes
  | _ => True

theorem fitting_step (h : Fitting json home.files) {action : DeliveryAction}
    (hwhole : WholeAppend action)
    : Fitting json (home.step json action).files := by
  unfold DeliveryHome.step
  cases action with
  | append bytes modifiedAtUnixNanos => exact fitting_append h hwhole modifiedAtUnixNanos
  | compact call => exact fitting_compact h call
  | release statusSurfaceKey queueId => exact h
  | plan call =>
    dsimp only
    unfold DeliveryHome.planAgentProgressDelivery
    split
    . exact fitting_planRecovered h call
    . have hrecovered : recoverProgressHistoryCompactionIfNeeded.finish HistoryOp.apply home.files
          = home.files := recovered_unmarked h.unmarked
      dsimp only
      rw [hrecovered]
      split
      . exact fitting_planRecovered h call
      . exact h
  | record call =>
    dsimp only
    unfold DeliveryHome.recordAgentProgressDelivery DeliveryHome.recordIndex
    split
    . exact h
    . next index fresh hindex =>
      have hfitting : Fitting json { home.files with index } := by
        split at hindex
        . cases hindex
          exact h
        . exact fitting_lookup h hindex
      dsimp only
      split
      . exact hfitting
      . split
        . exact hfitting
        . exact hfitting

theorem refresh_of_freshIndex (h : Fitting json home.files) {call : PlanCall}
    {index : ProgressEventIndex} (hindex : home.freshIndex json call = some index)
    : home.files.index.refreshProgressEventIndexLocked json.toProgressJson progressEventIndexLimits
        home.files.events = .ok index := by
  have hrecovered : recoverProgressHistoryCompactionIfNeeded.finish HistoryOp.apply home.files
      = home.files := recovered_unmarked h.unmarked
  unfold DeliveryHome.freshIndex currentOrLastCommittedIndex at hindex
  dsimp only at hindex
  rw [hrecovered, if_pos (succeeds_unmarked h.unmarked)] at hindex
  simp only [Bool.false_eq_true, if_false] at hindex
  split at hindex
  . cases hindex
  . split at hindex
    . next hfound =>
      split at hfound
      . next hrefresh =>
        cases hfound
        cases hindex
        exact hrefresh
      . split at hfound
        . cases hfound
        . cases hfound
    . cases hindex

end Runs

/-
A home with the queues that got an event since the last fresh plan and were not moved to the cold history
behind it.
-/
structure WatchedHome where
  home : DeliveryHome
  due : List String := []

section Watched

variable (json : HistoryJson)

def newQueueIds (before after : HistoryFiles) : List String :=
  ((ledgerRows json after).filter fun row => row ∉ ledgerRows json before).map (·.queueId)

def WatchedHome.step (self : WatchedHome) (action : DeliveryAction) : WatchedHome :=
  let home := self.home.step json action
  { home
    due :=
      match action with
      | .append _ _ => self.due ++ newQueueIds json self.home.files home.files
      | .compact _ => self.due.filter (· ∈ queueIds (ledgerRows json home.files))
      | .plan call => if (self.home.freshIndex json call).isSome then [] else self.due
      | _ => self.due }

def consideredEvents (home : DeliveryHome) (call : PlanCall) (index : ProgressEventIndex)
    : FMap String (List StoredProgressEvent) :=
  allByQueue (home.delivery.trimmed call.options) (planSnapshot json home call index)

def NoneSkipped (self : WatchedHome) (call : PlanCall) : Prop :=
  ∀ index, self.home.freshIndex json call = some index → ∀ queueId ∈ self.due,
    ((consideredEvents json self.home call index).lookup queueId).isSome = true

/-
Every queue that is due is in the cache of the state, and the state is one of this index; or the index has it,
and the state knows it, is not one of this index, or has not read the last event of it in the ledger.
-/
def NoneBehind (self : WatchedHome) (call : PlanCall) : Prop :=
  ∀ index, self.home.freshIndex json call = some index → ∀ queueId ∈ self.due,
    let state := self.home.delivery.trimmed call.options
    let after := self.home.delivery.ledger
    index.snapshotReset after = false ∧ (state.compactedEvents.lookup queueId).isSome = true
      ∨ queueId ∈ queueIds index.rows
        ∧ (queueId ∈ state.knownQueueIds
          ∨ after.indexProjectionGeneration = 0
          ∨ index.snapshotReset after = true
          ∨ after.lineNumber < latestLine (ledgerRows json self.home.files) queueId)

variable {json}

theorem considered_iff {home : DeliveryHome} {call : PlanCall} {index : ProgressEventIndex}
    (hplan : FreshPlan json home call index) (queueId : String)
    : ((consideredEvents json home call index).lookup queueId).isSome = true
        ↔ index.snapshotReset home.delivery.ledger = false
            ∧ ((home.delivery.trimmed call.options).compactedEvents.lookup queueId).isSome = true
          ∨ queueId ∈ queueIds index.rows
            ∧ Selected index (home.delivery.trimmed call.options).knownQueueIds home.delivery.ledger
              queueId := by
  unfold consideredEvents
  rw [lookup_allByQueue, hplan.reset, Option.isSome_map]
  obtain ⟨hevents, hqueue⟩ | ⟨hevents, hnot⟩ := hplan.events queueId
  . rw [hevents, Option.some_or]
    simp [hqueue]
  . rw [hevents, Option.none_or]
    simp only [hnot, or_false]
    cases index.snapshotReset home.delivery.ledger with
    | true => simp
    | false => simp

theorem noneSkipped_iff {self : WatchedHome} (hsound : IndexSound json.toProgressJson self.home.files.index)
    (hfitting : Fitting json self.home.files) (call : PlanCall)
    : NoneSkipped json self call ↔ NoneBehind json self call := by
  unfold NoneSkipped NoneBehind
  apply forall_congr'
  intro index
  apply forall_congr'
  intro hindex
  apply forall_congr'
  intro queueId
  apply forall_congr'
  intro _
  have hplan := freshPlan_of_freshIndex hsound hindex
  have hlast := (fitting_refresh (by decide) hfitting (refresh_of_freshIndex hfitting hindex)).2
  rw [considered_iff hplan]
  dsimp only
  apply or_congr_right
  apply and_congr_right
  intro hqueue
  unfold Selected
  rw [hlast queueId hqueue]
  rfl

theorem none_skipped_iff (json : HistoryJson) {events : Option LedgerFile}
    (hevents : Closed (DeliveryHome.start events).files.bytes) {actions : List DeliveryAction}
    (hactions : ∀ action ∈ actions, WholeAppend action)
    : Run.Guarded (WatchedHome.step json)
          (fun self action => ∀ call, action = .plan call → NoneSkipped json self call)
          { home := DeliveryHome.start events } actions
        ↔ Run.Guarded (WatchedHome.step json)
          (fun self action => ∀ call, action = .plan call → NoneBehind json self call)
          { home := DeliveryHome.start events } actions := by
  have hside : Run.Guarded (WatchedHome.step json) (fun _ action => WholeAppend action)
      { home := DeliveryHome.start events } actions :=
    Run.guarded_of_forall (fun action haction _ => hactions action haction) _
  refine Run.guarded_congr (fun self => IndexSound json.toProgressJson self.home.files.index
    ∧ Fitting json self.home.files) ?_ ?_ ⟨indexSound_empty, @fitting_fresh json _ events rfl rfl rfl hevents⟩ hside
  . rintro self action ⟨hsound, hfitting⟩ _
    apply forall_congr'
    intro call
    apply forall_congr'
    intro _
    exact noneSkipped_iff hsound hfitting call
  . rintro self action ⟨hsound, hfitting⟩ hwhole _
    exact ⟨indexSound_step hsound action, fitting_step hfitting hwhole⟩

end Watched

section Sample

-- a queue and a sign for its event, which is `z` for the last one
def signedLine (text : String) : Except String AgentProgressEvent :=
  match text.toList with
  | [queue, 'z'] => .ok (sampleLedgerEvent queue.toString text .completed)
  | [queue, _] => .ok (sampleLedgerEvent queue.toString text .progress)
  | _ => .error "expected value"

def signedJson : HistoryJson where
  event := signedLine
  eventOfSlice bytes :=
    match TextFile.decode bytes with
    | some text => signedLine text
    | none => .error "invalid unicode code point"
  render event := event.preview

def signedCall : CompactionCall where
  policy := { maxHotBytes := 0, maxTerminalQueues := 0 }
  deliveredTerminalEvents := [("a", "progress-event-az")]
  nowMs := 1
  processId := 1
  sequence := 0
  modifiedAtUnixNanos := 2

def plannedAcrossCompaction : List DeliveryAction :=
  [.append (Text.utf8Bytes "a1\naz\nb1\n") 1, .plan (planFor none), .compact signedCall,
    .append (Text.utf8Bytes "b2\n") 3, .plan (planFor none)]

-- what a plan has to read is of a queue that an earlier plan has seen, or the index is read from its start
theorem plannedAcrossCompaction_behind {self : WatchedHome} {taken : Nat}
    (h : taken = 1 ∨ taken = 4)
    (hself : self = Run.exec (WatchedHome.step signedJson) { home := DeliveryHome.start none }
      (plannedAcrossCompaction.take taken))
    : NoneBehind signedJson self (planFor none) := by
  have hbehind : (self.home.freshIndex signedJson (planFor none)).map (fun index => decide
        (∀ queueId ∈ self.due, queueId ∈ queueIds index.rows
          ∧ (queueId ∈ (self.home.delivery.trimmed (planFor none).options).knownQueueIds
            ∨ self.home.delivery.ledger.indexProjectionGeneration = 0)))
      = some true := by
    obtain rfl | rfl := h
    . rw [hself]
      decide +kernel
    . rw [hself]
      decide +kernel
  intro index hindex queueId hqueue
  rw [hindex, Option.map_some, Option.some.injEq] at hbehind
  obtain ⟨hrows, hseen⟩ := of_decide_eq_true hbehind queueId hqueue
  exact .inr ⟨hrows, hseen.imp_right .inl⟩

theorem none_skipped_iff_sample
    : Run.Guarded (WatchedHome.step signedJson)
        (fun self action => ∀ call, action = .plan call → NoneSkipped signedJson self call)
        { home := DeliveryHome.start none } plannedAcrossCompaction := by
  refine (@none_skipped_iff signedJson none rfl plannedAcrossCompaction ?_).mpr ?_
  . intro action haction
    simp only [plannedAcrossCompaction, List.mem_cons, List.not_mem_nil, or_false] at haction
    obtain rfl | rfl | rfl | rfl | rfl := haction
    . show Closed _
      decide +kernel
    . trivial
    . trivial
    . show Closed _
      decide +kernel
    . trivial
  . refine ⟨fun _ h => (by cases h), ?_, fun _ h => (by cases h), fun _ h => (by cases h), ?_,
      trivial⟩
    . rintro _ ⟨⟩
      exact plannedAcrossCompaction_behind (.inl rfl) rfl
    . rintro _ ⟨⟩
      exact plannedAcrossCompaction_behind (.inr rfl) rfl

def relocated : List DeliveryAction :=
  [.append (Text.utf8Bytes "a1\naz\n") 1, .plan (planFor none), .compact signedCall,
    .append (Text.utf8Bytes "b1\nb2\n") 3]

theorem skipped_across_compaction
    : ¬Run.Guarded (WatchedHome.step signedJson)
        (fun self action => ∀ call, action = .plan call → NoneSkipped signedJson self call)
        { home := DeliveryHome.start none } (relocated ++ [.plan (planFor none)]) := by
  intro h
  rw [Run.guarded_append] at h
  have hnone := h.2.1 _ rfl
  have hfacts : ∀ self, self = Run.exec (WatchedHome.step signedJson)
        { home := DeliveryHome.start none } relocated →
      (self.home.freshIndex signedJson (planFor none)).map (fun index =>
          ((consideredEvents signedJson self.home (planFor none) index).lookup "b").isSome) = some false
        ∧ "b" ∈ self.due := by
    rintro _ rfl
    decide +kernel
  obtain ⟨hconsidered, hdue⟩ := hfacts _ rfl
  obtain ⟨index, hindex, hmissing⟩ := Option.map_eq_some_iff.mp hconsidered
  rw [hnone index hindex "b" hdue] at hmissing
  cases hmissing

end Sample

end AgentProgress
