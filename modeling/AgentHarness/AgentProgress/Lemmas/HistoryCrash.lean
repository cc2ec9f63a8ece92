import AgentHarness.AgentProgress.Lemmas.HistoryRead

/-!
A compaction of the progress history that a crash cuts short.
-/

namespace AgentProgress

open ChannelDelivery (LedgerFile rawLines)

-- `read_progress_history_for_queue_ids`; `none` is a recovery that fails
def readProgressHistoryForQueueIds (json : HistoryJson) (files : HistoryFiles)
    (queueIds : List String)
    : Option (Except IoError (List ProgressHistoryRecord)) :=
  if queueIds = [] then
    some (.ok [])
  else if recoverProgressHistoryCompactionIfNeeded.succeeds HistoryOp.apply files then
    let recovered := recoverProgressHistoryCompactionIfNeeded.finish HistoryOp.apply files
    some (readProgressHistoryLocked json recovered queueIds)
  else
    none

def staged (history : List HistoryTransaction) (transactionId : String)
    (candidates : List HistoryCandidate)
    : List HistoryTransaction :=
  history ++ [{ transactionId, committed := false, events := candidates }]

theorem commitTransaction_staged {history : List HistoryTransaction} {transactionId : String}
    (hfresh : ∀ transaction ∈ history, transaction.transactionId ≠ transactionId)
    (candidates : List HistoryCandidate)
    : commitTransaction transactionId (staged history transactionId candidates)
        = history ++ [{ transactionId, committed := true, events := candidates }] := by
  unfold commitTransaction staged
  rw [List.map_append, List.map_singleton, if_pos rfl]
  congr 1
  conv => rhs; rw [← List.map_id history]
  apply List.map_congr_left
  intro transaction hmem
  rw [if_neg (hfresh transaction hmem)]
  rfl

theorem commitTransaction_idem (transactionId : String) (history : List HistoryTransaction)
    : commitTransaction transactionId (commitTransaction transactionId history)
        = commitTransaction transactionId history := by
  unfold commitTransaction
  rw [List.map_map]
  apply List.map_congr_left
  intro transaction _
  dsimp only [Function.comp]
  by_cases hid : transaction.transactionId = transactionId
  . simp [hid]
  . simp [hid]

theorem any_commitTransaction (transactionId : String) (history : List HistoryTransaction)
    : (commitTransaction transactionId history).any (·.transactionId = transactionId)
        = history.any (·.transactionId = transactionId) := by
  unfold commitTransaction
  rw [List.any_map]
  congr 1
  funext transaction
  dsimp only [Function.comp]
  split <;> rfl

theorem any_staged (history : List HistoryTransaction) (transactionId : String)
    (candidates : List HistoryCandidate)
    : (staged history transactionId candidates).any (·.transactionId = transactionId) = true := by
  simp [staged]

structure Plan where
  before : HistoryFiles
  pending : HistoryCompactionPending
  candidates : List HistoryCandidate
  snapshot : List UInt8
  schema : pending.schema = compactionPendingSchema
  named : Text.trim pending.historyTransactionId ≠ ""
  expectedBytes : pending.expectedHotBytes = snapshot.length
  expectedDigest : pending.expectedHotDigest = progressHistoryDigest snapshot
  shorter : snapshot.length < before.bytes.length
  unmarked : before.marker = none

namespace Plan

variable (self : Plan)

def stagedHistory : List HistoryTransaction :=
  staged self.before.history self.pending.historyTransactionId self.candidates

def committedHistory : List HistoryTransaction :=
  commitTransaction self.pending.historyTransactionId self.stagedHistory

def Swapped (files : HistoryFiles) : Prop :=
  (∃ file, files.events = some file ∧ file.bytes = self.snapshot)
    ∧ (files.history = self.stagedHistory ∨ files.history = self.committedHistory)

def Prepared (files : HistoryFiles) : Prop :=
  (files.events = self.before.events ∨ files.events = none)
    ∧ (∃ file, files.scratch.lookup self.pending.tempFile = some file ∧ file.bytes = self.snapshot)
    ∧ files.history = self.stagedHistory

def Untouched (files : HistoryFiles) : Prop :=
  files.events = self.before.events
    ∧ (files.history = self.before.history ∨ files.history = self.stagedHistory)

def Done (files : HistoryFiles) : Prop :=
  (∃ file, files.events = some file ∧ file.bytes = self.snapshot)
    ∧ files.history = self.committedHistory

def Underway (files : HistoryFiles) : Prop :=
  (files.marker = none ∧ self.Done files)
    ∨ (files.marker = some self.pending ∧ (self.Swapped files ∨ self.Prepared files))

def Ended (files : HistoryFiles) : Prop :=
  files.marker = none ∧ self.Done files

def Recoverable (files : HistoryFiles) : Prop :=
  (files.marker = none ∧ self.Untouched files) ∨ self.Underway files

variable {self} {files : HistoryFiles}

theorem matches_snapshot {events : Option LedgerFile}
    (h : ∃ file, events = some file ∧ file.bytes = self.snapshot)
    : progressHistoryFileMatches events self.pending.expectedHotBytes self.pending.expectedHotDigest
        = true := by
  obtain ⟨file, rfl, hbytes⟩ := h
  rw [self.expectedBytes, self.expectedDigest, ← hbytes]
  simp [progressHistoryFileMatches]

theorem not_matches_before
    : progressHistoryFileMatches self.before.events self.pending.expectedHotBytes
        self.pending.expectedHotDigest = false := by
  have hshorter := self.shorter
  rw [self.expectedBytes]
  unfold progressHistoryFileMatches
  unfold HistoryFiles.bytes at hshorter
  cases hevents : self.before.events with
  | none => rfl
  | some file =>
    rw [hevents] at hshorter
    have hne : file.bytes.length ≠ self.snapshot.length := by
      simp only [Option.map_some, Option.getD_some] at hshorter
      omega
    simp [hne]

theorem apply_commit (h : files.history = self.stagedHistory ∨ files.history = self.committedHistory)
    : HistoryOp.apply (.commit self.pending.historyTransactionId) files
        = some { files with history := self.committedHistory } := by
  have hany : files.history.any (·.transactionId = self.pending.historyTransactionId) = true := by
    cases h with
    | inl hstaged =>
      rw [hstaged]
      apply any_staged
    | inr hcommitted =>
      rw [hcommitted, committedHistory, any_commitTransaction]
      apply any_staged
  unfold HistoryOp.apply
  dsimp only
  rw [if_pos hany]
  cases h with
  | inl hstaged => rw [hstaged, committedHistory]
  | inr hcommitted => rw [hcommitted, committedHistory, commitTransaction_idem]

theorem apply_renameToEvents {name : ScratchName} {file : LedgerFile}
    (h : files.scratch.lookup name = some file)
    : HistoryOp.apply (.renameToEvents name) files
        = some { files with events := some file, scratch := files.scratch.erase name } := by
  simp [HistoryOp.apply, h]

section Steps

variable {onError rest : HistoryScript}

theorem Done.swapped (h : self.Done files) : self.Swapped files :=
  ⟨h.1, .inr h.2⟩

theorem completes_removeMarker (hmarker : files.marker = some self.pending)
    (hdone : self.Done files)
    : Script.Completes HistoryOp.apply self.Underway self.Ended
        (.op .removeMarker onError .done) files := by
  apply Script.Completes.op rfl
  . exact .inr ⟨hmarker, .inl hdone.swapped⟩
  . exact ⟨.inl ⟨rfl, hdone⟩, rfl, hdone⟩

theorem completes_removeFile {name : ScratchName} (hmarker : files.marker = some self.pending)
    (hdone : self.Done files)
    (h : ∀ files, files.marker = some self.pending → self.Done files →
      Script.Completes HistoryOp.apply self.Underway self.Ended rest files)
    : Script.Completes HistoryOp.apply self.Underway self.Ended
        (.op (.removeFile name) onError rest) files := by
  apply Script.Completes.op rfl
  . exact .inr ⟨hmarker, .inl hdone.swapped⟩
  . exact h _ hmarker hdone

theorem completes_commit (hmarker : files.marker = some self.pending)
    (hswapped : self.Swapped files)
    (h : ∀ files, files.marker = some self.pending → self.Done files →
      Script.Completes HistoryOp.apply self.Underway self.Ended rest files)
    : Script.Completes HistoryOp.apply self.Underway self.Ended
        (.op (.commit self.pending.historyTransactionId) onError rest) files := by
  apply Script.Completes.op (apply_commit hswapped.2)
  . exact .inr ⟨hmarker, .inl hswapped⟩
  . exact h _ hmarker ⟨hswapped.1, rfl⟩

theorem completes_replace (hmarker : files.marker = some self.pending)
    (hprepared : self.Prepared files)
    (h : ∀ files, files.marker = some self.pending → self.Swapped files →
      Script.Completes HistoryOp.apply self.Underway self.Ended rest files)
    : Script.Completes HistoryOp.apply self.Underway self.Ended
        (replaceProgressEventsFile self.pending.tempFile onError rest) files := by
  obtain ⟨file, hlookup, hbytes⟩ := hprepared.2.1
  apply Script.Completes.op rfl
  . exact .inr ⟨hmarker, .inr hprepared⟩
  . refine Script.Completes.op (@apply_renameToEvents { files with events := none } _ _ hlookup) ?_ ?_
    . exact .inr ⟨hmarker, .inr ⟨.inr rfl, hprepared.2⟩⟩
    . exact h _ hmarker ⟨⟨file, rfl, hbytes⟩, .inl hprepared.2.2⟩

theorem completes_swapMarked (hmarker : files.marker = some self.pending)
    (hprepared : self.Prepared files)
    : Script.Completes HistoryOp.apply self.Underway self.Ended (swapMarked self.pending) files := by
  apply Script.Completes.op rfl
  . exact .inr ⟨hmarker, .inr hprepared⟩
  . refine @completes_replace self { files with index := {} } _ _ hmarker hprepared ?_
    intro files hmarker hswapped
    refine ⟨.inr ⟨hmarker, .inl hswapped⟩, ?_⟩
    dsimp only
    rw [if_pos (matches_snapshot hswapped.1)]
    apply completes_commit hmarker hswapped
    intro files hmarker hdone
    apply completes_removeFile hmarker hdone
    intro files hmarker hdone
    apply completes_removeFile hmarker hdone
    intro files hmarker hdone
    exact completes_removeMarker hmarker hdone

theorem completes_recover_underway (h : self.Underway files)
    : Script.Completes HistoryOp.apply self.Underway self.Ended
        recoverProgressHistoryCompactionIfNeeded files := by
  refine ⟨h, ?_⟩
  dsimp only
  cases h with
  | inl hended =>
    rw [hended.1]
    exact ⟨.inl hended, hended⟩
  | inr hmarked =>
    obtain ⟨hmarker, hstate⟩ := hmarked
    rw [hmarker]
    unfold recoverFromMarker
    dsimp only
    rw [if_neg (by simp [self.schema, self.named])]
    cases hstate with
    | inl hswapped =>
      rw [if_pos (matches_snapshot hswapped.1)]
      apply Script.Completes.op rfl
      . exact .inr ⟨hmarker, .inl hswapped⟩
      . refine @completes_commit self { files with index := {} } _ _ hmarker hswapped ?_
        intro files hmarker hdone
        apply completes_removeFile hmarker hdone
        intro files hmarker hdone
        apply completes_removeFile hmarker hdone
        intro files hmarker hdone
        exact completes_removeMarker hmarker hdone
    | inr hprepared =>
      have hnot : progressHistoryFileMatches files.events self.pending.expectedHotBytes
          self.pending.expectedHotDigest = false := by
        cases hprepared.1 with
        | inl hsame =>
          rw [hsame]
          exact not_matches_before
        | inr hgone =>
          rw [hgone]
          rfl
      rw [if_neg (by simp [hnot]), if_pos (matches_snapshot hprepared.2.1)]
      apply Script.Completes.op rfl
      . exact .inr ⟨hmarker, .inr hprepared⟩
      . refine @completes_replace self { files with index := {} } _ _ hmarker hprepared ?_
        intro files hmarker hswapped
        apply completes_commit hmarker hswapped
        intro files hmarker hdone
        apply completes_removeFile hmarker hdone
        intro files hmarker hdone
        exact completes_removeMarker hmarker hdone

theorem completes_recover (h : self.Recoverable files)
    : Script.Completes HistoryOp.apply self.Recoverable (·.marker = none)
        recoverProgressHistoryCompactionIfNeeded files := by
  cases h with
  | inl huntouched =>
    refine ⟨.inl huntouched, ?_⟩
    dsimp only
    rw [huntouched.1]
    exact ⟨.inl huntouched, huntouched.1⟩
  | inr hunderway =>
    refine (completes_recover_underway hunderway).mono ?_ ?_
    . intro files hfiles
      exact .inr hfiles
    . intro files hfiles
      exact hfiles.1

theorem completes_scratch {op : HistoryOp} {scratch : FMap ScratchName LedgerFile}
    (hmarker : files.marker = none) (hevents : files.events = self.before.events)
    (hhistory : files.history = self.stagedHistory)
    (happly : HistoryOp.apply op files = some { files with scratch })
    (h : ∀ files : HistoryFiles, files.marker = none → files.events = self.before.events →
      files.history = self.stagedHistory → files.scratch = scratch →
      Script.Completes HistoryOp.apply self.Recoverable self.Ended rest files)
    : Script.Completes HistoryOp.apply self.Recoverable self.Ended
        (.op op onError rest) files := by
  apply Script.Completes.op happly
  . exact .inl ⟨hmarker, hevents, .inr hhistory⟩
  . exact h _ hmarker hevents hhistory rfl

theorem completes_swap (modifiedAtUnixNanos : Nat) (hmarker : files.marker = none)
    (hevents : files.events = self.before.events) (hhistory : files.history = self.stagedHistory)
    : Script.Completes HistoryOp.apply self.Recoverable self.Ended
        (swapProgressEvents self.pending self.before.bytes self.snapshot modifiedAtUnixNanos)
        files := by
  unfold swapProgressEvents writeProgressHistoryFile
  dsimp only
  apply completes_scratch hmarker hevents hhistory rfl
  intro files hmarker hevents hhistory _
  apply completes_scratch hmarker hevents hhistory rfl
  intro files hmarker hevents hhistory _
  apply completes_scratch hmarker hevents hhistory rfl
  intro files hmarker hevents hhistory _
  apply completes_scratch hmarker hevents hhistory rfl
  intro files hmarker hevents hhistory hscratch
  have hprepared : self.Prepared files := by
    refine ⟨.inl hevents, ⟨{ bytes := self.snapshot, modifiedAtUnixNanos }, ?_, rfl⟩, hhistory⟩
    rw [hscratch, FMap.lookup_insert_eq, if_pos rfl]
  apply Script.Completes.op rfl
  . exact .inl ⟨hmarker, hevents, .inr hhistory⟩
  . have hmarked := @completes_swapMarked self { files with marker := some self.pending } rfl hprepared
    refine hmarked.mono ?_ fun _ h => h
    intro files hfiles
    exact .inr hfiles

end Steps

end Plan

-- the plan is the one that the compaction of these files makes
structure Plan.Of (json : HistoryJson) (call : CompactionCall) (before : HistoryFiles) (plan : Plan)
    : Prop where
  start : plan.before = before
  snapshot : plan.snapshot = snapshotBy json call before.bytes
  candidates : (movedBy json call before.bytes).mapM (historyCandidateFromEventLine json)
    = .ok plan.candidates
  fresh : ∀ transaction ∈ before.history,
    transaction.transactionId ≠ plan.pending.historyTransactionId

def Compacting (json : HistoryJson) (call : CompactionCall) (before files : HistoryFiles) : Prop :=
  files = before ∨ ∃ plan, Plan.Of json call before plan ∧ plan.Recoverable files

variable {json : HistoryJson} {call : CompactionCall} {before files : HistoryFiles}

theorem trim_nextProgressHistoryTransactionId (source : List UInt8)
    : Text.trim (nextProgressHistoryTransactionId call source) ≠ "" := by
  have hhead : ∃ rest, (nextProgressHistoryTransactionId call source).toList = 'p' :: rest := by
    unfold nextProgressHistoryTransactionId
    simp [String.toList_append]
  obtain ⟨rest, hhead⟩ := hhead
  intro h
  have hchars := congrArg String.toList h
  unfold Text.trim at hchars
  rw [hhead, String.toList_ofList, List.dropWhile_cons_of_neg (by decide)] at hchars
  have hspace : ∀ ch ∈ ('p' :: rest).reverse, Text.isWhitespace ch = true :=
    List.dropWhile_eq_nil_iff.mp (List.reverse_eq_nil_iff.mp hchars)
  have hp := hspace 'p' (by simp)
  contradiction

def planOf (hmarker : before.marker = none) (hmoved : movedBy json call before.bytes ≠ [])
    (candidates : List HistoryCandidate)
    : Plan where
  before
  pending := pendingBy json call before
  candidates
  snapshot := snapshotBy json call before.bytes
  schema := rfl
  named := trim_nextProgressHistoryTransactionId _
  expectedBytes := rfl
  expectedDigest := rfl
  shorter := length_snapshotBy hmoved
  unmarked := hmarker

theorem durable_compact (hmarker : before.marker = none)
    : Script.Durable HistoryOp.apply (Compacting json call before)
        (compactProgressHistoryLocked json call) before := by
  apply Script.Durable.read
  dsimp only
  split
  . exact Script.Durable.done (.inl rfl)
  . next hmoved =>
    split
    . exact Script.Durable.failed (.inl rfl)
    . next candidates hcandidates =>
      refine Script.Durable.op (.inl rfl) ?_ ?_
      . intro _
        exact Script.Durable.failed (.inl rfl)
      . intro files hstage
        simp only [HistoryOp.apply] at hstage
        split at hstage
        . cases hstage
        . split at hstage
          . cases hstage
          . next hfresh =>
            split at hstage
            . cases hstage
              have hcompletes := @Plan.completes_swap (planOf hmarker hmoved candidates)
                { before with history := (planOf hmarker hmoved candidates).stagedHistory }
                call.modifiedAtUnixNanos hmarker rfl rfl
              refine (hcompletes.mono ?_ fun _ hended => hended).durable
              intro files hfiles
              refine .inr ⟨_, ⟨rfl, rfl, hcandidates, ?_⟩, hfiles⟩
              intro transaction hmem hid
              exact hfresh (List.any_eq_true.mpr ⟨transaction, hmem, decide_eq_true hid⟩)
            . cases hstage

theorem durable_compactProgressHistory (hmarker : before.marker = none)
    : Script.Durable HistoryOp.apply (Compacting json call before)
        (compactProgressHistory json call) before := by
  unfold compactProgressHistory recoverProgressHistoryCompactionIfNeeded
  apply Script.Durable.read
  dsimp only
  rw [hmarker]
  exact durable_compact hmarker

theorem completes_recover_of_compacting (hmarker : before.marker = none)
    (h : Compacting json call before files)
    : Script.Completes HistoryOp.apply (Compacting json call before) (·.marker = none)
        recoverProgressHistoryCompactionIfNeeded files := by
  cases h with
  | inl hsame =>
    rw [hsame]
    refine ⟨.inl rfl, ?_⟩
    dsimp only
    rw [hmarker]
    exact ⟨.inl rfl, hmarker⟩
  | inr hplan =>
    obtain ⟨plan, hof, hrecoverable⟩ := hplan
    refine (Plan.completes_recover hrecoverable).mono ?_ fun _ h => h
    intro files hfiles
    exact .inr ⟨plan, hof, hfiles⟩

/-
What a compaction leaves that was cut short and recovered: every event is in one of the two places, the queues
are moved as they are, and an exact lookup finds what it found before.
-/
structure CrashAtomic (json : HistoryJson) (call : CompactionCall) (before after : HistoryFiles)
    : Prop where
  unmarked : after.marker = none
  hot : after.events = before.events ∨ after.bytes = snapshotBy json call before.bytes
  once : ∀ event ∈ hotEvents json before.bytes ++ coldEvents json before,
    Xor (event ∈ hotEvents json after.bytes) (event ∈ coldEvents json after)
  whole : ∀ queueId,
    queueLines json after.bytes queueId = queueLines json before.bytes queueId
      ∨ (queueLines json after.bytes queueId = []
        ∧ Movable (scanHotProgressEvents json before.bytes) call.deliveredTerminalEvents queueId)
  reads : ∀ queueIds, ∃ earlier later,
    readProgressHistoryForQueueIds json before queueIds = some (.ok earlier)
      ∧ readProgressHistoryForQueueIds json after queueIds = some (.ok later)
      ∧ (later.map (·.event)).Perm (earlier.map (·.event))
  consistent : Consistent json after

theorem coldEvents_of_committedRows {before after : HistoryFiles}
    (h : committedRows after = committedRows before)
    : coldEvents json after = coldEvents json before := by
  unfold coldEvents
  rw [h]

theorem committedRows_of_history {before after : HistoryFiles}
    (h : after.history.filter (·.committed) = before.history.filter (·.committed))
    : committedRows after = committedRows before := by
  unfold committedRows
  rw [h]

theorem Consistent.of_perm (hbefore : Consistent json before)
    (hfaithful : ∀ row ∈ committedRows files, Faithful json row)
    (hperm : (hotEvents json files.bytes ++ coldEvents json files).Perm
      (hotEvents json before.bytes ++ coldEvents json before))
    : Consistent json files where
  faithful := hfaithful
  distinct := by
    rw [(hperm.filterMap eventIdentity).nodup_iff]
    exact hbefore.distinct

theorem identity_of_mem_coldEvents (hfaithful : ∀ row ∈ committedRows files, Faithful json row)
    {event : AgentProgressEvent} (h : event ∈ coldEvents json files)
    : ∃ eventId, eventIdentity event = some eventId := by
  obtain ⟨row, hrow, hparse⟩ := List.mem_filterMap.mp h
  obtain ⟨found, hfound, hid, -, -⟩ := hfaithful row hrow
  rw [hfound] at hparse
  obtain rfl := Option.some.inj hparse
  exact ⟨_, hid⟩

theorem exists_read (hmarker : files.marker = none) (h : Consistent json files)
    (queueIds : List String)
    : ∃ records, readProgressHistoryForQueueIds json files queueIds = some (.ok records)
        ∧ (records.map (·.event)).Perm
          ((hotEvents json files.bytes ++ coldEvents json files).filter (·.queueId ∈ queueIds)) := by
  unfold readProgressHistoryForQueueIds
  split
  . next hnil =>
    refine ⟨[], rfl, ?_⟩
    simp [hnil]
  . obtain ⟨records, hread, hperm⟩ := exists_readProgressHistory h queueIds
    refine ⟨records, ?_, hperm⟩
    have hsucceeds : recoverProgressHistoryCompactionIfNeeded.succeeds HistoryOp.apply files = true := by
      unfold recoverProgressHistoryCompactionIfNeeded Script.succeeds
      dsimp only
      rw [hmarker]
      rfl
    have hfinish : recoverProgressHistoryCompactionIfNeeded.finish HistoryOp.apply files = files := by
      unfold recoverProgressHistoryCompactionIfNeeded Script.finish
      dsimp only
      rw [hmarker]
      rfl
    rw [if_pos hsucceeds, hfinish]
    dsimp only
    rw [hread]

theorem CrashAtomic.of_perm (hbefore : Consistent json before) (hunmarked : before.marker = none)
    (hmarker : files.marker = none)
    (hhot : files.events = before.events ∨ files.bytes = snapshotBy json call before.bytes)
    (hfaithful : ∀ row ∈ committedRows files, Faithful json row)
    (hperm : (hotEvents json files.bytes ++ coldEvents json files).Perm
      (hotEvents json before.bytes ++ coldEvents json before))
    : CrashAtomic json call before files := by
  have hconsistent := hbefore.of_perm hfaithful hperm
  refine ⟨hmarker, hhot, ?_, ?_, ?_, hconsistent⟩
  . intro event hevent
    rw [← hperm.mem_iff, List.mem_append] at hevent
    have hapart : ¬(event ∈ hotEvents json files.bytes ∧ event ∈ coldEvents json files) := by
      rintro ⟨hleft, hright⟩
      obtain ⟨eventId, hid⟩ := identity_of_mem_coldEvents hfaithful hright
      have hdistinct := hconsistent.distinct
      rw [List.filterMap_append, List.nodup_append] at hdistinct
      exact hdistinct.2.2 eventId (List.mem_filterMap.mpr ⟨event, hleft, hid⟩) eventId
        (List.mem_filterMap.mpr ⟨event, hright, hid⟩) rfl
    rw [xor_iff_or_and_not_and]
    exact ⟨hevent, hapart⟩
  . intro queueId
    cases hhot with
    | inl hsame =>
      refine .inl ?_
      unfold HistoryFiles.bytes
      rw [hsame]
    | inr hsnapshot =>
      rw [hsnapshot, queueLines_snapshotBy]
      split
      . next hselected => exact .inr ⟨rfl, HotProgressScan.movable_of_selected hselected⟩
      . exact .inl rfl
  . intro queueIds
    obtain ⟨earlier, hearlier, hleft⟩ := exists_read hunmarked hbefore queueIds
    obtain ⟨later, hlater, hright⟩ := exists_read hmarker hconsistent queueIds
    refine ⟨earlier, later, hearlier, hlater, ?_⟩
    exact hright.trans ((hperm.filter _).trans hleft.symm)

theorem events_of_candidates {moved : List QueueEventLine} {candidates : List HistoryCandidate}
    (hround : ∀ entry ∈ moved, json.event (json.render entry.event) = .ok entry.event)
    (h : moved.mapM (historyCandidateFromEventLine json) = .ok candidates)
    : candidates.filterMap (fun row => (json.event row.eventJson).toOption)
        = moved.map (·.event) := by
  have hall := Except.mapM_eq_ok.mp h
  clear h
  induction hall with
  | nil => rfl
  | cons hrow _ ih =>
    unfold historyCandidateFromEventLine at hrow
    rw [Except.bind_eq_ok] at hrow
    obtain ⟨eventId, -, hrow⟩ := hrow
    obtain rfl := Except.pure_eq_ok.mp hrow
    rw [List.forall_mem_cons] at hround
    rw [List.filterMap_cons, List.map_cons, hround.1, ih hround.2]
    rfl

theorem faithful_of_candidates {moved : List QueueEventLine} {candidates : List HistoryCandidate}
    (hround : ∀ entry ∈ moved, json.event (json.render entry.event) = .ok entry.event)
    (h : moved.mapM (historyCandidateFromEventLine json) = .ok candidates)
    (hqueue : ∀ entry ∈ moved, Text.trim entry.event.queueId ≠ "")
    : ∀ row ∈ candidates, Faithful json row := by
  have hall := Except.mapM_eq_ok.mp h
  clear h
  induction hall with
  | nil => simp
  | cons hrow _ ih =>
    rw [List.forall_mem_cons] at hqueue hround ⊢
    unfold historyCandidateFromEventLine at hrow
    rw [Except.bind_eq_ok] at hrow
    obtain ⟨eventId, hid, hrow⟩ := hrow
    obtain rfl := Except.pure_eq_ok.mp hrow
    rw [Except.ofOption_eq_ok] at hid
    exact ⟨⟨_, hround.1, hid, rfl, hqueue.1⟩, ih hround.2 hqueue.2⟩

theorem crashAtomic_of_untouched {plan : Plan} (hbefore : Consistent json before)
    (hunmarked : before.marker = none) (hof : Plan.Of json call before plan)
    (h : plan.Untouched files) (hmarker : files.marker = none)
    : CrashAtomic json call before files := by
  have hevents : files.events = before.events := by
    rw [h.1, hof.start]
  have hrows : committedRows files = committedRows before := by
    apply committedRows_of_history
    cases h.2 with
    | inl hhistory => rw [hhistory, hof.start]
    | inr hhistory =>
      rw [hhistory, Plan.stagedHistory, staged, hof.start, List.filter_append]
      simp
  apply CrashAtomic.of_perm hbefore hunmarked hmarker (.inl hevents)
  . rw [hrows]
    exact hbefore.faithful
  . unfold HistoryFiles.bytes
    rw [coldEvents_of_committedRows hrows, hevents]

theorem Plan.Of.history {plan : Plan} (hof : Plan.Of json call before plan) (h : plan.Done files)
    : files.history
        = before.history
          ++ [{
            transactionId := plan.pending.historyTransactionId
            committed := true
            events := plan.candidates }] := by
  have hfresh := hof.fresh
  rw [h.2, Plan.committedHistory, Plan.stagedHistory, hof.start, commitTransaction_staged hfresh]

theorem Plan.Of.bytes {plan : Plan} (hof : Plan.Of json call before plan) (h : plan.Done files)
    : files.bytes = snapshotBy json call before.bytes := by
  obtain ⟨⟨file, hevents, hbytes⟩, -⟩ := h
  rw [← hof.snapshot, ← hbytes]
  unfold HistoryFiles.bytes
  rw [hevents]
  rfl

theorem crashAtomic_of_done {plan : Plan}
    (hround : ∀ event ∈ hotEvents json before.bytes, json.event (json.render event) = .ok event)
    (hbefore : Consistent json before) (hunmarked : before.marker = none)
    (hof : Plan.Of json call before plan) (h : plan.Done files) (hmarker : files.marker = none)
    : CrashAtomic json call before files := by
  have hround : ∀ entry ∈ movedBy json call before.bytes,
      json.event (json.render entry.event) = .ok entry.event := by
    intro entry hentry
    apply hround
    rw [hotEvents_perm.mem_iff]
    exact List.mem_append_left _ (List.mem_map_of_mem hentry)
  have hrows : committedRows files = committedRows before ++ plan.candidates := by
    unfold committedRows
    rw [hof.history h, List.filter_append, List.flatMap_append]
    simp
  have hcold : coldEvents json files
      = coldEvents json before ++ (movedBy json call before.bytes).map (·.event) := by
    unfold coldEvents
    rw [hrows, List.filterMap_append, events_of_candidates hround hof.candidates]
  apply CrashAtomic.of_perm hbefore hunmarked hmarker (.inr (hof.bytes h))
  . intro row hrow
    rw [hrows, List.mem_append] at hrow
    cases hrow with
    | inl hold => exact hbefore.faithful row hold
    | inr hnew =>
      exact faithful_of_candidates hround hof.candidates (fun _ => queueId_of_moved) row hnew
  . rw [hof.bytes h, hcold]
    refine (List.perm_append_comm.append_left _).trans ?_
    rw [← List.append_assoc]
    exact (List.perm_append_comm.trans hotEvents_perm.symm).append_right _

theorem crashAtomic_of_compacting
    (hround : ∀ event ∈ hotEvents json before.bytes, json.event (json.render event) = .ok event)
    (hbefore : Consistent json before) (hunmarked : before.marker = none)
    (h : Compacting json call before files) (hmarker : files.marker = none)
    : CrashAtomic json call before files := by
  cases h with
  | inl hsame =>
    rw [hsame]
    exact CrashAtomic.of_perm hbefore hunmarked hunmarked (.inl rfl) hbefore.faithful (List.Perm.refl _)
  | inr hplan =>
    obtain ⟨plan, hof, hrecoverable⟩ := hplan
    cases hrecoverable with
    | inl huntouched => exact crashAtomic_of_untouched hbefore hunmarked hof huntouched.2 hmarker
    | inr hunderway =>
      cases hunderway with
      | inl hended => exact crashAtomic_of_done hround hbefore hunmarked hof hended.2 hmarker
      | inr hmarked =>
        rw [hmarker] at hmarked
        cases hmarked.1

/-
A compaction is cut short after any number of its steps, and so is any number of recoveries after it: the next
recovery succeeds.
-/
theorem compaction_is_crash_atomic
    (hround : ∀ event ∈ hotEvents json before.bytes, json.event (json.render event) = .ok event)
    (hbefore : Consistent json before) (hunmarked : before.marker = none) (crash : Nat)
    (crashes : List Nat)
    : let crashed := crashes.foldl
        (fun files n => recoverProgressHistoryCompactionIfNeeded.cut HistoryOp.apply n files)
        ((compactProgressHistory json call).cut HistoryOp.apply crash before)
      recoverProgressHistoryCompactionIfNeeded.succeeds HistoryOp.apply crashed = true
        ∧ CrashAtomic json call before
          (recoverProgressHistoryCompactionIfNeeded.finish HistoryOp.apply crashed) := by
  have hcrashed : Compacting json call before (crashes.foldl
      (fun files n => recoverProgressHistoryCompactionIfNeeded.cut HistoryOp.apply n files)
      ((compactProgressHistory json call).cut HistoryOp.apply crash before)) := by
    apply Script.durable_crashes
    . intro files hfiles
      exact (completes_recover_of_compacting hunmarked hfiles).durable
    . exact durable_compactProgressHistory hunmarked crash
  have hrecovers := completes_recover_of_compacting hunmarked hcrashed
  refine ⟨hrecovers.succeeds, ?_⟩
  exact crashAtomic_of_compacting hround hbefore hunmarked hrecovers.finish.1 hrecovers.finish.2

def sampleLedgerEvent (queueId text : String) (status : AgentProgressStatus)
    : AgentProgressEvent where
  schema := agentProgressEventSchema
  eventId := some ("progress-event-" ++ text)
  atMs := 1
  queueId
  agentId := none
  accountId := none
  threadId := none
  sessionKey := "session"
  platform := "telegram"
  channelId := "dm"
  userId := "user"
  kind := .runtime
  label := "run"
  preview := text
  status
  lifecycle := none
  elapsedMs := none
  source := none

def sampleLine (text : String) : Except String AgentProgressEvent :=
  if text = "a-1" then
    .ok (sampleLedgerEvent "a" text .progress)
  else if text = "a-2" then
    .ok (sampleLedgerEvent "a" text .completed)
  else if text = "b-1" then
    .ok (sampleLedgerEvent "b" text .progress)
  else
    .error "expected value"

def sampleHistoryJson : HistoryJson where
  event := sampleLine
  eventOfSlice bytes :=
    match TextFile.decode bytes with
    | some text => sampleLine text
    | none => .error "invalid unicode code point"
  render event := event.preview

def sampleFiles : HistoryFiles where
  events := some { bytes := Text.utf8Bytes "a-1\na-2\nb-1\n", modifiedAtUnixNanos := 1 }

def sampleCall : CompactionCall where
  policy := { maxHotBytes := 0, maxTerminalQueues := 0 }
  deliveredTerminalEvents := [("a", "progress-event-a-2")]
  nowMs := 1
  processId := 1
  sequence := 0
  modifiedAtUnixNanos := 2

theorem sampleFiles_consistent : Consistent sampleHistoryJson sampleFiles where
  faithful := by
    intro row hrow
    cases hrow
  distinct := by decide +kernel

theorem compaction_is_crash_atomic_sample
    : CrashAtomic sampleHistoryJson sampleCall sampleFiles
        (recoverProgressHistoryCompactionIfNeeded.finish HistoryOp.apply
          (recoverProgressHistoryCompactionIfNeeded.cut HistoryOp.apply 3
            ((compactProgressHistory sampleHistoryJson sampleCall).cut HistoryOp.apply 10 sampleFiles))) :=
  (@compaction_is_crash_atomic sampleHistoryJson sampleCall sampleFiles (by decide +kernel)
    sampleFiles_consistent rfl 10 [3]).2

end AgentProgress
