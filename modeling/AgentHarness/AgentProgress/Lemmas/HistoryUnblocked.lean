import AgentHarness.AgentProgress.Lemmas.HistoryCrash
import Mathlib.Data.Set.Finite.Basic
import Mathlib.Tactic.IntervalCases

/-!
Later compactions. Their rows are staged under the identities of the events, so that rows which a crash left
behind without a marker stand in the way of every compaction of the same events.
-/

namespace AgentProgress

open ChannelDelivery (LedgerFile rawLines)

inductive HistoryAction where
  | append (bytes : List UInt8) (modifiedAtUnixNanos : Nat)
  | compact (call : CompactionCall)

def recovered (files : HistoryFiles) : HistoryFiles :=
  recoverProgressHistoryCompactionIfNeeded.finish HistoryOp.apply files

def historyStep (json : HistoryJson) (files : HistoryFiles) (action : HistoryAction)
    : HistoryFiles :=
  match action with
  | .append bytes modifiedAtUnixNanos =>
    if recoverProgressHistoryCompactionIfNeeded.succeeds HistoryOp.apply files then
      let recovered := recovered files
      { recovered with events := some { bytes := recovered.bytes ++ bytes, modifiedAtUnixNanos } }
    else
      recovered files
  | .compact call => (compactProgressHistory json call).finish HistoryOp.apply files

def hotIds (json : HistoryJson) (bytes : List UInt8) : List String :=
  (hotEvents json bytes).filterMap eventIdentity

/-
What the program relies on: the events have identities of their own, and a compaction a transaction of its own.
-/
def Regular (json : HistoryJson) (files : HistoryFiles) (action : HistoryAction) : Prop :=
  match action with
  | .append bytes _ =>
    (hotIds json ((recovered files).bytes ++ bytes) ++ (recovered files).storedIds).Nodup
  | .compact call => ∀ transaction ∈ (recovered files).history,
    transaction.transactionId ≠ nextProgressHistoryTransactionId call (recovered files).bytes

structure Clean (json : HistoryJson) (files : HistoryFiles) : Prop where
  unmarked : files.marker = none
  committed : ∀ transaction ∈ files.history, transaction.committed = true
  distinct : (hotIds json files.bytes ++ files.storedIds).Nodup

def Ready (json : HistoryJson) (files : HistoryFiles) : Prop :=
  Script.Completes HistoryOp.apply (fun _ => True) (Clean json)
    recoverProgressHistoryCompactionIfNeeded files

variable {json : HistoryJson} {call : CompactionCall} {before files : HistoryFiles}

theorem Clean.ready (h : Clean json files) : Ready json files := by
  refine ⟨trivial, ?_⟩
  dsimp only
  rw [h.unmarked]
  exact ⟨trivial, h⟩

theorem hotIds_perm (json : HistoryJson) (call : CompactionCall) (bytes : List UInt8)
    : (hotIds json bytes).Perm
        ((movedBy json call bytes).filterMap (fun entry => eventIdentity entry.event)
          ++ hotIds json (snapshotBy json call bytes)) := by
  unfold hotIds
  have hperm := (@hotEvents_perm json bytes call).filterMap eventIdentity
  rw [List.filterMap_append, List.filterMap_map] at hperm
  exact hperm

theorem ids_of_candidates {moved : List QueueEventLine} {candidates : List HistoryCandidate}
    (h : moved.mapM (historyCandidateFromEventLine json) = .ok candidates)
    : candidates.map (·.eventId) = moved.filterMap fun entry => eventIdentity entry.event := by
  have hall := Except.mapM_eq_ok.mp h
  clear h
  induction hall with
  | nil => rfl
  | cons hrow _ ih =>
    unfold historyCandidateFromEventLine at hrow
    rw [Except.bind_eq_ok] at hrow
    obtain ⟨eventId, hid, hrow⟩ := hrow
    obtain rfl := Except.pure_eq_ok.mp hrow
    rw [Except.ofOption_eq_ok] at hid
    rw [List.map_cons, List.filterMap_cons, show eventIdentity _ = some eventId from hid, ih]

theorem exists_candidates (json : HistoryJson) (call : CompactionCall) (bytes : List UInt8)
    : ∃ candidates,
        (movedBy json call bytes).mapM (historyCandidateFromEventLine json) = .ok candidates := by
  apply Except.mapM_isOk
  intro entry hentry
  obtain ⟨eventId, hid⟩ := validProgressEventId_of_moved hentry
  unfold historyCandidateFromEventLine
  rw [hid]
  exact ⟨_, rfl⟩

theorem candidates_ne_nil {moved : List QueueEventLine} {candidates : List HistoryCandidate}
    (h : moved.mapM (historyCandidateFromEventLine json) = .ok candidates) (hmoved : moved ≠ [])
    : candidates ≠ [] := by
  rintro rfl
  cases Except.mapM_eq_ok.mp h
  exact hmoved rfl

theorem clean_of_ended {plan : Plan} (hbefore : Clean json before)
    (hof : Plan.Of json call before plan) (h : plan.Ended files)
    : Clean json files := by
  have hhistory := hof.history h.2
  refine ⟨h.1, ?_, ?_⟩
  . intro transaction hmem
    rw [hhistory, List.mem_append, List.mem_singleton] at hmem
    cases hmem with
    | inl hold => exact hbefore.committed transaction hold
    | inr hnew => rw [hnew]
  . have hstored : files.storedIds = before.storedIds ++ plan.candidates.map (·.eventId) := by
      unfold HistoryFiles.storedIds
      rw [hhistory, List.flatMap_append, List.flatMap_singleton]
    rw [hof.bytes h.2, hstored, ids_of_candidates hof.candidates]
    refine (List.Perm.nodup_iff ?_).mp hbefore.distinct
    refine ((hotIds_perm json call _).append_right _).trans ?_
    rw [List.append_assoc]
    refine List.perm_append_comm.trans ?_
    rw [List.append_assoc]

theorem apply_stage (hbefore : Clean json before) (hmoved : movedBy json call before.bytes ≠ [])
    {candidates : List HistoryCandidate}
    (hcandidates : (movedBy json call before.bytes).mapM (historyCandidateFromEventLine json)
      = .ok candidates)
    (hfresh : ∀ transaction ∈ before.history,
      transaction.transactionId ≠ nextProgressHistoryTransactionId call before.bytes)
    : HistoryOp.apply (.stage (pendingBy json call before).historyTransactionId candidates) before
        = some {
          before with
          history := (planOf hbefore.unmarked hmoved candidates).stagedHistory } := by
  have hnodup : (before.storedIds ++ candidates.map (·.eventId)).Nodup := by
    rw [ids_of_candidates hcandidates]
    have hall := ((hotIds_perm json call _).append_right before.storedIds).nodup_iff.mp hbefore.distinct
    rw [List.append_assoc] at hall
    have hsub : ((movedBy json call before.bytes).filterMap (fun entry => eventIdentity entry.event)
        ++ before.storedIds).Sublist
        ((movedBy json call before.bytes).filterMap (fun entry => eventIdentity entry.event)
          ++ (hotIds json (snapshotBy json call before.bytes) ++ before.storedIds)) :=
      (List.sublist_append_right _ _).append_left _
    exact List.perm_append_comm.nodup_iff.mp (hsub.nodup hall)
  have hnamed : (Text.trim (pendingBy json call before).historyTransactionId = ""
      || candidates = []) = false := by
    have hid := @trim_nextProgressHistoryTransactionId call before.bytes
    simp [pendingBy, hid, candidates_ne_nil hcandidates hmoved]
  have hnew : before.history.any
      (·.transactionId = (pendingBy json call before).historyTransactionId) = false := by
    rw [List.any_eq_false]
    intro transaction hmem hid
    exact hfresh transaction hmem (of_decide_eq_true hid)
  unfold HistoryOp.apply
  dsimp only
  rw [if_neg (by simp [hnamed]), if_neg (by simp [hnew]), if_pos hnodup]
  rfl

theorem completes_compact (hbefore : Clean json before)
    (hfresh : ∀ transaction ∈ before.history,
      transaction.transactionId ≠ nextProgressHistoryTransactionId call before.bytes)
    : Script.Completes HistoryOp.apply (fun _ => True) (Clean json)
        (compactProgressHistoryLocked json call) before := by
  obtain ⟨candidates, hcandidates⟩ := exists_candidates json call before.bytes
  refine ⟨trivial, ?_⟩
  dsimp only
  split
  . exact ⟨trivial, hbefore⟩
  . next hmoved =>
    rw [hcandidates]
    refine Script.Completes.op (apply_stage hbefore hmoved hcandidates hfresh) trivial ?_
    have hcompletes := @Plan.completes_swap (planOf hbefore.unmarked hmoved candidates)
      { before with history := (planOf hbefore.unmarked hmoved candidates).stagedHistory }
      call.modifiedAtUnixNanos hbefore.unmarked rfl rfl
    refine hcompletes.mono (fun _ _ => trivial) ?_
    intro files hended
    exact clean_of_ended hbefore ⟨rfl, rfl, hcandidates, hfresh⟩ hended

theorem completes_call (hready : Ready json files) (hregular : Regular json files (.compact call))
    : Script.Completes HistoryOp.apply (fun _ => True) (Clean json)
        (compactProgressHistory json call) files := by
  apply Script.Completes.andThen
  refine hready.atFinish.mono (fun _ _ => trivial) ?_
  rintro found ⟨hclean, hfound⟩
  apply completes_compact hclean
  rw [hfound]
  exact hregular

theorem ready_step {action : HistoryAction} (hready : Ready json files)
    (hregular : Regular json files action)
    : Ready json (historyStep json files action) := by
  cases action with
  | append bytes modifiedAtUnixNanos =>
    have hclean : Clean json (recovered files) := hready.finish.2
    unfold historyStep
    dsimp only
    rw [if_pos hready.succeeds]
    apply Clean.ready
    exact ⟨hclean.unmarked, hclean.committed, hregular⟩
  | compact call =>
    have hclean := (completes_call hready hregular).finish.2
    exact hclean.ready

def Succeeds (json : HistoryJson) (files : HistoryFiles) (action : HistoryAction) : Prop :=
  ∀ call, action = .compact call →
    (compactProgressHistory json call).succeeds HistoryOp.apply files = true

theorem succeeds_of_ready (hready : Ready json files) {later : List HistoryAction}
    (h : Run.Guarded (historyStep json) (Regular json) files later)
    : Run.Guarded (historyStep json) (Succeeds json) files later := by
  rw [@Run.guarded_congr _ _ (historyStep json) (Succeeds json) (fun _ _ => True) (Regular json)
    (Ready json) _ _ files hready later h]
  . exact Run.guarded_of_forall (fun _ _ _ => trivial) files
  . intro files action hready hregular
    rw [iff_true]
    intro call hcall
    rw [hcall] at hregular
    exact (completes_call hready hregular).succeeds
  . intro files action hready hregular _
    exact ready_step hready hregular

section Crash

variable {candidates : List HistoryCandidate}

theorem cut_reads (hbefore : Clean json before) (n : Nat)
    : (compactProgressHistory json call).cut HistoryOp.apply (n + 1) before
        = (compactProgressHistoryLocked json call).cut HistoryOp.apply n before := by
  unfold compactProgressHistory recoverProgressHistoryCompactionIfNeeded
  simp only [Script.andThen, Script.cut, Script.step, hbefore.unmarked]

theorem cut_nothing (hbefore : Clean json before) (hmoved : movedBy json call before.bytes = [])
    (crash : Nat)
    : (compactProgressHistory json call).cut HistoryOp.apply crash before = before := by
  cases crash with
  | zero => rfl
  | succ n =>
    rw [cut_reads hbefore]
    cases n with
    | zero => rfl
    | succ n =>
      unfold compactProgressHistoryLocked
      simp only [Script.cut, Script.step, hmoved, if_true]
      exact Script.cut_done n before

theorem cut_early (hbefore : Clean json before) {crash : Nat} (h : crash < 3)
    : (compactProgressHistory json call).cut HistoryOp.apply crash before = before := by
  cases crash with
  | zero => rfl
  | succ n =>
    rw [cut_reads hbefore]
    cases n with
    | zero => rfl
    | succ n =>
      obtain rfl : n = 0 := by omega
      rfl

theorem cut_staged (hbefore : Clean json before) (hmoved : movedBy json call before.bytes ≠ [])
    (hcandidates : (movedBy json call before.bytes).mapM (historyCandidateFromEventLine json)
      = .ok candidates)
    (hfresh : ∀ transaction ∈ before.history,
      transaction.transactionId ≠ nextProgressHistoryTransactionId call before.bytes)
    (n : Nat)
    : (compactProgressHistory json call).cut HistoryOp.apply (n + 3) before
        = (swapProgressEvents (pendingBy json call before) before.bytes
            (snapshotBy json call before.bytes) call.modifiedAtUnixNanos).cut HistoryOp.apply n {
          before with
          history := (planOf hbefore.unmarked hmoved candidates).stagedHistory } := by
  rw [cut_reads hbefore]
  unfold compactProgressHistoryLocked
  rw [Script.cut]
  dsimp only [Script.step]
  rw [if_neg hmoved, hcandidates]
  exact Script.cut_op (apply_stage hbefore hmoved hcandidates hfresh) n

theorem swap_cut_unmarked (hbefore : Clean json before) (hmoved : movedBy json call before.bytes ≠ [])
    {n : Nat} (h : n < 5)
    : let crashed := (swapProgressEvents (pendingBy json call before) before.bytes
        (snapshotBy json call before.bytes) call.modifiedAtUnixNanos).cut HistoryOp.apply n {
          before with
          history := (planOf hbefore.unmarked hmoved candidates).stagedHistory }
      crashed.marker = none ∧ crashed.events = before.events
        ∧ crashed.history = (planOf hbefore.unmarked hmoved candidates).stagedHistory := by
  interval_cases n <;> exact ⟨hbefore.unmarked, rfl, rfl⟩

theorem swap_cut_marked (hbefore : Clean json before) (hmoved : movedBy json call before.bytes ≠ [])
    (n : Nat)
    : (planOf hbefore.unmarked hmoved candidates).Underway
        ((swapProgressEvents (pendingBy json call before) before.bytes
          (snapshotBy json call before.bytes) call.modifiedAtUnixNanos).cut HistoryOp.apply (n + 5) {
            before with
            history := (planOf hbefore.unmarked hmoved candidates).stagedHistory }) := by
  unfold swapProgressEvents writeProgressHistoryFile
  dsimp only
  rw [Script.cut_op rfl, Script.cut_op rfl, Script.cut_op rfl, Script.cut_op rfl, Script.cut_op rfl]
  have hdurable : ∀ files : HistoryFiles, files.marker = some (pendingBy json call before) →
      (planOf hbefore.unmarked hmoved candidates).Prepared files →
      (planOf hbefore.unmarked hmoved candidates).Underway
        ((swapMarked (pendingBy json call before)).cut HistoryOp.apply n files) := by
    intro files hmarker hprepared
    have hcompletes := @Plan.completes_swapMarked (planOf hbefore.unmarked hmoved candidates) files
      hmarker hprepared
    exact hcompletes.durable n
  apply hdurable
  . rfl
  . exact ⟨.inl rfl, ⟨_, AList.lookup_insert _, rfl⟩, rfl⟩

end Crash

theorem ready_of_crash (hbefore : Clean json before)
    (hfresh : ∀ transaction ∈ before.history,
      transaction.transactionId ≠ nextProgressHistoryTransactionId call before.bytes)
    {crash : Nat} (h : ¬(movedBy json call before.bytes ≠ [] ∧ 3 ≤ crash ∧ crash < 8))
    : Ready json ((compactProgressHistory json call).cut HistoryOp.apply crash before) := by
  by_cases hmoved : movedBy json call before.bytes = []
  . rw [cut_nothing hbefore hmoved]
    exact hbefore.ready
  . by_cases hearly : crash < 3
    . rw [cut_early hbefore hearly]
      exact hbefore.ready
    . have hlate : 8 ≤ crash := by
        by_contra hlt
        exact h ⟨hmoved, by omega, by omega⟩
      obtain ⟨n, rfl⟩ : ∃ n, crash = n + 5 + 3 := ⟨crash - 8, by omega⟩
      obtain ⟨candidates, hcandidates⟩ := exists_candidates json call before.bytes
      rw [cut_staged hbefore hmoved hcandidates hfresh]
      have hrecovers := Plan.completes_recover_underway (@swap_cut_marked _ _ _ candidates
        hbefore hmoved n)
      refine hrecovers.mono (fun _ _ => trivial) ?_
      intro files hended
      exact clean_of_ended hbefore ⟨rfl, rfl, hcandidates, hfresh⟩ hended

theorem toString_injective (lead : String) : Function.Injective fun n : Nat => lead ++ toString n := by
  intro left right h
  have hchars := congrArg String.toList h
  dsimp only at hchars
  rw [String.toList_append, String.toList_append, List.append_cancel_left_eq] at hchars
  have hvalue := congrArg Text.digitsValue hchars
  rwa [Text.digitsValue_toString, Text.digitsValue_toString] at hvalue

theorem exists_fresh_sequence (call : CompactionCall) (bytes : List UInt8)
    (history : List HistoryTransaction)
    : ∃ sequence, ∀ transaction ∈ history,
        transaction.transactionId
          ≠ nextProgressHistoryTransactionId { call with sequence := sequence } bytes := by
  unfold nextProgressHistoryTransactionId
  dsimp only
  generalize "progress-history-" ++ toString call.processId ++ "-" ++ toString call.nowMs ++ "-"
    ++ Text.hex16 (progressHistoryDigest bytes) ++ "-" = lead
  obtain ⟨_, ⟨sequence, rfl⟩, hnew⟩ :=
    (Set.infinite_range_of_injective (toString_injective lead)).exists_notMem_finset
      (history.map (·.transactionId)).toFinset
  refine ⟨sequence, ?_⟩
  intro transaction hmem hid
  apply hnew
  rw [List.mem_toFinset, List.mem_map]
  exact ⟨transaction, hmem, hid⟩

theorem blocked_of_staged {candidates : List HistoryCandidate} (sequence : Nat)
    (hmoved : movedBy json call before.bytes ≠ [])
    (hcandidates : (movedBy json call before.bytes).mapM (historyCandidateFromEventLine json)
      = .ok candidates)
    (hmarker : files.marker = none) (hevents : files.events = before.events)
    (hstored : ∀ row ∈ candidates, row.eventId ∈ files.storedIds)
    : (compactProgressHistory json { call with sequence := sequence }).succeeds HistoryOp.apply files
        = false := by
  have hbytes : files.bytes = before.bytes := by
    unfold HistoryFiles.bytes
    rw [hevents]
  have hsame : movedBy json { call with sequence := sequence } before.bytes
      = movedBy json call before.bytes := rfl
  have hstage : HistoryOp.apply (.stage (pendingBy json { call with sequence := sequence }
      files).historyTransactionId candidates) files = none := by
    unfold HistoryOp.apply
    dsimp only
    split
    . rfl
    . split
      . rfl
      . rw [if_neg]
        intro hnodup
        obtain ⟨row, hrow⟩ := List.exists_mem_of_ne_nil _ (candidates_ne_nil hcandidates hmoved)
        exact (List.nodup_append.mp hnodup).2.2 row.eventId (hstored row hrow) row.eventId
          (List.mem_map_of_mem hrow) rfl
  unfold compactProgressHistory recoverProgressHistoryCompactionIfNeeded compactProgressHistoryLocked
  simp only [Script.andThen, Script.succeeds, hmarker, hbytes, hsame, if_neg hmoved, hcandidates,
    hstage]

/-
A compaction is cut short after so many of its steps. Whatever is appended and compacted then, every later
compaction returns, unless the crash has come behind the staging of some rows and before the marker.
-/
theorem later_compactions_succeed_iff (hbefore : Clean json before)
    (hfresh : ∀ transaction ∈ before.history,
      transaction.transactionId ≠ nextProgressHistoryTransactionId call before.bytes)
    (crash : Nat)
    : (∀ later,
        Run.Guarded (historyStep json) (Regular json)
          ((compactProgressHistory json call).cut HistoryOp.apply crash before) later →
        Run.Guarded (historyStep json) (Succeeds json)
          ((compactProgressHistory json call).cut HistoryOp.apply crash before) later)
      ↔ ¬(movedBy json call before.bytes ≠ [] ∧ 3 ≤ crash ∧ crash < 8) := by
  constructor
  . rintro hall ⟨hmoved, hlate, hearly⟩
    obtain ⟨candidates, hcandidates⟩ := exists_candidates json call before.bytes
    obtain ⟨n, rfl⟩ : ∃ n, crash = n + 3 := ⟨crash - 3, by omega⟩
    rw [cut_staged hbefore hmoved hcandidates hfresh] at hall
    obtain ⟨hmarker, hevents, hhistory⟩ :=
      @swap_cut_unmarked _ _ _ candidates hbefore hmoved n (by omega)
    generalize (swapProgressEvents (pendingBy json call before) before.bytes
      (snapshotBy json call before.bytes) call.modifiedAtUnixNanos).cut HistoryOp.apply n _ = crashed
      at hall hmarker hevents hhistory
    have hrecovered : recovered crashed = crashed := by
      unfold recovered recoverProgressHistoryCompactionIfNeeded
      simp only [Script.finish, hmarker]
    obtain ⟨sequence, hsequence⟩ := exists_fresh_sequence call crashed.bytes crashed.history
    have hsucceeds := hall [.compact { call with sequence := sequence }] ⟨?_, trivial⟩
    . have hblocked := blocked_of_staged sequence hmoved hcandidates hmarker hevents ?_
      . rw [hsucceeds.1 _ rfl] at hblocked
        cases hblocked
      . intro row hrow
        unfold HistoryFiles.storedIds
        rw [hhistory, Plan.stagedHistory, staged, List.flatMap_append, List.flatMap_singleton]
        exact List.mem_append_right _ (List.mem_map_of_mem hrow)
    . show ∀ transaction ∈ (recovered crashed).history, _
      rw [hrecovered]
      exact hsequence
  . intro h later hregular
    exact succeeds_of_ready (ready_of_crash hbefore hfresh h) hregular

theorem sampleFiles_clean : Clean sampleHistoryJson sampleFiles where
  unmarked := rfl
  committed := by
    intro transaction hmem
    cases hmem
  distinct := by decide +kernel

theorem later_compactions_succeed_iff_sample
    : Run.Guarded (historyStep sampleHistoryJson) (Succeeds sampleHistoryJson)
        ((compactProgressHistory sampleHistoryJson sampleCall).cut HistoryOp.apply 9 sampleFiles)
        [.compact { sampleCall with sequence := 1 }] := by
  have hregular : ∀ files, files = (compactProgressHistory sampleHistoryJson sampleCall).cut
      HistoryOp.apply 9 sampleFiles →
      ∀ transaction ∈ (recovered files).history, transaction.transactionId
        ≠ nextProgressHistoryTransactionId { sampleCall with sequence := 1 }
          (recovered files).bytes := by
    rintro _ rfl
    decide +kernel
  refine (later_compactions_succeed_iff sampleFiles_clean ?_ 9).mpr ?_ _ ⟨hregular _ rfl, trivial⟩
  . intro transaction hmem
    cases hmem
  . omega

/-
The rows of the ended queue are staged, and the crash comes before the marker: the next compaction cannot stage
them again.
-/
theorem staged_rows_block
    : ¬∀ later,
        Run.Guarded (historyStep sampleHistoryJson) (Regular sampleHistoryJson)
          ((compactProgressHistory sampleHistoryJson sampleCall).cut HistoryOp.apply 3 sampleFiles)
          later →
        Run.Guarded (historyStep sampleHistoryJson) (Succeeds sampleHistoryJson)
          ((compactProgressHistory sampleHistoryJson sampleCall).cut HistoryOp.apply 3 sampleFiles)
          later := by
  intro h
  have hblocked : ∀ files, files = (compactProgressHistory sampleHistoryJson sampleCall).cut
      HistoryOp.apply 3 sampleFiles →
      (∀ transaction ∈ (recovered files).history, transaction.transactionId
        ≠ nextProgressHistoryTransactionId { sampleCall with sequence := 1 } (recovered files).bytes)
      ∧ (compactProgressHistory sampleHistoryJson { sampleCall with sequence := 1 }).succeeds
        HistoryOp.apply files = false := by
    rintro _ rfl
    decide +kernel
  obtain ⟨hregular, hfails⟩ := hblocked _ rfl
  have hsucceeds := h [.compact { sampleCall with sequence := 1 }] ⟨hregular, trivial⟩
  rw [hsucceeds.1 _ rfl] at hfails
  cases hfails

end AgentProgress
