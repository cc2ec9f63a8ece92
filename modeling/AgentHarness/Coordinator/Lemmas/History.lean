import AgentHarness.Coordinator.Lemmas.Delivery
import AgentHarness.Coordinator.Lemmas.Replay

/-!
Every call of a history keeps the invariant of the mailbox and the intents.
-/

namespace Coordinator

section Transactions

variable {α : Type} {results later : Results}

theorem onMailbox_eq_ok {transaction : MailboxTransaction α} {a : α}
    : Resume.onMailbox transaction results = .ok a later ↔
        ∃ mailbox, transaction results.mailbox = .ok a mailbox
          ∧ later = { results with mailbox } := by
  unfold Resume.onMailbox
  rw [Transaction.mapErr_eq_ok, Transaction.within_eq_ok]

theorem onOwner_eq_ok {result : Except WorkerResultMailboxError α} {a : α}
    : Resume.onOwner result results = .ok a later ↔ result = .ok a ∧ results = later := by
  rw [Resume.onOwner, Transaction.check_eq_ok, Except.mapError_eq_ok]

theorem update_eq_ok {hits : IntentRow → Bool} {set : IntentRow → IntentRow} {u : Unit}
    : Resume.update hits set results = .ok u later ↔
        ∃ intents, results.intents.update hits set = some intents
          ∧ later = { results with intents } := by
  rw [Resume.update, Transaction.write_eq_ok, Option.map_eq_some_iff]
  simp only [eq_comm]

theorem changed_eq_ok {hits : IntentRow → Bool} {count : Nat}
    : Resume.changed hits results = .ok count later ↔
        results.intents.changed hits = count ∧ results = later := by
  rw [Resume.changed, Transaction.query_eq_ok, Except.ok.injEq]

end Transactions

section MailboxCalls

variable {capacity : Option Nat} {results : Results} (h : results.Sound capacity) {later : Mailbox}

include h

theorem Results.Sound.insertTerminalResult {input : WorkerResultMailboxInsertV1}
    {outcome : WorkerResultMailboxInsertOutcomeV1}
    (hok : Coordinator.insertTerminalResult input results.mailbox = .ok outcome later)
    : Results.Sound capacity { results with mailbox := later } := by
  obtain ⟨hvalid, ownerKey, hownerKey, hcases⟩ := insertTerminalResult_ok hok
  cases hcases with
  | inr hsame =>
    rw [hsame.2]
    exact h
  | inl happended =>
    apply h.evolve
    apply Table.evolves_insert (Results.SparesRow.refl results) _ (Table.insert_eq_some.mpr happended.2)
    unfold WorkerResultMailboxInsertV1.validate at hvalid
    simp only [Except.bind_eq_ok] at hvalid
    obtain ⟨_, _, _, howner, _, henvelope, _⟩ := hvalid
    constructor
    . exact ⟨input.owner, input.envelope, rfl, howner, rfl, hownerKey, rfl, rfl, rfl, henvelope⟩
    . rfl

theorem Results.Sound.backfill (hfill : later.rows = results.mailbox.rows.map MailboxRow.backfilled)
    : later = results.mailbox := by
  have hsame : results.mailbox.rows.map MailboxRow.backfilled = results.mailbox.rows := by
    rw [List.map_congr_left (g := id)]
    . simp
    . intro row hrow
      obtain ⟨owner, envelope, hstores⟩ := h.rows row hrow
      have hfilled : row.ownerJson.decode.bind WorkerResultOwnerV1.coordinatorKey
          = row.coordinatorKey := by
        rw [hstores.ownerJson, hstores.coordinatorKey]
        rfl
      unfold MailboxRow.backfilled
      rw [hfilled]
      split
      . rfl
      . rfl
  rw [hsame] at hfill
  cases later
  cases hmailbox : results.mailbox
  rw [hmailbox] at hfill
  simpa using hfill

variable {scope : MailboxScope} {hits : MailboxRow → Bool}

theorem Results.Sound.updateMailbox {set : MailboxRow → MailboxRow}
    (hupdate : results.mailbox.update hits set = some later)
    (hevent : ∀ row, (set row).event = row.event)
    (hset : ∀ row ∈ results.mailbox.rows, hits row → results.SparesRow row (set row))
    : Results.Sound capacity { results with mailbox := later } := by
  apply h.evolve
  apply Table.evolves_update _ (Results.SparesRow.refl results) hset hupdate
  intro row
  exact mailboxId_of_event (hevent row)

omit h in
theorem not_isHeld_of_spares {key : String} (hspares : results.spares scope key hits)
    {row : MailboxRow} (hrow : row ∈ results.mailbox.rows) (hhits : scope.holds key row && hits row)
    : ¬ results.isHeld row.mailboxId := by
  unfold Results.spares at hspares
  rw [List.all_eq_true] at hspares
  have := hspares row hrow
  rw [hhits, Bool.true_and, Bool.not_eq_true'] at this
  rw [this]
  simp

theorem Results.Sound.release {nowMs : Int} (hclaimed : ∀ row, hits row → row.state = .claimed)
    {key : String} (hspares : results.spares scope key hits)
    (hupdate : results.mailbox.update (fun row => scope.holds key row && hits row)
      (MailboxRow.release nowMs) = some later)
    : Results.Sound capacity { results with mailbox := later } := by
  apply h.updateMailbox hupdate (fun _ => rfl)
  intro row hrow hhits
  constructor
  . rfl
  . intro hheld
    exact absurd hheld (not_isHeld_of_spares hspares hrow hhits)
  . intro hack
    rw [Bool.and_eq_true] at hhits
    have := hack.symm.trans (hclaimed row hhits.2)
    cases this
  . intro hstate
    cases hstate

theorem Results.Sound.acknowledge {nowMs : Int} {key : String}
    (hspares : results.spares scope key hits)
    (hupdate : results.mailbox.update (fun row => scope.holds key row && hits row)
      (MailboxRow.acknowledge nowMs) = some later)
    : Results.Sound capacity { results with mailbox := later } := by
  apply h.updateMailbox hupdate (fun _ => rfl)
  intro row hrow hhits
  constructor
  . rfl
  . intro hheld
    exact absurd hheld (not_isHeld_of_spares hspares hrow hhits)
  . intro _
    rfl
  . intro hstate
    cases hstate

theorem Results.Sound.claimRows {key : String} {mailboxIds : List Nat}
    {options : WorkerResultMailboxClaimOptionsV1}
    (hfree : results.mailbox.isBound options.claimToken = false)
    (hupdate : results.mailbox.update (Mailbox.claims scope key mailboxIds)
      (MailboxRow.claim options) = some later)
    : Results.Sound capacity { results with mailbox := later } := by
  apply h.updateMailbox hupdate (fun _ => rfl)
  intro row hrow hhits
  have hunread : row.state = .unread := by
    simp only [Mailbox.claims, Bool.and_eq_true, decide_eq_true_eq] at hhits
    exact hhits.2
  constructor
  . rfl
  . -- the rows of the live intents are claimed already
    intro hheld
    rw [Results.isHeld, List.any_eq_true] at hheld
    obtain ⟨intent, hintent, hheld⟩ := hheld
    rw [Bool.and_eq_true, List.contains_iff_mem] at hheld
    obtain ⟨other, hother, hotherId, hheldBy⟩ := h.held intent hintent hheld.1 _ hheld.2
    have := hheldBy.state
    rw [Table.eq_of_key hother hrow hotherId, hunread] at this
    cases this
  . intro hack
    have := hack.symm.trans hunread
    cases this
  . intro _
    right
    intro intent hintent hlive claimToken htoken heq
    obtain ⟨other, hother, _, hotherToken⟩ := h.bound intent hintent hlive claimToken htoken
    have hbound : results.mailbox.isBound options.claimToken := by
      rw [Mailbox.isBound, List.any_eq_true]
      refine ⟨other, hother, ?_⟩
      rw [decide_eq_true_eq, hotherToken, ← heq]
      rfl
    rw [hfree] at hbound
    cases hbound

theorem Results.Sound.claim {key : String} {options : WorkerResultMailboxClaimOptionsV1}
    {released : Mailbox} {batch : WorkerResultMailboxClaimBatchV1}
    (heffect : ClaimEffect scope key options results.mailbox released later batch)
    (hspares : results.spares scope key (MailboxRow.isExpired options.nowMs))
    : Results.Sound capacity { results with mailbox := later } := by
  have hreleased : Results.Sound capacity { results with mailbox := released } := by
    apply h.release _ hspares heffect.release
    intro row hexpired
    simp only [MailboxRow.isExpired, Bool.and_eq_true, decide_eq_true_eq] at hexpired
    exact hexpired.1
  by_cases hbound : released.isBound options.claimToken
  . rw [heffect.bound hbound]
    exact hreleased
  . rw [Bool.not_eq_true] at hbound
    exact hreleased.claimRows hbound (heffect.free hbound)

end MailboxCalls

section IntentCalls

variable {capacity : Option Nat} {results : Results} (h : results.Sound capacity) {later : Intents}

theorem keeps_of_live (row row' : IntentRow) (hcontent : row'.content = row.content)
    (hlive : row.isLive) (hlive' : row'.isLive)
    : row.Keeps row' where
  content := hcontent
  live := by rw [hlive, hlive']
  settled := by
    intro hdead
    rw [hlive] at hdead
    cases hdead

include h

variable {hits : IntentRow → Bool}

theorem Results.Sound.updateIntents {set : IntentRow → IntentRow}
    (hupdate : results.intents.update hits set = some later)
    (hid : ∀ row, (set row).intentId = row.intentId)
    (hkeeps : ∀ row, hits row → row.Keeps (set row))
    : Results.Sound capacity { results with intents := later } := by
  have hregroups : results.Regroups capacity later none := by
    constructor
    . intro intent' hintent'
      right
      obtain ⟨intent, hintent, heq⟩ := (Table.mem_update hupdate).mp hintent'
      refine ⟨intent, hintent, ?_, ?_⟩
      . rw [← heq]
        show intentTable.key (Table.rewrite hits set intent) = intentTable.key intent
        exact Table.key_rewrite hid intent
      . rw [← heq]
        unfold Table.rewrite
        split
        . next hhits => exact hkeeps intent hhits
        . exact IntentRow.Keeps.refl intent
    all_goals
      intro intent' hnew
      cases hnew
  exact h.regroup hregroups

theorem Results.Sound.unlease {nowMs : Int}
    (hupdate : results.intents.update hits (IntentRow.unlease nowMs) = some later)
    (hleased : ∀ row, hits row → row.state = .leased)
    : Results.Sound capacity { results with intents := later } := by
  apply h.updateIntents hupdate (fun _ => rfl)
  intro row hhits
  apply keeps_of_live row (IntentRow.unlease nowMs row) rfl
  . simp [IntentRow.isLive, hleased row hhits]
  . simp [IntentRow.isLive, IntentRow.unlease]

theorem Results.Sound.lease {options : WorkerResumeLeaseOptionsV1}
    (hupdate : results.intents.update hits (IntentRow.lease options) = some later)
    (hpending : ∀ row, hits row → row.state = .pending)
    : Results.Sound capacity { results with intents := later } := by
  apply h.updateIntents hupdate (fun _ => rfl)
  intro row hhits
  apply keeps_of_live row (IntentRow.lease options row) rfl
  . simp [IntentRow.isLive, hpending row hhits]
  . simp [IntentRow.isLive, IntentRow.lease]

theorem Results.Sound.enqueue {continuationQueueId : String} {nowMs : Int}
    (hupdate : results.intents.update hits (IntentRow.enqueue continuationQueueId nowMs) = some later)
    (hleased : ∀ row, hits row → row.state = .leased)
    : Results.Sound capacity { results with intents := later } := by
  apply h.updateIntents hupdate (fun _ => rfl)
  intro row hhits
  apply keeps_of_live row (IntentRow.enqueue continuationQueueId nowMs row) rfl
  . simp [IntentRow.isLive, hleased row hhits]
  . simp [IntentRow.isLive, IntentRow.enqueue]

end IntentCalls

section ResumeCalls

variable {capacity : Option Nat} {results later : Results} (h : results.Sound capacity)

include h

theorem Results.Sound.releaseExpiredResumeLeases {nowMs : Int} {count : Nat}
    (hok : Coordinator.releaseExpiredResumeLeases nowMs results = .ok count later)
    : later.Sound capacity := by
  unfold Coordinator.releaseExpiredResumeLeases at hok
  simp only [Transaction.bind_eq_ok, Transaction.check_eq_ok, changed_eq_ok, update_eq_ok,
    Transaction.pure_eq_ok] at hok
  obtain ⟨_, _, ⟨_, rfl⟩, _, _, ⟨_, rfl⟩, _, _, ⟨intents, hupdate, rfl⟩, _, rfl⟩ := hok
  apply h.unlease hupdate
  intro row hhits
  simp only [IntentRow.isExpired, Bool.and_eq_true, decide_eq_true_eq] at hhits
  exact hhits.1

theorem Results.Sound.claimNextResumeIntent {owner : ExactWorkerResultOwnerV1}
    {options : WorkerResumeLeaseOptionsV1} {found : Option WorkerResumeIntentV1}
    (hok : Coordinator.claimNextResumeIntent owner options results = .ok found later)
    : later.Sound capacity := by
  unfold Coordinator.claimNextResumeIntent at hok
  rw [Transaction.bind_eq_ok] at hok
  obtain ⟨_, _, hcheck, hok⟩ := hok
  rw [Transaction.check_eq_ok] at hcheck
  rw [Transaction.bind_eq_ok] at hok
  obtain ⟨ownerKey, _, hkey, hok⟩ := hok
  rw [onOwner_eq_ok] at hkey
  rw [Transaction.bind_eq_ok] at hok
  obtain ⟨_, released, hrelease, hok⟩ := hok
  rw [← hkey.2, ← hcheck.2] at hrelease
  have hreleased := h.releaseExpiredResumeLeases hrelease
  rw [Transaction.bind_eq_ok] at hok
  obtain ⟨bound, _, hbound, hok⟩ := hok
  rw [Transaction.query_eq_ok] at hbound
  rw [← hbound.2] at hok
  cases bound with
  | some bound =>
    -- the lease is the caller's already
    simp only [Transaction.bind_eq_ok, Transaction.query_eq_ok, Transaction.check_eq_ok,
      Transaction.pure_eq_ok] at hok
    obtain ⟨_, _, ⟨_, rfl⟩, _, _, ⟨_, rfl⟩, _, _, ⟨_, rfl⟩, _, rfl⟩ := hok
    exact hreleased
  | none =>
    rw [Transaction.bind_eq_ok] at hok
    obtain ⟨oldest, _, holdest, hok⟩ := hok
    rw [Transaction.query_eq_ok] at holdest
    rw [← holdest.2] at hok
    cases oldest with
    | none =>
      rw [Transaction.pure_eq_ok] at hok
      rw [← hok.2]
      exact hreleased
    | some oldest =>
      simp only [Transaction.bind_eq_ok, changed_eq_ok, update_eq_ok] at hok
      obtain ⟨_, _, ⟨_, rfl⟩, _, _, ⟨intents, hupdate, rfl⟩, hok⟩ := hok
      have hleased : Results.Sound capacity { released with intents } := by
        apply hreleased.lease hupdate
        intro row hhits
        rw [Bool.and_eq_true, decide_eq_true_eq, decide_eq_true_eq] at hhits
        exact hhits.2
      split at hok
      . rw [Transaction.pure_eq_ok] at hok
        rw [← hok.2]
        exact hleased
      . rw [Transaction.query_eq_ok] at hok
        rw [← hok.2]
        exact hleased

variable {intentId leaseToken : String}

omit h in
theorem leased_of_isLeasedWith {ownerKey : String} {row : IntentRow}
    (hhits : row.isLeasedWith intentId ownerKey leaseToken)
    : row.state = .leased := by
  simp only [IntentRow.isLeasedWith, Bool.and_eq_true, decide_eq_true_eq] at hhits
  exact hhits.1.2

theorem Results.Sound.releaseResumeIntent {owner : ExactWorkerResultOwnerV1} {nowMs : Int}
    {released : Bool} (hok : Coordinator.releaseResumeIntent owner intentId leaseToken nowMs results
      = .ok released later)
    : later.Sound capacity := by
  unfold Coordinator.releaseResumeIntent at hok
  simp only [Transaction.bind_eq_ok, Transaction.check_eq_ok, onOwner_eq_ok, changed_eq_ok,
    update_eq_ok, Transaction.pure_eq_ok] at hok
  obtain ⟨_, _, ⟨_, rfl⟩, _, _, ⟨_, rfl⟩, _, _, ⟨_, rfl⟩, _, _, ⟨_, rfl⟩, _, _, ⟨_, rfl⟩, _, _,
    ⟨intents, hupdate, rfl⟩, _, rfl⟩ := hok
  apply h.unlease hupdate
  intro row hhits
  exact leased_of_isLeasedWith hhits

theorem Results.Sound.markResumeIntentEnqueued {owner : ExactWorkerResultOwnerV1}
    {continuationQueueId : String} {nowMs : Int} {intent : WorkerResumeIntentV1}
    (hok : Coordinator.markResumeIntentEnqueued owner intentId leaseToken continuationQueueId nowMs
      results = .ok intent later)
    : later.Sound capacity := by
  unfold Coordinator.markResumeIntentEnqueued at hok
  simp only [Transaction.bind_eq_ok, Transaction.check_eq_ok, onOwner_eq_ok, changed_eq_ok,
    update_eq_ok, Transaction.query_eq_ok] at hok
  obtain ⟨_, _, ⟨_, rfl⟩, _, _, ⟨_, rfl⟩, _, _, ⟨_, rfl⟩, _, _, ⟨_, rfl⟩, _, _, ⟨_, rfl⟩, _, _,
    ⟨_, rfl⟩, _, _, ⟨intents, hupdate, rfl⟩, _, _, ⟨_, rfl⟩, hok⟩ := hok
  have hlater : later = { results with intents } := by
    split at hok
    . rw [Transaction.check_eq_ok] at hok
      exact hok.2.symm
    . rw [Transaction.check_eq_ok] at hok
      exact hok.2.symm
  rw [hlater]
  apply h.enqueue hupdate
  intro row hhits
  exact leased_of_isLeasedWith hhits

end ResumeCalls

section SortedUnique

theorem sortedUniqueTokens_eq (tokens : List String)
    : sortedUniqueTokens tokens = (tokens.insertionSort Text.le).dedup :=
  (List.pairwise_insertionSort Text.le tokens).destutter_eq_dedup

theorem nodup_sortedUniqueTokens (tokens : List String) : (sortedUniqueTokens tokens).Nodup := by
  rw [sortedUniqueTokens_eq]
  exact List.nodup_dedup _

theorem mem_sortedUniqueTokens {token : String} {tokens : List String}
    : token ∈ sortedUniqueTokens tokens ↔ token ∈ tokens := by
  rw [sortedUniqueTokens_eq, List.mem_dedup]
  exact (List.perm_insertionSort _ tokens).mem_iff

end SortedUnique

section Create

variable {capacity : Option Nat} {results later : Results}

variable {intents : Intents} {session : String} {row : IntentRow} {new : NewIntent}
  {intent : WorkerResumeIntentV1} {laneActivity : LaneActivityReceiptV1}
  {outcome : WorkerResumeCreateOutcomeV1}

theorem latestRow_mem {key : String} {state : WorkerResumeIntentStateV1}
    (h : intents.latestRow key session state = some row)
    : row ∈ intents.rows ∧ row.ownerKey = key ∧ row.virtualSessionId = session
        ∧ row.state = state := by
  have hmem := List.mem_of_head? h
  rw [(List.perm_insertionSort _ _).mem_iff] at hmem
  simp only [Intents.ofOwnerState, Intents.ofOwner, List.mem_filter, Bool.and_eq_true,
    decide_eq_true_eq] at hmem
  exact ⟨hmem.1.1, hmem.1.2.1, hmem.1.2.2, hmem.2⟩

theorem insertIntent_ok (h : insertIntent new results = .ok intent later)
    : ∃ intents, results.intents.insert new.row = some intents ∧ later = { results with intents }
        ∧ new.row.Decodes intent := by
  unfold insertIntent at h
  simp only [Transaction.bind_eq_ok, Transaction.write_eq_ok, Option.map_eq_some_iff,
    Transaction.query_eq_ok, Transaction.check_eq_ok, Except.ofOption_eq_ok] at h
  obtain ⟨_, _, ⟨intents, hinsert, rfl⟩, found, _, ⟨hfind, rfl⟩, hsome, rfl⟩ := h
  refine ⟨intents, hinsert, rfl, ?_⟩
  rw [hsome] at hfind
  obtain ⟨row, hrow, hid, hdecodes⟩ := findIntent_ok hfind
  have hnew : new.row ∈ intents.rows := (Table.mem_insert hinsert).mpr (.inr rfl)
  rw [← Table.eq_of_key hrow hnew hid]
  exact hdecodes

theorem NewIntent.wellFormed (h : new.row.Decodes intent)
    : new.row.WellFormed where
  content := ⟨intent, h.content⟩
  ids := nodup_sortedUniqueIds new.mailboxIds
  tokens := nodup_sortedUniqueTokens new.mailboxClaimTokens

theorem regroups_insert (hdecodes : new.row.Decodes intent)
    (hinsert : results.intents.insert new.row = some intents)
    (hfits : new.row.isLive → ∀ limit ∈ capacity, new.row.mailboxIds.length ≤ limit)
    (hnew : new.row.state = .quarantined
      ∨ ∃ key claimToken old, results.Gathers key claimToken old new.row)
    : results.Regroups capacity intents (some new.row) := by
  constructor
  . intro intent' hintent'
    cases (Table.mem_insert hinsert).mp hintent' with
    | inl hold => exact .inr ⟨intent', hold, rfl, IntentRow.Keeps.refl intent'⟩
    | inr heq => exact .inl (congrArg some heq.symm)
  . intro intent' hmem
    obtain rfl := Option.mem_some.mp hmem
    exact NewIntent.wellFormed hdecodes
  . intro intent' hmem
    obtain rfl := Option.mem_some.mp hmem
    exact hfits
  . intro intent' hmem
    obtain rfl := Option.mem_some.mp hmem
    exact hnew

theorem Results.Sound.blockResumeIntent (h : results.Sound capacity)
    {owner : ExactWorkerResultOwnerV1} {ownerKey : String} {options : WorkerResumeCreateOptionsV1}
    (hok : Coordinator.blockResumeIntent owner ownerKey laneActivity options results
      = .ok outcome later)
    : later.Sound capacity := by
  unfold Coordinator.blockResumeIntent at hok
  rw [Transaction.bind_eq_ok] at hok
  obtain ⟨unread, middle, hunread, hok⟩ := hok
  obtain ⟨mailbox, hmailbox, hmiddle⟩ := onMailbox_eq_ok.mp hunread
  have hsame : middle = results := by
    rw [hmiddle, h.backfill (coalescedUnreadForCoordinator_ok hmailbox)]
  rw [hsame] at hok
  split at hok
  . rw [Transaction.pure_eq_ok] at hok
    rw [← hok.2]
    exact h
  . simp only [Transaction.bind_eq_ok, Transaction.query_eq_ok] at hok
    obtain ⟨existing, _, ⟨_, rfl⟩, hok⟩ := hok
    cases hreplayed : existing.filter fun existing =>
        existing.mailboxIds = unread.map WorkerResultMailboxRecordV1.mailboxId
          && existing.laneActivity = laneActivity with
    | some existing =>
      rw [hreplayed, Transaction.pure_eq_ok] at hok
      rw [← hok.2]
      exact h
    | none =>
      rw [hreplayed] at hok
      simp only [Transaction.bind_eq_ok, Transaction.query_eq_ok, Transaction.pure_eq_ok] at hok
      obtain ⟨generation, _, ⟨_, rfl⟩, intent, _, hinsert, _, rfl⟩ := hok
      obtain ⟨intents, hintents, rfl, hdecodes⟩ := insertIntent_ok hinsert
      apply h.regroup (regroups_insert hdecodes hintents _ (.inl rfl))
      intro hlive
      cases hlive

theorem of_tokenIsFree {key claimToken : String} (h : results.tokenIsFree key session claimToken)
    {intent : IntentRow} (hintent : intent ∈ results.intents.rows) (hlive : intent.isLive)
    (hkey : intent.ownerKey = key) (htoken : claimToken ∈ intent.claimTokens)
    : results.intents.latestRow key session .pending = some intent := by
  rw [Results.tokenIsFree, List.all_eq_true] at h
  have := h intent hintent
  simpa [hlive, hkey, htoken] using this

theorem isLive_of_pending {intent : IntentRow} (h : intent.state = .pending) : intent.isLive := by
  simp [IntentRow.isLive, h]

/-
The claim of a creation: its records are all the rows that carry its token.
-/
structure CreateClaim (results middle : Results) (key : String) (options : WorkerResumeCreateOptionsV1)
    (claimedIds : List Nat) : Prop where
  intents : middle.intents = results.intents
  effect : ∃ released batch,
    ClaimEffect .coordinatorKey key options.claimOptions results.mailbox released middle.mailbox batch
  perm : claimedIds.Perm
    ((middle.mailbox.claimedRows .coordinatorKey key options.claimToken).map MailboxRow.mailboxId)
  nonempty : claimedIds ≠ []

section CreateClaim

variable {middle : Results} {key : String} {options : WorkerResumeCreateOptionsV1}
  {claimedIds : List Nat} (h : CreateClaim results middle key options claimedIds)

include h

theorem CreateClaim.mem {id : Nat}
    : id ∈ claimedIds ↔
        ∃ row ∈ middle.mailbox.claimedRows .coordinatorKey key options.claimToken,
          row.mailboxId = id := by
  rw [h.perm.mem_iff, List.mem_map]

theorem CreateClaim.nonempty_rows
    : middle.mailbox.claimedRows .coordinatorKey key options.claimToken ≠ [] := by
  intro hnil
  have hperm := h.perm
  rw [hnil, List.map_nil, List.perm_nil] at hperm
  exact h.nonempty hperm

theorem CreateClaim.length_merged_le (ids : List Nat)
    : (sortedUniqueIds (ids ++ claimedIds)).length
        ≤ ids.length + results.incoming key options ids := by
  obtain ⟨released, batch, heffect⟩ := h.effect
  have hclaimed : (claimedIds.filter fun id => !ids.contains id).length
      ≤ results.incoming key options ids := by
    rw [(h.perm.filter _).length_eq, List.filter_map, List.length_map]
    exact claimed_le_incoming heffect ids
  have hmerged := Coordinator.length_merged_le ids claimedIds
  omega

end CreateClaim

/-
All that a creation can do: no more than the claim, a claim for the latest pending intent, or a claim for
a new one.
-/
inductive CreateEffect (results : Results) (owner : ExactWorkerResultOwnerV1) (key : String)
    (options : WorkerResumeCreateOptionsV1) (later : Results) : Prop where
  | claimed (released : Mailbox) (batch : WorkerResultMailboxClaimBatchV1)
    (effect : ClaimEffect .coordinatorKey key options.claimOptions results.mailbox released
      later.mailbox batch)
    (intents : later.intents = results.intents)
  | coalesced (middle : Results) (claimedIds : List Nat)
    (claim : CreateClaim results middle key options claimedIds)
    (row : IntentRow) (pending : WorkerResumeIntentV1)
    (latest : middle.intents.latestRow key owner.virtualSessionId .pending = some row)
    (decodes : row.Decodes pending)
    (update : middle.intents.update (pending.coalesce claimedIds options.claimToken).isPendingRow
      ((pending.coalesce claimedIds options.claimToken).storeMerged options.nowMs)
        = some later.intents)
    (mailbox : later.mailbox = middle.mailbox)
  | created (middle : Results) (claimedIds : List Nat)
    (claim : CreateClaim results middle key options claimedIds)
    (latest : middle.intents.latestRow key owner.virtualSessionId .pending = none)
    (new : NewIntent) (ownerKey : new.ownerKey = key) (mailboxIds : new.mailboxIds = claimedIds)
    (claimTokens : new.mailboxClaimTokens = [options.claimToken]) (state : new.state = .pending)
    (intent : WorkerResumeIntentV1) (decodes : new.row.Decodes intent)
    (insert : middle.intents.insert new.row = some later.intents)
    (mailbox : later.mailbox = middle.mailbox)

theorem latestIntentForOwnerState_ok {key : String} {state : WorkerResumeIntentStateV1}
    {latest : Option WorkerResumeIntentV1}
    (h : latestIntentForOwnerState key session state results = .ok latest)
    : (results.intents.latestRow key session state = none ∧ latest = none)
      ∨ ∃ row intent, results.intents.latestRow key session state = some row
          ∧ latest = some intent ∧ row.Decodes intent := by
  unfold latestIntentForOwnerState at h
  cases hrow : results.intents.latestRow key session state with
  | none =>
    rw [hrow] at h
    injection h with h
    exact .inl ⟨rfl, h.symm⟩
  | some row =>
    rw [hrow] at h
    dsimp only at h
    cases hdecode : row.decode with
    | error e =>
      rw [hdecode] at h
      cases h
    | ok intent =>
      rw [hdecode] at h
      injection h with h
      exact .inr ⟨row, intent, rfl, h.symm, IntentRow.decode_ok hdecode⟩

theorem createResumeIntent_ok (h : results.Sound capacity) {owner : ExactWorkerResultOwnerV1}
    {key : String} (hkey : owner.coordinatorKey = .ok key) {options : WorkerResumeCreateOptionsV1}
    (hok : createResumeIntent owner key laneActivity options results = .ok outcome later)
    : CreateEffect results owner key options later := by
  unfold createResumeIntent at hok
  rw [Transaction.bind_eq_ok] at hok
  obtain ⟨batch, middle, hclaim, hok⟩ := hok
  obtain ⟨mailbox, hclaim, hmiddle⟩ := onMailbox_eq_ok.mp hclaim
  obtain ⟨key', filled, released, hkey', hfill, heffect⟩ := claimUnreadForCoordinator_ok hclaim
  rw [hkey, Except.ok.injEq] at hkey'
  rw [h.backfill hfill, ← hkey'] at heffect
  have hintents : middle.intents = results.intents := by rw [hmiddle]
  have hmailbox : mailbox = middle.mailbox := by rw [hmiddle]
  rw [hmailbox] at heffect
  split at hok
  . rw [Transaction.pure_eq_ok] at hok
    rw [← hok.2]
    exact .claimed released batch heffect hintents
  . next hrecords =>
    have hids := decodeRows_ids (heffect.records.resolve_left hrecords)
    have hcreate : CreateClaim results middle key options
        (batch.records.map WorkerResultMailboxRecordV1.mailboxId) := by
      constructor
      . exact hintents
      . exact ⟨released, batch, heffect⟩
      . rw [hids]
        exact (List.perm_insertionSort _ _).map _
      . simpa using hrecords
    rw [Transaction.bind_eq_ok] at hok
    obtain ⟨latest, _, hlatest, hok⟩ := hok
    rw [Transaction.query_eq_ok] at hlatest
    rw [← hlatest.2] at hok
    cases latestIntentForOwnerState_ok hlatest.1 with
    | inl hnone =>
      rw [hnone.2] at hok
      simp only [Transaction.bind_eq_ok, Transaction.query_eq_ok, Transaction.pure_eq_ok] at hok
      obtain ⟨generation, _, ⟨_, rfl⟩, intent, _, hinsert, _, rfl⟩ := hok
      obtain ⟨intents, hinserted, rfl, hdecodes⟩ := insertIntent_ok hinsert
      exact .created middle _ hcreate hnone.1 _ rfl rfl rfl rfl intent hdecodes hinserted rfl
    | inr hsome =>
      obtain ⟨row, pending, hrow, hlatest, hdecodes⟩ := hsome
      rw [hlatest] at hok
      unfold coalesceResumeIntent at hok
      dsimp only at hok
      split at hok
      . -- the ids are the intent's already
        rw [Transaction.pure_eq_ok] at hok
        rw [← hok.2]
        exact .claimed released batch heffect hintents
      . simp only [Transaction.bind_eq_ok, update_eq_ok, Transaction.pure_eq_ok] at hok
        obtain ⟨_, _, ⟨intents, hupdate, rfl⟩, _, rfl⟩ := hok
        exact .coalesced middle _ hcreate row pending hrow hdecodes hupdate rfl

theorem createOrCoalesceResumeIntent_ok (h : results.Sound capacity) {owner : WorkerResultOwnerV1}
    {options : WorkerResumeCreateOptionsV1}
    (hok : createOrCoalesceResumeIntent owner laneActivity options results = .ok outcome later)
    : ∃ exactOwner key, exactOwner.coordinatorKey = .ok key ∧ owner = .exact exactOwner
        ∧ ((laneActivity.laneActive = true
              ∧ blockResumeIntent exactOwner key laneActivity options results = .ok outcome later)
            ∨ (laneActivity.laneActive = false
              ∧ CreateEffect results exactOwner key options later)) := by
  unfold createOrCoalesceResumeIntent at hok
  simp only [Transaction.bind_eq_ok, Transaction.check_eq_ok, onOwner_eq_ok] at hok
  obtain ⟨_, _, ⟨_, rfl⟩, _, _, ⟨_, rfl⟩, exactOwner, _, ⟨howner, rfl⟩, key, _, ⟨hkey, rfl⟩,
    hok⟩ := hok
  refine ⟨exactOwner, key, hkey, ?_, ?_⟩
  . cases owner with
    | exact owner =>
      simp only [requireExactOwner, Except.bind_eq_ok, Except.pure_eq_ok] at howner
      obtain ⟨_, _, heq⟩ := howner
      rw [heq]
    | legacyIncomplete owner => cases howner
  . split at hok
    . next hactive => exact .inl ⟨hactive, hok⟩
    . next hidle => exact .inr ⟨by simpa using hidle, createResumeIntent_ok h hkey hok⟩

theorem NewIntent.mailboxIds_row (new : NewIntent)
    : new.row.mailboxIds = sortedUniqueIds new.mailboxIds := rfl

theorem NewIntent.claimTokens_row (new : NewIntent)
    : new.row.claimTokens = sortedUniqueTokens new.mailboxClaimTokens := rfl

theorem mailboxIds_storeMerged (merged : WorkerResumeIntentV1) (nowMs : Int) (row : IntentRow)
    : (merged.storeMerged nowMs row).mailboxIds = merged.mailboxIds := rfl

theorem claimTokens_storeMerged (merged : WorkerResumeIntentV1) (nowMs : Int) (row : IntentRow)
    : (merged.storeMerged nowMs row).claimTokens = merged.mailboxClaimTokens := rfl

theorem mailboxIds_coalesce (pending : WorkerResumeIntentV1) (claimedIds : List Nat)
    (claimToken : String)
    : (pending.coalesce claimedIds claimToken).mailboxIds
        = sortedUniqueIds (pending.mailboxIds ++ claimedIds) := rfl

theorem claimTokens_coalesce (pending : WorkerResumeIntentV1) (claimedIds : List Nat)
    (claimToken : String)
    : (pending.coalesce claimedIds claimToken).mailboxClaimTokens
        = sortedUniqueTokens (pending.mailboxClaimTokens ++ [claimToken]) := rfl

section CreateEffect

variable {owner : ExactWorkerResultOwnerV1} {key : String} {options : WorkerResumeCreateOptionsV1}
  {middle : Results} {claimedIds : List Nat}
  (hfree : results.tokenIsFree key owner.virtualSessionId options.claimToken)
  (hclaim : CreateClaim results middle key options claimedIds)

include hfree hclaim

theorem gathers_created {new : NewIntent}
    (hlatest : middle.intents.latestRow key owner.virtualSessionId .pending = none)
    (hkey : new.ownerKey = key) (hids : new.mailboxIds = claimedIds)
    (htokens : new.mailboxClaimTokens = [options.claimToken]) (hstate : new.state = .pending)
    : middle.Gathers key options.claimToken none new.row where
  live := isLive_of_pending hstate
  ownerKey := hkey
  mailboxIds := by
    intro id
    rw [NewIntent.mailboxIds_row, mem_sortedUniqueIds, hids, hclaim.mem]
    simp
  claimTokens := by
    intro token
    rw [NewIntent.claimTokens_row, mem_sortedUniqueTokens, htokens]
    simp
  nonempty := hclaim.nonempty_rows
  before := by
    intro intent hnone
    cases hnone
  free := by
    intro intent hintent hlive howner htoken
    rw [hclaim.intents] at hintent hlatest
    rw [← hlatest]
    exact of_tokenIsFree hfree hintent hlive howner htoken

theorem gathers_coalesced {row : IntentRow} {pending : WorkerResumeIntentV1}
    (hlatest : middle.intents.latestRow key owner.virtualSessionId .pending = some row)
    (hdecodes : row.Decodes pending)
    : middle.Gathers key options.claimToken (some row)
        ((pending.coalesce claimedIds options.claimToken).storeMerged options.nowMs row) where
  live := isLive_of_pending (latestRow_mem hlatest).2.2.2
  ownerKey := (latestRow_mem hlatest).2.1
  mailboxIds := by
    intro id
    rw [mailboxIds_storeMerged, mailboxIds_coalesce, mem_sortedUniqueIds, List.mem_append,
      hclaim.mem, ← hdecodes.ids]
    simp
  claimTokens := by
    intro token
    rw [claimTokens_storeMerged, claimTokens_coalesce, mem_sortedUniqueTokens, List.mem_append,
      ← hdecodes.tokens]
    simp
  nonempty := hclaim.nonempty_rows
  before := by
    intro intent hsome
    rw [Option.mem_some] at hsome
    have hrow := latestRow_mem hlatest
    rw [← hsome]
    exact ⟨hrow.1, isLive_of_pending hrow.2.2.2, hrow.2.1, rfl⟩
  free := by
    intro intent hintent hlive howner htoken
    rw [hclaim.intents] at hintent hlatest
    rw [← hlatest]
    exact of_tokenIsFree hfree hintent hlive howner htoken

end CreateEffect

theorem cursorOf_eq {ids : List Nat} (h : ids ≠ []) : ids.max? = some (cursorOf ids) := by
  unfold cursorOf
  cases hmax : ids.max? with
  | none =>
    rw [List.max?_eq_none_iff] at hmax
    exact absurd hmax h
  | some cursor => rfl

theorem wellFormed_coalesced {pending : WorkerResumeIntentV1} (hdecodes : row.Decodes pending)
    (claimedIds : List Nat) (claimToken : String) (nowMs : Int)
    : IntentRow.WellFormed ((pending.coalesce claimedIds claimToken).storeMerged nowMs row) where
  content := by
    have hcontent := hdecodes.content
    have hnonempty : sortedUniqueIds (pending.mailboxIds ++ claimedIds) ≠ [] := by
      obtain ⟨id, hid⟩ := List.exists_mem_of_ne_nil _ hcontent.nonempty
      apply List.ne_nil_of_mem (a := id)
      rw [mem_sortedUniqueIds, List.mem_append]
      exact .inl hid
    refine ⟨pending.coalesce claimedIds claimToken, ?_⟩
    constructor
    . exact hcontent.intentId
    . exact hcontent.ownerKey
    . exact hcontent.owner
    . exact hcontent.coordinatorKey
    . exact hcontent.session
    . rfl
    . rfl
    . exact hnonempty
    . exact cursorOf_eq hnonempty
    . exact hcontent.lane
    . exact hcontent.laneValid
    . exact hcontent.blocker
  ids := nodup_sortedUniqueIds _
  tokens := nodup_sortedUniqueTokens _

theorem mem_coalesced {later : Intents} {merged : WorkerResumeIntentV1} {nowMs : Int}
    (hupdate : intents.update merged.isPendingRow (merged.storeMerged nowMs) = some later)
    (hrow : row ∈ intents.rows) (hid : merged.intentId = row.intentId) {intent' : IntentRow}
    (hintent' : intent' ∈ later.rows)
    : intent' = merged.storeMerged nowMs row ∨ (intent' ∈ intents.rows
        ∧ merged.isPendingRow intent' = false) := by
  obtain ⟨intent, hintent, heq⟩ := (Table.mem_update hupdate).mp hintent'
  rw [← heq]
  unfold Table.rewrite
  split
  . next hhits =>
    left
    simp only [WorkerResumeIntentV1.isPendingRow, Bool.and_eq_true, decide_eq_true_eq] at hhits
    rw [Table.eq_of_key hintent hrow (hhits.1.trans hid)]
  . next hhits => exact .inr ⟨hintent, by simpa using hhits⟩

theorem Results.Sound.createResumeIntent (h : results.Sound capacity) {owner : ExactWorkerResultOwnerV1}
    {key : String} {options : WorkerResumeCreateOptionsV1}
    (hspares : results.spares .coordinatorKey key (MailboxRow.isExpired options.nowMs))
    (hfree : results.tokenIsFree key owner.virtualSessionId options.claimToken)
    (hfits : ∀ limit ∈ capacity, (results.pendingIds key owner.virtualSessionId).length
      + results.incoming key options (results.pendingIds key owner.virtualSessionId) ≤ limit)
    (heffect : CreateEffect results owner key options later)
    : later.Sound capacity := by
  have hclaimed : ∀ {middle : Results} {claimedIds : List Nat},
      CreateClaim results middle key options claimedIds → middle.Sound capacity := by
    intro middle claimedIds claim
    obtain ⟨released, batch, effect⟩ := claim.effect
    have hsound := h.claim effect hspares
    rw [← claim.intents] at hsound
    exact hsound
  cases heffect with
  | claimed released batch effect hintents =>
    have hsound := h.claim effect hspares
    rw [← hintents] at hsound
    exact hsound
  | coalesced middle claimedIds claim row pending latest decodes update mailbox =>
    have hsound : Results.Sound capacity { middle with intents := later.intents } := by
      have hregroups : middle.Regroups capacity later.intents (some
          ((pending.coalesce claimedIds options.claimToken).storeMerged options.nowMs row)) := by
        constructor
        . intro intent' hintent'
          cases mem_coalesced update (latestRow_mem latest).1 decodes.content.intentId hintent' with
          | inl heq => exact .inl (congrArg some heq.symm)
          | inr hkept => exact .inr ⟨intent', hkept.1, rfl, IntentRow.Keeps.refl intent'⟩
        . intro intent' hnew
          obtain rfl := Option.mem_some.mp hnew
          exact wellFormed_coalesced decodes claimedIds options.claimToken options.nowMs
        . intro intent' hnew _ limit hlimit
          obtain rfl := Option.mem_some.mp hnew
          have hpending : results.pendingIds key owner.virtualSessionId = pending.mailboxIds := by
            rw [claim.intents] at latest
            rw [Results.pendingIds, latest, ← decodes.ids]
            rfl
          have hlength := claim.length_merged_le pending.mailboxIds
          have hlimit := hfits limit hlimit
          rw [hpending] at hlimit
          rw [mailboxIds_storeMerged, mailboxIds_coalesce]
          exact le_trans hlength hlimit
        . intro intent' hnew
          obtain rfl := Option.mem_some.mp hnew
          exact .inr ⟨_, _, _, gathers_coalesced hfree claim latest decodes⟩
      exact (hclaimed claim).regroup hregroups
    rw [← mailbox] at hsound
    exact hsound
  | created middle claimedIds claim latest new ownerKey mailboxIds claimTokens state intent decodes
      insert mailbox =>
    have hsound : Results.Sound capacity { middle with intents := later.intents } := by
      apply (hclaimed claim).regroup (regroups_insert decodes insert _ (.inr ⟨_, _, _,
        gathers_created hfree claim latest ownerKey mailboxIds claimTokens state⟩))
      intro _ limit hlimit
      have hpending : results.pendingIds key owner.virtualSessionId = [] := by
        rw [claim.intents] at latest
        rw [Results.pendingIds, latest]
        rfl
      have hlength := claim.length_merged_le []
      have hlimit := hfits limit hlimit
      rw [hpending] at hlimit
      rw [List.nil_append, ← mailboxIds] at hlength
      rw [NewIntent.mailboxIds_row]
      exact le_trans hlength hlimit
    rw [← mailbox] at hsound
    exact hsound

end Create

section Consume

variable {capacity : Option Nat} {results later : Results} {owner : ExactWorkerResultOwnerV1} {key : String}
  {nowMs : Int}

def Mailbox.settles (key : String) (claimTokens : List String) (row : MailboxRow) : Bool :=
  MailboxScope.holds .coordinatorKey key row && row.state = .claimed
    && row.claimToken.any claimTokens.contains

theorem settles_iff {intent : IntentRow} {row : MailboxRow}
    : Mailbox.settles intent.ownerKey intent.claimTokens row ↔ row.HeldBy intent := by
  simp only [Mailbox.settles, Bool.and_eq_true, decide_eq_true_eq, Option.any_eq_true,
    List.contains_iff_mem]
  constructor
  . intro h
    obtain ⟨⟨hholds, hstate⟩, token, htoken, hmem⟩ := h
    exact ⟨hholds, hstate, token, hmem, htoken⟩
  . intro h
    obtain ⟨token, hmem, htoken⟩ := h.token
    exact ⟨⟨h.holds, h.state⟩, token, htoken, hmem⟩

theorem acknowledgeTokens_ok (hkey : owner.coordinatorKey = .ok key) {claimTokens : List String}
    {u : Unit} (h : acknowledgeTokens owner nowMs claimTokens results = .ok u later)
    : later.intents = results.intents
        ∧ results.mailbox.update (Mailbox.settles key claimTokens) (MailboxRow.acknowledge nowMs)
          = some later.mailbox := by
  induction claimTokens generalizing results with
  | nil =>
    rw [acknowledgeTokens, Transaction.pure_eq_ok] at h
    rw [← h.2]
    refine ⟨rfl, Table.update_of_none ?_⟩
    intro row _
    cases hclaim : row.claimToken with
    | none => simp [Mailbox.settles, hclaim]
    | some token => simp [Mailbox.settles, hclaim]
  | cons claimToken claimTokens ih =>
    rw [acknowledgeTokens, Transaction.bind_eq_ok] at h
    obtain ⟨_, middle, hfirst, h⟩ := h
    obtain ⟨mailbox, hfirst, hmiddle⟩ := onMailbox_eq_ok.mp hfirst
    unfold acknowledgeCoordinatorClaim at hfirst
    simp only [Transaction.bind_eq_ok, Transaction.check_eq_ok] at hfirst
    obtain ⟨_, _, ⟨_, rfl⟩, key', _, ⟨hkey', rfl⟩, hfirst⟩ := hfirst
    rw [hkey, Except.ok.injEq] at hkey'
    rw [← hkey'] at hfirst
    obtain ⟨hintents, hrest⟩ := ih h
    rw [hmiddle] at hintents hrest
    refine ⟨hintents, Table.update_trans (acknowledgeClaimForScope_ok hfirst) hrest ?_⟩
    -- a row that is acknowledged for the first token is not claimed for another
    intro row _
    by_cases hstate : row.state = .claimed
    . by_cases hholds : MailboxScope.holds .coordinatorKey key row
      . by_cases htoken : row.claimToken = some claimToken
        . simp [Table.rewrite, Mailbox.settles, MailboxRow.isClaimedBy, hstate, hholds, htoken,
            MailboxRow.acknowledge]
        . cases hclaim : row.claimToken with
          | none => simp [Table.rewrite, Mailbox.settles, MailboxRow.isClaimedBy, hclaim]
          | some token =>
            rw [hclaim, Option.some.injEq] at htoken
            simp [Table.rewrite, Mailbox.settles, MailboxRow.isClaimedBy, hstate, hholds, hclaim,
              htoken]
      . simp [Table.rewrite, Mailbox.settles, hholds]
    . simp [Table.rewrite, Mailbox.settles, MailboxRow.isClaimedBy, hstate]

variable {continuationQueueId : String}

theorem consumes_of_updates {row : IntentRow} (hrow : row ∈ results.intents.rows)
    (hstate : row.state = .enqueued) (hqueue : row.continuationQueueId = some continuationQueueId)
    (hmailbox : results.mailbox.update (Mailbox.settles row.ownerKey row.claimTokens)
      (MailboxRow.acknowledge nowMs) = some later.mailbox) (hintents : results.intents.update
      (IntentRow.isEnqueuedAs row.intentId row.ownerKey continuationQueueId) (IntentRow.consume nowMs)
        = some later.intents)
    : results.Consumes later row := by
  have hsettles : ∀ old, Settles row old (Table.rewrite
      (Mailbox.settles row.ownerKey row.claimTokens) (MailboxRow.acknowledge nowMs) old) := by
    intro old
    unfold Table.rewrite
    by_cases hheld : old.HeldBy row
    . rw [if_pos (settles_iff.mpr hheld)]
      exact ⟨rfl, fun _ => rfl, fun hnot => absurd hheld hnot⟩
    . rw [if_neg (fun hhits => hheld (settles_iff.mp hhits))]
      exact ⟨rfl, fun hheld' => absurd hheld' hheld, fun _ => rfl⟩
  constructor
  . exact hrow
  . simp [IntentRow.isLive, hstate]
  . constructor
    . intro old hold
      exact ⟨_, (Table.mem_update hmailbox).mpr ⟨old, hold, rfl⟩,
        mailboxId_of_event (hsettles old).event, hsettles old⟩
    . intro new hnew
      obtain ⟨old, hold, heq⟩ := (Table.mem_update hmailbox).mp hnew
      rw [← heq]
      exact .inl ⟨old, hold, mailboxId_of_event (hsettles old).event, hsettles old⟩
  . intro other' hother'
    obtain ⟨other, hother, heq⟩ := (Table.mem_update hintents).mp hother'
    refine ⟨other, hother, ?_⟩
    rw [← heq]
    unfold Table.rewrite
    by_cases hself : other = row
    . have hhits : IntentRow.isEnqueuedAs row.intentId row.ownerKey continuationQueueId other := by
        simp [IntentRow.isEnqueuedAs, hself, hstate, hqueue]
      rw [if_pos hhits]
      exact ⟨rfl, .inl ⟨hself, rfl⟩⟩
    . have hmiss : ¬ IntentRow.isEnqueuedAs row.intentId row.ownerKey continuationQueueId other := by
        intro hhits
        simp only [IntentRow.isEnqueuedAs, Bool.and_eq_true, decide_eq_true_eq] at hhits
        exact hself (Table.eq_of_key hother hrow hhits.1.1.1)
      rw [if_neg hmiss]
      exact ⟨rfl, .inr ⟨hself, rfl⟩⟩

theorem consumeResumeIntent_ok {intentId : String} {intent : WorkerResumeIntentV1}
    (h : consumeResumeIntent owner intentId continuationQueueId nowMs results = .ok intent later)
    : (later = results ∨ ∃ row, results.Consumes later row)
        ∧ ∃ row ∈ later.intents.rows, row.Decodes intent := by
  unfold consumeResumeIntent at h
  simp only [Transaction.bind_eq_ok, Transaction.check_eq_ok, onOwner_eq_ok, Transaction.query_eq_ok,
    Except.ofOption_eq_ok] at h
  obtain ⟨_, _, ⟨_, rfl⟩, _, _, ⟨_, rfl⟩, _, _, ⟨_, rfl⟩, key, _, ⟨hkey, rfl⟩, found, _,
    ⟨hfound, rfl⟩, existing, _, ⟨rfl, rfl⟩, _, _, ⟨hmatch, rfl⟩, h⟩ := h
  obtain ⟨row, hrow, hid, hdecodes⟩ := findIntent_ok hfound
  simp only [Except.require_eq_ok, Bool.not_eq_true', Bool.or_eq_false_iff, decide_eq_false_iff_not,
    not_not] at hmatch
  split at h
  . rw [Transaction.pure_eq_ok] at h
    rw [← h.1, ← h.2]
    exact ⟨.inl rfl, row, hrow, hdecodes⟩
  . simp only [Transaction.bind_eq_ok, Transaction.check_eq_ok, Transaction.query_eq_ok,
      update_eq_ok, Except.ofOption_eq_ok, Except.require_eq_ok, decide_eq_true_eq] at h
    obtain ⟨_, _, ⟨hstate, rfl⟩, _, middle, hack, _, _, ⟨intents, hupdate, rfl⟩, consumed, _,
      ⟨hconsumed, rfl⟩, rfl, rfl⟩ := h
    obtain ⟨hintents, hmailbox⟩ := acknowledgeTokens_ok hkey hack
    have hownerKey : row.ownerKey = key := hdecodes.content.ownerKey.symm.trans hmatch.1
    have hstate : row.state = .enqueued := by
      rw [← hdecodes.state]
      exact hstate
    have hqueue : row.continuationQueueId = some continuationQueueId := by
      rw [← hdecodes.queue]
      exact hmatch.2
    rw [← hdecodes.tokens, ← hownerKey] at hmailbox
    rw [hintents, ← hid, ← hownerKey] at hupdate
    refine ⟨.inr ⟨row, consumes_of_updates hrow hstate hqueue hmailbox hupdate⟩, ?_⟩
    obtain ⟨row', hrow', _, hdecodes'⟩ := findIntent_ok hconsumed
    exact ⟨row', hrow', hdecodes'⟩

theorem Results.Sound.consumeResumeIntent (h : results.Sound capacity) {intentId : String}
    {intent : WorkerResumeIntentV1}
    (hok : Coordinator.consumeResumeIntent owner intentId continuationQueueId nowMs results
      = .ok intent later)
    : later.Sound capacity := by
  cases (consumeResumeIntent_ok hok).1 with
  | inl hsame =>
    rw [hsame]
    exact h
  | inr hconsumes =>
    obtain ⟨row, hconsumes⟩ := hconsumes
    exact h.consume hconsumes

end Consume

section Run

variable {capacity : Option Nat} {results : Results}

theorem Results.Sound.onMailbox (h : results.Sound capacity) {α : Type} {transaction : MailboxTransaction α}
    (hok : ∀ a mailbox, transaction results.mailbox = .ok a mailbox →
      Results.Sound capacity { results with mailbox })
    : ((Resume.onMailbox transaction).commit results).Sound capacity := by
  apply Transaction.commit_cases _ h
  intro a later hlater
  obtain ⟨mailbox, hmailbox, heq⟩ := onMailbox_eq_ok.mp hlater
  rw [heq]
  exact hok a mailbox hmailbox

theorem of_onKey {ε : Type} {key : Except ε String} {condition : String → Bool}
    (h : Results.onKey key condition) {value : String} (hkey : key = .ok value)
    : condition value := by
  rw [hkey] at h
  exact h

theorem Results.Sound.exec (h : results.Sound capacity) {call : ResultCall}
    (hkeeps : results.keepsClaims call) (hfits : ∀ limit ∈ capacity, results.fits limit call)
    : (results.exec call).Sound capacity := by
  cases call with
  | insertTerminalResult input =>
    apply h.onMailbox
    intro outcome mailbox hok
    exact h.insertTerminalResult hok
  | claimUnreadForExactOwner owner options =>
    apply h.onMailbox
    intro batch mailbox hok
    obtain ⟨key, released, hkey, heffect⟩ := claimUnreadForExactOwner_ok hok
    exact h.claim heffect (of_onKey hkeeps hkey)
  | claimUnreadForCoordinator owner options =>
    apply h.onMailbox
    intro batch mailbox hok
    obtain ⟨key, filled, released, hkey, hfill, heffect⟩ := claimUnreadForCoordinator_ok hok
    rw [h.backfill hfill] at heffect
    exact h.claim heffect (of_onKey hkeeps hkey)
  | coalescedUnreadForCoordinator owner limit =>
    apply h.onMailbox
    intro records mailbox hok
    rw [h.backfill (coalescedUnreadForCoordinator_ok hok)]
    exact h
  | acknowledgeClaim owner claimToken nowMs =>
    apply h.onMailbox
    intro outcome mailbox hok
    unfold Coordinator.acknowledgeClaim at hok
    simp only [Transaction.bind_eq_ok, Transaction.check_eq_ok] at hok
    obtain ⟨_, _, ⟨_, rfl⟩, key, _, ⟨hkey, rfl⟩, hok⟩ := hok
    exact h.acknowledge (of_onKey hkeeps hkey) (acknowledgeClaimForScope_ok hok)
  | acknowledgeCoordinatorClaim owner claimToken nowMs =>
    apply h.onMailbox
    intro outcome mailbox hok
    unfold Coordinator.acknowledgeCoordinatorClaim at hok
    simp only [Transaction.bind_eq_ok, Transaction.check_eq_ok] at hok
    obtain ⟨_, _, ⟨_, rfl⟩, key, _, ⟨hkey, rfl⟩, hok⟩ := hok
    exact h.acknowledge (of_onKey hkeeps hkey) (acknowledgeClaimForScope_ok hok)
  | releaseClaim owner claimToken nowMs =>
    apply h.onMailbox
    intro outcome mailbox hok
    unfold Coordinator.releaseClaim at hok
    simp only [Transaction.bind_eq_ok, Transaction.check_eq_ok] at hok
    obtain ⟨_, _, ⟨_, rfl⟩, key, _, ⟨hkey, rfl⟩, hok⟩ := hok
    apply h.release _ (of_onKey hkeeps hkey) (releaseClaimForScope_ok hok)
    intro row hhits
    exact (claimed_of_isClaimedBy hhits).1
  | releaseCoordinatorClaim owner claimToken nowMs =>
    apply h.onMailbox
    intro outcome mailbox hok
    unfold Coordinator.releaseCoordinatorClaim at hok
    simp only [Transaction.bind_eq_ok, Transaction.check_eq_ok] at hok
    obtain ⟨_, _, ⟨_, rfl⟩, key, _, ⟨hkey, rfl⟩, hok⟩ := hok
    apply h.release _ (of_onKey hkeeps hkey) (releaseClaimForScope_ok hok)
    intro row hhits
    exact (claimed_of_isClaimedBy hhits).1
  | createOrCoalesceResumeIntent owner laneActivity options =>
    apply Transaction.commit_cases _ h
    intro outcome later hok
    obtain ⟨exactOwner, key, hkey, howner, hcases⟩ := createOrCoalesceResumeIntent_ok h hok
    rw [howner] at hkeeps hfits
    cases hcases with
    | inl hactive => exact h.blockResumeIntent hactive.2
    | inr hidle =>
      have hguard : results.spares .coordinatorKey key (MailboxRow.isExpired options.nowMs)
          && results.tokenIsFree key exactOwner.virtualSessionId options.claimToken := by
        unfold Results.keepsClaims at hkeeps
        dsimp only at hkeeps
        rw [hidle.1, Bool.false_or] at hkeeps
        exact of_onKey hkeeps hkey
      rw [Bool.and_eq_true] at hguard
      apply h.createResumeIntent hguard.1 hguard.2 _ hidle.2
      intro limit hlimit
      have hlimit := hfits limit hlimit
      unfold Results.fits at hlimit
      dsimp only at hlimit
      rw [hidle.1, Bool.false_or] at hlimit
      exact of_decide_eq_true (of_onKey hlimit hkey)
  | claimNextResumeIntent owner options =>
    apply Transaction.commit_cases _ h
    intro found later hok
    exact h.claimNextResumeIntent hok
  | releaseExpiredResumeLeases nowMs =>
    apply Transaction.commit_cases _ h
    intro count later hok
    exact h.releaseExpiredResumeLeases hok
  | releaseResumeIntent owner intentId leaseToken nowMs =>
    apply Transaction.commit_cases _ h
    intro released later hok
    exact h.releaseResumeIntent hok
  | markResumeIntentEnqueued owner intentId leaseToken continuationQueueId nowMs =>
    apply Transaction.commit_cases _ h
    intro intent later hok
    exact h.markResumeIntentEnqueued hok
  | consumeResumeIntent owner intentId continuationQueueId nowMs =>
    apply Transaction.commit_cases _ h
    intro intent later hok
    exact h.consumeResumeIntent hok

theorem Results.Sound.run {calls : List ResultCall}
    (hguard : Run.Guarded Results.exec (fun results call => results.keepsClaims call
      ∧ ∀ limit ∈ capacity, results.fits limit call) Results.empty calls)
    : Results.Sound capacity (Run.exec Results.exec Results.empty calls) := by
  apply Run.exec_invariant_of_guarded (Results.Sound capacity) _ (Results.sound_empty capacity) hguard
  intro results call h hkeeps
  exact h.exec hkeeps.1 hkeeps.2

def Results.DeliversOnce (results : Results) : Prop :=
  ∀ intent ∈ results.intents.rows, ∀ other ∈ results.intents.rows,
    intent.intentId ≠ other.intentId → intent.isDelivered → other.isDelivered →
    ∀ id ∈ intent.mailboxIds, id ∉ other.mailboxIds

def Results.ConsumesAcknowledged (results : Results) : Prop :=
  ∀ owner intentId continuationQueueId nowMs intent later,
    consumeResumeIntent owner intentId continuationQueueId nowMs results = .ok intent later →
    intent.state = .consumed →
    ∀ id ∈ intent.mailboxIds, ∃ row ∈ later.mailbox.rows,
      row.mailboxId = id ∧ row.state = .acknowledged

theorem not_quarantined_of_delivered {intent : IntentRow} (h : intent.isDelivered)
    : intent.state ≠ .quarantined := by
  intro hquarantined
  simp [IntentRow.isDelivered, hquarantined] at h

/-
While no call gives the results of a live intent to someone else, they are delivered exactly once.
-/
theorem delivered_exactly_once {calls : List ResultCall}
    (hguard : Run.Guarded Results.exec (fun results call => results.keepsClaims call) Results.empty
      calls)
    : (Run.exec Results.exec Results.empty calls).DeliversOnce
        ∧ (Run.exec Results.exec Results.empty calls).ConsumesAcknowledged := by
  have h : Results.Sound none (Run.exec Results.exec Results.empty calls) := by
    apply Results.Sound.run
    apply Run.guarded_mono _ hguard
    intro results call hkeeps
    refine ⟨hkeeps, ?_⟩
    intro limit hlimit
    cases hlimit
  constructor
  . intro intent hintent other hother hne hdelivered hotherDelivered
    exact h.disjoint intent hintent other hother hne (not_quarantined_of_delivered hdelivered)
      (not_quarantined_of_delivered hotherDelivered)
  . intro owner intentId continuationQueueId nowMs intent later hok hconsumed id hid
    have hlater := h.consumeResumeIntent hok
    obtain ⟨row, hrow, hdecodes⟩ := (consumeResumeIntent_ok hok).2
    rw [← hdecodes.ids] at hid
    rw [hdecodes.state] at hconsumed
    exact hlater.acknowledged row hrow hconsumed id hid

end Run

section Sample

def sampleResult : WorkerResultMailboxInsertV1 where
  terminalEventKey := "e"
  owner := .exact sampleOwner
  envelope := {
    schema := workerResultEnvelopeSchema
    outcome := .succeeded
    contentPolicy := .redactedSummaryAndOpaquePointersOnly
    redactedSummary := "done"
    artifacts := [] }
  sourceWorkerJobId := some "a"
  terminalAtMs := 10

def idleLane : LaneActivityReceiptV1 where
  schema := laneActivityReceiptSchema
  laneActive := false
  observedAtMs := 0
  blockerReason := none

def sampleIntentId : String :=
  "resume/" ++ sampleOwner.coordinatorKey.toOption.getD "" ++ "/1"

def sampleCreate (claimToken : String) (nowMs : Int) : ResultCall :=
  .createOrCoalesceResumeIntent (.exact sampleOwner) idleLane {
    claimToken
    claimantId := "p"
    nowMs
    mailboxLeaseMs := 1000
    limit := 100 }

def deliveredCalls : List ResultCall :=
  [.insertTerminalResult sampleResult, sampleCreate "t" 100,
    .claimNextResumeIntent sampleOwner {
      leaseToken := "l"
      leaseOwner := "p"
      nowMs := 200
      leaseMs := 1000 },
    .markResumeIntentEnqueued sampleOwner sampleIntentId "l" "c" 300]

-- the first intent is consumed, and a second result opens the next one
def resumedCalls : List ResultCall :=
  deliveredCalls ++ [.consumeResumeIntent sampleOwner sampleIntentId "c" 400,
    .insertTerminalResult { sampleResult with
      terminalEventKey := "f"
      sourceWorkerJobId := some "b" },
    sampleCreate "u" 500]

def expiredClaimCalls : List ResultCall :=
  deliveredCalls ++ [.claimUnreadForCoordinator sampleOwner {
    claimToken := "u"
    claimantId := "p"
    nowMs := 2000
    leaseMs := 1000
    limit := 100 }]

def repeatedTokenCalls : List ResultCall :=
  deliveredCalls ++ [sampleCreate "t" 400,
    .consumeResumeIntent sampleOwner sampleIntentId "c" 500]

def Results.hasUnclaimedIntent (results : Results) : Bool :=
  (results.intents.rows.any fun intent => intent.state = .pending && intent.mailboxIds = [1])
    && results.mailbox.rows.all fun row => row.state ≠ .claimed

def Results.consumesUnacknowledged (results : Results) (owner : ExactWorkerResultOwnerV1)
    (intentId continuationQueueId : String) (nowMs : Int)
    : Bool :=
  match consumeResumeIntent owner intentId continuationQueueId nowMs results with
  | .ok intent later => intent.state = .consumed && intent.mailboxIds = [1]
    && later.mailbox.rows.all fun row => row.state ≠ .acknowledged
  | .error _ _ => false

theorem not_consumesAcknowledged {results : Results} {owner : ExactWorkerResultOwnerV1}
    {intentId continuationQueueId : String} {nowMs : Int}
    (hrun : results.consumesUnacknowledged owner intentId continuationQueueId nowMs)
    : ¬ results.ConsumesAcknowledged := by
  intro h
  unfold Results.consumesUnacknowledged at hrun
  split at hrun
  . next intent later hok =>
    simp only [Bool.and_eq_true, decide_eq_true_eq, List.all_eq_true] at hrun
    have hid : 1 ∈ intent.mailboxIds := by
      rw [hrun.1.2]
      exact List.mem_singleton_self 1
    obtain ⟨row, hrow, _, hack⟩ := h _ _ _ _ intent later hok hrun.1.1 1 hid
    exact hrun.2 row hrow hack
  . cases hrun

theorem sampleHistories
    : Run.Guarded Results.exec (fun results call => results.keepsClaims call
          ∧ results.fits maxMailboxBatchItems call) Results.empty resumedCalls
        ∧ (Run.exec Results.exec Results.empty resumedCalls).intents.rows.map (·.state)
            = [.consumed, .pending]
        ∧ (Run.exec Results.exec Results.empty expiredClaimCalls).consumesUnacknowledged sampleOwner
            sampleIntentId "c" 3000
        ∧ Run.Guarded Results.exec (fun results call => results.withinLeases call) Results.empty
            repeatedTokenCalls
        ∧ (Run.exec Results.exec Results.empty repeatedTokenCalls).hasUnclaimedIntent := by
  decide +kernel

theorem delivered_despite_expiry
    : ¬ (Run.exec Results.exec Results.empty expiredClaimCalls).ConsumesAcknowledged :=
  not_consumesAcknowledged sampleHistories.2.2.1

theorem delivered_sample
    : (Run.exec Results.exec Results.empty resumedCalls).DeliversOnce
        ∧ (Run.exec Results.exec Results.empty resumedCalls).ConsumesAcknowledged :=
  delivered_exactly_once (Run.guarded_mono (fun _ _ h => h.1) sampleHistories.1)

end Sample

end Coordinator
