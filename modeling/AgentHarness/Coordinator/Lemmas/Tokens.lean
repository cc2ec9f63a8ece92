import AgentHarness.Coordinator.Lemmas.History

/-!
The reader of an intent's records succeeds on every intent that is still to be consumed.
-/

namespace Coordinator

section Decode

theorem MailboxRow.decodeClaim_isOk {row : MailboxRow} (h : row.claimCheck)
    : ∃ claim, row.decodeClaim = .ok claim := by
  by_cases hstate : row.state = .claimed
  . simp only [MailboxRow.claimCheck, hstate, Bool.and_eq_true, Option.isSome_iff_exists] at h
    obtain ⟨⟨⟨token, htoken⟩, claimant, hclaimant⟩, expiry, hexpiry⟩ := h
    refine ⟨some { claimToken := token, claimantId := claimant, leaseExpiresAtMs := expiry }, ?_⟩
    simp [MailboxRow.decodeClaim, hstate, htoken, hclaimant, hexpiry, Except.ofOption, bind,
      Except.bind, pure, Except.pure]
  . refine ⟨none, ?_⟩
    simp [MailboxRow.decodeClaim, hstate, pure, Except.pure]

theorem MailboxRow.decode_isOk {row : MailboxRow} (hcheck : mailboxTable.check row)
    (h : row.WellFormed)
    : ∃ record, row.decode = .ok record := by
  obtain ⟨owner, envelope, hstores⟩ := h
  have hclaimCheck : row.claimCheck := by
    simp only [mailboxTable, Bool.and_eq_true] at hcheck
    exact hcheck.2
  obtain ⟨claim, hclaim⟩ := MailboxRow.decodeClaim_isOk hclaimCheck
  unfold MailboxRow.decode
  simp only [Except.bind_eq_ok, Except.pure_eq_ok, Except.require_eq_ok, Except.ofOption_eq_ok,
    invalidStored_eq_ok, decide_eq_true_eq]
  exact ⟨_, owner, by rw [hstores.ownerJson]; rfl, .unit, hstores.ownerValid, .unit,
    hstores.ownerKind, row.ownerKey, hstores.ownerKey, .unit, rfl, .unit, hstores.autoResumable,
    envelope, by rw [hstores.envelopeJson]; rfl, .unit, hstores.envelopeValid, claim, hclaim, rfl⟩

theorem IntentRow.decodeLease_isOk {row : IntentRow} (h : row.leaseCheck)
    : ∃ lease, row.decodeLease = .ok lease := by
  by_cases hstate : row.state = .leased
  . simp only [IntentRow.leaseCheck, hstate, if_true, Bool.and_eq_true, Option.isSome_iff_exists] at h
    obtain ⟨⟨⟨token, htoken⟩, owner, howner⟩, expiry, hexpiry⟩ := h
    refine ⟨some { leaseToken := token, leaseOwner := owner, leaseExpiresAtMs := expiry }, ?_⟩
    simp [IntentRow.decodeLease, hstate, htoken, howner, hexpiry, Except.ofOption, bind, Except.bind,
      pure, Except.pure]
  . refine ⟨none, ?_⟩
    simp [IntentRow.decodeLease, hstate, pure, Except.pure]

theorem IntentRow.decode_isOk {row : IntentRow} (hcheck : intentTable.check row)
    {intent : WorkerResumeIntentV1} (h : row.content.Holds intent)
    (htokens : intent.mailboxClaimTokens ≠ [])
    : ∃ value, row.decode = .ok value := by
  simp only [intentTable, Bool.and_eq_true, decide_eq_true_eq] at hcheck
  obtain ⟨lease, hlease⟩ := IntentRow.decodeLease_isOk hcheck.1.1.1.2
  unfold IntentRow.decode
  simp only [Except.bind_eq_ok, Except.pure_eq_ok, Except.require_eq_ok, Except.ofOption_eq_ok,
    mailboxError_eq_ok, Bool.not_eq_true', Bool.or_eq_false_iff, decide_eq_true_eq,
    decide_eq_false_iff_not, not_not]
  refine ⟨_, .unit, hcheck.1.1.1.1, intent.owner, h.owner, .unit,
    coordinatorKey_validate h.coordinatorKey, row.ownerKey, h.coordinatorKey, .unit, ⟨rfl, h.session⟩,
    intent.laneActivity, h.lane, .unit, h.laneValid, .unit, h.blocker, lease, hlease,
    intent.mailboxIds, h.mailboxIds, intent.mailboxClaimTokens, h.claimTokens, .unit, h.nonempty, .unit,
    h.cursor, .unit, ?_, rfl⟩
  simp [htokens]

end Decode

section Read

variable {capacity : Option Nat} {results : Results} (h : results.Sound capacity) {row : IntentRow}
  (hrow : row ∈ results.intents.rows) (hlive : row.isLive)

include h hrow hlive

theorem Results.Sound.claimTokens_ne_nil : row.claimTokens ≠ [] := by
  obtain ⟨intent, hcontent⟩ := (h.intents row hrow).content
  have hids : row.mailboxIds = intent.mailboxIds := by
    have hjson : row.mailboxIdsJson.decode = some intent.mailboxIds := hcontent.mailboxIds
    rw [IntentRow.mailboxIds, hjson]
    rfl
  obtain ⟨id, hid⟩ := List.exists_mem_of_ne_nil _ hcontent.nonempty
  rw [← hids] at hid
  obtain ⟨_, _, _, hheld⟩ := h.held row hrow hlive id hid
  obtain ⟨token, htoken, _⟩ := hheld.token
  exact List.ne_nil_of_mem htoken

theorem Results.Sound.decode_isOk : ∃ intent, row.decode = .ok intent ∧ row.Decodes intent := by
  obtain ⟨intent, hcontent⟩ := (h.intents row hrow).content
  have htokens : row.claimTokens = intent.mailboxClaimTokens := by
    have hjson : row.mailboxClaimTokensJson.decode = some intent.mailboxClaimTokens :=
      hcontent.claimTokens
    rw [IntentRow.claimTokens, hjson]
    rfl
  have hne := h.claimTokens_ne_nil hrow hlive
  rw [htokens] at hne
  obtain ⟨value, hdecode⟩ :=
    IntentRow.decode_isOk (results.intents.admits.check row hrow) hcontent hne
  exact ⟨value, hdecode, IntentRow.decode_ok hdecode⟩

theorem Results.Sound.tokens_length_le : row.claimTokens.length ≤ row.mailboxIds.length := by
  have hsubset : row.claimTokens ⊆ row.mailboxIds.filterMap fun id =>
      (results.mailbox.find id).bind MailboxRow.claimToken := by
    intro token htoken
    obtain ⟨found, hfound, hid, hfoundToken⟩ := h.bound row hrow hlive token htoken
    rw [List.mem_filterMap]
    refine ⟨found.mailboxId, hid, ?_⟩
    have hfind : results.mailbox.find found.mailboxId = some found := Table.find_of_mem hfound
    rw [hfind]
    exact hfoundToken
  exact le_trans (length_le_of_nodup_subset (h.intents row hrow).tokens hsubset)
    (List.length_filterMap_le _ _)

theorem Results.Sound.claimedRecord_isOk {id : Nat} (hid : id ∈ row.mailboxIds)
    : ∃ record, results.mailbox.claimedRecord row.ownerKey row.claimTokens id = .ok record := by
  obtain ⟨found, hfound, hfoundId, hheld⟩ := h.held row hrow hlive id hid
  obtain ⟨token, htoken, hfoundToken⟩ := hheld.token
  have hkey : found.coordinatorKey = some row.ownerKey := (holds_iff.mp hheld.holds).1
  have hfind : results.mailbox.find id = some found := by
    rw [← hfoundId]
    exact Table.find_of_mem hfound
  obtain ⟨record, hdecode⟩ :=
    MailboxRow.decode_isOk (results.mailbox.admits.check found hfound) (h.rows found hfound)
  refine ⟨record, ?_⟩
  unfold Mailbox.claimedRecord
  simp only [Except.bind_eq_ok, Except.ofOption_eq_ok, Except.require_eq_ok]
  refine ⟨found, hfind, .unit, ?_, hdecode⟩
  simp [hkey, hheld.state, hfoundToken, htoken]

theorem Results.Sound.claimedRecords_isOk {intent : WorkerResumeIntentV1}
    (hdecodes : row.Decodes intent) (hfits : row.mailboxIds.length ≤ maxMailboxBatchItems)
    : ∃ records, claimedRecordsForCoordinatorIntent intent.owner intent.mailboxIds
        intent.mailboxClaimTokens results.mailbox = .ok records := by
  have htokens := h.claimTokens_ne_nil hrow hlive
  have htokensLength := h.tokens_length_le hrow hlive
  have hnodup := (h.intents row hrow).ids
  have hrecords : ∃ records, (sortedUniqueIds row.mailboxIds).mapM
      (results.mailbox.claimedRecord row.ownerKey row.claimTokens) = .ok records := by
    apply Except.mapM_isOk
    intro id hid
    rw [mem_sortedUniqueIds] at hid
    exact h.claimedRecord_isOk hrow hlive hid
  obtain ⟨records, hrecords⟩ := hrecords
  have hlength : (sortedUniqueIds row.mailboxIds).length = row.mailboxIds.length := by
    have hperm : (sortIds row.mailboxIds).Perm row.mailboxIds := List.perm_insertionSort _ _
    rw [sortedUniqueIds_eq, List.Nodup.dedup (hperm.nodup_iff.mpr hnodup), hperm.length_eq]
  rw [hdecodes.tokens] at htokens htokensLength hrecords
  have hnonempty := hdecodes.content.nonempty
  rw [hdecodes.ids] at htokensLength hfits hrecords hlength
  unfold claimedRecordsForCoordinatorIntent
  simp only [Except.bind_eq_ok, Except.require_eq_ok, Except.pure_eq_ok, Bool.not_eq_true',
    Bool.or_eq_false_iff, decide_eq_false_iff_not, decide_eq_true_eq, not_lt]
  exact ⟨_, .unit, ⟨hnonempty, hfits⟩, .unit, ⟨htokens, le_trans htokensLength hfits⟩, row.ownerKey,
    hdecodes.content.coordinatorKey, .unit, hlength, records, hrecords, rfl⟩

end Read

/-
What an intent that is still to be consumed promises to its reader.
-/
structure Results.Promises (results : Results) (intent : WorkerResumeIntentV1) : Prop where
  cursor : intent.mailboxIds.max? = some intent.mailboxCursor
  length : intent.mailboxIds.length ≤ maxMailboxBatchItems
  claimed : ∀ id ∈ intent.mailboxIds, ∃ row ∈ results.mailbox.rows, row.mailboxId = id
    ∧ row.state = .claimed ∧ ∃ claimToken ∈ intent.mailboxClaimTokens,
      row.claimToken = some claimToken
  records : ∃ records, claimedRecordsForCoordinatorIntent intent.owner intent.mailboxIds
    intent.mailboxClaimTokens results.mailbox = .ok records

def Results.KeepsPromises (results : Results) : Prop :=
  ∀ row ∈ results.intents.rows, row.isLive → ∃ intent, row.decode = .ok intent
    ∧ results.Promises intent

theorem intents_keep_promises {calls : List ResultCall}
    (hguard : Run.Guarded Results.exec (fun results call => results.keepsClaims call
      ∧ results.fits maxMailboxBatchItems call) Results.empty calls)
    : (Run.exec Results.exec Results.empty calls).KeepsPromises := by
  have h : Results.Sound (some maxMailboxBatchItems) (Run.exec Results.exec Results.empty calls) := by
    apply Results.Sound.run
    apply Run.guarded_mono _ hguard
    intro results call hkeeps
    refine ⟨hkeeps.1, ?_⟩
    intro limit hlimit
    obtain rfl := Option.mem_some.mp hlimit
    exact hkeeps.2
  intro row hrow hlive
  obtain ⟨intent, hdecode, hdecodes⟩ := h.decode_isOk hrow hlive
  have hfits := h.fits row hrow hlive _ (Option.mem_some_self _)
  refine ⟨intent, hdecode, ?_, ?_, ?_, h.claimedRecords_isOk hrow hlive hdecodes hfits⟩
  . rw [hdecodes.mailboxCursor]
    exact hdecodes.content.cursor
  . rw [← hdecodes.ids]
    exact hfits
  . intro id hid
    rw [← hdecodes.ids] at hid
    obtain ⟨found, hfound, hfoundId, hheld⟩ := h.held row hrow hlive id hid
    rw [← hdecodes.tokens]
    exact ⟨found, hfound, hfoundId, hheld.state, hheld.token⟩

theorem promises_sample
    : (Run.exec Results.exec Results.empty resumedCalls).KeepsPromises :=
  intents_keep_promises sampleHistories.1

theorem not_keepsPromises {results : Results} (hrun : results.hasUnclaimedIntent)
    : ¬ results.KeepsPromises := by
  intro h
  simp only [Results.hasUnclaimedIntent, Bool.and_eq_true, List.any_eq_true, List.all_eq_true,
    decide_eq_true_eq] at hrun
  obtain ⟨⟨row, hrow, hpending, hids⟩, hunclaimed⟩ := hrun
  obtain ⟨intent, hdecode, hpromises⟩ := h row hrow (isLive_of_pending hpending)
  have hid : 1 ∈ intent.mailboxIds := by
    rw [← (IntentRow.decode_ok hdecode).ids, hids]
    exact List.mem_singleton_self 1
  obtain ⟨found, hfound, _, hclaimed, _⟩ := hpromises.claimed 1 hid
  exact hunclaimed found hfound hclaimed

theorem repeated_token_breaks_promise
    : Run.Guarded Results.exec (fun results call => results.withinLeases call) Results.empty
          repeatedTokenCalls
        ∧ ¬ (Run.exec Results.exec Results.empty repeatedTokenCalls).KeepsPromises :=
  ⟨sampleHistories.2.2.2.1, not_keepsPromises sampleHistories.2.2.2.2⟩

end Coordinator
