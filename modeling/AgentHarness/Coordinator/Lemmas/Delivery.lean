import AgentHarness.Coordinator.Lemmas.Claim

/-!
The rows of an intent stay with it until they are acknowledged.
-/

namespace Coordinator

/-
The columns that are written when an intent is created or gains results.
-/
def IntentRow.content (row : IntentRow) : IntentRow :=
  { row with
    state := .pending
    leaseToken := none
    leaseOwner := none
    leaseExpiresAtMs := none
    continuationQueueId := none
    updatedAtMs := 0
    enqueuedAtMs := none
    consumedAtMs := none }

section IntentDecode

-- what these columns have to satisfy to be the ones of an intent
structure IntentRow.Holds (row : IntentRow) (intent : WorkerResumeIntentV1) : Prop where
  intentId : intent.intentId = row.intentId
  ownerKey : intent.ownerKey = row.ownerKey
  owner : row.ownerJson.decode = some intent.owner
  coordinatorKey : intent.owner.coordinatorKey = .ok row.ownerKey
  session : intent.owner.virtualSessionId = row.virtualSessionId
  mailboxIds : row.mailboxIdsJson.decode = some intent.mailboxIds
  claimTokens : row.mailboxClaimTokensJson.decode = some intent.mailboxClaimTokens
  nonempty : intent.mailboxIds ≠ []
  cursor : intent.mailboxIds.max? = some row.mailboxCursor
  lane : row.laneActivityJson.decode = some intent.laneActivity
  laneValid : intent.laneActivity.validate = .ok ()
  blocker : intent.laneActivity.blockerReason = row.blockerReason

structure IntentRow.Decodes (row : IntentRow) (intent : WorkerResumeIntentV1) : Prop where
  content : row.content.Holds intent
  mailboxCursor : intent.mailboxCursor = row.mailboxCursor
  state : intent.state = row.state
  queue : intent.continuationQueueId = row.continuationQueueId

variable {row : IntentRow} {intent : WorkerResumeIntentV1}

theorem mailboxError_eq_ok {α : Type} {result : Except WorkerResultMailboxError α} {a : α}
    : IntentRow.mailboxError result = .ok a ↔ result = .ok a := by
  rw [IntentRow.mailboxError, Except.mapError_eq_ok]

theorem IntentRow.decode_ok (h : row.decode = .ok intent) : row.Decodes intent := by
  unfold IntentRow.decode at h
  simp only [Except.bind_eq_ok, Except.pure_eq_ok, Except.require_eq_ok, Except.ofOption_eq_ok,
    mailboxError_eq_ok, Bool.not_eq_true', Bool.or_eq_false_iff, decide_eq_true_eq,
    decide_eq_false_iff_not, not_not] at h
  obtain ⟨_, _, owner, howner, _, _, key, hkey, _, hcolumns, lane, hlane, _, hvalid, _, hblocker, _, _,
    ids, hids, tokens, htokens, _, hnonempty, _, hcursor, _, _, h⟩ := h
  rw [← h]
  refine ⟨?_, rfl, rfl, rfl⟩
  constructor
  . rfl
  . rfl
  . exact howner
  . rw [hkey, hcolumns.1]
    rfl
  . exact hcolumns.2
  . exact hids
  . exact htokens
  . exact hnonempty
  . exact hcursor
  . exact hlane
  . exact hvalid
  . exact hblocker

theorem IntentRow.Decodes.ids (h : row.Decodes intent) : row.mailboxIds = intent.mailboxIds := by
  have hids : row.mailboxIdsJson.decode = some intent.mailboxIds := h.content.mailboxIds
  rw [IntentRow.mailboxIds, hids]
  rfl

theorem IntentRow.Decodes.tokens (h : row.Decodes intent)
    : row.claimTokens = intent.mailboxClaimTokens := by
  have htokens : row.mailboxClaimTokensJson.decode = some intent.mailboxClaimTokens :=
    h.content.claimTokens
  rw [IntentRow.claimTokens, htokens]
  rfl

theorem findIntent_ok {intentId : String} {results : Results}
    (h : findIntent intentId results = .ok (some intent))
    : ∃ row ∈ results.intents.rows, row.intentId = intentId ∧ row.Decodes intent := by
  unfold findIntent at h
  rw [Except.bind_eq_ok] at h
  obtain ⟨_, _, h⟩ := h
  cases hfind : results.intents.find intentId with
  | none =>
    rw [hfind] at h
    cases h
  | some row =>
    rw [hfind] at h
    have hrow := Table.mem_of_find hfind
    refine ⟨row, hrow.1, hrow.2, ?_⟩
    apply IntentRow.decode_ok
    cases hdecode : row.decode with
    | error e =>
      simp [hdecode, Except.map] at h
    | ok value =>
      simpa [hdecode, Except.map] using h

end IntentDecode

structure IntentRow.WellFormed (row : IntentRow) : Prop where
  content : ∃ intent, row.content.Holds intent
  ids : row.mailboxIds.Nodup
  tokens : row.claimTokens.Nodup

section Content

variable {row row' : IntentRow} (h : row'.content = row.content)

include h

theorem ownerKey_of_content : row'.ownerKey = row.ownerKey := by
  have := congrArg IntentRow.ownerKey h
  exact this

theorem mailboxIds_of_content : row'.mailboxIds = row.mailboxIds := by
  have := congrArg IntentRow.mailboxIds h
  exact this

theorem claimTokens_of_content : row'.claimTokens = row.claimTokens := by
  have := congrArg IntentRow.claimTokens h
  exact this

theorem intentId_of_content : row'.intentId = row.intentId := by
  have := congrArg IntentRow.intentId h
  exact this

theorem wellFormed_of_content (hrow : row.WellFormed) : row'.WellFormed where
  content := by
    rw [h]
    exact hrow.content
  ids := by
    rw [mailboxIds_of_content h]
    exact hrow.ids
  tokens := by
    rw [claimTokens_of_content h]
    exact hrow.tokens

end Content

structure MailboxRow.Stores (row : MailboxRow) (owner : WorkerResultOwnerV1)
    (envelope : WorkerResultEnvelopeV1) : Prop where
  ownerJson : row.ownerJson = .of owner
  ownerValid : owner.validate = .ok ()
  ownerKind : owner.ownerKind = row.ownerKind
  ownerKey : owner.ownerKey = .ok row.ownerKey
  coordinatorKey : row.coordinatorKey = owner.coordinatorKey
  autoResumable : row.autoResumable = owner.isAutoResumable
  envelopeJson : row.envelopeJson = .of envelope
  envelopeValid : envelope.validate = .ok ()

def MailboxRow.WellFormed (row : MailboxRow) : Prop :=
  ∃ owner envelope, row.Stores owner envelope

structure MailboxRow.HeldBy (row : MailboxRow) (intent : IntentRow) : Prop where
  holds : MailboxScope.holds .coordinatorKey intent.ownerKey row
  state : row.state = .claimed
  token : ∃ claimToken ∈ intent.claimTokens, row.claimToken = some claimToken

/-
The invariant of a history. The rows of a live intent are claimed under its tokens, and only they are;
the rows of a consumed intent are acknowledged; no two intents share a row. Some histories also keep the
live intents within a capacity.
-/
structure Results.Sound (capacity : Option Nat) (results : Results) : Prop where
  rows : ∀ row ∈ results.mailbox.rows, row.WellFormed
  intents : ∀ intent ∈ results.intents.rows, intent.WellFormed
  fits : ∀ intent ∈ results.intents.rows, intent.isLive → ∀ limit ∈ capacity,
    intent.mailboxIds.length ≤ limit
  held : ∀ intent ∈ results.intents.rows, intent.isLive → ∀ id ∈ intent.mailboxIds,
    ∃ row ∈ results.mailbox.rows, row.mailboxId = id ∧ row.HeldBy intent
  bound : ∀ intent ∈ results.intents.rows, intent.isLive → ∀ claimToken ∈ intent.claimTokens,
    ∃ row ∈ results.mailbox.rows, row.mailboxId ∈ intent.mailboxIds
      ∧ row.claimToken = some claimToken
  owned : ∀ intent ∈ results.intents.rows, intent.isLive → ∀ row ∈ results.mailbox.rows,
    row.HeldBy intent → row.mailboxId ∈ intent.mailboxIds
  acknowledged : ∀ intent ∈ results.intents.rows, intent.state = .consumed →
    ∀ id ∈ intent.mailboxIds, ∃ row ∈ results.mailbox.rows,
      row.mailboxId = id ∧ row.state = .acknowledged
  disjoint : ∀ intent ∈ results.intents.rows, ∀ other ∈ results.intents.rows,
    intent.intentId ≠ other.intentId → intent.state ≠ .quarantined → other.state ≠ .quarantined →
    ∀ id ∈ intent.mailboxIds, id ∉ other.mailboxIds

theorem Results.sound_empty (capacity : Option Nat) : Results.Sound capacity Results.empty := by
  constructor
  all_goals
    intro row hrow
    cases hrow

theorem isHeld_of_mem {results : Results} {intent : IntentRow} (hintent : intent ∈ results.intents.rows)
    (hlive : intent.isLive) {id : Nat} (hid : id ∈ intent.mailboxIds)
    : results.isHeld id := by
  unfold Results.isHeld
  rw [List.any_eq_true]
  exact ⟨intent, hintent, by simp [hlive, hid]⟩

structure Results.SparesRow (results : Results) (row row' : MailboxRow) : Prop where
  event : row'.event = row.event
  held : results.isHeld row.mailboxId → row'.state = row.state ∧ row'.claimToken = row.claimToken
  acknowledged : row.state = .acknowledged → row'.state = .acknowledged
  claimed : row'.state = .claimed → (row.state = .claimed ∧ row'.claimToken = row.claimToken)
    ∨ ∀ intent ∈ results.intents.rows, intent.isLive → ∀ claimToken ∈ intent.claimTokens,
        row'.claimToken ≠ some claimToken

theorem Results.SparesRow.refl (results : Results) (row : MailboxRow) : results.SparesRow row row where
  event := rfl
  held _ := ⟨rfl, rfl⟩
  acknowledged h := h
  claimed h := .inl ⟨h, rfl⟩

structure MailboxRow.IsNew (row : MailboxRow) : Prop where
  wellFormed : row.WellFormed
  unread : row.state = .unread

theorem heldBy_of_event {row row' : MailboxRow} {intent : IntentRow} (hevent : row'.event = row.event)
    (hstate : row'.state = row.state) (htoken : row'.claimToken = row.claimToken)
    (h : row.HeldBy intent)
    : row'.HeldBy intent where
  holds := by
    rw [holds_of_event hevent]
    exact h.holds
  state := by rw [hstate, h.state]
  token := by
    rw [htoken]
    exact h.token

theorem wellFormed_of_event {row row' : MailboxRow} (hevent : row'.event = row.event)
    (h : row.WellFormed)
    : row'.WellFormed := by
  obtain ⟨owner, envelope, hstores⟩ := h
  refine ⟨owner, envelope, ?_⟩
  constructor
  . rw [ownerJson_of_event hevent]
    exact hstores.ownerJson
  . exact hstores.ownerValid
  . have hkind := congrArg MailboxRow.ownerKind hevent
    exact hstores.ownerKind.trans hkind.symm
  . have hkey := congrArg (fun row : MailboxRow => Except.ok (ε := WorkerResultMailboxError) row.ownerKey) hevent
    exact hstores.ownerKey.trans hkey.symm
  . rw [coordinatorKey_of_event hevent]
    exact hstores.coordinatorKey
  . have hauto := congrArg MailboxRow.autoResumable hevent
    exact hauto.trans hstores.autoResumable
  . have hjson := congrArg MailboxRow.envelopeJson hevent
    exact hjson.trans hstores.envelopeJson
  . exact hstores.envelopeValid

theorem Results.Sound.evolve {capacity : Option Nat} {results : Results} (h : results.Sound capacity)
    {later : Mailbox}
    (hevolves : Table.Evolves results.SparesRow MailboxRow.IsNew results.mailbox later)
    : Results.Sound capacity { results with mailbox := later } where
  rows := by
    intro row' hrow'
    cases hevolves.origin row' hrow' with
    | inr hnew => exact hnew.wellFormed
    | inl horigin =>
      obtain ⟨row, hrow, _, hspares⟩ := horigin
      exact wellFormed_of_event hspares.event (h.rows row hrow)
  intents := h.intents
  fits := h.fits
  held := by
    intro intent hintent hlive id hid
    obtain ⟨row, hrow, hrowId, hheld⟩ := h.held intent hintent hlive id hid
    obtain ⟨row', hrow', _, hspares⟩ := hevolves.kept row hrow
    have hsame := hspares.held (by rw [hrowId]; exact isHeld_of_mem hintent hlive hid)
    refine ⟨row', hrow', ?_, heldBy_of_event hspares.event hsame.1 hsame.2 hheld⟩
    rw [mailboxId_of_event hspares.event, hrowId]
  bound := by
    intro intent hintent hlive claimToken htoken
    obtain ⟨row, hrow, hid, hrowToken⟩ := h.bound intent hintent hlive claimToken htoken
    obtain ⟨row', hrow', _, hspares⟩ := hevolves.kept row hrow
    have hsame := hspares.held (isHeld_of_mem hintent hlive hid)
    refine ⟨row', hrow', ?_, ?_⟩
    . rw [mailboxId_of_event hspares.event]
      exact hid
    . rw [hsame.2, hrowToken]
  owned := by
    intro intent hintent hlive row' hrow' hheld
    cases hevolves.origin row' hrow' with
    | inr hnew =>
      have := hnew.unread.symm.trans hheld.state
      cases this
    | inl horigin =>
      obtain ⟨row, hrow, _, hspares⟩ := horigin
      cases hspares.claimed hheld.state with
      | inl hsame =>
        rw [mailboxId_of_event hspares.event]
        apply h.owned intent hintent hlive row hrow
        apply heldBy_of_event hspares.event.symm _ hsame.2.symm hheld
        rw [hsame.1, hheld.state]
      | inr hfree =>
        obtain ⟨claimToken, htoken, hrowToken⟩ := hheld.token
        exact absurd hrowToken (hfree intent hintent hlive claimToken htoken)
  acknowledged := by
    intro intent hintent hconsumed id hid
    obtain ⟨row, hrow, hrowId, hack⟩ := h.acknowledged intent hintent hconsumed id hid
    obtain ⟨row', hrow', _, hspares⟩ := hevolves.kept row hrow
    refine ⟨row', hrow', ?_, hspares.acknowledged hack⟩
    rw [mailboxId_of_event hspares.event, hrowId]
  disjoint := h.disjoint

structure IntentRow.Keeps (row row' : IntentRow) : Prop where
  content : row'.content = row.content
  live : row'.isLive = row.isLive
  settled : row.isLive = false → row'.state = row.state

theorem IntentRow.Keeps.refl (row : IntentRow) : row.Keeps row := by
  constructor <;> intros <;> rfl

theorem heldBy_of_keeps {intent intent' : IntentRow} (hkeeps : intent.Keeps intent') {row : MailboxRow}
    : row.HeldBy intent' ↔ row.HeldBy intent := by
  constructor
  . intro h
    have hholds := h.holds
    have htoken := h.token
    rw [ownerKey_of_content hkeeps.content] at hholds
    rw [claimTokens_of_content hkeeps.content] at htoken
    exact ⟨hholds, h.state, htoken⟩
  . intro h
    have hholds := h.holds
    have htoken := h.token
    rw [← ownerKey_of_content hkeeps.content] at hholds
    rw [← claimTokens_of_content hkeeps.content] at htoken
    exact ⟨hholds, h.state, htoken⟩

theorem state_of_not_live {intent : IntentRow} (h : intent.isLive = false)
    : intent.state = .consumed ∨ intent.state = .quarantined := by
  cases hstate : intent.state with
  | pending => simp [IntentRow.isLive, hstate] at h
  | leased => simp [IntentRow.isLive, hstate] at h
  | enqueued => simp [IntentRow.isLive, hstate] at h
  | consumed => exact .inl rfl
  | quarantined => exact .inr rfl

theorem not_quarantined_of_live {intent : IntentRow} (h : intent.isLive)
    : intent.state ≠ .quarantined := by
  intro hquarantined
  simp [IntentRow.isLive, hquarantined] at h

theorem live_of_state {intent : IntentRow} (h : intent.state ≠ .consumed)
    (h' : intent.state ≠ .quarantined)
    : intent.isLive := by
  by_contra hlive
  rw [Bool.not_eq_true] at hlive
  cases state_of_not_live hlive with
  | inl hstate => exact h hstate
  | inr hstate => exact h' hstate

theorem consumed_of_keeps {intent intent' : IntentRow} (hkeeps : intent.Keeps intent')
    (h : intent'.state = .consumed)
    : intent.state = .consumed := by
  have hlive : intent.isLive = false := by
    rw [← hkeeps.live]
    simp [IntentRow.isLive, h]
  rw [← hkeeps.settled hlive, h]

theorem quarantined_of_keeps {intent intent' : IntentRow} (hkeeps : intent.Keeps intent')
    (h : intent.state = .quarantined)
    : intent'.state = .quarantined := by
  have hlive : intent.isLive = false := by simp [IntentRow.isLive, h]
  rw [hkeeps.settled hlive, h]

/-
The intent of a claim: it has the rows of the claim and, when it is not a new one, the rows and the
tokens that it had before.
-/
structure Results.Gathers (results : Results) (key claimToken : String) (old : Option IntentRow)
    (new : IntentRow) : Prop where
  live : new.isLive
  ownerKey : new.ownerKey = key
  mailboxIds : ∀ id, id ∈ new.mailboxIds ↔ (∃ intent ∈ old, id ∈ intent.mailboxIds)
    ∨ ∃ row ∈ results.mailbox.claimedRows .coordinatorKey key claimToken, row.mailboxId = id
  claimTokens : ∀ token, token ∈ new.claimTokens ↔ (∃ intent ∈ old, token ∈ intent.claimTokens)
    ∨ token = claimToken
  nonempty : results.mailbox.claimedRows .coordinatorKey key claimToken ≠ []
  before : ∀ intent ∈ old, intent ∈ results.intents.rows ∧ intent.isLive ∧ intent.ownerKey = key
    ∧ intent.intentId = new.intentId
  free : ∀ intent ∈ results.intents.rows, intent.isLive → intent.ownerKey = key →
    claimToken ∈ intent.claimTokens → old = some intent

theorem mem_claimedRows {mailbox : Mailbox} {scope : MailboxScope} {key claimToken : String}
    {row : MailboxRow}
    : row ∈ mailbox.claimedRows scope key claimToken ↔ row ∈ mailbox.rows ∧ scope.holds key row
        ∧ row.state = .claimed ∧ row.claimToken = some claimToken := by
  simp [Mailbox.claimedRows, MailboxRow.isClaimedBy]

section Gathers

variable {results : Results} {key claimToken : String} {old : Option IntentRow} {new : IntentRow}
  {capacity : Option Nat} (h : results.Sound capacity) (hnew : results.Gathers key claimToken old new)

include hnew

theorem Results.Gathers.heldBy_old {intent : IntentRow} (hold : intent ∈ old) {row : MailboxRow}
    (hheld : row.HeldBy intent)
    : row.HeldBy new where
  holds := by
    rw [hnew.ownerKey, ← (hnew.before intent hold).2.2.1]
    exact hheld.holds
  state := hheld.state
  token := by
    obtain ⟨token, htoken, hrowToken⟩ := hheld.token
    exact ⟨token, (hnew.claimTokens token).mpr (.inl ⟨intent, hold, htoken⟩), hrowToken⟩

include h

theorem Results.Gathers.held {id : Nat} (hid : id ∈ new.mailboxIds)
    : ∃ row ∈ results.mailbox.rows, row.mailboxId = id ∧ row.HeldBy new := by
  cases (hnew.mailboxIds id).mp hid with
  | inl hold =>
    obtain ⟨intent, hold, hid⟩ := hold
    have hintent := hnew.before intent hold
    obtain ⟨row, hrow, hrowId, hheld⟩ := h.held intent hintent.1 hintent.2.1 id hid
    exact ⟨row, hrow, hrowId, hnew.heldBy_old hold hheld⟩
  | inr hclaimed =>
    obtain ⟨row, hrow, hrowId⟩ := hclaimed
    rw [mem_claimedRows] at hrow
    refine ⟨row, hrow.1, hrowId, ?_, hrow.2.2.1, claimToken, ?_, hrow.2.2.2⟩
    . rw [hnew.ownerKey]
      exact hrow.2.1
    . exact (hnew.claimTokens claimToken).mpr (.inr rfl)

theorem Results.Gathers.bound {token : String} (htoken : token ∈ new.claimTokens)
    : ∃ row ∈ results.mailbox.rows, row.mailboxId ∈ new.mailboxIds
        ∧ row.claimToken = some token := by
  cases (hnew.claimTokens token).mp htoken with
  | inl hold =>
    obtain ⟨intent, hold, htoken⟩ := hold
    have hintent := hnew.before intent hold
    obtain ⟨row, hrow, hid, hrowToken⟩ := h.bound intent hintent.1 hintent.2.1 token htoken
    exact ⟨row, hrow, (hnew.mailboxIds _).mpr (.inl ⟨intent, hold, hid⟩), hrowToken⟩
  | inr heq =>
    obtain ⟨row, hrow⟩ := List.exists_mem_of_ne_nil _ hnew.nonempty
    refine ⟨row, (mem_claimedRows.mp hrow).1, (hnew.mailboxIds _).mpr (.inr ⟨row, hrow, rfl⟩), ?_⟩
    rw [heq]
    exact (mem_claimedRows.mp hrow).2.2.2

theorem Results.Gathers.owned {row : MailboxRow} (hrow : row ∈ results.mailbox.rows)
    (hheld : row.HeldBy new)
    : row.mailboxId ∈ new.mailboxIds := by
  rw [hnew.mailboxIds]
  have hholds := hheld.holds
  rw [hnew.ownerKey] at hholds
  obtain ⟨token, htoken, hrowToken⟩ := hheld.token
  cases (hnew.claimTokens token).mp htoken with
  | inl hold =>
    left
    obtain ⟨intent, hold, htoken⟩ := hold
    have hintent := hnew.before intent hold
    refine ⟨intent, hold, h.owned intent hintent.1 hintent.2.1 row hrow ?_⟩
    rw [← hintent.2.2.1] at hholds
    exact ⟨hholds, hheld.state, token, htoken, hrowToken⟩
  | inr heq =>
    right
    rw [heq] at hrowToken
    exact ⟨row, mem_claimedRows.mpr ⟨hrow, hholds, hheld.state, hrowToken⟩, rfl⟩

theorem Results.Gathers.disjoint {intent : IntentRow} (hintent : intent ∈ results.intents.rows)
    (hne : intent.intentId ≠ new.intentId) (hstate : intent.state ≠ .quarantined) {id : Nat}
    (hid : id ∈ intent.mailboxIds)
    : id ∉ new.mailboxIds := by
  intro hmem
  cases (hnew.mailboxIds id).mp hmem with
  | inl hold =>
    obtain ⟨other, hold, hother⟩ := hold
    have hotherOld := hnew.before other hold
    have hotherState := not_quarantined_of_live hotherOld.2.1
    rw [← hotherOld.2.2.2] at hne
    exact h.disjoint intent hintent other hotherOld.1 hne hstate hotherState id hid hother
  | inr hclaimed =>
    obtain ⟨row, hrow, hrowId⟩ := hclaimed
    rw [mem_claimedRows] at hrow
    by_cases hconsumed : intent.state = .consumed
    . -- a consumed row is not claimed
      obtain ⟨other, hother, hotherId, hack⟩ := h.acknowledged intent hintent hconsumed id hid
      have heq := Table.eq_of_key hother hrow.1 (hotherId.trans hrowId.symm)
      have := hrow.2.2.1
      rw [← heq, hack] at this
      cases this
    . -- a row of a live intent carries a token of its own
      have hlive := live_of_state hconsumed hstate
      obtain ⟨other, hother, hotherId, hheld⟩ := h.held intent hintent hlive id hid
      have heq := Table.eq_of_key hother hrow.1 (hotherId.trans hrowId.symm)
      rw [heq] at hheld
      have hkey : intent.ownerKey = key := key_of_holds hheld.holds hrow.2.1
      obtain ⟨token, htoken, hrowToken⟩ := hheld.token
      rw [hrow.2.2.2, Option.some.injEq] at hrowToken
      rw [← hrowToken] at htoken
      have hsome := hnew.free intent hintent hlive hkey htoken
      exact hne (hnew.before intent hsome).2.2.2

end Gathers

/-
The rule for the transactions that write the intents only: each intent keeps its rows, or is the one of a
claim, or is a quarantined one.
-/
structure Results.Regroups (capacity : Option Nat) (results : Results) (later : Intents)
    (new : Option IntentRow) : Prop where
  origin : ∀ intent' ∈ later.rows, intent' ∈ new
    ∨ ∃ intent ∈ results.intents.rows, intent'.intentId = intent.intentId ∧ intent.Keeps intent'
  wellFormed : ∀ intent' ∈ new, intent'.WellFormed
  fits : ∀ intent' ∈ new, intent'.isLive → ∀ limit ∈ capacity, intent'.mailboxIds.length ≤ limit
  gathers : ∀ intent' ∈ new, intent'.state = .quarantined
    ∨ ∃ key claimToken old, results.Gathers key claimToken old intent'

section Regroups

variable {capacity : Option Nat} {results : Results} {later : Intents} {new : Option IntentRow}
  {intent' : IntentRow} (hregroups : results.Regroups capacity later new)
  (hintent' : intent' ∈ later.rows)

include hregroups hintent'

theorem Results.Regroups.of_live (hlive : intent'.isLive)
    : (intent' ∈ new ∧ ∃ key claimToken old, results.Gathers key claimToken old intent')
      ∨ ∃ intent ∈ results.intents.rows, intent.isLive ∧ intent'.mailboxIds = intent.mailboxIds
          ∧ intent'.claimTokens = intent.claimTokens
          ∧ ∀ {row : MailboxRow}, row.HeldBy intent' ↔ row.HeldBy intent := by
  cases hregroups.origin intent' hintent' with
  | inl hnew =>
    cases hregroups.gathers intent' hnew with
    | inl hquarantined => simp [IntentRow.isLive, hquarantined] at hlive
    | inr hgathers => exact .inl ⟨hnew, hgathers⟩
  | inr horigin =>
    obtain ⟨intent, hintent, _, hkeeps⟩ := horigin
    rw [hkeeps.live] at hlive
    exact .inr ⟨intent, hintent, hlive, mailboxIds_of_content hkeeps.content,
      claimTokens_of_content hkeeps.content, heldBy_of_keeps hkeeps⟩

theorem Results.Regroups.of_not_quarantined (hstate : intent'.state ≠ .quarantined)
    : (intent' ∈ new ∧ ∃ key claimToken old, results.Gathers key claimToken old intent')
      ∨ ∃ intent ∈ results.intents.rows, intent'.intentId = intent.intentId
          ∧ intent'.mailboxIds = intent.mailboxIds ∧ intent.state ≠ .quarantined
          ∧ (intent'.state = .consumed → intent.state = .consumed) := by
  cases hregroups.origin intent' hintent' with
  | inl hnew => exact .inl ⟨hnew, (hregroups.gathers intent' hnew).resolve_left hstate⟩
  | inr horigin =>
    obtain ⟨intent, hintent, hintentId, hkeeps⟩ := horigin
    refine .inr ⟨intent, hintent, hintentId, mailboxIds_of_content hkeeps.content, ?_,
      consumed_of_keeps hkeeps⟩
    intro hquarantined
    exact hstate (quarantined_of_keeps hkeeps hquarantined)

theorem Results.Regroups.disjoint (h : results.Sound capacity) {other' : IntentRow}
    (hother' : other' ∈ later.rows) (hne : intent'.intentId ≠ other'.intentId)
    (hstate : intent'.state ≠ .quarantined) (hotherState : other'.state ≠ .quarantined) {id : Nat}
    (hid : id ∈ intent'.mailboxIds)
    : id ∉ other'.mailboxIds := by
  -- one of the two may be the new intent, not both
  obtain ⟨hnew, _, _, _, hgathers⟩ | ⟨intent, hintent, hintentId, hids, hkept, _⟩ :=
    hregroups.of_not_quarantined hintent' hstate
  . obtain ⟨hnew', _⟩ | ⟨other, hother, hotherId, hids, hkept, _⟩ :=
      hregroups.of_not_quarantined hother' hotherState
    . rw [Option.mem_unique hnew hnew'] at hne
      exact absurd rfl hne
    . rw [hotherId] at hne
      rw [hids]
      intro hmem
      exact hgathers.disjoint h hother hne.symm hkept hmem hid
  . rw [hintentId] at hne
    rw [hids] at hid
    obtain ⟨_, _, _, _, hgathers⟩ | ⟨other, hother, hotherId, hids', hkept', _⟩ :=
      hregroups.of_not_quarantined hother' hotherState
    . exact hgathers.disjoint h hintent hne hkept hid
    . rw [hotherId] at hne
      rw [hids']
      exact h.disjoint intent hintent other hother hne hkept hkept' id hid

end Regroups

theorem Results.Sound.regroup {capacity : Option Nat} {results : Results}
    (h : results.Sound capacity) {later : Intents} {new : Option IntentRow}
    (hregroups : results.Regroups capacity later new)
    : Results.Sound capacity { results with intents := later } where
  rows := h.rows
  intents := by
    intro intent' hintent'
    cases hregroups.origin intent' hintent' with
    | inl hnew => exact hregroups.wellFormed intent' hnew
    | inr horigin =>
      obtain ⟨intent, hintent, _, hkeeps⟩ := horigin
      exact wellFormed_of_content hkeeps.content (h.intents intent hintent)
  fits := by
    intro intent' hintent' hlive
    obtain ⟨hnew, _⟩ | ⟨intent, hintent, hkept, hids, _⟩ := hregroups.of_live hintent' hlive
    . exact hregroups.fits intent' hnew hlive
    . rw [hids]
      exact h.fits intent hintent hkept
  held := by
    intro intent' hintent' hlive id hid
    obtain ⟨_, _, _, _, hgathers⟩ | ⟨intent, hintent, hkept, hids, _, hheldBy⟩ :=
      hregroups.of_live hintent' hlive
    . exact hgathers.held h hid
    . rw [hids] at hid
      obtain ⟨row, hrow, hrowId, hheld⟩ := h.held intent hintent hkept id hid
      exact ⟨row, hrow, hrowId, hheldBy.mpr hheld⟩
  bound := by
    intro intent' hintent' hlive claimToken htoken
    obtain ⟨_, _, _, _, hgathers⟩ | ⟨intent, hintent, hkept, hids, htokens, _⟩ :=
      hregroups.of_live hintent' hlive
    . exact hgathers.bound h htoken
    . rw [htokens] at htoken
      rw [hids]
      exact h.bound intent hintent hkept claimToken htoken
  owned := by
    intro intent' hintent' hlive row hrow hheld
    obtain ⟨_, _, _, _, hgathers⟩ | ⟨intent, hintent, hkept, hids, _, hheldBy⟩ :=
      hregroups.of_live hintent' hlive
    . exact hgathers.owned h hrow hheld
    . rw [hids]
      exact h.owned intent hintent hkept row hrow (hheldBy.mp hheld)
  acknowledged := by
    intro intent' hintent' hconsumed id hid
    obtain ⟨_, _, _, _, hgathers⟩ | ⟨intent, hintent, _, hids, _, hkept⟩ :=
      hregroups.of_not_quarantined hintent' (by rw [hconsumed]; decide)
    . have hlive := hgathers.live
      simp [IntentRow.isLive, hconsumed] at hlive
    . rw [hids] at hid
      exact h.acknowledged intent hintent (hkept hconsumed) id hid
  disjoint := by
    intro intent' hintent' other' hother' hne hstate hotherState id hid
    exact hregroups.disjoint hintent' h hother' hne hstate hotherState hid

/-
The rule for the consumption of an intent: its rows are acknowledged, and no others.
-/
structure Settles (intent : IntentRow) (row row' : MailboxRow) : Prop where
  event : row'.event = row.event
  held : row.HeldBy intent → row'.state = .acknowledged
  other : ¬ row.HeldBy intent → row' = row

structure Results.Consumes (results later : Results) (intent : IntentRow) : Prop where
  mem : intent ∈ results.intents.rows
  live : intent.isLive
  rows : Table.Evolves (Settles intent) (fun _ => False) results.mailbox later.mailbox
  intents : ∀ other' ∈ later.intents.rows, ∃ other ∈ results.intents.rows,
    other'.content = other.content ∧ ((other = intent ∧ other'.state = .consumed)
      ∨ (other ≠ intent ∧ other' = other))

theorem Results.Sound.not_heldBy {capacity : Option Nat} {results : Results}
    (h : results.Sound capacity) {intent other : IntentRow}
    (hintent : intent ∈ results.intents.rows) (hlive : intent.isLive)
    (hother : other ∈ results.intents.rows) (hotherLive : other.isLive) (hne : other ≠ intent)
    {row : MailboxRow} (hrow : row ∈ results.mailbox.rows) (hid : row.mailboxId ∈ other.mailboxIds)
    : ¬ row.HeldBy intent := by
  intro hheld
  have hmem := h.owned intent hintent hlive row hrow hheld
  refine h.disjoint other hother intent hintent ?_ (not_quarantined_of_live hotherLive)
    (not_quarantined_of_live hlive) _ hid hmem
  intro heq
  exact hne (Table.eq_of_key hother hintent heq)

theorem Results.Consumes.of_live {results later : Results} {intent other : IntentRow}
    (hconsumes : results.Consumes later intent) (hother : other ∈ later.intents.rows)
    (hlive : other.isLive)
    : other ∈ results.intents.rows ∧ other ≠ intent := by
  obtain ⟨stored, hstored, _, hcases⟩ := hconsumes.intents other hother
  cases hcases with
  | inl hself => simp [IntentRow.isLive, hself.2] at hlive
  | inr hkept =>
    rw [hkept.2]
    exact ⟨hstored, hkept.1⟩

section Consumes

variable {capacity : Option Nat} {results later : Results} (h : results.Sound capacity)
  {intent : IntentRow} (hconsumes : results.Consumes later intent)

include h hconsumes

-- the rows of the other live intents stay as they are
theorem Results.Sound.row_kept {other : IntentRow} (hother : other ∈ results.intents.rows)
    (hlive : other.isLive) (hne : other ≠ intent) {row : MailboxRow}
    (hrow : row ∈ results.mailbox.rows) (hid : row.mailboxId ∈ other.mailboxIds)
    : row ∈ later.mailbox.rows := by
  obtain ⟨row', hrow', _, hsettles⟩ := hconsumes.rows.kept row hrow
  rw [hsettles.other (h.not_heldBy hconsumes.mem hconsumes.live hother hlive hne hrow hid)] at hrow'
  exact hrow'

theorem Results.Sound.consume_acknowledges {other' : IntentRow} (hother' : other' ∈ later.intents.rows)
    (hconsumed : other'.state = .consumed) {id : Nat} (hid : id ∈ other'.mailboxIds)
    : ∃ row ∈ later.mailbox.rows, row.mailboxId = id ∧ row.state = .acknowledged := by
  obtain ⟨other, hother, hcontent, hcases⟩ := hconsumes.intents other' hother'
  rw [mailboxIds_of_content hcontent] at hid
  cases hcases with
  | inl hself =>
    rw [hself.1] at hid
    obtain ⟨row, hrow, hrowId, hheld⟩ := h.held intent hconsumes.mem hconsumes.live id hid
    obtain ⟨row', hrow', _, hsettles⟩ := hconsumes.rows.kept row hrow
    refine ⟨row', hrow', ?_, hsettles.held hheld⟩
    rw [mailboxId_of_event hsettles.event, hrowId]
  | inr hkept =>
    rw [hkept.2] at hconsumed
    obtain ⟨row, hrow, hrowId, hack⟩ := h.acknowledged other hother hconsumed id hid
    obtain ⟨row', hrow', _, hsettles⟩ := hconsumes.rows.kept row hrow
    have hnot : ¬ row.HeldBy intent := by
      intro hheld
      have := hack.symm.trans hheld.state
      cases this
    rw [hsettles.other hnot] at hrow'
    exact ⟨row, hrow', hrowId, hack⟩

omit h in
theorem Results.Consumes.of_not_quarantined {other' : IntentRow}
    (hother' : other' ∈ later.intents.rows) (hstate : other'.state ≠ .quarantined)
    : ∃ other ∈ results.intents.rows, other'.intentId = other.intentId
        ∧ other'.mailboxIds = other.mailboxIds ∧ other.state ≠ .quarantined := by
  obtain ⟨other, hother, hcontent, hcases⟩ := hconsumes.intents other' hother'
  refine ⟨other, hother, intentId_of_content hcontent, mailboxIds_of_content hcontent, ?_⟩
  cases hcases with
  | inl hself =>
    rw [hself.1]
    exact not_quarantined_of_live hconsumes.live
  | inr hkept =>
    rw [← hkept.2]
    exact hstate

theorem Results.Sound.consume : later.Sound capacity where
  rows := by
    intro row' hrow'
    cases hconsumes.rows.origin row' hrow' with
    | inr hnew => exact hnew.elim
    | inl horigin =>
      obtain ⟨row, hrow, _, hsettles⟩ := horigin
      exact wellFormed_of_event hsettles.event (h.rows row hrow)
  intents := by
    intro other' hother'
    obtain ⟨other, hother, hcontent, _⟩ := hconsumes.intents other' hother'
    exact wellFormed_of_content hcontent (h.intents other hother)
  fits := by
    intro other hother hlive
    exact h.fits other (hconsumes.of_live hother hlive).1 hlive
  held := by
    intro other hother hlive id hid
    obtain ⟨hstored, hne⟩ := hconsumes.of_live hother hlive
    obtain ⟨row, hrow, hrowId, hheld⟩ := h.held other hstored hlive id hid
    rw [← hrowId] at hid
    exact ⟨row, h.row_kept hconsumes hstored hlive hne hrow hid, hrowId, hheld⟩
  bound := by
    intro other hother hlive claimToken htoken
    obtain ⟨hstored, hne⟩ := hconsumes.of_live hother hlive
    obtain ⟨row, hrow, hid, hrowToken⟩ := h.bound other hstored hlive claimToken htoken
    exact ⟨row, h.row_kept hconsumes hstored hlive hne hrow hid, hid, hrowToken⟩
  owned := by
    intro other hother hlive row' hrow' hheld
    have hstored := (hconsumes.of_live hother hlive).1
    cases hconsumes.rows.origin row' hrow' with
    | inr hnew => exact hnew.elim
    | inl horigin =>
      obtain ⟨row, hrow, _, hsettles⟩ := horigin
      by_cases hintent : row.HeldBy intent
      . have := (hsettles.held hintent).symm.trans hheld.state
        cases this
      . rw [hsettles.other hintent] at hheld ⊢
        exact h.owned other hstored hlive row hrow hheld
  acknowledged := by
    intro other' hother' hconsumed id hid
    exact h.consume_acknowledges hconsumes hother' hconsumed hid
  disjoint := by
    intro first' hfirst' second' hsecond' hne hfirstState hsecondState id hid
    obtain ⟨first, hfirst, hfirstId, hids, hstate⟩ :=
      hconsumes.of_not_quarantined hfirst' hfirstState
    obtain ⟨second, hsecond, hsecondId, hids', hstate'⟩ :=
      hconsumes.of_not_quarantined hsecond' hsecondState
    rw [hfirstId, hsecondId] at hne
    rw [hids] at hid
    rw [hids']
    exact h.disjoint first hfirst second hsecond hne hstate hstate' id hid

end Consumes

end Coordinator
