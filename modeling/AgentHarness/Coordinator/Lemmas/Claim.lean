import AgentHarness.Coordinator.Delivery

/-!
What an insertion of a terminal result does to the mailbox.
-/

namespace Coordinator

theorem le_foldr_max {ids : List Nat} {id : Nat} (h : id ∈ ids) : id ≤ ids.foldr max 0 := by
  induction ids with
  | nil => cases h
  | cons first rest ih =>
    rw [List.foldr_cons]
    rw [List.mem_cons] at h
    cases h with
    | inl heq =>
      rw [heq]
      exact le_max_left _ _
    | inr hrest => exact le_trans (ih hrest) (le_max_right _ _)

theorem Mailbox.lt_nextId {mailbox : Mailbox} {row : MailboxRow} (h : row ∈ mailbox.rows)
    : row.mailboxId < mailbox.nextId := by
  unfold Mailbox.nextId
  have := le_foldr_max (List.mem_map_of_mem (f := MailboxRow.mailboxId) h)
  omega

theorem mailboxTable_clash_comm (row other : MailboxRow)
    : mailboxTable.clash row other = mailboxTable.clash other row := by
  simp only [mailboxTable, eq_comm]

theorem Mailbox.eq_of_terminalEventKey {mailbox : Mailbox} {row other : MailboxRow}
    (hrow : row ∈ mailbox.rows) (hother : other ∈ mailbox.rows)
    (h : row.terminalEventKey = other.terminalEventKey)
    : row = other := by
  by_contra hne
  have hclash := Table.not_clash mailboxTable_clash_comm hrow hother hne
  simp [mailboxTable, h] at hclash

section Insert

variable {input : WorkerResultMailboxInsertV1} {ownerKey : Option String} {mailbox : Mailbox}

theorem insert_row_check (h : input.owner.ownerKey = .ok ownerKey) (mailboxId : Nat)
    : mailboxTable.check (input.row mailboxId ownerKey) := by
  have howner : (input.row mailboxId ownerKey).ownerCheck := by
    cases hkind : input.owner with
    | exact owner =>
      rw [hkind] at h
      unfold WorkerResultOwnerV1.ownerKey at h
      dsimp only at h
      cases hkey : owner.ownerKey with
      | error e =>
        rw [hkey] at h
        cases h
      | ok key =>
        rw [hkey] at h
        cases h
        simp [MailboxRow.ownerCheck, WorkerResultMailboxInsertV1.row, hkind,
          WorkerResultOwnerV1.isAutoResumable, WorkerResultOwnerV1.ownerKind]
    | legacyIncomplete owner =>
      rw [hkind] at h
      cases h
      simp [MailboxRow.ownerCheck, WorkerResultMailboxInsertV1.row, hkind,
        WorkerResultOwnerV1.isAutoResumable, WorkerResultOwnerV1.ownerKind]
  have hclaim : (input.row mailboxId ownerKey).claimCheck := by
    simp [MailboxRow.claimCheck, WorkerResultMailboxInsertV1.row]
  have hschema : (input.row mailboxId ownerKey).schema = workerResultMailboxSchema := rfl
  simp [mailboxTable, howner, hclaim, hschema]

theorem insert_of_absent (h : input.owner.ownerKey = .ok ownerKey)
    (habsent : ∀ row ∈ mailbox.rows, row.terminalEventKey ≠ input.terminalEventKey)
    : ∃ later, mailbox.insert (input.row mailbox.nextId ownerKey) = some later := by
  apply Table.insert_isSome
  . intro row hrow hid
    have hlt := Mailbox.lt_nextId hrow
    have hid : row.mailboxId = mailbox.nextId := hid
    omega
  . exact insert_row_check h mailbox.nextId
  . intro row hrow
    simpa [mailboxTable, WorkerResultMailboxInsertV1.row] using habsent row hrow

theorem insert_of_present {row : MailboxRow} (hrow : row ∈ mailbox.rows)
    (hkey : row.terminalEventKey = input.terminalEventKey) (mailboxId : Nat)
    : mailbox.insert (input.row mailboxId ownerKey) = none := by
  cases hinsert : mailbox.insert (input.row mailboxId ownerKey) with
  | none => rfl
  | some later =>
    have hunique := later.admits.unique
    rw [Table.rows_insert hinsert, List.pairwise_append] at hunique
    have hclash := hunique.2.2 row hrow _ (List.mem_singleton_self _)
    simp [mailboxTable, WorkerResultMailboxInsertV1.row, hkey] at hclash

theorem findByTerminalEventKey_of_mem {row : MailboxRow} (hrow : row ∈ mailbox.rows)
    : mailbox.findByTerminalEventKey row.terminalEventKey = .ok row := by
  unfold Mailbox.findByTerminalEventKey
  rw [Except.ofOption_eq_ok]
  cases hfind : mailbox.rows.find? fun other => other.terminalEventKey = row.terminalEventKey with
  | none =>
    exfalso
    simpa using List.find?_eq_none.mp hfind row hrow
  | some found =>
    have hkey : found.terminalEventKey = row.terminalEventKey := by
      simpa using List.find?_some hfind
    rw [Mailbox.eq_of_terminalEventKey (List.mem_of_find?_eq_some hfind) hrow hkey]

theorem insertTerminalResult_ok {later : Mailbox} {outcome : WorkerResultMailboxInsertOutcomeV1}
    (h : insertTerminalResult input mailbox = .ok outcome later)
    : input.validate = .ok () ∧ ∃ ownerKey, input.owner.ownerKey = .ok ownerKey
        ∧ (((∀ row ∈ mailbox.rows, row.terminalEventKey ≠ input.terminalEventKey)
              ∧ later.rows = mailbox.rows ++ [input.row mailbox.nextId ownerKey])
            ∨ ((∃ row ∈ mailbox.rows, row.terminalEventKey = input.terminalEventKey
                ∧ row.eventDigest = terminalEventDigest input)
              ∧ later = mailbox)) := by
  unfold insertTerminalResult at h
  simp only [Transaction.bind_eq_ok, Transaction.check_eq_ok, Transaction.query_eq_ok,
    Transaction.write_eq_ok, Transaction.pure_eq_ok, Except.require_eq_ok, decide_eq_true_eq] at h
  obtain ⟨_, _, ⟨hvalid, rfl⟩, ownerKey, _, ⟨hownerKey, rfl⟩, _, _, ⟨_, rfl⟩, _, _, hwrite, existing,
    _, ⟨hfind, rfl⟩, _, _, ⟨hdigest, rfl⟩, _, rfl⟩ := h
  refine ⟨hvalid, ownerKey, hownerKey, ?_⟩
  injection hwrite with hwrite
  by_cases hpresent : ∃ row ∈ mailbox.rows, row.terminalEventKey = input.terminalEventKey
  . right
    obtain ⟨row, hrow, hkey⟩ := hpresent
    have hsame : mailbox.insertOrIgnore (input.row mailbox.nextId ownerKey) = mailbox := by
      rw [Mailbox.insertOrIgnore, insert_of_present hrow hkey]
      rfl
    rw [hsame] at hwrite
    rw [← hwrite, ← hkey, findByTerminalEventKey_of_mem hrow] at hfind
    injection hfind with hfind
    rw [← hfind] at hdigest
    exact ⟨⟨row, hrow, hkey, hdigest⟩, hwrite.symm⟩
  . left
    have habsent : ∀ row ∈ mailbox.rows, row.terminalEventKey ≠ input.terminalEventKey := by
      intro row hrow hkey
      exact hpresent ⟨row, hrow, hkey⟩
    refine ⟨habsent, ?_⟩
    obtain ⟨inserted, hinserted⟩ := insert_of_absent hownerKey habsent
    rw [← hwrite, Mailbox.insertOrIgnore, hinserted]
    exact Table.rows_insert hinserted

theorem insertTerminalResult_of_found {later : Mailbox} {existing : MailboxRow}
    (hvalid : input.validate = .ok ()) (hownerKey : input.owner.ownerKey = .ok ownerKey)
    (hlater : mailbox.insertOrIgnore (input.row mailbox.nextId ownerKey) = later)
    (hexisting : existing ∈ later.rows) (hkey : existing.terminalEventKey = input.terminalEventKey)
    (hdigest : existing.eventDigest = terminalEventDigest input)
    : ∃ outcome, insertTerminalResult input mailbox = .ok outcome later := by
  have hfind : later.findByTerminalEventKey input.terminalEventKey = .ok existing := by
    rw [← hkey]
    exact findByTerminalEventKey_of_mem hexisting
  refine ⟨{
    mailboxId := existing.mailboxId
    inserted := (mailbox.insert (input.row mailbox.nextId ownerKey)).isSome
    autoResumable := existing.autoResumable }, ?_⟩
  unfold insertTerminalResult
  simp only [Transaction.bind_eq_ok, Transaction.check_eq_ok, Transaction.query_eq_ok,
    Transaction.write_eq_ok, Transaction.pure_eq_ok, Except.require_eq_ok, decide_eq_true_eq]
  exact ⟨.unit, mailbox, ⟨hvalid, rfl⟩, ownerKey, mailbox, ⟨hownerKey, rfl⟩, _, mailbox, ⟨rfl, rfl⟩,
    .unit, later, congrArg some hlater, existing, later, ⟨hfind, rfl⟩, .unit, later, ⟨hdigest, rfl⟩,
    rfl, rfl⟩

theorem insertTerminalResult_isOk (hvalid : input.validate = .ok ())
    (hownerKey : input.owner.ownerKey = .ok ownerKey)
    (h : ∀ row ∈ mailbox.rows, row.terminalEventKey = input.terminalEventKey →
      row.eventDigest = terminalEventDigest input)
    : ∃ outcome later, insertTerminalResult input mailbox = .ok outcome later := by
  by_cases hpresent : ∃ row ∈ mailbox.rows, row.terminalEventKey = input.terminalEventKey
  . obtain ⟨row, hrow, hkey⟩ := hpresent
    have hsame : mailbox.insertOrIgnore (input.row mailbox.nextId ownerKey) = mailbox := by
      rw [Mailbox.insertOrIgnore, insert_of_present hrow hkey]
      rfl
    obtain ⟨outcome, houtcome⟩ :=
      insertTerminalResult_of_found hvalid hownerKey hsame hrow hkey (h row hrow hkey)
    exact ⟨outcome, mailbox, houtcome⟩
  . have habsent : ∀ row ∈ mailbox.rows, row.terminalEventKey ≠ input.terminalEventKey := by
      intro row hrow hkey
      exact hpresent ⟨row, hrow, hkey⟩
    obtain ⟨later, hinsert⟩ := insert_of_absent hownerKey habsent
    have hlater : mailbox.insertOrIgnore (input.row mailbox.nextId ownerKey) = later := by
      rw [Mailbox.insertOrIgnore, hinsert]
      rfl
    have hmem : input.row mailbox.nextId ownerKey ∈ later.rows := by
      simp [Table.rows_insert hinsert]
    obtain ⟨outcome, houtcome⟩ :=
      insertTerminalResult_of_found hvalid hownerKey hlater hmem rfl rfl
    exact ⟨outcome, later, houtcome⟩

end Insert

end Coordinator

/-!
What the claims, releases and acknowledgements do to the rows of the mailbox.
-/

namespace Coordinator

/-
The columns that are written once, when the row is inserted. Only the coordinator key of an old row may
be filled in later.
-/
def MailboxRow.event (row : MailboxRow) : MailboxRow :=
  { row with
    state := .unread
    claimToken := none
    claimOwner := none
    claimExpiresAtMs := none
    updatedAtMs := 0
    acknowledgedAtMs := none }

section Event

variable {row row' : MailboxRow} (h : row'.event = row.event)

include h

theorem mailboxId_of_event : row'.mailboxId = row.mailboxId := by
  have := congrArg MailboxRow.mailboxId h
  exact this

theorem coordinatorKey_of_event : row'.coordinatorKey = row.coordinatorKey := by
  have := congrArg MailboxRow.coordinatorKey h
  exact this

theorem ownerJson_of_event : row'.ownerJson = row.ownerJson := by
  have := congrArg MailboxRow.ownerJson h
  exact this

theorem holds_of_event (scope : MailboxScope) (key : String)
    : scope.holds key row' = scope.holds key row := by
  have hholds : scope.holds key row'.event = scope.holds key row.event := by rw [h]
  cases scope with
  | ownerKey => exact hholds
  | coordinatorKey => exact hholds

end Event

theorem holds_iff {scope : MailboxScope} {key : String} {row : MailboxRow}
    : scope.holds key row ↔ scope.column row = some key ∧ row.autoResumable := by
  rw [MailboxScope.holds, Bool.and_eq_true, decide_eq_true_eq]

theorem key_of_holds {scope : MailboxScope} {key other : String} {row : MailboxRow}
    (h : scope.holds key row) (hother : scope.holds other row)
    : key = other := by
  rw [holds_iff] at h hother
  rw [h.1, Option.some.injEq] at hother
  exact hother.1

theorem claimed_of_isClaimedBy {claimToken : String} {row : MailboxRow}
    (h : row.isClaimedBy claimToken)
    : row.state = .claimed ∧ row.claimToken = some claimToken := by
  simpa [MailboxRow.isClaimedBy] using h

section Scope

variable {scope : MailboxScope} {key claimToken : String} {nowMs : Int} {mailbox later : Mailbox}

theorem acknowledgeClaimForScope_ok {outcome : WorkerResultMailboxTransitionV1}
    (h : acknowledgeClaimForScope scope key claimToken nowMs mailbox = .ok outcome later)
    : mailbox.update (fun row => scope.holds key row && row.isClaimedBy claimToken)
        (MailboxRow.acknowledge nowMs) = some later := by
  unfold acknowledgeClaimForScope at h
  simp only [Transaction.bind_eq_ok, Transaction.query_eq_ok, Transaction.write_eq_ok,
    Transaction.pure_eq_ok] at h
  obtain ⟨_, _, ⟨_, rfl⟩, _, _, ⟨_, rfl⟩, _, _, hwrite, _, rfl⟩ := h
  exact hwrite

theorem releaseClaimForScope_ok {outcome : WorkerResultMailboxTransitionV1}
    (h : releaseClaimForScope scope key claimToken nowMs mailbox = .ok outcome later)
    : mailbox.update (fun row => scope.holds key row && row.isClaimedBy claimToken)
        (MailboxRow.release nowMs) = some later := by
  unfold releaseClaimForScope at h
  simp only [Transaction.bind_eq_ok, Transaction.query_eq_ok, Transaction.write_eq_ok,
    Transaction.pure_eq_ok] at h
  obtain ⟨_, _, ⟨_, rfl⟩, _, _, ⟨_, rfl⟩, _, _, hwrite, _, rfl⟩ := h
  exact hwrite

def Mailbox.claims (scope : MailboxScope) (key : String) (mailboxIds : List Nat) (row : MailboxRow)
    : Bool :=
  mailboxIds.contains row.mailboxId && scope.holds key row && row.state = .unread

theorem claimRows_ok {options : WorkerResultMailboxClaimOptionsV1} {mailboxIds : List Nat}
    {u : Unit} (h : claimRows scope key options mailboxIds mailbox = .ok u later)
    : mailbox.update (Mailbox.claims scope key mailboxIds) (MailboxRow.claim options)
        = some later := by
  induction mailboxIds generalizing mailbox with
  | nil =>
    rw [claimRows, Transaction.pure_eq_ok] at h
    rw [← h.2]
    apply Table.update_of_none
    intro row _
    simp [Mailbox.claims]
  | cons mailboxId mailboxIds ih =>
    rw [claimRows, Transaction.bind_eq_ok] at h
    obtain ⟨_, middle, hwrite, hrest⟩ := h
    rw [Transaction.write_eq_ok] at hwrite
    apply Table.update_trans hwrite (ih hrest)
    -- a row that was claimed first is not unread any more
    intro row _
    by_cases hunread : row.state = .unread
    . by_cases hholds : scope.holds key row
      . by_cases hid : row.mailboxId = mailboxId
        . simp [Table.rewrite, Mailbox.claims, hunread, hholds, hid, MailboxRow.claim]
        . simp [Table.rewrite, Mailbox.claims, hunread, hholds, hid]
      . simp [Table.rewrite, Mailbox.claims, hholds]
    . simp [Table.rewrite, Mailbox.claims, hunread]

def Mailbox.isBound (mailbox : Mailbox) (claimToken : String) : Bool :=
  mailbox.rows.any fun row => row.claimToken = some claimToken

theorem boundRow_isSome : (mailbox.boundRow claimToken).isSome = mailbox.isBound claimToken := by
  unfold Mailbox.boundRow Mailbox.isBound
  rw [Bool.eq_iff_iff, List.isSome_head?, ← List.length_pos_iff, List.length_insertionSort,
    List.length_pos_iff]
  simp [List.filter_eq_nil_iff]

def Mailbox.claimedRows (mailbox : Mailbox) (scope : MailboxScope) (key claimToken : String)
    : List MailboxRow :=
  mailbox.rows.filter fun row => scope.holds key row && row.isClaimedBy claimToken

/-
All that a claim can do. It releases the expired claims of the scope; then a token that is bound to a row
answers with its rows, and a free one takes the first unread rows.
-/
structure ClaimEffect (scope : MailboxScope) (key : String)
    (options : WorkerResultMailboxClaimOptionsV1) (mailbox released later : Mailbox)
    (batch : WorkerResultMailboxClaimBatchV1) : Prop where
  release : mailbox.update (fun row => scope.holds key row && row.isExpired options.nowMs)
    (MailboxRow.release options.nowMs) = some released
  bound : released.isBound options.claimToken → later = released
  free : released.isBound options.claimToken = false →
    released.update (Mailbox.claims scope key (released.unreadIdsForScope scope key options.limit))
      (MailboxRow.claim options) = some later
  records : batch.records = [] ∨
    decodeRows ((later.claimedRows scope key options.claimToken).insertionSort MailboxRow.le)
      = .ok batch.records

theorem claimUnreadForScope_ok {options : WorkerResultMailboxClaimOptionsV1}
    {batch : WorkerResultMailboxClaimBatchV1}
    (h : claimUnreadForScope scope key options mailbox = .ok batch later)
    : ∃ released, ClaimEffect scope key options mailbox released later batch := by
  unfold claimUnreadForScope at h
  rw [Transaction.bind_eq_ok] at h
  obtain ⟨_, released, hrelease, h⟩ := h
  rw [Transaction.write_eq_ok] at hrelease
  rw [Transaction.bind_eq_ok] at h
  obtain ⟨found, _, hfound, h⟩ := h
  rw [Transaction.query_eq_ok, Except.ok.injEq] at hfound
  obtain ⟨rfl, rfl⟩ := hfound
  refine ⟨released, ?_⟩
  have hbound : (released.boundRow options.claimToken).isSome = _ := boundRow_isSome
  cases hfound : released.boundRow options.claimToken with
  | some bound =>
    rw [hfound] at h hbound
    simp only [Transaction.bind_eq_ok, Transaction.check_eq_ok, Transaction.query_eq_ok,
      Transaction.pure_eq_ok] at h
    obtain ⟨_, _, ⟨_, rfl⟩, records, _, ⟨hrecords, rfl⟩, rfl, rfl⟩ := h
    constructor
    . exact hrelease
    . intro _
      rfl
    . intro hfree
      rw [hfree] at hbound
      cases hbound
    . split at hrecords
      . exact .inr hrecords
      . injection hrecords with hrecords
        exact .inl hrecords.symm
  | none =>
    rw [hfound] at h hbound
    simp only [Transaction.bind_eq_ok, Transaction.query_eq_ok, Transaction.pure_eq_ok] at h
    obtain ⟨ids, _, ⟨hids, rfl⟩, _, _, hclaim, records, _, ⟨hrecords, rfl⟩, rfl, rfl⟩ := h
    injection hids with hids
    constructor
    . exact hrelease
    . intro hbound'
      rw [hbound'] at hbound
      cases hbound
    . intro _
      rw [hids]
      exact claimRows_ok hclaim
    . exact .inr hrecords

end Scope

section Backfill

variable {mailbox later : Mailbox} {u : Unit}

def MailboxRow.backfilled (row : MailboxRow) : MailboxRow :=
  if row.lacksCoordinatorKey then
    { row with coordinatorKey := row.ownerJson.decode.bind WorkerResultOwnerV1.coordinatorKey }
  else
    row

theorem backfilled_mailboxId (row : MailboxRow) : row.backfilled.mailboxId = row.mailboxId := by
  unfold MailboxRow.backfilled
  split
  . rfl
  . rfl

theorem backfillRows_ok {todo : List MailboxRow}
    (htodo : ∀ row ∈ todo, row ∈ mailbox.rows ∧ row.lacksCoordinatorKey)
    (hnodup : (todo.map MailboxRow.mailboxId).Nodup)
    (h : backfillRows todo mailbox = .ok u later)
    : later.rows = mailbox.rows.map fun row => if row ∈ todo then row.backfilled else row := by
  induction todo generalizing mailbox with
  | nil =>
    rw [backfillRows, Transaction.pure_eq_ok] at h
    simp [h.2]
  | cons first todo ih =>
    rw [List.map_cons, List.nodup_cons] at hnodup
    have hfirst := htodo first List.mem_cons_self
    have hrest : ∀ row ∈ todo, row ∈ mailbox.rows ∧ row.lacksCoordinatorKey := by
      intro row hrow
      exact htodo row (List.mem_cons_of_mem first hrow)
    have hlacks : first.ownerKind = .exact ∧ first.coordinatorKey = none := by
      simpa [MailboxRow.lacksCoordinatorKey] using hfirst.2
    have hother : ∀ row ∈ todo, row.mailboxId ≠ first.mailboxId := by
      intro row hrow heq
      exact hnodup.1 (List.mem_map.mpr ⟨row, hrow, heq⟩)
    rw [backfillRows, Transaction.bind_eq_ok] at h
    obtain ⟨owner, middle, howner, h⟩ := h
    rw [Transaction.check_eq_ok, Except.ofOption_eq_ok] at howner
    obtain ⟨howner, rfl⟩ := howner
    have hbackfilled : first.backfilled = { first with coordinatorKey := owner.coordinatorKey } := by
      simp [MailboxRow.backfilled, hfirst.2, howner]
    cases hkey : owner.coordinatorKey with
    | none =>
      rw [hkey] at h
      have hsame : first.backfilled = first := by
        rw [hbackfilled, hkey, ← hlacks.2]
      rw [ih hrest hnodup.2 h]
      apply List.map_congr_left
      intro row _
      by_cases heq : row = first
      . simp [heq, hsame]
      . simp [heq]
    | some key =>
      rw [hkey] at h
      rw [Transaction.bind_eq_ok] at h
      obtain ⟨_, middle, hwrite, h⟩ := h
      rw [Transaction.write_eq_ok, Table.update_eq_some] at hwrite
      -- the UPDATE hits the row that was read and no other
      have hwrite : middle.rows = mailbox.rows.map fun row =>
          if row = first then first.backfilled else row := by
        rw [hwrite]
        apply List.map_congr_left
        intro row hrow
        by_cases heq : row = first
        . rw [heq]
          simp [Table.rewrite, hlacks.2, hbackfilled, hkey]
        . have hid : row.mailboxId ≠ first.mailboxId := by
            intro hid
            exact heq (Table.eq_of_key hrow hfirst.1 hid)
          simp [Table.rewrite, heq, hid]
      have hmiddle : ∀ row ∈ todo, row ∈ middle.rows ∧ row.lacksCoordinatorKey := by
        intro row hrow
        refine ⟨?_, (hrest row hrow).2⟩
        rw [hwrite, List.mem_map]
        refine ⟨row, (hrest row hrow).1, ?_⟩
        have hne : row ≠ first := fun heq => hother row hrow (by rw [heq])
        simp [hne]
      rw [ih hmiddle hnodup.2 h, hwrite, List.map_map]
      apply List.map_congr_left
      intro row _
      by_cases heq : row = first
      . have hnot : first.backfilled ∉ todo := by
          intro hmem
          exact hother _ hmem (backfilled_mailboxId first)
        simp [heq, hnot]
      . simp [heq]

theorem backfillCoordinatorKeys_ok (h : backfillCoordinatorKeys mailbox = .ok u later)
    : later.rows = mailbox.rows.map MailboxRow.backfilled := by
  unfold backfillCoordinatorKeys at h
  rw [Transaction.bind_eq_ok] at h
  obtain ⟨todo, middle, htodo, h⟩ := h
  rw [Transaction.query_eq_ok, Except.ok.injEq] at htodo
  obtain ⟨rfl, rfl⟩ := htodo
  rw [backfillRows_ok _ _ h]
  . apply List.map_congr_left
    intro row hrow
    by_cases hlacks : row.lacksCoordinatorKey
    . simp [hrow, hlacks]
    . simp [hlacks, MailboxRow.backfilled]
  . intro row hrow
    rwa [List.mem_filter] at hrow
  . exact mailbox.admits.nodup.sublist (List.filter_sublist.map _)

end Backfill

section Decode

theorem invalidStored_eq_ok {α : Type} {reason : String} {result : Except WorkerResultMailboxError α}
    {a : α}
    : MailboxRow.invalidStored reason result = .ok a ↔ result = .ok a := by
  rw [MailboxRow.invalidStored, Except.mapError_eq_ok]

theorem decode_mailboxId {row : MailboxRow} {record : WorkerResultMailboxRecordV1}
    (h : row.decode = .ok record)
    : record.mailboxId = row.mailboxId := by
  unfold MailboxRow.decode at h
  simp only [Except.bind_eq_ok, Except.pure_eq_ok] at h
  obtain ⟨_, _, _, _, _, _, _, _, _, _, _, _, _, _, _, _, _, _, h⟩ := h
  rw [← h]

theorem decodeRows_ids {rows : List MailboxRow} {records : List WorkerResultMailboxRecordV1}
    (h : decodeRows rows = .ok records)
    : records.map WorkerResultMailboxRecordV1.mailboxId = rows.map MailboxRow.mailboxId := by
  rw [decodeRows, Except.mapM_eq_ok] at h
  induction h with
  | nil => rfl
  | cons hrow _ ih => rw [List.map_cons, List.map_cons, decode_mailboxId hrow, ih]

end Decode

section Transactions

variable {owner : ExactWorkerResultOwnerV1} {options : WorkerResultMailboxClaimOptionsV1}
  {claimToken : String} {nowMs : Int} {mailbox later : Mailbox}

theorem claimUnreadForExactOwner_ok {batch : WorkerResultMailboxClaimBatchV1}
    (h : claimUnreadForExactOwner owner options mailbox = .ok batch later)
    : ∃ key released, owner.ownerKey = .ok key
        ∧ ClaimEffect .ownerKey key options mailbox released later batch := by
  unfold claimUnreadForExactOwner at h
  simp only [Transaction.bind_eq_ok, Transaction.check_eq_ok] at h
  obtain ⟨_, _, ⟨_, rfl⟩, key, _, ⟨hkey, rfl⟩, h⟩ := h
  obtain ⟨released, heffect⟩ := claimUnreadForScope_ok h
  exact ⟨key, released, hkey, heffect⟩

theorem claimUnreadForCoordinator_ok {batch : WorkerResultMailboxClaimBatchV1}
    (h : claimUnreadForCoordinator owner options mailbox = .ok batch later)
    : ∃ key filled released, owner.coordinatorKey = .ok key
        ∧ filled.rows = mailbox.rows.map MailboxRow.backfilled
        ∧ ClaimEffect .coordinatorKey key options filled released later batch := by
  unfold claimUnreadForCoordinator at h
  simp only [Transaction.bind_eq_ok, Transaction.check_eq_ok] at h
  obtain ⟨_, _, ⟨_, rfl⟩, _, filled, hfill, key, _, ⟨hkey, rfl⟩, h⟩ := h
  obtain ⟨released, heffect⟩ := claimUnreadForScope_ok h
  exact ⟨key, filled, released, hkey, backfillCoordinatorKeys_ok hfill, heffect⟩

theorem coalescedUnreadForCoordinator_ok {limit : Nat} {records : List WorkerResultMailboxRecordV1}
    (h : coalescedUnreadForCoordinator owner limit mailbox = .ok records later)
    : later.rows = mailbox.rows.map MailboxRow.backfilled := by
  unfold coalescedUnreadForCoordinator at h
  simp only [Transaction.bind_eq_ok, Transaction.check_eq_ok, Transaction.query_eq_ok] at h
  obtain ⟨_, _, ⟨_, rfl⟩, _, filled, hfill, _, _, ⟨_, rfl⟩, _, rfl⟩ := h
  exact backfillCoordinatorKeys_ok hfill

end Transactions

end Coordinator

/-!
How many results a claim hands out, counted before the claim.
-/

namespace Coordinator

section Lists

theorem length_le_of_nodup_subset {α : Type} {xs ys : List α} (hnodup : xs.Nodup) (h : xs ⊆ ys)
    : xs.length ≤ ys.length :=
  (List.subperm_of_subset hnodup h).length_le

theorem sortedUniqueIds_eq (ids : List Nat) : sortedUniqueIds ids = (sortIds ids).dedup :=
  (List.pairwise_insertionSort (· ≤ ·) ids).destutter_eq_dedup

theorem nodup_sortedUniqueIds (ids : List Nat) : (sortedUniqueIds ids).Nodup := by
  rw [sortedUniqueIds_eq]
  exact List.nodup_dedup _

theorem mem_sortedUniqueIds {id : Nat} {ids : List Nat} : id ∈ sortedUniqueIds ids ↔ id ∈ ids := by
  rw [sortedUniqueIds_eq, List.mem_dedup]
  exact (List.perm_insertionSort _ ids).mem_iff

theorem length_merged_le (ids others : List Nat)
    : (sortedUniqueIds (ids ++ others)).length
        ≤ ids.length + (others.filter fun id => !ids.contains id).length := by
  rw [← List.length_append]
  apply length_le_of_nodup_subset (nodup_sortedUniqueIds _)
  intro id hid
  rw [mem_sortedUniqueIds, List.mem_append] at hid
  rw [List.mem_append, List.mem_filter]
  by_cases hmem : id ∈ ids
  . exact .inl hmem
  . exact .inr ⟨hid.resolve_left hmem, by simpa using hmem⟩

end Lists

section Effect

variable {scope : MailboxScope} {key : String} {options : WorkerResultMailboxClaimOptionsV1}
  {mailbox released later : Mailbox} {batch : WorkerResultMailboxClaimBatchV1}
  (h : ClaimEffect scope key options mailbox released later batch)

include h

theorem ClaimEffect.isBound_released
    : released.isBound options.claimToken = mailbox.rows.any fun row =>
        row.claimToken = some options.claimToken
          && !(scope.holds key row && row.isExpired options.nowMs) := by
  unfold Mailbox.isBound
  rw [Table.rows_update h.release, List.any_map]
  congr 1
  funext row
  by_cases hexpired : scope.holds key row && row.isExpired options.nowMs
  . simp [Table.rewrite, hexpired, MailboxRow.release]
  . simp [Table.rewrite, hexpired]

theorem ClaimEffect.unread_released
    : released.rows.countP (fun row => scope.holds key row && row.state = .unread)
        = mailbox.rows.countP fun row => scope.holds key row
          && (row.state = .unread || (scope.holds key row && row.isExpired options.nowMs)) := by
  rw [Table.rows_update h.release, List.countP_map]
  apply List.countP_congr
  intro row _
  by_cases hholds : scope.holds key row
  . by_cases hexpired : row.isExpired options.nowMs
    . have hrelease : scope.holds key (MailboxRow.release options.nowMs row) := by
        have hevent : (MailboxRow.release options.nowMs row).event = row.event := rfl
        rw [holds_of_event hevent]
        exact hholds
      have hunread : (MailboxRow.release options.nowMs row).state = .unread := rfl
      simp [Table.rewrite, hholds, hexpired, hrelease, hunread]
    . simp [Table.rewrite, hholds, hexpired]
  . simp [Table.rewrite, hholds]

theorem ClaimEffect.count_bound (hbound : released.isBound options.claimToken) (ids : List Nat)
    : ((later.claimedRows scope key options.claimToken).filter fun row =>
        !ids.contains row.mailboxId).length
        = mailbox.rows.countP fun row => scope.holds key row && row.isClaimedBy options.claimToken
          && !(scope.holds key row && row.isExpired options.nowMs)
          && !ids.contains row.mailboxId := by
  rw [h.bound hbound, Mailbox.claimedRows, List.filter_filter, ← List.countP_eq_length_filter,
    Table.rows_update h.release, List.countP_map]
  apply List.countP_congr
  intro row _
  by_cases hexpired : scope.holds key row && row.isExpired options.nowMs
  . simp [Table.rewrite, hexpired, MailboxRow.release, MailboxRow.isClaimedBy]
  . simp [Table.rewrite, hexpired]
    tauto

theorem ClaimEffect.count_free (hfree : released.isBound options.claimToken = false)
    : (later.claimedRows scope key options.claimToken).length ≤ min options.limit
        (mailbox.rows.countP fun row => scope.holds key row
          && (row.state = .unread || (scope.holds key row && row.isExpired options.nowMs))) := by
  have hids : (released.unreadIdsForScope scope key options.limit).length
      = min options.limit (released.rows.countP fun row =>
          scope.holds key row && row.state = .unread) := by
    unfold Mailbox.unreadIdsForScope
    rw [List.length_map, List.length_take, List.length_insertionSort, List.countP_eq_length_filter]
  rw [← h.unread_released, ← hids]
  have hrows := Table.rows_update (h.free hfree)
  rw [← List.length_map (f := MailboxRow.mailboxId)]
  apply length_le_of_nodup_subset
  . exact later.admits.nodup.sublist (List.filter_sublist.map _)
  . intro id hid
    obtain ⟨row', hrow', hid⟩ := List.mem_map.mp hid
    rw [Mailbox.claimedRows, List.mem_filter, hrows, List.mem_map] at hrow'
    obtain ⟨⟨row, hrow, heq⟩, hclaimed⟩ := hrow'
    rw [← hid, ← heq]
    unfold Table.rewrite at heq ⊢
    split at heq
    . next hhits =>
      rw [if_pos hhits]
      simp only [Mailbox.claims, Bool.and_eq_true, List.contains_iff_mem] at hhits
      exact hhits.1.1
    . -- a row with the token would have bound it
      next hmiss =>
      exfalso
      rw [← heq, Bool.and_eq_true] at hclaimed
      have htoken := (claimed_of_isClaimedBy hclaimed.2).2
      rw [Mailbox.isBound, List.any_eq_false] at hfree
      exact hfree row hrow (by simpa using htoken)

end Effect

theorem claimed_le_incoming {results : Results} {released later : Mailbox} {key : String}
    {options : WorkerResumeCreateOptionsV1} {batch : WorkerResultMailboxClaimBatchV1}
    (h : ClaimEffect .coordinatorKey key options.claimOptions results.mailbox released later batch)
    (ids : List Nat)
    : ((later.claimedRows .coordinatorKey key options.claimToken).filter fun row =>
        !ids.contains row.mailboxId).length ≤ results.incoming key options ids := by
  have hbound : released.isBound options.claimToken = results.mailbox.rows.any fun row =>
      row.claimToken = some options.claimToken
        && !(MailboxScope.holds .coordinatorKey key row && row.isExpired options.nowMs) :=
    h.isBound_released
  unfold Results.incoming
  dsimp only
  cases hcase : released.isBound options.claimToken with
  | true =>
    rw [if_pos (hbound.symm.trans hcase)]
    apply le_of_eq
    exact h.count_bound hcase ids
  | false =>
    rw [if_neg (by rw [← Bool.not_eq_true] at hcase; rwa [hbound] at hcase)]
    exact le_trans (List.length_filter_le _ _) (h.count_free hcase)

end Coordinator
