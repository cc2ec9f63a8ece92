import AgentHarness.Coordinator.Lemmas.Claim
import AgentHarness.Coordinator.Lemmas.Replay
import AgentHarness.Coordinator.Watchdog

/-!
How the watchdog completes the mailbox: when it succeeds, and which records it adds.
-/

namespace Coordinator

open WorkerStore (WorkerJob)

theorem Mailbox.nextId_append {mailbox later : Mailbox} {row : MailboxRow}
    (hrows : later.rows = mailbox.rows ++ [row]) (hid : row.mailboxId = mailbox.nextId)
    : later.nextId = mailbox.nextId + 1 := by
  have hmax : ∀ (ids : List Nat) (id : Nat), (ids ++ [id]).foldr max 0 = max (ids.foldr max 0) id := by
    intro ids id
    induction ids with
    | nil => simp
    | cons first rest ih => rw [List.cons_append, List.foldr_cons, List.foldr_cons, ih, max_assoc]
  unfold Mailbox.nextId
  rw [hrows, List.map_append, List.map_singleton, hmax, hid]
  unfold Mailbox.nextId
  omega

def omissionEnvelope : WorkerResultEnvelopeV1 where
  schema := workerResultEnvelopeSchema
  outcome := .failed
  contentPolicy := .redactedSummaryAndOpaquePointersOnly
  redactedSummary := omissionSummary
  artifacts := []

theorem omissionEnvelope_validate : omissionEnvelope.validate = .ok () := by
  decide +kernel

theorem omissionEnvelope_new
    : WorkerResultEnvelopeV1.new .failed omissionSummary [] = .ok omissionEnvelope := by
  unfold WorkerResultEnvelopeV1.new
  rw [Except.bind_eq_ok]
  exact ⟨.unit, omissionEnvelope_validate, rfl⟩

section

variable {wait : WorkerCoordinatorWaitV1} {nowMs : Int}

theorem coordinatorKey_of_stored (h : validateStoredWait wait = .ok ())
    : wait.owner.coordinatorKey = .ok wait.coordinatorKey := by
  have hcanonical := validateStoredWait_ok h
  unfold canonicalWait Wait.ownerResult at hcanonical
  simp only [Except.bind_eq_ok, Except.pure_eq_ok, Except.mapError_eq_ok] at hcanonical
  obtain ⟨_, _, _, _, _, _, _, _, _, _, key, hkey, _, _, hwait⟩ := hcanonical
  have : key = wait.coordinatorKey := congrArg WorkerCoordinatorWaitV1.coordinatorKey hwait
  rw [hkey, this]

theorem ownerKey_of_stored (h : validateStoredWait wait = .ok ())
    : ∃ ownerKey, wait.owner.ownerKey = .ok ownerKey := by
  have hkey := coordinatorKey_of_stored h
  unfold ExactWorkerResultOwnerV1.coordinatorKey at hkey
  simp only [Except.bind_eq_ok] at hkey
  obtain ⟨_, hvalid, _, _, laneHash, hlane, _⟩ := hkey
  unfold ExactWorkerResultOwnerV1.ownerKey
  simp only [Except.bind_eq_ok, Except.pure_eq_ok]
  exact ⟨_, .unit, hvalid, laneHash, hlane, rfl⟩

theorem validateIdentifier_of_wait {field field' value : String}
    (h : Wait.validateIdentifier field value = .ok ())
    : validateIdentifier field' value = .ok () := by
  unfold Wait.validateIdentifier at h
  rw [Except.require_eq_ok] at h
  simp only [Bool.not_eq_true', Bool.or_eq_false_iff, decide_eq_false_iff_not, not_not,
    not_lt] at h
  obtain ⟨⟨⟨hsome, htrim⟩, hbytes⟩, hcontrol⟩ := h
  unfold validateIdentifier
  simp only [Except.bind_eq_ok, Except.require_eq_ok, decide_eq_true_eq, Bool.not_eq_true']
  refine ⟨.unit, hsome, .unit, htrim, .unit, ?_, hcontrol⟩
  unfold maxMailboxReferenceBytes
  omega

end

/-
Whether the omission record of a child is well formed: its event key must fit.
-/
def omissionFits (wait : WorkerCoordinatorWaitV1) (child : WorkerJob) : Prop :=
  validateIdentifier "terminalEventKey" (omissionEventKey wait.waitId child.jobId) = .ok ()

-- the children of a watchdog have readable ids and times
structure ChildrenValid (children : List WorkerJob) (nowMs : Int) : Prop where
  now : 0 ≤ nowMs
  nodup : (children.map WorkerJob.jobId).Nodup
  ids : ∀ child ∈ children, Wait.validateIdentifier "expectedChildJobId" child.jobId = .ok ()
  times : ∀ child ∈ children, 0 ≤ child.finishedAtMs.getD nowMs

theorem omissionRecord_validate {wait : WorkerCoordinatorWaitV1} {child : WorkerJob} {nowMs : Int}
    (hwait : validateStoredWait wait = .ok ())
    (hid : Wait.validateIdentifier "expectedChildJobId" child.jobId = .ok ())
    (htime : 0 ≤ child.finishedAtMs.getD nowMs)
    : (omissionRecord wait omissionEnvelope child nowMs).validate = .ok () ↔
        omissionFits wait child := by
  have howner : wait.owner.validate = .ok () :=
    coordinatorKey_validate (coordinatorKey_of_stored hwait)
  have htime' : validateTimestamp "terminalAtMs" (child.finishedAtMs.getD nowMs) = .ok () := by
    rw [validateTimestamp, Except.require_eq_ok, decide_eq_true_eq]
    exact htime
  unfold WorkerResultMailboxInsertV1.validate omissionFits
  simp only [Except.bind_eq_ok, omissionRecord, WorkerResultOwnerV1.validate, howner,
    omissionEnvelope_validate, validateOptionalIdentifier, validateIdentifier_of_wait hid, htime']
  constructor
  . intro h
    obtain ⟨_, hkey, _⟩ := h
    exact hkey
  . intro hkey
    exact ⟨.unit, hkey, .unit, trivial, .unit, trivial, .unit, trivial, trivial⟩

/-
The rows that are appended for these children, from this mailbox id on.
-/
def omissionRows (wait : WorkerCoordinatorWaitV1) (nowMs : Int) (ownerKey : String)
    : Nat → List WorkerJob → List MailboxRow
  | _, [] => []
  | mailboxId, child :: children =>
    (omissionRecord wait omissionEnvelope child nowMs).row mailboxId (some ownerKey)
      :: omissionRows wait nowMs ownerKey (mailboxId + 1) children

theorem mem_omissionRows {wait : WorkerCoordinatorWaitV1} {nowMs : Int} {ownerKey : String}
    {children : List WorkerJob} {mailboxId : Nat} {row : MailboxRow}
    (h : row ∈ omissionRows wait nowMs ownerKey mailboxId children)
    : ∃ child ∈ children, ∃ id ≥ mailboxId,
        row = (omissionRecord wait omissionEnvelope child nowMs).row id (some ownerKey) := by
  induction children generalizing mailboxId with
  | nil => cases h
  | cons child children ih =>
    rw [omissionRows, List.mem_cons] at h
    cases h with
    | inl heq => exact ⟨child, List.mem_cons_self, mailboxId, Nat.le_refl _, heq⟩
    | inr hrest =>
      obtain ⟨other, hother, id, hid, hrow⟩ := ih hrest
      refine ⟨other, List.mem_cons_of_mem child hother, id, ?_, hrow⟩
      omega

theorem exists_omissionRow {wait : WorkerCoordinatorWaitV1} {nowMs : Int} {ownerKey : String}
    {children : List WorkerJob} {child : WorkerJob} (hchild : child ∈ children) (mailboxId : Nat)
    : ∃ id, (omissionRecord wait omissionEnvelope child nowMs).row id (some ownerKey)
        ∈ omissionRows wait nowMs ownerKey mailboxId children := by
  induction children generalizing mailboxId with
  | nil => cases hchild
  | cons first children ih =>
    rw [List.mem_cons] at hchild
    cases hchild with
    | inl heq =>
      rw [heq]
      exact ⟨mailboxId, List.mem_cons_self⟩
    | inr hrest =>
      obtain ⟨id, hid⟩ := ih hrest (mailboxId + 1)
      exact ⟨id, List.mem_cons_of_mem _ hid⟩

def Mailbox.lacksOmission (mailbox : Mailbox) (wait : WorkerCoordinatorWaitV1) (child : WorkerJob)
    : Bool :=
  mailbox.rows.all fun row => row.terminalEventKey ≠ omissionEventKey wait.waitId child.jobId

def omissionDigest (wait : WorkerCoordinatorWaitV1) (child : WorkerJob) (nowMs : Int)
    : Stored TerminalEventContent :=
  terminalEventDigest (omissionRecord wait omissionEnvelope child nowMs)

def Mailbox.OmissionAgrees (mailbox : Mailbox) (wait : WorkerCoordinatorWaitV1) (child : WorkerJob)
    (nowMs : Int)
    : Prop :=
  ∀ row ∈ mailbox.rows, row.terminalEventKey = omissionEventKey wait.waitId child.jobId →
    row.eventDigest = omissionDigest wait child nowMs

theorem omissionEventKey_injective {waitId childJobId other : String}
    (h : omissionEventKey waitId childJobId = omissionEventKey waitId other)
    : childJobId = other := by
  unfold omissionEventKey at h
  exact (String.append_right_inj _).mp h

section

variable {wait : WorkerCoordinatorWaitV1} {nowMs : Int} {ownerKey : String} {mailbox later : Mailbox}
variable {child : WorkerJob} {u : Unit}

theorem omissionRecord_ownerKey (hownerKey : wait.owner.ownerKey = .ok ownerKey)
    : (omissionRecord wait omissionEnvelope child nowMs).owner.ownerKey = .ok (some ownerKey) := by
  simp only [omissionRecord, WorkerResultOwnerV1.ownerKey, hownerKey, Except.map]

theorem insertOmission_ok (hwait : validateStoredWait wait = .ok ())
    (hownerKey : wait.owner.ownerKey = .ok ownerKey)
    (hid : Wait.validateIdentifier "expectedChildJobId" child.jobId = .ok ())
    (htime : 0 ≤ child.finishedAtMs.getD nowMs)
    (h : insertOmission wait nowMs child mailbox = .ok u later)
    : omissionFits wait child ∧ mailbox.OmissionAgrees wait child nowMs
        ∧ later.rows = mailbox.rows ++ omissionRows wait nowMs ownerKey mailbox.nextId
            ([child].filter (mailbox.lacksOmission wait)) := by
  unfold insertOmission at h
  simp only [omissionEnvelope_new, Transaction.bind_eq_ok, Transaction.check_eq_ok,
    Except.mapError_eq_ok, Transaction.mapErr_eq_ok, Transaction.pure_eq_ok, Except.ok.injEq] at h
  obtain ⟨_, _, ⟨rfl, rfl⟩, outcome, _, hinsert, _, rfl⟩ := h
  obtain ⟨hvalid, key, hkey, hcases⟩ := insertTerminalResult_ok hinsert
  have hfits := (omissionRecord_validate hwait hid htime).mp hvalid
  rw [omissionRecord_ownerKey hownerKey, Except.ok.injEq] at hkey
  rw [← hkey] at hcases
  refine ⟨hfits, ?_⟩
  cases hcases with
  | inl hnew =>
    constructor
    . intro row hrow hrowKey
      exact absurd hrowKey (hnew.1 row hrow)
    . have hlacks : mailbox.lacksOmission wait child := by
        simp only [Mailbox.lacksOmission, List.all_eq_true, decide_eq_true_eq]
        exact hnew.1
      rw [hnew.2, List.filter_cons_of_pos hlacks]
      rfl
  | inr hsame =>
    obtain ⟨⟨row, hrow, hrowKey, hdigest⟩, heq⟩ := hsame
    constructor
    . intro other hother hotherKey
      have : other = row := by
        apply Mailbox.eq_of_terminalEventKey hother hrow
        rw [hotherKey, hrowKey]
        rfl
      rw [this]
      exact hdigest
    . have hlacks : ¬ mailbox.lacksOmission wait child := by
        intro hlacks
        simp only [Mailbox.lacksOmission, List.all_eq_true, decide_eq_true_eq] at hlacks
        exact hlacks row hrow hrowKey
      rw [heq, List.filter_cons_of_neg hlacks]
      simp [omissionRows]

theorem insertOmission_isOk (hwait : validateStoredWait wait = .ok ())
    (hid : Wait.validateIdentifier "expectedChildJobId" child.jobId = .ok ())
    (htime : 0 ≤ child.finishedAtMs.getD nowMs) (hfits : omissionFits wait child)
    (hagrees : mailbox.OmissionAgrees wait child nowMs)
    : ∃ later, insertOmission wait nowMs child mailbox = .ok () later := by
  obtain ⟨ownerKey, hownerKey⟩ := ownerKey_of_stored hwait
  obtain ⟨outcome, later, hinsert⟩ :=
    insertTerminalResult_isOk ((omissionRecord_validate hwait hid htime).mpr hfits)
      (omissionRecord_ownerKey hownerKey) hagrees
  refine ⟨later, ?_⟩
  unfold insertOmission
  simp only [omissionEnvelope_new, Transaction.bind_eq_ok, Transaction.check_eq_ok,
    Except.mapError_eq_ok, Transaction.mapErr_eq_ok, Transaction.pure_eq_ok, Except.ok.injEq]
  exact ⟨_, mailbox, ⟨rfl, rfl⟩, outcome, later, hinsert, trivial, rfl⟩

theorem omission_of_other {other : WorkerJob} (hne : other.jobId ≠ child.jobId)
    (hrows : later.rows = mailbox.rows ++ omissionRows wait nowMs ownerKey mailbox.nextId
      ([child].filter (mailbox.lacksOmission wait)))
    : later.lacksOmission wait other = mailbox.lacksOmission wait other
        ∧ (later.OmissionAgrees wait other nowMs ↔ mailbox.OmissionAgrees wait other nowMs) := by
  have hadded : ∀ row ∈ omissionRows wait nowMs ownerKey mailbox.nextId
      ([child].filter (mailbox.lacksOmission wait)),
      row.terminalEventKey ≠ omissionEventKey wait.waitId other.jobId := by
    intro row hrow hkey
    obtain ⟨first, hfirst, id, _, heq⟩ := mem_omissionRows hrow
    rw [List.mem_filter, List.mem_singleton] at hfirst
    rw [heq, hfirst.1] at hkey
    exact hne (omissionEventKey_injective hkey).symm
  constructor
  . unfold Mailbox.lacksOmission
    rw [hrows, List.all_append]
    have hall : (omissionRows wait nowMs ownerKey mailbox.nextId
        ([child].filter (mailbox.lacksOmission wait))).all
        (fun row => row.terminalEventKey ≠ omissionEventKey wait.waitId other.jobId) = true := by
      simp only [List.all_eq_true, decide_eq_true_eq]
      exact hadded
    rw [hall, Bool.and_true]
  . unfold Mailbox.OmissionAgrees
    rw [hrows]
    constructor
    . intro h row hrow
      exact h row (List.mem_append_left _ hrow)
    . intro h row hrow hkey
      rw [List.mem_append] at hrow
      cases hrow with
      | inl hold => exact h row hold hkey
      | inr hnew => exact absurd hkey (hadded row hnew)

end

def missingChildren (wait : WorkerCoordinatorWaitV1) (validSources : List String)
    (children : List WorkerJob) (mailbox : Mailbox)
    : List WorkerJob :=
  children.filter fun child =>
    !validSources.contains child.jobId && mailbox.lacksOmission wait child

section

variable {wait : WorkerCoordinatorWaitV1} {nowMs : Int} {ownerKey : String}
variable {validSources : List String} {children : List WorkerJob}

theorem ChildrenValid.tail {child : WorkerJob} (h : ChildrenValid (child :: children) nowMs)
    : ChildrenValid children nowMs where
  now := h.now
  nodup := by
    have hnodup := h.nodup
    rw [List.map_cons, List.nodup_cons] at hnodup
    exact hnodup.2
  ids other hother := h.ids other (List.mem_cons_of_mem child hother)
  times other hother := h.times other (List.mem_cons_of_mem child hother)

theorem ChildrenValid.ne {child other : WorkerJob} (h : ChildrenValid (child :: children) nowMs)
    (hother : other ∈ children)
    : other.jobId ≠ child.jobId := by
  have hnodup := h.nodup
  rw [List.map_cons, List.nodup_cons] at hnodup
  intro heq
  apply hnodup.1
  rw [← heq]
  exact List.mem_map_of_mem hother

theorem insertOmissions_ok (hwait : validateStoredWait wait = .ok ())
    (hownerKey : wait.owner.ownerKey = .ok ownerKey) (hchildren : ChildrenValid children nowMs)
    {mailbox later : Mailbox} {u : Unit}
    (h : insertOmissions wait nowMs validSources children mailbox = .ok u later)
    : (∀ child ∈ children, child.jobId ∉ validSources →
          omissionFits wait child ∧ mailbox.OmissionAgrees wait child nowMs)
        ∧ later.rows = mailbox.rows ++ omissionRows wait nowMs ownerKey mailbox.nextId
            (missingChildren wait validSources children mailbox) := by
  induction children generalizing mailbox with
  | nil =>
    rw [insertOmissions, Transaction.pure_eq_ok] at h
    rw [← h.2]
    simp [missingChildren, omissionRows]
  | cons child children ih =>
    rw [insertOmissions] at h
    split at h
    . next hvalid =>
      have hrest := ih hchildren.tail h
      rw [List.contains_iff_mem] at hvalid
      constructor
      . intro other hother hmissing
        rw [List.mem_cons] at hother
        cases hother with
        | inl heq =>
          rw [heq] at hmissing
          exact absurd hvalid hmissing
        | inr hother => exact hrest.1 other hother hmissing
      . rw [hrest.2]
        simp [missingChildren, hvalid]
    . next hmissing =>
      rw [Transaction.bind_eq_ok] at h
      obtain ⟨_, middle, hfirst, hrest⟩ := h
      have hfirst := insertOmission_ok hwait hownerKey
        (hchildren.ids child List.mem_cons_self) (hchildren.times child List.mem_cons_self) hfirst
      have hrest := ih hchildren.tail hrest
      have hother : ∀ other ∈ children,
          middle.lacksOmission wait other = mailbox.lacksOmission wait other
            ∧ (middle.OmissionAgrees wait other nowMs ↔ mailbox.OmissionAgrees wait other nowMs) := by
        intro other hother
        exact omission_of_other (hchildren.ne hother) hfirst.2.2
      have hfilter : missingChildren wait validSources children middle
          = missingChildren wait validSources children mailbox := by
        apply List.filter_congr
        intro other hmem
        rw [(hother other hmem).1]
      constructor
      . intro other hmem hmissing
        rw [List.mem_cons] at hmem
        cases hmem with
        | inl heq =>
          rw [heq]
          exact ⟨hfirst.1, hfirst.2.1⟩
        | inr hmem =>
          have hother' := hrest.1 other hmem hmissing
          exact ⟨hother'.1, (hother other hmem).2.mp hother'.2⟩
      . rw [hrest.2, hfilter, hfirst.2.2]
        by_cases hlacks : mailbox.lacksOmission wait child
        . have hnext : middle.nextId = mailbox.nextId + 1 := by
            have hrows := hfirst.2.2
            rw [List.filter_cons_of_pos hlacks] at hrows
            exact Mailbox.nextId_append hrows rfl
          have hcons : missingChildren wait validSources (child :: children) mailbox
              = child :: missingChildren wait validSources children mailbox := by
            unfold missingChildren
            rw [List.filter_cons_of_pos]
            simp only [hmissing, hlacks, Bool.not_false, Bool.and_self]
          rw [hcons, hnext, List.filter_cons_of_pos hlacks, List.append_assoc]
          rfl
        . have hsame : middle.rows = mailbox.rows := by
            rw [hfirst.2.2, List.filter_cons_of_neg hlacks]
            exact List.append_nil _
          have hcons : missingChildren wait validSources (child :: children) mailbox
              = missingChildren wait validSources children mailbox := by
            unfold missingChildren
            rw [List.filter_cons_of_neg]
            simp [hlacks]
          rw [hcons, List.filter_cons_of_neg hlacks, Mailbox.nextId, Mailbox.nextId, hsame]
          simp [omissionRows]

theorem insertOmissions_isOk (hwait : validateStoredWait wait = .ok ())
    (hchildren : ChildrenValid children nowMs) {mailbox : Mailbox}
    (h : ∀ child ∈ children, child.jobId ∉ validSources →
      omissionFits wait child ∧ mailbox.OmissionAgrees wait child nowMs)
    : ∃ later, insertOmissions wait nowMs validSources children mailbox = .ok () later := by
  induction children generalizing mailbox with
  | nil => exact ⟨mailbox, rfl⟩
  | cons child children ih =>
    rw [insertOmissions]
    split
    . apply ih hchildren.tail
      intro other hother
      exact h other (List.mem_cons_of_mem child hother)
    . next hmissing =>
      have hmissing : child.jobId ∉ validSources := by
        simpa using hmissing
      have hid := hchildren.ids child List.mem_cons_self
      have htime := hchildren.times child List.mem_cons_self
      have hchild := h child List.mem_cons_self hmissing
      obtain ⟨middle, hfirst⟩ := insertOmission_isOk hwait hid htime hchild.1 hchild.2
      obtain ⟨ownerKey, hownerKey⟩ := ownerKey_of_stored hwait
      have hrows := (insertOmission_ok hwait hownerKey hid htime hfirst).2.2
      have hrest : ∀ other ∈ children, other.jobId ∉ validSources →
          omissionFits wait other ∧ middle.OmissionAgrees wait other nowMs := by
        intro other hother hmissing'
        have hother' := h other (List.mem_cons_of_mem child hother) hmissing'
        exact ⟨hother'.1, (omission_of_other (hchildren.ne hother) hrows).2.mpr hother'.2⟩
      obtain ⟨later, hlater⟩ := ih hchildren.tail hrest
      refine ⟨later, ?_⟩
      rw [Transaction.bind_of_ok hfirst]
      exact hlater

end

theorem demote_fails {mailbox : Mailbox} {row : MailboxRow} {mailboxId : Nat} (nowMs : Int)
    (hrow : row ∈ mailbox.rows) (hid : row.mailboxId = mailboxId) (hauto : row.autoResumable)
    : mailbox.update (fun other => other.mailboxId = mailboxId)
        (fun other => { other with autoResumable := false, updatedAtMs := nowMs }) = none := by
  cases hupdate : mailbox.update (fun other => other.mailboxId = mailboxId)
      (fun other => { other with autoResumable := false, updatedAtMs := nowMs }) with
  | none => rfl
  | some later =>
    have hcheck := mailbox.admits.check row hrow
    have hkind : row.ownerKind = .exact := by
      simp only [mailboxTable, MailboxRow.ownerCheck, hauto, Bool.and_eq_true, Bool.or_eq_true,
        decide_eq_true_eq, Bool.not_true, Bool.false_eq_true, false_and, or_false, true_and] at hcheck
      exact hcheck.1.2.1
    have hmem := (Table.mem_update hupdate).mpr ⟨row, hrow, rfl⟩
    have hlater := later.admits.check _ hmem
    simp [mailboxTable, MailboxRow.ownerCheck, Table.rewrite, hid, hkind] at hlater

theorem demoteRows_eq_ok {mailbox later : Mailbox} {nowMs : Int} {mailboxIds : List Nat} {u : Unit}
    (hids : ∀ id ∈ mailboxIds, ∃ row ∈ mailbox.rows, row.mailboxId = id ∧ row.autoResumable)
    : demoteRows nowMs mailboxIds mailbox = .ok u later ↔ mailboxIds = [] ∧ later = mailbox := by
  cases mailboxIds with
  | nil => simp [demoteRows, Transaction.pure_eq_ok, eq_comm]
  | cons id mailboxIds =>
    obtain ⟨row, hrow, hid, hauto⟩ := hids id List.mem_cons_self
    rw [demoteRows, Transaction.bind_eq_ok]
    simp only [Transaction.write_eq_ok, demote_fails nowMs hrow hid hauto]
    simp

theorem mem_invalidMailboxIds {mailbox : Mailbox} {coordinatorKey : String} {id : Nat}
    (h : id ∈ mailbox.invalidMailboxIds coordinatorKey)
    : ∃ row ∈ mailbox.rows, row.mailboxId = id ∧ row.autoResumable := by
  unfold Mailbox.invalidMailboxIds Mailbox.ofCoordinator at h
  rw [List.mem_map] at h
  obtain ⟨row, hrow, hid⟩ := h
  rw [List.mem_filter, List.mem_filter] at hrow
  refine ⟨row, hrow.1.1, hid, ?_⟩
  have hinvalid := hrow.2
  unfold MailboxRow.isInvalidFor at hinvalid
  rw [Bool.and_eq_true] at hinvalid
  exact hinvalid.1

theorem ensure_eq_ok {wait : WorkerCoordinatorWaitV1} {children : List WorkerJob} {nowMs : Int}
    {mailbox later : Mailbox} {u : Unit} (hwait : validateStoredWait wait = .ok ())
    : ensureExpectedChildMailboxRecords wait children nowMs mailbox = .ok u later ↔
        mailbox.invalidMailboxIds wait.coordinatorKey = []
          ∧ insertOmissions wait nowMs
              (mailbox.validSources wait.coordinatorKey wait.expectedChildJobIds) children mailbox
              = .ok u later := by
  unfold ensureExpectedChildMailboxRecords
  simp only [coordinatorKey_of_stored hwait, Transaction.bind_eq_ok, Transaction.check_eq_ok,
    Transaction.query_eq_ok, Except.mapError, Except.ok.injEq]
  constructor
  . intro h
    obtain ⟨_, _, ⟨rfl, rfl⟩, _, _, ⟨rfl, rfl⟩, _, _, ⟨rfl, rfl⟩, _, middle, hdemote, hinsert⟩ := h
    rw [demoteRows_eq_ok (fun id hid => mem_invalidMailboxIds hid)] at hdemote
    rw [hdemote.2] at hinsert
    exact ⟨hdemote.1, hinsert⟩
  . intro h
    refine ⟨_, mailbox, ⟨rfl, rfl⟩, _, mailbox, ⟨rfl, rfl⟩, _, mailbox, ⟨rfl, rfl⟩, .unit, mailbox, ?_,
      h.2⟩
    rw [h.1]
    rfl

/-
A valid auto-resumable record of the child for the coordinator.
-/
def Mailbox.HasRecord (mailbox : Mailbox) (coordinatorKey childJobId : String) : Prop :=
  ∃ row ∈ mailbox.rows, row.coordinatorKey = some coordinatorKey
    ∧ row.isValidFor coordinatorKey ∧ row.sourceWorkerJobId = some childJobId

theorem mem_validSources {mailbox : Mailbox} {coordinatorKey childJobId : String}
    {expected : List String}
    : childJobId ∈ mailbox.validSources coordinatorKey expected ↔
        mailbox.HasRecord coordinatorKey childJobId ∧ childJobId ∈ expected := by
  unfold Mailbox.validSources Mailbox.ofCoordinator Mailbox.HasRecord
  simp only [List.mem_filterMap, List.mem_filter, decide_eq_true_eq, Option.filter_eq_some_iff,
    List.contains_iff_mem]
  constructor
  . intro h
    obtain ⟨row, ⟨⟨hrow, hkey⟩, hvalid⟩, hsource, hexpected⟩ := h
    exact ⟨⟨row, hrow, hkey, hvalid, hsource⟩, hexpected⟩
  . intro h
    obtain ⟨⟨row, hrow, hkey, hvalid, hsource⟩, hexpected⟩ := h
    exact ⟨row, ⟨⟨hrow, hkey⟩, hvalid⟩, hsource, hexpected⟩

theorem omissionRow_valid {wait : WorkerCoordinatorWaitV1} (hwait : validateStoredWait wait = .ok ())
    (child : WorkerJob) (nowMs : Int) (id : Nat) (ownerKey : Option String)
    : let row := (omissionRecord wait omissionEnvelope child nowMs).row id ownerKey
      row.coordinatorKey = some wait.coordinatorKey ∧ row.isValidFor wait.coordinatorKey
        ∧ row.sourceWorkerJobId = some child.jobId := by
  have hkey := coordinatorKey_of_stored hwait
  have hvalid := coordinatorKey_validate hkey
  refine ⟨?_, ?_, rfl⟩
  . simp [WorkerResultMailboxInsertV1.row, omissionRecord, WorkerResultOwnerV1.coordinatorKey, hkey,
      Except.toOption]
  . simp [MailboxRow.isValidFor, MailboxRow.ownerValid, MailboxRow.envelopeValid,
      WorkerResultMailboxInsertV1.row, omissionRecord, WorkerResultOwnerV1.isAutoResumable,
      Stored.decode, hkey, hvalid, Except.toOption, omissionEnvelope_validate, Except.isOk,
      Except.toBool]

/-
When the mailbox can be completed: no invalid row is in the way, and the omission of each child without
a valid record fits and meets no other record under its event key.
-/
def Mailbox.Completable (mailbox : Mailbox) (wait : WorkerCoordinatorWaitV1)
    (children : List WorkerJob) (nowMs : Int)
    : Prop :=
  mailbox.invalidMailboxIds wait.coordinatorKey = []
    ∧ ∀ child ∈ children,
        child.jobId ∉ mailbox.validSources wait.coordinatorKey wait.expectedChildJobIds →
          omissionFits wait child ∧ mailbox.OmissionAgrees wait child nowMs
            ∧ (mailbox.lacksOmission wait child ∨ mailbox.HasRecord wait.coordinatorKey child.jobId)

theorem ensure_covers_iff {wait : WorkerCoordinatorWaitV1} {children : List WorkerJob} {nowMs : Int}
    {mailbox : Mailbox} (hwait : validateStoredWait wait = .ok ())
    (hchildren : ChildrenValid children nowMs)
    : (∃ later, ensureExpectedChildMailboxRecords wait children nowMs mailbox = .ok () later
          ∧ ∀ child ∈ children, later.HasRecord wait.coordinatorKey child.jobId)
        ↔ mailbox.Completable wait children nowMs := by
  obtain ⟨ownerKey, hownerKey⟩ := ownerKey_of_stored hwait
  constructor
  . intro h
    obtain ⟨later, hensure, hcovers⟩ := h
    rw [ensure_eq_ok hwait] at hensure
    have hinsert := insertOmissions_ok hwait hownerKey hchildren hensure.2
    refine ⟨hensure.1, ?_⟩
    intro child hchild hmissing
    obtain ⟨hfits, hagrees⟩ := hinsert.1 child hchild hmissing
    refine ⟨hfits, hagrees, ?_⟩
    obtain ⟨row, hrow, hkey, hvalid, hsource⟩ := hcovers child hchild
    rw [hinsert.2, List.mem_append] at hrow
    cases hrow with
    | inl hold => exact .inr ⟨row, hold, hkey, hvalid, hsource⟩
    | inr hnew =>
      -- a new record of this child was added because its event key was free
      obtain ⟨other, hother, id, _, heq⟩ := mem_omissionRows hnew
      unfold missingChildren at hother
      rw [List.mem_filter, Bool.and_eq_true] at hother
      have hid : other.jobId = child.jobId := by
        rw [heq] at hsource
        injection hsource
      have hsame : other = child := by
        exact List.inj_on_of_nodup_map hchildren.nodup hother.1 hchild hid
      rw [hsame] at hother
      exact .inl hother.2.2
  . intro h
    have hinserts : ∀ child ∈ children,
        child.jobId ∉ mailbox.validSources wait.coordinatorKey wait.expectedChildJobIds →
          omissionFits wait child ∧ mailbox.OmissionAgrees wait child nowMs := by
      intro child hchild hmissing
      have hchild' := h.2 child hchild hmissing
      exact ⟨hchild'.1, hchild'.2.1⟩
    obtain ⟨later, hlater⟩ := insertOmissions_isOk hwait hchildren hinserts
    have hrows := (insertOmissions_ok hwait hownerKey hchildren hlater).2
    refine ⟨later, (ensure_eq_ok hwait).mpr ⟨h.1, hlater⟩, ?_⟩
    have hkept : ∀ childJobId, mailbox.HasRecord wait.coordinatorKey childJobId →
        later.HasRecord wait.coordinatorKey childJobId := by
      intro childJobId hrecord
      obtain ⟨row, hrow, hrecord⟩ := hrecord
      refine ⟨row, ?_, hrecord⟩
      rw [hrows]
      exact List.mem_append_left _ hrow
    intro child hchild
    by_cases hmissing :
        child.jobId ∈ mailbox.validSources wait.coordinatorKey wait.expectedChildJobIds
    . exact hkept child.jobId (mem_validSources.mp hmissing).1
    . cases (h.2 child hchild hmissing).2.2 with
      | inr hrecord => exact hkept child.jobId hrecord
      | inl hlacks =>
        have hmem : child ∈ missingChildren wait
            (mailbox.validSources wait.coordinatorKey wait.expectedChildJobIds) children mailbox := by
          unfold missingChildren
          rw [List.mem_filter]
          simp [hchild, hmissing, hlacks]
        obtain ⟨id, hid⟩ := exists_omissionRow hmem mailbox.nextId
        obtain ⟨hkey, hvalid, hsource⟩ := omissionRow_valid hwait child nowMs id (some ownerKey)
        refine ⟨_, ?_, hkey, hvalid, hsource⟩
        rw [hrows]
        exact List.mem_append_right _ hid

def sampleChild (jobId : String) (status : WorkerStore.WorkerJobStatus) : WorkerJob where
  jobId
  kind := .llmSubagent
  lane := "llm"
  status
  jobGroupId := some "g"
  masterAgentId := none
  masterSessionKey := none
  wakePolicy := none
  payload := []
  childPolicyJson := none
  resultOwnerJson := none
  executionModeJson := none
  idempotencyKey := jobId
  priority := 0
  availableAtMs := 0
  leaseOwner := none
  leaseExpiresAtMs := none
  attempt := 1
  maxAttempts := 3
  rateKey := none
  concurrencyGroupKey := none
  createdAtMs := 0
  updatedAtMs := 0
  finishedAtMs := none

def sampleChildren : List WorkerJob :=
  [sampleChild "a" .succeeded, sampleChild "b" .succeeded]

theorem sampleChildren_valid : ChildrenValid sampleChildren 1000 where
  now := by decide
  nodup := by decide
  ids := by decide +kernel
  times := by decide

-- a row whose owner does not deserialize; it satisfies every CHECK
def corruptRow (coordinatorKey : String) : MailboxRow where
  mailboxId := 1
  schema := workerResultMailboxSchema
  terminalEventKey := "event"
  ownerKind := .exact
  ownerKey := some "owner"
  coordinatorKey := some coordinatorKey
  ownerJson := .undecodable "?"
  autoResumable := true
  envelopeJson := .of omissionEnvelope
  eventDigest := .undecodable ""
  state := .unread
  claimToken := none
  claimOwner := none
  claimExpiresAtMs := none
  sourceWorkerJobId := some "a"
  terminalAtMs := 0
  createdAtMs := 0
  updatedAtMs := 0
  acknowledgedAtMs := none

theorem corrupt_row_blocks_coordinator
    : ∃ wait mailbox,
        canonicalWait (sampleWaitOptions 1000) = .ok wait
          ∧ validateStoredWait wait = .ok () ∧ ChildrenValid sampleChildren 1000
          ∧ mailbox.rows = [corruptRow wait.coordinatorKey]
          ∧ ∀ later,
              ensureExpectedChildMailboxRecords wait sampleChildren 1000 mailbox ≠ .ok () later := by
  obtain ⟨wait, hwait⟩ := sampleWaitOptions_ok (show (0 : Int) ≤ 1000 by decide)
  have hstored := validateStoredWait_canonical hwait
  have hcheck : mailboxTable.check (corruptRow wait.coordinatorKey) := by
    simp [mailboxTable, MailboxRow.ownerCheck, MailboxRow.claimCheck, corruptRow]
  obtain ⟨mailbox, _, hrows⟩ := Table.insert_empty hcheck
  refine ⟨wait, mailbox, hwait, hstored, sampleChildren_valid, hrows, ?_⟩
  intro later h
  have hnone := ((ensure_eq_ok hstored).mp h).1
  simp [Mailbox.invalidMailboxIds, Mailbox.ofCoordinator, hrows, corruptRow, MailboxRow.isInvalidFor,
    MailboxRow.ownerValid, Stored.decode] at hnone

theorem partial_mailbox_is_completed
    : ∃ wait mailbox, canonicalWait (sampleWaitOptions 1000) = .ok wait
        ∧ corruptRow "elsewhere" ∈ mailbox.rows
        ∧ mailbox.HasRecord wait.coordinatorKey "a"
        ∧ ¬mailbox.HasRecord wait.coordinatorKey "b"
        ∧ ∃ later, ensureExpectedChildMailboxRecords wait sampleChildren 1000 mailbox = .ok () later
            ∧ ∀ child ∈ sampleChildren, later.HasRecord wait.coordinatorKey child.jobId := by
  obtain ⟨wait, hwait⟩ := sampleWaitOptions_ok (show (0 : Int) ≤ 1000 by decide)
  have hstored := validateStoredWait_canonical hwait
  have hwaitId : wait.waitId = "w" := by
    rw [canonicalWait_ok hwait]
    rfl
  have howner : wait.owner = sampleOwner := by
    rw [canonicalWait_ok hwait]
    rfl
  have hkey : wait.coordinatorKey ≠ "elsewhere" := by
    intro heq
    have hof := coordinatorKey_of_stored hstored
    rw [howner, heq] at hof
    have hother : sampleOwner.coordinatorKey.toOption ≠ some "elsewhere" := by decide +kernel
    exact hother (congrArg Except.toOption hof)
  obtain ⟨ownerKey, hownerKey⟩ := ownerKey_of_stored hstored
  let result : WorkerResultMailboxInsertV1 :=
    { omissionRecord wait omissionEnvelope (sampleChild "a" .succeeded) 500 with
      terminalEventKey := "result-a" }
  let row := result.row 2 (some ownerKey)
  have hrecord : row.coordinatorKey = some wait.coordinatorKey
      ∧ row.isValidFor wait.coordinatorKey ∧ row.sourceWorkerJobId = some "a" :=
    omissionRow_valid hstored (sampleChild "a" .succeeded) 500 2 (some ownerKey)
  have hcheck : mailboxTable.check (corruptRow "elsewhere") := by
    simp [mailboxTable, MailboxRow.ownerCheck, MailboxRow.claimCheck, corruptRow]
  obtain ⟨first, _, hfirst⟩ := Table.insert_empty hcheck
  obtain ⟨mailbox, hinsert⟩ : ∃ mailbox : Mailbox, first.insert row = some mailbox := by
    apply Table.insert_isSome
    . simp [hfirst, mailboxTable, corruptRow, row, result, WorkerResultMailboxInsertV1.row]
    . simp [mailboxTable, MailboxRow.ownerCheck, MailboxRow.claimCheck, row, result,
        WorkerResultMailboxInsertV1.row, omissionRecord, WorkerResultOwnerV1.ownerKind,
        WorkerResultOwnerV1.coordinatorKey, WorkerResultOwnerV1.isAutoResumable,
        coordinatorKey_of_stored hstored, Except.toOption]
    . simp [hfirst, mailboxTable, corruptRow, row, result, WorkerResultMailboxInsertV1.row]
  have hrows : mailbox.rows = [corruptRow "elsewhere", row] := by
    rw [Table.rows_insert hinsert, hfirst]
    rfl
  have hlacks : ∀ jobId, mailbox.HasRecord wait.coordinatorKey jobId → jobId = "a" := by
    rintro jobId ⟨other, hother, hkeyOf, _, hsource⟩
    rw [hrows] at hother
    rcases List.mem_cons.mp hother with rfl | hother
    . exact absurd (Option.some.inj hkeyOf).symm hkey
    . rw [List.mem_singleton.mp hother, hrecord.2.2] at hsource
      exact (Option.some.inj hsource).symm
  have hhas : mailbox.HasRecord wait.coordinatorKey "a" := by
    refine ⟨row, ?_, hrecord⟩
    simp [hrows]
  refine ⟨wait, mailbox, hwait, by simp [hrows], hhas, fun h => by simpa using hlacks _ h, ?_⟩
  have hfits : ∀ child ∈ sampleChildren,
      validateIdentifier "terminalEventKey" (omissionEventKey "w" child.jobId) = .ok ()
        ∧ omissionEventKey "w" child.jobId ≠ "event"
        ∧ omissionEventKey "w" child.jobId ≠ "result-a" := by
    decide +kernel
  have hfree : ∀ child ∈ sampleChildren, ∀ other ∈ mailbox.rows,
      other.terminalEventKey ≠ omissionEventKey wait.waitId child.jobId := by
    intro child hchild other hother
    rw [hwaitId]
    rw [hrows] at hother
    rcases List.mem_cons.mp hother with rfl | hother
    . exact (hfits child hchild).2.1.symm
    . rw [List.mem_singleton.mp hother]
      exact (hfits child hchild).2.2.symm
  refine (ensure_covers_iff hstored sampleChildren_valid).mpr ⟨?_, ?_⟩
  . have hvalid : row.isInvalidFor wait.coordinatorKey = false := by
      have h := hrecord.2.1
      simp only [MailboxRow.isValidFor, Bool.and_eq_true] at h
      simp [MailboxRow.isInvalidFor, h]
    simp [Mailbox.invalidMailboxIds, Mailbox.ofCoordinator, hrows, corruptRow, hkey.symm,
      hrecord.1, hvalid]
  . intro child hchild hmissing
    refine ⟨?_, fun other hother heq => absurd heq (hfree child hchild other hother), ?_⟩
    . unfold omissionFits
      rw [hwaitId]
      exact (hfits child hchild).1
    . left
      unfold Mailbox.lacksOmission
      simpa using hfree child hchild

end Coordinator
