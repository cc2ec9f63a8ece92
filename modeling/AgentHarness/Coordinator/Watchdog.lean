import AgentHarness.Coordinator.Mailbox
import AgentHarness.Coordinator.Wait
import AgentHarness.WorkerStore.Impl

/-!
The watchdog of a durable wait completes the mailbox with omission records for the children without
a result.
-/

namespace Coordinator

open WorkerStore (WorkerJob)

def ioOther (message : String) : IoError :=
  { kind := .other, message }

def mailboxIo (error : WorkerResultMailboxError) : IoError :=
  ioOther error.message

abbrev MailboxIo := Transaction IoError Mailbox

namespace MailboxRow

def ownerValid (coordinatorKey : String) (row : MailboxRow) : Bool :=
  match row.ownerJson.decode with
  | some (.exact owner) =>
    owner.validate.isOk && owner.coordinatorKey.toOption = some coordinatorKey
  | some (.legacyIncomplete _) => false
  | none => false

def envelopeValid (row : MailboxRow) : Bool :=
  row.envelopeJson.decode.any fun envelope => envelope.validate.isOk

def isValidFor (coordinatorKey : String) (row : MailboxRow) : Bool :=
  row.autoResumable && row.ownerValid coordinatorKey && row.envelopeValid

def isInvalidFor (coordinatorKey : String) (row : MailboxRow) : Bool :=
  row.autoResumable && (!row.ownerValid coordinatorKey || !row.envelopeValid)

end MailboxRow

namespace Mailbox

variable (mailbox : Mailbox) (coordinatorKey : String)

def ofCoordinator : List MailboxRow :=
  mailbox.rows.filter fun row => row.coordinatorKey = some coordinatorKey

def validSources (expected : List String) : List String :=
  ((mailbox.ofCoordinator coordinatorKey).filter (MailboxRow.isValidFor coordinatorKey)).filterMap
    fun row => row.sourceWorkerJobId.filter expected.contains

def invalidMailboxIds : List Nat :=
  ((mailbox.ofCoordinator coordinatorKey).filter (MailboxRow.isInvalidFor coordinatorKey)).map
    MailboxRow.mailboxId

end Mailbox

def demoteRows (nowMs : Int) (mailboxIds : List Nat) : MailboxIo Unit :=
  match mailboxIds with
  | [] => return ()
  | mailboxId :: mailboxIds => do
    Transaction.write
      (fun mailbox => mailbox.update (fun row => row.mailboxId = mailboxId)
        (fun row => { row with autoResumable := false, updatedAtMs := nowMs }))
      (ioOther "CHECK constraint failed")
    demoteRows nowMs mailboxIds

def omissionSummary : String :=
  "child result unavailable: exact terminal mailbox evidence was missing or invalid"

def omissionEventKey (waitId childJobId : String) : String :=
  "coordinator-child-omission/" ++ waitId ++ "/" ++ childJobId

def omissionRecord (wait : WorkerCoordinatorWaitV1) (envelope : WorkerResultEnvelopeV1)
    (child : WorkerJob) (nowMs : Int)
    : WorkerResultMailboxInsertV1 where
  terminalEventKey := omissionEventKey wait.waitId child.jobId
  owner := .exact wait.owner
  envelope
  sourceWorkerJobId := some child.jobId
  terminalAtMs := child.finishedAtMs.getD nowMs

def insertOmission (wait : WorkerCoordinatorWaitV1) (nowMs : Int) (child : WorkerJob)
    : MailboxIo Unit := do
  let envelope ← Transaction.check
    ((WorkerResultEnvelopeV1.new .failed omissionSummary []).mapError mailboxIo)
  let _ ← (insertTerminalResult (omissionRecord wait envelope child nowMs)).mapErr mailboxIo
  return ()

def insertOmissions (wait : WorkerCoordinatorWaitV1) (nowMs : Int) (validSources : List String)
    (children : List WorkerJob)
    : MailboxIo Unit :=
  match children with
  | [] => return ()
  | child :: children => do
    if validSources.contains child.jobId then
      insertOmissions wait nowMs validSources children
    else
      insertOmission wait nowMs child
      insertOmissions wait nowMs validSources children

def ensureExpectedChildMailboxRecords (wait : WorkerCoordinatorWaitV1) (children : List WorkerJob)
    (nowMs : Int)
    : MailboxIo Unit := do
  let coordinatorKey ← Transaction.check (wait.owner.coordinatorKey.mapError mailboxIo)
  let validSources ← Transaction.query fun mailbox =>
    .ok (mailbox.validSources coordinatorKey wait.expectedChildJobIds)
  let invalidMailboxIds ← Transaction.query fun mailbox =>
    .ok (mailbox.invalidMailboxIds coordinatorKey)
  demoteRows nowMs invalidMailboxIds
  insertOmissions wait nowMs validSources children

end Coordinator
