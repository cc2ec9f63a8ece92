import AgentHarness.AgentProgress.DeliveryState
import AgentHarness.AgentProgress.Render
import AgentHarness.RuntimeQueue.Prepare

/-!
The events that the planner shows in place of those of a queue that the runtime has ended.
-/

namespace AgentProgress

inductive RuntimeTerminalDispositionV1 where
  | logicalSuccess
  | logicalFailure
  | logicalCanceled
  | needsUser
  | continuationHandoff
  | terminalSuppression
  deriving DecidableEq

structure ProgressTerminalControlMatch where
  source : RuntimeQueue.TerminalControlSource
  reason : String
  terminalStatus : Option String := none
  terminalDisposition : Option RuntimeTerminalDispositionV1 := none
  sourceClosureKind : Option String := none
  sourceClosureReason : Option String := none

structure NeedsUserProgressPresentation where
  label : String
  lifecycle : Option AgentProgressLifecycle

def goalTransitionLabel (closureReason : Option String) : String :=
  let startsWith lead := closureReason.any (Text.startsWith lead)
  if startsWith "goal-transition-pause" then
    "goal-paused"
  else if startsWith "goal-transition-needs-authority" then
    "goal-needs-authority"
  else if startsWith "goal-transition-needs-operator-auth" then
    "goal-needs-operator-auth"
  else
    "goal-needs-user"

def classifyNeedsUserProgressPresentation (disposition : RuntimeTerminalDispositionV1)
    (sourceClosureKind sourceClosureReason : Option String)
    : Option NeedsUserProgressPresentation :=
  if disposition ≠ .needsUser then
    none
  else
    let closureKind := (sourceClosureKind.map Text.trim).filter (· ≠ "")
    let closureReason := (sourceClosureReason.map Text.trim).filter (· ≠ "")
    if closureKind = some "parked-observe" then
      some { label := "goal-parked-observe", lifecycle := none }
    else if closureKind = some "parked-policy-denied" then
      some { label := "goal-parked-policy", lifecycle := none }
    else if closureKind = some "terminal-goal-surface"
        || closureReason.any (Text.startsWith "goal-transition-") then
      some { label := goalTransitionLabel closureReason, lifecycle := none }
    else if closureKind.isSome || closureReason.isSome then
      some { label := "needs-user", lifecycle := none }
    else
      some { label := "waiting-for-approval", lifecycle := some .waitingForApproval }

namespace ProgressTerminalControlMatch

variable (control : ProgressTerminalControlMatch)

def disposition : RuntimeTerminalDispositionV1 :=
  control.terminalDisposition.getD <|
    match control.terminalStatus with
    | some "completed" => .logicalSuccess
    | some "failed-terminal" | some "dead-letter" | some "timeout" | some "protocol-error" =>
      .logicalFailure
    | some "canceled" => .logicalCanceled
    | _ => .terminalSuppression

def presentation : Option NeedsUserProgressPresentation :=
  classifyNeedsUserProgressPresentation control.disposition control.sourceClosureKind
    control.sourceClosureReason

def preview : String :=
  match control.disposition with
  | .continuationHandoff => "continuation admitted; logical task is still active"
  | .logicalCanceled => "canceled by terminal control"
  | .logicalFailure => control.reason
  | .logicalSuccess => "completed"
  | .needsUser =>
    if control.presentation.any (·.lifecycle.isNone) then
      control.sourceClosureReason.getD control.reason
    else
      "waiting for user or authority: " ++ control.reason
  | .terminalSuppression => "suppressed by terminal control: " ++ control.source.asStr

def shown : String × AgentProgressStatus × Option AgentProgressLifecycle :=
  match control.disposition with
  | .continuationHandoff => ("continuation-handoff", .completed, some .continuing)
  | .logicalFailure => ("run", .failed, none)
  | .logicalCanceled => ("canceled", .completed, none)
  | .logicalSuccess => ("run", .completed, none)
  | .needsUser =>
    ((control.presentation.map (·.label)).getD "", .progress,
      control.presentation.bind (·.lifecycle))
  | .terminalSuppression => ("terminal-suppression", .completed, none)

end ProgressTerminalControlMatch

-- an event of the planner on the surface of another one
def AgentProgressEvent.onSurface (event : AgentProgressEvent) (kind : AgentProgressKind)
    (label preview : String) (status : AgentProgressStatus)
    (lifecycle : Option AgentProgressLifecycle) (atMs : Int)
    : AgentProgressEvent where
  schema := agentProgressEventSchema
  eventId := none
  atMs
  queueId := event.queueId
  agentId := event.agentId
  accountId := event.accountId
  threadId := event.threadId
  sessionKey := event.sessionKey
  platform := event.platform
  channelId := event.channelId
  userId := event.userId
  kind
  label
  preview := sanitizeProgressPreview preview 512
  status
  lifecycle
  elapsedMs := none
  source := some "progress-delivery"

def terminalControlSuppressedProgressEvents (latest : StoredProgressEvent)
    (control : ProgressTerminalControlMatch) (nowMs : Int)
    : List StoredProgressEvent :=
  let (label, status, lifecycle) := control.shown
  [{ lineNumber := latest.lineNumber
     event := latest.event.onSurface .terminal "terminal-control" control.preview .progress none nowMs },
   { lineNumber := latest.lineNumber + 1
     event := latest.event.onSurface .runtime label control.preview status lifecycle nowMs }]

end AgentProgress
