import AgentHarness.ChannelSessionKey

/-!
The progress events of the runtime, one a line of `progress-events.jsonl`, and what makes one terminal.
-/

namespace AgentProgress

inductive AgentProgressKind where
  | runtime
  | skillView
  | todo
  | terminal
  | searchFiles
  | readFile
  | executeCode
  | toolCall
  | assistantStream
  | assistantNarration
  | memoryRecall
  | delivery
  deriving DecidableEq

inductive AgentProgressStatus where
  | started
  | progress
  | completed
  | failed
  deriving DecidableEq

inductive AgentProgressLifecycle where
  | queued
  | preparing
  | working
  | continuing
  | waitingForApproval
  deriving DecidableEq

structure AgentProgressEvent where
  schema : String
  eventId : Option String
  atMs : Int
  queueId : String
  agentId : Option String
  accountId : Option String
  threadId : Option String
  sessionKey : String
  platform : String
  channelId : String
  userId : String
  kind : AgentProgressKind
  label : String
  preview : String
  status : AgentProgressStatus
  lifecycle : Option AgentProgressLifecycle
  elapsedMs : Option Nat
  source : Option String
  deriving DecidableEq

def agentProgressEventSchema : String := "agent-harness.progress-event.v2"

def isTerminalEvent (event : AgentProgressEvent) : Bool :=
  event.kind = .runtime && (event.status = .completed || event.status = .failed)

def progressEventIsTerminal (event : AgentProgressEvent) : Bool :=
  event.status = .completed || event.status = .failed

def validProgressEventId (value : Option String) : Option String :=
  value.bind fun value =>
    let value := Text.trim value
    let bytes := Text.utf8Bytes value
    let plain ch := ChannelSessionKey.isAsciiAlphanumeric ch || ch = '-' || ch = '_'
    if 16 ≤ bytes.length && bytes.length ≤ 160 && value.toList.all plain then
      some value
    else
      none

-- the JSON library, as far as the progress files need it
structure ProgressJson where
  -- `serde_json::from_str::<AgentProgressEvent>`
  event : String → Except String AgentProgressEvent

end AgentProgress
