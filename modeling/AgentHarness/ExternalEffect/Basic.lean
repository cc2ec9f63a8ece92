import AgentHarness.Lib.Io
import AgentHarness.Lib.Map
import AgentHarness.Lib.Sha256
import AgentHarness.Lib.Text

/-!
The records of the external effects of a harness home: the intent that is kept as the latest
snapshot of an effect, the rows of the transition log and the index of public approval actions,
with the checks that guard them.
-/

namespace ExternalEffect

def externalEffectIntentSchema : String := "agent-harness.external-effect-intent.v1"
def externalEffectTransitionSchema : String := "agent-harness.external-effect-transition.v1"
def connectorApprovalTokenSchema : String := "agent-harness.connector-approval-token.v1"
def externalEffectPublicActionIndexSchema : String :=
  "agent-harness.external-effect-public-action-index.v1"
def channelInboundActionSchema : String := "agent-harness.channel-inbound-action.v1"

def defaultApprovalTokenTtlMs : Int := 15 * 60 * 1000
def maxConnectorBytes : Nat := 96
def maxActionBytes : Nat := 160
def maxSummaryBytes : Nat := 240
def maxEffectRecordBytes : Nat := 32 * 1024
def maxExternalEffectExpiryScanRows : Nat := 256

inductive EffectState where
  | requested
  | approvalRequired
  | approved
  | denied
  | submitted
  | confirmed
  | ambiguous
  deriving DecidableEq

namespace EffectState

def debug (self : EffectState) : String :=
  match self with
  | .requested => "Requested"
  | .approvalRequired => "ApprovalRequired"
  | .approved => "Approved"
  | .denied => "Denied"
  | .submitted => "Submitted"
  | .confirmed => "Confirmed"
  | .ambiguous => "Ambiguous"

end EffectState

def validTransition (source target : EffectState) : Bool :=
  match source, target with
  | .requested, .approvalRequired => true
  | .requested, .denied => true
  | .approvalRequired, .approved => true
  | .approvalRequired, .denied => true
  | .approved, .denied => true
  | .approved, .submitted => true
  | .submitted, .confirmed => true
  | .submitted, .ambiguous => true
  | .submitted, .approved => true
  | .ambiguous, .approved => true
  | .ambiguous, .confirmed => true
  | _, _ => false

structure ApprovalToken where
  schema : String := connectorApprovalTokenSchema
  token : String
  tokenDigest : String
  effectId : String
  exactLaneDigest : String
  paramsDigest : String
  sourceSessionKeyDigest : String
  approvalAuthorityDigest : String
  approvalGeneration : Nat
  expiresAtMs : Int
  consumedAtMs : Option Int

structure Intent where
  schema : String := externalEffectIntentSchema
  effectId : String
  exactLaneDigest : String
  logicalLineageId : String
  sourceQueueId : String
  sourceSessionKeyDigest : String
  approvalAuthorityDigest : String
  connector : String
  action : String
  paramsDigest : String
  approvalGeneration : Nat
  state : EffectState
  actionSummary : String
  approvalToken : Option ApprovalToken
  requestedAtMs : Int
  updatedAtMs : Int
  reason : Option String
  expiryResolutionId : Option String
  expiryNoticeId : Option String

structure Transition where
  schema : String := externalEffectTransitionSchema
  effectId : String
  fromState : Option EffectState
  toState : EffectState
  approvalGeneration : Nat
  atMs : Int
  reason : String
  resolutionId : Option String
  noticeId : Option String

inductive ApprovalDecision where
  | approve
  | deny
  deriving DecidableEq

namespace ApprovalDecision

def stableName (self : ApprovalDecision) : String :=
  match self with
  | .approve => "approve"
  | .deny => "deny"

def state (self : ApprovalDecision) : EffectState :=
  match self with
  | .approve => .approved
  | .deny => .denied

end ApprovalDecision

structure PublicActionIndex where
  schema : String := externalEffectPublicActionIndexSchema
  publicActionId : String
  effectId : String
  approvalGeneration : Nat
  decision : ApprovalDecision
  deriving DecidableEq

structure InboundAction where
  schema : String := channelInboundActionSchema
  providerEventId : String
  providerMessageId : Option String
  effectId : String
  approvalGeneration : Nat
  decision : ApprovalDecision
  sourceSessionKeyDigest : String
  sourceAuthorityDigest : String
  callbackToken : String

/-
`state/external-effects`: `latest` has one snapshot file for each effect, named by its id,
`transitions` is the log shared by all effects.
-/
structure Store where
  latest : FMap String Intent
  keyed : ∀ effectId intent, latest.lookup effectId = some intent → intent.effectId = effectId
  transitions : List Transition
  publicActions : FMap String PublicActionIndex

def Store.empty : Store where
  latest := ∅
  keyed := by simp
  transitions := []
  publicActions := ∅

theorem keyed_insert {latest : FMap String Intent} (intent : Intent)
    (h : ∀ effectId intent, latest.lookup effectId = some intent → intent.effectId = effectId)
    : ∀ effectId other, (latest.insert intent.effectId intent).lookup effectId = some other
        → other.effectId = effectId := by
  intro effectId other hother
  rw [FMap.lookup_insert_eq] at hother
  split at hother
  . next heq =>
    injection hother with hother
    rw [← hother, heq]
  . exact h effectId other hother

/-
What the module takes from its libraries: the SHA-256 of a byte string and the sizes of the
serialized records, which are compared with the bound on a record.
-/
structure Env where
  sha256 : List UInt8 → { digest : List UInt8 // digest.length = 32 }
  transitionBytes : Transition → Nat
  snapshotBytes : Intent → Nat
  indexBytes : PublicActionIndex → Nat

def Env.small : Env where
  sha256 bytes := ⟨Sha256.digest bytes, Sha256.length_digest bytes⟩
  transitionBytes _ := 512
  snapshotBytes _ := 2048
  indexBytes _ := 512

def sha256Hex (env : Env) (bytes : List UInt8) : String :=
  Text.hex (env.sha256 bytes).val

def sha256Tagged (env : Env) (bytes : List UInt8) : String :=
  "sha256:" ++ sha256Hex env bytes

def validateDigest (value label : String) : Except IoError Unit :=
  let hex := (Text.dropLead "sha256:" value).getD value
  if hex.utf8ByteSize ≠ 64 || !hex.toList.all Text.isAsciiHexdigit then
    .error { kind := .invalidInput, message := s!"{label} must be a SHA-256 digest" }
  else
    .ok ()

def validateEffectId (effectId : String) : Except IoError Unit :=
  if effectId.utf8ByteSize ≠ 64 || !effectId.toList.all Text.isLowerHexdigit then
    .error {
      kind := .invalidInput
      message := "external effect ID must be a lowercase SHA-256 digest" }
  else
    .ok ()

def validateBoundedIdentifier (value label : String) (max : Nat) : Except IoError Unit :=
  if Text.trim value ≠ value || value = "" || value.utf8ByteSize > max
      || value.toList.any Text.isControl then
    .error {
      kind := .invalidInput
      message := s!"{label} is empty, unbounded, or not normalized" }
  else
    .ok ()

def validateLegacyCompatibleAuthorityBinding
    (sourceSessionKeyDigest approvalAuthorityDigest : String)
    : Except IoError Unit :=
  if sourceSessionKeyDigest = "" && approvalAuthorityDigest = "" then
    .ok ()
  else if sourceSessionKeyDigest = "" || approvalAuthorityDigest = "" then
    .error {
      kind := .invalidData
      message := "external effect approval authority binding is partial" }
  else
    match validateDigest sourceSessionKeyDigest "source session key digest" with
    | .error e => .error e
    | .ok () => validateDigest approvalAuthorityDigest "approval authority digest"

def sanitizeBounded (value : String) (max : Nat) (fallback : String) : String :=
  let spaced := Text.mapChars (fun ch => if Text.isControl ch then ' ' else ch) value
  let flattened := Text.joinSpace (Text.splitWhitespace spaced)
  if flattened = [] then fallback else String.ofList (flattened.take max)

def validateApprovalToken (intent : Intent) (token : ApprovalToken) : Except IoError Unit := do
  if token.schema ≠ connectorApprovalTokenSchema
      || token.effectId ≠ intent.effectId
      || token.exactLaneDigest ≠ intent.exactLaneDigest
      || token.paramsDigest ≠ intent.paramsDigest
      || token.approvalGeneration ≠ intent.approvalGeneration then
    throw {
      kind := .invalidData
      message := "external effect approval token binding does not match its intent" }
  validateDigest token.tokenDigest "approval token digest"
  validateLegacyCompatibleAuthorityBinding token.sourceSessionKeyDigest
    token.approvalAuthorityDigest
  if (token.sourceSessionKeyDigest = "") ≠ (intent.sourceSessionKeyDigest = "")
      || (token.sourceSessionKeyDigest ≠ ""
        && (token.sourceSessionKeyDigest ≠ intent.sourceSessionKeyDigest
          || token.approvalAuthorityDigest ≠ intent.approvalAuthorityDigest)) then
    throw {
      kind := .invalidData
      message := "external effect approval authority binding is inconsistent" }

def validateIntent (intent : Intent) : Except IoError Unit := do
  if intent.schema ≠ externalEffectIntentSchema then
    throw { kind := .invalidData, message := "unsupported external effect intent schema" }
  if intent.effectId.utf8ByteSize ≠ 64 || !intent.effectId.toList.all Text.isAsciiHexdigit then
    throw { kind := .invalidData, message := "external effect id is not a SHA-256 hex digest" }
  validateDigest intent.exactLaneDigest "exact lane digest"
  validateDigest intent.paramsDigest "parameter digest"
  validateLegacyCompatibleAuthorityBinding intent.sourceSessionKeyDigest
    intent.approvalAuthorityDigest
  validateBoundedIdentifier intent.connector "connector" maxConnectorBytes
  if intent.action = "" || intent.action.utf8ByteSize > maxActionBytes then
    throw { kind := .invalidData, message := "external effect action is empty or unbounded" }
  if intent.actionSummary.utf8ByteSize > maxSummaryBytes then
    throw { kind := .invalidData, message := "external effect action summary is unbounded" }
  match intent.approvalToken with
  | none => return ()
  | some token => validateApprovalToken intent token

end ExternalEffect
