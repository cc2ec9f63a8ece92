import AgentHarness.ExternalEffect.Basic

/-!
The operations on external effects. Every change of an effect goes through `persistTransition`,
which appends one row to the log and replaces the snapshot. An operation is a function of the store
and of what it reads besides it: the clock, random bytes, the order of a directory listing.
-/

namespace ExternalEffect

variable (env : Env)

def loadExternalEffectIntent (store : Store) (effectId : String)
    : Except IoError (Option Intent) :=
  match store.latest.lookup effectId with
  | none => .ok none
  | some intent =>
    if env.snapshotBytes intent > maxEffectRecordBytes then
      .error {
        kind := .invalidData
        message := "external effect snapshot exceeds the bounded record limit" }
    else
      match validateIntent intent with
      | .error e => .error e
      | .ok () => .ok (some intent)

def transitionRow (fromState : Option EffectState) (intent : Intent) : Transition := {
  effectId := intent.effectId
  fromState
  toState := intent.state
  approvalGeneration := intent.approvalGeneration
  atMs := intent.updatedAtMs
  reason := intent.reason.getD ""
  resolutionId := intent.expiryResolutionId
  noticeId := intent.expiryNoticeId }

def Store.write (store : Store) (fromState : Option EffectState) (intent : Intent) : Store :=
  { store with
    transitions := store.transitions ++ [transitionRow fromState intent]
    latest := store.latest.insert intent.effectId intent
    keyed := keyed_insert intent store.keyed }

def persistTransition (store : Store) (fromState : Option EffectState) (intent : Intent)
    : Outcome Store Unit :=
  match validateIntent intent with
  | .error e => (store, .error e)
  | .ok () =>
    if env.transitionBytes (transitionRow fromState intent) > maxEffectRecordBytes then
      (store, .error {
        kind := .invalidData
        message := "external effect transition exceeds the bounded record limit" })
    else
      (store.write fromState intent, .ok ())

inductive ChannelActionError where
  | unsupportedSchema
  | invalidField (field : String)

def ChannelActionError.display (self : ChannelActionError) : String :=
  match self with
  | .unsupportedSchema => "unsupported channel action schema"
  | .invalidField field => s!"invalid channel action {field}"

def ChannelActionError.other (self : ChannelActionError) : IoError :=
  { kind := .other, message := self.display }

def validateBoundedText (value field : String) (maxBytes : Nat) : Except ChannelActionError Unit :=
  if Text.trim value = "" || value.utf8ByteSize > maxBytes || value.toList.any Text.isControl then
    .error (.invalidField field)
  else
    .ok ()

def validateEffectBinding (effectId : String) (approvalGeneration : Nat)
    : Except ChannelActionError Unit := do
  validateBoundedText effectId "effect ID" 160
  if approvalGeneration = 0 then
    throw (.invalidField "approval generation")

def validateSha256Digest (value field : String) : Except ChannelActionError Unit :=
  match Text.dropLead "sha256:" value with
  | none => .error (.invalidField field)
  | some hex =>
    if hex.utf8ByteSize ≠ 64 || !hex.toList.all Text.isLowerHexdigit then
      .error (.invalidField field)
    else
      .ok ()

def approvalBearerLead : String := "ahx1_"

def validateCallbackToken (value : String) : Except ChannelActionError Unit :=
  if (Text.dropLead approvalBearerLead value).isNone
      || value.utf8ByteSize > 128
      || value.utf8ByteSize ≤ approvalBearerLead.utf8ByteSize
      || !value.toList.all Text.isAsciiGraphic then
    .error (.invalidField "callback token")
  else
    .ok ()

def InboundAction.validate (self : InboundAction) : Except ChannelActionError Unit := do
  if self.schema ≠ channelInboundActionSchema then
    throw .unsupportedSchema
  validateBoundedText self.providerEventId "provider event ID" 192
  match self.providerMessageId with
  | none => pure ()
  | some providerMessageId => validateBoundedText providerMessageId "provider message ID" 192
  validateEffectBinding self.effectId self.approvalGeneration
  validateSha256Digest self.sourceSessionKeyDigest "source session key digest"
  validateSha256Digest self.sourceAuthorityDigest "source authority digest"
  validateCallbackToken self.callbackToken

def publicApprovalActionId (effectId : String) (approvalGeneration : Nat)
    (decision : ApprovalDecision)
    : Except ChannelActionError String :=
  match validateEffectBinding effectId approvalGeneration with
  | .error e => .error e
  | .ok () =>
    let canonical :=
      s!"channel-approval-action.v1\x00{effectId}\x00{approvalGeneration}\x00{decision.stableName}"
    let digest := sha256Hex env (Text.utf8Bytes canonical)
    .ok ("ahpa1_" ++ String.ofList (digest.toList.take 32))

def validatePublicApprovalActionId (publicActionId effectId : String) (approvalGeneration : Nat)
    (decision : ApprovalDecision)
    : Except ChannelActionError Unit :=
  match publicApprovalActionId env effectId approvalGeneration decision with
  | .error e => .error e
  | .ok expected =>
    if publicActionId ≠ expected || Text.contains publicActionId approvalBearerLead then
      .error (.invalidField "public action ID")
    else
      .ok ()

def validateExternalEffectPublicActionIndex (index : PublicActionIndex) : Except IoError Unit :=
  if index.schema ≠ externalEffectPublicActionIndexSchema then
    .error {
      kind := .invalidData
      message := "unsupported public approval action index schema" }
  else
    match validateEffectId index.effectId with
    | .error e => .error e
    | .ok () =>
      (validatePublicApprovalActionId env index.publicActionId index.effectId
        index.approvalGeneration index.decision).mapError ChannelActionError.other

def validatePublicActionIdShape (publicActionId : String) : Except IoError Unit :=
  match Text.dropLead "ahpa1_" publicActionId with
  | none =>
    .error {
      kind := .permissionDenied
      message := "unsupported public approval action reference" }
  | some suffix =>
    if suffix.utf8ByteSize ≠ 32 || !suffix.toList.all Text.isLowerHexdigit then
      .error {
        kind := .permissionDenied
        message := "malformed public approval action reference" }
    else
      .ok ()

def ensurePublicActionIndex (store : Store) (intent : Intent) (decision : ApprovalDecision)
    : Outcome Store Unit :=
  match publicApprovalActionId env intent.effectId intent.approvalGeneration decision with
  | .error e => (store, .error e.other)
  | .ok publicActionId =>
    let index : PublicActionIndex := {
      publicActionId
      effectId := intent.effectId
      approvalGeneration := intent.approvalGeneration
      decision }
    match validateExternalEffectPublicActionIndex env index with
    | .error e => (store, .error e)
    | .ok () =>
      match store.publicActions.lookup publicActionId with
      | some existing =>
        match validateExternalEffectPublicActionIndex env existing with
        | .error e => (store, .error e)
        | .ok () =>
          if existing ≠ index then
            (store, .error {
              kind := .invalidData
              message := "public approval action index collision" })
          else
            (store, .ok ())
      | none =>
        ({ store with publicActions := store.publicActions.insert publicActionId index }, .ok ())

def ensureExternalEffectPublicActionIndexes (store : Store) (intent : Intent)
    : Outcome Store Unit :=
  if intent.sourceSessionKeyDigest = ""
      || intent.approvalAuthorityDigest = ""
      || intent.state ≠ .approvalRequired then
    (store, .ok ())
  else
    (ensurePublicActionIndex env store intent .approve).andThen fun store () =>
      ensurePublicActionIndex env store intent .deny

inductive ConnectorApprovalMode where
  | deny
  | needsUser
  | explicitActionToken

structure ConnectorApprovalRule where
  connector : String
  actions : List String
  mode : ConnectorApprovalMode

structure ConnectorApprovalPolicy where
  default : ConnectorApprovalMode := .needsUser
  rules : List ConnectorApprovalRule := []

def ConnectorApprovalPolicy.modeFor (self : ConnectorApprovalPolicy) (connector action : String)
    : ConnectorApprovalMode :=
  let rule := self.rules.find? fun rule =>
    Text.eqIgnoreAsciiCase rule.connector connector
      && (rule.actions.isEmpty || rule.actions.any (Text.eqIgnoreAsciiCase · action))
  match rule with
  | some rule => rule.mode
  | none => self.default

def protectedConnectorAction (connector action summary : String) : Bool :=
  let text := Text.toAsciiLowercase s!"{connector} {action} {summary}"
  ["gateway restart", "gateway stop", "live cutover", "live rollback", "agent-harness restart",
    "agent harness restart"].any (Text.contains text ·)

structure RequestContext where
  exactLaneDigest : String
  logicalLineageId : String
  sourceQueueId : String
  sourceSessionKeyDigest : String
  approvalAuthorityDigest : String

structure ElicitationDescriptor where
  connector : String
  action : String
  paramsDigest : String
  actionSummary : String

inductive Admission where
  | authorized (intent : Intent)
  | needsUser (intent : Intent) (token : String)
  | denied (intent : Intent)
  | alreadyConfirmed (intent : Intent)
  | ambiguous (intent : Intent)

def effectIdOf (context : RequestContext) (descriptor : ElicitationDescriptor) : String :=
  let values := [context.exactLaneDigest, context.logicalLineageId, context.sourceQueueId,
    descriptor.connector, descriptor.action, descriptor.paramsDigest, "1"]
  sha256Hex env
    (values.flatMap fun value => Text.u64BeBytes value.utf8ByteSize ++ Text.utf8Bytes value)

def newApprovalToken (intent : Intent) (expiresAtMs : Int) (randomBytes : List UInt8)
    : ApprovalToken :=
  let token := "ahx1_" ++ Text.hex randomBytes
  { tokenDigest := sha256Tagged env (Text.utf8Bytes token)
    token
    effectId := intent.effectId
    exactLaneDigest := intent.exactLaneDigest
    paramsDigest := intent.paramsDigest
    sourceSessionKeyDigest := intent.sourceSessionKeyDigest
    approvalAuthorityDigest := intent.approvalAuthorityDigest
    approvalGeneration := intent.approvalGeneration
    expiresAtMs
    consumedAtMs := none }

/-
The clock readings of one request, in the order in which they are taken, and the bytes a new token
is made of.
-/
structure RequestInputs where
  requestedAtMs : Int
  advancedAtMs : Int
  updatedAtMs : Int
  randomBytes : List UInt8

def policyDeniedIntent (intent : Intent) (inputs : RequestInputs) : Intent :=
  { intent with
    state := .denied
    updatedAtMs := inputs.updatedAtMs
    reason := some "connector approval policy denied the action" }

def approvalRequiredIntent (intent : Intent) (token : ApprovalToken) (inputs : RequestInputs)
    : Intent :=
  { intent with
    approvalToken := some token
    state := .approvalRequired
    updatedAtMs := inputs.updatedAtMs
    reason := some "explicit lane-bound user approval is required" }

def advanceRequestedExternalEffect (store : Store) (intent : Intent)
    (policy : ConnectorApprovalPolicy) (inputs : RequestInputs)
    : Outcome Store Admission :=
  if intent.state ≠ .requested then
    (store, .error {
      kind := .invalidInput
      message := "only a requested external effect can advance through approval policy" })
  else
    let mode :=
      if protectedConnectorAction intent.connector intent.action intent.actionSummary then
        .deny
      else
        policy.modeFor intent.connector intent.action
    match mode with
    | .deny =>
      let denied := policyDeniedIntent intent inputs
      (persistTransition env store (some .requested) denied).andThen fun store () =>
        (store, .ok (.denied denied))
    | .needsUser | .explicitActionToken =>
      let token := newApprovalToken env intent (inputs.advancedAtMs + defaultApprovalTokenTtlMs)
        inputs.randomBytes
      let required := approvalRequiredIntent intent token inputs
      (persistTransition env store (some .requested) required).andThen fun store () =>
        (ensureExternalEffectPublicActionIndexes env store required).andThen fun store () =>
          (store, .ok (.needsUser required token.token))

def replayExternalEffectRequest (store : Store) (latest : Intent)
    (policy : ConnectorApprovalPolicy) (inputs : RequestInputs)
    : Outcome Store Admission :=
  match latest.state with
  | .approved => (store, .ok (.authorized latest))
  | .requested => advanceRequestedExternalEffect env store latest policy inputs
  | .approvalRequired =>
    (ensureExternalEffectPublicActionIndexes env store latest).andThen fun store () =>
      match latest.approvalToken with
      | none =>
        (store, .error {
          kind := .invalidData
          message := "approval-required effect is missing its action token" })
      | some token => (store, .ok (.needsUser latest token.token))
  | .denied => (store, .ok (.denied latest))
  | .confirmed => (store, .ok (.alreadyConfirmed latest))
  | .submitted | .ambiguous => (store, .ok (.ambiguous latest))

def validateRequest (context : RequestContext) (descriptor : ElicitationDescriptor)
    : Except IoError Unit := do
  validateDigest context.exactLaneDigest "exact lane digest"
  validateDigest context.sourceSessionKeyDigest "source session key digest"
  validateDigest context.approvalAuthorityDigest "approval authority digest"
  validateDigest descriptor.paramsDigest "parameter digest"

def requestedIntent (context : RequestContext) (descriptor : ElicitationDescriptor) (now : Int)
    : Intent := {
  effectId := effectIdOf env context descriptor
  exactLaneDigest := context.exactLaneDigest
  logicalLineageId := sanitizeBounded context.logicalLineageId 160 "logical-lineage"
  sourceQueueId := sanitizeBounded context.sourceQueueId 160 "source-queue"
  sourceSessionKeyDigest := context.sourceSessionKeyDigest
  approvalAuthorityDigest := context.approvalAuthorityDigest
  connector := descriptor.connector
  action := descriptor.action
  paramsDigest := descriptor.paramsDigest
  approvalGeneration := 1
  state := .requested
  actionSummary := descriptor.actionSummary
  approvalToken := none
  requestedAtMs := now
  updatedAtMs := now
  reason := some "MCP elicitation observed before any protocol response"
  expiryResolutionId := none
  expiryNoticeId := none }

def beginExternalEffectRequest (store : Store) (context : RequestContext)
    (descriptor : ElicitationDescriptor) (policy : ConnectorApprovalPolicy) (inputs : RequestInputs)
    : Outcome Store Admission :=
  match validateRequest context descriptor with
  | .error e => (store, .error e)
  | .ok () =>
    match loadExternalEffectIntent env store (effectIdOf env context descriptor) with
    | .error e => (store, .error e)
    | .ok (some latest) =>
      if latest.sourceSessionKeyDigest ≠ ""
          && (latest.sourceSessionKeyDigest ≠ context.sourceSessionKeyDigest
            || latest.approvalAuthorityDigest ≠ context.approvalAuthorityDigest) then
        (store, .error {
          kind := .permissionDenied
          message := "existing external effect belongs to another approval authority" })
      else
        replayExternalEffectRequest env store latest policy inputs
    | .ok none =>
      let intent := requestedIntent env context descriptor inputs.requestedAtMs
      (persistTransition env store none intent).andThen fun store () =>
        advanceRequestedExternalEffect env store intent policy inputs

def expiryResolutionIdentities (intent : Intent) : String × String :=
  let canonical :=
    s!"external-effect-approval-expiry.v1\x00{intent.effectId}\x00{intent.approvalGeneration}"
  let digest := sha256Hex env (Text.utf8Bytes canonical)
  ("ahex1_" ++ digest, "ahen1_" ++ digest)

def expireIntent (intent : Intent) (token : ApprovalToken) (now : Int) : Intent :=
  let ids := expiryResolutionIdentities env intent
  { intent with
    approvalToken := some { token with consumedAtMs := some now }
    state := .denied
    updatedAtMs := now
    reason := some "connector approval token expired and was fenced"
    expiryResolutionId := some ids.1
    expiryNoticeId := some ids.2 }

def consumeIntent (intent : Intent) (token : ApprovalToken) (decision : ApprovalDecision)
    (now : Int)
    : Intent :=
  { intent with
    approvalToken := some { token with consumedAtMs := some now }
    state := decision.state
    updatedAtMs := now
    reason := some (match decision with
      | .approve => "explicit action token approved once"
      | .deny => "explicit action token denied and fenced") }

/-
What a resolution does with the intent it has loaded: the snapshot it persists, if any, and what it
returns once that is done.
-/
structure Resolution where
  persist : Option Intent
  result : Except IoError Intent

def Resolution.reject (kind : ErrorKind) (message : String) : Resolution :=
  { persist := none, result := .error { kind, message } }

def tokenExpired : IoError :=
  { kind := .timedOut, message := "connector approval token has expired" }

def nativeActionMismatch (intent : Intent) (action : InboundAction) : Bool :=
  action.effectId ≠ intent.effectId
    || action.approvalGeneration ≠ intent.approvalGeneration
    || intent.sourceSessionKeyDigest = ""
    || intent.approvalAuthorityDigest = ""
    || action.sourceSessionKeyDigest ≠ intent.sourceSessionKeyDigest
    || action.sourceAuthorityDigest ≠ intent.approvalAuthorityDigest

def tokenBindingMismatch (intent : Intent) (approvalToken : ApprovalToken) (tokenDigest : String)
    : Bool :=
  approvalToken.schema ≠ connectorApprovalTokenSchema
    || approvalToken.tokenDigest ≠ tokenDigest
    || approvalToken.effectId ≠ intent.effectId
    || approvalToken.exactLaneDigest ≠ intent.exactLaneDigest
    || approvalToken.paramsDigest ≠ intent.paramsDigest
    || approvalToken.approvalGeneration ≠ intent.approvalGeneration

def nativeTokenUnbound (intent : Intent) (approvalToken : ApprovalToken) : Bool :=
  approvalToken.sourceSessionKeyDigest = ""
    || approvalToken.approvalAuthorityDigest = ""
    || approvalToken.sourceSessionKeyDigest ≠ intent.sourceSessionKeyDigest
    || approvalToken.approvalAuthorityDigest ≠ intent.approvalAuthorityDigest

def resolveBoundToken (intent : Intent) (approvalToken : ApprovalToken)
    (decision : ApprovalDecision) (now : Int)
    : Resolution :=
  if intent.expiryResolutionId.isSome then
    { persist := none, result := .error tokenExpired }
  else if approvalToken.expiresAtMs ≤ now then
    -- the expiry is written for a pending approval only, and reported in every state
    if intent.state = .approvalRequired then
      { persist := some (expireIntent env intent approvalToken now)
        result := .error tokenExpired }
    else
      { persist := none, result := .error tokenExpired }
  else if approvalToken.consumedAtMs.isSome then
    if intent.state = decision.state then
      { persist := none, result := .ok intent }
    else
      .reject .alreadyExists
        "connector approval token was already consumed for another disposition"
  else if intent.state ≠ .approvalRequired then
    .reject .alreadyExists "connector approval token has been fenced by a later effect state"
  else
    let next := consumeIntent intent approvalToken decision now
    { persist := some next, result := .ok next }

def resolveIntent (intent : Intent) (token exactLaneDigest : String) (decision : ApprovalDecision)
    (nativeAction : Option InboundAction) (now : Int)
    : Resolution :=
  let tokenDigest := sha256Tagged env (Text.utf8Bytes token)
  if intent.exactLaneDigest ≠ exactLaneDigest then
    .reject .permissionDenied "connector approval token belongs to another exact lane"
  else if nativeAction.any (nativeActionMismatch intent) then
    .reject .permissionDenied
      "channel approval action authority binding does not match the effect"
  else
    match intent.approvalToken with
    | none => .reject .invalidData "effect approval token is missing"
    | some approvalToken =>
      if tokenBindingMismatch intent approvalToken tokenDigest then
        .reject .permissionDenied "connector approval token binding does not match the effect"
      else if nativeAction.isSome && nativeTokenUnbound intent approvalToken then
        .reject .permissionDenied "native approval token is missing its full authority binding"
      else
        resolveBoundToken env intent approvalToken decision now

def resolveExternalEffectApprovalLocked (store : Store) (intent : Intent)
    (token exactLaneDigest : String) (decision : ApprovalDecision)
    (nativeAction : Option InboundAction) (now : Int)
    : Outcome Store Intent :=
  let resolution := resolveIntent env intent token exactLaneDigest decision nativeAction now
  match resolution.persist with
  | none => (store, resolution.result)
  | some next =>
    (persistTransition env store (some intent.state) next).andThen fun store () =>
      (store, resolution.result)

/-
The readable snapshots in the order of the directory listing.
-/
def boundedSnapshots (store : Store) (order : HashOrder String) : List Intent :=
  ((order.keys store.latest.keys).filterMap store.latest.lookup).filter
    fun intent => env.snapshotBytes intent ≤ maxEffectRecordBytes

def findExternalEffectByToken (store : Store) (tokenDigest : String) (order : HashOrder String)
    : Option Intent :=
  (boundedSnapshots env store order).find? fun intent =>
    intent.approvalToken.any (fun token => token.tokenDigest = tokenDigest)

def resolveExternalEffectApproval (store : Store) (token exactLaneDigest : String)
    (decision : ApprovalDecision) (now : Int) (order : HashOrder String)
    : Outcome Store Intent :=
  match validateDigest exactLaneDigest "exact lane digest" with
  | .error e => (store, .error e)
  | .ok () =>
    let tokenDigest := sha256Tagged env (Text.utf8Bytes token)
    match findExternalEffectByToken env store tokenDigest order with
    | none =>
      (store, .error { kind := .notFound, message := "connector approval token was not found" })
    | some intent =>
      resolveExternalEffectApprovalLocked env store intent token exactLaneDigest decision none now

def channelEffectNotFound : IoError :=
  { kind := .notFound, message := "channel approval action effect was not found" }

def resolveExternalEffectChannelAction (store : Store) (action : InboundAction)
    (exactLaneDigest : String) (now : Int)
    : Outcome Store Intent :=
  match action.validate with
  | .error e =>
    (store, .error {
      kind := .permissionDenied
      message := s!"invalid channel approval action: {e.display}" })
  | .ok () =>
    match validateDigest exactLaneDigest "exact lane digest" with
    | .error e => (store, .error e)
    | .ok () =>
      match loadExternalEffectIntent env store action.effectId with
      | .error e => (store, .error e)
      | .ok none => (store, .error channelEffectNotFound)
      | .ok (some intent) =>
        resolveExternalEffectApprovalLocked env store intent action.callbackToken exactLaneDigest
          action.decision (some action) now

structure PublicActionRequest where
  providerEventId : String
  providerMessageId : Option String
  publicActionId : String
  exactLaneDigest : String
  sourceSessionKeyDigest : String
  expectedDecision : Option ApprovalDecision

def publicActionIndex (store : Store) (request : PublicActionRequest)
    : Except IoError PublicActionIndex := do
  validatePublicActionIdShape request.publicActionId
  validateDigest request.exactLaneDigest "exact lane digest"
  validateDigest request.sourceSessionKeyDigest "source session key digest"
  match store.publicActions.lookup request.publicActionId with
  | none =>
    throw { kind := .notFound, message := "channel approval action reference was not found" }
  | some index =>
    if env.indexBytes index > maxEffectRecordBytes then
      throw { kind := .invalidData, message := "channel approval action index is unbounded" }
    validateExternalEffectPublicActionIndex env index
    if index.publicActionId ≠ request.publicActionId then
      throw {
        kind := .permissionDenied
        message := "channel approval action index does not match the requested reference" }
    if request.expectedDecision.any (fun expected => expected ≠ index.decision) then
      throw {
        kind := .permissionDenied
        message := "public approval action decision does not match the requested command" }
    return index

def publicActionInput (store : Store) (request : PublicActionRequest)
    : Except IoError InboundAction := do
  let index ← publicActionIndex env store request
  match ← loadExternalEffectIntent env store index.effectId with
  | none => throw channelEffectNotFound
  | some intent =>
    if intent.approvalGeneration ≠ index.approvalGeneration
        || intent.exactLaneDigest ≠ request.exactLaneDigest
        || intent.sourceSessionKeyDigest ≠ request.sourceSessionKeyDigest
        || intent.approvalAuthorityDigest = "" then
      throw {
        kind := .permissionDenied
        message := "channel approval action authority changed after prompt creation" }
    match (intent.approvalToken.map ApprovalToken.token).filter (· ≠ "") with
    | none =>
      throw {
        kind := .permissionDenied
        message := "channel approval action has no protected bearer binding" }
    | some rawToken =>
      let action : InboundAction := {
        providerEventId := request.providerEventId
        providerMessageId := request.providerMessageId
        effectId := index.effectId
        approvalGeneration := index.approvalGeneration
        decision := index.decision
        sourceSessionKeyDigest := request.sourceSessionKeyDigest
        sourceAuthorityDigest := intent.approvalAuthorityDigest
        callbackToken := rawToken }
      match action.validate with
      | .error e => throw { kind := .permissionDenied, message := e.display }
      | .ok () => return action

def resolveExternalEffectPublicChannelAction (store : Store) (request : PublicActionRequest)
    (now : Int)
    : Outcome Store Intent :=
  match publicActionInput env store request with
  | .error e => (store, .error e)
  | .ok action => resolveExternalEffectChannelAction env store action request.exactLaneDigest now

structure ExpiryRequest where
  nowMs : Int
  maxRows : Nat
  afterEffectId : Option String

structure ExpiryResolution where
  effectId : String
  approvalGeneration : Nat
  resolutionId : String
  noticeId : String
  newlyTransitioned : Bool

structure ExpiryReport where
  scannedRows : Nat
  resolutions : List ExpiryResolution
  nextAfterEffectId : Option String
  exhausted : Bool

def expiryCandidates (store : Store) (afterEffectId : Option String) : List String :=
  let effectIds := store.latest.keys.filter fun effectId =>
    (store.latest.lookup effectId).any (fun intent => env.snapshotBytes intent ≤ maxEffectRecordBytes)
      && (validateEffectId effectId).isOk
      && afterEffectId.all (fun cursor => cursor < effectId)
  effectIds.insertionSort Text.le

def expireEffect (store : Store) (now : Int) (effectId : String)
    : Outcome Store (Option ExpiryResolution) :=
  match loadExternalEffectIntent env store effectId with
  | .error e => (store, .error e)
  | .ok none => (store, .ok none)
  | .ok (some intent) =>
    if intent.state = .denied then
      match intent.expiryResolutionId, intent.expiryNoticeId with
      | some resolutionId, some noticeId =>
        (store, .ok (some {
          effectId := intent.effectId
          approvalGeneration := intent.approvalGeneration
          resolutionId
          noticeId
          newlyTransitioned := false }))
      | _, _ => (store, .ok none)
    else if intent.state ≠ .approvalRequired then
      (store, .ok none)
    else
      match intent.approvalToken with
      | none =>
        (store, .error {
          kind := .invalidData
          message := "approval-required effect is missing its action token" })
      | some token =>
        if token.expiresAtMs > now then
          (store, .ok none)
        else
          let ids := expiryResolutionIdentities env intent
          let expired := expireIntent env intent token now
          (persistTransition env store (some intent.state) expired).andThen fun store () =>
            (store, .ok (some {
              effectId := intent.effectId
              approvalGeneration := intent.approvalGeneration
              resolutionId := ids.1
              noticeId := ids.2
              newlyTransitioned := true }))

def expireEffects (store : Store) (now : Int) (effectIds : List String)
    : Outcome Store (List ExpiryResolution) :=
  match effectIds with
  | [] => (store, .ok [])
  | effectId :: rest =>
    (expireEffect env store now effectId).andThen fun store resolution =>
      (expireEffects store now rest).andThen fun store resolutions =>
        (store, .ok (resolution.toList ++ resolutions))

def reconcileExpiredExternalEffectApprovals (store : Store) (request : ExpiryRequest)
    : Outcome Store ExpiryReport :=
  if request.nowMs < 0 || request.maxRows = 0
      || request.maxRows > maxExternalEffectExpiryScanRows then
    (store, .error {
      kind := .invalidInput
      message := "external effect expiry scan request is outside its bounded policy" })
  else
    match request.afterEffectId.elim (.ok ()) validateEffectId with
    | .error e => (store, .error e)
    | .ok () =>
      let candidates := expiryCandidates env store request.afterEffectId
      let exhausted := decide (candidates.length ≤ request.maxRows)
      let effectIds := candidates.take request.maxRows
      (expireEffects env store request.nowMs effectIds).andThen fun store resolutions =>
        (store, .ok {
          scannedRows := effectIds.length
          resolutions
          nextAfterEffectId := if exhausted then none else effectIds.getLast?
          exhausted })

/-
What a fence does with one snapshot it has read: nothing, or the denial it persists.
-/
def fenceIntent (intent : Intent) (exactLaneDigest reason : String) (now : Int) : Option Intent :=
  if intent.exactLaneDigest ≠ exactLaneDigest
      || !(intent.state = .approvalRequired || intent.state = .approved) then
    none
  else
    some {
      intent with
      approvalToken := intent.approvalToken.map fun token => { token with consumedAtMs := some now }
      state := .denied
      updatedAtMs := now
      reason := some (sanitizeBounded reason maxSummaryBytes "fenced") }

def fenceEffects (store : Store) (exactLaneDigest reason : String) (now : Int)
    (effectIds : List String)
    : Outcome Store (List Intent) :=
  match effectIds with
  | [] => (store, .ok [])
  | effectId :: rest =>
    let snapshot := (store.latest.lookup effectId).filter fun intent =>
      env.snapshotBytes intent ≤ maxEffectRecordBytes
    match snapshot with
    | none => fenceEffects store exactLaneDigest reason now rest
    | some intent =>
      match fenceIntent intent exactLaneDigest reason now with
      | none => fenceEffects store exactLaneDigest reason now rest
      | some next =>
        (persistTransition env store (some intent.state) next).andThen fun store () =>
          (fenceEffects store exactLaneDigest reason now rest).andThen fun store fenced =>
            (store, .ok (next :: fenced))

def fenceExternalEffectsForLane (store : Store) (exactLaneDigest reason : String) (now : Int)
    (order : HashOrder String)
    : Outcome Store (List Intent) :=
  match validateDigest exactLaneDigest "exact lane digest" with
  | .error e => (store, .error e)
  | .ok () => fenceEffects env store exactLaneDigest reason now (order.keys store.latest.keys)

def effectNotFound : IoError :=
  { kind := .notFound, message := "external effect intent was not found" }

def movedIntent (intent : Intent) (next : EffectState) (reason : String) (now : Int) : Intent :=
  { intent with
    state := next
    updatedAtMs := now
    reason := some (sanitizeBounded reason 240 "effect-transition") }

def transitionExternalEffect (store : Store) (effectId : String) (next : EffectState)
    (reason : String) (now : Int)
    : Outcome Store Intent :=
  match loadExternalEffectIntent env store effectId with
  | .error e => (store, .error e)
  | .ok none => (store, .error effectNotFound)
  | .ok (some intent) =>
    if intent.state = next then
      (store, .ok intent)
    else if !validTransition intent.state next then
      (store, .error {
        kind := .invalidInput
        message := s!"invalid external effect transition {intent.state.debug} -> {next.debug}" })
    else
      let moved := movedIntent intent next reason now
      (persistTransition env store (some intent.state) moved).andThen fun store () =>
        (store, .ok moved)

inductive Readback where
  | present
  | absent
  | unprovable

def Readback.target (self : Readback) : EffectState :=
  match self with
  | .present => .confirmed
  | .absent => .approved
  | .unprovable => .ambiguous

def Readback.reason (self : Readback) : String :=
  match self with
  | .present => "connector readback confirmed the stable external effect"
  | .absent => "connector readback proved absence; one bounded resubmission is authorized"
  | .unprovable =>
    "connector readback could not prove presence or absence; user authority is required"

def reconcileExternalEffect (store : Store) (effectId : String)
    (readback : Intent → Except IoError Readback) (now : Int)
    : Outcome Store Intent :=
  match loadExternalEffectIntent env store effectId with
  | .error e => (store, .error e)
  | .ok none => (store, .error effectNotFound)
  | .ok (some intent) =>
    if !(intent.state = .submitted || intent.state = .ambiguous) then
      (store, .ok intent)
    else
      match readback intent with
      | .error e => (store, .error e)
      | .ok evidence =>
        transitionExternalEffect env store effectId evidence.target evidence.reason now

inductive Call where
  | begin (context : RequestContext) (descriptor : ElicitationDescriptor)
      (policy : ConnectorApprovalPolicy) (inputs : RequestInputs)
  | resolveApproval (token exactLaneDigest : String) (decision : ApprovalDecision) (now : Int)
      (order : HashOrder String)
  | channelAction (action : InboundAction) (exactLaneDigest : String) (now : Int)
  | publicAction (request : PublicActionRequest) (now : Int)
  | expiryScan (request : ExpiryRequest)
  | fence (exactLaneDigest reason : String) (now : Int) (order : HashOrder String)
  | transition (effectId : String) (next : EffectState) (reason : String) (now : Int)
  | reconcile (effectId : String) (readback : Intent → Except IoError Readback) (now : Int)

def Store.perform (store : Store) (call : Call) : Store :=
  match call with
  | .begin context descriptor policy inputs =>
    (beginExternalEffectRequest env store context descriptor policy inputs).1
  | .resolveApproval token exactLaneDigest decision now order =>
    (resolveExternalEffectApproval env store token exactLaneDigest decision now order).1
  | .channelAction action exactLaneDigest now =>
    (resolveExternalEffectChannelAction env store action exactLaneDigest now).1
  | .publicAction request now =>
    (resolveExternalEffectPublicChannelAction env store request now).1
  | .expiryScan request => (reconcileExpiredExternalEffectApprovals env store request).1
  | .fence exactLaneDigest reason now order =>
    (fenceExternalEffectsForLane env store exactLaneDigest reason now order).1
  | .transition effectId next reason now =>
    (transitionExternalEffect env store effectId next reason now).1
  | .reconcile effectId readback now =>
    (reconcileExternalEffect env store effectId readback now).1

end ExternalEffect
