import AgentHarness.Lane
import AgentHarness.Lib.Io

/-!
The session keys of channels: a root, the account binding of the exact lane and the index of a
continuation, parsed from and printed to one string.
-/

namespace ChannelSessionKey

inductive SessionKeyNormalization where
  | alreadyCanonical
  | accountBindingInserted
  | legacyDuplicateAccountCollapsed

inductive SessionKeyError where
  | emptyRoot
  | invalidContinuation
  | missingExpectedAccount
  | mismatchedAccount
  | ambiguousDuplicateAccount
  deriving DecidableEq

def SessionKeyError.message (self : SessionKeyError) : String :=
  match self with
  | .emptyRoot => "channel session key has an empty root"
  | .invalidContinuation => "channel session key has an invalid continuation suffix"
  | .missingExpectedAccount => "channel session key is missing its exact-lane account binding"
  | .mismatchedAccount => "channel session key contains a different exact-lane account binding"
  | .ambiguousDuplicateAccount =>
    "channel session key contains ambiguous duplicate account bindings"

structure CanonicalChannelSessionKey where
  root : String
  accountBinding : String
  continuationIndex : Nat
  normalization : SessionKeyNormalization

def isAsciiAlphanumeric (ch : Char) : Bool :=
  ch.isDigit || ('a' ≤ ch && ch ≤ 'z') || ('A' ≤ ch && ch ≤ 'Z')

def normalizeKeyPart (value : String) : String :=
  let normalized := Text.mapChars (fun ch =>
    if isAsciiAlphanumeric ch || ch = '-' || ch = '_' || ch = '.' then ch.toLower else '_') value
  if normalized = "" then "unknown" else normalized

def expectedAccountBinding (platform accountId channelId userId agentId : String) : String :=
  let fallback := "acct-" ++ normalizeKeyPart accountId
  match Lane.FullLaneKeyV1.new platform accountId channelId userId agentId "interactive"
    "channel-session" "channel-session" with
  | .error _ => fallback
  | .ok lane =>
    match lane.identityHash with
    | .error _ => fallback
    | .ok identityHash => "acct-" ++ identityHash

def containsAccountBinding (value : String) : Bool :=
  (Text.splitOn ':' value).any (Text.startsWith "acct-")

def validateRaw (value : String) : Except SessionKeyError String :=
  if value = "" || Text.trim value ≠ value || value.toList.any Text.isControl then
    .error .emptyRoot
  else
    .ok value

def validateRoot (root : String) : Except SessionKeyError Unit :=
  if root = "" then .error .emptyRoot else .ok ()

def parseTerminalContinuation (value : String) : Except SessionKeyError (String × Nat) :=
  match Text.rsplitOnce ":cont-" value with
  | none => .ok (value, 0)
  | some (root, suffix) =>
    if root = "" || suffix = "" || !suffix.toList.all Char.isDigit then
      .error .invalidContinuation
    else
      let continuationIndex := Text.digitsValue suffix.toList
      if continuationIndex > u64Max || continuationIndex = 0 then
        .error .invalidContinuation
      else
        .ok (root, continuationIndex)

def parseStructural (rawSessionKey : String) : Except SessionKeyError (String × Nat) :=
  match validateRaw rawSessionKey with
  | .error e => .error e
  | .ok raw => parseTerminalContinuation raw

-- `root:acct-x:cont-n:acct-x`, which older writers produced
def duplicateAccount (raw expectedSegment : String) : Option (String × Nat) :=
  match Text.dropTail expectedSegment raw with
  | none => none
  | some withoutDuplicate =>
    match parseTerminalContinuation withoutDuplicate with
    | .error _ => none
    | .ok (boundRoot, continuationIndex) =>
      if continuationIndex > 0 then
        (Text.dropTail expectedSegment boundRoot).map fun root => (root, continuationIndex)
      else
        none

def boundKey (root expected : String) (continuationIndex : Nat)
    (normalization : SessionKeyNormalization)
    : Except SessionKeyError CanonicalChannelSessionKey :=
  match validateRoot root with
  | .error e => .error e
  | .ok () =>
    if containsAccountBinding root then
      .error .ambiguousDuplicateAccount
    else
      .ok { root, accountBinding := expected, continuationIndex, normalization }

def foreignTail (raw expected : String) : Bool :=
  match Text.rsplitOnce ":acct-" raw with
  | none => false
  | some (lead, tailAccount) =>
    Text.contains lead ":cont-" && "acct-" ++ tailAccount ≠ expected

def parseBound (rawSessionKey expected : String)
    : Except SessionKeyError CanonicalChannelSessionKey :=
  match validateRaw rawSessionKey with
  | .error e => .error e
  | .ok raw =>
    let expectedSegment := ":" ++ expected
    match duplicateAccount raw expectedSegment with
    | some (root, continuationIndex) =>
      boundKey root expected continuationIndex .legacyDuplicateAccountCollapsed
    | none =>
      if foreignTail raw expected then
        .error .mismatchedAccount
      else
        match parseTerminalContinuation raw with
        | .error e => .error e
        | .ok (boundRoot, continuationIndex) =>
          match Text.dropTail expectedSegment boundRoot with
          | none =>
            if containsAccountBinding boundRoot then
              .error .mismatchedAccount
            else
              .error .missingExpectedAccount
          | some root => boundKey root expected continuationIndex .alreadyCanonical

def structuralRootAndContinuation (rawSessionKey : String)
    : Except SessionKeyError (String × Nat) :=
  match validateRaw rawSessionKey with
  | .error e => .error e
  | .ok raw =>
    match Text.rsplitOnce ":acct-" raw with
    | none => parseTerminalContinuation raw
    | some (withoutTail, tailAccount) =>
      let tailBinding := "acct-" ++ tailAccount
      match parseTerminalContinuation withoutTail with
      | .error _ => parseTerminalContinuation raw
      | .ok (lead, continuationIndex) =>
        match Text.dropTail (":" ++ tailBinding) lead with
        | none => parseTerminalContinuation raw
        | some root =>
          if continuationIndex = 0 then
            parseTerminalContinuation raw
          else if root = "" || containsAccountBinding root then
            .error .ambiguousDuplicateAccount
          else
            .ok (root ++ ":" ++ tailBinding, continuationIndex)

def rootWorkingSessionKey (sessionKey : String) : String :=
  match structuralRootAndContinuation sessionKey with
  | .error _ => sessionKey
  | .ok (root, _) => root

namespace CanonicalChannelSessionKey

def parseForLane (rawSessionKey platform accountId channelId userId agentId : String)
    : Except SessionKeyError CanonicalChannelSessionKey :=
  parseBound rawSessionKey (expectedAccountBinding platform accountId channelId userId agentId)

def bindForLane (rawSessionKey platform accountId channelId userId agentId : String)
    : Except SessionKeyError CanonicalChannelSessionKey :=
  let expected := expectedAccountBinding platform accountId channelId userId agentId
  match parseBound rawSessionKey expected with
  | .ok parsed => .ok parsed
  | .error .missingExpectedAccount =>
    match parseStructural rawSessionKey with
    | .error e => .error e
    | .ok (root, continuationIndex) =>
      if containsAccountBinding root then
        .error .mismatchedAccount
      else
        .ok {
          root
          accountBinding := expected
          continuationIndex
          normalization := .accountBindingInserted }
  | .error e => .error e

def canonicalString (self : CanonicalChannelSessionKey) : String :=
  let boundRoot := self.root ++ ":" ++ self.accountBinding
  if self.continuationIndex = 0 then
    boundRoot
  else
    boundRoot ++ ":cont-" ++ toString self.continuationIndex

def continuation (self : CanonicalChannelSessionKey) (continuationIndex : Nat)
    : Except SessionKeyError CanonicalChannelSessionKey :=
  if continuationIndex = 0 then
    .error .invalidContinuation
  else
    .ok { self with continuationIndex, normalization := .alreadyCanonical }

end CanonicalChannelSessionKey

end ChannelSessionKey
