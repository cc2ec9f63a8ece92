import AgentHarness.Lib.Sha256
import AgentHarness.Lib.Text

/-!
The full lane key: the identity of a channel, runtime and session lane over its eight axes, and the
hash of its canonical bytes.
-/

namespace Lane

def fullLaneKeySchema : String := "agent-harness.full-lane-key.v1"
def maxFullLaneAxisBytes : Nat := 4096
def canonicalDomain : String := "agent-harness/full-lane-key/v1"
def virtualCanonicalDomain : String := "agent-harness/full-virtual-lane-key/v1"
def legacyUnknownLead : String := "urn:agent-harness:lane:legacy-unknown:v1:"

inductive FullLaneAxisV1 where
  | platform
  | accountId
  | channelId
  | userId
  | agentId
  | runtimeClass
  | rootVirtualSession
  | concreteSession

namespace FullLaneAxisV1

def fieldName (self : FullLaneAxisV1) : String :=
  match self with
  | .platform => "platform"
  | .accountId => "accountId"
  | .channelId => "channelId"
  | .userId => "userId"
  | .agentId => "agentId"
  | .runtimeClass => "runtimeClass"
  | .rootVirtualSession => "rootVirtualSession"
  | .concreteSession => "concreteSession"

def unknownValue (self : FullLaneAxisV1) : String :=
  legacyUnknownLead ++ self.fieldName

end FullLaneAxisV1

inductive FullLaneKeyError where
  | unsupportedSchema (schema : String)
  | emptyAxis (axis : String)
  | nonCanonicalAxis (axis : String)
  | controlCharacter (axis : String)
  | axisTooLong (axis : String) (actualBytes maxBytes : Nat)
  | reservedUnknownValue (axis : String)
  deriving DecidableEq

def FullLaneKeyError.message (self : FullLaneKeyError) : String :=
  match self with
  | .unsupportedSchema schema => s!"unsupported full-lane schema `{schema}`"
  | .emptyAxis axis => s!"full-lane axis `{axis}` is empty"
  | .nonCanonicalAxis axis => s!"full-lane axis `{axis}` is not canonical"
  | .controlCharacter axis => s!"full-lane axis `{axis}` contains a control character"
  | .axisTooLong axis actualBytes maxBytes =>
    s!"full-lane axis `{axis}` is {actualBytes} bytes; maximum is {maxBytes}"
  | .reservedUnknownValue axis => s!"full-lane axis `{axis}` uses a reserved legacy-unknown value"

structure FullLaneKeyV1 where
  schema : String
  platform : String
  accountId : String
  channelId : String
  userId : String
  agentId : String
  runtimeClass : String
  rootVirtualSession : String
  concreteSession : String
  deriving DecidableEq

def validateCommon (axis : FullLaneAxisV1) (value : String) : Except FullLaneKeyError Unit :=
  if value = "" then
    .error (.emptyAxis axis.fieldName)
  else if value.toList.any Text.isControl then
    .error (.controlCharacter axis.fieldName)
  else if value.utf8ByteSize > maxFullLaneAxisBytes then
    .error (.axisTooLong axis.fieldName value.utf8ByteSize maxFullLaneAxisBytes)
  else
    .ok ()

def normalizeKnown (axis : FullLaneAxisV1) (value : String) : Except FullLaneKeyError String :=
  let normalized := Text.trim value
  match validateCommon axis normalized with
  | .error e => .error e
  | .ok () =>
    if Text.startsWith legacyUnknownLead normalized then
      .error (.reservedUnknownValue axis.fieldName)
    else
      .ok normalized

def validateCanonical (axis : FullLaneAxisV1) (value : String) : Except FullLaneKeyError Unit :=
  match validateCommon axis value with
  | .error e => .error e
  | .ok () =>
    if value ≠ Text.trim value then
      .error (.nonCanonicalAxis axis.fieldName)
    else if Text.startsWith legacyUnknownLead value && value ≠ axis.unknownValue then
      .error (.reservedUnknownValue axis.fieldName)
    else
      .ok ()

def appendComponent (bytes : List UInt8) (name value : String) : List UInt8 :=
  bytes ++ Text.u64BeBytes (Text.utf8Bytes name).length ++ Text.utf8Bytes name
    ++ Text.u64BeBytes (Text.utf8Bytes value).length ++ Text.utf8Bytes value

namespace FullLaneKeyV1

def new (platform accountId channelId userId agentId runtimeClass rootVirtualSession
    concreteSession : String)
    : Except FullLaneKeyError FullLaneKeyV1 := do
  return {
    schema := fullLaneKeySchema
    platform := ← normalizeKnown .platform platform
    accountId := ← normalizeKnown .accountId accountId
    channelId := ← normalizeKnown .channelId channelId
    userId := ← normalizeKnown .userId userId
    agentId := ← normalizeKnown .agentId agentId
    runtimeClass := ← normalizeKnown .runtimeClass runtimeClass
    rootVirtualSession := ← normalizeKnown .rootVirtualSession rootVirtualSession
    concreteSession := ← normalizeKnown .concreteSession concreteSession }

def axes (self : FullLaneKeyV1) : List (FullLaneAxisV1 × String) :=
  [ (.platform, self.platform),
    (.accountId, self.accountId),
    (.channelId, self.channelId),
    (.userId, self.userId),
    (.agentId, self.agentId),
    (.runtimeClass, self.runtimeClass),
    (.rootVirtualSession, self.rootVirtualSession),
    (.concreteSession, self.concreteSession) ]

def validateAxes : List (FullLaneAxisV1 × String) → Except FullLaneKeyError Unit
  | [] => .ok ()
  | (axis, value) :: rest =>
    match validateCanonical axis value with
    | .error e => .error e
    | .ok () => validateAxes rest

def validate (self : FullLaneKeyV1) : Except FullLaneKeyError Unit :=
  if self.schema ≠ fullLaneKeySchema then
    .error (.unsupportedSchema self.schema)
  else
    validateAxes self.axes

def hasLegacyUnknowns (self : FullLaneKeyV1) : Bool :=
  self.axes.any fun axis => axis.2 = axis.1.unknownValue

def componentBytes (self : FullLaneKeyV1) (domain : String)
    (axes : List (FullLaneAxisV1 × String))
    : List UInt8 :=
  axes.foldl (fun bytes axis => appendComponent bytes axis.1.fieldName axis.2)
    (appendComponent (appendComponent [] "domain" domain) "schema" self.schema)

def canonicalBytes (self : FullLaneKeyV1) : Except FullLaneKeyError (List UInt8) :=
  match self.validate with
  | .error e => .error e
  | .ok () => .ok (self.componentBytes canonicalDomain self.axes)

def identityHash (self : FullLaneKeyV1) : Except FullLaneKeyError String :=
  match self.canonicalBytes with
  | .error e => .error e
  | .ok bytes => .ok (Text.hex (Sha256.digest bytes))

-- what `virtual_identity_hash` hashes: all axes but the concrete session
def virtualBytes (self : FullLaneKeyV1) : Except FullLaneKeyError (List UInt8) :=
  match self.validate with
  | .error e => .error e
  | .ok () => .ok (self.componentBytes virtualCanonicalDomain (self.axes.take 7))

def virtualIdentityHash (self : FullLaneKeyV1) : Except FullLaneKeyError String :=
  match self.virtualBytes with
  | .error e => .error e
  | .ok bytes => .ok (Text.hex (Sha256.digest bytes))

end FullLaneKeyV1

end Lane
