import AgentHarness.Lib.Find
import AgentHarness.Lib.Io
import AgentHarness.Lib.Sha256

/-!
The disposition marker of a drained turn: control data which the assistant puts between two tags at the
end of its text, and which is taken out of the text before the user sees it.
-/

namespace TaskTransition

def taskContinuationCheckpointSchema : String := "agent-harness.task-continuation-checkpoint.v1"

def drainDispositionSchema : String := "agent-harness.drain-disposition.v1"

def drainDispositionMarkerOpen : String := "<agent-harness-drain-disposition>"

def drainDispositionMarkerClose : String := "</agent-harness-drain-disposition>"

def maxCheckpointBytes : Nat := 2 * 1024

def maxMarkerBytes : Nat := 4 * 1024

inductive ContinuationAuthorityKindV1 where
  | goal
  | operationPlan
  | explicitCheckpoint
  deriving DecidableEq

structure TaskContinuationCheckpointV1 where
  schema : String
  authorityKind : ContinuationAuthorityKindV1
  authorityId : String
  authorityVersion : Nat
  activeItemId : Option String
  activeItemVersion : Option Nat
  checkpoint : String
  checkpointDigest : String

inductive DrainDispositionKindV1 where
  | logicalComplete
  | continuationRequired
  | needsUser
  | needsAuthority
  | blocked
  deriving DecidableEq

structure DrainDispositionMarkerV1 where
  schema : String
  disposition : DrainDispositionKindV1
  observedDeadlineGeneration : Nat
  authorityKind : Option ContinuationAuthorityKindV1
  authorityId : Option String
  authorityVersion : Option Nat
  taskFamilyId : Option String
  taskFamilyVersion : Option Nat
  activeItemId : Option String
  activeItemVersion : Option Nat
  checkpoint : Option String
  checkpointDigest : Option String
  reasonCode : Option String
  question : Option String
  recoveryHint : Option String
  completionEvidenceDigests : List String
  deriving DecidableEq

inductive DrainDispositionCaptureV1 where
  | missing
  | valid (marker : DrainDispositionMarkerV1)
  | invalid (reasonCode : String)
  deriving DecidableEq

def invalid (message : String) : IoError where
  kind := .invalidData
  message := message

def isSha256Hex (value : String) : Bool :=
  value.utf8ByteSize = 64 && value.toList.all Text.isLowerHexdigit

def sha256Hex (bytes : List UInt8) : String :=
  Text.hex (Sha256.digest bytes)

def validateCheckpoint (checkpoint : TaskContinuationCheckpointV1) : Except IoError Unit := do
  .require (checkpoint.schema = taskContinuationCheckpointSchema)
    (invalid "unsupported task continuation checkpoint schema")
  .require (Text.trim checkpoint.authorityId ≠ "") (invalid "checkpoint authority id is empty")
  .require (checkpoint.checkpoint ≠ "" && checkpoint.checkpoint.utf8ByteSize ≤ maxCheckpointBytes)
    (invalid "checkpoint body is empty or exceeds its bound")
  .require (isSha256Hex checkpoint.checkpointDigest) (invalid "checkpoint digest is non-canonical")
  .require (sha256Hex (Text.utf8Bytes checkpoint.checkpoint) = checkpoint.checkpointDigest)
    (invalid "checkpoint digest does not match its bounded body")

def drainMarkerCheckpoint (marker : DrainDispositionMarkerV1)
    : Except IoError TaskContinuationCheckpointV1 := do
  .require (marker.disposition = .continuationRequired)
    (invalid "drain disposition is not continuation-required")
  let authorityKind ← .ofOption marker.authorityKind
    (invalid "continuation disposition has no authority kind")
  let authorityId ← .ofOption marker.authorityId
    (invalid "continuation disposition has no authority id")
  let authorityVersion ← .ofOption marker.authorityVersion
    (invalid "continuation disposition has no authority version")
  let checkpoint ← .ofOption marker.checkpoint
    (invalid "continuation disposition has no checkpoint")
  let checkpointDigest ← .ofOption marker.checkpointDigest
    (invalid "continuation disposition has no checkpoint digest")
  let checkpoint : TaskContinuationCheckpointV1 := {
    schema := taskContinuationCheckpointSchema
    authorityKind
    authorityId
    authorityVersion
    activeItemId := marker.activeItemId
    activeItemVersion := marker.activeItemVersion
    checkpoint
    checkpointDigest }
  validateCheckpoint checkpoint
  return checkpoint

def boundedText (value : String) : Bool :=
  value ≠ "" && value.utf8ByteSize ≤ 512 && !value.toList.any Text.isControl

def validateDrainDispositionMarker (marker : DrainDispositionMarkerV1) : Except IoError Unit := do
  .require (marker.schema = drainDispositionSchema) (invalid "unsupported-drain-disposition-schema")
  .require
    ([marker.reasonCode, marker.question, marker.recoveryHint].all fun value =>
      value.all boundedText)
    (invalid "disposition-bounded-text-invalid")
  .require
    (marker.completionEvidenceDigests.length ≤ 16
      && marker.completionEvidenceDigests.all isSha256Hex)
    (invalid "completion-evidence-digest-invalid")
  match marker.disposition with
  | .continuationRequired =>
    let checkpoint ← drainMarkerCheckpoint marker
    .require
      (!(checkpoint.authorityKind = .explicitCheckpoint
        && (marker.taskFamilyId ≠ some checkpoint.authorityId
          || marker.taskFamilyVersion ≠ some checkpoint.authorityVersion)))
      (invalid "explicit-checkpoint-task-family-mismatch")
  | .logicalComplete =>
    .require
      (!(marker.authorityKind.isSome
        || marker.authorityId.isSome
        || marker.authorityVersion.isSome
        || marker.checkpoint.isSome
        || marker.checkpointDigest.isSome))
      (invalid "logical-complete-cannot-claim-continuation-authority")
  | .needsUser =>
    .require (!(marker.question.isNone || marker.reasonCode.isNone))
      (invalid "needs-user-requires-question-and-reason")
  | .needsAuthority | .blocked =>
    .require marker.reasonCode.isSome (invalid "parked-disposition-requires-reason")

section

-- `serde_json::from_str` at the type of the marker
variable (fromStr : String → Option DrainDispositionMarkerV1)

def visibleText (assistantText : String) : String :=
  match Text.splitFirst drainDispositionMarkerOpen assistantText,
    Text.rsplitOnce drainDispositionMarkerClose assistantText with
  | some (beforeOpen, _), some (beforeClose, afterClose) =>
    if beforeOpen.utf8ByteSize ≤ beforeClose.utf8ByteSize then
      Text.trim (beforeOpen ++ afterClose)
    else
      Text.trim beforeOpen
  | some (beforeOpen, _), none => Text.trim beforeOpen
  | none, some (beforeClose, afterClose) => Text.trim (beforeClose ++ afterClose)
  | none, none => assistantText

def captureMarker (assistantText : String) : DrainDispositionCaptureV1 :=
  match Text.splitFirst drainDispositionMarkerOpen assistantText with
  | none => .invalid "disposition-marker-close-without-open"
  | some (_, afterOpen) =>
    match Text.splitFirst drainDispositionMarkerClose afterOpen with
    | none => .invalid "disposition-marker-not-closed"
    | some (json, _) =>
      if json.utf8ByteSize > maxMarkerBytes then
        .invalid "disposition-marker-oversized"
      else
        match fromStr (Text.trim json) with
        | none => .invalid "disposition-marker-invalid-json"
        | some marker =>
          match validateDrainDispositionMarker marker with
          | .ok () => .valid marker
          | .error error => .invalid error.message

def extractDrainDispositionMarker (assistantText : String)
    : String × DrainDispositionCaptureV1 :=
  let openCount := Text.matchCount drainDispositionMarkerOpen assistantText
  let closeCount := Text.matchCount drainDispositionMarkerClose assistantText
  if openCount = 0 ∧ closeCount = 0 then
    (assistantText, .missing)
  else if openCount ≠ 1 ∨ closeCount ≠ 1 then
    (visibleText assistantText, .invalid "multiple-or-unbalanced-disposition-markers")
  else
    (visibleText assistantText, captureMarker fromStr assistantText)

end

end TaskTransition

/-!
When the text a user sees holds no tag of a disposition marker. The cut takes everything from the first
opening tag to the last closing one, so what it overlooks lies before the one and behind the other, or
comes about where the two rests are joined.
-/

namespace TaskTransition

open Text (contains contains_append contains_iff contains_trim Straddles)

def Unmarked (text : String) : Prop :=
  ¬contains text drainDispositionMarkerOpen ∧ ¬contains text drainDispositionMarkerClose

def JoinsCleanly (left right : String) : Prop :=
  ¬Straddles drainDispositionMarkerOpen left right
    ∧ ¬Straddles drainDispositionMarkerClose left right

/-
No closing tag before the first opening one and no opening tag behind the last closing one; without
opening tags, at most one closing tag; and the parts around the cut join cleanly.
-/
def CutsCleanly (text : String) : Prop :=
  match Text.splitFirst drainDispositionMarkerOpen text,
    Text.rsplitOnce drainDispositionMarkerClose text with
  | some (beforeOpen, _), some (_, afterClose) =>
    ¬contains beforeOpen drainDispositionMarkerClose
      ∧ ¬contains afterClose drainDispositionMarkerOpen
      ∧ JoinsCleanly beforeOpen afterClose
  | none, some (beforeClose, afterClose) =>
    ¬contains beforeClose drainDispositionMarkerClose ∧ JoinsCleanly beforeClose afterClose
  | _, none => True

theorem open_ne_empty : drainDispositionMarkerOpen ≠ "" := by decide

theorem close_ne_empty : drainDispositionMarkerClose ≠ "" := by decide

theorem unmarked_trim {text : String} : Unmarked (Text.trim text) ↔ Unmarked text := by
  unfold Unmarked
  rw [contains_trim open_ne_empty (Text.forall_mem_of_all (by decide)),
    contains_trim close_ne_empty (Text.forall_mem_of_all (by decide))]

theorem unmarked_append {left right : String}
    : Unmarked (left ++ right) ↔ Unmarked left ∧ Unmarked right ∧ JoinsCleanly left right := by
  unfold Unmarked JoinsCleanly
  rw [contains_append, contains_append, not_or, not_or, not_or, not_or]
  constructor
  . rintro ⟨⟨hleft, hright, hjoin⟩, hleft', hright', hjoin'⟩
    exact ⟨⟨hleft, hleft'⟩, ⟨hright, hright'⟩, hjoin, hjoin'⟩
  . rintro ⟨⟨hleft, hleft'⟩, ⟨hright, hright'⟩, hjoin, hjoin'⟩
    exact ⟨⟨hleft, hright, hjoin⟩, hleft', hright', hjoin'⟩

theorem close_before_open {text beforeOpen afterOpen beforeClose afterClose : String}
    (hopen : text = beforeOpen ++ drainDispositionMarkerOpen ++ afterOpen)
    (hclose : text = beforeClose ++ drainDispositionMarkerClose ++ afterClose)
    (hlt : beforeClose.utf8ByteSize < beforeOpen.utf8ByteSize)
    : contains beforeOpen drainDispositionMarkerClose := by
  have htags : drainDispositionMarkerClose.toList
      = '<' :: "/agent-harness-drain-disposition>".toList := by decide
  exact Text.contains_of_starts_before htags (by decide) (by decide) (hclose.symm.trans hopen) hlt

theorem isMarker_close : Text.IsMarker drainDispositionMarkerClose :=
  ⟨'<', "/agent-harness-drain-disposition>".toList, by decide, by decide⟩

theorem unmarked_visibleText (text : String) : Unmarked (visibleText text) ↔ CutsCleanly text := by
  unfold visibleText CutsCleanly
  cases hopen : Text.splitFirst drainDispositionMarkerOpen text with
  | none =>
    have habsent := Text.splitFirst_eq_none.mp hopen
    cases hclose : Text.rsplitOnce drainDispositionMarkerClose text with
    | none => simpa using ⟨habsent, (Text.rsplitOnce_eq_none isMarker_close).mp hclose⟩
    | some parts =>
      obtain ⟨beforeClose, afterClose⟩ := parts
      have htext := Text.rsplitOnce_eq_some hclose
      have hlast := Text.rsplitOnce_last close_ne_empty hclose
      rw [htext, contains_append, contains_append, not_or, not_or, not_or, not_or] at habsent
      dsimp only
      rw [unmarked_trim, unmarked_append]
      simp [Unmarked, habsent, hlast]
  | some parts =>
    obtain ⟨beforeOpen, afterOpen⟩ := parts
    obtain ⟨htext, hfirst⟩ := Text.splitFirst_eq_some open_ne_empty hopen
    cases hclose : Text.rsplitOnce drainDispositionMarkerClose text with
    | none =>
      have habsent := (Text.rsplitOnce_eq_none isMarker_close).mp hclose
      rw [htext, contains_append, contains_append, not_or, not_or] at habsent
      dsimp only
      rw [unmarked_trim]
      simp [Unmarked, habsent, hfirst]
    | some parts =>
      obtain ⟨beforeClose, afterClose⟩ := parts
      have hlast := Text.rsplitOnce_last close_ne_empty hclose
      dsimp only
      split
      . rw [unmarked_trim, unmarked_append]
        simp [Unmarked, hfirst, hlast]
      . next hsize =>
        have hclose := Text.rsplitOnce_eq_some hclose
        have hmarked := close_before_open htext hclose (by omega)
        rw [unmarked_trim]
        simp [Unmarked, hmarked]

/-
The visible text holds neither tag exactly if the text cuts cleanly.
-/
theorem visible_unmarked_iff (fromStr : String → Option DrainDispositionMarkerV1) (text : String)
    : Unmarked (extractDrainDispositionMarker fromStr text).1 ↔ CutsCleanly text := by
  rw [← unmarked_visibleText]
  unfold extractDrainDispositionMarker
  dsimp only
  split
  . next hcounts =>
    -- a text without tags is left as it is
    rw [Text.matchCount_eq_zero open_ne_empty, Text.matchCount_eq_zero close_ne_empty] at hcounts
    have hopen := Text.splitFirst_eq_none.mpr hcounts.1
    have hclose := (Text.rsplitOnce_eq_none isMarker_close).mpr hcounts.2
    unfold visibleText
    rw [hopen, hclose]
  . split
    . rfl
    . rfl

theorem closing_tag_visible
    : extractDrainDispositionMarker (fun _ => none)
        ("Done</agent-harness-drain-disposition>"
          ++ "<agent-harness-drain-disposition>\x7b\x7d</agent-harness-drain-disposition>")
        = ("Done</agent-harness-drain-disposition>",
          .invalid "multiple-or-unbalanced-disposition-markers")
      ∧ ¬Unmarked "Done</agent-harness-drain-disposition>" := by
  refine ⟨by decide +kernel, ?_⟩
  rintro ⟨_, hclose⟩
  apply hclose
  decide +kernel

end TaskTransition
