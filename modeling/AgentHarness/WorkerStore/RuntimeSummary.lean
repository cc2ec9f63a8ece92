import AgentHarness.Coordinator.Lemmas.Claim
import AgentHarness.Coordinator.Lemmas.Identity
import AgentHarness.Lib.Marker
import AgentHarness.Memory.Lemmas.Scan
import AgentHarness.WorkerStore.Basic

/-!
The result of a worker whose run has ended: its last message is redacted and cut to the bound of the
mailbox, and goes into an envelope beside opaque pointers to the receipt and the transcript. The row of
the mailbox and the terminal status of the job are one transaction, and a pass of the worker starts with
these transactions.
-/

namespace WorkerStore

open Coordinator (ExactWorkerResultOwnerV1 Mailbox Stored WorkerResultArtifactPointerV1
  WorkerResultEnvelopeV1 WorkerResultMailboxError WorkerResultMailboxInsertV1 WorkerResultOutcomeV1
  WorkerResultOwnerV1 insertTerminalResult maxMailboxReferenceBytes maxResultSummaryBytes
  terminalEventDigest validateIdentifier)
open Memory (Panic redactSensitive)
open Text (isCharBoundary slice splitAtByte)

def ellipsis : String := "…"

def boundaryAtMost (s : String) : Nat → Nat
  | 0 => 0
  | stop + 1 => if isCharBoundary s (stop + 1) then stop + 1 else boundaryAtMost s stop

def boundedRedactedWorkerSummary (text : String) : Memory.Checked (Option String) := do
  let summary ← redactSensitive text
  if summary = "" then
    return none
  else if summary.utf8ByteSize ≤ maxResultSummaryBytes then
    return some summary
  else
    let stop := boundaryAtMost summary (maxResultSummaryBytes - ellipsis.utf8ByteSize)
    let kept ← Except.ofOption (slice summary 0 stop) .charBoundary
    return some (kept ++ ellipsis)

def terminalArtifacts (runtimeQueueId : String) (hasTranscript : Bool)
    : List WorkerResultArtifactPointerV1 :=
  let queueDigest := Text.hex16 (Text.fnv1a (Text.utf8Bytes runtimeQueueId))
  let receipt : WorkerResultArtifactPointerV1 := {
    kind := .terminalReceipt
    reference := "receipt:runtime-queue/" ++ queueDigest
    sha256 := none }
  let transcript : WorkerResultArtifactPointerV1 := {
    kind := .transcript
    reference := "artifact:runtime-queue/transcript/" ++ queueDigest
    sha256 := none }
  if hasTranscript then [receipt, transcript] else [receipt]

def WorkerJobStatus.asStr (self : WorkerJobStatus) : String :=
  match self with
  | .pending => "pending"
  | .leased => "leased"
  | .running => "running"
  | .runtimeQueued => "runtime-queued"
  | .succeeded => "succeeded"
  | .failedRetryable => "failed-retryable"
  | .failedTerminal => "failed-terminal"
  | .canceled => "canceled"
  | .expired => "expired"

/-
A job whose run has ended with a result to publish: the columns of its row that are read, and the trusted
transcript with its last assistant text.
-/
structure CorrelatedTerminal where
  jobId : String
  parentJobId : Option String
  resultOwnerJson : Option (Stored WorkerResultOwnerV1)
  runtimeQueueId : String
  workerStatus : WorkerJobStatus
  transcript : Option (Option String)

namespace CorrelatedTerminal

variable (self : CorrelatedTerminal)

def exactOwner : Option ExactWorkerResultOwnerV1 :=
  match self.resultOwnerJson.bind Stored.decode with
  | some (.exact owner) => if owner.validate.isOk then some owner else none
  | _ => none

def legacyIncompleteResultOwner : WorkerResultOwnerV1 :=
  .legacyIncomplete {
    schema := Coordinator.legacyWorkerResultOwnerSchema
    legacyOwnerRef := "worker-job:" ++ self.jobId
    lane := none
    virtualSessionId := none
    parentWorkerJobId := self.parentJobId
    parentQueueId := none
    sourceQueueId := some self.runtimeQueueId
    operationPlanId := none
    operationPlanItemId := none
    missingIdentityAxes := [.platform, .accountId, .channelId, .userId, .agentId, .runtimeClass,
      .rootVirtualSession, .concreteSession, .virtualSessionId] }

def resultOwner : WorkerResultOwnerV1 :=
  match self.exactOwner with
  | some owner => .exact owner
  | none => self.legacyIncompleteResultOwner

def outcome : WorkerResultOutcomeV1 :=
  match self.workerStatus with
  | .succeeded => .succeeded
  | .canceled => .canceled
  | .expired => .expired
  | _ => .failed

def defaultSummary : String :=
  "worker runtime terminal correlated as " ++ self.workerStatus.asStr

def redactedSummary : Memory.Checked String :=
  match self.transcript.join with
  | none => .ok self.defaultSummary
  | some text => do
    let summary ← boundedRedactedWorkerSummary text
    return summary.getD self.defaultSummary

def terminalEventKey : String :=
  "worker-runtime-terminal/" ++ self.jobId ++ "/"
    ++ Text.hex16 (Text.fnv1a (Text.utf8Bytes self.runtimeQueueId))

def mailboxInsert (nowMs : Int) (envelope : WorkerResultEnvelopeV1) : WorkerResultMailboxInsertV1 where
  terminalEventKey := self.terminalEventKey
  owner := self.resultOwner
  envelope
  sourceWorkerJobId := some self.jobId
  terminalAtMs := nowMs

end CorrelatedTerminal

-- the jobs in the status `runtime-queued`, and the mailbox of the same database
structure TerminalStore where
  runtimeQueued : List String
  mailbox : Mailbox

inductive TerminalError where
  | panic (cause : Panic)
  | notRuntimeQueued (jobId : String)
  | mailbox (error : WorkerResultMailboxError)
  deriving DecidableEq

-- the handling that publishes a result; an error drops the transaction
def setRuntimeTerminalWithMailbox (store : TerminalStore) (nowMs : Int) (terminal : CorrelatedTerminal)
    : Except TerminalError TerminalStore := do
  .require (terminal.jobId ∈ store.runtimeQueued) (.notRuntimeQueued terminal.jobId)
  let summary ← terminal.redactedSummary.mapError .panic
  let envelope ← (WorkerResultEnvelopeV1.new terminal.outcome summary
    (terminalArtifacts terminal.runtimeQueueId terminal.transcript.isSome)).mapError .mailbox
  match insertTerminalResult (terminal.mailboxInsert nowMs envelope) store.mailbox with
  | .error e _ => .error (.mailbox e)
  | .ok _ mailbox =>
    return { runtimeQueued := store.runtimeQueued.filter (· ≠ terminal.jobId), mailbox }

-- the loop of `reconcile_runtime_queued_jobs`: the first error ends it, and what was committed stays
def commitRuntimeTerminals (nowMs : Int)
    : List CorrelatedTerminal → TerminalStore → TerminalStore × Except TerminalError Unit
  | [], store => (store, .ok ())
  | terminal :: terminals, store =>
    match setRuntimeTerminalWithMailbox store nowMs terminal with
    | .error e => (store, .error e)
    | .ok later => commitRuntimeTerminals nowMs terminals later

/-
Every control character of the redacted text lies behind the bound of the summary.
-/
def ControlsCutOff (redacted : String) : Prop :=
  ∀ left ch right, redacted.toList = left ++ ch :: right → Text.isControl ch →
    maxResultSummaryBytes < redacted.utf8ByteSize
      ∧ maxResultSummaryBytes - ellipsis.utf8ByteSize < (Text.encode (left ++ [ch])).length

section

variable {s : String}

theorem boundaryAtMost_le (stop : Nat) : boundaryAtMost s stop ≤ stop := by
  induction stop with
  | zero => exact le_rfl
  | succ stop ih =>
    unfold boundaryAtMost
    split
    . exact le_rfl
    . omega

theorem isCharBoundary_boundaryAtMost (stop : Nat)
    : isCharBoundary s (boundaryAtMost s stop) = true := by
  induction stop with
  | zero =>
    unfold boundaryAtMost isCharBoundary
    cases s.toList <;> simp [splitAtByte]
  | succ stop ih =>
    unfold boundaryAtMost
    split
    . next h => exact h
    . exact ih

theorem le_boundaryAtMost {stop offset : Nat} (hle : offset ≤ stop)
    (hboundary : isCharBoundary s offset = true)
    : offset ≤ boundaryAtMost s stop := by
  induction stop with
  | zero => exact hle
  | succ stop ih =>
    unfold boundaryAtMost
    split
    . exact hle
    . next hstop =>
      rcases Nat.lt_or_eq_of_le hle with hlt | rfl
      . exact ih (by omega)
      . exact absurd hboundary hstop

theorem boundaryAtMost_slice (stop : Nat)
    : ∃ kept more, s.toList = kept ++ more ∧ slice s 0 (boundaryAtMost s stop)
          = some (String.ofList kept)
        ∧ (Text.encode kept).length ≤ stop
        ∧ ∀ ch rest, more = ch :: rest → stop < (Text.encode (kept ++ [ch])).length := by
  have hboundary := isCharBoundary_boundaryAtMost (s := s) stop
  unfold isCharBoundary at hboundary
  obtain ⟨⟨kept, more⟩, hsplit⟩ := Option.isSome_iff_exists.mp hboundary
  obtain ⟨hchars, hlength⟩ := Text.splitAtByte_eq_some hsplit
  refine ⟨kept, more, hchars, ?_, ?_, ?_⟩
  . have hzero := Text.splitAtByte_encode [] kept
    unfold slice
    rw [hsplit]
    simp only [Option.bind_eq_bind, Option.bind_some]
    rw [show (Text.encode []).length = 0 from rfl, List.nil_append] at hzero
    rw [hzero]
    rfl
  . rw [hlength]
    exact boundaryAtMost_le stop
  . rintro ch rest rfl
    by_contra hfits
    rw [not_lt] at hfits
    have hnext : isCharBoundary s (Text.encode (kept ++ [ch])).length = true := by
      unfold isCharBoundary
      have hsplit : kept ++ ch :: rest = (kept ++ [ch]) ++ rest := by simp
      rw [hchars, hsplit, Text.splitAtByte_encode]
      rfl
    have hle := le_boundaryAtMost hfits hnext
    have hpos := ch.utf8Size_pos
    rw [Text.encode_append, List.length_append, hlength, Text.encode_cons, List.length_append,
      String.length_utf8EncodeChar] at hle
    omega

end

-- the characters of the references: lower case letters, `/`, digits, `:` and `-`
def isReferenceChar (ch : Char) : Bool :=
  (0x61 ≤ ch.toNat && ch.toNat ≤ 0x7a) || (0x2f ≤ ch.toNat && ch.toNat ≤ 0x3a) || ch.toNat = 0x2d

theorem isReferenceChar_hex16 (n : UInt64) : ∀ ch ∈ (Text.hex16 n).toList, isReferenceChar ch := by
  have hdigit : ∀ n < 16, isReferenceChar (Text.hexDigit n) := by decide
  intro ch hch
  unfold Text.hex16 Text.hex at hch
  rw [String.toList_ofList, List.mem_flatMap] at hch
  obtain ⟨byte, _, hch⟩ := hch
  simp only [List.mem_cons, List.not_mem_nil, or_false] at hch
  have hbound := byte.toNat_lt
  rcases hch with rfl | rfl
  . apply hdigit
    omega
  . apply hdigit
    omega

theorem length_hex16 (n : UInt64) : (Text.hex16 n).toList.length = 16 := by
  unfold Text.hex16 Text.hex
  rw [String.toList_ofList, List.length_flatMap]
  simp [Text.u64BeBytes]

theorem length_encode_le (chars : List Char) : (Text.encode chars).length ≤ 4 * chars.length := by
  induction chars with
  | nil => exact le_rfl
  | cons ch chars ih =>
    have hsize := ch.utf8Size_le_four
    rw [Text.encode_cons, List.length_append, String.length_utf8EncodeChar, List.length_cons]
    omega

theorem plain_of_referenceChar {ch : Char} (h : isReferenceChar ch)
    : ¬Text.isWhitespace ch ∧ ¬Text.isControl ch := by
  unfold isReferenceChar at h
  unfold Text.isWhitespace Text.isControl
  simp only [Bool.or_eq_true, Bool.and_eq_true, decide_eq_true_iff] at h ⊢
  omega

theorem validate_reference {reference : String} (hne : reference ≠ "")
    (hchars : ∀ ch ∈ reference.toList, isReferenceChar ch) (hlength : reference.toList.length ≤ 256)
    (hscheme : ["artifact:", "receipt:", "harness:", "sha256:"].any
      (Text.startsWith · reference) = true)
    : Coordinator.validateOpaqueArtifactReference reference = .ok () := by
  have hspace : ∀ ch ∈ reference.toList, ¬Text.isWhitespace ch := fun ch hch =>
    (plain_of_referenceChar (hchars ch hch)).1
  have hcontrol : ∀ ch ∈ reference.toList, ¬Text.isControl ch := fun ch hch =>
    (plain_of_referenceChar (hchars ch hch)).2
  have htrim : Text.trim reference = reference := by
    apply Text.trim_of_ends
    . intro ch hch
      exact hspace ch (List.mem_of_mem_head? hch)
    . intro ch hch
      exact hspace ch (List.mem_of_mem_getLast? hch)
  have hbytes : reference.utf8ByteSize ≤ 1024 := by
    have hle := length_encode_le reference.toList
    rw [Text.encode_toList, Text.length_utf8Bytes] at hle
    omega
  have hplain : ∀ needle ∈ ["..", "\\", "@", "?", "#"], ¬Text.contains reference needle := by
    have hforeign : ∀ needle ∈ ["..", "\\", "@", "?", "#"],
        needle.toList.any fun ch => !isReferenceChar ch := by decide
    intro needle hneedle hcontains
    obtain ⟨ch, hch, hnot⟩ := List.any_eq_true.mp (hforeign needle hneedle)
    rw [Text.contains_iff] at hcontains
    simp [hchars ch (hcontains.subset hch)] at hnot
  have hnone : (!reference.toList.any Text.isControl) = true := by
    simpa [List.any_eq_false] using hcontrol
  have hneedles : (!(["..", "\\", "@", "?", "#"].any (Text.contains reference))) = true := by
    rw [Bool.not_eq_true', List.any_eq_false]
    exact hplain
  unfold Coordinator.validateOpaqueArtifactReference Coordinator.validateIdentifier
  simp only [Except.bind_eq_ok, Except.require_eq_ok]
  exact ⟨(), ⟨(), decide_eq_true hne, (), decide_eq_true htrim.symm, (), decide_eq_true hbytes, hnone⟩,
    (), hscheme, hneedles⟩

theorem validate_terminalArtifacts (runtimeQueueId : String) (hasTranscript : Bool)
    : (terminalArtifacts runtimeQueueId hasTranscript).length ≤ Coordinator.maxResultArtifacts
      ∧ (terminalArtifacts runtimeQueueId hasTranscript).forM WorkerResultArtifactPointerV1.validate
        = .ok () := by
  generalize hdigest : Text.hex16 (Text.fnv1a (Text.utf8Bytes runtimeQueueId)) = digest
  have hchars : ∀ ch ∈ digest.toList, isReferenceChar ch := by
    rw [← hdigest]
    exact isReferenceChar_hex16 _
  have hlength : digest.toList.length = 16 := by
    rw [← hdigest]
    exact length_hex16 _
  -- a fixed lead in front of the digest
  have hreference : ∀ lead ∈ ["receipt:runtime-queue/", "artifact:runtime-queue/transcript/"],
      Coordinator.validateOpaqueArtifactReference (lead ++ digest) = .ok () := by
    intro lead hlead
    have hleadChars : ∀ lead ∈ ["receipt:runtime-queue/", "artifact:runtime-queue/transcript/"],
        lead.toList.all isReferenceChar ∧ lead ≠ "" ∧ lead.toList.length ≤ 64
          ∧ ∃ scheme ∈ ["artifact:", "receipt:", "harness:", "sha256:"],
            scheme.toList <+: lead.toList := by
      decide
    obtain ⟨hlow, hne, hshort, scheme, hscheme, hstarts⟩ := hleadChars lead hlead
    apply validate_reference
    . intro hnil
      exact hne (String.append_eq_empty_iff.mp hnil).1
    . intro ch hch
      rw [String.toList_append, List.mem_append] at hch
      exact hch.elim (List.all_eq_true.mp hlow ch) (hchars ch)
    . rw [String.toList_append, List.length_append]
      omega
    . rw [List.any_eq_true]
      refine ⟨scheme, hscheme, ?_⟩
      unfold Text.startsWith
      rw [List.isPrefixOf_iff_prefix, String.toList_append]
      exact hstarts.trans (List.prefix_append _ _)
  have hvalid : ∀ pointer ∈ terminalArtifacts runtimeQueueId hasTranscript,
      pointer.validate = .ok () := by
    have hboth : ∀ kind, ∀ lead ∈ ["receipt:runtime-queue/", "artifact:runtime-queue/transcript/"],
        WorkerResultArtifactPointerV1.validate
          { kind := kind, reference := lead ++ digest, sha256 := none } = .ok () := by
      intro kind lead hlead
      unfold WorkerResultArtifactPointerV1.validate
      dsimp only
      rw [hreference lead hlead]
      rfl
    intro pointer hpointer
    unfold terminalArtifacts at hpointer
    dsimp only at hpointer
    rw [hdigest] at hpointer
    have hcases : pointer = ⟨.terminalReceipt, "receipt:runtime-queue/" ++ digest, none⟩
        ∨ pointer = ⟨.transcript, "artifact:runtime-queue/transcript/" ++ digest, none⟩ := by
      split at hpointer
      . simpa using hpointer
      . exact .inl (List.mem_singleton.mp hpointer)
    rcases hcases with rfl | rfl
    . exact hboth _ _ (by simp)
    . exact hboth _ _ (by simp)
  constructor
  . unfold terminalArtifacts
    dsimp only
    split <;> simp [Coordinator.maxResultArtifacts]
  . exact Except.forM_eq_ok.mpr hvalid

theorem envelope_new_iff (outcome : WorkerResultOutcomeV1) (summary runtimeQueueId : String)
    (hasTranscript : Bool)
    : (∃ envelope, WorkerResultEnvelopeV1.new outcome summary
          (terminalArtifacts runtimeQueueId hasTranscript) = .ok envelope)
        ↔ summary ≠ "" ∧ summary.utf8ByteSize ≤ maxResultSummaryBytes
          ∧ ∀ ch ∈ summary.toList, ¬Text.isControl ch := by
  obtain ⟨hcount, hvalid⟩ := validate_terminalArtifacts runtimeQueueId hasTranscript
  unfold WorkerResultEnvelopeV1.new WorkerResultEnvelopeV1.validate
  simp only [Except.bind_eq_ok, Except.require_eq_ok, decide_eq_true_iff]
  constructor
  . rintro ⟨_, _, ⟨_, _, _, hne, _, hbound, _, hcontrol, _⟩, _⟩
    refine ⟨hne, hbound, ?_⟩
    simpa [List.any_eq_false] using hcontrol
  . rintro ⟨hne, hbound, hcontrol⟩
    have hnone : (!summary.toList.any Text.isControl) = true := by
      simpa [List.any_eq_false] using hcontrol
    exact ⟨_, (), ⟨(), trivial, (), hne, (), hbound, (), hnone, (), hcount, hvalid⟩, rfl⟩

theorem redacted_ne_empty {text redacted : String} (htext : text ≠ "")
    (h : redactSensitive text = .ok redacted)
    : redacted ≠ "" := by
  obtain ⟨out, hout, hbytes⟩ := Memory.redactSensitive_eq text
  obtain rfl : redacted = out := Except.ok.inj (h.symm.trans hout)
  rintro rfl
  have hrender : (Memory.skeleton (Text.utf8Bytes text)).render = [] := hbytes.symm
  cases hcases : Text.utf8Bytes text with
  | nil =>
    apply htext
    apply Text.utf8Bytes_injective
    exact hcases
  | cons b bytes =>
    rw [hcases] at hrender
    exact Memory.render_skeleton_cons_ne_nil b bytes hrender

/-
The envelope takes the summary of a text exactly if the bound cuts off every control character that the
redaction leaves.
-/
theorem envelope_accepts_iff (text : String) (htext : text ≠ "") (outcome : WorkerResultOutcomeV1)
    (runtimeQueueId : String) (hasTranscript : Bool)
    : ∃ redacted summary, redactSensitive text = .ok redacted
        ∧ boundedRedactedWorkerSummary text = .ok (some summary)
        ∧ ((∃ envelope, WorkerResultEnvelopeV1.new outcome summary
              (terminalArtifacts runtimeQueueId hasTranscript) = .ok envelope)
            ↔ ControlsCutOff redacted) := by
  obtain ⟨redacted, hredacted, _⟩ := Memory.redactSensitive_eq text
  have hne := redacted_ne_empty htext hredacted
  by_cases hshort : redacted.utf8ByteSize ≤ maxResultSummaryBytes
  . refine ⟨redacted, redacted, hredacted, ?_, ?_⟩
    . unfold boundedRedactedWorkerSummary
      rw [hredacted]
      dsimp only [bind, Except.bind]
      rw [if_neg hne, if_pos hshort]
      rfl
    . rw [envelope_new_iff]
      unfold ControlsCutOff
      constructor
      . rintro ⟨_, _, hcontrol⟩ left ch right hchars hch
        exact absurd hch (hcontrol ch (by simp [hchars]))
      . intro hcut
        refine ⟨hne, hshort, fun ch hmem hch => ?_⟩
        obtain ⟨left, right, hchars⟩ := List.append_of_mem hmem
        have hlong := (hcut left ch right hchars hch).1
        omega
  . obtain ⟨kept, more, hchars, hslice, hbound, hnext⟩ :=
      boundaryAtMost_slice (s := redacted) (maxResultSummaryBytes - ellipsis.utf8ByteSize)
    refine ⟨redacted, String.ofList kept ++ ellipsis, hredacted, ?_, ?_⟩
    . unfold boundedRedactedWorkerSummary
      rw [hredacted]
      dsimp only [bind, Except.bind]
      rw [if_neg hne, if_neg hshort, hslice]
      rfl
    . have hsize : (String.ofList kept ++ ellipsis).utf8ByteSize ≤ maxResultSummaryBytes := by
        have hellipsis : ellipsis.utf8ByteSize = 3 := by decide
        have hmax : maxResultSummaryBytes = 4096 := rfl
        rw [String.utf8ByteSize_append, ← Text.length_utf8Bytes (String.ofList kept),
          Text.utf8Bytes_ofList]
        omega
      have hdots : ∀ ch ∈ ellipsis.toList, ¬Text.isControl ch :=
        Text.forall_mem_of_all (by decide)
      rw [envelope_new_iff]
      unfold ControlsCutOff
      constructor
      . rintro ⟨_, _, hcontrol⟩ left ch right hsplit hch
        refine ⟨by omega, ?_⟩
        have hsame : kept ++ more = left ++ ch :: right := hchars.symm.trans hsplit
        rcases List.append_eq_append_iff.mp hsame with ⟨inner, rfl, hmore⟩ | ⟨inner, hkept, hinner⟩
        . cases inner with
          | nil =>
            rw [List.append_nil]
            exact hnext ch right hmore
          | cons first inner =>
            have hlong := hnext first _ hmore
            simp only [Text.encode_append, Text.encode_cons, List.length_append] at hlong ⊢
            omega
        . cases inner with
          | nil =>
            rw [List.append_nil] at hkept
            rw [← hkept]
            exact hnext ch right hinner.symm
          | cons first inner =>
            obtain ⟨rfl, _⟩ := List.cons.inj hinner
            exact absurd hch (hcontrol ch (by simp [hkept]))
      . intro hcut
        refine ⟨by simp [ellipsis], hsize, fun ch hmem hch => ?_⟩
        rw [String.toList_append, String.toList_ofList, List.mem_append] at hmem
        rcases hmem with hmem | hmem
        . obtain ⟨left, right, rfl⟩ := List.append_of_mem hmem
          rw [List.append_assoc, List.cons_append] at hchars
          have hlong := (hcut left ch _ hchars hch).2
          have hnil : (Text.encode []).length = 0 := rfl
          simp only [Text.encode_append, Text.encode_cons, List.length_append] at hlong hbound
          omega
        . exact hdots ch hmem hch

-- what the mailbox takes for an identifier
structure IsMailboxIdentifier (value : String) : Prop where
  ne : value ≠ ""
  canonical : value = Text.trim value
  bounded : value.utf8ByteSize ≤ maxMailboxReferenceBytes
  plain : ∀ ch ∈ value.toList, ¬Text.isControl ch

theorem validateIdentifier_iff (field value : String) {u : Unit}
    : validateIdentifier field value = .ok u ↔ IsMailboxIdentifier value := by
  unfold validateIdentifier
  simp only [Except.bind_eq_ok, Except.require_eq_ok, decide_eq_true_eq, Bool.not_eq_true',
    List.any_eq_false]
  constructor
  . rintro ⟨_, hne, _, hcanonical, _, hbounded, hplain⟩
    exact ⟨hne, hcanonical, hbounded, hplain⟩
  . intro h
    exact ⟨(), h.ne, (), h.canonical, (), h.bounded, h.plain⟩

namespace CorrelatedTerminal

structure HasLegacyOwner (terminal : CorrelatedTerminal) : Prop where
  ownerRef : IsMailboxIdentifier ("worker-job:" ++ terminal.jobId)
  parent : ∀ parentJobId, terminal.parentJobId = some parentJobId → IsMailboxIdentifier parentJobId
  queue : IsMailboxIdentifier terminal.runtimeQueueId

def SummaryFits (self : CorrelatedTerminal) : Prop :=
  ∀ text redacted, self.transcript.join = some text → redactSensitive text = .ok redacted →
    ControlsCutOff redacted

variable {self : CorrelatedTerminal}

theorem validate_legacyOwner
    : self.legacyIncompleteResultOwner.validate = .ok () ↔ self.HasLegacyOwner := by
  have haxes : [Coordinator.LegacyOwnerMissingAxisV1.platform, .accountId, .channelId, .userId,
      .agentId, .runtimeClass, .rootVirtualSession, .concreteSession, .virtualSessionId].Nodup := by
    decide
  have hparent : ∀ u, Coordinator.validateOptionalIdentifier "parentWorkerJobId" self.parentJobId = .ok u
      ↔ ∀ parentJobId, self.parentJobId = some parentJobId → IsMailboxIdentifier parentJobId := by
    cases self.parentJobId with
    | none => simp [Coordinator.validateOptionalIdentifier]
    | some parentJobId => simp [Coordinator.validateOptionalIdentifier, validateIdentifier_iff]
  unfold legacyIncompleteResultOwner WorkerResultOwnerV1.validate
    Coordinator.LegacyIncompleteWorkerResultOwnerV0.validate
  simp only [Except.bind_eq_ok, Except.require_eq_ok, hparent]
  simp only [Coordinator.validateOptionalIdentifier, validateIdentifier_iff, haxes]
  constructor
  . rintro ⟨_, _, _, href, _, _, _, hparent, _, _, _, hqueue, _⟩
    exact ⟨href, hparent, hqueue⟩
  . intro h
    exact ⟨(), rfl, (), h.ownerRef, (), trivial, (), h.parent, (), trivial, (), h.queue, (), trivial, (),
      trivial, (), rfl, rfl⟩

theorem validate_resultOwner
    : self.resultOwner.validate = .ok () ↔ self.exactOwner.isSome ∨ self.HasLegacyOwner := by
  unfold resultOwner
  cases howner : self.exactOwner with
  | none => simp [validate_legacyOwner]
  | some owner =>
    have hvalid : owner.validate = .ok () := by
      unfold exactOwner at howner
      split at howner
      . split at howner
        . next hok =>
          injection howner with howner
          rw [← howner]
          cases hvalidate : ExactWorkerResultOwnerV1.validate _ with
          | ok u => rfl
          | error e =>
            rw [hvalidate] at hok
            cases hok
        . cases howner
      . cases howner
    simp [WorkerResultOwnerV1.validate, hvalid]

theorem ownerKey_resultOwner (h : self.resultOwner.validate = .ok ())
    : ∃ ownerKey, self.resultOwner.ownerKey = .ok ownerKey := by
  cases howner : self.resultOwner with
  | legacyIncomplete owner => exact ⟨none, rfl⟩
  | exact owner =>
    rw [howner] at h
    rw [WorkerResultOwnerV1.ownerKey, ExactWorkerResultOwnerV1.ownerKey_eq h]
    exact ⟨_, rfl⟩

theorem redactedSummary_spec
    : ∃ summary, self.redactedSummary = .ok summary
        ∧ ((∃ envelope, WorkerResultEnvelopeV1.new self.outcome summary
              (terminalArtifacts self.runtimeQueueId self.transcript.isSome) = .ok envelope)
            ↔ self.SummaryFits) := by
  have hdefault : ∃ envelope, WorkerResultEnvelopeV1.new self.outcome self.defaultSummary
      (terminalArtifacts self.runtimeQueueId self.transcript.isSome) = .ok envelope := by
    rw [envelope_new_iff]
    unfold defaultSummary
    cases self.workerStatus <;>
      exact ⟨by decide +kernel, by decide +kernel, Text.forall_mem_of_all (by decide +kernel)⟩
  unfold redactedSummary SummaryFits
  cases htext : self.transcript.join with
  | none => exact ⟨_, rfl, by simp [hdefault]⟩
  | some text =>
    by_cases hempty : text = ""
    . have hnone : redactSensitive "" = .ok "" ∧ boundedRedactedWorkerSummary "" = .ok none := by
        decide +kernel
      dsimp only
      rw [hempty, hnone.2]
      refine ⟨self.defaultSummary, rfl, iff_of_true hdefault ?_⟩
      intro text redacted htext hredacted left ch right hsplit
      injection htext with htext
      rw [← htext, hnone.1, Except.ok.injEq] at hredacted
      rw [← hredacted] at hsplit
      simp at hsplit
    . obtain ⟨redacted, summary, hredacted, hsummary, hiff⟩ :=
        envelope_accepts_iff text hempty self.outcome self.runtimeQueueId self.transcript.isSome
      dsimp only
      rw [hsummary]
      refine ⟨summary, rfl, hiff.trans ?_⟩
      constructor
      . intro hcut text redacted' htext hredacted'
        injection htext with htext
        rw [← htext, hredacted, Except.ok.injEq] at hredacted'
        rw [← hredacted']
        exact hcut
      . intro hfits
        exact hfits text redacted rfl hredacted

end CorrelatedTerminal

/-
The job is still queued, the identifiers are in form, no control character is left in the summary, and
the mailbox has nothing else under the key of the event.
-/
structure TerminalStore.Accepts (store : TerminalStore) (nowMs : Int) (terminal : CorrelatedTerminal)
    : Prop where
  queued : terminal.jobId ∈ store.runtimeQueued
  time : 0 ≤ nowMs
  jobId : IsMailboxIdentifier terminal.jobId
  eventKey : IsMailboxIdentifier terminal.terminalEventKey
  owner : terminal.exactOwner.isSome ∨ terminal.HasLegacyOwner
  summary : terminal.SummaryFits
  unbound : ∀ row ∈ store.mailbox.rows, row.terminalEventKey = terminal.terminalEventKey →
    ∀ summary envelope, terminal.redactedSummary = .ok summary →
      WorkerResultEnvelopeV1.new terminal.outcome summary
        (terminalArtifacts terminal.runtimeQueueId terminal.transcript.isSome) = .ok envelope →
      row.eventDigest = terminalEventDigest (terminal.mailboxInsert nowMs envelope)

section Commit

variable {store later : TerminalStore} {nowMs : Int} {terminal : CorrelatedTerminal}

theorem validate_mailboxInsert {envelope : WorkerResultEnvelopeV1} (henvelope : envelope.validate = .ok ())
    : (terminal.mailboxInsert nowMs envelope).validate = .ok ()
        ↔ IsMailboxIdentifier terminal.terminalEventKey ∧ terminal.resultOwner.validate = .ok ()
          ∧ IsMailboxIdentifier terminal.jobId ∧ 0 ≤ nowMs := by
  unfold WorkerResultMailboxInsertV1.validate CorrelatedTerminal.mailboxInsert Coordinator.validateTimestamp
  simp only [Except.bind_eq_ok, Except.require_eq_ok, validateIdentifier_iff,
    Coordinator.validateOptionalIdentifier, henvelope, decide_eq_true_eq]
  constructor
  . rintro ⟨_, hkey, _, howner, _, _, _, hjob, htime⟩
    exact ⟨hkey, howner, hjob, htime⟩
  . rintro ⟨hkey, howner, hjob, htime⟩
    exact ⟨(), hkey, (), howner, (), trivial, (), hjob, htime⟩

theorem new_validate {outcome : WorkerResultOutcomeV1} {summary : String}
    {artifacts : List WorkerResultArtifactPointerV1} {envelope : WorkerResultEnvelopeV1}
    (h : WorkerResultEnvelopeV1.new outcome summary artifacts = .ok envelope)
    : envelope.validate = .ok () := by
  unfold WorkerResultEnvelopeV1.new at h
  obtain ⟨_, hvalid, heq⟩ := Except.bind_eq_ok.mp h
  injection heq with heq
  rw [← heq]
  exact hvalid

theorem setRuntimeTerminal_iff
    : (∃ later, setRuntimeTerminalWithMailbox store nowMs terminal = .ok later)
        ↔ store.Accepts nowMs terminal := by
  obtain ⟨summary, hsummary, hfits⟩ := terminal.redactedSummary_spec
  unfold setRuntimeTerminalWithMailbox
  simp only [Except.bind_eq_ok, Except.require_eq_ok, Except.mapError_eq_ok, decide_eq_true_eq, hsummary,
    Except.ok.injEq]
  constructor
  . rintro ⟨later, _, hqueued, _, rfl, envelope, henvelope, hinsert⟩
    split at hinsert
    . cases hinsert
    . next outcome mailbox hok =>
      obtain ⟨hvalid, ownerKey, hownerKey, hcases⟩ := Coordinator.insertTerminalResult_ok hok
      obtain ⟨hkey, howner, hjob, htime⟩ := (validate_mailboxInsert (new_validate henvelope)).mp hvalid
      exact {
        queued := hqueued
        time := htime
        jobId := hjob
        eventKey := hkey
        owner := CorrelatedTerminal.validate_resultOwner.mp howner
        summary := hfits.mp ⟨envelope, henvelope⟩
        unbound := by
          intro row hrow hrowKey summary' envelope' hsummary' henvelope'
          rw [hsummary, Except.ok.injEq] at hsummary'
          rw [← hsummary', henvelope, Except.ok.injEq] at henvelope'
          rw [← henvelope']
          rcases hcases with ⟨habsent, _⟩ | ⟨⟨other, hother, hotherKey, hdigest⟩, _⟩
          . exact absurd hrowKey (habsent row hrow)
          . have hsame : row = other := Mailbox.eq_of_terminalEventKey hrow hother
              (hrowKey.trans hotherKey.symm)
            rw [hsame]
            exact hdigest }
  . intro h
    obtain ⟨envelope, henvelope⟩ := hfits.mpr h.summary
    have howner := CorrelatedTerminal.validate_resultOwner.mpr h.owner
    have hvalid : (terminal.mailboxInsert nowMs envelope).validate = .ok () :=
      (validate_mailboxInsert (new_validate henvelope)).mpr ⟨h.eventKey, howner, h.jobId, h.time⟩
    obtain ⟨ownerKey, hownerKey⟩ := CorrelatedTerminal.ownerKey_resultOwner howner
    obtain ⟨outcome, mailbox, hok⟩ := Coordinator.insertTerminalResult_isOk hvalid hownerKey
      (fun row hrow hkey => h.unbound row hrow hkey summary envelope hsummary henvelope)
    refine ⟨{
      runtimeQueued := store.runtimeQueued.filter (· ≠ terminal.jobId)
      mailbox }, (), h.queued, summary, rfl, envelope, henvelope, ?_⟩
    rw [hok]
    rfl

theorem setRuntimeTerminal_frame (h : setRuntimeTerminalWithMailbox store nowMs terminal = .ok later)
    : later.runtimeQueued = store.runtimeQueued.filter (· ≠ terminal.jobId)
        ∧ ∀ row, row.terminalEventKey ≠ terminal.terminalEventKey →
          (row ∈ later.mailbox.rows ↔ row ∈ store.mailbox.rows) := by
  unfold setRuntimeTerminalWithMailbox at h
  simp only [Except.bind_eq_ok] at h
  obtain ⟨_, _, summary, _, envelope, _, hinsert⟩ := h
  split at hinsert
  . cases hinsert
  . next outcome mailbox hok =>
    injection hinsert with hinsert
    rw [← hinsert]
    refine ⟨rfl, ?_⟩
    intro row hkey
    obtain ⟨_, ownerKey, _, ⟨_, hrows⟩ | ⟨_, hsame⟩⟩ := Coordinator.insertTerminalResult_ok hok
    . rw [hrows, List.mem_append, List.mem_singleton, or_iff_left]
      intro heq
      apply hkey
      rw [heq]
      rfl
    . rw [hsame]

theorem terminalEventKey_ne {other : CorrelatedTerminal} (h : other.jobId ≠ terminal.jobId)
    : other.terminalEventKey ≠ terminal.terminalEventKey := by
  intro heq
  apply h
  unfold CorrelatedTerminal.terminalEventKey at heq
  rw [String.ext_iff] at heq
  simp only [String.toList_append, List.append_assoc] at heq
  have hrest := List.append_cancel_left heq
  rw [← List.append_assoc, ← List.append_assoc] at hrest
  have hparts := List.append_inj' hrest (by rw [length_hex16, length_hex16])
  exact String.toList_injective (List.append_cancel_right hparts.1)

theorem accepts_of_other {other : CorrelatedTerminal} (hne : other.jobId ≠ terminal.jobId)
    (h : setRuntimeTerminalWithMailbox store nowMs terminal = .ok later)
    : later.Accepts nowMs other ↔ store.Accepts nowMs other := by
  obtain ⟨hqueued, hrows⟩ := setRuntimeTerminal_frame h
  have hmem : other.jobId ∈ later.runtimeQueued ↔ other.jobId ∈ store.runtimeQueued := by
    rw [hqueued, List.mem_filter]
    simp [hne]
  have hkey : ∀ row : Coordinator.MailboxRow, row.terminalEventKey = other.terminalEventKey →
      (row ∈ later.mailbox.rows ↔ row ∈ store.mailbox.rows) := by
    intro row hrow
    apply hrows
    rw [hrow]
    exact terminalEventKey_ne hne
  constructor
  . intro haccepts
    exact { haccepts with
      queued := hmem.mp haccepts.queued
      unbound := fun row hrow heq => haccepts.unbound row ((hkey row heq).mpr hrow) heq }
  . intro haccepts
    exact { haccepts with
      queued := hmem.mpr haccepts.queued
      unbound := fun row hrow heq => haccepts.unbound row ((hkey row heq).mp hrow) heq }

end Commit

/-
A pass of the worker gets through its terminals exactly if it can commit each of them: none stands in the
way of another.
-/
theorem reconcile_commits_iff (nowMs : Int) (terminals : List CorrelatedTerminal) (store : TerminalStore)
    (hdistinct : (terminals.map CorrelatedTerminal.jobId).Nodup)
    : (commitRuntimeTerminals nowMs terminals store).2 = .ok ()
        ↔ ∀ terminal ∈ terminals, store.Accepts nowMs terminal := by
  induction terminals generalizing store with
  | nil => simp [commitRuntimeTerminals]
  | cons terminal terminals ih =>
    rw [List.map_cons, List.nodup_cons] at hdistinct
    rw [List.forall_mem_cons, ← setRuntimeTerminal_iff]
    unfold commitRuntimeTerminals
    cases hset : setRuntimeTerminalWithMailbox store nowMs terminal with
    | error e => simp
    | ok later =>
      dsimp only
      rw [ih later hdistinct.2, and_iff_right ⟨later, rfl⟩]
      apply forall₂_congr
      intro other hother
      apply accepts_of_other _ hset
      intro heq
      exact hdistinct.1 (heq ▸ List.mem_map_of_mem hother)

def sampleTerminal (jobId runtimeQueueId : String) (text : Option String) : CorrelatedTerminal where
  jobId
  parentJobId := some "job:0"
  resultOwnerJson := none
  runtimeQueueId
  workerStatus := .succeeded
  transcript := some text

def sampleTerminalStore : TerminalStore where
  runtimeQueued := ["job:1", "job:2"]
  mailbox := Table.empty _

theorem reconcile_commits_sample
    : let terminals := [sampleTerminal "job:1" "queue-1" (some "done"), sampleTerminal "job:2" "queue-2" none]
      (terminals.map CorrelatedTerminal.jobId).Nodup
      ∧ ∀ terminal ∈ terminals, sampleTerminalStore.Accepts 1000 terminal := by
  intro terminals
  have hdistinct : (terminals.map CorrelatedTerminal.jobId).Nodup := by decide
  refine ⟨hdistinct, (reconcile_commits_iff 1000 terminals sampleTerminalStore hdistinct).mp ?_⟩
  decide +kernel

-- the pass commits nothing, and the next one will find the same
theorem lines_block_reconcile
    : let terminals := [sampleTerminal "job:1" "queue-1" (some "a\nb"), sampleTerminal "job:2" "queue-2" none]
      boundedRedactedWorkerSummary "a\nb" = .ok (some "a\nb")
      ∧ ¬(∃ envelope, WorkerResultEnvelopeV1.new .succeeded "a\nb" (terminalArtifacts "queue-1" true)
          = .ok envelope)
      ∧ (commitRuntimeTerminals 1000 terminals sampleTerminalStore).2 ≠ .ok ()
      ∧ (commitRuntimeTerminals 1000 terminals sampleTerminalStore).1.runtimeQueued
        = sampleTerminalStore.runtimeQueued := by
  refine ⟨by decide +kernel, ?_, by decide +kernel, by decide +kernel⟩
  rw [envelope_new_iff]
  rintro ⟨_, _, hcontrol⟩
  exact hcontrol '\n' (by decide) (by decide)

end WorkerStore
