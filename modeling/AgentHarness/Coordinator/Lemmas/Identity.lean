import AgentHarness.Lib.Encoding
import AgentHarness.Coordinator.Lemmas.Replay

/-!
What the bytes of a lane and the keys of an owner identify.
-/

namespace Lane

theorem appendComponent_eq (bytes : List UInt8) (name value : String)
    : appendComponent bytes name value = bytes ++ Text.component name value := by
  simp [appendComponent, Text.component, Text.frame]

theorem foldl_appendComponent {α : Type} (part : α → String × String) (parts : List α)
    (bytes : List UInt8)
    : parts.foldl (fun bytes a => appendComponent bytes (part a).1 (part a).2) bytes
        = bytes ++ Text.components (parts.map part) := by
  induction parts generalizing bytes with
  | nil => simp [Text.components]
  | cons a parts ih =>
    rw [List.foldl_cons, ih, appendComponent_eq, List.append_assoc]
    rfl

def namedAxis (axis : FullLaneAxisV1 × String) : String × String :=
  (axis.1.fieldName, axis.2)

theorem fieldName_injective : Function.Injective FullLaneAxisV1.fieldName := by
  intro left right h
  cases left <;> cases right <;> first | rfl | exact absurd h (by decide)

theorem namedAxis_injective : Function.Injective namedAxis := by
  intro left right h
  unfold namedAxis at h
  rw [Prod.mk.injEq] at h
  exact Prod.ext (fieldName_injective h.1) h.2

theorem fieldName_size (axis : FullLaneAxisV1) : axis.fieldName.utf8ByteSize < 2 ^ 64 := by
  cases axis <;> decide

theorem validateCanonical_ok {axis : FullLaneAxisV1} {value : String}
    (h : validateCanonical axis value = .ok ())
    : value.utf8ByteSize ≤ maxFullLaneAxisBytes := by
  unfold validateCanonical validateCommon at h
  grind

namespace FullLaneKeyV1

variable {a b : FullLaneKeyV1}

theorem componentBytes_eq (self : FullLaneKeyV1) (domain : String)
    (axes : List (FullLaneAxisV1 × String))
    : self.componentBytes domain axes
        = Text.components
            (("domain", domain) :: ("schema", self.schema) :: axes.map namedAxis) := by
  have hfold := foldl_appendComponent namedAxis axes
  unfold componentBytes
  unfold namedAxis at hfold ⊢
  rw [hfold, appendComponent_eq, appendComponent_eq]
  simp [Text.components]

theorem validateAxes_ok {axes : List (FullLaneAxisV1 × String)} (h : validateAxes axes = .ok ())
    : ∀ axis ∈ axes, axis.2.utf8ByteSize ≤ maxFullLaneAxisBytes := by
  induction axes with
  | nil => simp
  | cons axis axes ih =>
    unfold validateAxes at h
    split at h
    . cases h
    . next hvalid =>
      rw [List.forall_mem_cons]
      exact ⟨validateCanonical_ok hvalid, ih h⟩

theorem validate_ok (h : a.validate = .ok ())
    : a.schema = fullLaneKeySchema
        ∧ ∀ axis ∈ a.axes, axis.2.utf8ByteSize ≤ maxFullLaneAxisBytes := by
  unfold validate at h
  split at h
  . cases h
  . next hschema => exact ⟨not_not.mp hschema, validateAxes_ok h⟩

theorem framable (h : a.validate = .ok ()) {domain : String} (hdomain : domain.utf8ByteSize < 2 ^ 64)
    {axes : List (FullLaneAxisV1 × String)} (haxes : axes ⊆ a.axes)
    : ∀ part ∈ ("domain", domain) :: ("schema", a.schema) :: axes.map namedAxis,
        Text.Framable part := by
  obtain ⟨hschema, hsizes⟩ := validate_ok h
  rw [hschema, List.forall_mem_cons, List.forall_mem_cons]
  refine ⟨Text.framable_mk (by decide) hdomain, Text.framable_mk (by decide) (by decide), ?_⟩
  intro part hpart
  rw [List.mem_map] at hpart
  obtain ⟨axis, haxis, rfl⟩ := hpart
  have hsize := hsizes axis (haxes haxis)
  unfold maxFullLaneAxisBytes at hsize
  exact Text.framable_mk (fieldName_size axis.1) (by omega)

theorem componentBytes_inj (ha : a.validate = .ok ()) (hb : b.validate = .ok ()) (domain : String)
    (hdomain : domain.utf8ByteSize < 2 ^ 64) (n : Nat)
    : a.componentBytes domain (a.axes.take n) = b.componentBytes domain (b.axes.take n)
        ↔ a.axes.take n = b.axes.take n := by
  rw [componentBytes_eq, componentBytes_eq]
  constructor
  . intro h
    have h := Text.components_inj (framable ha hdomain (List.take_subset n a.axes))
      (framable hb hdomain (List.take_subset n b.axes)) h
    rw [List.cons.injEq, List.cons.injEq] at h
    exact List.map_injective_iff.mpr namedAxis_injective h.2.2
  . intro h
    rw [h, (validate_ok ha).1, (validate_ok hb).1]

theorem eq_of_axes (hschema : a.schema = b.schema) (haxes : a.axes = b.axes) : a = b := by
  cases a
  cases b
  simp only [axes, List.cons.injEq, Prod.mk.injEq, true_and, and_true] at haxes
  simp_all

theorem axes_take_eight (self : FullLaneKeyV1) : self.axes.take 8 = self.axes := rfl

theorem canonicalBytes_eq_iff (ha : a.validate = .ok ()) (hb : b.validate = .ok ())
    : a.canonicalBytes = b.canonicalBytes ↔ a = b := by
  unfold canonicalBytes
  rw [ha, hb]
  constructor
  . intro h
    have h : a.componentBytes canonicalDomain (a.axes.take 8)
        = b.componentBytes canonicalDomain (b.axes.take 8) := by simpa [axes_take_eight] using h
    rw [componentBytes_inj ha hb _ (by decide), axes_take_eight, axes_take_eight] at h
    exact eq_of_axes ((validate_ok ha).1.trans (validate_ok hb).1.symm) h
  . intro h
    rw [h]

theorem virtualBytes_eq_iff (ha : a.validate = .ok ()) (hb : b.validate = .ok ())
    : a.virtualBytes = b.virtualBytes ↔ a.axes.take 7 = b.axes.take 7 := by
  unfold virtualBytes
  rw [ha, hb, ← componentBytes_inj ha hb virtualCanonicalDomain (by decide)]
  simp

-- a rollover changes the concrete session only, and keeps the hash
theorem virtualIdentityHash_eq (ha : a.validate = .ok ()) (hb : b.validate = .ok ())
    (haxes : a.axes.take 7 = b.axes.take 7)
    : a.virtualIdentityHash = b.virtualIdentityHash := by
  unfold virtualIdentityHash
  rw [(virtualBytes_eq_iff ha hb).mpr haxes]

end FullLaneKeyV1

end Lane

namespace Coordinator

theorem hashNamedComponents_eq (domain : String) (components : List (String × String))
    : hashNamedComponents domain components
        = Text.hex (Sha256.digest (Text.components (("domain", domain) :: components))) := by
  have hfold := Lane.foldl_appendComponent id components
  rw [List.map_id] at hfold
  unfold id at hfold
  unfold hashNamedComponents
  dsimp only
  rw [hfold, Lane.appendComponent_eq]
  simp [Text.components]

theorem validateIdentifier_ok {field value : String} (h : validateIdentifier field value = .ok ())
    : value ≠ "" ∧ value.utf8ByteSize ≤ maxMailboxReferenceBytes := by
  unfold validateIdentifier at h
  simp only [Except.bind_eq_ok, Except.require_eq_ok, decide_eq_true_eq] at h
  obtain ⟨_, hne, _, _, _, hsize, _⟩ := h
  exact ⟨hne, hsize⟩

def IsIdentifier (value : Option String) : Prop :=
  ∀ text ∈ value, text ≠ "" ∧ text.utf8ByteSize ≤ maxMailboxReferenceBytes

theorem validateOptionalIdentifier_ok {field : String} {value : Option String}
    (h : validateOptionalIdentifier field value = .ok ())
    : IsIdentifier value := by
  intro text htext
  obtain rfl := Option.mem_def.mp htext
  exact validateIdentifier_ok h

theorem getD_inj {left right : Option String} (hleft : IsIdentifier left)
    (hright : IsIdentifier right) (h : left.getD "" = right.getD "")
    : left = right := by
  cases left with
  | none =>
    cases right with
    | none => rfl
    | some text => exact absurd h.symm (hright text rfl).1
  | some text =>
    cases right with
    | none => exact absurd h (hleft text rfl).1
    | some other => exact congrArg some h

theorem getD_size {value : Option String} (h : IsIdentifier value)
    : (value.getD "").utf8ByteSize < 2 ^ 64 := by
  cases value with
  | none => decide
  | some text =>
    have hsize := (h text rfl).2
    unfold maxMailboxReferenceBytes at hsize
    exact lt_of_le_of_lt hsize (by decide)

namespace ExactWorkerResultOwnerV1

variable {a b : ExactWorkerResultOwnerV1}

structure Valid (owner : ExactWorkerResultOwnerV1) : Prop where
  schema : owner.schema = workerResultOwnerSchema
  lane : owner.lane.validate = .ok ()
  virtualSessionId : IsIdentifier (some owner.virtualSessionId)
  parentWorkerJobId : IsIdentifier owner.parentWorkerJobId
  parentQueueId : IsIdentifier owner.parentQueueId
  sourceQueueId : IsIdentifier (some owner.sourceQueueId)
  operationPlanId : IsIdentifier owner.operationPlanId
  operationPlanItemId : IsIdentifier owner.operationPlanItemId

theorem validate_ok (h : a.validate = .ok ()) : a.Valid := by
  unfold validate invalidLane at h
  simp only [Except.bind_eq_ok, Except.require_eq_ok, Except.mapError_eq_ok, decide_eq_true_eq] at h
  obtain ⟨_, hschema, _, hlane, _, _, _, hsession, _, hjob, _, hqueue, _, hsource, _, hplan, _, hitem,
    _⟩ := h
  constructor
  . exact hschema
  . exact hlane
  . exact validateOptionalIdentifier_ok hsession
  . exact validateOptionalIdentifier_ok hjob
  . exact validateOptionalIdentifier_ok hqueue
  . exact validateOptionalIdentifier_ok hsource
  . exact validateOptionalIdentifier_ok hplan
  . exact validateOptionalIdentifier_ok hitem

-- the three byte strings that SHA-256 is applied to for the keys of an owner

def laneBytes (owner : ExactWorkerResultOwnerV1) : List UInt8 :=
  owner.lane.componentBytes Lane.canonicalDomain owner.lane.axes

def laneHash (owner : ExactWorkerResultOwnerV1) : String :=
  Text.hex (Sha256.digest owner.laneBytes)

def ownerParts (owner : ExactWorkerResultOwnerV1) : List (String × String) := [
  ("domain", ownerHashDomain),
  ("schema", owner.schema),
  ("laneHash", owner.laneHash),
  ("virtualSessionId", owner.virtualSessionId),
  ("parentWorkerJobId", owner.parentWorkerJobId.getD ""),
  ("parentQueueId", owner.parentQueueId.getD ""),
  ("sourceQueueId", owner.sourceQueueId),
  ("operationPlanId", owner.operationPlanId.getD ""),
  ("operationPlanItemId", owner.operationPlanItemId.getD "")]

def coordinatorParts (owner : ExactWorkerResultOwnerV1) : List (String × String) := [
  ("domain", coordinatorHashDomain),
  ("schema", owner.schema),
  ("laneHash", owner.laneHash),
  ("virtualSessionId", owner.virtualSessionId),
  ("parentWorkerJobId", owner.parentWorkerJobId.getD ""),
  ("parentQueueId", owner.parentQueueId.getD ""),
  ("operationPlanId", owner.operationPlanId.getD ""),
  ("operationPlanItemId", owner.operationPlanItemId.getD "")]

def hashedBytes (owner : ExactWorkerResultOwnerV1) : List (List UInt8) :=
  [owner.laneBytes, Text.components owner.ownerParts, Text.components owner.coordinatorParts]

/-
What injectivity of SHA-256 says about the keys of two owners: where they hash different bytes for
the same purpose, the digests differ.
-/
def KeptApart (a b : ExactWorkerResultOwnerV1) : Prop :=
  List.Forall₂ (fun left right => Sha256.digest left = Sha256.digest right → left = right)
    a.hashedBytes b.hashedBytes

theorem identityHash_eq (h : a.Valid) : a.lane.identityHash = .ok a.laneHash := by
  unfold Lane.FullLaneKeyV1.identityHash Lane.FullLaneKeyV1.canonicalBytes
  rw [h.lane]
  rfl

theorem ownerKey_eq (h : a.validate = .ok ())
    : a.ownerKey = .ok (Text.hex (Sha256.digest (Text.components a.ownerParts))) := by
  have hlane := identityHash_eq (validate_ok h)
  unfold ownerKey invalidLane
  rw [h, hlane]
  simp only [hashNamedComponents_eq]
  rfl

theorem coordinatorKey_eq (h : a.validate = .ok ()) (hqueue : a.parentQueueId.isSome)
    : a.coordinatorKey = .ok (Text.hex (Sha256.digest (Text.components a.coordinatorParts))) := by
  have hlane := identityHash_eq (validate_ok h)
  obtain ⟨parentQueueId, hqueue⟩ := Option.isSome_iff_exists.mp hqueue
  unfold coordinatorKey invalidLane coordinatorParts
  rw [h, hlane, hqueue]
  simp only [hashNamedComponents_eq]
  rfl

theorem laneHash_size (owner : ExactWorkerResultOwnerV1) : owner.laneHash.utf8ByteSize < 2 ^ 64 := by
  have hsize := Text.utf8ByteSize_hex_le (Sha256.digest owner.laneBytes)
  rw [Sha256.length_digest] at hsize
  exact lt_of_le_of_lt hsize (by decide)

theorem framable_ownerParts (h : a.Valid) : ∀ part ∈ a.ownerParts, Text.Framable part := by
  unfold ownerParts
  simp only [List.forall_mem_cons, List.not_mem_nil, false_implies, implies_true, and_true]
  refine ⟨?_, ?_, ?_, ?_, ?_, ?_, ?_, ?_, ?_⟩
  . exact Text.framable_mk (by decide) (by decide)
  . rw [h.schema]
    exact Text.framable_mk (by decide) (by decide)
  . exact Text.framable_mk (by decide) (laneHash_size a)
  . exact Text.framable_mk (by decide) (getD_size h.virtualSessionId)
  . exact Text.framable_mk (by decide) (getD_size h.parentWorkerJobId)
  . exact Text.framable_mk (by decide) (getD_size h.parentQueueId)
  . exact Text.framable_mk (by decide) (getD_size h.sourceQueueId)
  . exact Text.framable_mk (by decide) (getD_size h.operationPlanId)
  . exact Text.framable_mk (by decide) (getD_size h.operationPlanItemId)

theorem mem_ownerParts {part : String × String} (h : part ∈ a.coordinatorParts.tail)
    : part ∈ a.ownerParts := by
  unfold coordinatorParts at h
  unfold ownerParts
  simp only [List.tail_cons, List.mem_cons, List.not_mem_nil, or_false] at h ⊢
  tauto

theorem framable_coordinatorParts (h : a.Valid)
    : ∀ part ∈ a.coordinatorParts, Text.Framable part := by
  intro part hpart
  cases List.mem_cons.mp hpart with
  | inl heq =>
    rw [heq]
    exact Text.framable_mk (by decide) (by decide)
  | inr htail => exact framable_ownerParts h part (mem_ownerParts htail)

theorem KeptApart.lane (h : KeptApart a b) (hhash : a.laneHash = b.laneHash)
    : a.laneBytes = b.laneBytes := by
  unfold KeptApart hashedBytes at h
  rw [List.forall₂_cons] at h
  exact h.1 (Text.hex_injective hhash)

theorem KeptApart.owner (h : KeptApart a b)
    (hhash : Sha256.digest (Text.components a.ownerParts)
      = Sha256.digest (Text.components b.ownerParts))
    : Text.components a.ownerParts = Text.components b.ownerParts := by
  unfold KeptApart hashedBytes at h
  rw [List.forall₂_cons, List.forall₂_cons] at h
  exact h.2.1 hhash

theorem KeptApart.coordinator (h : KeptApart a b)
    (hhash : Sha256.digest (Text.components a.coordinatorParts)
      = Sha256.digest (Text.components b.coordinatorParts))
    : Text.components a.coordinatorParts = Text.components b.coordinatorParts := by
  unfold KeptApart hashedBytes at h
  rw [List.forall₂_cons, List.forall₂_cons, List.forall₂_cons] at h
  exact h.2.2.1 hhash

theorem lane_eq_of_laneHash (ha : a.Valid) (hb : b.Valid) (hapart : KeptApart a b)
    (h : a.laneHash = b.laneHash)
    : a.lane = b.lane := by
  have hbytes := hapart.lane h
  rw [← Lane.FullLaneKeyV1.canonicalBytes_eq_iff ha.lane hb.lane]
  unfold Lane.FullLaneKeyV1.canonicalBytes
  rw [ha.lane, hb.lane]
  exact congrArg Except.ok hbytes

theorem eq_except_source (ha : a.Valid) (hb : b.Valid) (hapart : KeptApart a b)
    (h : a.coordinatorParts = b.coordinatorParts)
    : a = { b with sourceQueueId := a.sourceQueueId } := by
  unfold coordinatorParts at h
  simp only [List.cons.injEq, Prod.mk.injEq, true_and, and_true] at h
  obtain ⟨hschema, hlane, hsession, hjob, hqueue, hplan, hitem⟩ := h
  have hlane := lane_eq_of_laneHash ha hb hapart hlane
  have hjob := getD_inj ha.parentWorkerJobId hb.parentWorkerJobId hjob
  have hqueue := getD_inj ha.parentQueueId hb.parentQueueId hqueue
  have hplan := getD_inj ha.operationPlanId hb.operationPlanId hplan
  have hitem := getD_inj ha.operationPlanItemId hb.operationPlanItemId hitem
  cases a
  cases b
  simp_all

theorem coordinatorParts_of_ownerParts (h : a.ownerParts = b.ownerParts)
    : a.coordinatorParts = b.coordinatorParts ∧ a.sourceQueueId = b.sourceQueueId := by
  unfold ownerParts at h
  unfold coordinatorParts
  simp_all

theorem coordinatorParts_congr (h : a = { b with sourceQueueId := a.sourceQueueId })
    : a.coordinatorParts = b.coordinatorParts := by
  rw [h]
  rfl

theorem ownerKey_eq_iff (ha : a.validate = .ok ()) (hb : b.validate = .ok ())
    (hapart : KeptApart a b)
    : a.ownerKey = b.ownerKey ↔ a = b := by
  have hva := validate_ok ha
  have hvb := validate_ok hb
  constructor
  . intro h
    rw [ownerKey_eq ha, ownerKey_eq hb, Except.ok.injEq] at h
    have hbytes := hapart.owner (Text.hex_injective h)
    have hparts := Text.components_inj (framable_ownerParts hva) (framable_ownerParts hvb) hbytes
    obtain ⟨hcoordinator, hsource⟩ := coordinatorParts_of_ownerParts hparts
    rw [eq_except_source hva hvb hapart hcoordinator, hsource]
  . intro h
    rw [h]

theorem coordinatorKey_eq_iff (ha : a.validate = .ok ()) (hb : b.validate = .ok ())
    (hqueueA : a.parentQueueId.isSome) (hqueueB : b.parentQueueId.isSome) (hapart : KeptApart a b)
    : a.coordinatorKey = b.coordinatorKey ↔ a = { b with sourceQueueId := a.sourceQueueId } := by
  have hva := validate_ok ha
  have hvb := validate_ok hb
  rw [coordinatorKey_eq ha hqueueA, coordinatorKey_eq hb hqueueB, Except.ok.injEq]
  constructor
  . intro h
    have hbytes := hapart.coordinator (Text.hex_injective h)
    have hparts := Text.components_inj (framable_coordinatorParts hva)
      (framable_coordinatorParts hvb) hbytes
    exact eq_except_source hva hvb hapart hparts
  . intro h
    rw [coordinatorParts_congr h]

end ExactWorkerResultOwnerV1

theorem identities_are_injective
    : (∀ a b : Lane.FullLaneKeyV1, a.validate = .ok () → b.validate = .ok ()
        → (a.canonicalBytes = b.canonicalBytes ↔ a = b)
          ∧ (a.virtualBytes = b.virtualBytes ↔ a.axes.take 7 = b.axes.take 7))
      ∧ ∀ a b : ExactWorkerResultOwnerV1, a.validate = .ok () → b.validate = .ok ()
        → a.parentQueueId.isSome → b.parentQueueId.isSome → a.KeptApart b
        → (a.ownerKey = b.ownerKey ↔ a = b)
          ∧ (a.coordinatorKey = b.coordinatorKey
            ↔ a = { b with sourceQueueId := a.sourceQueueId }) := by
  constructor
  . intro a b ha hb
    exact ⟨Lane.FullLaneKeyV1.canonicalBytes_eq_iff ha hb,
      Lane.FullLaneKeyV1.virtualBytes_eq_iff ha hb⟩
  . intro a b ha hb hqueueA hqueueB hapart
    exact ⟨ExactWorkerResultOwnerV1.ownerKey_eq_iff ha hb hapart,
      ExactWorkerResultOwnerV1.coordinatorKey_eq_iff ha hb hqueueA hqueueB hapart⟩

def siblingOwner : ExactWorkerResultOwnerV1 :=
  { sampleOwner with sourceQueueId := "t" }

theorem siblingOwner_keptApart : sampleOwner.KeptApart siblingOwner := by
  unfold ExactWorkerResultOwnerV1.KeptApart ExactWorkerResultOwnerV1.hashedBytes
  rw [List.forall₂_cons, List.forall₂_cons, List.forall₂_cons]
  refine ⟨fun _ => rfl, ?_, ?_, .nil⟩
  . intro h
    exact absurd h (by decide +kernel)
  . intro _
    have hparts : sampleOwner.coordinatorParts = siblingOwner.coordinatorParts := rfl
    rw [hparts]

theorem siblings_share_coordinatorKey
    : sampleOwner.lane.virtualBytes = siblingOwner.lane.virtualBytes
      ∧ sampleOwner.ownerKey ≠ siblingOwner.ownerKey
      ∧ sampleOwner.coordinatorKey = siblingOwner.coordinatorKey := by
  have hlane : sampleOwner.lane.validate = .ok () := by decide +kernel
  have hvalid : sampleOwner.validate = .ok () := by decide +kernel
  have hsibling : siblingOwner.validate = .ok () := by decide +kernel
  have hbytes := identities_are_injective.1 sampleOwner.lane siblingOwner.lane hlane hlane
  have hkeys := identities_are_injective.2 sampleOwner siblingOwner hvalid hsibling rfl rfl
    siblingOwner_keptApart
  refine ⟨hbytes.2.mpr rfl, ?_, hkeys.2.mpr rfl⟩
  intro h
  have hsource := congrArg ExactWorkerResultOwnerV1.sourceQueueId (hkeys.1.mp h)
  exact absurd hsource (by decide)

end Coordinator
