import AgentHarness.GoalLineage.Impl
import AgentHarness.Lib.Ledger

/-!
The rows of the lineages, each under the key of its projection.
-/

namespace GoalLineage

open Latest (lookup_latestBy of_lookup_latestBy)

variable {sha256 : CollisionFree}

theorem replacesAuthority_total (a b : VirtualSessionAuthorityReceipt)
    : replacesAuthority a b ∨ replacesAuthority b a := by
  simp only [replacesAuthority, decide_eq_true_eq]
  omega

theorem replacesAuthority_trans (a b c : VirtualSessionAuthorityReceipt)
    (hab : replacesAuthority a b) (hbc : replacesAuthority b c)
    : replacesAuthority a c := by
  simp only [replacesAuthority, decide_eq_true_eq] at *
  omega

theorem replacesProjection_total (a b : GoalProjectionReceipt)
    : replacesProjection a b ∨ replacesProjection b a := by
  unfold replacesProjection
  cases isAuthoritativeTerminalClosure a <;> cases isAuthoritativeTerminalClosure b <;>
    simp <;> omega

theorem replacesProjection_trans (a b c : GoalProjectionReceipt)
    (hab : replacesProjection a b) (hbc : replacesProjection b c)
    : replacesProjection a c := by
  unfold replacesProjection at *
  revert hab hbc
  cases isAuthoritativeTerminalClosure a <;> cases isAuthoritativeTerminalClosure b <;>
    cases isAuthoritativeTerminalClosure c <;> simp <;> omega

section Identity

variable {projection other : GoalProjectionReceipt}
  {authority authority' : Option VirtualSessionAuthorityReceipt}

theorem key_eq_of_parts (hgeneration : projection.backendContextGeneration
      = other.backendContextGeneration)
    (hthread : projection.sourceThreadId = other.sourceThreadId)
    (hgoal : projectionGoalIdentity projection = projectionGoalIdentity other)
    : projection.key = other.key := by
  rw [GoalProjectionReceipt.key, hgeneration, hthread, hgoal]
  rfl

theorem lineageId_inj {family generation : _} {thread goal : String}
    (h : lineageId sha256 projection authority
      = sha256.checksumJson (lineagePayload family generation thread goal))
    : familyId sha256 projection authority = family
        ∧ projection.backendContextGeneration = generation
        ∧ projection.sourceThreadId = thread
        ∧ projectionGoalIdentity projection = goal := by
  simpa [lineageId, lineagePayload, and_comm, and_left_comm, and_assoc]
    using h

theorem familyId_inj {lane session : Option String} {objective : String}
    (h : familyId sha256 projection authority
      = sha256.checksumJson (familyPayload lane session objective))
    : authority.map (·.laneDigest) = lane ∧ authority.map (·.virtualSessionId) = session := by
  simp only [familyId, familyPayload, CollisionFree.checksumJson_inj, Json.object.injEq,
    List.cons.injEq, Prod.mk.injEq, Json.ofOption_inj] at h
  exact ⟨h.1.2, h.2.2.1.2⟩

theorem key_eq_of_lineageId (h : lineageId sha256 projection authority
      = lineageId sha256 other authority')
    : projection.key = other.key := by
  obtain ⟨_, hgeneration, hthread, hgoal⟩ := lineageId_inj h
  exact key_eq_of_parts hgeneration hthread hgoal

@[simp]
theorem lineageRow_lineageId (projection : GoalProjectionReceipt)
    (authority : Option VirtualSessionAuthorityReceipt)
    : (lineageRow sha256 projection authority).lineageId = lineageId sha256 projection authority :=
  rfl

@[simp]
theorem lineageRow_campaignFamilyId (projection : GoalProjectionReceipt)
    (authority : Option VirtualSessionAuthorityReceipt)
    : (lineageRow sha256 projection authority).campaignFamilyId
        = familyId sha256 projection authority := rfl

@[simp]
theorem lineageRow_laneDigest (projection : GoalProjectionReceipt)
    (authority : Option VirtualSessionAuthorityReceipt)
    : (lineageRow sha256 projection authority).laneDigest = authority.map (·.laneDigest) := rfl

@[simp]
theorem lineageRow_virtualSessionId (projection : GoalProjectionReceipt)
    (authority : Option VirtualSessionAuthorityReceipt)
    : (lineageRow sha256 projection authority).virtualSessionId
        = authority.map (·.virtualSessionId) := rfl

@[simp]
theorem lineageRow_runnable (projection : GoalProjectionReceipt)
    (authority : Option VirtualSessionAuthorityReceipt)
    : (lineageRow sha256 projection authority).runnable
        = (lineageDisposition projection authority).2.1 := rfl

end Identity

namespace GoalLineageLedgers

variable {ledgers : GoalLineageLedgers}

def authorityOf (self : GoalLineageLedgers) (projection : GoalProjectionReceipt)
    : Option VirtualSessionAuthorityReceipt :=
  projectionAuthority projection (latestAuthorities self.authorities)

def rowAt (sha256 : CollisionFree) (self : GoalLineageLedgers) (key : String)
    : Option GoalLineageV1 :=
  ((latestProjections self.projections).lookup key).map fun projection =>
    lineageRow sha256 projection (self.authorityOf projection)

def rows (sha256 : CollisionFree) (self : GoalLineageLedgers) : List GoalLineageV1 :=
  lineageRows sha256 self.projections self.authorities

variable {row : GoalLineageV1}

theorem mem_rows
    : row ∈ ledgers.rows sha256 ↔ ∃ key, ledgers.rowAt sha256 key = some row := by
  unfold rows lineageRows rowAt
  simp only [List.mem_map, FMap.mem_values_iff, Option.map_eq_some_iff]
  constructor
  . rintro ⟨projection, ⟨key, hkey⟩, hrow⟩
    exact ⟨key, projection, hkey, hrow⟩
  . rintro ⟨key, projection, hkey, hrow⟩
    exact ⟨projection, ⟨key, hkey⟩, hrow⟩

theorem rowAt_eq_some {key : String} (h : ledgers.rowAt sha256 key = some row)
    : ∃ projection, (latestProjections ledgers.projections).lookup key = some projection
        ∧ projection.key = key
        ∧ row = lineageRow sha256 projection (ledgers.authorityOf projection) := by
  unfold rowAt at h
  rw [Option.map_eq_some_iff] at h
  obtain ⟨projection, hlookup, hrow⟩ := h
  exact ⟨projection, hlookup, (of_lookup_latestBy hlookup).2, hrow.symm⟩

theorem key_of_lineageId {later : GoalLineageLedgers} {key key' : String} {row' : GoalLineageV1}
    (h : ledgers.rowAt sha256 key = some row) (h' : later.rowAt sha256 key' = some row')
    (hid : row.lineageId = row'.lineageId)
    : key = key' := by
  obtain ⟨projection, _, hkey, hrow⟩ := rowAt_eq_some h
  obtain ⟨projection', _, hkey', hrow'⟩ := rowAt_eq_some h'
  rw [hrow, hrow', lineageRow_lineageId, lineageRow_lineageId] at hid
  rw [← hkey, ← hkey']
  exact key_eq_of_lineageId hid

theorem eq_of_lineageId {row' : GoalLineageV1} (h : row ∈ ledgers.rows sha256)
    (h' : row' ∈ ledgers.rows sha256) (hid : row.lineageId = row'.lineageId)
    : row = row' := by
  obtain ⟨key, hkey⟩ := mem_rows.mp h
  obtain ⟨key', hkey'⟩ := mem_rows.mp h'
  rw [key_of_lineageId hkey hkey' hid, hkey'] at hkey
  injection hkey with hkey
  exact hkey.symm

end GoalLineageLedgers

theorem find_lineageId {rows : List GoalLineageV1}
    (hunique : ∀ row ∈ rows, ∀ row' ∈ rows, row.lineageId = row'.lineageId → row = row')
    {id : String} {row : GoalLineageV1}
    : rows.find? (·.lineageId = id) = some row ↔ row ∈ rows ∧ row.lineageId = id := by
  constructor
  . intro hfind
    refine ⟨List.mem_of_find?_eq_some hfind, ?_⟩
    simpa using List.find?_some hfind
  . rintro ⟨hmem, hid⟩
    cases hfind : rows.find? (·.lineageId = id) with
    | none =>
      have := List.find?_eq_none.mp hfind row hmem
      simp [hid] at this
    | some found =>
      have hfound := List.mem_of_find?_eq_some hfind
      have hfoundId : found.lineageId = id := by simpa using List.find?_some hfind
      rw [hunique found hfound row hmem (by rw [hfoundId, hid])]

end GoalLineage

/-!
The supersessions that the call has taken, and what the doctor makes of them: a receipt is passed over when
its two lineages stand and its winner has not been superseded itself.
-/

namespace GoalLineage

variable {sha256 : CollisionFree}

/-
What a receipt says about its lineages, as the call has written it.
-/
structure Accepted (sha256 : CollisionFree) (receipt : GoalLineageSupersessionV1) : Prop where
  distinct : receipt.winnerLineageId ≠ receipt.supersededLineageId
  family : ∃ objective, receipt.campaignFamilyId = sha256.checksumJson
    (familyPayload (some receipt.laneDigest) (some receipt.virtualSessionId) objective)
  winner : ∃ generation thread goal, receipt.winnerLineageId = sha256.checksumJson
    (lineagePayload receipt.campaignFamilyId generation thread goal)
  superseded : ∃ generation thread goal, receipt.supersededLineageId = sha256.checksumJson
    (lineagePayload receipt.campaignFamilyId generation thread goal)
  id : receipt.supersessionId = supersessionId sha256 receipt.campaignFamilyId
    receipt.winnerLineageId receipt.supersededLineageId

def Stands (rows : List GoalLineageV1) (receipt : GoalLineageSupersessionV1) : Prop :=
  (∃ row ∈ rows, row.lineageId = receipt.winnerLineageId ∧ row.runnable)
    ∧ ∃ row ∈ rows, row.lineageId = receipt.supersededLineageId

section Receipt

variable {ledgers : GoalLineageLedgers} {receipt : GoalLineageSupersessionV1}

theorem parts_of_row {row : GoalLineageV1} (hrow : row ∈ ledgers.rows sha256)
    {family : String} {generation : Option String} {thread goal : String}
    (hid : row.lineageId = sha256.checksumJson (lineagePayload family generation thread goal))
    : row.campaignFamilyId = family
        ∧ ∀ {lane session objective}, family = sha256.checksumJson
            (familyPayload lane session objective) →
          row.laneDigest = lane ∧ row.virtualSessionId = session := by
  obtain ⟨key, hkey⟩ := GoalLineageLedgers.mem_rows.mp hrow
  obtain ⟨projection, _, _, rfl⟩ := GoalLineageLedgers.rowAt_eq_some hkey
  have hfamily := (lineageId_inj hid).1
  refine ⟨hfamily, ?_⟩
  intro lane session objective hpayload
  rw [hpayload] at hfamily
  exact familyId_inj hfamily

theorem receiptPair_eq_ok (haccepted : Accepted sha256 receipt) (supersededIds : List String)
    : receiptPair sha256 supersededIds (ledgers.rows sha256) receipt = .ok () ↔
        Stands (ledgers.rows sha256) receipt ∧ receipt.winnerLineageId ∉ supersededIds := by
  obtain ⟨objective, hfamily⟩ := haccepted.family
  obtain ⟨_, _, _, hwinner⟩ := haccepted.winner
  obtain ⟨_, _, _, hsuperseded⟩ := haccepted.superseded
  have hunique := fun row hrow row' hrow' =>
    @GoalLineageLedgers.eq_of_lineageId sha256 ledgers row row' hrow hrow'
  unfold receiptPair
  simp only [Except.bind_eq_ok, Except.require_eq_ok, Except.ofOption_eq_ok, find_lineageId hunique,
    decide_eq_true_eq]
  constructor
  . rintro ⟨_, _, winner, ⟨hwinnerRow, hwinnerId⟩, loser, ⟨hloserRow, hloserId⟩, hvalid⟩
    simp only [identityValid, Bool.and_eq_true, Bool.not_eq_true', List.contains_eq_mem,
      decide_eq_false_iff_not] at hvalid
    exact ⟨⟨⟨winner, hwinnerRow, hwinnerId, hvalid.1.2⟩, loser, hloserRow, hloserId⟩, hvalid.2⟩
  . rintro ⟨⟨⟨winner, hwinnerRow, hwinnerId, hrunnable⟩, loser, hloserRow, hloserId⟩, hnot⟩
    refine ⟨(), haccepted.distinct, winner, ⟨hwinnerRow, hwinnerId⟩, loser, ⟨hloserRow, hloserId⟩,
      ?_⟩
    have hwinnerParts := parts_of_row hwinnerRow (hwinnerId.trans hwinner)
    have hloserParts := parts_of_row hloserRow (hloserId.trans hsuperseded)
    obtain ⟨hlane, hsession⟩ := hwinnerParts.2 hfamily
    unfold identityValid
    rw [hwinnerParts.1, hloserParts.1, hlane, hsession, hwinnerId, hloserId, hrunnable]
    simp [haccepted.id, hnot]

end Receipt

section Scan

variable {supersededIds : List String} {lineages : List GoalLineageV1}

def scanOf (sha256 : CollisionFree) (supersededIds : List String) (lineages : List GoalLineageV1)
    (receipts : List GoalLineageSupersessionV1)
    : SupersessionScan :=
  receipts.foldl (scanReceipt sha256 supersededIds lineages) { map := ∅, ids := [], blockers := [] }

def isPaired (sha256 : CollisionFree) (supersededIds : List String)
    (lineages : List GoalLineageV1) (receipt : GoalLineageSupersessionV1)
    : Bool :=
  (receiptPair sha256 supersededIds lineages receipt).isOk

theorem isPaired_iff {receipt : GoalLineageSupersessionV1}
    : isPaired sha256 supersededIds lineages receipt ↔
        receiptPair sha256 supersededIds lineages receipt = .ok () := by
  unfold isPaired
  cases receiptPair sha256 supersededIds lineages receipt with
  | error blocker => simp [Except.isOk, Except.toBool]
  | ok => simp [Except.isOk, Except.toBool]

def winnerOf (sha256 : CollisionFree) (supersededIds : List String)
    (lineages : List GoalLineageV1) (receipts : List GoalLineageSupersessionV1) (id : String)
    : Option String :=
  ((receipts.filter fun receipt =>
      isPaired sha256 supersededIds lineages receipt && receipt.supersededLineageId = id).getLast?).map
    (·.winnerLineageId)

variable {receipts : List GoalLineageSupersessionV1}

theorem scanOf_ids
    : ∀ id, id ∈ (scanOf sha256 supersededIds lineages receipts).ids ↔
        id ∈ receipts.map (·.supersessionId) := by
  induction receipts using List.reverseRecOn with
  | nil => simp [scanOf]
  | append_singleton receipts receipt ih =>
    intro id
    have ih := ih
    unfold scanOf at ih ⊢
    rw [List.foldl_concat]
    generalize receipts.foldl (scanReceipt sha256 supersededIds lineages)
      { map := ∅, ids := [], blockers := [] } = scan at ih ⊢
    have hids : ∀ id, id ∈ (scanReceipt sha256 supersededIds lineages scan receipt).ids ↔
        id ∈ scan.ids ∨ id = receipt.supersessionId := by
      intro id
      unfold scanReceipt
      split
      . next hmem =>
        constructor
        . exact .inl
        . rintro (hold | rfl)
          . exact hold
          . exact hmem
      . dsimp only
        split
        . simp [or_comm]
        . split
          . simp [or_comm]
          . simp [or_comm]
    rw [hids, ih]
    simp

theorem scanOf_concat {receipt : GoalLineageSupersessionV1}
    (hnodup : ((receipts ++ [receipt]).map (·.supersessionId)).Nodup)
    : let scan := scanOf sha256 supersededIds lineages receipts
      let later := scanOf sha256 supersededIds lineages (receipts ++ [receipt])
      (isPaired sha256 supersededIds lineages receipt = false →
          later.map = scan.map ∧ later.blockers ≠ [])
        ∧ (isPaired sha256 supersededIds lineages receipt →
          later.map = scan.map.insert receipt.supersededLineageId receipt.winnerLineageId
            ∧ (later.blockers = [] ↔ scan.blockers = []
              ∧ ∀ winner, scan.map.lookup receipt.supersededLineageId = some winner →
                winner = receipt.winnerLineageId)) := by
  intro scan later
  have hfresh : receipt.supersessionId ∉ scan.ids := by
    rw [scanOf_ids]
    rw [List.map_append, List.map_singleton, List.nodup_append] at hnodup
    intro hmem
    exact hnodup.2.2 _ hmem _ List.mem_cons_self rfl
  have hlater : later = scanReceipt sha256 supersededIds lineages scan receipt := by
    unfold later scanOf
    rw [List.foldl_concat]
    rfl
  rw [hlater]
  unfold scanReceipt
  rw [if_neg hfresh]
  constructor
  . intro hpaired
    cases hpair : receiptPair sha256 supersededIds lineages receipt with
    | error blocker => simp
    | ok => simp [isPaired_iff.mpr hpair] at hpaired
  . intro hpaired
    rw [isPaired_iff] at hpaired
    rw [hpaired]
    dsimp only
    cases hlookup : scan.map.lookup receipt.supersededLineageId with
    | none => simp
    | some winner =>
      by_cases hsame : winner = receipt.winnerLineageId
      . simp [hsame]
      . simp [hsame]

theorem scanOf_map (hnodup : (receipts.map (·.supersessionId)).Nodup) (id : String)
    : (scanOf sha256 supersededIds lineages receipts).map.lookup id
        = winnerOf sha256 supersededIds lineages receipts id := by
  induction receipts using List.reverseRecOn with
  | nil => rfl
  | append_singleton receipts receipt ih =>
    have hstep := @scanOf_concat sha256 supersededIds lineages receipts receipt hnodup
    rw [List.map_append, List.nodup_append] at hnodup
    have ih := ih hnodup.1
    unfold winnerOf at ih ⊢
    rw [List.filter_append]
    cases hpaired : isPaired sha256 supersededIds lineages receipt with
    | false =>
      rw [(hstep.1 hpaired).1, List.filter_cons_of_neg (by simp [hpaired]), List.filter_nil,
        List.append_nil]
      exact ih
    | true =>
      rw [(hstep.2 hpaired).1, FMap.lookup_insert_eq]
      split
      . next hid =>
        rw [List.filter_cons_of_pos (by simp [hpaired, hid]), List.filter_nil,
          List.getLast?_concat]
        rfl
      . next hid =>
        rw [List.filter_cons_of_neg (by simpa [hpaired] using Ne.symm hid), List.filter_nil,
          List.append_nil]
        exact ih

theorem scanOf_blockers (hnodup : (receipts.map (·.supersessionId)).Nodup)
    : (scanOf sha256 supersededIds lineages receipts).blockers = [] ↔
        (∀ receipt ∈ receipts, isPaired sha256 supersededIds lineages receipt)
          ∧ receipts.Pairwise fun receipt other =>
            receipt.supersededLineageId = other.supersededLineageId →
              receipt.winnerLineageId = other.winnerLineageId := by
  induction receipts using List.reverseRecOn with
  | nil => simp [scanOf]
  | append_singleton receipts receipt ih =>
    have hstep := @scanOf_concat sha256 supersededIds lineages receipts receipt hnodup
    rw [List.map_append, List.nodup_append] at hnodup
    have hmap := @scanOf_map sha256 supersededIds lineages receipts hnodup.1
      receipt.supersededLineageId
    have ih := ih hnodup.1
    rw [List.pairwise_append]
    simp only [List.mem_append, List.mem_singleton, or_imp, forall_and, forall_eq]
    cases hpaired : isPaired sha256 supersededIds lineages receipt with
    | false => simp [(hstep.1 hpaired).2]
    | true =>
      rw [(hstep.2 hpaired).2, ih, hmap]
      constructor
      . rintro ⟨⟨hall, hpairwise⟩, hwinner⟩
        refine ⟨⟨hall, rfl⟩, hpairwise, List.pairwise_singleton _ _, ?_⟩
        intro earlier hearlier hsame
        have hmem : earlier ∈ receipts.filter fun other =>
            isPaired sha256 supersededIds lineages other
              && other.supersededLineageId = receipt.supersededLineageId := by
          simp [hearlier, hall earlier hearlier, hsame]
        cases hlast : (receipts.filter fun other =>
            isPaired sha256 supersededIds lineages other
              && other.supersededLineageId = receipt.supersededLineageId).getLast? with
        | none =>
          rw [List.getLast?_eq_none_iff] at hlast
          rw [hlast] at hmem
          cases hmem
        | some last =>
          have hlastMem := List.mem_of_getLast? hlast
          simp only [List.mem_filter, Bool.and_eq_true, decide_eq_true_eq] at hlastMem
          have hpair := hpairwise.forall_of_forall_of_flip (fun _ _ _ => rfl)
            (hpairwise.imp fun h hsame => (h hsame.symm).symm) hearlier hlastMem.1
            (hsame.trans hlastMem.2.2.symm)
          rw [hpair]
          exact hwinner _ (by simp [winnerOf, hlast])
      . rintro ⟨⟨hall, _⟩, hpairwise, _, hwinner⟩
        refine ⟨⟨hall, hpairwise⟩, ?_⟩
        intro winner hlookup
        unfold winnerOf at hlookup
        rw [Option.map_eq_some_iff] at hlookup
        obtain ⟨earlier, hearlier, rfl⟩ := hlookup
        have hmem := List.mem_of_getLast? hearlier
        simp only [List.mem_filter, Bool.and_eq_true, decide_eq_true_eq] at hmem
        exact hwinner earlier hmem.1 hmem.2.2

end Scan

end GoalLineage

/-!
How long a supersession that was taken is passed over by the doctor: as long as its winner runs, its loser
has a row, and neither is drawn into another supersession the wrong way round.
-/

namespace GoalLineage

variable {sha256 : CollisionFree} {ledgers : GoalLineageLedgers}

structure GoalLineageLedgers.Sound (sha256 : CollisionFree) (ledgers : GoalLineageLedgers)
    : Prop where
  accepted : ∀ receipt ∈ ledgers.supersessions, Accepted sha256 receipt
  nodup : (ledgers.supersessions.map (·.supersessionId)).Nodup

structure Settled (rows : List GoalLineageV1) (receipts : List GoalLineageSupersessionV1)
    : Prop where
  stands : ∀ receipt ∈ receipts, Stands rows receipt
  winners : ∀ receipt ∈ receipts,
    receipt.winnerLineageId ∉ receipts.map (·.supersededLineageId)
  losers : (receipts.map (·.supersededLineageId)).Nodup

theorem Accepted.family_eq {receipt other : GoalLineageSupersessionV1}
    (h : Accepted sha256 receipt) (hother : Accepted sha256 other)
    (hsame : receipt.supersededLineageId = other.supersededLineageId)
    : receipt.campaignFamilyId = other.campaignFamilyId := by
  obtain ⟨_, _, _, hloser⟩ := h.superseded
  obtain ⟨_, _, _, hotherLoser⟩ := hother.superseded
  rw [hloser, hotherLoser, sha256.checksumJson_inj] at hsame
  simp only [lineagePayload, Json.object.injEq, List.cons.injEq, Prod.mk.injEq,
    Json.string.injEq] at hsame
  exact hsame.2.1.2

theorem Accepted.supersessionId_eq_iff {receipt other : GoalLineageSupersessionV1}
    (h : Accepted sha256 receipt) (hother : Accepted sha256 other)
    : receipt.supersessionId = other.supersessionId ↔
        receipt.winnerLineageId = other.winnerLineageId
          ∧ receipt.supersededLineageId = other.supersededLineageId := by
  rw [h.id, hother.id, supersessionId, supersessionId, sha256.checksumJson_inj]
  constructor
  . intro hsame
    simp only [supersessionPayload, Json.object.injEq, List.cons.injEq, Prod.mk.injEq,
      Json.string.injEq] at hsame
    exact ⟨hsame.2.2.1.2, hsame.2.1.2⟩
  . rintro ⟨hwinner, hloser⟩
    rw [h.family_eq hother hloser, hwinner, hloser]

section Doctor

theorem runGoalLineageDoctor_blockers (options : GoalLineageDoctorOptions)
    : (runGoalLineageDoctor sha256 ledgers options).blockers
        = (scanOf sha256 (ledgers.supersessions.map (·.supersededLineageId))
            (ledgers.rows sha256) ledgers.supersessions).blockers := rfl

theorem isPaired_rows (h : ledgers.Sound sha256) {receipt : GoalLineageSupersessionV1}
    (hreceipt : receipt ∈ ledgers.supersessions) (supersededIds : List String)
    : isPaired sha256 supersededIds (ledgers.rows sha256) receipt ↔
        Stands (ledgers.rows sha256) receipt ∧ receipt.winnerLineageId ∉ supersededIds := by
  rw [isPaired_iff, receiptPair_eq_ok (h.accepted receipt hreceipt)]

theorem blockers_eq_nil_iff (h : ledgers.Sound sha256) (options : GoalLineageDoctorOptions)
    : (runGoalLineageDoctor sha256 ledgers options).blockers = [] ↔
        Settled (ledgers.rows sha256) ledgers.supersessions := by
  rw [runGoalLineageDoctor_blockers, scanOf_blockers h.nodup]
  have hids : ledgers.supersessions.Pairwise fun receipt other =>
      receipt.supersessionId ≠ other.supersessionId := List.pairwise_map.mp h.nodup
  constructor
  . rintro ⟨hpaired, hpairwise⟩
    refine ⟨?_, ?_, ?_⟩
    . intro receipt hreceipt
      exact ((isPaired_rows h hreceipt _).mp (hpaired receipt hreceipt)).1
    . intro receipt hreceipt
      exact ((isPaired_rows h hreceipt _).mp (hpaired receipt hreceipt)).2
    . apply List.pairwise_map.mpr
      refine (hids.and hpairwise).imp_of_mem ?_
      rintro receipt other hreceipt hother ⟨hid, hwinner⟩ hsame
      apply hid
      rw [(h.accepted receipt hreceipt).supersessionId_eq_iff (h.accepted other hother)]
      exact ⟨hwinner hsame, hsame⟩
  . intro hsettled
    constructor
    . intro receipt hreceipt
      rw [isPaired_rows h hreceipt]
      exact ⟨hsettled.stands receipt hreceipt, hsettled.winners receipt hreceipt⟩
    . refine (List.pairwise_map.mp hsettled.losers).imp ?_
      intro receipt other hne hsame
      exact absurd hsame hne

@[simp]
theorem applySupersession_lineageId (supersededBy : FMap String String) (row : GoalLineageV1)
    : (applySupersession supersededBy row).lineageId = row.lineageId := by
  unfold applySupersession
  split <;> rfl

@[simp]
theorem applySupersession_campaignFamilyId (supersededBy : FMap String String)
    (row : GoalLineageV1)
    : (applySupersession supersededBy row).campaignFamilyId = row.campaignFamilyId := by
  unfold applySupersession
  split <;> rfl

@[simp]
theorem applySupersession_laneDigest (supersededBy : FMap String String) (row : GoalLineageV1)
    : (applySupersession supersededBy row).laneDigest = row.laneDigest := by
  unfold applySupersession
  split <;> rfl

@[simp]
theorem applySupersession_virtualSessionId (supersededBy : FMap String String)
    (row : GoalLineageV1)
    : (applySupersession supersededBy row).virtualSessionId = row.virtualSessionId := by
  unfold applySupersession
  split <;> rfl

theorem applySupersession_runnable {supersededBy : FMap String String} {row : GoalLineageV1}
    : (applySupersession supersededBy row).runnable ↔
        row.runnable ∧ supersededBy.lookup row.lineageId = none := by
  unfold applySupersession
  split
  . next hnone => simp [hnone]
  . next hsome => simp [hsome]

def supersededBy (sha256 : CollisionFree) (ledgers : GoalLineageLedgers) : FMap String String :=
  (scanOf sha256 (ledgers.supersessions.map (·.supersededLineageId)) (ledgers.rows sha256)
    ledgers.supersessions).map

theorem find_report {id : String} {row : GoalLineageV1}
    : (runGoalLineageDoctor sha256 ledgers
          { laneDigest := none, virtualSessionId := none }).lineages.find? (·.lineageId = id)
          = some row ↔
        ∃ found ∈ ledgers.rows sha256, found.lineageId = id
          ∧ applySupersession (supersededBy sha256 ledgers) found = row := by
  have hmem : ∀ row, row ∈ (runGoalLineageDoctor sha256 ledgers
      { laneDigest := none, virtualSessionId := none }).lineages ↔
      ∃ found ∈ ledgers.rows sha256, applySupersession (supersededBy sha256 ledgers) found = row := by
    intro row
    change row ∈ reportLineages _ ((ledgers.rows sha256).map
      (applySupersession (supersededBy sha256 ledgers))) ↔ _
    simp [reportLineages]
  rw [find_lineageId]
  . rw [hmem]
    constructor
    . rintro ⟨⟨found, hfound, hrow⟩, hid⟩
      rw [← hrow, applySupersession_lineageId] at hid
      exact ⟨found, hfound, hid, hrow⟩
    . rintro ⟨found, hfound, hid, hrow⟩
      refine ⟨⟨found, hfound, hrow⟩, ?_⟩
      rw [← hrow, applySupersession_lineageId, hid]
  . intro left hleft right hright hid
    obtain ⟨found, hfound, rfl⟩ := (hmem left).mp hleft
    obtain ⟨found', hfound', rfl⟩ := (hmem right).mp hright
    rw [applySupersession_lineageId, applySupersession_lineageId] at hid
    rw [GoalLineageLedgers.eq_of_lineageId hfound hfound' hid]

theorem lookup_supersededBy (h : ledgers.Sound sha256)
    (hsettled : Settled (ledgers.rows sha256) ledgers.supersessions) {id : String}
    : (supersededBy sha256 ledgers).lookup id = none ↔
        id ∉ ledgers.supersessions.map (·.supersededLineageId) := by
  unfold supersededBy
  rw [scanOf_map h.nodup, winnerOf, Option.map_eq_none_iff, List.getLast?_eq_none_iff,
    List.filter_eq_nil_iff, List.mem_map]
  constructor
  . rintro hnone ⟨receipt, hreceipt, hid⟩
    apply hnone receipt hreceipt
    have hpaired := (isPaired_rows h hreceipt
      (ledgers.supersessions.map (·.supersededLineageId))).mpr
      ⟨hsettled.stands receipt hreceipt, hsettled.winners receipt hreceipt⟩
    simp [hpaired, hid]
  . intro hnot receipt hreceipt hpaired
    simp only [Bool.and_eq_true, decide_eq_true_eq] at hpaired
    exact hnot ⟨receipt, hreceipt, hpaired.2⟩

end Doctor

section Accept

variable {options : GoalLineageSupersessionOptions} {recordedAtMs : Int}
  {receipt : GoalLineageSupersessionV1}

theorem rows_of_accepted
    (h : acceptedSupersession sha256 ledgers options recordedAtMs = .ok receipt)
    : receipt.winnerLineageId ≠ receipt.supersededLineageId
        ∧ receipt.supersessionId = supersessionId sha256 receipt.campaignFamilyId
          receipt.winnerLineageId receipt.supersededLineageId
        ∧ ∃ winner ∈ ledgers.rows sha256, ∃ loser ∈ ledgers.rows sha256,
          winner.lineageId = receipt.winnerLineageId
            ∧ loser.lineageId = receipt.supersededLineageId
            ∧ winner.campaignFamilyId = receipt.campaignFamilyId
            ∧ loser.campaignFamilyId = receipt.campaignFamilyId
            ∧ winner.laneDigest = some receipt.laneDigest
            ∧ winner.virtualSessionId = some receipt.virtualSessionId
            ∧ winner.runnable
            ∧ (supersededBy sha256 ledgers).lookup receipt.winnerLineageId = none := by
  unfold acceptedSupersession at h
  simp only [Except.bind_eq_ok, Except.require_eq_ok, Except.ofOption_eq_ok, find_report,
    decide_eq_true_eq, Except.pure_eq_ok] at h
  obtain ⟨_, _, _, hdistinct, _, _, _, ⟨winner, hwinner, hwinnerId, rfl⟩, _,
    ⟨loser, hloser, hloserId, rfl⟩, _, hfamily, lane, hlane, session, hsession, _, hrunnable,
    rfl⟩ := h
  rw [applySupersession_runnable] at hrunnable
  simp only [applySupersession_campaignFamilyId, applySupersession_laneDigest,
    applySupersession_virtualSessionId] at hfamily hlane hsession ⊢
  rw [← hwinnerId, ← hloserId] at hdistinct ⊢
  exact ⟨by simpa using hdistinct, trivial, winner, hwinner, loser, hloser, by simp, by simp, by simp,
    hfamily.symm, hlane, hsession, hrunnable.1, hrunnable.2⟩

theorem accepted_of_accepted
    (h : acceptedSupersession sha256 ledgers options recordedAtMs = .ok receipt)
    : Accepted sha256 receipt := by
  obtain ⟨hdistinct, hid, winner, hwinner, loser, hloser, hwinnerId, hloserId, hfamily,
    hloserFamily, hlane, hsession, _⟩ := rows_of_accepted h
  obtain ⟨key, hkey⟩ := GoalLineageLedgers.mem_rows.mp hwinner
  obtain ⟨projection, _, _, rfl⟩ := GoalLineageLedgers.rowAt_eq_some hkey
  obtain ⟨key', hkey'⟩ := GoalLineageLedgers.mem_rows.mp hloser
  obtain ⟨projection', _, _, rfl⟩ := GoalLineageLedgers.rowAt_eq_some hkey'
  simp only [lineageRow_lineageId, lineageRow_campaignFamilyId, lineageRow_laneDigest,
    lineageRow_virtualSessionId] at hwinnerId hloserId hfamily hloserFamily hlane hsession
  constructor
  . exact hdistinct
  . refine ⟨objectiveChecksum sha256 projection, ?_⟩
    rw [← hfamily, ← hlane, ← hsession]
    rfl
  . rw [← hwinnerId, ← hfamily]
    exact ⟨_, _, _, rfl⟩
  . rw [← hloserId, ← hloserFamily]
    exact ⟨_, _, _, rfl⟩
  . exact hid

theorem accepted_of_rows {winner loser : GoalLineageV1} (hwinner : winner ∈ ledgers.rows sha256)
    (hloser : loser ∈ ledgers.rows sha256)
    (hwinnerId : winner.lineageId = Text.trim options.winnerLineageId)
    (hloserId : loser.lineageId = Text.trim options.supersededLineageId)
    (hnonempty : winner.lineageId ≠ "" ∧ loser.lineageId ≠ "" ∧ Text.trim options.reason ≠ "")
    (hlength : (Text.trim options.reason).length ≤ 240)
    (hdistinct : winner.lineageId ≠ loser.lineageId)
    (hfamily : winner.campaignFamilyId = loser.campaignFamilyId)
    (hlane : winner.laneDigest.isSome) (hsession : winner.virtualSessionId.isSome)
    (hrunnable : winner.runnable)
    (hfree : (supersededBy sha256 ledgers).lookup winner.lineageId = none)
    : ∃ receipt, acceptedSupersession sha256 ledgers options recordedAtMs = .ok receipt
        ∧ receipt.winnerLineageId = winner.lineageId := by
  obtain ⟨lane, hlane⟩ := Option.isSome_iff_exists.mp hlane
  obtain ⟨session, hsession⟩ := Option.isSome_iff_exists.mp hsession
  have hruns := applySupersession_runnable.mpr ⟨hrunnable, hfree⟩
  unfold acceptedSupersession
  simp only [Except.bind_eq_ok, Except.require_eq_ok, Except.ofOption_eq_ok, find_report,
    decide_eq_true_eq, Except.pure_eq_ok]
  rw [← hwinnerId, ← hloserId]
  refine ⟨_, ⟨(), ?_, (), hdistinct, (), hlength, _, ⟨winner, hwinner, rfl, rfl⟩, _,
    ⟨loser, hloser, rfl, rfl⟩, (), ?_, lane, ?_, session, ?_, (), hruns, rfl⟩, rfl⟩
  . simp [hnonempty]
  . simpa using hfamily
  . simpa using hlane
  . simpa using hsession

end Accept

theorem sound_empty : GoalLineageLedgers.empty.Sound sha256 where
  accepted := by simp [GoalLineageLedgers.empty]
  nodup := by simp [GoalLineageLedgers.empty]

theorem sound_step (h : ledgers.Sound sha256) (event : GoalLineageEvent)
    : (step sha256 ledgers event).Sound sha256 := by
  cases event with
  | projection receipt => exact ⟨h.accepted, h.nodup⟩
  | authority receipt => exact ⟨h.accepted, h.nodup⟩
  | supersession options recordedAtMs =>
    unfold step appendGoalLineageSupersession
    dsimp only
    split
    . exact h
    . next receipt haccepted =>
      split
      . exact h
      . next hnone =>
        constructor
        . intro stored hstored
          rw [List.mem_append, List.mem_singleton] at hstored
          cases hstored with
          | inl hstored => exact h.accepted stored hstored
          | inr hstored =>
            rw [hstored]
            exact accepted_of_accepted haccepted
        . apply Ledger.nodup_concat h.nodup
          intro stored hstored
          simpa using List.find?_eq_none.mp hnone stored hstored

theorem sound_exec (h : ledgers.Sound sha256) (events : List GoalLineageEvent)
    : (Run.exec (step sha256) ledgers events).Sound sha256 :=
  Run.exec_invariant (GoalLineageLedgers.Sound sha256) (fun _ event h => sound_step h event) h events

theorem ledgersAfter_sound (events : List GoalLineageEvent)
    : (ledgersAfter sha256 events).Sound sha256 :=
  sound_exec sound_empty events

end GoalLineage
