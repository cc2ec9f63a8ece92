import AgentHarness.GoalLineage.Lemmas.Keeping

/-!
What the report of one lane takes from the receipts of the others: nothing, as long as no foreign receipt
stands in the place of one of the lane and no foreign supersession has lost its footing.
-/

namespace GoalLineage

variable {sha256 : CollisionFree} {ledgers : GoalLineageLedgers} {lane : String}

-- a projection without a lane is of the lane whose authority it stands under
def GoalProjectionReceipt.isOf (lane : String) (authorities : List VirtualSessionAuthorityReceipt)
    (self : GoalProjectionReceipt)
    : Bool :=
  self.laneDigest = some lane
    || (self.laneDigest = none
      && authorities.any fun authority =>
        authority.laneDigest = lane && authority.key = self.authorityKey)

structure AgreeOn (lane : String) (left right : GoalLineageLedgers) : Prop where
  projections : left.projections.filter (·.isOf lane left.authorities)
    = right.projections.filter (·.isOf lane right.authorities)
  authorities : left.authorities.filter (·.laneDigest = lane)
    = right.authorities.filter (·.laneDigest = lane)
  supersessions : left.supersessions.filter (·.laneDigest = lane)
    = right.supersessions.filter (·.laneDigest = lane)

/-
No foreign authority takes the place of one of the lane, no foreign projection stands under an authority of
the lane or takes the place of a projection that does, and the foreign supersessions stand.
-/
structure Separate (sha256 : CollisionFree) (lane : String) (ledgers : GoalLineageLedgers) : Prop where
  authorities : ∀ authority ∈ ledgers.authorities, authority.laneDigest = lane →
    ∀ latest, (latestAuthorities ledgers.authorities).lookup authority.key = some latest →
      latest.laneDigest = lane
  under : ∀ key projection, (latestProjections ledgers.projections).lookup key = some projection →
    (ledgers.authorityOf projection).map (·.laneDigest) = some lane →
      projection.isOf lane ledgers.authorities
  projections : ∀ projection ∈ ledgers.projections, projection.isOf lane ledgers.authorities →
    (ledgers.authorityOf projection).map (·.laneDigest) = some lane →
      ∀ latest, (latestProjections ledgers.projections).lookup projection.key = some latest →
        latest.isOf lane ledgers.authorities
  supersessions : Settled (ledgers.rows sha256)
    (ledgers.supersessions.filter (·.laneDigest ≠ lane))

section Rows

theorem lookup_authorities (h : Separate sha256 lane ledgers) {key : String}
    {authority : VirtualSessionAuthorityReceipt}
    : (latestAuthorities (ledgers.authorities.filter (·.laneDigest = lane))).lookup key
          = some authority ↔
        (latestAuthorities ledgers.authorities).lookup key = some authority
          ∧ authority.laneDigest = lane := by
  have hback : ∀ authority, (latestAuthorities ledgers.authorities).lookup key = some authority →
      authority.laneDigest = lane →
      (latestAuthorities (ledgers.authorities.filter (·.laneDigest = lane))).lookup key
        = some authority := by
    intro authority hlookup hlane
    unfold latestAuthorities at hlookup ⊢
    rw [Latest.lookup_latestBy] at hlookup ⊢
    rw [List.filter_comm]
    exact Latest.latest_filter replacesAuthority_total replacesAuthority_trans hlookup
      (by simpa using hlane)
  constructor
  . intro hlookup
    obtain ⟨hmem, hkey⟩ := Latest.of_lookup_latestBy hlookup
    rw [List.mem_filter, decide_eq_true_eq] at hmem
    have hfound : authority ∈ ledgers.authorities.filter (·.key = key) := by simp [hmem.1, hkey]
    obtain ⟨latest, hlatest⟩ := Latest.latest_isSome replacesAuthority hfound
    have hoverall : (latestAuthorities ledgers.authorities).lookup key = some latest := by
      unfold latestAuthorities
      rw [Latest.lookup_latestBy, hlatest]
    have hlane := h.authorities authority hmem.1 hmem.2 latest (by rw [hkey, hoverall])
    have hsame := hback latest hoverall hlane
    rw [hlookup] at hsame
    obtain rfl := Option.some.inj hsame
    exact ⟨hoverall, hlane⟩
  . rintro ⟨hlookup, hlane⟩
    exact hback authority hlookup hlane

theorem mem_rows_lane (h : Separate sha256 lane ledgers) {row : GoalLineageV1}
    : (row ∈ ledgers.rows sha256 ∧ row.laneDigest = some lane) ↔
        ∃ projection authority,
          (latestProjections (ledgers.projections.filter (·.isOf lane ledgers.authorities))).lookup
              projection.key = some projection
            ∧ (latestAuthorities (ledgers.authorities.filter (·.laneDigest = lane))).lookup
              projection.authorityKey = some authority
            ∧ row = lineageRow sha256 projection (some authority) := by
  have hback : ∀ key projection,
      (latestProjections ledgers.projections).lookup key = some projection →
      projection.isOf lane ledgers.authorities →
      (latestProjections (ledgers.projections.filter (·.isOf lane ledgers.authorities))).lookup key
        = some projection := by
    intro key projection hlookup hown
    unfold latestProjections at hlookup ⊢
    rw [Latest.lookup_latestBy] at hlookup ⊢
    rw [List.filter_comm]
    exact Latest.latest_filter replacesProjection_total replacesProjection_trans hlookup hown
  constructor
  . rintro ⟨hrow, hlane⟩
    obtain ⟨key, hkey⟩ := GoalLineageLedgers.mem_rows.mp hrow
    obtain ⟨projection, hprojection, rfl, rfl⟩ := GoalLineageLedgers.rowAt_eq_some hkey
    rw [lineageRow_laneDigest] at hlane
    obtain ⟨authority, hauthority, hauthorityLane⟩ := Option.map_eq_some_iff.mp hlane
    refine ⟨projection, authority, ?_, ?_, ?_⟩
    . exact hback _ projection hprojection (h.under _ projection hprojection hlane)
    . exact (lookup_authorities h).mpr ⟨hauthority, hauthorityLane⟩
    . rw [hauthority]
  . rintro ⟨projection, authority, hprojection, hauthority, rfl⟩
    obtain ⟨hmem, _⟩ := Latest.of_lookup_latestBy hprojection
    rw [List.mem_filter] at hmem
    obtain ⟨hauthority, hauthorityLane⟩ := (lookup_authorities h).mp hauthority
    have hlane : (ledgers.authorityOf projection).map (·.laneDigest) = some lane := by
      rw [GoalLineageLedgers.authorityOf, projectionAuthority, hauthority, ← hauthorityLane]
      rfl
    have hfound : projection ∈ ledgers.projections.filter (·.key = projection.key) := by
      simp [hmem.1]
    obtain ⟨latest, hlatest⟩ := Latest.latest_isSome replacesProjection hfound
    have hoverall : (latestProjections ledgers.projections).lookup projection.key = some latest := by
      unfold latestProjections
      rw [Latest.lookup_latestBy, hlatest]
    have hlatestLane := h.projections projection hmem.1 hmem.2 hlane latest hoverall
    have hsame := hback _ latest hoverall hlatestLane
    rw [hprojection] at hsame
    obtain rfl := Option.some.inj hsame
    refine ⟨?_, ?_⟩
    . rw [GoalLineageLedgers.mem_rows]
      refine ⟨projection.key, ?_⟩
      rw [GoalLineageLedgers.rowAt, hoverall, Option.map_some, GoalLineageLedgers.authorityOf,
        projectionAuthority, hauthority]
    . simp [hauthorityLane]

theorem nodup_rows : ((ledgers.rows sha256).map (·.lineageId)).Nodup := by
  have hkeys : ((latestProjections ledgers.projections).values.map (·.key)).Nodup := by
    unfold FMap.values
    rw [List.map_map]
    have hsame : ∀ entry ∈ (latestProjections ledgers.projections).entries,
        ((fun projection : GoalProjectionReceipt => projection.key) ∘ Sigma.snd) entry
          = entry.1 := by
      intro entry hentry
      have hlookup := AList.mem_lookup_iff.mpr hentry
      exact (Latest.of_lookup_latestBy hlookup).2
    rw [List.map_congr_left hsame]
    exact (latestProjections ledgers.projections).nodupKeys
  unfold GoalLineageLedgers.rows lineageRows
  rw [List.map_map]
  apply List.pairwise_map.mpr
  refine (List.pairwise_map.mp hkeys).imp ?_
  intro projection other hne hid
  exact hne (key_eq_of_lineageId hid)

end Rows

section Supersessions

variable {receipt other : GoalLineageSupersessionV1}

theorem Accepted.lane_eq (h : Accepted sha256 receipt) (hother : Accepted sha256 other)
    (hfamily : receipt.campaignFamilyId = other.campaignFamilyId)
    : receipt.laneDigest = other.laneDigest := by
  obtain ⟨_, hpayload⟩ := h.family
  obtain ⟨_, hotherPayload⟩ := hother.family
  rw [hpayload, hotherPayload, sha256.checksumJson_inj] at hfamily
  simp only [familyPayload, Json.object.injEq, List.cons.injEq, Prod.mk.injEq, Json.ofOption_inj,
    Option.some.injEq] at hfamily
  exact hfamily.1.2

theorem Accepted.lane_eq_of_winner (h : Accepted sha256 receipt) (hother : Accepted sha256 other)
    (hsame : receipt.winnerLineageId = other.supersededLineageId)
    : receipt.laneDigest = other.laneDigest := by
  obtain ⟨_, _, _, hwinner⟩ := h.winner
  obtain ⟨_, _, _, hloser⟩ := hother.superseded
  rw [hwinner, hloser, sha256.checksumJson_inj] at hsame
  simp only [lineagePayload, Json.object.injEq, List.cons.injEq, Prod.mk.injEq,
    Json.string.injEq] at hsame
  exact h.lane_eq hother hsame.2.1.2

theorem Accepted.laneDigest_of_row (h : Accepted sha256 receipt) {row : GoalLineageV1}
    (hrow : row ∈ ledgers.rows sha256)
    (hid : row.lineageId = receipt.winnerLineageId ∨ row.lineageId = receipt.supersededLineageId)
    : row.laneDigest = some receipt.laneDigest := by
  obtain ⟨_, hfamily⟩ := h.family
  cases hid with
  | inl hwinner =>
    obtain ⟨_, _, _, hpayload⟩ := h.winner
    exact ((parts_of_row hrow (hwinner.trans hpayload)).2 hfamily).1
  | inr hloser =>
    obtain ⟨_, _, _, hpayload⟩ := h.superseded
    exact ((parts_of_row hrow (hloser.trans hpayload)).2 hfamily).1

theorem settled_split (h : ledgers.Sound sha256) (lane : String)
    : Settled (ledgers.rows sha256) ledgers.supersessions ↔
        Settled (ledgers.rows sha256) (ledgers.supersessions.filter (·.laneDigest = lane))
          ∧ Settled (ledgers.rows sha256) (ledgers.supersessions.filter (·.laneDigest ≠ lane)) := by
  constructor
  . intro hsettled
    have hpart : ∀ p : GoalLineageSupersessionV1 → Bool,
        Settled (ledgers.rows sha256) (ledgers.supersessions.filter p) := by
      intro p
      constructor
      . intro receipt hreceipt
        exact hsettled.stands receipt (List.mem_filter.mp hreceipt).1
      . intro receipt hreceipt hloser
        apply hsettled.winners receipt (List.mem_filter.mp hreceipt).1
        exact (List.filter_sublist.map _).subset hloser
      . exact (List.filter_sublist.map _).nodup hsettled.losers
    exact ⟨hpart _, hpart _⟩
  . rintro ⟨hlane, hforeign⟩
    have hcases : ∀ receipt ∈ ledgers.supersessions,
        receipt ∈ ledgers.supersessions.filter (·.laneDigest = lane)
          ∨ receipt ∈ ledgers.supersessions.filter (·.laneDigest ≠ lane) := by
      intro receipt hreceipt
      by_cases hown : receipt.laneDigest = lane
      . exact .inl (by simp [hreceipt, hown])
      . exact .inr (by simp [hreceipt, hown])
    have hsame : ∀ receipt ∈ ledgers.supersessions, ∀ other ∈ ledgers.supersessions,
        receipt.laneDigest = other.laneDigest →
        (receipt ∈ ledgers.supersessions.filter (·.laneDigest = lane)
            ∧ other ∈ ledgers.supersessions.filter (·.laneDigest = lane))
          ∨ (receipt ∈ ledgers.supersessions.filter (·.laneDigest ≠ lane)
            ∧ other ∈ ledgers.supersessions.filter (·.laneDigest ≠ lane)) := by
      intro receipt hreceipt other hother hlanes
      by_cases hown : receipt.laneDigest = lane
      . exact .inl ⟨by simp [hreceipt, hown], by simp [hother, ← hlanes, hown]⟩
      . exact .inr ⟨by simp [hreceipt, hown], by simp [hother, ← hlanes, hown]⟩
    constructor
    . intro receipt hreceipt
      cases hcases receipt hreceipt with
      | inl hown => exact hlane.stands receipt hown
      | inr hother => exact hforeign.stands receipt hother
    . intro receipt hreceipt hloser
      obtain ⟨other, hother, hid⟩ := List.mem_map.mp hloser
      have hlanes := (h.accepted receipt hreceipt).lane_eq_of_winner (h.accepted other hother)
        hid.symm
      cases hsame receipt hreceipt other hother hlanes with
      | inl hown => exact hlane.winners receipt hown.1 (List.mem_map.mpr ⟨other, hown.2, hid⟩)
      | inr hboth => exact hforeign.winners receipt hboth.1 (List.mem_map.mpr ⟨other, hboth.2, hid⟩)
    . have hnodup : ledgers.supersessions.Nodup := h.nodup.of_map _
      rw [List.nodup_map_iff_inj_on hnodup]
      intro receipt hreceipt other hother hid
      have hlanes := (h.accepted receipt hreceipt).lane_eq (h.accepted other hother)
        ((h.accepted receipt hreceipt).family_eq (h.accepted other hother) hid)
      cases hsame receipt hreceipt other hother hlanes with
      | inl hown => exact List.inj_on_of_nodup_map hlane.losers hown.1 hown.2 hid
      | inr hboth => exact List.inj_on_of_nodup_map hforeign.losers hboth.1 hboth.2 hid

theorem lookup_supersededBy_lane (h : ledgers.Sound sha256) {row : GoalLineageV1}
    (hrow : row ∈ ledgers.rows sha256) (hlane : row.laneDigest = some lane)
    : (supersededBy sha256 ledgers).lookup row.lineageId
        = winnerOf sha256
            ((ledgers.supersessions.filter (·.laneDigest = lane)).map (·.supersededLineageId))
            (ledgers.rows sha256) (ledgers.supersessions.filter (·.laneDigest = lane))
            row.lineageId := by
  unfold supersededBy
  rw [scanOf_map h.nodup]
  unfold winnerOf
  rw [List.filter_filter]
  congr 2
  apply List.filter_congr
  intro receipt hreceipt
  have haccepted := h.accepted receipt hreceipt
  by_cases hid : receipt.supersededLineageId = row.lineageId
  . have hown : receipt.laneDigest = lane := by
      have := haccepted.laneDigest_of_row hrow (.inr hid.symm)
      rw [hlane] at this
      exact (Option.some.inj this).symm
    have hlosers : receipt.winnerLineageId ∈ ledgers.supersessions.map (·.supersededLineageId) ↔
        receipt.winnerLineageId
          ∈ (ledgers.supersessions.filter (·.laneDigest = lane)).map (·.supersededLineageId) := by
      constructor
      . intro hmem
        obtain ⟨other, hother, hsame⟩ := List.mem_map.mp hmem
        have hlanes := haccepted.lane_eq_of_winner (h.accepted other hother) hsame.symm
        rw [List.mem_map]
        refine ⟨other, ?_, hsame⟩
        simp [hother, ← hlanes, hown]
      . intro hmem
        exact (List.filter_sublist.map _).subset hmem
    have hpaired : isPaired sha256 (ledgers.supersessions.map (·.supersededLineageId))
          (ledgers.rows sha256) receipt
        = isPaired sha256
          ((ledgers.supersessions.filter (·.laneDigest = lane)).map (·.supersededLineageId))
          (ledgers.rows sha256) receipt := by
      rw [Bool.eq_iff_iff, isPaired_rows h hreceipt, isPaired_rows h hreceipt, hlosers]
    rw [hpaired, hown]
    simp
  . simp [hid]

end Supersessions

theorem winnerOf_congr {supersededIds : List String} {lineages lineages' : List GoalLineageV1}
    {receipts : List GoalLineageSupersessionV1}
    (h : ∀ receipt ∈ receipts, isPaired sha256 supersededIds lineages receipt
      = isPaired sha256 supersededIds lineages' receipt)
    (id : String)
    : winnerOf sha256 supersededIds lineages receipts id
        = winnerOf sha256 supersededIds lineages' receipts id := by
  unfold winnerOf
  rw [List.filter_congr]
  intro receipt hreceipt
  rw [h receipt hreceipt]

section Reports

variable {left right : GoalLineageLedgers}

theorem rows_lane_congr (hagree : AgreeOn lane left right) (hleft : Separate sha256 lane left)
    (hright : Separate sha256 lane right) (row : GoalLineageV1)
    : (row ∈ left.rows sha256 ∧ row.laneDigest = some lane) ↔
        (row ∈ right.rows sha256 ∧ row.laneDigest = some lane) := by
  rw [mem_rows_lane hleft, mem_rows_lane hright, hagree.projections, hagree.authorities]

theorem stands_congr (hrows : ∀ row, (row ∈ left.rows sha256 ∧ row.laneDigest = some lane) ↔
      (row ∈ right.rows sha256 ∧ row.laneDigest = some lane))
    {receipt : GoalLineageSupersessionV1} (haccepted : Accepted sha256 receipt)
    (hown : receipt.laneDigest = lane)
    : Stands (left.rows sha256) receipt ↔ Stands (right.rows sha256) receipt := by
  have hforth : ∀ {ledgers later : GoalLineageLedgers},
      (∀ row, (row ∈ ledgers.rows sha256 ∧ row.laneDigest = some lane) ↔
        (row ∈ later.rows sha256 ∧ row.laneDigest = some lane)) →
      Stands (ledgers.rows sha256) receipt → Stands (later.rows sha256) receipt := by
    rintro ledgers later hrows ⟨⟨winner, hwinner, hwinnerId, hrunnable⟩, loser, hloser, hloserId⟩
    have hwinnerLane := haccepted.laneDigest_of_row hwinner (.inl hwinnerId)
    have hloserLane := haccepted.laneDigest_of_row hloser (.inr hloserId)
    rw [hown] at hwinnerLane hloserLane
    exact ⟨⟨winner, ((hrows winner).mp ⟨hwinner, hwinnerLane⟩).1, hwinnerId, hrunnable⟩, loser,
      ((hrows loser).mp ⟨hloser, hloserLane⟩).1, hloserId⟩
  exact ⟨hforth hrows, hforth fun row => (hrows row).symm⟩

theorem blockers_congr (hleftSound : left.Sound sha256) (hrightSound : right.Sound sha256)
    (hagree : AgreeOn lane left right) (hleft : Separate sha256 lane left)
    (hright : Separate sha256 lane right) (options : GoalLineageDoctorOptions)
    : (runGoalLineageDoctor sha256 left options).blockers = [] ↔
        (runGoalLineageDoctor sha256 right options).blockers = [] := by
  rw [blockers_eq_nil_iff hleftSound, blockers_eq_nil_iff hrightSound,
    settled_split hleftSound lane, settled_split hrightSound lane, hagree.supersessions]
  have hrows := rows_lane_congr hagree hleft hright
  have hsettled : Settled (left.rows sha256) (right.supersessions.filter (·.laneDigest = lane)) ↔
      Settled (right.rows sha256) (right.supersessions.filter (·.laneDigest = lane)) := by
    have hstands : ∀ receipt ∈ right.supersessions.filter (·.laneDigest = lane),
        (Stands (left.rows sha256) receipt ↔ Stands (right.rows sha256) receipt) := by
      intro receipt hreceipt
      rw [List.mem_filter, decide_eq_true_eq] at hreceipt
      exact stands_congr hrows (hrightSound.accepted receipt hreceipt.1) hreceipt.2
    constructor
    . intro h
      exact ⟨fun receipt hreceipt => (hstands receipt hreceipt).mp (h.stands receipt hreceipt),
        h.winners, h.losers⟩
    . intro h
      exact ⟨fun receipt hreceipt => (hstands receipt hreceipt).mpr (h.stands receipt hreceipt),
        h.winners, h.losers⟩
  rw [hsettled]
  constructor
  . rintro ⟨hown, _⟩
    exact ⟨hown, hright.supersessions⟩
  . rintro ⟨hown, _⟩
    exact ⟨hown, hleft.supersessions⟩

theorem applySupersession_congr (hleftSound : left.Sound sha256) (hrightSound : right.Sound sha256)
    (hagree : AgreeOn lane left right) (hleft : Separate sha256 lane left)
    (hright : Separate sha256 lane right) {row : GoalLineageV1} (hrow : row ∈ left.rows sha256)
    (hlane : row.laneDigest = some lane)
    : applySupersession (supersededBy sha256 left) row
        = applySupersession (supersededBy sha256 right) row := by
  have hrows := rows_lane_congr hagree hleft hright
  have hrightRow := ((hrows row).mp ⟨hrow, hlane⟩).1
  have hlookup : (supersededBy sha256 left).lookup row.lineageId
      = (supersededBy sha256 right).lookup row.lineageId := by
    rw [lookup_supersededBy_lane hleftSound hrow hlane,
      lookup_supersededBy_lane hrightSound hrightRow hlane, hagree.supersessions]
    apply winnerOf_congr
    intro receipt hreceipt
    have hmem := hreceipt
    rw [← hagree.supersessions] at hmem
    rw [List.mem_filter, decide_eq_true_eq] at hreceipt hmem
    have hstands := stands_congr hrows (hrightSound.accepted receipt hreceipt.1) hreceipt.2
    rw [Bool.eq_iff_iff, isPaired_rows hleftSound hmem.1, isPaired_rows hrightSound hreceipt.1,
      hstands]
  unfold applySupersession
  rw [hlookup]

theorem lineageLe_total (a b : GoalLineageV1) : lineageLe a b ∨ lineageLe b a := by
  unfold lineageLe
  by_cases hforth : a.campaignFamilyId < b.campaignFamilyId
  . exact .inl (.inl hforth)
  . by_cases hback : b.campaignFamilyId < a.campaignFamilyId
    . exact .inr (.inl hback)
    . have hsame : a.campaignFamilyId = b.campaignFamilyId := String.le_antisymm hback hforth
      obtain hlt | heq | hgt := lt_trichotomy a.observedAtMs b.observedAtMs
      . exact .inl (.inr ⟨hsame, .inl hlt⟩)
      . cases String.le_total a.lineageId b.lineageId with
        | inl hle => exact .inl (.inr ⟨hsame, .inr ⟨heq, hle⟩⟩)
        | inr hge => exact .inr (.inr ⟨hsame.symm, .inr ⟨heq.symm, hge⟩⟩)
      . exact .inr (.inr ⟨hsame.symm, .inl hgt⟩)

theorem lineageLe_trans (a b c : GoalLineageV1) (hab : lineageLe a b) (hbc : lineageLe b c)
    : lineageLe a c := by
  unfold lineageLe at *
  obtain hab | ⟨hfamily, hab⟩ := hab
  . obtain hbc | ⟨hfamily', _⟩ := hbc
    . exact .inl (String.lt_trans hab hbc)
    . rw [← hfamily']
      exact .inl hab
  . obtain hbc | ⟨hfamily', hbc⟩ := hbc
    . rw [hfamily]
      exact .inl hbc
    . refine .inr ⟨hfamily.trans hfamily', ?_⟩
      obtain hab | ⟨hseen, hab⟩ := hab
      . obtain hbc | ⟨hseen', _⟩ := hbc
        . exact .inl (by omega)
        . exact .inl (by omega)
      . obtain hbc | ⟨hseen', hbc⟩ := hbc
        . exact .inl (by omega)
        . exact .inr ⟨hseen.trans hseen', String.le_trans hab hbc⟩

theorem lineageId_of_lineageLe {a b : GoalLineageV1} (hab : lineageLe a b) (hba : lineageLe b a)
    : a.lineageId = b.lineageId := by
  unfold lineageLe at *
  obtain hab | ⟨hfamily, hab⟩ := hab
  . exfalso
    obtain hba | ⟨hfamily, _⟩ := hba
    . exact String.lt_irrefl _ (String.lt_trans hab hba)
    . rw [hfamily] at hab
      exact String.lt_irrefl _ hab
  . obtain hba | ⟨_, hba⟩ := hba
    . exfalso
      rw [hfamily] at hba
      exact String.lt_irrefl _ hba
    . obtain hab | ⟨_, hab⟩ := hab
      . omega
      . obtain hba | ⟨_, hba⟩ := hba
        . omega
        . exact String.le_antisymm hab hba

theorem insertionSort_congr {rows rows' : List GoalLineageV1}
    (hnodup : (rows.map (·.lineageId)).Nodup) (hnodup' : (rows'.map (·.lineageId)).Nodup)
    (h : ∀ row, row ∈ rows ↔ row ∈ rows')
    : rows.insertionSort lineageLe = rows'.insertionSort lineageLe := by
  have : Std.Total lineageLe := ⟨lineageLe_total⟩
  have : IsTrans GoalLineageV1 lineageLe := ⟨lineageLe_trans⟩
  have hperm : rows.Perm rows' :=
    (List.perm_ext_iff_of_nodup (hnodup.of_map _) (hnodup'.of_map _)).mpr h
  apply List.Perm.eq_of_pairwise
  . intro a b ha hb hab hba
    rw [List.mem_insertionSort] at ha hb
    exact List.inj_on_of_nodup_map hnodup ha ((h b).mpr hb) (lineageId_of_lineageLe hab hba)
  . exact List.pairwise_insertionSort lineageLe rows
  . exact List.pairwise_insertionSort lineageLe rows'
  . exact (List.perm_insertionSort lineageLe rows).trans
      (hperm.trans (List.perm_insertionSort lineageLe rows').symm)

theorem nodup_applied (ledgers : GoalLineageLedgers)
    : (((ledgers.rows sha256).map (applySupersession (supersededBy sha256 ledgers))).map
        (·.lineageId)).Nodup := by
  have hsame : (fun row : GoalLineageV1 => row.lineageId)
      ∘ applySupersession (supersededBy sha256 ledgers) = fun row => row.lineageId := by
    funext row
    exact applySupersession_lineageId _ _
  rw [List.map_map, hsame]
  exact nodup_rows

theorem reportLineages_congr (hleftSound : left.Sound sha256) (hrightSound : right.Sound sha256)
    (hagree : AgreeOn lane left right) (hleft : Separate sha256 lane left)
    (hright : Separate sha256 lane right) (session : Option String)
    : let options : GoalLineageDoctorOptions :=
        { laneDigest := some lane, virtualSessionId := session }
      (runGoalLineageDoctor sha256 left options).lineages
        = (runGoalLineageDoctor sha256 right options).lineages := by
  have hrows := rows_lane_congr hagree hleft hright
  have hmem : ∀ row : GoalLineageV1, row.laneDigest = some lane →
      (row ∈ (left.rows sha256).map (applySupersession (supersededBy sha256 left)) ↔
        row ∈ (right.rows sha256).map (applySupersession (supersededBy sha256 right))) := by
    intro row hlane
    rw [List.mem_map, List.mem_map]
    constructor
    . rintro ⟨found, hfound, rfl⟩
      rw [applySupersession_laneDigest] at hlane
      refine ⟨found, ((hrows found).mp ⟨hfound, hlane⟩).1, ?_⟩
      exact (applySupersession_congr hleftSound hrightSound hagree hleft hright hfound hlane).symm
    . rintro ⟨found, hfound, rfl⟩
      rw [applySupersession_laneDigest] at hlane
      have hfound := ((hrows found).mpr ⟨hfound, hlane⟩).1
      refine ⟨found, hfound, ?_⟩
      exact applySupersession_congr hleftSound hrightSound hagree hleft hright hfound hlane
  have hleftNodup := @nodup_applied sha256 left
  have hrightNodup := @nodup_applied sha256 right
  change reportLineages _ ((left.rows sha256).map (applySupersession (supersededBy sha256 left)))
    = reportLineages _ ((right.rows sha256).map (applySupersession (supersededBy sha256 right)))
  generalize (left.rows sha256).map (applySupersession (supersededBy sha256 left)) = rows
    at hmem hleftNodup ⊢
  generalize (right.rows sha256).map (applySupersession (supersededBy sha256 right)) = rows'
    at hmem hrightNodup ⊢
  unfold reportLineages
  apply insertionSort_congr
  . exact ((List.filter_sublist.trans List.filter_sublist).map _).nodup hleftNodup
  . exact ((List.filter_sublist.trans List.filter_sublist).map _).nodup hrightNodup
  . intro row
    simp only [List.mem_filter, Option.all_some, decide_eq_true_eq]
    constructor
    . rintro ⟨⟨hrow, hlane⟩, hsession⟩
      exact ⟨⟨(hmem row hlane).mp hrow, hlane⟩, hsession⟩
    . rintro ⟨⟨hrow, hlane⟩, hsession⟩
      exact ⟨⟨(hmem row hlane).mpr hrow, hlane⟩, hsession⟩

/-
Two histories that agree on the receipts of a lane, and in which the lanes are separate, give it the same
report.
-/
theorem lanes_do_not_block (left right : List GoalLineageEvent) (lane : String)
    (session : Option String)
    (hagree : AgreeOn lane (ledgersAfter sha256 left) (ledgersAfter sha256 right))
    (hleft : Separate sha256 lane (ledgersAfter sha256 left))
    (hright : Separate sha256 lane (ledgersAfter sha256 right))
    : let options : GoalLineageDoctorOptions :=
        { laneDigest := some lane, virtualSessionId := session }
      let report := runGoalLineageDoctor sha256 (ledgersAfter sha256 left) options
      let report' := runGoalLineageDoctor sha256 (ledgersAfter sha256 right) options
      report.status = report'.status ∧ report.campaigns = report'.campaigns
        ∧ report.lineages = report'.lineages := by
  intro options report report'
  have hlineages : report.lineages = report'.lineages :=
    reportLineages_congr (ledgersAfter_sound left) (ledgersAfter_sound right) hagree hleft hright
      session
  have hblockers := blockers_congr (ledgersAfter_sound left) (ledgersAfter_sound right) hagree hleft
    hright options
  have hempty : report.blockers.isEmpty = report'.blockers.isEmpty := by
    rw [Bool.eq_iff_iff, List.isEmpty_iff, List.isEmpty_iff]
    exact hblockers
  refine ⟨?_, ?_, hlineages⟩
  . have hstatus : ∀ blockers blockers' : List String, blockers.isEmpty = blockers'.isEmpty →
        reportStatus blockers report.lineages = reportStatus blockers' report.lineages := by
      intro blockers blockers' hsame
      unfold reportStatus
      rw [hsame]
    have hsame := hstatus report.blockers report'.blockers hempty
    rw [hlineages] at hsame
    calc report.status
      _ = reportStatus report.blockers report.lineages := rfl
      _ = reportStatus report'.blockers report'.lineages := by rw [hlineages, hsame]
      _ = report'.status := rfl
  . calc report.campaigns
      _ = (grouped report.lineages).filterMap campaignOf := rfl
      _ = (grouped report'.lineages).filterMap campaignOf := by rw [hlineages]
      _ = report'.campaigns := rfl

end Reports

section Samples

theorem authority_of_row {row : GoalLineageV1} (hrow : row ∈ ledgers.rows sha256)
    (hlane : row.laneDigest = some lane)
    : ∃ authority ∈ ledgers.authorities, authority.laneDigest = lane := by
  obtain ⟨key, hkey⟩ := GoalLineageLedgers.mem_rows.mp hrow
  obtain ⟨projection, _, _, rfl⟩ := GoalLineageLedgers.rowAt_eq_some hkey
  obtain ⟨authority, hauthority, hauthorityLane⟩ := Option.map_eq_some_iff.mp hlane
  exact ⟨authority, (Latest.of_lookup_latestBy hauthority).1, hauthorityLane⟩

theorem separate_of_mem {supersessions : List GoalLineageSupersessionV1}
    (hauthorities : ∀ authority ∈ ledgers.authorities, authority.laneDigest = lane →
      ((latestAuthorities ledgers.authorities).lookup authority.key).all (·.laneDigest = lane))
    (hunder : ∀ projection ∈ ledgers.projections,
      (ledgers.authorityOf projection).map (·.laneDigest) = some lane →
        projection.isOf lane ledgers.authorities)
    (hprojections : ∀ projection ∈ ledgers.projections,
      projection.isOf lane ledgers.authorities →
        ((latestProjections ledgers.projections).lookup projection.key).all
          (·.isOf lane ledgers.authorities))
    (hsettled : Settled (ledgers.rows sha256) (supersessions.filter (·.laneDigest ≠ lane)))
    : Separate sha256 lane { ledgers with supersessions } where
  authorities authority hmem hlane latest hlatest := by
    have hall := hauthorities authority hmem hlane
    rw [hlatest] at hall
    simpa using hall
  under key projection hlookup :=
    hunder projection (Latest.of_lookup_latestBy hlookup).1
  projections projection hmem hown _ latest hlatest := by
    have hall := hprojections projection hmem hown
    rw [hlatest] at hall
    simpa using hall
  supersessions := hsettled

def foreignAuthority : VirtualSessionAuthorityReceipt :=
  { sampleAuthority with
    virtualSessionId := "foreign", workingSessionKey := "foreign", laneDigest := "other" }

def foreignProjection (thread : String) : GoalProjectionReceipt :=
  { sampleProjection thread "active" 0 with sessionKey := "foreign", laneDigest := some "other" }

def foreignOptions (sha256 : CollisionFree) : GoalLineageSupersessionOptions where
  winnerLineageId := lineageId sha256 (foreignProjection "third") (some foreignAuthority)
  supersededLineageId := lineageId sha256 (foreignProjection "fourth") (some foreignAuthority)
  reason := "reason"

/-
Behind the accepted supersession of one lane another lane gets two goals, and supersedes one of them.
-/
def twoLanes (sha256 : CollisionFree) : List GoalLineageEvent :=
  (sampleEvents sha256).take 4 ++ [.authority foreignAuthority,
    .projection (foreignProjection "third"), .projection (foreignProjection "fourth"),
    .supersession (foreignOptions sha256) 0]

def twoLanesLedgers : GoalLineageLedgers where
  projections := sampleLedgers.projections
    ++ [foreignProjection "third", foreignProjection "fourth"]
  authorities := [sampleAuthority, foreignAuthority]
  supersessions := []

theorem mem_rows_twoLanes {thread : String} (h : thread = "third" ∨ thread = "fourth")
    : lineageRow sha256 (foreignProjection thread) (some foreignAuthority)
        ∈ twoLanesLedgers.rows sha256 := by
  rw [GoalLineageLedgers.mem_rows]
  refine ⟨(foreignProjection thread).key, ?_⟩
  have hlookup : (latestProjections twoLanesLedgers.projections).lookup
      (foreignProjection thread).key = some (foreignProjection thread) := by
    cases h with
    | inl hthird =>
      rw [hthird]
      decide +kernel
    | inr hfourth =>
      rw [hfourth]
      decide +kernel
  rw [GoalLineageLedgers.rowAt, hlookup]
  rfl

theorem sample_receipt_lane {receipt : GoalLineageSupersessionV1}
    (hledgers : ledgersAfter sha256 ((sampleEvents sha256).take 4)
      = { sampleLedgers with supersessions := [receipt] })
    : receipt.laneDigest = "lane" := by
  have hsettled := (sample_blocked sha256).2.1
  have hsound := @ledgersAfter_sound sha256 ((sampleEvents sha256).take 4)
  rw [hledgers] at hsettled hsound
  obtain ⟨⟨winner, hwinner, hwinnerId, _⟩, _⟩ := hsettled.stands receipt List.mem_cons_self
  have hrow := (hsound.accepted receipt List.mem_cons_self).laneDigest_of_row hwinner (.inl hwinnerId)
  obtain ⟨authority, hauthority, hauthorityLane⟩ := authority_of_row hwinner hrow
  rw [← hauthorityLane, List.mem_singleton.mp hauthority]
  rfl

theorem twoLanes_ledgers {receipt : GoalLineageSupersessionV1}
    (hledgers : ledgersAfter sha256 ((sampleEvents sha256).take 4)
      = { sampleLedgers with supersessions := [receipt] })
    : ∃ foreign : GoalLineageSupersessionV1,
        ledgersAfter sha256 (twoLanes sha256)
            = { twoLanesLedgers with supersessions := [receipt, foreign] }
          ∧ foreign.laneDigest = "other" ∧ Accepted sha256 foreign
          ∧ Stands (twoLanesLedgers.rows sha256) foreign := by
  have hsound := @ledgersAfter_sound sha256 ((twoLanes sha256).take 7)
  have hseven : ledgersAfter sha256 ((twoLanes sha256).take 7)
      = { twoLanesLedgers with supersessions := [receipt] } := by
    have hsplit : (twoLanes sha256).take 7 = (sampleEvents sha256).take 4
      ++ [.authority foreignAuthority, .projection (foreignProjection "third"),
        .projection (foreignProjection "fourth")] := rfl
    unfold ledgersAfter at hledgers ⊢
    rw [hsplit, Run.exec_append, hledgers]
    rfl
  rw [hseven] at hsound
  have hlane := sample_receipt_lane hledgers
  have hfree : (supersededBy sha256 { twoLanesLedgers with supersessions := [receipt] }).lookup
      (lineageId sha256 (foreignProjection "third") (some foreignAuthority)) = none := by
    have hlookup := @lookup_supersededBy_lane sha256 _ "other" hsound _
      (mem_rows_twoLanes (.inl rfl)) rfl
    rw [lineageRow_lineageId] at hlookup
    rw [hlookup]
    simp [twoLanesLedgers, hlane, winnerOf]
  obtain ⟨foreign, haccepted, hwinner⟩ := @accepted_between sha256
    { twoLanesLedgers with supersessions := [receipt] } _ _ _ (mem_rows_twoLanes (.inl rfl))
    (mem_rows_twoLanes (.inr rfl)) (by decide) rfl (by decide) hfree
  obtain ⟨-, -, winner, hwinnerRow, loser, hloserRow, hwinnerId, hloserId, -, -, hwinnerLane, -,
    hruns, -⟩ := rows_of_accepted haccepted
  have hvalid := accepted_of_accepted haccepted
  have hforeign : foreign.laneDigest = "other" := by
    have hrow := hvalid.laneDigest_of_row (mem_rows_twoLanes (.inl rfl))
      (.inl hwinner.symm)
    exact (Option.some.inj hrow).symm
  refine ⟨foreign, ?_, hforeign, hvalid, ⟨⟨winner, hwinnerRow, hwinnerId, hruns⟩, loser, hloserRow,
    hloserId⟩⟩
  have hfresh : receipt.supersessionId ≠ foreign.supersessionId := by
    intro hsame
    have hreceipt := hsound.accepted receipt List.mem_cons_self
    have hlanes := hreceipt.lane_eq hvalid
      (hreceipt.family_eq hvalid ((hreceipt.supersessionId_eq_iff hvalid).mp hsame).2)
    rw [hlane, hforeign] at hlanes
    exact absurd hlanes (by decide)
  have hlast : twoLanes sha256 = (twoLanes sha256).take 7
    ++ [.supersession (foreignOptions sha256) 0] := rfl
  have hstep : ledgersAfter sha256 (twoLanes sha256)
      = step sha256 (ledgersAfter sha256 ((twoLanes sha256).take 7))
        (.supersession (foreignOptions sha256) 0) := by
    conv => lhs; rw [hlast]
    exact Run.exec_concat _ _ _ _
  rw [hstep, hseven, step, appendGoalLineageSupersession, foreignOptions, haccepted]
  simp [twoLanesLedgers, hfresh]

theorem twoLanes_agreeOn (sha256 : CollisionFree)
    : let left := ledgersAfter sha256 ((sampleEvents sha256).take 4)
      let right := ledgersAfter sha256 (twoLanes sha256)
      AgreeOn "lane" left right ∧ Separate sha256 "lane" left ∧ Separate sha256 "lane" right := by
  obtain ⟨receipt, hledgers, -⟩ := @sample_after_four sha256
  obtain ⟨foreign, htwo, hforeign, hvalid, hstands⟩ := twoLanes_ledgers hledgers
  have hlane := sample_receipt_lane hledgers
  dsimp only
  rw [hledgers, htwo]
  refine ⟨⟨rfl, rfl, ?_⟩, ?_, ?_⟩
  . simp [hlane, hforeign]
  . apply separate_of_mem
    . decide +kernel
    . decide +kernel
    . decide +kernel
    . have hown : [receipt].filter (·.laneDigest ≠ "lane") = [] := by
        simp [hlane]
      rw [hown]
      exact ⟨by simp, by simp, by simp⟩
  . have hown : [receipt, foreign].filter (·.laneDigest ≠ "lane") = [foreign] := by
      simp [hlane, hforeign]
    apply separate_of_mem
    . decide +kernel
    . decide +kernel
    . decide +kernel
    . rw [hown]
      exact ⟨by simpa using hstands, by simpa using hvalid.distinct, by simp⟩

theorem lanes_do_not_block_sample
    : let options : GoalLineageDoctorOptions :=
        { laneDigest := some "lane", virtualSessionId := none }
      let report := runGoalLineageDoctor .extended
        (ledgersAfter .extended ((sampleEvents .extended).take 4)) options
      let report' := runGoalLineageDoctor .extended
        (ledgersAfter .extended (twoLanes .extended)) options
      report.status = report'.status ∧ report.campaigns = report'.campaigns
        ∧ report.lineages = report'.lineages :=
  lanes_do_not_block ((sampleEvents .extended).take 4) (twoLanes .extended) "lane" none
    (twoLanes_agreeOn .extended).1 (twoLanes_agreeOn .extended).2.1 (twoLanes_agreeOn .extended).2.2

theorem sampleEvents_agreeOn
    : AgreeOn "other" GoalLineageLedgers.empty (ledgersAfter sha256 (sampleEvents sha256)) := by
  obtain ⟨receipt, hledgers, _⟩ := @sample_after_four sha256
  have hlane := sample_receipt_lane hledgers
  rw [ledgersAfter_five, hledgers]
  refine ⟨rfl, rfl, ?_⟩
  simp [GoalLineageLedgers.empty, step, hlane]

theorem status_of_blockers {options : GoalLineageDoctorOptions}
    (h : (runGoalLineageDoctor sha256 ledgers options).blockers ≠ [])
    : (runGoalLineageDoctor sha256 ledgers options).status = .blocked := by
  have hstatus : ∀ blockers lineages, blockers ≠ [] → reportStatus blockers lineages = .blocked := by
    intro blockers lineages hne
    simp [reportStatus, hne]
  exact hstatus _ _ h

theorem sample_statuses (sha256 : CollisionFree)
    : let options : GoalLineageDoctorOptions :=
        { laneDigest := some "other", virtualSessionId := none }
      (runGoalLineageDoctor sha256 .empty options).status = .empty
        ∧ (runGoalLineageDoctor sha256 (ledgersAfter sha256 (sampleEvents sha256)) options).status
          = .blocked := by
  refine ⟨rfl, ?_⟩
  apply status_of_blockers
  rw [Ne, blockers_eq_nil_iff (ledgersAfter_sound _)]
  exact (sample_blocked sha256).2.2

/-
A lane that has no goal at all is reported as blocked once the winner of a supersession in another lane is
completed.
-/
theorem foreign_supersession_blocks
    : let options : GoalLineageDoctorOptions :=
        { laneDigest := some "other", virtualSessionId := none }
      AgreeOn "other" GoalLineageLedgers.empty (ledgersAfter .extended (sampleEvents .extended))
        ∧ (runGoalLineageDoctor .extended .empty options).status = .empty
        ∧ (runGoalLineageDoctor .extended (ledgersAfter .extended (sampleEvents .extended))
            options).status = .blocked := by
  obtain ⟨hempty, hblocked⟩ := sample_statuses .extended
  exact ⟨sampleEvents_agreeOn, hempty, hblocked⟩

end Samples

end GoalLineage
