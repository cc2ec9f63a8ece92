import AgentHarness.GoalLineage.Lemmas.Lanes

/-!
The closure of a goal is final: which receipt stands for a goal does not depend on the order of the
log, and a closure stands before every observation of its goal.
-/

namespace GoalLineage

variable {sha256 : CollisionFree} {ledgers : GoalLineageLedgers}
  {projections values : List GoalProjectionReceipt}

def GoalProjectionReceipt.identity (self : GoalProjectionReceipt)
    : String × Option String × String :=
  (self.sourceThreadId, self.backendContextGeneration, projectionGoalIdentity self)

def GoalLineageV1.identity (self : GoalLineageV1) : String × Option String × String :=
  (self.sourceThreadId, self.backendContextGeneration, self.goalReference)

-- the latest closure of its goal, or the latest receipt of a goal without one
structure IsLast (values : List GoalProjectionReceipt) (last : GoalProjectionReceipt) : Prop where
  mem : last ∈ values
  closure : ∀ value ∈ values, value.identity = last.identity →
    isAuthoritativeTerminalClosure value → isAuthoritativeTerminalClosure last
  latest : ∀ value ∈ values, value.identity = last.identity →
    isAuthoritativeTerminalClosure value = isAuthoritativeTerminalClosure last →
      value.observedAtMs < last.observedAtMs ∨ (value.observedAtMs = last.observedAtMs
        ∧ value.observationOrder ≤ last.observationOrder)

def DistinctTimes (values : List GoalProjectionReceipt) : Prop :=
  values.Pairwise fun a b => a.identity = b.identity →
    (a.observedAtMs, a.observationOrder) ≠ (b.observedAtMs, b.observationOrder)

-- receipts of different goals stand under different keys
def KeysApart (values : List GoalProjectionReceipt) : Prop :=
  ∀ a ∈ values, ∀ b ∈ values, a.key = b.key → a.identity = b.identity

instance : Decidable (KeysApart values) :=
  inferInstanceAs (Decidable (∀ a ∈ values, ∀ b ∈ values, _))

theorem key_of_identity {a b : GoalProjectionReceipt} (h : a.identity = b.identity)
    : a.key = b.key := by
  simp only [GoalProjectionReceipt.identity, Prod.mk.injEq] at h
  exact key_eq_of_parts h.2.1 h.1 h.2.2

theorem eq_of_replaces (hdistinct : DistinctTimes values) {a b : GoalProjectionReceipt}
    (ha : a ∈ values) (hb : b ∈ values) (hidentity : a.identity = b.identity)
    (hab : replacesProjection a b) (hba : replacesProjection b a)
    : a = b := by
  by_contra hne
  have : Std.Symm fun a b : GoalProjectionReceipt => a.identity = b.identity →
      (a.observedAtMs, a.observationOrder) ≠ (b.observedAtMs, b.observationOrder) :=
    ⟨fun a b h hsame => (h hsame.symm).symm⟩
  have htimes := List.Pairwise.forall hdistinct ha hb hne hidentity
  apply htimes
  simp only [replacesProjection, Bool.or_eq_true, Bool.and_eq_true, decide_eq_true_eq,
    Bool.not_eq_true'] at hab hba
  rw [Prod.mk.injEq]
  grind

theorem KeysApart.perm (h : KeysApart values) (hperm : projections.Perm values)
    : KeysApart projections := by
  intro a ha b hb
  exact h a (hperm.mem_iff.mp ha) b (hperm.mem_iff.mp hb)

theorem lookup_latestProjections_perm (hdistinct : DistinctTimes values)
    (hkeys : KeysApart values) (hperm : projections.Perm values) (key : String)
    : (latestProjections projections).lookup key = (latestProjections values).lookup key := by
  unfold latestProjections
  rw [Latest.lookup_latestBy, Latest.lookup_latestBy]
  apply Eq.symm
  apply Latest.latest_perm replacesProjection_total replacesProjection_trans
  . intro a ha b hb
    simp only [List.mem_filter, decide_eq_true_eq] at ha hb
    apply eq_of_replaces hdistinct ha.1 hb.1
    exact hkeys a ha.1 b hb.1 (ha.2.trans hb.2.symm)
  . exact hperm.symm.filter _

theorem isLast_of_lookup {key : String} {last : GoalProjectionReceipt}
    (h : (latestProjections values).lookup key = some last)
    : IsLast values last := by
  have hlast := Latest.of_lookup_latestBy h
  unfold latestProjections at h
  rw [Latest.lookup_latestBy] at h
  have hreplaces : ∀ value ∈ values, value.identity = last.identity →
      replacesProjection value last := by
    intro value hvalue hidentity
    apply Latest.replaces_latest replacesProjection_total replacesProjection_trans h
    simp only [List.mem_filter, decide_eq_true_eq]
    exact ⟨hvalue, (key_of_identity hidentity).trans hlast.2⟩
  constructor
  . exact hlast.1
  . intro value hvalue hidentity hclosure
    have hreplaced := hreplaces value hvalue hidentity
    simp only [replacesProjection, hclosure] at hreplaced
    grind
  . intro value hvalue hidentity hsame
    have hreplaced := hreplaces value hvalue hidentity
    simp only [replacesProjection, hsame] at hreplaced
    grind

theorem exists_last (hkeys : KeysApart values) {projection : GoalProjectionReceipt}
    (h : projection ∈ values)
    : ∃ last ∈ (latestProjections values).values, last.identity = projection.identity
        ∧ IsLast values last := by
  have hmem : projection ∈ values.filter (·.key = projection.key) := by
    simpa using h
  obtain ⟨last, hlast⟩ := Latest.latest_isSome replacesProjection hmem
  rw [← Latest.lookup_latestBy] at hlast
  have hfound := Latest.of_lookup_latestBy hlast
  refine ⟨last, ?_, hkeys last hfound.1 projection h hfound.2, isLast_of_lookup hlast⟩
  rw [FMap.mem_values_iff]
  exact ⟨_, hlast⟩

theorem find_congr {rows rows' : List GoalLineageV1} (hnodup : (rows.map (·.lineageId)).Nodup)
    (hnodup' : (rows'.map (·.lineageId)).Nodup) (h : ∀ row, row ∈ rows ↔ row ∈ rows') (id : String)
    : rows.find? (·.lineageId = id) = rows'.find? (·.lineageId = id) := by
  have hsome : ∀ {rows rows' : List GoalLineageV1}, (rows'.map (·.lineageId)).Nodup →
      (∀ row, row ∈ rows → row ∈ rows') → ∀ row, rows.find? (·.lineageId = id) = some row →
      rows'.find? (·.lineageId = id) = some row := by
    intro rows rows' hnodup' hsub row hrow
    have hmem := hsub row (List.mem_of_find?_eq_some hrow)
    have hid : row.lineageId = id := by simpa using List.find?_some hrow
    cases hfound : rows'.find? (·.lineageId = id) with
    | none => simpa [hid] using List.find?_eq_none.mp hfound row hmem
    | some found =>
      have hfoundId : found.lineageId = id := by simpa using List.find?_some hfound
      rw [List.inj_on_of_nodup_map hnodup' (List.mem_of_find?_eq_some hfound) hmem
        (hfoundId.trans hid.symm)]
  apply Option.ext
  intro row
  constructor
  . exact hsome hnodup' (fun row => (h row).mp) row
  . exact hsome hnodup (fun row => (h row).mpr) row

theorem doctor_congr (hlookup : ∀ key, (latestProjections projections).lookup key
      = (latestProjections ledgers.projections).lookup key)
    (hlength : projections.length = ledgers.projections.length) (options : GoalLineageDoctorOptions)
    : runGoalLineageDoctor sha256 { ledgers with projections } options
        = runGoalLineageDoctor sha256 ledgers options := by
  have hrows : ∀ row, row ∈ GoalLineageLedgers.rows sha256 { ledgers with projections }
      ↔ row ∈ ledgers.rows sha256 := by
    intro row
    simp only [GoalLineageLedgers.mem_rows, GoalLineageLedgers.rowAt,
      GoalLineageLedgers.authorityOf, hlookup]
  have hscan : validSupersessionMap sha256 ledgers.supersessions
        (GoalLineageLedgers.rows sha256 { ledgers with projections })
      = validSupersessionMap sha256 ledgers.supersessions (ledgers.rows sha256) := by
    have hstep : ∀ ids, scanReceipt sha256 ids
          (GoalLineageLedgers.rows sha256 { ledgers with projections })
        = scanReceipt sha256 ids (ledgers.rows sha256) := by
      intro ids
      funext scan receipt
      simp only [scanReceipt, receiptPair, find_congr nodup_rows nodup_rows hrows]
    simp only [validSupersessionMap, hstep]
  have hlineages : reportLineages options
        ((GoalLineageLedgers.rows sha256 { ledgers with projections }).map (applySupersession
          (supersededBy sha256 { ledgers with projections })))
      = reportLineages options ((ledgers.rows sha256).map
        (applySupersession (supersededBy sha256 ledgers))) := by
    unfold reportLineages
    apply insertionSort_congr
    . exact ((List.filter_sublist.trans List.filter_sublist).map _).nodup (nodup_applied _)
    . exact ((List.filter_sublist.trans List.filter_sublist).map _).nodup (nodup_applied _)
    . intro row
      have hmap : supersededBy sha256 { ledgers with projections } = supersededBy sha256 ledgers :=
        congrArg SupersessionScan.map hscan
      simp only [List.mem_filter, List.mem_map, hrows, hmap]
  change reportLineages _ (List.map (applySupersession (validSupersessionMap _ _ _).map) _)
    = reportLineages _ (List.map (applySupersession (validSupersessionMap _ _ _).map) _) at hlineages
  rw [hscan] at hlineages
  unfold GoalLineageLedgers.rows at hscan hlineages
  simp only [runGoalLineageDoctor, hscan, hlineages, hlength]

theorem lineage_of_closure
    {closure : GoalProjectionReceipt} (hmem : closure ∈ ledgers.projections)
    (hclosure : isAuthoritativeTerminalClosure closure) {options : GoalLineageDoctorOptions}
    {row : GoalLineageV1} (hrow : row ∈ (runGoalLineageDoctor sha256 ledgers options).lineages)
    (hidentity : row.identity = closure.identity)
    : isActiveStatus row.goalStatus = false ∧ row.runnable = false := by
  have hfound : ∃ found ∈ ledgers.rows sha256,
      applySupersession (supersededBy sha256 ledgers) found = row := by
    change row ∈ reportLineages options ((ledgers.rows sha256).map
      (applySupersession (supersededBy sha256 ledgers))) at hrow
    unfold reportLineages at hrow
    rw [List.mem_insertionSort, List.mem_filter, List.mem_filter, List.mem_map] at hrow
    exact hrow.1.1
  obtain ⟨found, hfound, rfl⟩ := hfound
  obtain ⟨key, hkey⟩ := GoalLineageLedgers.mem_rows.mp hfound
  obtain ⟨last, hlast, _, rfl⟩ := GoalLineageLedgers.rowAt_eq_some hkey
  have hsame : last.identity = closure.identity := by
    rw [← hidentity]
    unfold applySupersession
    split <;> rfl
  have hended := (isLast_of_lookup hlast).closure closure hmem hsame.symm hclosure
  have hinactive : isActiveStatus last.status = false := by
    unfold isAuthoritativeTerminalClosure at hended
    grind
  have hdisposition : (lineageDisposition last (ledgers.authorityOf last)).2.1 = false := by
    unfold lineageDisposition
    grind
  unfold applySupersession
  split
  . exact ⟨hinactive, hdisposition⟩
  . exact ⟨hinactive, rfl⟩

theorem closure_final_iff (sha256 : CollisionFree) (ledgers : GoalLineageLedgers)
    (hdistinct : DistinctTimes ledgers.projections)
    : (∀ projections, projections.Perm ledgers.projections →
          (∀ projection ∈ projections, ∃ last ∈ (latestProjections projections).values,
            last.identity = projection.identity ∧ IsLast projections last)
          ∧ ∀ options,
            runGoalLineageDoctor sha256 { ledgers with projections } options
              = runGoalLineageDoctor sha256 ledgers options
            ∧ ∀ closure ∈ projections, isAuthoritativeTerminalClosure closure →
              ∀ row ∈ (runGoalLineageDoctor sha256 { ledgers with projections } options).lineages,
              row.identity = closure.identity →
              isActiveStatus row.goalStatus = false ∧ row.runnable = false)
        ↔ KeysApart ledgers.projections := by
  constructor
  . intro h a ha b hb hkey
    obtain ⟨hlast, _⟩ := h ledgers.projections (List.Perm.refl _)
    obtain ⟨last, hmem, hidentity, _⟩ := hlast a ha
    obtain ⟨last', hmem', hidentity', _⟩ := hlast b hb
    rw [FMap.mem_values_iff] at hmem hmem'
    obtain ⟨key, hfound⟩ := hmem
    obtain ⟨key', hfound'⟩ := hmem'
    have hsame : key = key' := by
      rw [← (Latest.of_lookup_latestBy hfound).2, ← (Latest.of_lookup_latestBy hfound').2,
        key_of_identity hidentity, key_of_identity hidentity', hkey]
    rw [hsame, hfound', Option.some.injEq] at hfound
    rw [← hidentity, ← hidentity', hfound]
  . intro hkeys projections hperm
    have hkeys' := hkeys.perm hperm
    constructor
    . intro projection hprojection
      exact exists_last hkeys' hprojection
    . intro options
      constructor
      . apply doctor_congr
        . exact lookup_latestProjections_perm hdistinct hkeys hperm
        . exact hperm.length_eq
      . intro closure hmem hclosure row hrow hidentity
        apply @lineage_of_closure sha256 { ledgers with projections } closure hmem hclosure options
          row hrow hidentity

def sampleReceipt (thread generation : String) (observedAtMs : Int) : GoalProjectionReceipt :=
  { sampleProjection thread "active" observedAtMs with backendContextGeneration := some generation }

def sampleClosure (observedAtMs : Int) : GoalProjectionReceipt :=
  { sampleReceipt "first" "gen" observedAtMs with
    status := "completed"
    observationPhase := .governedClosure
    turnRelation := .authoritativeGoalClosure
    sourceFinalEligible := false }

theorem closure_final_sample
    : (runGoalLineageDoctor .extended { sampleLedgers with
          projections := [sampleClosure 1, sampleReceipt "first" "gen" 2] }
          { laneDigest := none, virtualSessionId := none })
        = runGoalLineageDoctor .extended { sampleLedgers with
            projections := [sampleReceipt "first" "gen" 2, sampleClosure 1] }
          { laneDigest := none, virtualSessionId := none } := by
  have hkeys : KeysApart [sampleReceipt "first" "gen" 2, sampleClosure 1] := by
    decide +kernel
  have hfinal := (closure_final_iff .extended
    { sampleLedgers with projections := [sampleReceipt "first" "gen" 2, sampleClosure 1] }
    (by unfold DistinctTimes; decide +kernel)).mpr hkeys
  exact ((hfinal [sampleClosure 1, sampleReceipt "first" "gen" 2] (List.Perm.swap _ _ _)).2 _).1

theorem goal_lost_under_shared_key
    : let values := [sampleReceipt "a\x1fb" "c" 1, sampleReceipt "a" "b\x1fc" 2]
      DistinctTimes values
        ∧ ¬∀ projection ∈ values,
          ∃ last ∈ (latestProjections values).values, last.identity = projection.identity := by
  unfold DistinctTimes
  decide +kernel

end GoalLineage
