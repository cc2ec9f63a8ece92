import AgentHarness.GoalLineage.Lemmas.Standing
import AgentHarness.Lib.Marker

/-!
What an event may do to the rows of an accepted supersession.
-/

namespace GoalLineage

variable {sha256 : CollisionFree} {ledgers : GoalLineageLedgers}

def Keeps (receipts : List GoalLineageSupersessionV1) (old new : GoalLineageV1) : Prop :=
  ∀ receipt ∈ receipts,
    (old.lineageId = receipt.winnerLineageId → new.lineageId = old.lineageId ∧ new.runnable)
      ∧ (old.lineageId = receipt.supersededLineageId → new.lineageId = old.lineageId)

/-
A projection or an authority that takes the place of another keeps the rows it stands for; a supersession
that is taken names neither a winner nor the loser of another winner as its loser.
-/
def LeavesStanding (sha256 : CollisionFree) (ledgers : GoalLineageLedgers)
    (event : GoalLineageEvent)
    : Prop :=
  match event with
  | .projection receipt =>
    ∀ current, (latestProjections ledgers.projections).lookup receipt.key = some current →
      replacesProjection current receipt →
        Keeps ledgers.supersessions
          (lineageRow sha256 current (ledgers.authorityOf current))
          (lineageRow sha256 receipt (ledgers.authorityOf receipt))
  | .authority receipt =>
    ((latestAuthorities ledgers.authorities).lookup receipt.key).all (replacesAuthority · receipt) →
      ∀ key projection, (latestProjections ledgers.projections).lookup key = some projection →
        projection.authorityKey = receipt.key →
          Keeps ledgers.supersessions
            (lineageRow sha256 projection (ledgers.authorityOf projection))
            (lineageRow sha256 projection (some receipt))
  | .supersession options recordedAtMs =>
    ∀ receipt, acceptedSupersession sha256 ledgers options recordedAtMs = .ok receipt →
      ∀ stored ∈ ledgers.supersessions,
        stored.winnerLineageId ≠ receipt.supersededLineageId
          ∧ (stored.supersededLineageId = receipt.supersededLineageId →
            stored.winnerLineageId = receipt.winnerLineageId)

section Rows

variable {later : GoalLineageLedgers} {receipts : List GoalLineageSupersessionV1}

theorem keeps_rfl (h : Settled (ledgers.rows sha256) receipts) {row : GoalLineageV1}
    (hrow : row ∈ ledgers.rows sha256)
    : Keeps receipts row row := by
  intro receipt hreceipt
  refine ⟨?_, fun _ => rfl⟩
  intro hwinner
  obtain ⟨⟨found, hfound, hid, hrunnable⟩, _⟩ := h.stands receipt hreceipt
  rw [GoalLineageLedgers.eq_of_lineageId hrow hfound (by rw [hwinner, hid])]
  exact ⟨rfl, hrunnable⟩

theorem settled_iff_keeps (h : Settled (ledgers.rows sha256) receipts)
    (hgrows : ∀ key row, ledgers.rowAt sha256 key = some row →
      ∃ new, later.rowAt sha256 key = some new)
    : Settled (later.rows sha256) receipts ↔
        ∀ key old new, ledgers.rowAt sha256 key = some old → later.rowAt sha256 key = some new →
          Keeps receipts old new := by
  constructor
  . intro hlater key old new hold hnew receipt hreceipt
    obtain ⟨⟨winner, hwinner, hwinnerId, hrunnable⟩, loser, hloser, hloserId⟩ :=
      hlater.stands receipt hreceipt
    have hfound : ∀ row ∈ later.rows sha256, row.lineageId = old.lineageId → row = new := by
      intro row hrow hid
      obtain ⟨key', hkey'⟩ := GoalLineageLedgers.mem_rows.mp hrow
      rw [← GoalLineageLedgers.key_of_lineageId hold hkey' hid.symm, hnew] at hkey'
      exact (Option.some.inj hkey').symm
    constructor
    . intro hid
      rw [← hfound winner hwinner (hwinnerId.trans hid.symm)]
      exact ⟨hwinnerId.trans hid.symm, hrunnable⟩
    . intro hid
      rw [← hfound loser hloser (hloserId.trans hid.symm)]
      exact hloserId.trans hid.symm
  . intro hkeeps
    refine ⟨?_, h.winners, h.losers⟩
    intro receipt hreceipt
    obtain ⟨⟨winner, hwinner, hwinnerId, _⟩, loser, hloser, hloserId⟩ := h.stands receipt hreceipt
    constructor
    . obtain ⟨key, hkey⟩ := GoalLineageLedgers.mem_rows.mp hwinner
      obtain ⟨new, hnew⟩ := hgrows key winner hkey
      obtain ⟨hid, hrunnable⟩ := (hkeeps key winner new hkey hnew receipt hreceipt).1 hwinnerId
      exact ⟨new, GoalLineageLedgers.mem_rows.mpr ⟨key, hnew⟩, hid.trans hwinnerId, hrunnable⟩
    . obtain ⟨key, hkey⟩ := GoalLineageLedgers.mem_rows.mp hloser
      obtain ⟨new, hnew⟩ := hgrows key loser hkey
      have hid := (hkeeps key loser new hkey hnew receipt hreceipt).2 hloserId
      exact ⟨new, GoalLineageLedgers.mem_rows.mpr ⟨key, hnew⟩, hid.trans hloserId⟩

end Rows

section Projection

variable (receipt : GoalProjectionReceipt)

theorem lookup_projection (key : String)
    : (latestProjections (ledgers.projections ++ [receipt])).lookup key
        = if receipt.key = key then
            Latest.later replacesProjection ((latestProjections ledgers.projections).lookup key)
              receipt
          else
            (latestProjections ledgers.projections).lookup key := by
  unfold latestProjections
  rw [Latest.latestBy_concat, Latest.lookup_putLater]

theorem rowAt_projection (key : String)
    : (step sha256 ledgers (.projection receipt)).rowAt sha256 key
        = ((latestProjections (ledgers.projections ++ [receipt])).lookup key).map
            fun projection => lineageRow sha256 projection (ledgers.authorityOf projection) := rfl

theorem settled_projection (h : Settled (ledgers.rows sha256) ledgers.supersessions)
    : LeavesStanding sha256 ledgers (.projection receipt) ↔
        Settled ((step sha256 ledgers (.projection receipt)).rows sha256) ledgers.supersessions := by
  rw [settled_iff_keeps h]
  . constructor
    . intro hleaves key old new hold hnew
      obtain ⟨current, hcurrent, _, rfl⟩ := GoalLineageLedgers.rowAt_eq_some hold
      rw [rowAt_projection, lookup_projection, hcurrent] at hnew
      have hsame := keeps_rfl h (GoalLineageLedgers.mem_rows.mpr ⟨key, hold⟩)
      split at hnew
      . next hkey =>
        subst hkey
        unfold Latest.later at hnew
        split at hnew
        . next hreplaces =>
          obtain rfl := Option.some.inj hnew
          exact hleaves current hcurrent (by simpa using hreplaces)
        . obtain rfl := Option.some.inj hnew
          exact hsame
      . obtain rfl := Option.some.inj hnew
        exact hsame
    . intro hkeeps current hcurrent hreplaces
      apply hkeeps receipt.key
      . simp [GoalLineageLedgers.rowAt, hcurrent]
      . simp [rowAt_projection, lookup_projection, hcurrent, Latest.later, hreplaces]
  . intro key row hrow
    obtain ⟨current, hcurrent, _, _⟩ := GoalLineageLedgers.rowAt_eq_some hrow
    rw [rowAt_projection, lookup_projection, hcurrent]
    split
    . unfold Latest.later
      split
      . exact ⟨_, rfl⟩
      . exact ⟨_, rfl⟩
    . exact ⟨_, rfl⟩

end Projection

section Authority

variable (receipt : VirtualSessionAuthorityReceipt)

theorem authorityOf_authority (projection : GoalProjectionReceipt)
    : (step sha256 ledgers (.authority receipt)).authorityOf projection
        = if receipt.key = projection.authorityKey then
            Latest.later replacesAuthority (ledgers.authorityOf projection) receipt
          else
            ledgers.authorityOf projection := by
  unfold GoalLineageLedgers.authorityOf projectionAuthority latestAuthorities step
  dsimp only
  rw [Latest.latestBy_concat, Latest.lookup_putLater]

theorem rowAt_authority (key : String)
    : (step sha256 ledgers (.authority receipt)).rowAt sha256 key
        = ((latestProjections ledgers.projections).lookup key).map fun projection =>
            lineageRow sha256 projection
              ((step sha256 ledgers (.authority receipt)).authorityOf projection) := rfl

theorem settled_authority (h : Settled (ledgers.rows sha256) ledgers.supersessions)
    : LeavesStanding sha256 ledgers (.authority receipt) ↔
        Settled ((step sha256 ledgers (.authority receipt)).rows sha256) ledgers.supersessions := by
  rw [settled_iff_keeps h]
  . constructor
    . intro hleaves key old new hold hnew
      obtain ⟨projection, hprojection, _, rfl⟩ := GoalLineageLedgers.rowAt_eq_some hold
      have hsame := keeps_rfl h (GoalLineageLedgers.mem_rows.mpr ⟨key, hold⟩)
      rw [rowAt_authority, hprojection, Option.map_some, authorityOf_authority] at hnew
      obtain rfl := Option.some.inj hnew
      split
      . next hkey =>
        unfold Latest.later
        split
        . next hreplaces =>
          apply hleaves _ key projection hprojection hkey.symm
          rw [hkey]
          exact hreplaces
        . exact hsame
      . exact hsame
    . intro hkeeps hreplaces key projection hprojection hkey
      apply hkeeps key
      . simp [GoalLineageLedgers.rowAt, hprojection]
      . rw [← hkey] at hreplaces
        have hlater : Latest.later replacesAuthority (ledgers.authorityOf projection) receipt
            = some receipt := if_pos hreplaces
        rw [rowAt_authority, hprojection, Option.map_some, authorityOf_authority,
          if_pos hkey.symm, hlater]
  . intro key row hrow
    obtain ⟨projection, hprojection, _, _⟩ := GoalLineageLedgers.rowAt_eq_some hrow
    rw [rowAt_authority, hprojection]
    exact ⟨_, rfl⟩

end Authority

section Supersession

variable (options : GoalLineageSupersessionOptions) (recordedAtMs : Int)

theorem rows_supersession
    : (step sha256 ledgers (.supersession options recordedAtMs)).rows sha256
        = ledgers.rows sha256 := by
  unfold step appendGoalLineageSupersession
  dsimp only
  split
  . rfl
  . split
    . rfl
    . rfl

theorem settled_concat_iff (hsound : ledgers.Sound sha256)
    (h : Settled (ledgers.rows sha256) ledgers.supersessions)
    {receipt : GoalLineageSupersessionV1}
    (haccepted : acceptedSupersession sha256 ledgers options recordedAtMs = .ok receipt)
    : Settled (ledgers.rows sha256) (ledgers.supersessions ++ [receipt]) ↔
        ∀ stored ∈ ledgers.supersessions,
          stored.winnerLineageId ≠ receipt.supersededLineageId
            ∧ stored.supersededLineageId ≠ receipt.supersededLineageId := by
  obtain ⟨hdistinct, _, winner, hwinner, loser, hloser, hwinnerId, hloserId, _, _, _, _, hrunnable,
    hlookup⟩ := rows_of_accepted haccepted
  rw [lookup_supersededBy hsound h] at hlookup
  constructor
  . intro hlater stored hstored
    constructor
    . intro hsame
      apply hlater.winners stored (List.mem_append_left _ hstored)
      rw [hsame]
      simp
    . have hlosers := hlater.losers
      rw [List.map_append, List.map_singleton, List.nodup_append] at hlosers
      exact hlosers.2.2 _ (List.mem_map_of_mem hstored) _ List.mem_cons_self
  . intro hfresh
    constructor
    . intro stored hstored
      rw [List.mem_append, List.mem_singleton] at hstored
      cases hstored with
      | inl hstored => exact h.stands stored hstored
      | inr hstored =>
        rw [hstored]
        exact ⟨⟨winner, hwinner, hwinnerId, hrunnable⟩, loser, hloser, hloserId⟩
    . intro stored hstored
      rw [List.map_append, List.map_singleton, List.mem_append, List.mem_singleton, not_or]
      rw [List.mem_append, List.mem_singleton] at hstored
      cases hstored with
      | inl hstored => exact ⟨h.winners stored hstored, (hfresh stored hstored).1⟩
      | inr hstored =>
        rw [hstored]
        exact ⟨hlookup, hdistinct⟩
    . apply Ledger.nodup_concat h.losers
      intro stored hstored
      exact (hfresh stored hstored).2

theorem settled_supersession (hsound : ledgers.Sound sha256)
    (h : Settled (ledgers.rows sha256) ledgers.supersessions)
    : LeavesStanding sha256 ledgers (.supersession options recordedAtMs) ↔
        Settled (ledgers.rows sha256)
          (step sha256 ledgers (.supersession options recordedAtMs)).supersessions := by
  unfold step appendGoalLineageSupersession LeavesStanding
  dsimp only
  cases haccepted : acceptedSupersession sha256 ledgers options recordedAtMs with
  | error e => simp [h]
  | ok receipt =>
    have hreceipt := accepted_of_accepted haccepted
    simp only [Except.ok.injEq, forall_eq']
    cases hfind : ledgers.supersessions.find? (·.supersessionId = receipt.supersessionId) with
    | some existing =>
      simp only [h, iff_true]
      have hmem := List.mem_of_find?_eq_some hfind
      have hid : existing.supersessionId = receipt.supersessionId := by
        simpa using List.find?_some hfind
      rw [(hsound.accepted existing hmem).supersessionId_eq_iff hreceipt] at hid
      intro stored hstored
      rw [← hid.1, ← hid.2]
      constructor
      . intro hsame
        apply h.winners stored hstored
        rw [hsame]
        exact List.mem_map_of_mem hmem
      . intro hsame
        rw [List.inj_on_of_nodup_map h.losers hstored hmem hsame]
    | none =>
      dsimp only
      rw [settled_concat_iff options recordedAtMs hsound h haccepted]
      have hfresh : ∀ stored ∈ ledgers.supersessions,
          stored.supersessionId ≠ receipt.supersessionId := by
        intro stored hstored
        simpa using List.find?_eq_none.mp hfind stored hstored
      constructor
      . intro hleaves stored hstored
        refine ⟨(hleaves stored hstored).1, ?_⟩
        intro hsame
        apply hfresh stored hstored
        rw [(hsound.accepted stored hstored).supersessionId_eq_iff hreceipt]
        exact ⟨(hleaves stored hstored).2 hsame, hsame⟩
      . intro hfresh stored hstored
        refine ⟨(hfresh stored hstored).1, ?_⟩
        intro hsame
        exact absurd hsame (hfresh stored hstored).2

end Supersession

theorem settled_step_iff (hsound : ledgers.Sound sha256)
    (h : Settled (ledgers.rows sha256) ledgers.supersessions) (event : GoalLineageEvent)
    : LeavesStanding sha256 ledgers event ↔
        Settled ((step sha256 ledgers event).rows sha256)
          (step sha256 ledgers event).supersessions := by
  cases event with
  | projection receipt => exact settled_projection receipt h
  | authority receipt => exact settled_authority receipt h
  | supersession options recordedAtMs =>
    rw [rows_supersession]
    exact settled_supersession options recordedAtMs hsound h

theorem settled_empty
    : Settled (GoalLineageLedgers.empty.rows sha256) GoalLineageLedgers.empty.supersessions where
  stands := by simp [GoalLineageLedgers.empty]
  winners := by simp [GoalLineageLedgers.empty]
  losers := by simp [GoalLineageLedgers.empty]

/-
The doctor of a run reports no blocker, whenever it is asked, just when every event leaves the accepted
supersessions standing.
-/
theorem accepted_supersessions_stand (events : List GoalLineageEvent)
    : Run.Guarded (step sha256) (LeavesStanding sha256) .empty events ↔
        ∀ n options, (runGoalLineageDoctor sha256 (ledgersAfter sha256 (events.take n)) options).blockers
          = [] := by
  rw [Run.guarded_iff_invariant (GoalLineageLedgers.Sound sha256)
    (fun ledgers => Settled (ledgers.rows sha256) ledgers.supersessions)
    (fun _ event hsound => sound_step hsound event)
    (fun _ event hsound h => settled_step_iff hsound h event) sound_empty settled_empty]
  constructor
  . intro hsettled n options
    rw [blockers_eq_nil_iff (ledgersAfter_sound _)]
    exact hsettled n
  . intro hblockers n
    exact (blockers_eq_nil_iff (ledgersAfter_sound (events.take n))
      { laneDigest := none, virtualSessionId := none }).mp (hblockers n _)

section Samples

theorem trim_checksumJson (payload : Json)
    : Text.trim (sha256.checksumJson payload) = sha256.checksumJson payload := by
  apply Text.trim_of_ends
  . intro ch hch
    exact sha256.not_isWhitespace_checksumJson payload ch (List.mem_of_mem_head? hch)
  . intro ch hch
    exact sha256.not_isWhitespace_checksumJson payload ch (List.mem_of_getLast? hch)

theorem checksumJson_ne_empty (payload : Json) : sha256.checksumJson payload ≠ "" := by
  intro hempty
  have hblank := sha256.not_isBlank_checksumJson payload
  rw [hempty] at hblank
  exact hblank (by decide)

def sampleAuthority : VirtualSessionAuthorityReceipt where
  queueId := none
  virtualSessionId := "virtual"
  workingSessionKey := "session"
  laneDigest := "lane"
  backendContextGeneration := some "1"
  status := "authoritative-v2"
  updatedAtMs := 0

def sampleProjection (thread status : String) (observedAtMs : Int) : GoalProjectionReceipt where
  queueId := none
  sessionKey := "session"
  sourceThreadId := thread
  sourceTurnId := none
  goalReference := "goal"
  backendGoalRef := none
  laneDigest := some "lane"
  backendContextGeneration := some "1"
  objective := "objective"
  status
  observationPhase := .ownedTurn
  turnRelation := .currentOwnedTurn
  sourceFinalEligible := true
  goalChecksum := "goal checksum"
  projectionChecksum := "projection checksum"
  projectionComplete := true
  observationOrder := 0
  observedAtMs

def sampleOptions (sha256 : CollisionFree) : GoalLineageSupersessionOptions where
  winnerLineageId := lineageId sha256 (sampleProjection "first" "active" 0) (some sampleAuthority)
  supersededLineageId := lineageId sha256 (sampleProjection "second" "active" 0)
    (some sampleAuthority)
  reason := "reason"

def sampleEvents (sha256 : CollisionFree) : List GoalLineageEvent :=
  [.authority sampleAuthority, .projection (sampleProjection "first" "active" 0),
    .projection (sampleProjection "second" "active" 0), .supersession (sampleOptions sha256) 0,
    .projection (sampleProjection "first" "complete" 1)]

def sampleLedgers : GoalLineageLedgers where
  projections := [sampleProjection "first" "active" 0, sampleProjection "second" "active" 0]
  authorities := [sampleAuthority]
  supersessions := []

theorem sampleLedgers_settled
    : Settled (sampleLedgers.rows sha256) sampleLedgers.supersessions where
  stands := by simp [sampleLedgers]
  winners := by simp [sampleLedgers]
  losers := by simp [sampleLedgers]

theorem sampleLedgers_sound : sampleLedgers.Sound sha256 where
  accepted := by simp [sampleLedgers]
  nodup := by simp [sampleLedgers]

theorem lookup_sample {thread : String} (h : thread = "first" ∨ thread = "second")
    : (latestProjections sampleLedgers.projections).lookup (sampleProjection thread "active" 0).key
        = some (sampleProjection thread "active" 0) := by
  cases h with
  | inl hfirst =>
    rw [hfirst]
    decide +kernel
  | inr hsecond =>
    rw [hsecond]
    decide +kernel

theorem mem_rows_sample {thread : String} (h : thread = "first" ∨ thread = "second")
    : lineageRow sha256 (sampleProjection thread "active" 0) (some sampleAuthority)
        ∈ sampleLedgers.rows sha256 := by
  rw [GoalLineageLedgers.mem_rows]
  refine ⟨(sampleProjection thread "active" 0).key, ?_⟩
  rw [GoalLineageLedgers.rowAt, lookup_sample h]
  rfl

theorem accepted_between {winner loser : GoalProjectionReceipt}
    {authority : VirtualSessionAuthorityReceipt}
    (hwinner : lineageRow sha256 winner (some authority) ∈ ledgers.rows sha256)
    (hloser : lineageRow sha256 loser (some authority) ∈ ledgers.rows sha256)
    (hthreads : winner.sourceThreadId ≠ loser.sourceThreadId)
    (hobjective : winner.objective = loser.objective)
    (hruns : (lineageDisposition winner (some authority)).2.1 = true)
    (hfree : (supersededBy sha256 ledgers).lookup (lineageId sha256 winner (some authority)) = none)
    : ∃ receipt, acceptedSupersession sha256 ledgers {
          winnerLineageId := lineageId sha256 winner (some authority)
          supersededLineageId := lineageId sha256 loser (some authority)
          reason := "reason" } 0 = .ok receipt
        ∧ receipt.winnerLineageId = lineageId sha256 winner (some authority) := by
  have hreason : Text.trim "reason" = "reason" := by decide
  apply accepted_of_rows hwinner hloser
  . exact (trim_checksumJson _).symm
  . exact (trim_checksumJson _).symm
  . refine ⟨checksumJson_ne_empty _, checksumJson_ne_empty _, ?_⟩
    rw [hreason]
    decide
  . rw [hreason]
    decide
  . intro hsame
    exact hthreads (lineageId_inj hsame).2.2.1
  . simp only [lineageRow_campaignFamilyId, familyId, objectiveChecksum, hobjective]
  . rfl
  . rfl
  . exact hruns
  . exact hfree

theorem sample_accepted
    : ∃ receipt, acceptedSupersession sha256 sampleLedgers (sampleOptions sha256) 0 = .ok receipt
        ∧ receipt.winnerLineageId
          = lineageId sha256 (sampleProjection "first" "active" 0) (some sampleAuthority) :=
  accepted_between (mem_rows_sample (.inl rfl)) (mem_rows_sample (.inr rfl)) (by decide) rfl
    (by decide) rfl

theorem completed_not_leavesStanding {receipt : GoalLineageSupersessionV1}
    (hwinner : receipt.winnerLineageId
      = lineageId sha256 (sampleProjection "first" "active" 0) (some sampleAuthority))
    : ¬LeavesStanding sha256 { sampleLedgers with supersessions := [receipt] }
        (.projection (sampleProjection "first" "complete" 1)) := by
  intro hleaves
  have hreplaces : replacesProjection (sampleProjection "first" "active" 0)
      (sampleProjection "first" "complete" 1) = true := by decide
  have hstops : (lineageDisposition (sampleProjection "first" "complete" 1)
      (some sampleAuthority)).2.1 = false := by decide
  have hkeeps := hleaves (sampleProjection "first" "active" 0) (lookup_sample (.inl rfl)) hreplaces
    receipt List.mem_cons_self
  have hruns := (hkeeps.1 hwinner.symm).2
  rw [lineageRow_runnable] at hruns
  exact absurd (hruns.symm.trans hstops) (by decide)

theorem ledgersAfter_four
    : ledgersAfter sha256 ((sampleEvents sha256).take 4)
        = step sha256 sampleLedgers (.supersession (sampleOptions sha256) 0) := rfl

theorem sample_after_four
    : ∃ receipt : GoalLineageSupersessionV1,
        ledgersAfter sha256 ((sampleEvents sha256).take 4)
            = { sampleLedgers with supersessions := [receipt] }
          ∧ receipt.winnerLineageId
            = lineageId sha256 (sampleProjection "first" "active" 0) (some sampleAuthority) := by
  obtain ⟨receipt, haccepted, hwinner⟩ := @sample_accepted sha256
  refine ⟨receipt, ?_, hwinner⟩
  rw [ledgersAfter_four]
  simp only [step, appendGoalLineageSupersession, haccepted]
  rfl

theorem ledgersAfter_five
    : ledgersAfter sha256 (sampleEvents sha256)
        = step sha256 (ledgersAfter sha256 ((sampleEvents sha256).take 4))
          (.projection (sampleProjection "first" "complete" 1)) := by
  have hevents : sampleEvents sha256 = (sampleEvents sha256).take 4
      ++ [.projection (sampleProjection "first" "complete" 1)] := rfl
  conv => lhs; rw [hevents]
  exact Run.exec_concat _ _ _ _

theorem sample_blocked (sha256 : CollisionFree)
    : let before := ledgersAfter sha256 ((sampleEvents sha256).take 4)
      let after := ledgersAfter sha256 (sampleEvents sha256)
      before.supersessions ≠ []
        ∧ Settled (before.rows sha256) before.supersessions
        ∧ ¬Settled (after.rows sha256) after.supersessions := by
  obtain ⟨receipt, hledgers, hwinner⟩ := @sample_after_four sha256
  have hsound := @ledgersAfter_sound sha256 ((sampleEvents sha256).take 4)
  have hleaves : LeavesStanding sha256 sampleLedgers (.supersession (sampleOptions sha256) 0) := by
    intro _ _ stored hstored
    exact absurd hstored List.not_mem_nil
  have hsettled := (settled_step_iff sampleLedgers_sound sampleLedgers_settled _).mp hleaves
  rw [← ledgersAfter_four] at hsettled
  dsimp only
  rw [ledgersAfter_five]
  generalize ledgersAfter sha256 ((sampleEvents sha256).take 4) = before at *
  refine ⟨by simp [hledgers], hsettled, ?_⟩
  intro hlater
  have hleaves := (settled_step_iff hsound hsettled _).mpr hlater
  rw [hledgers] at hleaves
  exact completed_not_leavesStanding hwinner hleaves

/-
Of two active goals of a campaign the first supersedes the second; then it is completed.
-/
theorem completed_winner_blocks
    : let before := ledgersAfter .extended ((sampleEvents .extended).take 4)
      let after := ledgersAfter .extended (sampleEvents .extended)
      before.supersessions ≠ []
        ∧ (runGoalLineageDoctor .extended before
            { laneDigest := none, virtualSessionId := none }).blockers = []
        ∧ (runGoalLineageDoctor .extended after
            { laneDigest := none, virtualSessionId := none }).blockers ≠ [] := by
  obtain ⟨hsome, hsettled, hlater⟩ := sample_blocked .extended
  refine ⟨hsome, ?_, ?_⟩
  . exact (blockers_eq_nil_iff (ledgersAfter_sound _) _).mpr hsettled
  . rw [Ne, blockers_eq_nil_iff (ledgersAfter_sound _)]
    exact hlater

end Samples

end GoalLineage
