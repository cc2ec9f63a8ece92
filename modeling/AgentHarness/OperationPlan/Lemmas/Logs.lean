import AgentHarness.OperationPlan.Lemmas.Version

/-!
What the rows that one call writes say about the version of the plan, and what the directories of
two plans share.
-/

namespace OperationPlan

variable {dir : PlanDir} {call : Call}

def LogsAgree (before after : PlanDir) : Prop :=
  ∃ plan, after.plan = some plan
    ∧ (∀ event ∈ after.events.drop before.events.length, event.planVersion = plan.version)
    ∧ ∀ receipt ∈ after.receipts.drop before.receipts.length, receipt.planVersion = plan.version

/-
The call writes events with the version that the plan had before it. A version that is at its bound
stays what it was.
-/
def Call.logsOldVersion (call : Call) (dir : PlanDir) : Bool :=
  call.logsFirst && !call.isQuiet dir && dir.plan.any fun plan => plan.version ≠ u64Max

theorem saturatingSucc_eq_self_iff {n : Nat} : saturatingSucc n = n ↔ n = u64Max := by
  unfold saturatingSucc
  omega

theorem logsAgree_iff (hok : call.succeeds dir = true)
    : LogsAgree dir (call.performLocked dir) ↔ call.logsOldVersion dir = false := by
  have h := written_performLocked call dir
  rw [hok] at h
  generalize call.performLocked dir = after at h ⊢
  cases h with
  | quiet hquiet hplan hreceipts =>
    rcases hreceipts with ⟨written, rfl, hwritten⟩
    simpa [LogsAgree, Call.logsOldVersion, hquiet, hplan] using hwritten
  | created hcreate hplan hid hstatus hversion hevent hreceipt =>
    simp [LogsAgree, Call.logsOldVersion, PlanDir.appendPlanReceipt, PlanDir.appendPlanEvent,
      PlanDir.writeJsonPlan, hplan, hevent, hreceipt]
  | @mutated plan plan' _ events _ _ hplan hmutation hwritten hevents hreceipt =>
    have hquiet := isQuiet_of_mutation hplan hmutation
    have hversion := version_of_mutation hmutation
    simp only [LogsAgree, Option.some.injEq, List.drop_left', List.mem_cons, List.not_mem_nil,
      or_false, forall_eq, hreceipt, exists_eq_left', and_true, Call.logsOldVersion, hquiet.1,
      Bool.not_false, Bool.and_true, ne_eq, decide_not, hplan, Option.any_some,
      Bool.and_eq_false_imp, Bool.not_eq_eq_eq_not, decide_eq_true_eq]
    cases hfirst : call.logsFirst with
    | false => simpa [hfirst] using hevents
    | true =>
      simp only [hfirst, if_true] at hevents
      simp only [true_imp_iff]
      rw [← saturatingSucc_eq_self_iff, ← hversion]
      constructor
      . intro hall
        cases events with
        | nil => contradiction
        | cons event events =>
          rw [← hall event List.mem_cons_self, hevents event List.mem_cons_self]
      . intro hsame event hevent
        rw [hevents event hevent, hsame]

theorem logs_agree_iff (calls : List Call)
    : (∀ before call after, calls = before ++ call :: after →
          let dir := Run.exec Store.perform Store.empty before (safeName call.planId)
          call.succeeds dir = true → LogsAgree dir (call.performLocked dir))
        ↔ Run.Guarded Store.perform
          (fun store call => call.succeeds (store (safeName call.planId)) = true →
            call.logsOldVersion (store (safeName call.planId)) = false) Store.empty calls := by
  rw [Run.guarded_iff_split]
  apply forall_congr'
  intro before
  apply forall_congr'
  intro call
  apply forall_congr'
  intro after
  apply imp_congr_right
  intro hcalls
  apply imp_congr_right
  intro hok
  exact logsAgree_iff hok

def sampleComment : Call :=
  .comment { planId := "plan-1", author := none, body := "looks good", nowMs := 2000 }

theorem logs_of_sampleComment_disagree
    : ¬∀ calls before call after, calls = before ++ call :: after →
        let dir := Run.exec Store.perform Store.empty before (safeName call.planId)
        call.succeeds dir = true → LogsAgree dir (call.performLocked dir) := by
  intro h
  have hcalls := (logsAgree_iff (by decide +kernel)).mp (h [.create sampleCreate, sampleComment]
    [.create sampleCreate] sampleComment [] rfl (by decide +kernel))
  revert hcalls
  decide +kernel

namespace Call

def creates (call : Call) : Bool :=
  match call with
  | .create _ => true
  | .createV2 _ laneDigest => (validateLaneDigest laneDigest).isOk
  | _ => false

theorem creates_eq (call : Call) (hplan : dir.plan = none)
    : call.creates = (call.isCreate && call.succeeds dir) := by
  cases call with
  | create options =>
    simp [creates, isCreate, succeeds, outcome, createOperationPlanInternalLocked, readJsonPlan,
      hplan, Except.map, Except.isOk, Except.toBool]
  | createV2 options laneDigest =>
    simp only [creates, isCreate, succeeds, outcome]
    cases validateLaneDigest laneDigest with
    | error e => rfl
    | ok valid =>
      simp [createOperationPlanInternalLocked, readJsonPlan, hplan, Except.map, Except.isOk,
        Except.toBool]
  | addItem | updateItem | delegateItem | promote | comment | block | complete => rfl

end Call

theorem planId_of_mutation {items : List Item} (h : Mutation plan items call plan' items')
    : plan'.planId = plan.planId := by
  cases h <;> rfl

-- a directory has a plan once a plan was created there, and keeps the id of the first one
structure Created (calls : List Call) (name : String) (plan : Option Plan) : Prop where
  planId : ∀ current, plan = some current →
    ∃ call ∈ calls, call.creates ∧ safeName call.planId = name ∧ call.planId = current.planId
  fresh : plan = none → ∀ call ∈ calls, call.creates → safeName call.planId ≠ name

theorem Created.mono {calls : List Call} {name : String} (h : Created calls name (some plan))
    (hid : plan'.planId = plan.planId)
    : Created (calls ++ [call]) name (some plan') where
  planId current hcurrent := by
    injection hcurrent with hcurrent
    rcases h.planId plan rfl with ⟨first, hfirst, hcreates, hname, hplanId⟩
    refine ⟨first, List.mem_append_left _ hfirst, hcreates, hname, ?_⟩
    rw [hplanId, ← hcurrent, hid]
  fresh := by simp

theorem created_performLocked {calls : List Call}
    (h : Created calls (safeName call.planId) dir.plan)
    : Created (calls ++ [call]) (safeName call.planId) (call.performLocked dir).plan := by
  have hkept : call.succeeds dir = false ∨ dir.plan.isSome →
      Created (calls ++ [call]) (safeName call.planId) dir.plan := by
    intro hkept
    cases hplan : dir.plan with
    | none =>
      rw [hplan] at h hkept
      constructor
      . intro current hcurrent
        contradiction
      . intro hnone other hother
        rw [List.mem_append, List.mem_singleton] at hother
        cases hother with
        | inl hother => exact h.fresh rfl other hother
        | inr hother =>
          subst hother
          simp [Call.creates_eq _ hplan, hkept.resolve_right]
    | some plan =>
      rw [hplan] at h
      exact h.mono rfl
  have hwritten := written_performLocked call dir
  generalize hok : call.succeeds dir = ok at hwritten hkept
  generalize call.performLocked dir = after at hwritten ⊢
  cases hwritten with
  | refused hnew => exact hkept (Or.inl rfl)
  | duplicate hduplicate hreceipt => exact hkept (Or.inl rfl)
  | quiet hquiet hplan hreceipts => exact hkept (Or.inr (by simp [hplan]))
  | created hcreate hplan hid hstatus hversion hevent hreceipt =>
    constructor
    . intro current hcurrent
      injection hcurrent with hcurrent
      refine ⟨call, by simp, ?_, rfl, ?_⟩
      . rw [Call.creates_eq call hplan, hcreate, hok]
        rfl
      . rw [← hcurrent, hid]
    . intro hnone
      contradiction
  | mutated hplan hmutation hwritten hevents hreceipt =>
    rw [hplan] at h
    exact h.mono (planId_of_mutation hmutation)

theorem created_of_calls (calls : List Call) (name : String)
    : Created calls name (Run.exec Store.perform Store.empty calls name).plan := by
  induction calls using List.reverseRecOn with
  | nil => exact ⟨by simp [Store.empty], by simp⟩
  | append_singleton calls call ih =>
    rw [Run.exec_concat, Store.perform]
    by_cases hname : name = safeName call.planId
    . subst hname
      rw [Store.set_same]
      exact created_performLocked ih
    . rw [Store.set_of_ne _ _ hname]
      constructor
      . intro current hcurrent
        rcases ih.planId current hcurrent with ⟨first, hfirst, hrest⟩
        exact ⟨first, List.mem_append_left _ hfirst, hrest⟩
      . intro hnone other hother
        rw [List.mem_append, List.mem_singleton] at hother
        cases hother with
        | inl hother => exact ih.fresh hnone other hother
        | inr hother =>
          rw [hother]
          intro _
          exact Ne.symm hname

theorem perform_of_ne (store : Store) {name : String} (h : safeName call.planId ≠ name)
    : store.perform call name = store name := by
  rw [Store.perform, Store.set_of_ne _ _ (Ne.symm h)]

def Call.createsPlan (planId : String) : Call :=
  .create {
    planId
    originQueueId := none
    sessionKey := "session-1"
    agentId := "main"
    goal := "ship it"
    acceptanceCriteria := none
    constraints := none
    maxOpenItems := none
    maxFanout := none
    nowMs := 1000 }

def planFiles : List String :=
  ["plan.json", "items.jsonl", "events.jsonl", "comments.jsonl", "receipts.jsonl"]

def PlanDir.files (dir : PlanDir) : List String :=
  planFiles.filter fun file =>
    (file = "plan.json" && dir.plan.isSome) || (file = "items.jsonl" && !dir.items.isEmpty)
      || (file = "events.jsonl" && !dir.events.isEmpty)
      || (file = "comments.jsonl" && !dir.comments.isEmpty)
      || (file = "receipts.jsonl" && !dir.receipts.isEmpty)

-- the locks, and the temporary files of `plan.json`, that a call makes and removes
def isPassingFile (name : String) : Bool :=
  name ∈ [".plan.json.atomic.lock", ".mutation-transaction.jsonl.append.lock",
      ".items.jsonl.append.lock", ".events.jsonl.append.lock", ".comments.jsonl.append.lock",
      ".receipts.jsonl.append.lock"]
    || (".plan.json.".toList.isPrefixOf name.toList && ".tmp".toList.isSuffixOf name.toList)

/-
The store with the directories that were made. The directory `.` is the one that those of the other
plans are in, and `..` is the one above it, in which no plan has its directory.
-/
structure Home where
  store : Store := Store.empty
  made : List String := []

namespace Home

-- a directory is in the place of a file of the plan, or a file of the plan `.` in that of its directory
def hides (self : Home) (name : String) : Bool :=
  if name = "." then self.made.any (· ∈ planFiles) else name ∈ (self.store ".").files

def read (self : Home) (planId : String) : Option PlanDir :=
  if self.hides (safeName planId) then none else some (self.store (safeName planId))

def bars (self : Home) (name : String) : Bool :=
  self.hides name || (name = "." && self.made.any isPassingFile)

-- the call makes the directory as it takes the lock, which `create_operation_plan_v2` does last
def makesDirectory (call : Call) : Bool :=
  match call with
  | .createV2 _ laneDigest => (validateLaneDigest laneDigest).isOk
  | _ => true

-- nothing is said of a call that finds a path barred, and fails on its way
def perform (self : Home) (call : Call) : Option Home :=
  if self.bars (safeName call.planId) then
    none
  else
    some {
      store := self.store.perform call
      made := if makesDirectory call then safeName call.planId :: self.made else self.made }

end Home

def SharesFiles (p q : String) : Prop :=
  safeName p = "." ∧ safeName q ∈ planFiles ∨ safeName q = "." ∧ safeName p ∈ planFiles

theorem safeName_eq_self {planId name : String} (h : safeName planId = name) (hplan : name ≠ "plan")
    (hclean : '_' ∉ name.toList)
    : planId = name := by
  unfold safeName at h
  dsimp only at h
  split at h
  . exact absurd h.symm hplan
  . have hchars : planId.toList.map safeNameChar = name.toList := by
      rw [← h]
      simp [Text.mapChars]
    have hsame : ∀ ch ∈ planId.toList, safeNameChar ch = ch := by
      intro ch hch
      have hmem : safeNameChar ch ∈ name.toList := by
        rw [← hchars]
        exact List.mem_map_of_mem hch
      unfold safeNameChar at hmem ⊢
      split
      . rfl
      . next hother =>
        rw [if_neg hother] at hmem
        exact absurd hmem hclean
    rw [List.map_congr_left hsame, List.map_id'] at hchars
    exact String.toList_inj.mp hchars

theorem read_perform {home next : Home} (hnext : home.perform call = some next) {q : String}
    (hname : safeName call.planId ≠ safeName q) (hfiles : ¬SharesFiles call.planId q)
    : next.read q = home.read q := by
  unfold Home.perform at hnext
  split at hnext
  . cases hnext
  cases hnext
  have hhides : ∀ made, made = (if Home.makesDirectory call then safeName call.planId :: home.made
        else home.made) →
      Home.hides { store := home.store.perform call, made } (safeName q) = home.hides (safeName q) := by
    rintro _ rfl
    unfold Home.hides
    by_cases hdot : safeName q = "."
    . rw [if_pos hdot, if_pos hdot]
      split
      . have hnot : safeName call.planId ∉ planFiles := fun hmem => hfiles (.inr ⟨hdot, hmem⟩)
        simp [hnot]
      . rfl
    . rw [if_neg hdot, if_neg hdot]
      by_cases hcall : safeName call.planId = "."
      . have hnot : safeName q ∉ planFiles := fun hmem => hfiles (.inl ⟨hcall, hmem⟩)
        simp [PlanDir.files, hnot]
      . show decide (_ ∈ (home.store.perform call ".").files) = _
        rw [perform_of_ne home.store hcall]
  unfold Home.read
  rw [hhides _ rfl]
  simp only [perform_of_ne home.store hname]

theorem exec_of_foldlM {calls : List Call} {home later : Home}
    (h : calls.foldlM Home.perform home = some later)
    : later.store = Run.exec Store.perform home.store calls := by
  induction calls generalizing home with
  | nil =>
    cases h
    rfl
  | cons call calls ih =>
    rw [List.foldlM_cons] at h
    obtain ⟨next, hnext, h⟩ := Option.bind_eq_some_iff.mp h
    rw [ih h, Run.exec_cons]
    unfold Home.perform at hnext
    split at hnext
    . cases hnext
    . cases hnext
      rfl

-- a plan with an item and a comment, which has all its files
def Call.fillsPlan (planId : String) : List Call :=
  [.createsPlan planId, .addItem { sampleAdd "item-1" with planId },
    .comment { planId, author := none, body := "looks good", nowMs := 2000 }]

def SeparateFrom (p q : String) : Prop :=
  ∀ (calls ops : List Call) (home later : Home), calls.foldlM Home.perform {} = some home →
    (∀ call ∈ ops, call.planId = p) → ops.foldlM Home.perform home = some later →
      later.read q = home.read q

theorem planId_fillsPlan (planId : String) : ∀ call ∈ Call.fillsPlan planId, call.planId = planId := by
  simp [Call.fillsPlan, Call.createsPlan, Call.planId]

theorem not_separateFrom_of_read {p q : String} {ops : List Call} (hops : ∀ call ∈ ops, call.planId = p)
    (hread : (ops.foldlM Home.perform {}).map (fun later => (later.read q).any (·.plan.isNone))
      = some false)
    : ¬SeparateFrom p q := by
  intro h
  obtain ⟨later, hlater, hchanged⟩ := Option.map_eq_some_iff.mp hread
  have hsame := h [] ops {} later rfl hops hlater
  have hstart : ({} : Home).read q = some {} := by
    simp [Home.read, Home.hides, Store.empty, PlanDir.files]
  rw [hsame, hstart] at hchanged
  cases hchanged

theorem not_separateFrom_of_sharesFiles {p q : String} (h : SharesFiles p q) : ¬SeparateFrom p q := by
  have hclean : ∀ name ∈ planFiles, name ≠ "plan" ∧ '_' ∉ name.toList := by decide +kernel
  have hread : ∀ name ∈ planFiles,
      ((Call.fillsPlan ".").foldlM Home.perform {}).map
          (fun later => (later.read name).any (·.plan.isNone)) = some false
        ∧ ((Call.fillsPlan name).foldlM Home.perform {}).map
          (fun later => (later.read ".").any (·.plan.isNone)) = some false := by
    decide +kernel
  cases h with
  | inl h =>
    have hp := safeName_eq_self h.1 (by decide) (by decide)
    have hq := safeName_eq_self rfl (hclean _ h.2).1 (hclean _ h.2).2
    rw [hp]
    apply not_separateFrom_of_read (planId_fillsPlan ".")
    rw [hq]
    exact (hread _ h.2).1
  | inr h =>
    have hq := safeName_eq_self h.1 (by decide) (by decide)
    have hp := safeName_eq_self rfl (hclean _ h.2).1 (hclean _ h.2).2
    rw [hq]
    apply not_separateFrom_of_read (planId_fillsPlan p)
    rw [hp]
    exact (hread _ h.2).2

theorem not_separateFrom_of_safeName {p q : String} (h : safeName p = safeName q)
    : ¬SeparateFrom p q := by
  refine @not_separateFrom_of_read p q [.createsPlan p] ?_ ?_
  . simp [Call.createsPlan, Call.planId]
  . have hperform : ({} : Home).perform (.createsPlan p)
        = some { store := Store.empty.perform (.createsPlan p), made := [safeName p] } := by
      simp [Home.perform, Home.bars, Home.hides, Store.empty, PlanDir.files, Home.makesDirectory,
        Call.planId, Call.createsPlan]
    have hplan : (Store.empty.perform (.createsPlan p) (safeName p)).plan.isSome := by
      simp [Store.perform, Call.createsPlan, Call.planId, Store.empty, Call.performLocked,
        createOperationPlanInternalLocked, readJsonPlan, PlanDir.appendPlanReceipt,
        PlanDir.appendPlanEvent, PlanDir.writeJsonPlan]
    obtain ⟨plan, hplan⟩ := Option.isSome_iff_exists.mp hplan
    have hrun : [Call.createsPlan p].foldlM Home.perform {}
        = some { store := Store.empty.perform (.createsPlan p), made := [safeName p] } := by
      rw [List.foldlM_cons, hperform]
      rfl
    rw [hrun, Option.map_some, Option.some.injEq, Home.read, ← h]
    split
    . rfl
    . simp [hplan]

end OperationPlan
