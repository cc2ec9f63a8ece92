import AgentHarness.CronScheduler.Crontab

/-!
Where the script of an entry lies that is ready to run.
-/

namespace CronScheduler

-- what stands behind `jobs/` in the first word of a command that has it
def scriptWay (command : String) : Option String :=
  (Text.splitWhitespace command).findSome? fun token =>
    let token := trimMatches '\'' (trimMatches '"' (String.ofList token))
    let normalized := Text.mapChars (fun ch => if ch = '\\' then '/' else ch) token
    (Text.splitFirst "jobs/" normalized).map Prod.snd

def jobsDir (runnerRoot : String) : String :=
  Path.join runnerRoot "jobs"

section

variable {line runnerRoot crontabFile command : String} {runnerKind : DeterministicCronRunnerKind}
  {lineNumber : Nat} {entry : DeterministicCronEntry}

theorem resolveScriptPath_eq (runnerRoot command : String)
    : resolveScriptPath runnerRoot command
        = (scriptWay command).map fun way => Path.join runnerRoot ("jobs/" ++ way) := by
  unfold resolveScriptPath scriptWay
  rw [List.map_findSome?]
  simp only [Function.comp_def, Option.map_map]

theorem components_jobs (way : String) : Path.components ("jobs/" ++ way) = "jobs" :: Path.components way := by
  have hjobs : "jobs/" ++ way = String.ofList ("jobs".toList ++ '/' :: way.toList) := by
    rw [← String.toList_inj, String.toList_append, String.toList_ofList]
    simp
  rw [hjobs, Path.components_append_slash, String.ofList_toList, String.ofList_toList]
  have hname : Path.components "jobs" = ["jobs"] := by decide
  rw [hname]
  rfl

theorem isAbsolute_jobs (way : String) : Path.isAbsolute ("jobs/" ++ way) = false := by
  unfold Path.isAbsolute Text.startsWith
  rw [String.toList_append]
  rfl

theorem inside_jobs_iff (runnerRoot way : String)
    : Path.Inside (jobsDir runnerRoot) (Path.join runnerRoot ("jobs/" ++ way))
        ↔ Path.LeadsBack (jobsDir runnerRoot) (Path.components way) := by
  have hrelative : Path.isAbsolute "jobs" = false := by decide
  have hname : Path.components "jobs" = ["jobs"] := by decide
  unfold jobsDir
  apply Path.inside_iff
  . rw [Path.isAbsolute_join _ (isAbsolute_jobs way), Path.isAbsolute_join _ hrelative]
  . rw [Path.components_join _ (isAbsolute_jobs way), Path.components_join _ hrelative,
      components_jobs, hname, List.append_assoc]
    rfl

theorem scriptPath_of_ready {isFile : String → Bool} {allow : Bool}
    (hparse : parseCrontabLine line runnerKind runnerRoot crontabFile lineNumber = some entry)
    (hready : (planEntry isFile entry allow).action = .readyCommand)
    : entry.scriptPath = resolveScriptPath runnerRoot entry.command := by
  unfold parseCrontabLine at hparse
  split at hparse
  . obtain ⟨parts, _, hentry⟩ := Option.bind_eq_some_iff.1 hparse
    cases hentry
    simp only [scheduledEntry]
  . dsimp only at hparse
    split at hparse
    . cases hparse
      have hunsupported : (planAction isFile
          (entryWithUnsupportedSchedule runnerKind crontabFile lineNumber line
            "expected five cron fields and a command") allow).1 ≠ .readyCommand := by
        unfold planAction entryWithUnsupportedSchedule
        cases allow with
        | true => simp
        | false => simp
      exact absurd hready hunsupported
    . cases hparse
      simp only [scheduledEntry]

end

/-
The script of an entry that is ready lies in the directory `jobs` of its runner exactly when what the command
names behind `jobs/` does not lead out of it, or leads back into it.
-/
theorem ready_script_inside_iff {isFile : String → Bool} {allow : Bool} {line runnerRoot crontabFile : String}
    {runnerKind : DeterministicCronRunnerKind} {lineNumber : Nat} {entry : DeterministicCronEntry}
    (hparse : parseCrontabLine line runnerKind runnerRoot crontabFile lineNumber = some entry)
    (hready : (planEntry isFile entry allow).action = .readyCommand)
    : (∀ path ∈ (planEntry isFile entry allow).scriptPath, Path.Inside (jobsDir runnerRoot) path)
        ↔ ∀ way ∈ scriptWay (planEntry isFile entry allow).command,
          Path.LeadsBack (jobsDir runnerRoot) (Path.components way) := by
  have hscript : (planEntry isFile entry allow).scriptPath
      = (scriptWay (planEntry isFile entry allow).command).map fun way =>
        Path.join runnerRoot ("jobs/" ++ way) := by
    rw [← resolveScriptPath_eq]
    apply scriptPath_of_ready hparse hready
  rw [hscript]
  simp only [Option.mem_def, Option.map_eq_some_iff, forall_exists_index, and_imp,
    forall_apply_eq_imp_iff₂, inside_jobs_iff]

def entryOf (command : String) : DeterministicCronEntry :=
  scheduledEntry .main "/srv/runner" "/srv/runner/main.crontab" 1 (.cron "5 4 * * *") command

theorem parseCrontabLine_entryOf {line command : String} (hnamed : Text.startsWith "@" line = false)
    (hparts : Text.splitWhitespace line = [['5'], ['4'], ['*'], ['*'], ['*'], command.toList])
    : parseCrontabLine line .main "/srv/runner" "/srv/runner/main.crontab" 1 = some (entryOf command) := by
  simp [parseCrontabLine, entryOf, hnamed, hparts, Text.joinSpace]

theorem ready_script_inside_sample
    : (planEntry (fun _ => true) (entryOf "jobs/daily/../report.py") true).scriptPath
          = some "/srv/runner/jobs/daily/../report.py"
        ∧ Path.Inside (jobsDir "/srv/runner") "/srv/runner/jobs/daily/../report.py" := by
  have hparse : parseCrontabLine "5 4 * * * jobs/daily/../report.py" .main "/srv/runner"
      "/srv/runner/main.crontab" 1 = some (entryOf "jobs/daily/../report.py") := by
    apply parseCrontabLine_entryOf
    . decide +kernel
    . decide +kernel
  have hready : (planEntry (fun _ => true) (entryOf "jobs/daily/../report.py") true).action
      = .readyCommand := by
    decide +kernel
  refine ⟨by decide +kernel, (ready_script_inside_iff hparse hready).2 ?_ _ (by decide +kernel)⟩
  decide +kernel

theorem ready_script_outside
    : parseCrontabLine "5 4 * * * jobs/../tool.py" .main "/srv/runner" "/srv/runner/main.crontab" 1
          = some (entryOf "jobs/../tool.py")
        ∧ (planEntry (· = "/srv/runner/jobs/../tool.py") (entryOf "jobs/../tool.py") true).action
          = .readyCommand
        ∧ ¬∀ path ∈ (planEntry (· = "/srv/runner/jobs/../tool.py") (entryOf "jobs/../tool.py")
            true).scriptPath, Path.Inside (jobsDir "/srv/runner") path := by
  refine ⟨parseCrontabLine_entryOf (by decide +kernel) (by decide +kernel), by decide +kernel, ?_⟩
  intro h
  have hinside := h "/srv/runner/jobs/../tool.py" (by decide +kernel)
  revert hinside
  decide +kernel

end CronScheduler
