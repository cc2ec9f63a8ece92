import AgentHarness.CronScheduler.Basic
import AgentHarness.Lib.Find
import AgentHarness.Lib.Path
import AgentHarness.Lib.TextFile

/-!
The crontab files of the deterministic runners: the entries of their lines, the script that a command
refers to, and what is planned for an entry.
-/

namespace CronScheduler

inductive DeterministicCronRunnerKind where
  | main
  | backup
  deriving DecidableEq

structure DeterministicCronEntry where
  id : String
  runnerKind : DeterministicCronRunnerKind
  crontabFile : String
  lineNumber : Nat
  schedule : DeterministicCronSchedule
  command : String
  scriptPath : Option String
  deriving DecidableEq

structure DeterministicCronRunner where
  kind : DeterministicCronRunnerKind
  root : String
  crontabFiles : List (String × String)

def runnerPrefix (kind : DeterministicCronRunnerKind) : String :=
  match kind with
  | .main => "main"
  | .backup => "backup"

-- the file of this parser has the same `normalize_key_part` as that of the scheduler
def deterministicEntryId (kind : DeterministicCronRunnerKind) (crontabFile : String) (lineNumber : Nat)
    : String :=
  runnerPrefix kind ++ ":" ++ normalizeKeyPart (crontabFile ++ ":" ++ toString lineNumber)

def resolveScriptPath (runnerRoot command : String) : Option String :=
  (Text.splitWhitespace command).findSome? fun token =>
    let token := trimMatches '\'' (trimMatches '"' (String.ofList token))
    let normalized := Text.mapChars (fun ch => if ch = '\\' then '/' else ch) token
    (Text.splitFirst "jobs/" normalized).map fun parts =>
      Path.join runnerRoot ("jobs/" ++ parts.2)

def isEnvLine (line : String) : Bool :=
  match splitOnce '=' line with
  | none => false
  | some (key, _) =>
    key ≠ "" && key.toList.all fun ch => ch.isUpper || ch.isDigit || ch = '_'

-- `str::split_once` with `char::is_whitespace`
def splitAtWhitespace (line : String) : Option (String × String) :=
  match line.toList.dropWhile fun ch => !Text.isWhitespace ch with
  | [] => none
  | _ :: rest =>
    some (String.ofList (line.toList.takeWhile fun ch => !Text.isWhitespace ch), String.ofList rest)

def entryWithUnsupportedSchedule (runnerKind : DeterministicCronRunnerKind) (crontabFile : String)
    (lineNumber : Nat) (command summary : String)
    : DeterministicCronEntry where
  id := deterministicEntryId runnerKind crontabFile lineNumber
  runnerKind := runnerKind
  crontabFile := crontabFile
  lineNumber := lineNumber
  schedule := .unsupported summary
  command := command
  scriptPath := none

def scheduledEntry (runnerKind : DeterministicCronRunnerKind) (runnerRoot crontabFile : String)
    (lineNumber : Nat) (schedule : DeterministicCronSchedule) (command : String)
    : DeterministicCronEntry where
  id := deterministicEntryId runnerKind crontabFile lineNumber
  runnerKind := runnerKind
  crontabFile := crontabFile
  lineNumber := lineNumber
  schedule := schedule
  command := command
  scriptPath := resolveScriptPath runnerRoot command

def parseCrontabLine (line : String) (runnerKind : DeterministicCronRunnerKind)
    (runnerRoot crontabFile : String) (lineNumber : Nat)
    : Option DeterministicCronEntry :=
  if Text.startsWith "@" line then do
    let (name, command) ← splitAtWhitespace line
    return scheduledEntry runnerKind runnerRoot crontabFile lineNumber (.named name)
      (Text.trim command)
  else
    let parts := Text.splitWhitespace line
    if parts.length < 6 then
      some (entryWithUnsupportedSchedule runnerKind crontabFile lineNumber line
        "expected five cron fields and a command")
    else
      some (scheduledEntry runnerKind runnerRoot crontabFile lineNumber
        (.cron (String.ofList (Text.joinSpace (parts.take 5))))
        (String.ofList (Text.joinSpace (parts.drop 5))))

def isSkippedLine (trimmed : String) : Bool :=
  trimmed = "" || Text.startsWith "#" trimmed || isEnvLine trimmed

def parseCrontabFile (runnerKind : DeterministicCronRunnerKind) (runnerRoot crontabFile text : String)
    : List DeterministicCronEntry × List Nat :=
  let lines := ((TextFile.lines text).map Text.trim).zipIdx 1
  let read := lines.filter fun (trimmed, _) => !isSkippedLine trimmed
  let parse := fun (trimmed, lineNumber) =>
    parseCrontabLine trimmed runnerKind runnerRoot crontabFile lineNumber
  (read.filterMap parse, (read.filter fun line => (parse line).isNone).map Prod.snd)

def loadDeterministicCronEntries (runners : List DeterministicCronRunner)
    : List DeterministicCronEntry :=
  let entries := runners.flatMap fun runner =>
    runner.crontabFiles.flatMap fun (crontabFile, text) =>
      (parseCrontabFile runner.kind runner.root crontabFile text).1
  entries.mergeSort fun left right => decide (Text.le left.id right.id)

def requiresShellCompatibility (path : String) : Bool :=
  (Path.extension path).any fun extension =>
    Text.toAsciiLowercase extension = "sh" || Text.toAsciiLowercase extension = "bash"

def planAction (isFile : String → Bool) (entry : DeterministicCronEntry) (allowDeterministicRun : Bool)
    : DeterministicCronPlanAction × String :=
  match allowDeterministicRun, entry.schedule, entry.scriptPath with
  | false, _, _ =>
    (.cutoverHold, "allow-deterministic-run not enabled; command held at cutover")
  | true, .unsupported _, _ => (.unsupportedEntry, "unsupported crontab schedule shape")
  | true, _, some scriptPath =>
    if !isFile scriptPath then
      (.missingScript, "script not found at " ++ scriptPath)
    else if requiresShellCompatibility scriptPath then
      (.shellCompatibilityRequired,
        "script is shell-based and needs WSL/Git Bash or a native port on Windows")
    else
      (.readyCommand, "deterministic command can be supervised without LLM access")
  | true, _, none =>
    (.externalCommandReview,
      "command does not reference a tracked jobs/ script and needs operator review")

def planEntry (isFile : String → Bool) (entry : DeterministicCronEntry) (allowDeterministicRun : Bool)
    : DeterministicCronPlanEntry where
  entryId := entry.id
  crontabFile := entry.crontabFile
  lineNumber := entry.lineNumber
  schedule := entry.schedule
  command := entry.command
  scriptPath := entry.scriptPath
  action := (planAction isFile entry allowDeterministicRun).1
  reason := (planAction isFile entry allowDeterministicRun).2

def planDeterministicCron (isFile : String → Bool) (runners : List DeterministicCronRunner)
    (allowDeterministicRun : Bool)
    : List DeterministicCronPlanEntry :=
  (loadDeterministicCronEntries runners).map fun entry =>
    planEntry isFile entry allowDeterministicRun

end CronScheduler
