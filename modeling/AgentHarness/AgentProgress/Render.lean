import AgentHarness.AgentProgress.Basic
import Mathlib.Data.List.TakeWhile

/-!
What the user sees of the progress of a queue: the list of its actions and the line of its status.
-/

namespace AgentProgress

-- `char::is_ascii_punctuation`
def isAsciiPunctuation (ch : Char) : Bool :=
  Text.isAsciiGraphic ch && !ChannelSessionKey.isAsciiAlphanumeric ch

def trimAsciiPunctuation (value : List Char) : List Char :=
  ((value.dropWhile isAsciiPunctuation).reverse.dropWhile isAsciiPunctuation).reverse

def looksSensitive (value : String) : Bool :=
  let lower := Text.toAsciiLowercase value
  let credentials := ["sk-", "ghp_", "gho_", "ghu_", "ghs_", "github_pat_", "xoxb-", "xoxp-"]
  let secrets := ["token", "secret", "password", "passwd", "api_key", "api-key", "apikey",
    "access_token", "refresh_token", "authorization", "bearer ", "--token", "--api-key", "--apikey"]
  let names := ["token", "secret", "password", "passwd"]
  credentials.any (Text.contains lower)
    || (secrets.any (Text.contains lower)
      && (Text.contains value "="
        || Text.contains value ":"
        || Text.contains value "--"
        || Text.contains lower "bearer "
        || (Text.splitWhitespace lower).any fun part =>
          String.ofList (trimAsciiPunctuation part) ∈ names))

def truncateChars (value : String) (maxChars : Nat) : String :=
  let maxChars := max maxChars 8
  if value.toList.length ≤ maxChars then
    value
  else
    String.ofList (value.toList.take maxChars) ++ "..."

def sensitivePreview : String := "[redacted sensitive preview]"

def sanitizeProgressPreview (value : String) (maxChars : Nat) : String :=
  let flattened := String.ofList (Text.joinSpace (Text.splitWhitespace value))
  if looksSensitive flattened then sensitivePreview else truncateChars flattened maxChars

def quoteSafePreview (value : String) (maxPreviewChars : Nat) : String :=
  truncateChars (Text.mapChars (fun ch => if ch = '"' then '\'' else ch) value) maxPreviewChars

def effectiveProgressLifecycle (event : AgentProgressEvent) : Option AgentProgressLifecycle :=
  event.lifecycle.or <|
    if event.kind = .runtime && event.status = .started && event.label = "queued"
        && event.source = some "channel-ingress" then
      some .queued
    else
      none

def isRenderedActionEvent (event : AgentProgressEvent) : Bool :=
  match event.kind with
  | .skillView | .todo | .terminal | .searchFiles | .executeCode | .toolCall => true
  | _ => false

def latestStatusEvent (events : List AgentProgressEvent) : Option AgentProgressEvent :=
  events.reverse.find? fun event =>
    event.kind ≠ .assistantStream && event.kind ≠ .assistantNarration

def latestTerminalEvent (events : List AgentProgressEvent) : Option AgentProgressEvent :=
  events.reverse.find? isTerminalEvent

def latestCurrentStepEvent (events : List AgentProgressEvent) : Option AgentProgressEvent :=
  events.reverse.find? fun event => event.kind = .assistantNarration

def latestRenderedActivityEvent (events : List AgentProgressEvent) : Option AgentProgressEvent :=
  events.reverse.find? isRenderedActionEvent

def progressIcon (kind : AgentProgressKind) : String :=
  match kind with
  | .runtime => "⚙️"
  | .skillView => "📚"
  | .todo => "📋"
  | .terminal => "💻"
  | .searchFiles => "🔎"
  | .readFile => "📖"
  | .executeCode => "🐍"
  | .toolCall => "🛠️"
  | .assistantStream => "💬"
  | .assistantNarration => "📝"
  | .memoryRecall => "🧠"
  | .delivery => "📨"

def statusPhrase (event : AgentProgressEvent) : String :=
  match event.kind with
  | .assistantStream => "receiving stream response"
  | .assistantNarration => "working"
  | .terminal | .searchFiles | .readFile | .executeCode | .toolCall => "running tools"
  | .skillView | .todo | .memoryRecall => "preparing context"
  | .delivery => "delivering response"
  | .runtime =>
    match event.status with
    | .started => "starting"
    | .progress => "working"
    | .completed => "finishing"
    | .failed => "failed"

-- `preview` is in lower case and has no space before it
def previewMentionsInternalWorkerResult (preview : String) : Bool :=
  Text.startsWith "<subagent_notification" preview
    || (Text.contains preview "\"agent_path\""
      && (Text.contains preview "\"completed\""
        || Text.contains preview "\"status\""
        || Text.contains preview "\"current_answer\""))

def trimStart (s : String) : String :=
  String.ofList (s.toList.dropWhile Text.isWhitespace)

def isInternalWorkerResultEvent (event : AgentProgressEvent) : Bool :=
  if event.kind ≠ .toolCall then
    false
  else
    let source := Text.toAsciiLowercase (event.source.getD "")
    let label := Text.toAsciiLowercase event.label
    let preview := Text.toAsciiLowercase (trimStart event.preview)
    Text.contains source "subagent"
      || Text.contains source "multi_agent"
      || Text.contains source "explorer"
      || Text.contains label "wait_agent"
      || Text.contains label "spawn_agent"
      || Text.contains label "subagent"
      || Text.startsWith "current answer:" preview
      || Text.startsWith "current answer：" preview
      || Text.startsWith "completed status" preview
      || previewMentionsInternalWorkerResult preview

def renderActionLine (event : AgentProgressEvent) (maxPreviewChars : Nat) : String :=
  let lead := progressIcon event.kind ++ " " ++ event.label ++ ": \""
  if isInternalWorkerResultEvent event then
    lead ++ "internal worker result received; awaiting main-agent summary\""
  else
    lead ++ quoteSafePreview event.preview maxPreviewChars ++ "\""

def pushAction (actions : List (String × Nat)) (line : String) : List (String × Nat) :=
  match actions.getLast? with
  | some (last, count) =>
    if last = line then actions.dropLast ++ [(last, count + 1)] else actions ++ [(line, 1)]
  | none => [(line, 1)]

def renderAgentProgressActions (events : List AgentProgressEvent) (maxEvents maxPreviewChars : Nat)
    : String :=
  let recent := events.drop (events.length - max maxEvents 1)
  let lines := (recent.filter isRenderedActionEvent).map (renderActionLine · maxPreviewChars)
  let actions := lines.foldl pushAction []
  let rendered := actions.map fun action =>
    if 1 < action.2 then action.1 ++ " (x" ++ toString action.2 ++ ")" else action.1
  String.intercalate "\n" rendered

def formatElapsed (elapsedMs : Int) : String :=
  let minutes := max elapsedMs 0 / 60000
  if minutes ≤ 0 then "<1 min" else if minutes = 1 then "1 min" else toString minutes ++ " min"

def progressStatusElapsedMs (firstAtMs : Int) (latest : AgentProgressEvent) (nowMs : Int)
    (terminal : Bool)
    : Int :=
  if terminal then
    let recorded := latest.elapsedMs.bind fun elapsed =>
      if (elapsed : Int) ≤ i64Max then some (elapsed : Int) else none
    recorded.getD (saturateI64 (latest.atMs - firstAtMs))
  else
    saturateI64 (nowMs - firstAtMs)

def needsUserProgressTitle (label : String) : Option String :=
  if label = "goal-paused" then
    some "⏸️ Goal paused"
  else if label = "goal-parked-observe" || label = "goal-parked-policy" then
    some "⏸️ Goal parked"
  else if label = "goal-needs-user" then
    some "⏸️ Needs user input"
  else if label = "goal-needs-authority" then
    some "⏸️ Needs authority"
  else if label = "goal-needs-operator-auth" then
    some "🔐 Needs operator authentication"
  else if label = "needs-user" then
    some "⏸️ Needs user action"
  else
    none

def renderWorking (events : List AgentProgressEvent) (latest : AgentProgressEvent) (elapsed : String)
    (nowMs : Int) (maxPreviewChars currentStepMaxChars : Nat) (bodyCapReached : Bool)
    : String :=
  let step :=
    match latestCurrentStepEvent events with
    | some narration => "\nCurrent step: " ++ quoteSafePreview narration.preview currentStepMaxChars
    | none => ""
  let capped :=
    if bodyCapReached then
      let activity :=
        match latestRenderedActivityEvent events with
        | some activity => "\nLatest activity: " ++ quoteSafePreview activity.preview maxPreviewChars
        | none => ""
      activity ++ "\nUpdates capped; still working." ++ "\nLatest internal event: "
        ++ toString ((events.getLast?.map (·.atMs)).getD nowMs) ++ "ms"
    else
      ""
  "⏳ Working — " ++ elapsed ++ " — " ++ statusPhrase latest ++ step ++ capped

def renderAgentProgressStatus (events : List AgentProgressEvent) (nowMs : Int)
    (maxPreviewChars currentStepMaxChars : Nat) (bodyCapReached : Bool)
    : String :=
  match events with
  | [] => "⏳ Working — <1 min — starting"
  | first :: _ =>
    match (latestTerminalEvent events).or (latestStatusEvent events) with
    | none => "⏳ Working — " ++ formatElapsed (saturateI64 (nowMs - first.atMs)) ++ " — working"
    | some latest =>
      let terminal := isTerminalEvent latest
      let elapsed := formatElapsed (progressStatusElapsedMs first.atMs latest nowMs terminal)
      if effectiveProgressLifecycle latest = some .continuing then
        "🔄 Continuing — moving work to a new context"
      else
        match needsUserProgressTitle latest.label with
        | some title =>
          title ++ " — " ++ elapsed ++ " — " ++ quoteSafePreview latest.preview maxPreviewChars
        | none =>
          if effectiveProgressLifecycle latest = some .waitingForApproval then
            "⏸️ Waiting for approval — connector action is parked"
          else if terminal then
            if latest.status = .failed then
              "⚠️ Failed — " ++ elapsed ++ " — " ++ quoteSafePreview latest.preview maxPreviewChars
            else if latest.label = "canceled" then
              "⏹️ Canceled — " ++ elapsed
            else if latest.label = "terminal-suppression" then
              "⏹️ Stopped — " ++ elapsed
            else
              "✅ Done — " ++ elapsed
          else if effectiveProgressLifecycle latest = some .queued then
            "🕒 Queued — " ++ elapsed ++ " — waiting for the current session turn"
          else if effectiveProgressLifecycle latest = some .preparing then
            "⏳ Preparing — " ++ elapsed
          else
            renderWorking events latest elapsed nowMs maxPreviewChars currentStepMaxChars
              bodyCapReached

def Inked (s : String) : Prop :=
  ∃ ch rest, s.toList = ch :: rest ∧ Text.isWhitespace ch = false

theorem Inked.append {s : String} (h : Inked s) (t : String) : Inked (s ++ t) := by
  obtain ⟨ch, rest, hs, hch⟩ := h
  refine ⟨ch, rest ++ t.toList, ?_, hch⟩
  rw [String.toList_append, hs, List.cons_append]

theorem Inked.trim_ne {s : String} (h : Inked s) : Text.trim s ≠ "" := by
  obtain ⟨ch, rest, hs, hch⟩ := h
  intro hblank
  have hchars := congrArg String.toList hblank
  unfold Text.trim at hchars
  rw [hs, String.toList_ofList, List.dropWhile_cons_of_neg (by simp [hch])] at hchars
  have hspace : ∀ other ∈ (ch :: rest).reverse, Text.isWhitespace other = true :=
    List.dropWhile_eq_nil_iff.mp (List.reverse_eq_nil_iff.mp hchars)
  have hfirst := hspace ch (by simp)
  rw [hch] at hfirst
  contradiction

theorem inked_needsUserProgressTitle {label title : String}
    (h : needsUserProgressTitle label = some title)
    : Inked title := by
  unfold needsUserProgressTitle at h
  split_ifs at h
  all_goals
    injection h with h
    subst h
    exact ⟨_, _, rfl, by decide⟩

theorem inked_renderAgentProgressStatus (events : List AgentProgressEvent) (nowMs : Int)
    (maxPreviewChars currentStepMaxChars : Nat) (bodyCapReached : Bool)
    : Inked (renderAgentProgressStatus events nowMs maxPreviewChars currentStepMaxChars
        bodyCapReached) := by
  unfold renderAgentProgressStatus renderWorking
  dsimp only
  repeat' split
  all_goals
    repeat with_reducible apply Inked.append
    first
      | exact inked_needsUserProgressTitle (by assumption)
      | exact ⟨_, _, rfl, by decide⟩

theorem renderAgentProgressStatus_ne (events : List AgentProgressEvent) (nowMs : Int)
    (maxPreviewChars currentStepMaxChars : Nat) (bodyCapReached : Bool)
    : Text.trim (renderAgentProgressStatus events nowMs maxPreviewChars currentStepMaxChars
        bodyCapReached) ≠ "" := by
  apply Inked.trim_ne
  apply inked_renderAgentProgressStatus

end AgentProgress
