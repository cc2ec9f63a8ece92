import AgentHarness.Lib.Marker
import AgentHarness.WorkerStore.LlmTurn

/-!
A pending file with a row that was cut off by a crash.
-/

namespace WorkerStore

variable {V : Type} (serde : QueueSerde V)

structure QueueSerde.Lawful : Prop extends Serde.Lawful serde.toSerde where
  closed : ∀ value, serde.IsObject value → (serde.render value).toList.getLast? = some '}'

-- an item has no floating-point number, and so is read back as it was written
structure Writes (item : RuntimeQueueItem) : Prop where
  queueId : serde.stringField (serde.itemValue item) "queueId" = some item.queueId
  parse_render : serde.parse (serde.render (serde.itemValue item)) = .ok (serde.itemValue item)

structure ValidJob (world : TurnWorld) (job : LlmJob V) (item : RuntimeQueueItem) : Prop where
  itemOfJob : itemOfJob serde world job = .ok item
  accepted : ∀ nowMs, ∃ result, afterAppend serde world job item nowMs = .ok result

def queueIdOf (value : V) : Option String :=
  stringPathAny serde value ["queueId", "queue_id"]

def rowsWithId (file : List UInt8) (queueId : String) : List V :=
  match TextFile.decode file with
  | none => []
  | some text =>
    ((TextFile.lines text).filterMap fun line => (serde.parse (Text.trim line)).toOption).filter
      fun value => queueIdOf serde value = some queueId

def turnFile [DecidableEq V] (world : TurnWorld) (job : LlmJob V) (file : List UInt8) (nowMs : Int)
    : List UInt8 :=
  (queueLlmWorkerTurn serde world file job nowMs).1

/-
Every attempt succeeds. The first one appends the row if there is none, no other one changes the
file, and one row is left.
-/
def NeverBlocked [DecidableEq V] (world : TurnWorld) (job : LlmJob V) (item : RuntimeQueueItem)
    (file : List UInt8)
    : Prop :=
  let value := serde.itemValue item
  let queued :=
    if rowsWithId serde file item.queueId = [] then
      file ++ Logging.recordBytes serde.toSerde file value
    else
      file
  (∀ earlier nowMs, ∃ result,
    queueLlmWorkerTurn serde world (Run.exec (turnFile serde world job) file earlier) job nowMs
      = (queued, .ok result))
    ∧ ((rowsWithId serde file item.queueId).length ≤ 1
      → rowsWithId serde queued item.queueId = [value])

-- complete rows, and between them the line of a row of which only some bytes were written
structure TornQueue where
  first : List V
  cut : V
  piece : List UInt8
  rest : List V
  objects : ∀ row ∈ first ++ cut :: rest, serde.IsObject row
  piece_ne_nil : piece ≠ []
  isPrefix : piece <+: Text.utf8Bytes (serde.render cut)

namespace TornQueue

variable {serde} (q : TornQueue serde)

def file : List UInt8 :=
  (q.first.map serde.render).flatMap TextFile.lineBytes ++ q.piece
    ++ TextFile.newline :: (q.rest.map serde.render).flatMap TextFile.lineBytes

def Whole : Prop :=
  q.piece = Text.utf8Bytes (serde.render q.cut)

instance : Decidable q.Whole := inferInstanceAs (Decidable (_ = _))

def readable : List V :=
  if q.Whole then q.first ++ q.cut :: q.rest else q.first

/-
The cut is between two characters, and the row with the queue id, if it stands before the torn line,
is the row of the job. When no row stands there, no line is torn.
-/
def Clear (queueId : String) (value : V) : Prop :=
  (TextFile.decode q.piece).isSome
    ∧ match q.readable.find? fun row => queueIdOf serde row = some queueId with
      | some row => serde.parse (serde.render row) = .ok value
      | none => q.Whole

end TornQueue

section

variable {serde} (hserde : serde.Lawful)
include hserde

theorem isLine_render (value : V) : TextFile.IsLine (serde.render value) := by
  constructor
  . intro hmem
    exact (hserde.noControl value _ hmem).1 rfl
  . intro hlast
    exact (hserde.noControl value _ (List.mem_of_getLast? hlast)).2 rfl

theorem isLine_rows {rows : List V} : ∀ line ∈ rows.map serde.render, TextFile.IsLine line := by
  intro line hline
  obtain ⟨row, _, rfl⟩ := List.mem_map.mp hline
  apply isLine_render hserde

theorem trim_render {value : V} (h : serde.IsObject value)
    : Text.trim (serde.render value) = serde.render value := by
  apply Text.trim_of_ends
  . rw [hserde.brace value h]
    rintro _ ⟨⟩
    decide
  . rw [hserde.closed value h]
    rintro _ ⟨⟩
    decide

theorem render_ne_empty {value : V} (h : serde.IsObject value) : serde.render value ≠ "" := by
  intro hempty
  have hbrace := hserde.brace value h
  rw [hempty] at hbrace
  cases hbrace

theorem parse_row (value : V)
    : ∃ read, serde.parse (serde.render value) = .ok read
      ∧ queueIdOf serde read = queueIdOf serde value := by
  obtain ⟨read, hread, hfields⟩ := hserde.parse_render value
  refine ⟨read, hread, ?_⟩
  unfold queueIdOf stringPathAny
  rw [hfields]

theorem parse_piece {value : V} (h : serde.IsObject value) {piece : String} (hne : piece ≠ "")
    (hpiece : piece.toList <+: (serde.render value).toList) (hcut : piece ≠ serde.render value)
    : Text.trim piece ≠ "" ∧ ∃ e, serde.parse (Text.trim piece) = .error e := by
  have hbrace := hserde.brace value h
  cases hlist : piece.toList with
  | nil => exact absurd (String.toList_eq_nil_iff.mp hlist) hne
  | cons ch chars =>
    rw [hlist] at hpiece
    obtain ⟨more, hmore⟩ := hpiece
    rw [← hmore] at hbrace
    obtain rfl : ch = '{' := by simpa using hbrace
    have htrim : (Text.trim piece).toList
        = (('{' :: chars).reverse.dropWhile Text.isWhitespace).reverse := by
      unfold Text.trim
      rw [hlist, String.toList_ofList, List.dropWhile_cons_of_neg (by decide)]
    have hpart : (Text.trim piece).toList <+: '{' :: chars := by
      rw [htrim, ← List.reverse_suffix, List.reverse_reverse]
      apply List.dropWhile_suffix
    have hrow : (Text.trim piece).toList <+: (serde.render value).toList := by
      rw [← hmore]
      exact hpart.trans (List.prefix_append _ _)
    constructor
    . intro hempty
      rw [hempty] at htrim
      have hblank : ∀ ch ∈ ('{' :: chars).reverse, Text.isWhitespace ch := by
        rw [← List.dropWhile_eq_nil_iff]
        simpa using htrim.symm
      have hspace := hblank '{' (by simp)
      exact absurd hspace (by decide)
    . apply hserde.parse_cut value h _ hrow
      intro hwhole
      apply hcut
      rw [← String.toList_inj, hlist]
      have hlength := hpart.length_le
      rw [hwhole] at hpart hlength
      have hfull : (serde.render value).toList.length = ('{' :: chars).length + more.length := by
        rw [← hmore, List.length_append]
      apply (hpart.eq_of_length _).symm
      omega

section

variable (path queueId : String)

theorem findById_row {row : V} (hrow : serde.IsObject row) (index : Nat) (more : List String)
    : ∃ read, serde.parse (serde.render row) = .ok read
      ∧ findById serde path queueId index (serde.render row :: more)
        = if queueIdOf serde row = some queueId then .ok (some read)
          else findById serde path queueId (index + 1) more := by
  obtain ⟨read, hread, hid⟩ := parse_row hserde row
  refine ⟨read, hread, ?_⟩
  rw [findById, trim_render hserde hrow, if_neg (render_ne_empty hserde hrow), hread, ← hid]
  rfl

theorem findById_rows_none {rows : List V} (hrows : ∀ row ∈ rows, serde.IsObject row)
    (hfind : rows.find? (fun row => queueIdOf serde row = some queueId) = none) (index : Nat)
    (more : List String)
    : findById serde path queueId index (rows.map serde.render ++ more)
        = findById serde path queueId (index + rows.length) more := by
  rw [List.find?_eq_none] at hfind
  induction rows generalizing index with
  | nil => rfl
  | cons row rows ih =>
    rw [List.forall_mem_cons] at hrows
    obtain ⟨read, _, hstep⟩ := findById_row hserde path queueId hrows.1 index
      (rows.map serde.render ++ more)
    rw [List.forall_mem_cons] at hfind
    rw [List.map_cons, List.cons_append, hstep, if_neg (by simpa using hfind.1),
      ih hrows.2 hfind.2, List.length_cons, Nat.add_assoc, Nat.add_comm 1]

theorem findById_rows_some {rows : List V} (hrows : ∀ row ∈ rows, serde.IsObject row) {row : V}
    (hfind : rows.find? (fun row => queueIdOf serde row = some queueId) = some row) {read : V}
    (hread : serde.parse (serde.render row) = .ok read) (index : Nat) (more : List String)
    : findById serde path queueId index (rows.map serde.render ++ more) = .ok (some read) := by
  rw [List.find?_eq_some_iff_append] at hfind
  obtain ⟨hkey, before, after, rfl, hbefore⟩ := hfind
  rw [List.forall_mem_append, List.forall_mem_cons] at hrows
  obtain ⟨found, hfound, hstep⟩ := findById_row hserde path queueId hrows.2.1
    (index + before.length) (after.map serde.render ++ more)
  rw [List.map_append, List.append_assoc, findById_rows_none hserde path queueId hrows.1]
  . rw [List.map_cons, List.cons_append, hstep, if_pos (by simpa using hkey)]
    rw [hread] at hfound
    cases hfound
    rfl
  . rw [List.find?_eq_none]
    intro other hother
    simpa using hbefore other hother

end

end

section

variable {serde} {queueId : String} {list : List String}

def linesWithId (serde : QueueSerde V) (list : List String) (queueId : String) : List V :=
  (list.filterMap fun line => (serde.parse (Text.trim line)).toOption).filter
    fun value => queueIdOf serde value = some queueId

theorem linesWithId_append (first rest : List String)
    : linesWithId serde (first ++ rest) queueId
        = linesWithId serde first queueId ++ linesWithId serde rest queueId := by
  unfold linesWithId
  rw [List.filterMap_append, List.filter_append]

theorem mem_linesWithId {value : V}
    : value ∈ linesWithId serde list queueId
        ↔ (∃ line ∈ list, serde.parse (Text.trim line) = .ok value)
          ∧ queueIdOf serde value = some queueId := by
  have hparse : ∀ line, (serde.parse (Text.trim line)).toOption = some value
      ↔ serde.parse (Text.trim line) = .ok value := by
    intro line
    cases serde.parse (Text.trim line) with
    | error e => simp [Except.toOption]
    | ok read => simp [Except.toOption]
  unfold linesWithId
  simp only [List.mem_filter, List.mem_filterMap, hparse, decide_eq_true_eq]

theorem rowsWithId_joinLines (h : ∀ line ∈ list, TextFile.IsLine line)
    : rowsWithId serde (Text.utf8Bytes (TextFile.joinLines list)) queueId
        = linesWithId serde list queueId := by
  have hdecode : TextFile.decode (Text.utf8Bytes (TextFile.joinLines list))
      = some (TextFile.joinLines list) := TextFile.decode_eq_some.mpr rfl
  unfold rowsWithId
  rw [hdecode]
  dsimp only
  rw [TextFile.lines_joinLines h]
  rfl

theorem runtimeQueueItemById_joinLines (h : ∀ line ∈ list, TextFile.IsLine line) (path : String)
    : runtimeQueueItemById serde path (Text.utf8Bytes (TextFile.joinLines list)) queueId
        = findById serde path queueId 0 list := by
  have hdecode : TextFile.decode (Text.utf8Bytes (TextFile.joinLines list))
      = some (TextFile.joinLines list) := TextFile.decode_eq_some.mpr rfl
  unfold runtimeQueueItemById
  rw [hdecode]
  show findById serde path queueId 0 (TextFile.lines (TextFile.joinLines list)) = _
  rw [TextFile.lines_joinLines h]

end

namespace TornQueue

section

variable {serde} (q : TornQueue serde)

theorem undecodable (h : ¬(TextFile.decode q.piece).isSome) : TextFile.decode q.file = none := by
  by_contra hfile
  obtain ⟨text, htext⟩ := Option.ne_none_iff_exists'.mp hfile
  obtain ⟨torn, htorn, _⟩ := TextFile.decode_between htext
  apply h
  rw [TextFile.decode_eq_some.mpr htorn]
  rfl

theorem file_of_whole (h : q.Whole)
    : q.file = Text.utf8Bytes (TextFile.joinLines (q.readable.map serde.render)) := by
  unfold file readable
  rw [if_pos h, TextFile.utf8Bytes_joinLines, h]
  simp [TextFile.lineBytes]

variable (hserde : serde.Lawful)
include hserde

theorem file_eq (h : (TextFile.decode q.piece).isSome)
    : ∃ torn, q.piece = Text.utf8Bytes torn
      ∧ (∀ line ∈ q.first.map serde.render ++ torn :: q.rest.map serde.render,
        TextFile.IsLine line)
      ∧ q.file = Text.utf8Bytes (TextFile.joinLines
        (q.first.map serde.render ++ torn :: q.rest.map serde.render)) := by
  obtain ⟨torn, htorn⟩ := Option.isSome_iff_exists.mp h
  rw [TextFile.decode_eq_some] at htorn
  have hpart : torn.toList <+: (serde.render q.cut).toList := by
    apply TextFile.isPrefix_of_utf8Bytes
    rw [← htorn]
    exact q.isPrefix
  have hline : TextFile.IsLine torn := by
    have hplain : ∀ ch ∈ torn.toList, ch ≠ '\n' ∧ ch ≠ '\r' :=
      fun ch hch => hserde.noControl q.cut ch (hpart.subset hch)
    constructor
    . intro hmem
      exact (hplain _ hmem).1 rfl
    . intro hlast
      exact (hplain _ (List.mem_of_getLast? hlast)).2 rfl
  refine ⟨torn, htorn, ?_, ?_⟩
  . rw [List.forall_mem_append, List.forall_mem_cons]
    exact ⟨isLine_rows hserde, hline, isLine_rows hserde⟩
  . unfold file
    rw [TextFile.utf8Bytes_joinLines, htorn]
    simp [TextFile.lineBytes]

theorem runtimeQueueItemById_found (h : (TextFile.decode q.piece).isSome) {row : V} {queueId : String}
    (hfind : q.readable.find? (fun row => queueIdOf serde row = some queueId) = some row) {read : V}
    (hread : serde.parse (serde.render row) = .ok read) (path : String)
    : runtimeQueueItemById serde path q.file queueId = .ok (some read) := by
  obtain ⟨torn, htorn, hlines, hfile⟩ := q.file_eq hserde h
  have hobjects := q.objects
  rw [hfile, runtimeQueueItemById_joinLines hlines]
  unfold readable at hfind
  split at hfind
  . next hwhole =>
    unfold Whole at hwhole
    rw [htorn] at hwhole
    obtain rfl := Text.utf8Bytes_injective hwhole
    have hfound := findById_rows_some hserde path queueId hobjects hfind hread 0 []
    simpa using hfound
  . rw [List.forall_mem_append] at hobjects
    apply findById_rows_some hserde path queueId hobjects.1 hfind hread

theorem runtimeQueueItemById_absent {queueId : String} (hwhole : q.Whole)
    (hfind : q.readable.find? (fun row => queueIdOf serde row = some queueId) = none)
    (path : String)
    : runtimeQueueItemById serde path q.file queueId = .ok none := by
  have hdecode : (TextFile.decode q.piece).isSome := by
    rw [TextFile.decode_eq_some.mpr hwhole]
    rfl
  obtain ⟨torn, htorn, hlines, hfile⟩ := q.file_eq hserde hdecode
  unfold readable at hfind
  rw [if_pos hwhole] at hfind
  unfold Whole at hwhole
  rw [htorn] at hwhole
  obtain rfl := Text.utf8Bytes_injective hwhole
  have hfound := findById_rows_none hserde path queueId q.objects hfind 0 []
  rw [hfile, runtimeQueueItemById_joinLines hlines]
  simpa [findById] using hfound

theorem runtimeQueueItemById_torn {queueId : String} (h : ¬q.Whole)
    (hfind : q.readable.find? (fun row => queueIdOf serde row = some queueId) = none)
    (path : String)
    : ∃ e, runtimeQueueItemById serde path q.file queueId = .error e ∧ e.kind = .invalidData := by
  by_cases hdecode : (TextFile.decode q.piece).isSome
  . obtain ⟨torn, htorn, hlines, hfile⟩ := q.file_eq hserde hdecode
    unfold readable at hfind
    rw [if_neg h] at hfind
    have hobjects := q.objects
    rw [List.forall_mem_append, List.forall_mem_cons] at hobjects
    have hne : torn ≠ "" := by
      rintro rfl
      exact q.piece_ne_nil htorn
    have hpart : torn.toList <+: (serde.render q.cut).toList := by
      apply TextFile.isPrefix_of_utf8Bytes
      rw [← htorn]
      exact q.isPrefix
    obtain ⟨hblank, e, herror⟩ := parse_piece hserde hobjects.2.1 hne hpart
      (fun hsame => h (by rw [Whole, htorn, hsame]))
    rw [hfile, runtimeQueueItemById_joinLines hlines,
      findById_rows_none hserde path queueId hobjects.1 hfind, findById, if_neg hblank, herror]
    exact ⟨_, rfl, rfl⟩
  . have hfile := q.undecodable hdecode
    unfold runtimeQueueItemById
    rw [hfile]
    exact ⟨_, rfl, rfl⟩

theorem mem_rowsWithId (hdecode : (TextFile.decode q.piece).isSome)
    {queueId : String} {row read : V}
    (hfind : q.readable.find? (fun row => queueIdOf serde row = some queueId) = some row)
    (hread : serde.parse (serde.render row) = .ok read)
    : read ∈ rowsWithId serde q.file queueId := by
  obtain ⟨torn, htorn, hlines, hfile⟩ := q.file_eq hserde hdecode
  have hkey : queueIdOf serde row = some queueId := by
    simpa using List.find?_some hfind
  obtain ⟨found, hfound, hid⟩ := parse_row hserde row
  rw [hread] at hfound
  cases hfound
  have hmem := List.mem_of_find?_eq_some hfind
  have hobject : serde.IsObject row := by
    apply q.objects
    unfold readable at hmem
    split at hmem
    . exact hmem
    . exact List.mem_append_left _ hmem
  rw [hfile, rowsWithId_joinLines hlines, mem_linesWithId, hid]
  refine ⟨⟨serde.render row, ?_, ?_⟩, hkey⟩
  . unfold readable at hmem
    split at hmem
    . next hwhole =>
      unfold Whole at hwhole
      rw [htorn] at hwhole
      obtain rfl := Text.utf8Bytes_injective hwhole
      simpa using List.mem_map_of_mem (f := serde.render) hmem
    . exact List.mem_append_left _ (List.mem_map_of_mem hmem)
  . rw [trim_render hserde hobject, hread]

end

end TornQueue

section

variable [DecidableEq V] {serde} {world : TurnWorld} {job : LlmJob V} {item : RuntimeQueueItem}
  {file : List UInt8} {nowMs : Int} (hvalid : ValidJob serde world job item)
include hvalid

theorem turn_present
    (h : runtimeQueueItemById serde world.queueFile file item.queueId
      = .ok (some (serde.itemValue item)))
    : ∃ result, queueLlmWorkerTurn serde world file job nowMs = (file, .ok result) := by
  obtain ⟨result, hresult⟩ := hvalid.accepted nowMs
  refine ⟨result, ?_⟩
  unfold queueLlmWorkerTurn appendRuntimeQueueValueIfMissing
  rw [hvalid.itemOfJob]
  dsimp only
  rw [h]
  simp [hresult]

theorem turn_absent
    (h : runtimeQueueItemById serde world.queueFile file item.queueId = .ok none)
    : ∃ result, queueLlmWorkerTurn serde world file job nowMs
        = (file ++ Logging.recordBytes serde.toSerde file (serde.itemValue item), .ok result) := by
  obtain ⟨result, hresult⟩ := hvalid.accepted nowMs
  refine ⟨result, ?_⟩
  unfold queueLlmWorkerTurn appendRuntimeQueueValueIfMissing
  rw [hvalid.itemOfJob]
  dsimp only
  rw [h]
  simp [hresult]

theorem found_of_turn {later : List UInt8} {result : WorkerJobExecutionResult}
    (h : queueLlmWorkerTurn serde world file job nowMs = (later, .ok result))
    : ∃ found, runtimeQueueItemById serde world.queueFile file item.queueId = .ok found
        ∧ ∀ existing ∈ found, existing = serde.itemValue item := by
  unfold queueLlmWorkerTurn appendRuntimeQueueValueIfMissing at h
  rw [hvalid.itemOfJob] at h
  dsimp only at h
  cases hfound : runtimeQueueItemById serde world.queueFile file item.queueId with
  | error e =>
    rw [hfound] at h
    cases h
  | ok found =>
    refine ⟨found, rfl, ?_⟩
    rintro existing ⟨⟩
    rw [hfound] at h
    dsimp only at h
    split at h
    . assumption
    . cases h

theorem turns_present
    (h : runtimeQueueItemById serde world.queueFile file item.queueId
      = .ok (some (serde.itemValue item))) (earlier : List Int)
    : Run.exec (turnFile serde world job) file earlier = file := by
  apply Run.exec_invariant (fun later => later = file)
  . intro later now hlater
    obtain ⟨result, hturn⟩ : ∃ result, queueLlmWorkerTurn serde world file job now
        = (file, .ok result) := turn_present hvalid h
    rw [hlater, turnFile, hturn]
  . rfl

end

namespace TornQueue

variable [DecidableEq V] {serde} (q : TornQueue serde) {world : TurnWorld} {job : LlmJob V}
  {item : RuntimeQueueItem}

theorem clear_of_neverBlocked (hserde : serde.Lawful) (hvalid : ValidJob serde world job item)
    (h : NeverBlocked serde world job item q.file)
    : q.Clear item.queueId (serde.itemValue item) := by
  obtain ⟨result, hturn⟩ := h.1 [] 0
  rw [Run.exec_nil] at hturn
  obtain ⟨found, hfound, hequal⟩ := found_of_turn hvalid hturn
  have hdecode : (TextFile.decode q.piece).isSome := by
    by_contra hcut
    unfold runtimeQueueItemById at hfound
    rw [q.undecodable hcut] at hfound
    cases hfound
  refine ⟨hdecode, ?_⟩
  cases hfind : q.readable.find? fun row => queueIdOf serde row = some item.queueId with
  | none =>
    dsimp only
    by_contra hwhole
    obtain ⟨e, herror, _⟩ := q.runtimeQueueItemById_torn hserde hwhole hfind world.queueFile
    rw [herror] at hfound
    cases hfound
  | some row =>
    dsimp only
    obtain ⟨read, hread, _⟩ := parse_row hserde row
    rw [q.runtimeQueueItemById_found hserde hdecode hfind hread] at hfound
    cases hfound
    rw [hread, hequal read rfl]

theorem not_neverBlocked (hserde : serde.Lawful) (hvalid : ValidJob serde world job item)
    (hwhole : ¬q.Whole)
    (hfind : q.readable.find? (fun row => queueIdOf serde row = some item.queueId) = none)
    : ¬NeverBlocked serde world job item q.file := by
  intro h
  obtain ⟨_, hclear⟩ := q.clear_of_neverBlocked hserde hvalid h
  rw [hfind] at hclear
  exact hwhole hclear

theorem neverBlocked_of_clear (hserde : serde.Lawful) (hwrites : Writes serde item)
    (hvalid : ValidJob serde world job item) (h : q.Clear item.queueId (serde.itemValue item))
    : NeverBlocked serde world job item q.file := by
  obtain ⟨hdecode, h⟩ := h
  have hkey : queueIdOf serde (serde.itemValue item) = some item.queueId := by
    unfold queueIdOf stringPathAny
    rw [List.findSome?_cons, hwrites.queueId]
  unfold NeverBlocked
  dsimp only
  cases hfind : q.readable.find? fun row => queueIdOf serde row = some item.queueId with
  | some row =>
    rw [hfind] at h
    dsimp only at h
    have hmem := q.mem_rowsWithId hserde hdecode hfind h
    have hfound := q.runtimeQueueItemById_found hserde hdecode hfind h world.queueFile
    rw [if_neg (List.ne_nil_of_mem hmem)]
    constructor
    . intro earlier nowMs
      rw [turns_present hvalid hfound]
      apply turn_present hvalid hfound
    . intro hlength
      obtain ⟨only, honly⟩ := List.length_eq_one_iff.mp
        (Nat.le_antisymm hlength (List.length_pos_of_mem hmem))
      rw [honly, List.mem_singleton] at hmem
      rw [honly, hmem]
  | none =>
    rw [hfind] at h
    dsimp only at h
    have hfile := q.file_of_whole h
    have hfound := q.runtimeQueueItemById_absent hserde h hfind world.queueFile
    have hobjects : ∀ row ∈ q.readable, serde.IsObject row := by
      unfold readable
      rw [if_pos h]
      exact q.objects
    have hnone : rowsWithId serde q.file item.queueId = [] := by
      rw [List.eq_nil_iff_forall_not_mem]
      intro value hvalue
      rw [hfile, rowsWithId_joinLines (isLine_rows hserde), mem_linesWithId] at hvalue
      obtain ⟨⟨line, hline, hparse⟩, hid⟩ := hvalue
      obtain ⟨row, hrow, rfl⟩ := List.mem_map.mp hline
      obtain ⟨read, hread, hsame⟩ := parse_row hserde row
      rw [trim_render hserde (hobjects row hrow), hread] at hparse
      cases hparse
      rw [List.find?_eq_none] at hfind
      have hother := hfind row hrow
      rw [← hsame, hid] at hother
      simp at hother
    -- the file with the row of the job at its end
    have hnext : q.file ++ Logging.recordBytes serde.toSerde q.file (serde.itemValue item)
        = Text.utf8Bytes (TextFile.joinLines ((q.readable ++ [serde.itemValue item]).map
          serde.render)) := by
      unfold Logging.recordBytes
      rw [hfile, TextFile.needsLeadingNewline_joinLines, List.map_append, TextFile.joinLines_append,
        Text.utf8Bytes_append]
      simp [TextFile.utf8Bytes_joinLines, TextFile.lineBytes]
    have hobject : serde.IsObject (serde.itemValue item) := ⟨_, _, hwrites.queueId⟩
    have hlater : runtimeQueueItemById serde world.queueFile
        (q.file ++ Logging.recordBytes serde.toSerde q.file (serde.itemValue item)) item.queueId
        = .ok (some (serde.itemValue item)) := by
      have hrows : ∀ row ∈ q.readable ++ [serde.itemValue item], serde.IsObject row := by
        rw [List.forall_mem_append, List.forall_mem_singleton]
        exact ⟨hobjects, hobject⟩
      have hlast : (q.readable ++ [serde.itemValue item]).find?
          (fun row => queueIdOf serde row = some item.queueId) = some (serde.itemValue item) := by
        rw [List.find?_append, hfind, Option.none_or, List.find?_singleton]
        simp [hkey]
      have hrow := findById_rows_some hserde world.queueFile item.queueId hrows hlast
        hwrites.parse_render 0 []
      rw [hnext, runtimeQueueItemById_joinLines (isLine_rows hserde)]
      simpa using hrow
    rw [if_pos hnone]
    constructor
    . intro earlier nowMs
      cases earlier with
      | nil => apply turn_absent hvalid hfound
      | cons first earlier =>
        obtain ⟨result, hfirst⟩ : ∃ result, queueLlmWorkerTurn serde world q.file job first
            = (q.file ++ Logging.recordBytes serde.toSerde q.file (serde.itemValue item),
              .ok result) := turn_absent hvalid hfound
        rw [Run.exec_cons, turnFile, hfirst, turns_present hvalid hlater]
        apply turn_present hvalid hlater
    . intro _
      rw [hnext, rowsWithId_joinLines (isLine_rows hserde), List.map_append, linesWithId_append,
        ← rowsWithId_joinLines (isLine_rows hserde), ← hfile, hnone, List.nil_append]
      unfold linesWithId
      rw [List.map_singleton, List.filterMap_cons, trim_render hserde hobject,
        hwrites.parse_render]
      simp [Except.toOption, hkey]

end TornQueue

/-
A valid job gets through a pending file with a cut-off row exactly when its own row stands before
the cut, or the row lacks nothing but its newline.
-/
theorem turn_never_blocked_iff [DecidableEq V] {serde : QueueSerde V} (hserde : serde.Lawful)
    {world : TurnWorld} {job : LlmJob V} {item : RuntimeQueueItem} (hwrites : Writes serde item)
    (hvalid : ValidJob serde world job item) (q : TornQueue serde)
    : NeverBlocked serde world job item q.file
        ↔ q.Clear item.queueId (serde.itemValue item) := by
  constructor
  . apply q.clear_of_neverBlocked hserde hvalid
  . apply q.neverBlocked_of_clear hserde hwrites hvalid

inductive SampleValue where
  | payload
  | queued
  deriving DecidableEq

def SampleValue.pieces (self : SampleValue) : List String :=
  match self with
  | .payload =>
    [ "\x7b\"agentId\":\"main\",\"messageText\":\"go\",\"sourceHome\":\"/s\",",
      "\"sourceWorkspace\":\"/w\"\x7d" ]
  | .queued =>
    [ "\x7b\"agentId\":\"main\",\"channelId\":\"worker\",\"createdAtMs\":1000,",
      "\"messageText\":\"go\",\"model\":null,\"origin\":\"worker\",",
      "\"plannedTrajectoryFile\":\"/a/main/sessions/worker-session.trajectory.jsonl\",",
      "\"plannedTranscriptFile\":\"/a/main/sessions/worker-session.jsonl\",",
      "\"platform\":\"worker\",\"promptFilesPresent\":0,\"promptFilesTotal\":0,",
      "\"provider\":null,\"queueId\":\"worker:1000:j:08953907b53f670b\",",
      "\"runtimeClass\":\"worker\",\"schema\":\"agent-harness.runtime-queue-item.v1\",",
      "\"selectedSkillIds\":[],\"sessionKey\":\"worker-session\",",
      "\"source\":\x7b\"kind\":\"channel\",\"sourceHome\":\"/s\",\"sourceWorkspace\":\"/w\"\x7d,",
      "\"status\":\"queued\",\"userId\":\"worker-dispatch\"\x7d" ]

def SampleValue.text (self : SampleValue) : String :=
  String.ofList (self.pieces.flatMap String.toList)

def SampleValue.fields (self : SampleValue) : List (String × String) :=
  match self with
  | .payload =>
    [ ("agentId", "main"), ("messageText", "go"), ("sourceHome", "/s"), ("sourceWorkspace", "/w") ]
  | .queued =>
    [ ("agentId", "main"), ("channelId", "worker"), ("messageText", "go"), ("origin", "worker"),
      ("plannedTrajectoryFile", "/a/main/sessions/worker-session.trajectory.jsonl"),
      ("plannedTranscriptFile", "/a/main/sessions/worker-session.jsonl"), ("platform", "worker"),
      ("queueId", "worker:1000:j:08953907b53f670b"), ("runtimeClass", "worker"),
      ("schema", "agent-harness.runtime-queue-item.v1"), ("sessionKey", "worker-session"),
      ("status", "queued"), ("userId", "worker-dispatch") ]

def serdeOfTexts (text : SampleValue → String) : QueueSerde SampleValue where
  parse read :=
    if read = text .payload then .ok .payload
    else if read = text .queued then .ok .queued
    else .error "EOF while parsing an object"
  render := text
  stringField value name := value.fields.lookup name
  intField _ _ := none
  field _ _ := none
  metadata _ := .error "missing field"
  itemValue _ := .queued

def sampleQueueSerde : QueueSerde SampleValue :=
  serdeOfTexts SampleValue.text

def sampleTurnWorld : TurnWorld where
  queueFile := "/h/state/runtime-queue/pending.jsonl"
  confinedAgentSessionsDir agentId _ := .ok ("/a/" ++ agentId ++ "/sessions")
  markCronRunRuntimeEnqueued _ _ _ _ _ := .ok true
  recordLlmSubagentLifecycleRunning _ _ _ _ := .ok ()

def sampleLlmJob : LlmJob SampleValue where
  jobId := "j"
  kind := .masterWakeup
  masterSessionKey := none
  payload := .payload
  childPolicy := none
  authorizedExecutionMode := none
  createdAtMs := 1000

def sampleItem : RuntimeQueueItem where
  schema := "agent-harness.runtime-queue-item.v1"
  queueId := "worker:1000:j:08953907b53f670b"
  admissionQueueId := none
  status := .queued
  runtimeClass := "worker"
  origin := "worker"
  cronRunId := none
  scheduledForMs := none
  source := {
    kind := "channel"
    sourceHome := "/s"
    sourceWorkspace := "/w"
    runtimeWorkspace := none }
  createdAtMs := 1000
  agentId := "main"
  sessionKey := "worker-session"
  platform := "worker"
  accountId := none
  channelId := "worker"
  userId := "worker-dispatch"
  messageText := "go"
  inboundContext := none
  inboundCanonicalId := none
  inboundMediaArtifacts := []
  provider := none
  model := none
  reasoningPreference := none
  backendReasoningPolicy := none
  authorizedExecutionMode := none
  promptFilesPresent := 0
  promptFilesTotal := 0
  selectedSkillIds := []
  plannedTranscriptFile := "/a/main/sessions/worker-session.jsonl"
  plannedTrajectoryFile := "/a/main/sessions/worker-session.trajectory.jsonl"
  coordinatorResume := none

def isObjectText (chars : List Char) : Bool :=
  chars.all (fun ch => ch ≠ '\n' && ch ≠ '\r') && chars.head? = some '{'
    && chars.getLast? = some '}'

section

variable {text : SampleValue → String}
  (hapart : ∀ value other, (text value).toList <+: (text other).toList → value = other)
include hapart

theorem serdeOfTexts_parse {read : String} {value : SampleValue}
    : (serdeOfTexts text).parse read = .ok value ↔ read = text value := by
  have hdiffer : text .payload ≠ text .queued := by
    intro hsame
    have heq := hapart .payload .queued (by rw [hsame])
    cases heq
  unfold serdeOfTexts
  dsimp only
  split
  . next hpayload =>
    cases value with
    | payload => simp [hpayload]
    | queued => simp [hpayload, hdiffer]
  . next hpayload =>
    split
    . next hrow =>
      cases value with
      | payload => simp [hrow, hdiffer.symm]
      | queued => simp [hrow]
    . next hrow =>
      cases value with
      | payload => simp [hpayload]
      | queued => simp [hrow]

theorem serdeOfTexts_lawful (hform : ∀ value, isObjectText (text value).toList)
    : (serdeOfTexts text).Lawful where
  parse_render value := ⟨value, (serdeOfTexts_parse hapart).mpr rfl, rfl⟩
  noControl value ch hch := by
    have hvalue := hform value
    simp only [isObjectText, Bool.and_eq_true, List.all_eq_true] at hvalue
    simpa using hvalue.1.1 ch hch
  brace value _ := by
    have hvalue := hform value
    simp only [isObjectText, Bool.and_eq_true, decide_eq_true_eq] at hvalue
    exact hvalue.1.2
  closed value _ := by
    have hvalue := hform value
    simp only [isObjectText, Bool.and_eq_true, decide_eq_true_eq] at hvalue
    exact hvalue.2
  parse_cut value _ piece hpiece hcut := by
    cases hparse : (serdeOfTexts text).parse piece with
    | error e => exact ⟨e, rfl⟩
    | ok read =>
      exfalso
      apply hcut
      rw [serdeOfTexts_parse hapart] at hparse
      rw [hparse] at hpiece ⊢
      rw [hapart read value hpiece]
      rfl
  parse_cr piece value hparse := by
    rw [serdeOfTexts_parse hapart] at hparse ⊢
    have hvalue := hform value
    simp only [isObjectText, Bool.and_eq_true, decide_eq_true_eq] at hvalue
    have hstrip : TextFile.stripCr piece.toList = piece.toList := by
      unfold TextFile.stripCr
      rw [hparse, hvalue.2]
      exact if_neg (by decide)
    rw [hstrip, String.ofList_toList, hparse]

end

theorem apart_of_take {text : SampleValue → String} {start : SampleValue → List Char} {n : Nat}
    (hstart : ∀ value, (text value).toList.take n = start value)
    (hlength : ∀ value, (start value).length = n)
    (hinj : ∀ value other, start value = start other → value = other) (value other : SampleValue)
    (hpart : (text value).toList <+: (text other).toList)
    : value = other := by
  obtain ⟨more, hmore⟩ := hpart
  have hlong : n ≤ (text value).toList.length := by
    rw [← hlength value, ← hstart value, List.length_take]
    omega
  apply hinj
  rw [← hstart, ← hstart, ← hmore, List.take_append_of_le_length hlong]

def SampleValue.start (self : SampleValue) : List Char :=
  match self with
  | .payload => "\x7b\"agentId\":\"main\",\"m".toList
  | .queued => "\x7b\"agentId\":\"main\",\"c".toList

theorem sampleQueueSerde_apart (value other : SampleValue)
    : value.text.toList <+: other.text.toList → value = other := by
  apply @apart_of_take SampleValue.text SampleValue.start 20
  . intro value
    unfold SampleValue.text
    rw [String.toList_ofList]
    cases value with
    | payload => decide +kernel
    | queued => decide +kernel
  . intro value
    cases value with
    | payload => decide
    | queued => decide
  . intro value other
    cases value with
    | payload =>
      cases other with
      | payload => simp
      | queued => decide +kernel
    | queued =>
      cases other with
      | payload => decide +kernel
      | queued => simp

theorem sampleQueueSerde_lawful : sampleQueueSerde.Lawful := by
  apply serdeOfTexts_lawful sampleQueueSerde_apart
  intro value
  unfold SampleValue.text
  rw [String.toList_ofList]
  cases value with
  | payload => decide +kernel
  | queued => decide +kernel

theorem sampleItem_valid : ValidJob sampleQueueSerde sampleTurnWorld sampleLlmJob sampleItem where
  itemOfJob := by decide +kernel
  accepted nowMs := ⟨_, rfl⟩

theorem sampleItem_writes : Writes sampleQueueSerde sampleItem where
  queueId := by decide +kernel
  parse_render := (serdeOfTexts_parse sampleQueueSerde_apart).mpr rfl

theorem sampleRow_isObject : sampleQueueSerde.IsObject .queued := ⟨_, _, sampleItem_writes.queueId⟩

theorem brace_isPrefix {value : V} {serde : QueueSerde V} (hserde : serde.Lawful)
    (h : serde.IsObject value)
    : [0x7b] <+: Text.utf8Bytes (serde.render value)
      ∧ [0x7b] ≠ Text.utf8Bytes (serde.render value) := by
  have hbrace := hserde.brace value h
  have hclosed := hserde.closed value h
  have hbytes : Text.utf8Bytes "\x7b" = [0x7b] := by decide
  constructor
  . rw [List.head?_eq_some_iff] at hbrace
    obtain ⟨more, hmore⟩ := hbrace
    unfold Text.utf8Bytes
    rw [hmore, List.flatMap_cons]
    exact ⟨_, rfl⟩
  . intro hsame
    rw [← hbytes] at hsame
    rw [← Text.utf8Bytes_injective hsame] at hclosed
    exact absurd hclosed (by decide)

def sampleTorn (first : List SampleValue) (hfirst : ∀ row ∈ first, sampleQueueSerde.IsObject row)
    : TornQueue sampleQueueSerde where
  first := first
  cut := .queued
  piece := [0x7b]
  rest := []
  objects := by
    rw [List.forall_mem_append, List.forall_mem_singleton]
    exact ⟨hfirst, sampleRow_isObject⟩
  piece_ne_nil := by simp
  isPrefix := (brace_isPrefix sampleQueueSerde_lawful sampleRow_isObject).1

theorem sampleTorn_readable {first : List SampleValue}
    (hfirst : ∀ row ∈ first, sampleQueueSerde.IsObject row)
    : ¬(sampleTorn first hfirst).Whole ∧ (sampleTorn first hfirst).readable = first := by
  have htorn : ¬(sampleTorn first hfirst).Whole :=
    (brace_isPrefix sampleQueueSerde_lawful sampleRow_isObject).2
  refine ⟨htorn, ?_⟩
  unfold TornQueue.readable
  rw [if_neg htorn]
  rfl

theorem sampleRows_isObject : ∀ row ∈ [SampleValue.queued], sampleQueueSerde.IsObject row := by
  rw [List.forall_mem_singleton]
  exact sampleRow_isObject

theorem sampleNoRows : ∀ row ∈ ([] : List SampleValue), sampleQueueSerde.IsObject row := by
  simp

theorem turn_never_blocked_sample
    : NeverBlocked sampleQueueSerde sampleTurnWorld sampleLlmJob sampleItem
        (sampleTorn [.queued] sampleRows_isObject).file := by
  apply (turn_never_blocked_iff sampleQueueSerde_lawful sampleItem_writes sampleItem_valid _).mpr
  have hbytes : TextFile.decode [0x7b] = some "\x7b" := TextFile.decode_eq_some.mpr (by decide)
  refine ⟨Option.isSome_iff_exists.mpr ⟨_, hbytes⟩, ?_⟩
  have hkey : queueIdOf sampleQueueSerde .queued = some sampleItem.queueId := by decide +kernel
  have hread : sampleQueueSerde.parse (sampleQueueSerde.render .queued)
      = .ok (sampleQueueSerde.itemValue sampleItem) := sampleItem_writes.parse_render
  rw [(sampleTorn_readable sampleRows_isObject).2, List.find?_singleton, hkey, decide_eq_true rfl]
  exact hread

theorem turn_blocked
    : ValidJob sampleQueueSerde sampleTurnWorld sampleLlmJob sampleItem
      ∧ ¬NeverBlocked sampleQueueSerde sampleTurnWorld sampleLlmJob sampleItem
        (sampleTorn [] sampleNoRows).file := by
  refine ⟨sampleItem_valid, ?_⟩
  obtain ⟨htorn, hreadable⟩ := sampleTorn_readable sampleNoRows
  apply TornQueue.not_neverBlocked _ sampleQueueSerde_lawful sampleItem_valid htorn
  rw [hreadable, List.find?_nil]

end WorkerStore
