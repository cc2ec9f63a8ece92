import AgentHarness.ChannelDelivery.Refresh
import AgentHarness.Lib.Marker

/-!
A ledger that only grows: the cursor stands after whole lines, so that the tail of the file is what
a reading of the whole file would still have to read.
-/

namespace ChannelDelivery

def Closed (bytes : List UInt8) : Prop :=
  TextFile.needsLeadingNewline bytes = false

instance (bytes : List UInt8) : Decidable (Closed bytes) :=
  inferInstanceAs (Decidable (_ = _))

variable {bytes torn : List UInt8}

theorem closed_iff
    : Closed bytes ↔ bytes = [] ∨ ∃ front, bytes = front ++ [TextFile.newline] := by
  unfold Closed TextFile.needsLeadingNewline
  induction bytes using List.reverseRecOn with
  | nil => simp
  | append_singleton front last _ => simp

theorem closed_nil : Closed [] := rfl

theorem closed_concat (front : List UInt8) : Closed (front ++ [TextFile.newline]) :=
  closed_iff.mpr (.inr ⟨front, rfl⟩)

variable {left : List UInt8}

theorem Closed.append {right : List UInt8} (hleft : Closed left) (hright : Closed right)
    : Closed (left ++ right) := by
  cases closed_iff.mp hright with
  | inl hnil =>
    rw [hnil, List.append_nil]
    exact hleft
  | inr hfront =>
    obtain ⟨front, rfl⟩ := hfront
    rw [← List.append_assoc]
    exact closed_concat _

theorem exists_closed_torn (bytes : List UInt8)
    : ∃ closed torn, bytes = closed ++ torn ∧ Closed closed ∧ TextFile.newline ∉ torn := by
  induction bytes using List.reverseRecOn with
  | nil => exact ⟨[], [], rfl, closed_nil, List.not_mem_nil⟩
  | append_singleton front last ih =>
    obtain ⟨closed, torn, rfl, hclosed, htorn⟩ := ih
    by_cases hlast : last = TextFile.newline
    . rw [hlast]
      exact ⟨_, [], (List.append_nil _).symm, closed_concat _, List.not_mem_nil⟩
    . refine ⟨closed, torn ++ [last], List.append_assoc _ _ _, hclosed, ?_⟩
      simp [htorn, Ne.symm hlast]

theorem rawLines_go_newline (line front rest : List UInt8)
    : rawLines.go line (front ++ TextFile.newline :: rest)
        = rawLines.go line (front ++ [TextFile.newline]) ++ rawLines.go [] rest := by
  induction front generalizing line with
  | nil => simp [rawLines.go]
  | cons byte front ih =>
    rw [List.cons_append, List.cons_append, rawLines.go, rawLines.go]
    split
    . rw [ih, List.cons_append]
    . rw [ih]

theorem rawLines_append (hleft : Closed left) (right : List UInt8)
    : rawLines (left ++ right) = rawLines left ++ rawLines right := by
  cases closed_iff.mp hleft with
  | inl hnil =>
    rw [hnil]
    rfl
  | inr hfront =>
    obtain ⟨front, rfl⟩ := hfront
    unfold rawLines
    rw [List.append_assoc, List.singleton_append, rawLines_go_newline]

theorem rawLines_go_flatten (line bytes : List UInt8)
    : (rawLines.go line bytes).flatten = line ++ bytes := by
  induction bytes generalizing line with
  | nil =>
    unfold rawLines.go
    split
    . next hline => simp [hline]
    . simp
  | cons byte rest ih =>
    unfold rawLines.go
    split
    . rw [List.flatten_cons, ih]
      simp
    . rw [ih]
      simp

theorem rawLines_flatten (bytes : List UInt8) : (rawLines bytes).flatten = bytes :=
  rawLines_go_flatten [] bytes

theorem rawLines_go_complete (line front : List UInt8)
    : ∀ raw ∈ rawLines.go line (front ++ [TextFile.newline]),
        raw.getLast? = some TextFile.newline := by
  induction front generalizing line with
  | nil => simp [rawLines.go]
  | cons byte front ih =>
    rw [List.cons_append, rawLines.go]
    split
    . next hbyte =>
      rw [List.forall_mem_cons]
      exact ⟨by simp [hbyte], ih []⟩
    . exact ih _

theorem complete_of_closed (h : Closed bytes)
    : ∀ raw ∈ rawLines bytes, raw.getLast? = some TextFile.newline := by
  cases closed_iff.mp h with
  | inl hnil =>
    rw [hnil]
    simp [rawLines, rawLines.go]
  | inr hfront =>
    obtain ⟨front, rfl⟩ := hfront
    exact rawLines_go_complete [] front

theorem rawLines_go_torn (line : List UInt8) (h : TextFile.newline ∉ torn)
    : rawLines.go line torn = if line ++ torn = [] then [] else [line ++ torn] := by
  induction torn generalizing line with
  | nil => simp [rawLines.go]
  | cons byte rest ih =>
    rw [List.mem_cons, not_or] at h
    rw [rawLines.go, if_neg (Ne.symm h.1), ih _ h.2]
    simp

theorem rawLines_torn (h : TextFile.newline ∉ torn)
    : rawLines torn = if torn = [] then [] else [torn] :=
  rawLines_go_torn [] h

def Read.andThen (first second : Read) : Read where
  lines := first.lines ++ second.lines
  offsetBytes := second.offsetBytes
  lineNumber := second.lineNumber

def Read.after (self : Read) (lineNumber : Nat) (trimmed : String) : Read :=
  if trimmed = "" then self else { self with lines := (lineNumber, trimmed) :: self.lines }

theorem Read.after_andThen (first second : Read) (lineNumber : Nat) (trimmed : String)
    : (first.andThen second).after lineNumber trimmed
        = (first.after lineNumber trimmed).andThen second := by
  unfold Read.after
  split
  . rfl
  . rfl

theorem Read.after_fields (self : Read) (lineNumber : Nat) (trimmed : String)
    : (self.after lineNumber trimmed).offsetBytes = self.offsetBytes
      ∧ (self.after lineNumber trimmed).lineNumber = self.lineNumber := by
  unfold Read.after
  split
  . exact ⟨rfl, rfl⟩
  . exact ⟨rfl, rfl⟩

section

variable {formats : Formats}

variable {offsetBytes lineNumber : Nat} {read : Read}

theorem readLines_complete_eq_ok {raw : List UInt8}
    (hcomplete : raw.getLast? = some TextFile.newline) {rest : List (List UInt8)}
    : readLines formats offsetBytes lineNumber (raw :: rest) = .ok read
        ↔ ∃ line later, TextFile.decode raw = some line
          ∧ readLines formats (offsetBytes + raw.length) (lineNumber + 1) rest = .ok later
          ∧ read = later.after (lineNumber + 1) (Text.trim line) := by
  rw [readLines, Except.bind_eq_ok]
  simp only [hcomplete, decide_true, Bool.not_true, Bool.false_and, Except.ofOption_eq_ok]
  apply exists_congr
  intro line
  simp only [Except.bind_eq_ok, Except.pure_eq_ok, Bool.false_eq_true, ↓reduceIte, exists_and_left]
  apply and_congr_right
  intro _
  apply exists_congr
  intro later
  apply and_congr_right
  intro _
  unfold Read.after
  exact eq_comm

theorem readLines_append_eq_ok {raws : List (List UInt8)}
    (hcomplete : ∀ raw ∈ raws, raw.getLast? = some TextFile.newline) {rest : List (List UInt8)}
    : readLines formats offsetBytes lineNumber (raws ++ rest) = .ok read
        ↔ ∃ first second, readLines formats offsetBytes lineNumber raws = .ok first
          ∧ readLines formats first.offsetBytes first.lineNumber rest = .ok second
          ∧ read = first.andThen second := by
  induction raws generalizing offsetBytes lineNumber read with
  | nil =>
    constructor
    . intro h
      exact ⟨⟨[], offsetBytes, lineNumber⟩, read, rfl, h, rfl⟩
    . rintro ⟨first, second, hfirst, hsecond, rfl⟩
      obtain rfl := Except.ok.inj hfirst
      exact hsecond
  | cons raw raws ih =>
    rw [List.forall_mem_cons] at hcomplete
    rw [List.cons_append, readLines_complete_eq_ok hcomplete.1]
    simp only [readLines_complete_eq_ok hcomplete.1, ih hcomplete.2]
    constructor
    . rintro ⟨line, later, hdecode, ⟨first, second, hfirst, hsecond, rfl⟩, rfl⟩
      obtain ⟨hoffset, hline⟩ := first.after_fields (lineNumber + 1) (Text.trim line)
      refine ⟨_, second, ⟨line, first, hdecode, hfirst, rfl⟩, ?_, Read.after_andThen _ _ _ _⟩
      rw [hoffset, hline]
      exact hsecond
    . rintro ⟨_, second, ⟨line, first, hdecode, hfirst, rfl⟩, hsecond, rfl⟩
      obtain ⟨hoffset, hline⟩ := first.after_fields (lineNumber + 1) (Text.trim line)
      rw [hoffset, hline] at hsecond
      exact ⟨line, _, hdecode, ⟨first, second, hfirst, hsecond, rfl⟩,
        (Read.after_andThen _ _ _ _).symm⟩

theorem readLines_complete_end {raws : List (List UInt8)}
    (hcomplete : ∀ raw ∈ raws, raw.getLast? = some TextFile.newline)
    (hread : readLines formats offsetBytes lineNumber raws = .ok read)
    : read.offsetBytes = offsetBytes + raws.flatten.length
      ∧ read.lineNumber = lineNumber + raws.length := by
  induction raws generalizing offsetBytes lineNumber read with
  | nil =>
    obtain rfl := Except.ok.inj hread
    exact ⟨rfl, rfl⟩
  | cons raw raws ih =>
    rw [List.forall_mem_cons] at hcomplete
    obtain ⟨line, later, _, hlater, rfl⟩ := (readLines_complete_eq_ok hcomplete.1).mp hread
    obtain ⟨hoffset, hline⟩ := later.after_fields (lineNumber + 1) (Text.trim line)
    obtain ⟨hoffsetLater, hlineLater⟩ := ih hcomplete.2 hlater
    rw [hoffset, hline, hoffsetLater, hlineLater, List.flatten_cons, List.length_append,
      List.length_cons]
    omega

end

/-
What was cut off: a line that has no newline and is no JSON is left for a later reading.
-/
def Torn (formats : Formats) (torn : List UInt8) : Prop :=
  torn ≠ [] → ∃ line, TextFile.decode torn = some line ∧ Text.trim line ≠ ""
    ∧ formats.isValue (Text.trim line) = false

theorem readLines_torn {formats : Formats} (hnewline : TextFile.newline ∉ torn)
    (htorn : Torn formats torn) (offsetBytes lineNumber : Nat)
    : readLines formats offsetBytes lineNumber (rawLines torn)
        = .ok { lines := [], offsetBytes, lineNumber } := by
  rw [rawLines_torn hnewline]
  split
  . rfl
  . next hne =>
    obtain ⟨line, hdecode, hblank, hvalue⟩ := htorn hne
    have hincomplete : torn.getLast? ≠ some TextFile.newline := by
      intro hlast
      exact hnewline (List.mem_of_getLast? hlast)
    rw [readLines, hdecode]
    simp [Except.ofOption, hincomplete, hblank, hvalue, bind, Except.bind, pure, Except.pure]

structure WholeLines (formats : Formats) (bytes lines : List UInt8) : Prop where
  closed : Closed lines
  torn : ∃ torn, bytes = lines ++ torn ∧ TextFile.newline ∉ torn ∧ Torn formats torn

theorem wholeLines_of_closed (formats : Formats) (h : Closed bytes)
    : WholeLines formats bytes bytes where
  closed := h
  torn := ⟨[], (List.append_nil _).symm, List.not_mem_nil, fun hne => absurd rfl hne⟩

theorem Closed.of_append {right : List UInt8} (h : Closed (left ++ right)) : Closed right := by
  rw [closed_iff] at h ⊢
  cases right using List.reverseRecOn with
  | nil => exact .inl rfl
  | append_singleton front last =>
    cases h with
    | inl hnil => simp at hnil
    | inr hfront =>
      obtain ⟨others, hothers⟩ := hfront
      rw [← List.append_assoc] at hothers
      obtain ⟨_, hlast⟩ := List.append_inj' hothers rfl
      exact .inr ⟨front, by rw [hlast]⟩

theorem WholeLines.eq_of_closed {formats : Formats} {lines : List UInt8}
    (h : WholeLines formats bytes lines) (hclosed : Closed bytes)
    : lines = bytes := by
  obtain ⟨torn, hbytes, hnewline, _⟩ := h.torn
  rw [hbytes] at hclosed
  cases closed_iff.mp hclosed.of_append with
  | inl hnil => rw [hbytes, hnil, List.append_nil]
  | inr hfront =>
    obtain ⟨front, rfl⟩ := hfront
    simp at hnewline

theorem WholeLines.eq_nil {formats : Formats} {lines : List UInt8}
    (h : WholeLines formats [] lines)
    : lines = [] :=
  h.eq_of_closed closed_nil

theorem Closed.split {closed earlier rest : List UInt8} (hnewline : TextFile.newline ∉ torn)
    (hearlier : Closed earlier) (hbytes : closed ++ torn = earlier ++ rest)
    : ∃ later, closed = earlier ++ later ∧ rest = later ++ torn := by
  cases List.append_eq_append_iff.mp hbytes with
  | inl hafter =>
    obtain ⟨extra, hextra, htorn⟩ := hafter
    -- an earlier end after the last newline is the end of the lines
    have hnil : extra = [] := by
      rw [hextra] at hearlier
      cases closed_iff.mp hearlier.of_append with
      | inl hnil => exact hnil
      | inr hfront =>
        obtain ⟨front, hfront⟩ := hfront
        exfalso
        apply hnewline
        rw [htorn, hfront]
        simp
    rw [hnil, List.append_nil] at hextra
    rw [hnil, List.nil_append] at htorn
    exact ⟨[], by rw [hextra, List.append_nil], by rw [htorn, List.nil_append]⟩
  | inr hbefore =>
    obtain ⟨later, hlines, hrest⟩ := hbefore
    exact ⟨later, hlines, hrest⟩

theorem WholeLines.split {formats : Formats} {lines earlier rest : List UInt8}
    (h : WholeLines formats bytes lines) (hearlier : Closed earlier)
    (hbytes : bytes = earlier ++ rest)
    : ∃ later, lines = earlier ++ later ∧ Closed later ∧ ∀ offsetBytes lineNumber read,
        readLines formats offsetBytes lineNumber (rawLines rest) = .ok read
          ↔ readLines formats offsetBytes lineNumber (rawLines later) = .ok read := by
  obtain ⟨torn, hsplit, hnewline, htorn⟩ := h.torn
  obtain ⟨later, hlines, hrest⟩ := hearlier.split hnewline (hsplit.symm.trans hbytes)
  have hclosed := h.closed
  rw [hlines] at hclosed
  refine ⟨later, hlines, hclosed.of_append, ?_⟩
  intro offsetBytes lineNumber read
  have hcomplete := complete_of_closed hclosed.of_append
  rw [hrest, rawLines_append hclosed.of_append, readLines_append_eq_ok hcomplete]
  constructor
  . rintro ⟨first, second, hfirst, hsecond, rfl⟩
    rw [readLines_torn hnewline htorn] at hsecond
    obtain rfl := Except.ok.inj hsecond
    unfold Read.andThen
    rw [List.append_nil]
    exact hfirst
  . intro hread
    refine ⟨read, _, hread, readLines_torn hnewline htorn _ _, ?_⟩
    unfold Read.andThen
    rw [List.append_nil]

def readWhole (formats : Formats) (bytes : List UInt8) : Except IoError Read :=
  readLines formats 0 0 (rawLines bytes)

structure CursorAt (cursor : LedgerCursor) (lines : List UInt8) : Prop where
  closed : Closed lines
  offsetBytes : cursor.offsetBytes = lines.length
  lineNumber : cursor.lineNumber = (rawLines lines).length
  modified : cursor.sourceModifiedAtUnixNanos.isSome
  tail : cursor.prefixTailFingerprint = ledgerPrefixTailFingerprint lines lines.length
  head : cursor.headFingerprint = ledgerHeadFingerprint lines lines.length

theorem ledgerPrefixTailFingerprint_append (lines rest : List UInt8)
    : ledgerPrefixTailFingerprint (lines ++ rest) lines.length
        = ledgerPrefixTailFingerprint lines lines.length := by
  unfold ledgerPrefixTailFingerprint
  dsimp only
  split
  . rfl
  . rw [List.drop_append_of_le_length (Nat.sub_le _ _), List.take_append_of_le_length]
    rw [List.length_drop]

theorem ledgerHeadFingerprint_append (lines rest : List UInt8)
    : ledgerHeadFingerprint (lines ++ rest) lines.length
        = ledgerHeadFingerprint lines lines.length := by
  unfold ledgerHeadFingerprint
  split
  . rfl
  . rw [List.take_append_of_le_length (Nat.min_le_left _ _)]

theorem readFromCursor_start (formats : Formats) (file : LedgerFile)
    : readFromCursor formats file {} = readWhole formats file.bytes := by
  unfold readFromCursor readWhole
  dsimp only
  rw [if_neg (by omega), Nat.zero_min, List.drop_zero]

section

variable {formats : Formats} {file : LedgerFile} {cursor : LedgerCursor} {lines rest : List UInt8}

theorem CursorAt.readFromCursor (h : CursorAt cursor lines) (hbytes : file.bytes = lines ++ rest)
    : readFromCursor formats file cursor
        = readLines formats lines.length (rawLines lines).length (rawLines rest) := by
  unfold ChannelDelivery.readFromCursor
  dsimp only
  have hlength : file.bytes.length = lines.length + rest.length := by
    rw [hbytes, List.length_append]
  rw [h.offsetBytes, if_neg (by omega), Nat.min_eq_left (by omega), h.lineNumber, hbytes,
    List.drop_left]

theorem readWhole_append_eq_ok (hclosed : Closed lines) {read : Read}
    : readWhole formats (lines ++ rest) = .ok read
        ↔ ∃ first second, readWhole formats lines = .ok first
          ∧ readLines formats lines.length (rawLines lines).length (rawLines rest) = .ok second
          ∧ read = first.andThen second := by
  unfold readWhole
  rw [rawLines_append hclosed, readLines_append_eq_ok (complete_of_closed hclosed)]
  apply exists_congr
  intro first
  apply exists_congr
  intro second
  apply and_congr_right
  intro hfirst
  obtain ⟨hoffset, hline⟩ := readLines_complete_end (complete_of_closed hclosed) hfirst
  rw [hoffset, hline, rawLines_flatten, Nat.zero_add, Nat.zero_add]

theorem CursorAt.ledgerRefreshMode (h : CursorAt cursor lines)
    (hbytes : file.bytes = lines ++ rest) (label : String)
    : ledgerRefreshMode label file (some cursor)
        = if rest = [] then
            if some file.modifiedAtUnixNanos = cursor.sourceModifiedAtUnixNanos then .current
            else .rebuild s!"{label} changed without a stable append"
          else .append cursor := by
  have htail : ledgerPrefixTailFingerprint file.bytes cursor.offsetBytes
      = cursor.prefixTailFingerprint := by
    rw [hbytes, h.offsetBytes, ledgerPrefixTailFingerprint_append, h.tail]
  have hhead : ledgerHeadFingerprint file.bytes cursor.offsetBytes = cursor.headFingerprint := by
    rw [hbytes, h.offsetBytes, ledgerHeadFingerprint_append, h.head]
  have hstable : (cursor.sourceModifiedAtUnixNanos.isNone
      || (0 < cursor.offsetBytes && (cursor.prefixTailFingerprint.isNone
        || cursor.headFingerprint.isNone))) = false := by
    rw [← htail, ← hhead]
    unfold ledgerPrefixTailFingerprint ledgerHeadFingerprint
    by_cases hzero : cursor.offsetBytes = 0
    . simp [hzero, h.modified]
    . simp [hzero, h.modified]
  have hlength : file.bytes.length = cursor.offsetBytes + rest.length := by
    rw [hbytes, List.length_append, h.offsetBytes]
  unfold ChannelDelivery.ledgerRefreshMode
  simp only [htail, hhead, hstable, decide_true, Bool.and_true, Bool.false_eq_true, ↓reduceIte,
    decide_eq_true_eq]
  rw [if_neg (by omega)]
  by_cases hrest : rest = []
  . rw [if_pos hrest, if_pos (by simp [hlength, hrest])]
  . have hpositive := List.length_pos_iff.mpr hrest
    rw [if_neg hrest, if_neg (by omega)]

theorem cursorAt_processed (hclosed : Closed lines) (hbytes : file.bytes = lines ++ rest)
    : CursorAt (cursorFromProcessedLedger file lines.length (rawLines lines).length) lines where
  closed := hclosed
  offsetBytes := rfl
  lineNumber := rfl
  modified := rfl
  tail := by
    show ledgerPrefixTailFingerprint file.bytes lines.length = _
    rw [hbytes, ledgerPrefixTailFingerprint_append]
  head := by
    show ledgerHeadFingerprint file.bytes lines.length = _
    rw [hbytes, ledgerHeadFingerprint_append]

end

def StartsAt (formats : Formats) (file : LedgerFile) (cursor : LedgerCursor) (lines : List UInt8)
    : Prop :=
  Closed lines ∧ ∃ rest, file.bytes = lines ++ rest ∧ readFromCursor formats file cursor
    = readLines formats lines.length (rawLines lines).length (rawLines rest)

theorem startsAt_start (formats : Formats) (file : LedgerFile) : StartsAt formats file {} [] :=
  ⟨closed_nil, file.bytes, rfl, readFromCursor_start formats file⟩

section

variable {formats : Formats} {file : LedgerFile} {cursor : LedgerCursor} {lines whole : List UInt8}

theorem CursorAt.startsAt {rest : List UInt8} (h : CursorAt cursor lines)
    (hbytes : file.bytes = lines ++ rest)
    : StartsAt formats file cursor lines :=
  ⟨h.closed, rest, hbytes, h.readFromCursor hbytes⟩

variable (h : StartsAt formats file cursor lines) (hwhole : WholeLines formats file.bytes whole)
include h hwhole

theorem StartsAt.readWhole_eq_ok {first read : Read} (hfirst : readWhole formats lines = .ok first)
    (hread : readFromCursor formats file cursor = .ok read)
    : readWhole formats whole = .ok (first.andThen read)
      ∧ CursorAt (cursorFromProcessedLedger file read.offsetBytes read.lineNumber) whole := by
  obtain ⟨hclosed, rest, hbytes, hstart⟩ := h
  obtain ⟨later, hlines, _, hlater⟩ := hwhole.split hclosed hbytes
  rw [hstart, hlater] at hread
  have hall : readWhole formats whole = .ok (first.andThen read) := by
    rw [hlines, readWhole_append_eq_ok hclosed]
    exact ⟨first, read, hfirst, hread, rfl⟩
  refine ⟨hall, ?_⟩
  obtain ⟨hoffset, hline⟩ := readLines_complete_end (complete_of_closed hwhole.closed) hall
  rw [rawLines_flatten, Nat.zero_add] at hoffset
  rw [Nat.zero_add] at hline
  have hoffset : read.offsetBytes = whole.length := hoffset
  have hline : read.lineNumber = (rawLines whole).length := hline
  obtain ⟨torn, htorn, _⟩ := hwhole.torn
  rw [hoffset, hline]
  exact cursorAt_processed hwhole.closed htorn

theorem StartsAt.exists_read {all : Read} (hall : readWhole formats whole = .ok all)
    : ∃ first read, readWhole formats lines = .ok first
        ∧ readFromCursor formats file cursor = .ok read ∧ all = first.andThen read := by
  obtain ⟨hclosed, rest, hbytes, hstart⟩ := h
  obtain ⟨later, hlines, _, hlater⟩ := hwhole.split hclosed hbytes
  rw [hlines, readWhole_append_eq_ok hclosed] at hall
  obtain ⟨first, read, hfirst, hread, rfl⟩ := hall
  refine ⟨first, read, hfirst, ?_, rfl⟩
  rw [hstart, hlater]
  exact hread

end

theorem rawLines_go_skip (line : List UInt8) (h : TextFile.newline ∉ bytes) (rest : List UInt8)
    : rawLines.go line (bytes ++ rest) = rawLines.go (line ++ bytes) rest := by
  induction bytes generalizing line with
  | nil => rw [List.nil_append, List.append_nil]
  | cons byte bytes ih =>
    rw [List.mem_cons, not_or] at h
    rw [List.cons_append, rawLines.go, if_neg (Ne.symm h.1), ih _ h.2, List.append_assoc,
      List.singleton_append]

theorem rawLines_go_text (done rest : List Char)
    : ∀ raw ∈ rawLines.go (done.flatMap String.utf8EncodeChar)
        (rest.flatMap String.utf8EncodeChar),
        ∃ chars : List Char, raw = chars.flatMap String.utf8EncodeChar := by
  induction rest generalizing done with
  | nil =>
    intro raw hraw
    unfold List.flatMap at hraw
    rw [List.map_nil, List.flatten_nil, rawLines.go] at hraw
    split at hraw
    . simp at hraw
    . exact ⟨done, List.mem_singleton.mp hraw⟩
  | cons ch rest ih =>
    rw [List.flatMap_cons]
    by_cases hch : ch = '\n'
    . have hnewline : String.utf8EncodeChar ch = [TextFile.newline] := by
        rw [hch]
        decide
      rw [hnewline, List.singleton_append, rawLines.go, if_pos rfl, List.forall_mem_cons]
      refine ⟨⟨done ++ [ch], ?_⟩, ih []⟩
      rw [List.flatMap_append, List.flatMap_singleton, hnewline]
    . have hnewline : TextFile.newline ∉ String.utf8EncodeChar ch := by
        rw [TextFile.newline_mem_utf8EncodeChar]
        exact hch
      have hdone : done.flatMap String.utf8EncodeChar ++ String.utf8EncodeChar ch
          = (done ++ [ch]).flatMap String.utf8EncodeChar := by
        rw [List.flatMap_append, List.flatMap_singleton]
      rw [rawLines_go_skip _ hnewline, hdone]
      exact ih (done ++ [ch])

theorem decode_rawLines (text : String)
    : ∀ raw ∈ rawLines (Text.utf8Bytes text), ∃ line, TextFile.decode raw = some line := by
  intro raw hraw
  obtain ⟨chars, rfl⟩ := rawLines_go_text [] text.toList raw hraw
  refine ⟨String.ofList chars, ?_⟩
  rw [TextFile.decode_eq_some, Text.utf8Bytes, String.toList_ofList]

theorem readWhole_isOk (formats : Formats) {text : String} (h : Closed (Text.utf8Bytes text))
    : ∃ read, readWhole formats (Text.utf8Bytes text) = .ok read := by
  have hread : ∀ (raws : List (List UInt8)) (offsetBytes lineNumber : Nat),
      (∀ raw ∈ raws, raw.getLast? = some TextFile.newline)
      → (∀ raw ∈ raws, ∃ line, TextFile.decode raw = some line)
      → ∃ read, readLines formats offsetBytes lineNumber raws = .ok read := by
    intro raws
    induction raws with
    | nil =>
      intro offsetBytes lineNumber _ _
      exact ⟨_, rfl⟩
    | cons raw raws ih =>
      intro offsetBytes lineNumber hcomplete hdecode
      rw [List.forall_mem_cons] at hcomplete hdecode
      obtain ⟨line, hline⟩ := hdecode.1
      obtain ⟨later, hlater⟩ :=
        ih (offsetBytes + raw.length) (lineNumber + 1) hcomplete.2 hdecode.2
      exact ⟨_, (readLines_complete_eq_ok hcomplete.1).mpr ⟨line, later, hline, hlater, rfl⟩⟩
  exact hread _ 0 0 (complete_of_closed h) (decode_rawLines text)

-- the text of a record: it stands on one line and has no space around it
structure OneLine (line : String) : Prop where
  newline : '\n' ∉ line.toList
  trim : Text.trim line = line
  ne : line ≠ ""

theorem oneLine_object {fields : String} (h : '\n' ∉ fields.toList)
    : OneLine ("\x7b" ++ fields ++ "\x7d") where
  newline := by
    simp only [String.toList_append, List.mem_append, not_or]
    exact ⟨⟨by decide, h⟩, by decide⟩
  trim := by
    apply Text.trim_of_ends
    . intro ch hch
      rw [String.toList_append, String.toList_append, List.append_assoc] at hch
      obtain rfl : '\x7b' = ch := Option.some.inj hch
      decide
    . intro ch hch
      rw [String.toList_append, List.getLast?_append] at hch
      obtain rfl : '\x7d' = ch := Option.some.inj hch
      decide
  ne := by
    intro hempty
    have hchars := congrArg String.toList hempty
    simp [String.toList_append] at hchars

def lineBytes (line : String) : List UInt8 :=
  Text.utf8Bytes line ++ [TextFile.newline]

theorem closed_lineBytes (line : String) : Closed (lineBytes line) :=
  closed_concat _

theorem decode_lineBytes (line : String)
    : TextFile.decode (lineBytes line) = some (line ++ "\n") := by
  rw [TextFile.decode_eq_some, Text.utf8Bytes_append, TextFile.utf8Bytes_newline]
  rfl

theorem rawLines_lineBytes {line : String} (h : OneLine line)
    : rawLines (lineBytes line) = [lineBytes line] := by
  have hnewline : TextFile.newline ∉ Text.utf8Bytes line := by
    rw [TextFile.newline_mem_utf8Bytes]
    exact h.newline
  have hgo : ∀ (done : List UInt8) {bytes : List UInt8}, TextFile.newline ∉ bytes
      → rawLines.go done (bytes ++ [TextFile.newline])
        = [done ++ bytes ++ [TextFile.newline]] := by
    intro done bytes hbytes
    induction bytes generalizing done with
    | nil => simp [rawLines.go]
    | cons byte bytes ih =>
      rw [List.mem_cons, not_or] at hbytes
      rw [List.cons_append, rawLines.go, if_neg (Ne.symm hbytes.1), ih _ hbytes.2]
      simp
  exact hgo [] hnewline

theorem readLines_lineBytes (formats : Formats) {line : String} (h : OneLine line)
    (offsetBytes lineNumber : Nat)
    : readLines formats offsetBytes lineNumber (rawLines (lineBytes line))
        = .ok {
            lines := [(lineNumber + 1, line)]
            offsetBytes := offsetBytes + (lineBytes line).length
            lineNumber := lineNumber + 1 } := by
  have hlast : (lineBytes line).getLast? = some TextFile.newline := List.getLast?_concat
  rw [rawLines_lineBytes h, readLines_complete_eq_ok hlast]
  refine ⟨line ++ "\n", _, decode_lineBytes line, rfl, ?_⟩
  rw [Text.trim_append_newline h.ne h.trim]
  unfold Read.after
  rw [if_neg h.ne]

def ledgerBytes (file : Option LedgerFile) : List UInt8 :=
  (file.map (·.bytes)).getD []

theorem appendLine_of_closed {file : Option LedgerFile} (h : Closed (ledgerBytes file))
    (line : String) (modifiedAtUnixNanos : Nat)
    : Channel.appendLine file line modifiedAtUnixNanos
        = { bytes := ledgerBytes file ++ lineBytes line, modifiedAtUnixNanos } := by
  have hnone : TextFile.needsLeadingNewline ((file.map (·.bytes)).getD []) = false := h
  unfold Channel.appendLine
  simp only [hnone, Bool.false_eq_true, ↓reduceIte, List.append_nil, List.append_assoc]
  rfl

end ChannelDelivery
