import AgentHarness.Lib.Io
import AgentHarness.Lib.TextFile
import AgentHarness.Lib.Run

/-!
The append of a JSON line that is made once for its event key: the lines of the file are scanned for
the key, and the newline that may be missing, the record and its own newline are written one after
the other.
-/

namespace Logging

variable {V : Type} (serde : Serde V)

def eventKey (value : V) : Option String :=
  serde.stringField value "eventKey"

-- the lines before the first one with the key; the first malformed line among them is an error
def scan (key : String) (index : Nat) : List String → Except IoError Bool
  | [] => .ok false
  | line :: rest =>
    if TextFile.isBlank line then
      scan key (index + 1) rest
    else
      match serde.parse line with
      | .error error => .error {
          kind := .invalidData
          message := s!"invalid JSONL record at line {index + 1}: {error}" }
      | .ok existing =>
        if eventKey serde existing = some key then
          .ok true
        else
          scan key (index + 1) rest

def recordBytes (file : List UInt8) (value : V) : List UInt8 :=
  (if TextFile.needsLeadingNewline file then [TextFile.newline] else [])
    ++ Text.utf8Bytes (serde.render value) ++ [TextFile.newline]

def prepareAppendOnce (file : List UInt8) (value : V) : Except IoError (Option (List UInt8)) := do
  let key ← .ofOption ((eventKey serde value).filter fun key => !TextFile.isBlank key)
    { kind := .invalidData, message := "eventKey is required" }
  let text ← .ofOption (TextFile.decode file)
    { kind := .invalidData, message := "stream did not contain valid UTF-8" }
  let found ← scan serde key 0 (TextFile.lines text)
  return if found then none else some (recordBytes serde file value)

def appendJsonlValueOnceByEventKey (file : List UInt8) (value : V) : Outcome (List UInt8) Bool :=
  match prepareAppendOnce serde file value with
  | .error e => (file, .error e)
  | .ok none => (file, .ok false)
  | .ok (some bytes) => (file ++ bytes, .ok true)

def CrashedAppend (file : List UInt8) (value : V) (crashed : List UInt8) : Prop :=
  match prepareAppendOnce serde file value with
  | .error _ => crashed = file
  | .ok none => crashed = file
  | .ok (some bytes) => ∃ written, written <+: bytes ∧ crashed = file ++ written

end Logging

/-!
The append once, cut off at any byte: unless the cut is inside the record, the call can be repeated
and leaves one row with its key. A record that was torn makes the scan fail for good.
-/

namespace Logging

variable {V : Type} {serde : Serde V}

def lineKey (serde : Serde V) (line : String) : Option String :=
  if TextFile.isBlank line then
    none
  else
    match serde.parse line with
    | .error _ => none
    | .ok value => eventKey serde value

def keysOf (serde : Serde V) (lines : List String) : List String :=
  lines.filterMap (lineKey serde)

structure WellFormed (serde : Serde V) (text : String) : Prop where
  readable : ∀ line ∈ TextFile.lines text,
    TextFile.isBlank line ∨ ∃ value, serde.parse line = .ok value
  nodup : (keysOf serde (TextFile.lines text)).Nodup

variable {key text : String}

theorem scan_of_readable {lines : List String} (index : Nat)
    (h : ∀ line ∈ lines, TextFile.isBlank line ∨ ∃ value, serde.parse line = .ok value)
    : scan serde key index lines = .ok (decide (key ∈ keysOf serde lines)) := by
  induction lines generalizing index with
  | nil => rfl
  | cons line rest ih =>
    rw [List.forall_mem_cons] at h
    unfold keysOf at ih ⊢
    rw [scan, List.filterMap_cons, lineKey, ih _ h.2]
    by_cases hblank : TextFile.isBlank line
    . simp [hblank]
    . obtain ⟨value, hparse⟩ := h.1.resolve_left hblank
      rw [if_neg hblank, if_neg hblank, hparse]
      dsimp only
      by_cases hkey : eventKey serde value = some key
      . simp [hkey]
      . rw [if_neg hkey, Except.ok.injEq, decide_eq_decide]
        cases hvalue : eventKey serde value with
        | none => rfl
        | some found =>
          rw [hvalue, Option.some.injEq] at hkey
          simp [Ne.symm hkey]

theorem scan_of_malformed {first : List String} {line : String} (index : Nat)
    (h : ∀ line ∈ first, TextFile.isBlank line ∨ ∃ value, serde.parse line = .ok value)
    (hkey : key ∉ keysOf serde first) (hblank : ¬TextFile.isBlank line) {error : String}
    (herror : serde.parse line = .error error)
    : ∃ e, scan serde key index (first ++ [line]) = .error e ∧ e.kind = .invalidData := by
  induction first generalizing index with
  | nil =>
    rw [List.nil_append, scan, if_neg hblank, herror]
    exact ⟨_, rfl, rfl⟩
  | cons head first ih =>
    rw [List.forall_mem_cons] at h
    unfold keysOf at ih hkey
    rw [List.filterMap_cons, lineKey] at hkey
    rw [List.cons_append, scan]
    by_cases hhead : TextFile.isBlank head
    . rw [if_pos hhead] at hkey ⊢
      exact ih _ h.2 hkey
    . obtain ⟨value, hparse⟩ := h.1.resolve_left hhead
      rw [if_neg hhead, hparse] at hkey ⊢
      dsimp only at hkey ⊢
      cases hvalue : eventKey serde value with
      | none =>
        rw [hvalue] at hkey
        simpa using ih (index + 1) h.2 hkey
      | some found =>
        rw [hvalue, List.mem_cons, not_or] at hkey
        rw [if_neg (by simpa using Ne.symm hkey.1)]
        exact ih _ h.2 hkey.2

section

variable (hserde : serde.Lawful)
include hserde

theorem lineKey_stripCr {line : String}
    (h : TextFile.isBlank line ∨ ∃ value, serde.parse line = .ok value)
    : let closed := String.ofList (TextFile.stripCr line.toList)
      (TextFile.isBlank closed ∨ ∃ value, serde.parse closed = .ok value)
        ∧ lineKey serde closed = lineKey serde line := by
  dsimp only
  unfold lineKey
  rw [TextFile.isBlank_stripCr]
  by_cases hblank : TextFile.isBlank line
  . simp [hblank]
  . obtain ⟨value, hvalue⟩ := h.resolve_left hblank
    have hclosed := hserde.parse_cr line value hvalue
    rw [hclosed, hvalue]
    exact ⟨.inr ⟨value, rfl⟩, rfl⟩

theorem closed_lines {before after : List String}
    (h : List.Forall₂ (fun before after : String =>
      after = before ∨ after = String.ofList (TextFile.stripCr before.toList)) before after)
    (hreadable : ∀ line ∈ before, TextFile.isBlank line ∨ ∃ value, serde.parse line = .ok value)
    : (∀ line ∈ after, TextFile.isBlank line ∨ ∃ value, serde.parse line = .ok value)
        ∧ keysOf serde after = keysOf serde before := by
  unfold keysOf
  induction h with
  | nil => simp
  | @cons line closed before after hline _ ih =>
    rw [List.forall_mem_cons] at hreadable ⊢
    obtain ⟨hrest, hkeys⟩ := ih hreadable.2
    have hclosed : (TextFile.isBlank closed ∨ ∃ value, serde.parse closed = .ok value)
        ∧ lineKey serde closed = lineKey serde line := by
      cases hline with
      | inl hsame =>
        rw [hsame]
        exact ⟨hreadable.1, rfl⟩
      | inr hstrip =>
        rw [hstrip]
        exact lineKey_stripCr hserde hreadable.1
    refine ⟨⟨hclosed.1, hrest⟩, ?_⟩
    rw [List.filterMap_cons, List.filterMap_cons, hclosed.2, hkeys]

end

theorem isObject_of_eventKey {value : V} (h : eventKey serde value = some key)
    : serde.IsObject value :=
  ⟨"eventKey", key, h⟩

def lead (text : String) : String :=
  if text.toList.getLast?.any (· ≠ '\n') then "\n" else ""

theorem utf8Bytes_lead (text : String)
    : (if TextFile.needsLeadingNewline (Text.utf8Bytes text) then [TextFile.newline] else [])
        = Text.utf8Bytes (lead text) := by
  unfold lead
  rw [TextFile.needsLeadingNewline_utf8Bytes]
  split
  . rw [TextFile.utf8Bytes_newline]
  . rfl

theorem recordBytes_utf8Bytes (text : String) (value : V)
    : recordBytes serde (Text.utf8Bytes text) value
        = Text.utf8Bytes (lead text) ++ Text.utf8Bytes (serde.render value)
          ++ [TextFile.newline] := by
  unfold recordBytes
  rw [utf8Bytes_lead]

theorem lines_lead_append (text piece : String)
    : TextFile.lines (text ++ lead text ++ piece)
        = TextFile.lines (text ++ lead text) ++ TextFile.lines piece := by
  unfold lead
  split
  . exact TextFile.lines_append_newline text piece
  . next hlast =>
    rw [String.append_empty]
    cases hlist : text.toList using List.reverseRecOn with
    | nil =>
      obtain rfl : text = "" := String.toList_eq_nil_iff.mp hlist
      simp [TextFile.lines, TextFile.lines.go]
    | append_singleton first ch =>
      obtain rfl : ch = '\n' := by simpa [hlist] using hlast
      obtain rfl : text = String.ofList first ++ "\n" := by
        rw [← String.toList_inj, hlist]
        simp
      exact TextFile.lines_append_newline (String.ofList first) piece

section

variable (hserde : serde.Lawful)
include hserde

theorem lines_lead {text : String} (h : WellFormed serde text)
    : (∀ line ∈ TextFile.lines (text ++ lead text),
          TextFile.isBlank line ∨ ∃ value, serde.parse line = .ok value)
        ∧ keysOf serde (TextFile.lines (text ++ lead text))
          = keysOf serde (TextFile.lines text) := by
  unfold lead
  split
  . next hlast => exact closed_lines hserde (TextFile.lines_closed hlast) h.readable
  . rw [String.append_empty]
    exact ⟨h.readable, rfl⟩

theorem wellFormed_lead {text : String} (h : WellFormed serde text)
    : WellFormed serde (text ++ lead text) where
  readable := (lines_lead hserde h).1
  nodup := by
    rw [(lines_lead hserde h).2]
    exact h.nodup

theorem not_isBlank_of_brace {value : V} (h : serde.IsObject value) {piece : String}
    (hpiece : piece.toList <+: (serde.render value).toList) (hne : piece ≠ "")
    : ¬TextFile.isBlank piece := by
  rw [TextFile.isBlank_iff]
  intro hblank
  cases hlist : piece.toList with
  | nil => exact hne (String.toList_eq_nil_iff.mp hlist)
  | cons ch rest =>
    obtain ⟨tail, htail⟩ := hpiece
    have hbrace := hserde.brace value h
    rw [← htail, hlist] at hbrace
    obtain rfl : ch = '{' := by simpa using hbrace
    have hspace := hblank _ (by rw [hlist]; exact List.mem_cons_self)
    exact absurd hspace (by decide)

theorem lines_render {value : V} (h : serde.IsObject value)
    : TextFile.lines (serde.render value) = [serde.render value]
        ∧ TextFile.lines (serde.render value ++ "\n") = [serde.render value] := by
  have hnewline : '\n' ∉ (serde.render value).toList := by
    intro hmem
    exact (hserde.noControl value _ hmem).1 rfl
  have hne : serde.render value ≠ "" := by
    intro hempty
    have hbrace := hserde.brace value h
    rw [hempty] at hbrace
    cases hbrace
  refine ⟨TextFile.lines_of_notMem hnewline hne, ?_⟩
  have hstrip : TextFile.stripCr (serde.render value).toList = (serde.render value).toList := by
    unfold TextFile.stripCr
    rw [if_neg]
    intro hlast
    exact (hserde.noControl value _ (List.mem_of_getLast? hlast)).2 rfl
  unfold TextFile.lines
  rw [String.toList_append]
  show List.map _ (TextFile.lines.go [] ((serde.render value).toList ++ ['\n'])) = _
  rw [TextFile.go_concat_newline hnewline, List.nil_append, hstrip]
  simp

theorem keysOf_render {value : V} {key : String} (h : eventKey serde value = some key)
    : (∃ read, serde.parse (serde.render value) = .ok read)
        ∧ keysOf serde [serde.render value] = [key] := by
  obtain ⟨read, hread, hfields⟩ := hserde.parse_render value
  refine ⟨⟨read, hread⟩, ?_⟩
  have hblank : ¬TextFile.isBlank (serde.render value) := by
    apply not_isBlank_of_brace hserde (isObject_of_eventKey h) (List.prefix_refl _)
    intro hempty
    have hbrace := hserde.brace value (isObject_of_eventKey h)
    rw [hempty] at hbrace
    cases hbrace
  have hkey : lineKey serde (serde.render value) = some key := by
    unfold lineKey
    rw [if_neg hblank, hread]
    dsimp only
    rw [← h]
    unfold eventKey
    rw [hfields]
  simp [keysOf, hkey]

theorem wellFormed_record {text tail : String} {value : V} {key : String}
    (h : WellFormed serde text) (hkey : eventKey serde value = some key)
    (hnew : key ∉ keysOf serde (TextFile.lines text)) (htail : tail = "" ∨ tail = "\n")
    : WellFormed serde (text ++ lead text ++ (serde.render value ++ tail))
        ∧ key ∈ keysOf serde
          (TextFile.lines (text ++ lead text ++ (serde.render value ++ tail))) := by
  obtain ⟨hreadable, hkeys⟩ := lines_lead hserde h
  obtain ⟨hread, hrender⟩ := keysOf_render hserde hkey
  have hline : TextFile.lines (serde.render value ++ tail) = [serde.render value] := by
    have hlines := lines_render hserde (isObject_of_eventKey hkey)
    cases htail with
    | inl hempty =>
      rw [hempty, String.append_empty]
      exact hlines.1
    | inr hnewline =>
      rw [hnewline]
      exact hlines.2
  have hall : keysOf serde (TextFile.lines (text ++ lead text ++ (serde.render value ++ tail)))
      = keysOf serde (TextFile.lines text) ++ [key] := by
    rw [lines_lead_append, hline, ← hkeys, ← hrender]
    exact List.filterMap_append
  refine ⟨⟨?_, ?_⟩, ?_⟩
  . rw [lines_lead_append, hline, List.forall_mem_append, List.forall_mem_singleton]
    exact ⟨hreadable, .inr hread⟩
  . rw [hall, List.nodup_append]
    refine ⟨h.nodup, List.nodup_singleton key, ?_⟩
    intro found hfound other hother hsame
    rw [List.mem_singleton] at hother
    rw [hsame, hother] at hfound
    exact hnew hfound
  . rw [hall]
    simp

end

def HasKey (serde : Serde V) (value : V) (key : String) : Prop :=
  eventKey serde value = some key ∧ ¬TextFile.isBlank key

theorem prepareAppendOnce_eq {value : V} (hkey : HasKey serde value key)
    : prepareAppendOnce serde (Text.utf8Bytes text) value = (do
        let found ← scan serde key 0 (TextFile.lines text)
        return if found then none else some (recordBytes serde (Text.utf8Bytes text) value)) := by
  have hdecode : TextFile.decode (Text.utf8Bytes text) = some text :=
    TextFile.decode_eq_some.mpr rfl
  unfold prepareAppendOnce
  rw [hdecode, hkey.1, Option.filter_some, if_pos (by simpa using hkey.2)]
  rfl

theorem prepareAppendOnce_of_wellFormed {value : V} (h : WellFormed serde text)
    (hkey : HasKey serde value key)
    : prepareAppendOnce serde (Text.utf8Bytes text) value
        = .ok (if key ∈ keysOf serde (TextFile.lines text) then none
          else some (Text.utf8Bytes (lead text) ++ Text.utf8Bytes (serde.render value)
            ++ [TextFile.newline])) := by
  rw [prepareAppendOnce_eq hkey, scan_of_readable 0 h.readable, recordBytes_utf8Bytes]
  show Except.ok _ = Except.ok _
  simp

def WellFormedFile (serde : Serde V) (file : List UInt8) : Prop :=
  ∃ text, TextFile.decode file = some text ∧ WellFormed serde text

def fileKeys (serde : Serde V) (file : List UInt8) : List String :=
  ((TextFile.decode file).map fun text => keysOf serde (TextFile.lines text)).getD []

theorem fileKeys_utf8Bytes (text : String)
    : fileKeys serde (Text.utf8Bytes text) = keysOf serde (TextFile.lines text) := by
  unfold fileKeys
  rw [TextFile.decode_eq_some.mpr rfl]
  rfl

theorem WellFormedFile.of_text (h : WellFormed serde text)
    : WellFormedFile serde (Text.utf8Bytes text) :=
  ⟨text, TextFile.decode_eq_some.mpr rfl, h⟩

theorem WellFormedFile.count {file : List UInt8} (h : WellFormedFile serde file)
    (hkey : key ∈ fileKeys serde file)
    : (fileKeys serde file).count key = 1 := by
  obtain ⟨text, htext, htextForm⟩ := h
  rw [TextFile.decode_eq_some] at htext
  subst htext
  rw [fileKeys_utf8Bytes] at hkey ⊢
  exact List.count_eq_one_of_mem htextForm.nodup hkey

def appendOnce (serde : Serde V) (file : List UInt8) (value : V) : List UInt8 :=
  (appendJsonlValueOnceByEventKey serde file value).1

section

variable (hserde : serde.Lawful) {file : List UInt8} (h : WellFormedFile serde file)
include hserde h

theorem WellFormedFile.append {value : V} {key : String} (hkey : HasKey serde value key)
    : ∃ later result, appendJsonlValueOnceByEventKey serde file value = (later, .ok result)
        ∧ WellFormedFile serde later ∧ key ∈ fileKeys serde later := by
  obtain ⟨text, htext, hform⟩ := h
  rw [TextFile.decode_eq_some] at htext
  subst htext
  unfold appendJsonlValueOnceByEventKey
  rw [prepareAppendOnce_of_wellFormed hform hkey]
  by_cases hold : key ∈ keysOf serde (TextFile.lines text)
  . rw [if_pos hold]
    refine ⟨_, _, rfl, .of_text hform, ?_⟩
    rw [fileKeys_utf8Bytes]
    exact hold
  . obtain ⟨hlater, hmem⟩ := wellFormed_record hserde hform hkey.1 hold (.inr rfl)
    have hbytes : Text.utf8Bytes text ++ (Text.utf8Bytes (lead text)
          ++ Text.utf8Bytes (serde.render value) ++ [TextFile.newline])
        = Text.utf8Bytes (text ++ lead text ++ (serde.render value ++ "\n")) := by
      simp only [Text.utf8Bytes_append, TextFile.utf8Bytes_newline, List.append_assoc]
    rw [if_neg hold]
    dsimp only
    rw [hbytes]
    refine ⟨_, _, rfl, .of_text hlater, ?_⟩
    rw [fileKeys_utf8Bytes]
    exact hmem

theorem WellFormedFile.run {values : List V} (hvalues : ∀ value ∈ values, ∃ key, HasKey serde value key)
    : WellFormedFile serde (Run.exec (appendOnce serde) file values) := by
  have hguarded : Run.Guarded (appendOnce serde) (fun _ value => ∃ key, HasKey serde value key) file
      values :=
    Run.guarded_of_forall (fun value hvalue _ => hvalues value hvalue) file
  apply Run.exec_invariant_of_guarded (WellFormedFile serde) _ h hguarded
  rintro file value hfile ⟨key, hkey⟩
  obtain ⟨later, result, happend, hlater, _⟩ := hfile.append hserde hkey
  unfold appendOnce
  rw [happend]
  exact hlater

end

/-
What a call that is repeated after a crash should give: it succeeds, its key stands on one row, and
so do all later calls.
-/
def Survives (serde : Serde V) (crashed : List UInt8) (value : V) (key : String) : Prop :=
  ∃ later result, appendJsonlValueOnceByEventKey serde crashed value = (later, .ok result)
    ∧ (fileKeys serde later).count key = 1
    ∧ ∀ first next, (∀ other ∈ first ++ [next], ∃ key, HasKey serde other key)
      → ∃ result, (appendJsonlValueOnceByEventKey serde
        (Run.exec (appendOnce serde) later first) next).2 = .ok result

def TornRecord (serde : Serde V) (file : List UInt8) (value : V) (crashed : List UInt8) : Prop :=
  ∃ piece, piece <+: Text.utf8Bytes (serde.render value) ∧ piece ≠ []
    ∧ piece ≠ Text.utf8Bytes (serde.render value)
    ∧ crashed = file
      ++ (if TextFile.needsLeadingNewline file then [TextFile.newline] else []) ++ piece

theorem WellFormedFile.survives (hserde : serde.Lawful) {crashed : List UInt8}
    (h : WellFormedFile serde crashed) {value : V} (hkey : HasKey serde value key)
    : Survives serde crashed value key := by
  obtain ⟨later, result, happend, hlater, hmem⟩ := h.append hserde hkey
  refine ⟨later, result, happend, hlater.count hmem, ?_⟩
  intro first next hvalues
  rw [List.forall_mem_append, List.forall_mem_singleton] at hvalues
  obtain ⟨nextKey, hnext⟩ := hvalues.2
  obtain ⟨_, result, hresult, _⟩ := (hlater.run hserde hvalues.1).append hserde hnext
  exact ⟨result, congrArg Prod.snd hresult⟩

theorem prefix_append_cases {first rest written : List UInt8} (h : written <+: first ++ rest)
    : written <+: first ∨ ∃ piece, piece <+: rest ∧ written = first ++ piece := by
  cases List.prefix_or_prefix_of_prefix h (List.prefix_append first rest) with
  | inl hshort => exact .inl hshort
  | inr hlong =>
    obtain ⟨piece, rfl⟩ := hlong
    exact .inr ⟨piece, (List.prefix_append_right_inj first).mp h, rfl⟩

section

variable (hserde : serde.Lawful)
include hserde

variable {text : String}

theorem wellFormedFile_lead (h : WellFormed serde text)
    : WellFormedFile serde (Text.utf8Bytes text ++ Text.utf8Bytes (lead text)) := by
  rw [← Text.utf8Bytes_append]
  exact .of_text (wellFormed_lead hserde h)

theorem wellFormedFile_record {tail key : String} {value : V} (h : WellFormed serde text)
    (hkey : HasKey serde value key) (hnew : key ∉ keysOf serde (TextFile.lines text))
    (htail : tail = "" ∨ tail = "\n")
    : WellFormedFile serde (Text.utf8Bytes text ++ (Text.utf8Bytes (lead text)
        ++ (Text.utf8Bytes (serde.render value) ++ Text.utf8Bytes tail))) := by
  have hrecord := (wellFormed_record hserde h hkey.1 hnew htail).1
  simpa only [Text.utf8Bytes_append, List.append_assoc] using WellFormedFile.of_text hrecord

theorem wellFormedFile_of_cut {key : String} {value : V} {written : List UInt8}
    (h : WellFormed serde text) (hkey : HasKey serde value key)
    (hnew : key ∉ keysOf serde (TextFile.lines text))
    (hwritten : written <+: Text.utf8Bytes (lead text) ++ Text.utf8Bytes (serde.render value)
      ++ [TextFile.newline])
    (htorn : ¬TornRecord serde (Text.utf8Bytes text) value (Text.utf8Bytes text ++ written))
    : WellFormedFile serde (Text.utf8Bytes text ++ written) := by
  have hstart : WellFormedFile serde (Text.utf8Bytes text ++ []) := by
    rw [List.append_nil]
    exact .of_text h
  rw [List.prefix_concat_iff] at hwritten
  cases hwritten with
  | inl hall =>
    have hrecord := wellFormedFile_record hserde h hkey hnew (.inr rfl)
    rw [TextFile.utf8Bytes_newline] at hrecord
    rw [hall, List.append_assoc]
    exact hrecord
  | inr hwritten =>
    cases prefix_append_cases hwritten with
    | inl hlead =>
      -- the leading newline is one byte, if there is one
      have hcases : written = [] ∨ written = Text.utf8Bytes (lead text) := by
        by_cases hlast : text.toList.getLast?.any (· ≠ '\n')
        . have hbytes : Text.utf8Bytes (lead text) = [TextFile.newline] := by
            rw [lead, if_pos hlast, TextFile.utf8Bytes_newline]
          rw [hbytes] at hlead ⊢
          rw [List.prefix_cons_iff] at hlead
          simpa using hlead
        . rw [lead, if_neg hlast] at hlead
          exact .inl (List.prefix_nil.mp hlead)
      cases hcases with
      | inl hnil =>
        rw [hnil]
        exact hstart
      | inr hclosed =>
        rw [hclosed]
        exact wellFormedFile_lead hserde h
    | inr hpiece =>
      obtain ⟨piece, hpiece, rfl⟩ := hpiece
      by_cases hnil : piece = []
      . rw [hnil, List.append_nil]
        exact wellFormedFile_lead hserde h
      . by_cases hfull : piece = Text.utf8Bytes (serde.render value)
        . have hrecord := wellFormedFile_record hserde h hkey hnew (.inl rfl)
          rw [hfull]
          simpa [Text.utf8Bytes] using hrecord
        . exfalso
          apply htorn
          refine ⟨piece, hpiece, hnil, hfull, ?_⟩
          rw [utf8Bytes_lead, List.append_assoc]

theorem append_of_torn {value : V} {crashed : List UInt8} (h : WellFormed serde text)
    (hobject : serde.IsObject value) (htorn : TornRecord serde (Text.utf8Bytes text) value crashed)
    {other : V} {key : String} (hkey : HasKey serde other key)
    (hnew : key ∉ keysOf serde (TextFile.lines text))
    : ∃ e, appendJsonlValueOnceByEventKey serde crashed other = (crashed, .error e)
        ∧ e.kind = .invalidData := by
  obtain ⟨bytes, hbytes, hnil, hfull, rfl⟩ := htorn
  rw [utf8Bytes_lead, ← Text.utf8Bytes_append]
  have hprepare : ∃ e, prepareAppendOnce serde (Text.utf8Bytes (text ++ lead text) ++ bytes) other
      = .error e ∧ e.kind = .invalidData := by
    cases hdecode : TextFile.decode (Text.utf8Bytes (text ++ lead text) ++ bytes) with
    | none =>
      unfold prepareAppendOnce
      rw [hdecode, hkey.1, Option.filter_some, if_pos (by simpa using hkey.2)]
      exact ⟨_, rfl, rfl⟩
    | some torn =>
      obtain ⟨piece, rfl, rfl, hpiece⟩ := TextFile.decode_append_isPrefix hbytes hdecode
      have hne : piece ≠ "" := by
        rintro rfl
        exact hnil rfl
      have hline : TextFile.lines piece = [piece] := by
        apply TextFile.lines_of_notMem _ hne
        intro hmem
        exact (hserde.noControl value _ (hpiece.subset hmem)).1 rfl
      obtain ⟨error, herror⟩ := hserde.parse_cut value hobject piece hpiece
        (fun hsame => hfull (by rw [hsame]))
      obtain ⟨hreadable, hkeys⟩ := lines_lead hserde h
      obtain ⟨e, hscan, hkind⟩ := scan_of_malformed 0 hreadable (hkeys ▸ hnew)
        (not_isBlank_of_brace hserde hobject hpiece hne) herror
      rw [← Text.utf8Bytes_append, prepareAppendOnce_eq hkey, lines_lead_append, hline, hscan]
      exact ⟨e, rfl, hkind⟩
  obtain ⟨e, hprepare, hkind⟩ := hprepare
  unfold appendJsonlValueOnceByEventKey
  rw [hprepare]
  exact ⟨e, rfl, hkind⟩

end

/-
A call on a well-formed ledger that stops at any byte of its writes. When the record is there whole
or not at all, the repeated call and all later ones succeed, and the key stands on one row. When the
record is torn, every call with a key that has no row fails closed and leaves the file as it is.
-/
theorem append_once_after_crash (hserde : serde.Lawful) {file : List UInt8}
    (hfile : WellFormedFile serde file) {value : V} {key : String} (hkey : HasKey serde value key)
    {crashed : List UInt8} (hcrashed : CrashedAppend serde file value crashed)
    : (¬TornRecord serde file value crashed → Survives serde crashed value key)
      ∧ (TornRecord serde file value crashed →
        ∀ other otherKey, HasKey serde other otherKey → otherKey ∉ fileKeys serde file
          → ∃ e, appendJsonlValueOnceByEventKey serde crashed other = (crashed, .error e)
            ∧ e.kind = .invalidData) := by
  obtain ⟨text, htext, hform⟩ := hfile
  rw [TextFile.decode_eq_some] at htext
  subst htext
  rw [fileKeys_utf8Bytes]
  constructor
  . intro htorn
    apply WellFormedFile.survives hserde _ hkey
    unfold CrashedAppend at hcrashed
    rw [prepareAppendOnce_of_wellFormed hform hkey] at hcrashed
    by_cases hold : key ∈ keysOf serde (TextFile.lines text)
    . rw [if_pos hold] at hcrashed
      dsimp only at hcrashed
      rw [hcrashed]
      exact .of_text hform
    . rw [if_neg hold] at hcrashed
      obtain ⟨written, hwritten, rfl⟩ := hcrashed
      exact wellFormedFile_of_cut hserde hform hkey hold hwritten htorn
  . intro htorn other otherKey hother hnew
    exact append_of_torn hserde hform (isObject_of_eventKey hkey.1) htorn hother hnew

def sampleRender (value : Bool) : String :=
  String.ofList ("\x7b\"eventKey\":\"".toList ++ [if value then 'a' else 'b'] ++ "\"\x7d".toList)

def sampleSerde : Serde Bool where
  parse text :=
    if text = sampleRender true then .ok true
    else if text = sampleRender false then .ok false
    else .error "EOF while parsing a value"
  render := sampleRender
  stringField value name :=
    if name = "eventKey" then some (if value then "a" else "b") else none

theorem sampleRender_plain (value : Bool)
    : (sampleRender value).toList.all fun ch => ch ≠ '\n' && ch ≠ '\r' := by
  cases value with
  | true => decide
  | false => decide

theorem sampleSerde_parse {value : Bool}
    : sampleSerde.parse text = .ok value ↔ text = sampleRender value := by
  have hdiffer : sampleRender true ≠ sampleRender false := by decide
  unfold sampleSerde
  dsimp only
  split
  . next htrue =>
    cases value with
    | true => simp [htrue]
    | false => simp [htrue, hdiffer]
  . next htrue =>
    split
    . next hfalse =>
      cases value with
      | true => simp [hfalse, hdiffer.symm]
      | false => simp [hfalse]
    . next hfalse =>
      cases value with
      | true => simp [htrue]
      | false => simp [hfalse]

theorem sampleSerde_lawful : sampleSerde.Lawful where
  parse_render value := ⟨value, sampleSerde_parse.mpr rfl, rfl⟩
  noControl value ch hch := by
    have hplain := List.all_eq_true.mp (sampleRender_plain value) ch hch
    simpa using hplain
  brace value _ := by
    cases value with
    | true => rfl
    | false => rfl
  parse_cut value _ text htext hcut := by
    cases hparse : sampleSerde.parse text with
    | error e => exact ⟨e, rfl⟩
    | ok read =>
      have hread := sampleSerde_parse.mp hparse
      have hlength : ∀ value, (sampleRender value).toList.length = 16 := by decide
      exfalso
      apply hcut
      rw [← String.toList_inj]
      apply htext.eq_of_length
      rw [hread, hlength]
      exact (hlength value).symm
  parse_cr text value hparse := by
    have hread := sampleSerde_parse.mp hparse
    have hstrip : String.ofList (TextFile.stripCr (sampleRender value).toList)
        = sampleRender value := by
      cases value with
      | true => decide
      | false => decide
    rw [hread, hstrip]
    exact sampleSerde_parse.mpr rfl

theorem sampleSerde_empty : WellFormed sampleSerde "" where
  readable line hline := by
    simp [TextFile.lines, TextFile.lines.go] at hline
  nodup := by
    simp [TextFile.lines, TextFile.lines.go, keysOf]

theorem sampleSerde_key : HasKey sampleSerde true "a" := ⟨rfl, by decide⟩

theorem sampleSerde_crashed {written : List UInt8}
    (h : written <+: Text.utf8Bytes (sampleRender true) ++ [TextFile.newline])
    : CrashedAppend sampleSerde (Text.utf8Bytes "") true written := by
  unfold CrashedAppend
  rw [prepareAppendOnce_of_wellFormed sampleSerde_empty sampleSerde_key]
  exact ⟨written, h, rfl⟩

theorem sampleSerde_survives
    : Survives sampleSerde (Text.utf8Bytes (sampleRender true)) true "a" := by
  have hcrashed := sampleSerde_crashed
    (List.prefix_append (Text.utf8Bytes (sampleRender true)) [TextFile.newline])
  apply (append_once_after_crash sampleSerde_lawful (.of_text sampleSerde_empty) sampleSerde_key
    hcrashed).1
  rintro ⟨piece, _, _, hpart, hwhole⟩
  exact hpart hwhole.symm

-- only the opening brace has reached the file
theorem sampleSerde_wedged
    : WellFormedFile sampleSerde [] ∧ HasKey sampleSerde true "a"
      ∧ CrashedAppend sampleSerde [] true [0x7b] ∧ ¬Survives sampleSerde [0x7b] true "a" := by
  have hcut : [0x7b] <+: Text.utf8Bytes (sampleRender true) := by decide
  refine ⟨.of_text sampleSerde_empty, sampleSerde_key,
    sampleSerde_crashed (hcut.trans (List.prefix_append _ _)), ?_⟩
  rintro ⟨later, result, happend, _⟩
  have htorn : TornRecord sampleSerde (Text.utf8Bytes "") true [0x7b] :=
    ⟨[0x7b], hcut, by decide, by decide, by decide⟩
  obtain ⟨e, herror, _⟩ := append_of_torn sampleSerde_lawful sampleSerde_empty
    (isObject_of_eventKey sampleSerde_key.1) htorn sampleSerde_key (by simp [TextFile.lines, TextFile.lines.go, keysOf])
  cases (congrArg Prod.snd happend).symm.trans (congrArg Prod.snd herror)

end Logging
