import Mathlib.Data.List.Forall2
import Mathlib.Data.List.TakeWhile
import AgentHarness.Lib.Encoding

/-!
Text files as their bytes: the text that they decode to, its lines, and the byte that has to come
before a line which is appended to a file that was cut off.
-/

namespace TextFile

def newline : UInt8 := 0x0a

-- `String::from_utf8`
def decode (bytes : List UInt8) : Option String :=
  String.fromUTF8? bytes.toByteArray

def stripCr (line : List Char) : List Char :=
  if line.getLast? = some '\r' then line.dropLast else line

-- `str::lines`
def lines (text : String) : List String :=
  (go [] text.toList).map String.ofList
where
  go (line : List Char) : List Char → List (List Char)
    | [] => if line = [] then [] else [line]
    | ch :: rest =>
      if ch = '\n' then
        stripCr line :: go [] rest
      else
        go (line ++ [ch]) rest

def isBlank (line : String) : Bool :=
  Text.trim line = ""

-- `jsonl_needs_leading_newline`
def needsLeadingNewline (bytes : List UInt8) : Bool :=
  bytes.getLast?.any (· ≠ newline)

variable {text : String} {line rest : List Char}

theorem decode_eq_some {bytes : List UInt8}
    : decode bytes = some text ↔ bytes = Text.utf8Bytes text := by
  unfold decode String.fromUTF8?
  constructor
  . intro h
    split at h
    . next hvalid =>
      obtain rfl : String.fromUTF8 bytes.toByteArray hvalid = text := by simpa using h
      rw [← List.toByteArray_inj, Text.toByteArray_utf8Bytes]
      rfl
    . cases h
  . intro h
    have hbytes : bytes.toByteArray = text.toByteArray := by
      rw [h, Text.toByteArray_utf8Bytes]
    have hvalid : bytes.toByteArray.IsValidUTF8 := by
      rw [hbytes]
      exact text.isValidUTF8
    rw [dif_pos hvalid, Option.some.injEq, ← String.toByteArray_inj, ← hbytes]
    rfl

theorem isPrefix_of_utf8Bytes {left right : String}
    (h : Text.utf8Bytes left <+: Text.utf8Bytes right)
    : left.toList <+: right.toList := by
  obtain ⟨rest, h⟩ := h
  apply List.isPrefix_of_utf8Encode_append_eq_utf8Encode rest.toByteArray
  rw [String.utf8Encode_toList, String.utf8Encode_toList, ← Text.toByteArray_utf8Bytes,
    ← Text.toByteArray_utf8Bytes, ← h, List.toByteArray_append]

theorem decode_append_isPrefix {first next : String} {bytes : List UInt8}
    (hbytes : bytes <+: Text.utf8Bytes next)
    (h : decode (Text.utf8Bytes first ++ bytes) = some text)
    : ∃ piece : String, text = first ++ piece ∧ bytes = Text.utf8Bytes piece
        ∧ piece.toList <+: next.toList := by
  rw [decode_eq_some] at h
  obtain ⟨rest, hrest⟩ := isPrefix_of_utf8Bytes (h ▸ List.prefix_append _ bytes)
  obtain rfl : first ++ String.ofList rest = text := by
    rw [← String.toList_inj]
    simpa using hrest
  rw [Text.utf8Bytes_append, List.append_cancel_left_eq] at h
  subst h
  exact ⟨String.ofList rest, rfl, rfl, isPrefix_of_utf8Bytes hbytes⟩

theorem isBlank_iff {line : String} : isBlank line ↔ ∀ ch ∈ line.toList, Text.isWhitespace ch := by
  unfold isBlank Text.trim
  rw [decide_eq_true_eq, ← String.toList_inj, String.toList_ofList, ← List.dropWhile_eq_nil_iff]
  show List.reverse _ = [] ↔ _
  rw [List.reverse_eq_nil_iff, List.dropWhile_eq_nil_iff]
  constructor
  . intro h
    cases hrest : line.toList.dropWhile Text.isWhitespace with
    | nil => rfl
    | cons ch rest =>
      have hhead := List.head?_dropWhile_not Text.isWhitespace line.toList
      rw [hrest] at h hhead
      have hspace := h ch (by simp)
      simp [hspace] at hhead
  . intro h
    simp [h]

theorem isBlank_stripCr (line : String)
    : isBlank (String.ofList (stripCr line.toList)) = isBlank line := by
  rw [Bool.eq_iff_iff, isBlank_iff, isBlank_iff, String.toList_ofList]
  unfold stripCr
  split
  . next hlast =>
    have hline := List.dropLast_append_getLast? '\r' hlast
    have hspace : Text.isWhitespace '\r' := by decide
    rw [← hline, List.dropLast_concat, List.forall_mem_append, List.forall_mem_singleton]
    exact (and_iff_left hspace).symm
  . rfl

theorem go_append_newline (line first rest : List Char)
    : lines.go line (first ++ '\n' :: rest)
        = lines.go line (first ++ ['\n']) ++ lines.go [] rest := by
  induction first generalizing line with
  | nil => simp [lines.go]
  | cons ch first ih =>
    rw [List.cons_append, List.cons_append, lines.go, lines.go]
    split
    . rw [ih, List.cons_append]
    . rw [ih]

theorem go_of_notMem (h : '\n' ∉ rest)
    : lines.go line rest = if line ++ rest = [] then [] else [line ++ rest] := by
  induction rest generalizing line with
  | nil => simp [lines.go]
  | cons ch rest ih =>
    rw [List.mem_cons, not_or] at h
    rw [lines.go, if_neg (Ne.symm h.1), ih h.2]
    simp

theorem go_concat_newline (h : '\n' ∉ rest)
    : lines.go line (rest ++ ['\n']) = [stripCr (line ++ rest)] := by
  induction rest generalizing line with
  | nil => simp [lines.go]
  | cons ch rest ih =>
    rw [List.mem_cons, not_or] at h
    rw [List.cons_append, lines.go, if_neg (Ne.symm h.1), ih h.2]
    simp

theorem lines_append_newline (first rest : String)
    : lines (first ++ "\n" ++ rest) = lines (first ++ "\n") ++ lines rest := by
  have htext : (first ++ "\n" ++ rest).toList = first.toList ++ '\n' :: rest.toList := by simp
  unfold lines
  rw [← List.map_append, htext, go_append_newline, String.toList_append]
  rfl

theorem lines_of_notMem (h : '\n' ∉ text.toList) (hne : text ≠ "")
    : lines text = [text] := by
  unfold lines
  rw [go_of_notMem h, if_neg]
  . simp
  . intro hnil
    apply hne
    rw [← String.toList_inj]
    exact hnil

theorem go_closed (h : (line ++ rest).getLast?.any (· ≠ '\n'))
    : List.Forall₂ (fun before after => after = before ∨ after = stripCr before)
        (lines.go line rest) (lines.go line (rest ++ ['\n'])) := by
  induction rest generalizing line with
  | nil =>
    have hne : line ≠ [] := by
      rintro rfl
      simp at h
    simp [lines.go, hne]
  | cons ch rest ih =>
    rw [List.cons_append, lines.go, lines.go]
    split
    . next hch =>
      subst hch
      refine .cons (.inl rfl) (ih ?_)
      cases rest with
      | nil => simp at h
      | cons next rest => simpa [List.getLast?_append, List.getLast?_cons] using h
    . apply ih
      simpa using h

theorem lines_closed (h : text.toList.getLast?.any (· ≠ '\n'))
    : List.Forall₂ (fun before after : String =>
          after = before ∨ after = String.ofList (stripCr before.toList))
        (lines text) (lines (text ++ "\n")) := by
  have hclosed := @go_closed [] text.toList h
  unfold lines
  rw [List.forall₂_map_left_iff, List.forall₂_map_right_iff, String.toList_append]
  apply hclosed.imp
  intro before after hline
  cases hline with
  | inl hsame => exact .inl (by rw [hsame])
  | inr hstrip => exact .inr (by simp [hstrip])

theorem newline_mem_utf8EncodeChar {ch : Char}
    : newline ∈ String.utf8EncodeChar ch ↔ ch = '\n' := by
  have hbyte : ∀ n, newline = UInt8.ofNat n ↔ n % 256 = 10 := by
    intro n
    rw [← UInt8.toNat_inj, UInt8.toNat_ofNat', newline, eq_comm]
    rfl
  have hval : ch = '\n' ↔ ch.val.toNat = 10 := by
    rw [← Char.toNat_inj]
    rfl
  unfold String.utf8EncodeChar
  dsimp only
  rw [hval]
  split
  . simp only [List.mem_singleton, hbyte]
    omega
  . split
    . simp only [List.mem_cons, List.not_mem_nil, or_false, hbyte]
      omega
    . split
      . simp only [List.mem_cons, List.not_mem_nil, or_false, hbyte]
        omega
      . simp only [List.mem_cons, List.not_mem_nil, or_false, hbyte]
        omega

theorem newline_mem_utf8Bytes
    : newline ∈ Text.utf8Bytes text ↔ '\n' ∈ text.toList := by
  unfold Text.utf8Bytes
  simp only [List.mem_flatMap, newline_mem_utf8EncodeChar]
  constructor
  . rintro ⟨ch, hch, rfl⟩
    exact hch
  . intro h
    exact ⟨'\n', h, rfl⟩

theorem utf8Bytes_newline : Text.utf8Bytes "\n" = [newline] := by
  decide

theorem needsLeadingNewline_utf8Bytes (text : String)
    : needsLeadingNewline (Text.utf8Bytes text) = text.toList.getLast?.any (· ≠ '\n') := by
  unfold needsLeadingNewline Text.utf8Bytes
  cases text.toList using List.reverseRecOn with
  | nil => rfl
  | append_singleton first ch =>
    have hne : String.utf8EncodeChar ch ≠ [] := by
      intro hnil
      have hlength := String.length_utf8EncodeChar ch
      have hpos := ch.utf8Size_pos
      rw [hnil, List.length_nil] at hlength
      omega
    have hlast := List.getLast?_eq_some_getLast hne
    rw [List.flatMap_append, List.flatMap_singleton, List.getLast?_append, hlast,
      List.getLast?_concat]
    simp only [Option.some_or, Option.any_some, decide_eq_decide]
    by_cases hch : ch = '\n'
    . subst hch
      decide +revert
    . have hnewline : newline ∉ String.utf8EncodeChar ch := by
        rw [newline_mem_utf8EncodeChar]
        exact hch
      apply iff_of_true _ hch
      intro hsame
      exact hnewline (hsame ▸ List.getLast_mem hne)

end TextFile

/-!
A text that was written line by line: its lines are those that were written, and a byte string
between two of its newlines is a line as well.
-/

namespace TextFile

def IsLine (line : String) : Prop :=
  '\n' ∉ line.toList ∧ line.toList.getLast? ≠ some '\r'

def joinLines (lines : List String) : String :=
  String.ofList (lines.flatMap fun line => line.toList ++ ['\n'])

def lineBytes (line : String) : List UInt8 :=
  Text.utf8Bytes line ++ [newline]

theorem joinLines_cons (line : String) (rest : List String)
    : joinLines (line :: rest) = line ++ "\n" ++ joinLines rest := by
  unfold joinLines
  rw [← String.toList_inj]
  simp

theorem joinLines_append (first rest : List String)
    : joinLines (first ++ rest) = joinLines first ++ joinLines rest := by
  unfold joinLines
  rw [List.flatMap_append, String.ofList_append]

theorem utf8Bytes_joinLines (lines : List String)
    : Text.utf8Bytes (joinLines lines) = lines.flatMap lineBytes := by
  induction lines with
  | nil => rfl
  | cons line rest ih =>
    rw [joinLines_cons, Text.utf8Bytes_append, Text.utf8Bytes_append, utf8Bytes_newline, ih]
    rfl

theorem lines_closed_line {line : String} (h : IsLine line) : lines (line ++ "\n") = [line] := by
  have hstrip : stripCr line.toList = line.toList := by
    unfold stripCr
    exact if_neg h.2
  unfold lines
  rw [String.toList_append]
  show List.map _ (lines.go [] (line.toList ++ ['\n'])) = _
  rw [go_concat_newline h.1, List.nil_append, hstrip]
  simp

theorem lines_joinLines {list : List String} (h : ∀ line ∈ list, IsLine line)
    : lines (joinLines list) = list := by
  induction list with
  | nil => rfl
  | cons line rest ih =>
    rw [List.forall_mem_cons] at h
    rw [joinLines_cons, lines_append_newline, lines_closed_line h.1, ih h.2]
    rfl

theorem needsLeadingNewline_joinLines (list : List String)
    : needsLeadingNewline (Text.utf8Bytes (joinLines list)) = false := by
  rw [needsLeadingNewline_utf8Bytes]
  cases list using List.reverseRecOn with
  | nil => rfl
  | append_singleton first line =>
    simp [joinLines]

theorem decode_between {first rest : List String} {bytes : List UInt8} {text : String}
    (h : decode (first.flatMap lineBytes ++ bytes ++ newline :: rest.flatMap lineBytes) = some text)
    : ∃ line, bytes = Text.utf8Bytes line ∧ text = joinLines (first ++ line :: rest) := by
  rw [decode_eq_some] at h
  have hencode : Text.encode text.toList
      = (first.flatMap lineBytes ++ bytes) ++ newline :: rest.flatMap lineBytes := h.symm
  have hascii : Text.IsAscii newline := by decide
  obtain ⟨before, _, hsplit, hbefore, _⟩ :=
    Text.split_of_encode hencode (by rintro _ ⟨⟩; exact hascii.isUTF8FirstByte)
  have hdecode : decode (Text.utf8Bytes (joinLines first) ++ bytes)
      = some (String.ofList before) := by
    rw [decode_eq_some, utf8Bytes_joinLines, Text.utf8Bytes_ofList, hbefore]
  have hstart : (joinLines first).toList <+: before := by
    have hpart : Text.utf8Bytes (joinLines first) <+: Text.utf8Bytes (String.ofList before) := by
      rw [← decode_eq_some.mp hdecode]
      exact List.prefix_append _ _
    simpa using isPrefix_of_utf8Bytes hpart
  obtain ⟨more, hmore⟩ := hstart
  have hbytes : bytes = Text.utf8Bytes (String.ofList more) := by
    have hcut := hbefore
    rw [← hmore, Text.encode_append, Text.encode_toList, utf8Bytes_joinLines,
      List.append_cancel_left_eq] at hcut
    rw [Text.utf8Bytes_ofList, hcut]
  refine ⟨String.ofList more, hbytes, ?_⟩
  apply Text.utf8Bytes_injective
  rw [← h, utf8Bytes_joinLines, hbytes]
  simp [lineBytes]

end TextFile

/-!
The JSON library that the programs use, as a parameter: how a value is written on one line and read
back from it. What the proofs rely on is stated as a structure.
-/

structure Serde (V : Type u) where
  -- `serde_json::from_str`
  parse : String → Except String V
  -- `serde_json::to_string`, without white space between the tokens
  render : V → String
  -- `value.get(name).and_then(Value::as_str)`
  stringField : V → String → Option String

namespace Serde

variable {V : Type u}

def IsObject (serde : Serde V) (value : V) : Prop :=
  ∃ name text, serde.stringField value name = some text

structure Lawful (serde : Serde V) : Prop where
  -- what was written is read back, up to the rounding of numbers
  parse_render : ∀ value, ∃ read, serde.parse (serde.render value) = .ok read
    ∧ serde.stringField read = serde.stringField value
  -- control characters are escaped
  noControl : ∀ value, ∀ ch ∈ (serde.render value).toList, ch ≠ '\n' ∧ ch ≠ '\r'
  brace : ∀ value, serde.IsObject value → (serde.render value).toList.head? = some '{'
  -- the closing brace is the last character, and nothing that lacks it is accepted
  parse_cut : ∀ value, serde.IsObject value → ∀ text,
    text.toList <+: (serde.render value).toList → text ≠ serde.render value
    → ∃ e, serde.parse text = .error e
  -- white space after the value is skipped
  parse_cr : ∀ text value, serde.parse text = .ok value
    → serde.parse (String.ofList (TextFile.stripCr text.toList)) = .ok value

end Serde
