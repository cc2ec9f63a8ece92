import AgentHarness.Lib.Io
import AgentHarness.Lib.Encoding
import Mathlib.Data.List.DropRight
import Mathlib.Data.List.ReduceOption
import Mathlib.Data.List.Sort

/-!
The redaction of credentials in texts. Two scanners over the bytes of a text find the ranges that hold a
credential: the values that are assigned to a sensitive key, and the credentials that are known by their
form.
-/

namespace Memory

open Text (slice utf8Bytes)

-- a slice at an offset inside a character
inductive Panic where
  | charBoundary
  deriving DecidableEq

abbrev Checked (α : Type) := Except Panic α

abbrev Range := Nat × Nat

def isAsciiWhitespace (b : UInt8) : Bool :=
  b = 0x20 || b = 0x09 || b = 0x0a || b = 0x0c || b = 0x0d

def isAsciiDigit (b : UInt8) : Bool :=
  0x30 ≤ b && b ≤ 0x39

def isAsciiAlphanumeric (b : UInt8) : Bool :=
  isAsciiDigit b || (0x41 ≤ b && b ≤ 0x5a) || (0x61 ≤ b && b ≤ 0x7a)

def toAsciiLowercase (b : UInt8) : UInt8 :=
  if 0x41 ≤ b && b ≤ 0x5a then b + 0x20 else b

-- `=` and `:`
def isSeparator (b : UInt8) : Bool :=
  b = 0x3d || b = 0x3a

def isQuote (b : UInt8) : Bool :=
  b = 0x27 || b = 0x22

-- letters, digits, `_` and `-`
def isKeyByte (b : UInt8) : Bool :=
  isAsciiAlphanumeric b || b = 0x5f || b = 0x2d

-- letters, digits and `_`
def isWordByte (b : UInt8) : Bool :=
  isAsciiAlphanumeric b || b = 0x5f

-- white space, quotes and the characters `,` `;` `)` `]` `}` `>`
def endsCredential (b : UInt8) : Bool :=
  isAsciiWhitespace b || isQuote b
    || b = 0x2c || b = 0x3b || b = 0x29 || b = 0x5d || b = 0x7d || b = 0x3e

def redactedMarker : String := "[redacted]"

-- the key in front of a separator: between quotes, or a word
def assignmentKeyBefore (text : String) (separator : Nat) : Checked (Option String) :=
  let bytes := utf8Bytes text
  let before := (bytes.take separator).rdropWhile isAsciiWhitespace
  match before.getLast? with
  | none => .ok none
  | some last =>
    if isQuote last then
      let content := before.dropLast
      if last ∈ content then
        let contentStart := (content.rdropWhile (· ≠ last)).length
        (Except.ofOption (slice text contentStart content.length) .charBoundary).map some
      else
        .ok none
    else
      let keyStart := (before.rdropWhile isKeyByte).length
      if keyStart < before.length then
        (Except.ofOption (slice text keyStart before.length) .charBoundary).map some
      else
        .ok none

def sensitiveSuffixes : List String := ["apikey", "password", "token", "secret"]

def isSensitiveAssignmentKey (key : String) : Bool :=
  let normalized := ((utf8Bytes key).filter isAsciiAlphanumeric).map toAsciiLowercase
  sensitiveSuffixes.any fun suffix => (utf8Bytes suffix).isSuffixOf normalized

def credentialValueEnd (bytes : List UInt8) (valueStart : Nat) : Nat :=
  valueStart + ((bytes.drop valueStart).takeWhile fun b => !endsCredential b).length

def skipWhitespace (bytes : List UInt8) (start : Nat) : Nat :=
  start + ((bytes.drop start).takeWhile isAsciiWhitespace).length

def assignmentValueAfter (bytes : List UInt8) (start : Nat) : Option Range :=
  let valueStart := skipWhitespace bytes start
  match (bytes[valueStart]?).filter isQuote with
  | some quote =>
    let valueStart := valueStart + 1
    let valueEnd := valueStart + ((bytes.drop valueStart).takeWhile (· ≠ quote)).length
    if valueStart < valueEnd then some (valueStart, valueEnd) else none
  | none =>
    let valueEnd := credentialValueEnd bytes valueStart
    if valueStart < valueEnd then some (valueStart, valueEnd) else none

-- the range that the byte at an offset redacts as a separator
def assignmentRange (text : String) (separator : Nat) : Checked (Option Range) :=
  let bytes := utf8Bytes text
  if !(bytes[separator]?).any isSeparator then
    .ok none
  else do
    match ← assignmentKeyBefore text separator with
    | none => return none
    | some key =>
      if isSensitiveAssignmentKey key then
        return assignmentValueAfter bytes (separator + 1)
      else
        return none

def startsAsciiCaseInsensitive (bytes : List UInt8) (start : Nat) (needle : String) : Bool :=
  let needle := utf8Bytes needle
  ((bytes.drop start).take needle.length).map toAsciiLowercase = needle.map toAsciiLowercase

def isWordStartBoundary (bytes : List UInt8) (index : Nat) : Bool :=
  index = 0 || (bytes[index - 1]?).all fun b => !isWordByte b

def isWordEndBoundary (bytes : List UInt8) (index : Nat) : Bool :=
  (bytes[index]?).all fun b => !isWordByte b

-- at least sixteen bytes, or a digit or one of `.` `-` `_`
def looksLikeBearerCredential (candidate : String) : Bool :=
  candidate.utf8ByteSize ≥ 16
    || (utf8Bytes candidate).any fun b => isAsciiDigit b || b = 0x2e || b = 0x2d || b = 0x5f

def bearerRange (text : String) (cursor : Nat) : Checked (Option Range) :=
  let bytes := utf8Bytes text
  let wordEnd := cursor + (utf8Bytes "bearer").length
  if startsAsciiCaseInsensitive bytes cursor "bearer" && isWordStartBoundary bytes cursor
      && isWordEndBoundary bytes wordEnd then
    let hadSeparator := (bytes[wordEnd]?).any isAsciiWhitespace
    let valueStart := skipWhitespace bytes wordEnd
    let valueEnd := credentialValueEnd bytes valueStart
    if hadSeparator then do
      let candidate ← Except.ofOption (slice text valueStart valueEnd) .charBoundary
      return if looksLikeBearerCredential candidate then some (valueStart, valueEnd) else none
    else
      .ok none
  else
    .ok none

def startsSecretKey (bytes : List UInt8) (cursor : Nat) : Bool :=
  ((utf8Bytes "sk-").isPrefixOf (bytes.drop cursor)
      || (utf8Bytes "sk_proj").isPrefixOf (bytes.drop cursor))
    && isWordStartBoundary bytes cursor

-- The scan goes on behind a secret key. Each step moves the cursor, so the length is enough fuel.
def scanCredentials (text : String) : Nat → Nat → Checked (List Range)
  | 0, _ => .ok []
  | fuel + 1, cursor =>
    let bytes := utf8Bytes text
    if cursor < bytes.length then do
      let bearer ← bearerRange text cursor
      if startsSecretKey bytes cursor then
        let valueEnd := credentialValueEnd bytes cursor
        return bearer.toList ++ (cursor, valueEnd) :: (← scanCredentials text fuel valueEnd)
      else
        return bearer.toList ++ (← scanCredentials text fuel (cursor + 1))
    else
      .ok []

def Range.le (left right : Range) : Prop :=
  left.1 < right.1 ∨ left.1 = right.1 ∧ left.2 ≤ right.2

instance : DecidableRel Range.le := fun left right =>
  inferInstanceAs (Decidable (left.1 < right.1 ∨ left.1 = right.1 ∧ left.2 ≤ right.2))

-- ranges in order are joined where they overlap or touch
def mergeRanges : List Range → List Range
  | [] => []
  | first :: rest => go first rest
where
  go (current : Range) : List Range → List Range
    | [] => [current]
    | next :: rest =>
      if next.1 ≤ current.2 then
        go (current.1, max current.2 next.2) rest
      else
        current :: go next rest

def copyAround (text : String) (copiedTo : Nat) : List Range → Checked String
  | [] => .ofOption (slice text copiedTo text.utf8ByteSize) .charBoundary
  | (start, stop) :: rest => do
    let kept ← .ofOption (slice text copiedTo start) .charBoundary
    let more ← copyAround text stop rest
    return kept ++ redactedMarker ++ more

def replaceSensitiveRanges (text : String) (ranges : List Range) : Checked String :=
  let ranges := ranges.filter fun range => range.1 < range.2 && range.2 ≤ text.utf8ByteSize
  copyAround text 0 (mergeRanges (ranges.insertionSort Range.le))

def redactSensitive (text : String) : Checked String := do
  let bytes := utf8Bytes text
  let assignments ← (List.range bytes.length).mapM (assignmentRange text)
  let credentials ← scanCredentials text bytes.length 0
  replaceSensitiveRanges text (assignments.reduceOption ++ credentials)

end Memory
