import Mathlib.Data.List.Infix
import Mathlib.Algebra.Group.Int.Defs
import Mathlib.Algebra.Group.Nat.Defs

/-!
The string operations of the programs, over the characters of a string.
-/

namespace Text

def mapChars (f : Char → Char) (s : String) : String :=
  String.ofList (s.toList.map f)

def isControl (ch : Char) : Bool :=
  ch.toNat < 0x20 || (0x7f ≤ ch.toNat && ch.toNat ≤ 0x9f)

def isWhitespace (ch : Char) : Bool :=
  (0x09 ≤ ch.toNat && ch.toNat ≤ 0x0d)
    || ch.toNat = 0x20
    || ch.toNat = 0x85
    || ch.toNat = 0xa0
    || ch.toNat = 0x1680
    || (0x2000 ≤ ch.toNat && ch.toNat ≤ 0x200a)
    || ch.toNat = 0x2028
    || ch.toNat = 0x2029
    || ch.toNat = 0x202f
    || ch.toNat = 0x205f
    || ch.toNat = 0x3000

def trim (s : String) : String :=
  String.ofList
    ((s.toList.dropWhile isWhitespace).reverse.dropWhile isWhitespace).reverse

def splitWhitespace (s : String) : List (List Char) :=
  go [] s.toList
where
  go (word : List Char) : List Char → List (List Char)
    | [] => if word = [] then [] else [word.reverse]
    | ch :: rest =>
      if isWhitespace ch then
        if word = [] then go [] rest else word.reverse :: go [] rest
      else
        go (ch :: word) rest

def joinSpace (words : List (List Char)) : List Char :=
  List.intercalate [' '] words

def dropLead (lead s : String) : Option String :=
  if lead.toList.isPrefixOf s.toList then
    some (String.ofList (s.toList.drop lead.toList.length))
  else
    none

def startsWith (lead s : String) : Bool :=
  lead.toList.isPrefixOf s.toList

def endsWith (tail s : String) : Bool :=
  tail.toList.isSuffixOf s.toList

-- `str::strip_suffix`
def dropTail (tail s : String) : Option String :=
  if endsWith tail s then
    some (String.ofList (s.toList.take (s.toList.length - tail.toList.length)))
  else
    none

-- `str::rsplit_once`: the parts around the last occurrence of the separator
def rsplitOnce (separator s : String) : Option (String × String) :=
  (go s.toList).map fun parts => (String.ofList parts.1, String.ofList parts.2)
where
  go : List Char → Option (List Char × List Char)
    | [] => none
    | ch :: rest =>
      match go rest with
      | some (left, right) => some (ch :: left, right)
      | none =>
        if separator.toList.isPrefixOf (ch :: rest) then
          some ([], (ch :: rest).drop separator.toList.length)
        else
          none

def splitOn (separator : Char) (s : String) : List String :=
  (s.toList.splitOn separator).map String.ofList

def contains (s needle : String) : Bool :=
  decide (needle.toList <:+: s.toList)

def toAsciiLowercase (s : String) : String :=
  mapChars Char.toLower s

def eqIgnoreAsciiCase (left right : String) : Bool :=
  toAsciiLowercase left = toAsciiLowercase right

def isAsciiHexdigit (ch : Char) : Bool :=
  ch.isDigit || ('a' ≤ ch && ch ≤ 'f') || ('A' ≤ ch && ch ≤ 'F')

def isLowerHexdigit (ch : Char) : Bool :=
  ch.isDigit || ('a' ≤ ch && ch ≤ 'f')

def isAsciiGraphic (ch : Char) : Bool :=
  0x21 ≤ ch.toNat && ch.toNat ≤ 0x7e

-- The order of `str`: bytes of the encoding and code points compare alike.
def le (left right : String) : Prop := ¬right < left

instance : DecidableRel le := fun left right => inferInstanceAs (Decidable (¬right < left))

def utf8Bytes (s : String) : List UInt8 :=
  s.toList.flatMap String.utf8EncodeChar

def hexDigit (n : Nat) : Char :=
  if n < 10 then Char.ofNat ('0'.toNat + n) else Char.ofNat ('a'.toNat + (n - 10))

def hex (bytes : List UInt8) : String :=
  String.ofList (bytes.flatMap fun byte => [hexDigit (byte.toNat / 16), hexDigit (byte.toNat % 16)])

-- the value of a string of ASCII digits
def digitsValue (digits : List Char) : Nat :=
  digits.foldl (fun value ch => value * 10 + (ch.toNat - '0'.toNat)) 0

-- `str::parse::<i64>`
def parseI64 (s : String) : Option Int :=
  match s.toList with
  | '-' :: digits => parse digits (fun value => -value)
  | '+' :: digits => parse digits id
  | digits => parse digits id
where
  parse (digits : List Char) (sign : Int → Int) : Option Int :=
    let value := sign (digitsValue digits)
    if digits = [] || !digits.all Char.isDigit then
      none
    else if -2 ^ 63 ≤ value && value < 2 ^ 63 then
      some value
    else
      none

-- `u64::to_be_bytes`
def u64BeBytes (n : Nat) : List UInt8 :=
  [56, 48, 40, 32, 24, 16, 8, 0].map fun shift => UInt8.ofNat (n / 2 ^ shift % 256)

-- a string in JSON, with the escapes of `serde_json`
def jsonString (s : String) : String :=
  String.ofList (['"'] ++ s.toList.flatMap escape ++ ['"'])
where
  escape (ch : Char) : List Char :=
    match ch.toNat with
    | 0x22 => ['\\', '"']
    | 0x5c => ['\\', '\\']
    | 0x08 => ['\\', 'b']
    | 0x09 => ['\\', 't']
    | 0x0a => ['\\', 'n']
    | 0x0c => ['\\', 'f']
    | 0x0d => ['\\', 'r']
    | code =>
      if code < 0x20 then
        ['\\', 'u', '0', '0', hexDigit (code / 16), hexDigit (code % 16)]
      else
        [ch]

def fnv1a (bytes : List UInt8) : UInt64 :=
  bytes.foldl (fun hash byte => (hash ^^^ byte.toUInt64) * 0x100000001b3) 0xcbf29ce484222325

-- `{:016x}`
def hex16 (n : UInt64) : String :=
  hex (u64BeBytes n.toNat)

-- an enumeration of the element type is no way to decide these
theorem forall_mem_of_all {α : Type} {p : α → Prop} [DecidablePred p] {l : List α}
    (h : l.all fun x => decide (p x))
    : ∀ x ∈ l, p x := by
  simpa using h

theorem forall_mem_of_all_option {α : Type} {p : α → Prop} [DecidablePred p] {o : Option α}
    (h : o.all fun x => decide (p x))
    : ∀ x ∈ o, p x := by
  cases o with
  | none => simp
  | some x => simpa using h

end Text
