import AgentHarness.Lib.Text

/-!
Byte encodings that can be read back: the UTF-8 bytes of a string, the big-endian word of a length,
the hexadecimal digits of a byte string, and lists of named components where every part stands
behind its length.
-/

namespace Text

theorem toByteArray_utf8Bytes (s : String) : (utf8Bytes s).toByteArray = s.toByteArray := by
  rw [← String.utf8Encode_toList]
  rfl

-- the kernel reads the stored bytes faster than it decodes the characters
theorem utf8Bytes_eq (s : String) : utf8Bytes s = s.toByteArray.data.toList := by
  rw [← toByteArray_utf8Bytes, List.toList_data_toByteArray]

theorem newline_not_mem {s : String} (h : (10 : UInt8) ∉ s.toByteArray.data.toList)
    : '\n' ∉ s.toList := by
  rw [← utf8Bytes_eq] at h
  intro hmem
  exact h (List.mem_flatMap.mpr ⟨'\n', hmem, by decide⟩)

theorem length_utf8Bytes (s : String) : (utf8Bytes s).length = s.utf8ByteSize := by
  rw [← String.size_toByteArray, ← toByteArray_utf8Bytes, List.size_toByteArray]

theorem utf8Bytes_injective : Function.Injective utf8Bytes := by
  intro left right h
  rw [← String.toByteArray_inj, ← toByteArray_utf8Bytes, ← toByteArray_utf8Bytes, h]

theorem length_u64BeBytes (n : Nat) : (u64BeBytes n).length = 8 := rfl

theorem ofNat_mod_inj {m n : Nat} (h : UInt8.ofNat (m % 256) = UInt8.ofNat (n % 256))
    : m % 256 = n % 256 := by
  have h := congrArg UInt8.toNat h
  simpa using h

theorem shift_eq_of_byte {m n shift : Nat} (hhigh : m / 2 ^ (shift + 8) = n / 2 ^ (shift + 8))
    (hbyte : UInt8.ofNat (m / 2 ^ shift % 256) = UInt8.ofNat (n / 2 ^ shift % 256))
    : m / 2 ^ shift = n / 2 ^ shift := by
  have hlow := ofNat_mod_inj hbyte
  rw [Nat.pow_add, ← Nat.div_div_eq_div_mul, ← Nat.div_div_eq_div_mul] at hhigh
  omega

theorem u64BeBytes_inj {m n : Nat} (hm : m < 2 ^ 64) (hn : n < 2 ^ 64)
    (h : u64BeBytes m = u64BeBytes n)
    : m = n := by
  simp only [u64BeBytes, List.map_cons, List.map_nil, List.cons.injEq, and_true] at h
  obtain ⟨h56, h48, h40, h32, h24, h16, h8, h0⟩ := h
  have h64 : m / 2 ^ 64 = n / 2 ^ 64 := by
    rw [Nat.div_eq_of_lt hm, Nat.div_eq_of_lt hn]
  have h56 := shift_eq_of_byte h64 h56
  have h48 := shift_eq_of_byte h56 h48
  have h40 := shift_eq_of_byte h48 h40
  have h32 := shift_eq_of_byte h40 h32
  have h24 := shift_eq_of_byte h32 h24
  have h16 := shift_eq_of_byte h24 h16
  have h8 := shift_eq_of_byte h16 h8
  simpa using shift_eq_of_byte h8 h0

theorem hexDigit_inj : ∀ m < 16, ∀ n < 16, hexDigit m = hexDigit n → m = n := by
  decide

theorem hex_injective : Function.Injective hex := by
  intro left right h
  replace h := String.ofList_injective h
  induction left generalizing right with
  | nil =>
    cases right with
    | nil => rfl
    | cons byte right => simp at h
  | cons byte left ih =>
    cases right with
    | nil => simp at h
    | cons other right =>
      simp only [List.flatMap_cons, List.cons_append, List.nil_append, List.cons.injEq] at h
      obtain ⟨hhigh, hlow, hrest⟩ := h
      have hbyte := byte.toNat_lt
      have hother := other.toNat_lt
      have hhigh := hexDigit_inj _ (by omega) _ (by omega) hhigh
      have hlow := hexDigit_inj _ (by omega) _ (by omega) hlow
      have hsame : byte = other := UInt8.toNat_inj.mp (by omega)
      rw [hsame, ih hrest]

theorem utf8ByteSize_hex_le (bytes : List UInt8) : (hex bytes).utf8ByteSize ≤ 8 * bytes.length := by
  rw [← length_utf8Bytes]
  unfold utf8Bytes hex
  rw [String.toList_ofList]
  induction bytes with
  | nil => simp
  | cons byte bytes ih =>
    have hhigh := Char.utf8Size_le_four (hexDigit (byte.toNat / 16))
    have hlow := Char.utf8Size_le_four (hexDigit (byte.toNat % 16))
    simp only [List.flatMap_cons, List.flatMap_append, List.flatMap_nil, List.length_append,
      List.append_nil, String.length_utf8EncodeChar, List.length_cons] at ih ⊢
    omega

def frame (bytes : List UInt8) : List UInt8 :=
  u64BeBytes bytes.length ++ bytes

theorem frame_append_inj {left right restLeft restRight : List UInt8}
    (hleft : left.length < 2 ^ 64) (hright : right.length < 2 ^ 64)
    (h : frame left ++ restLeft = frame right ++ restRight)
    : left = right ∧ restLeft = restRight := by
  unfold frame at h
  rw [List.append_assoc, List.append_assoc] at h
  obtain ⟨hword, hrest⟩ := List.append_inj h rfl
  have hlength := u64BeBytes_inj hleft hright hword
  exact List.append_inj hrest hlength

def component (name value : String) : List UInt8 :=
  frame (utf8Bytes name) ++ frame (utf8Bytes value)

def components (parts : List (String × String)) : List UInt8 :=
  parts.flatMap fun part => component part.1 part.2

def Framable (part : String × String) : Prop :=
  part.1.utf8ByteSize < 2 ^ 64 ∧ part.2.utf8ByteSize < 2 ^ 64

theorem framable_mk {name value : String} (hname : name.utf8ByteSize < 2 ^ 64)
    (hvalue : value.utf8ByteSize < 2 ^ 64)
    : Framable (name, value) :=
  ⟨hname, hvalue⟩

theorem component_append_inj {left right : String × String} {restLeft restRight : List UInt8}
    (hleft : Framable left) (hright : Framable right)
    (h : component left.1 left.2 ++ restLeft = component right.1 right.2 ++ restRight)
    : left = right ∧ restLeft = restRight := by
  unfold Framable at hleft hright
  simp only [← length_utf8Bytes] at hleft hright
  unfold component at h
  rw [List.append_assoc, List.append_assoc] at h
  obtain ⟨hname, h⟩ := frame_append_inj hleft.1 hright.1 h
  obtain ⟨hvalue, hrest⟩ := frame_append_inj hleft.2 hright.2 h
  exact ⟨Prod.ext (utf8Bytes_injective hname) (utf8Bytes_injective hvalue), hrest⟩

theorem component_ne_nil (name value : String) : component name value ≠ [] := by
  intro h
  have h := congrArg List.length h
  simp [component, frame, length_u64BeBytes] at h

theorem components_inj {left right : List (String × String)}
    (hleft : ∀ part ∈ left, Framable part) (hright : ∀ part ∈ right, Framable part)
    (h : components left = components right)
    : left = right := by
  unfold components at h
  induction left generalizing right with
  | nil =>
    cases right with
    | nil => rfl
    | cons part right => simp [component_ne_nil] at h
  | cons part left ih =>
    cases right with
    | nil => simp [component_ne_nil] at h
    | cons other right =>
      rw [List.forall_mem_cons] at hleft hright
      rw [List.flatMap_cons, List.flatMap_cons] at h
      obtain ⟨hpart, hrest⟩ := component_append_inj hleft.1 hright.1 h
      rw [hpart, ih hleft.2 hright.2 hrest]

end Text

/-!
Slices of a string by byte offsets. An offset is a boundary if the bytes before it encode whole
characters; next to an ASCII byte every offset is one.
-/

namespace Text

def encode (chars : List Char) : List UInt8 :=
  chars.flatMap String.utf8EncodeChar

def splitAtByte : Nat → List Char → Option (List Char × List Char)
  | 0, chars => some ([], chars)
  | _ + 1, [] => none
  | n + 1, ch :: rest =>
    if ch.utf8Size ≤ n + 1 then
      (splitAtByte (n + 1 - ch.utf8Size) rest).map fun parts => (ch :: parts.1, parts.2)
    else
      none

-- `str::is_char_boundary`
def isCharBoundary (s : String) (offset : Nat) : Bool :=
  (splitAtByte offset s.toList).isSome

-- `&s[start..stop]`, which panics at an offset that is no boundary
def slice (s : String) (start stop : Nat) : Option String := do
  let before ← splitAtByte stop s.toList
  let middle ← splitAtByte start before.1
  return String.ofList middle.2

theorem encode_toList (s : String) : encode s.toList = utf8Bytes s := rfl

theorem encode_append (left right : List Char) : encode (left ++ right) = encode left ++ encode right :=
  List.flatMap_append

theorem encode_cons (ch : Char) (chars : List Char)
    : encode (ch :: chars) = String.utf8EncodeChar ch ++ encode chars :=
  List.flatMap_cons

theorem utf8Bytes_append (left right : String)
    : utf8Bytes (left ++ right) = utf8Bytes left ++ utf8Bytes right := by
  unfold utf8Bytes
  rw [String.toList_append, List.flatMap_append]

theorem utf8Bytes_ofList (chars : List Char) : utf8Bytes (String.ofList chars) = encode chars := by
  rw [← encode_toList, String.toList_ofList]

section

variable {chars left right : List Char} {x y : List UInt8}

theorem splitAtByte_encode (left right : List Char)
    : splitAtByte (encode left).length (left ++ right) = some (left, right) := by
  induction left with
  | nil => simp [encode, splitAtByte]
  | cons ch left ih =>
    rw [encode_cons, List.length_append, String.length_utf8EncodeChar, List.cons_append]
    have hpos := ch.utf8Size_pos
    obtain ⟨n, hn⟩ : ∃ n, ch.utf8Size + (encode left).length = n + 1 :=
      Nat.exists_eq_add_one.mpr (by omega)
    rw [hn]
    unfold splitAtByte
    rw [if_pos (by omega), ← hn, Nat.add_sub_cancel_left, ih]
    rfl

theorem splitAtByte_eq_some {offset : Nat}
    (h : splitAtByte offset chars = some (left, right))
    : chars = left ++ right ∧ (encode left).length = offset := by
  induction chars generalizing offset left with
  | nil =>
    cases offset with
    | succ n => cases h
    | zero =>
      obtain ⟨rfl, rfl⟩ := Prod.mk.inj (Option.some.inj h)
      exact ⟨rfl, rfl⟩
  | cons ch rest ih =>
    cases offset with
    | zero =>
      obtain ⟨rfl, rfl⟩ := Prod.mk.inj (Option.some.inj h)
      exact ⟨rfl, rfl⟩
    | succ n =>
      unfold splitAtByte at h
      rw [Option.ite_none_right_eq_some, Option.map_eq_some_iff] at h
      obtain ⟨hfits, ⟨front, back⟩, hsplit, hparts⟩ := h
      obtain ⟨rfl, rfl⟩ := Prod.mk.inj hparts
      obtain ⟨rfl, hlength⟩ := ih hsplit
      refine ⟨rfl, ?_⟩
      rw [encode_cons, List.length_append, String.length_utf8EncodeChar, hlength]
      omega

theorem isUTF8FirstByte_of_mem_head {ch : Char} {b : UInt8} (h : encode (ch :: chars) = b :: y)
    : b.IsUTF8FirstByte := by
  have hpos : 0 < (String.utf8EncodeChar ch).length := by
    rw [String.length_utf8EncodeChar]
    exact ch.utf8Size_pos
  have hfirst : (String.utf8EncodeChar ch)[0].IsUTF8FirstByte :=
    UInt8.isUTF8FirstByte_getElem_utf8EncodeChar.mpr rfl
  cases hbytes : String.utf8EncodeChar ch with
  | nil => simp [hbytes] at hpos
  | cons first others =>
    rw [encode_cons, hbytes, List.cons_append] at h
    simp only [hbytes, List.getElem_cons_zero] at hfirst
    rwa [← (List.cons.inj h).1]

theorem split_of_encode (h : encode chars = x ++ y) (hy : ∀ b ∈ y.head?, b.IsUTF8FirstByte)
    : ∃ left right, chars = left ++ right ∧ encode left = x ∧ encode right = y := by
  induction chars generalizing x with
  | nil =>
    obtain ⟨rfl, rfl⟩ := List.append_eq_nil_iff.mp h.symm
    exact ⟨[], [], rfl, rfl, rfl⟩
  | cons ch rest ih =>
    rw [encode_cons, List.append_eq_append_iff] at h
    obtain ⟨more, rfl, hrest⟩ | ⟨inner, hchar, rfl⟩ := h
    . obtain ⟨left, right, rfl, rfl, rfl⟩ := ih hrest
      exact ⟨ch :: left, right, rfl, encode_cons ch left, rfl⟩
    . -- a cut inside the bytes of a character is in front of it or behind it
      cases inner with
      | nil =>
        rw [List.append_nil] at hchar
        refine ⟨[ch], rest, rfl, ?_, rfl⟩
        rw [encode_cons, hchar]
        exact List.append_nil x
      | cons b inner =>
        have hindex : x.length < (String.utf8EncodeChar ch).length := by
          rw [hchar]
          simp
        have hget : (String.utf8EncodeChar ch)[x.length] = b := by
          simp [hchar]
        have hfirst : (String.utf8EncodeChar ch)[x.length].IsUTF8FirstByte := by
          rw [hget]
          exact hy b rfl
        have hzero := UInt8.isUTF8FirstByte_getElem_utf8EncodeChar.mp hfirst
        obtain rfl := List.eq_nil_of_length_eq_zero hzero
        refine ⟨[], ch :: rest, rfl, rfl, ?_⟩
        rw [encode_cons, hchar, List.nil_append]

end

def IsAscii (b : UInt8) : Prop :=
  b < 0x80

instance (b : UInt8) : Decidable (IsAscii b) := inferInstanceAs (Decidable (b < 0x80))

theorem IsAscii.isUTF8FirstByte {b : UInt8} (h : IsAscii b) : b.IsUTF8FirstByte := by
  have hall : ∀ n < 0x80, (UInt8.ofNat n).IsUTF8FirstByte := by decide
  have hfirst := hall b.toNat (by simpa [IsAscii, UInt8.lt_iff_toNat_lt] using h)
  simpa using hfirst

theorem utf8EncodeChar_of_ascii {ch : Char} {b : UInt8} {more : List UInt8}
    (h : String.utf8EncodeChar ch = b :: more) (hb : IsAscii b)
    : more = [] := by
  -- the first of several bytes is at least 0xc0
  have hlead : ∀ lead width base : Nat, 0 < width → 0xc0 ≤ base → base + width ≤ 0x100
      → UInt8.ofNat (lead % width + base) = b → False := by
    rintro lead width base hwidth hbase hbound rfl
    have hlt := UInt8.lt_iff_toNat_lt.mp hb
    have hmod := Nat.mod_lt lead hwidth
    rw [UInt8.toNat_ofNat', Nat.mod_eq_of_lt (by omega)] at hlt
    change lead % width + base < 0x80 at hlt
    omega
  unfold String.utf8EncodeChar at h
  dsimp only at h
  split at h
  . exact (List.cons.inj h).2.symm
  . exfalso
    split at h
    . apply hlead _ _ _ _ _ _ (List.cons.inj h).1 <;> decide
    . split at h
      . apply hlead _ _ _ _ _ _ (List.cons.inj h).1 <;> decide
      . apply hlead _ _ _ _ _ _ (List.cons.inj h).1 <;> decide

theorem first_after_ascii {chars : List Char} {x y : List UInt8} {b : UInt8}
    (h : encode chars = x ++ b :: y) (hb : IsAscii b)
    : ∀ first ∈ y.head?, first.IsUTF8FirstByte := by
  obtain ⟨left, right, rfl, rfl, hright⟩ :=
    split_of_encode h (by rintro _ ⟨⟩; exact hb.isUTF8FirstByte)
  cases right with
  | nil => cases hright
  | cons ch right =>
    rw [encode_cons] at hright
    cases hbytes : String.utf8EncodeChar ch with
    | nil => exact absurd hbytes String.utf8EncodeChar_ne_nil
    | cons first others =>
      rw [hbytes, List.cons_append, List.cons.injEq] at hright
      obtain ⟨rfl, hy⟩ := hright
      obtain rfl := utf8EncodeChar_of_ascii hbytes hb
      rw [List.nil_append] at hy
      intro first hfirst
      cases right with
      | nil =>
        rw [← hy] at hfirst
        cases hfirst
      | cons ch right =>
        cases hy' : y with
        | nil => simp [hy'] at hfirst
        | cons b y =>
          obtain rfl : b = first := by simpa [hy'] using hfirst
          exact isUTF8FirstByte_of_mem_head (hy.trans hy')

def StartsWithChar (bytes : List UInt8) : Prop :=
  ∀ b ∈ bytes.head?, b.IsUTF8FirstByte

theorem startsWithChar_nil : StartsWithChar [] := by
  intro b hb
  cases hb

theorem startsWithChar_of_ascii {b : UInt8} (hb : IsAscii b) (bytes : List UInt8)
    : StartsWithChar (b :: bytes) := by
  rintro _ ⟨⟩
  exact hb.isUTF8FirstByte

theorem slice_eq_some {s : String} {x y z : List UInt8} (h : utf8Bytes s = x ++ y ++ z)
    (hy : StartsWithChar (y ++ z)) (hz : StartsWithChar z)
    : ∃ middle, slice s x.length (x.length + y.length) = some middle ∧ utf8Bytes middle = y := by
  rw [← encode_toList] at h
  obtain ⟨before, after, hbefore, hxy, rfl⟩ := split_of_encode h hz
  have hcut : StartsWithChar y := by
    cases y with
    | nil => exact startsWithChar_nil
    | cons b y => exact hy
  obtain ⟨left, middle, rfl, rfl, rfl⟩ := split_of_encode hxy hcut
  refine ⟨String.ofList middle, ?_, utf8Bytes_ofList middle⟩
  have hstop : splitAtByte ((encode left).length + (encode middle).length) s.toList
      = some (left ++ middle, after) := by
    rw [hbefore, ← List.length_append, ← encode_append]
    apply splitAtByte_encode
  unfold slice
  rw [hstop, Option.bind_eq_bind, Option.bind_some, splitAtByte_encode]
  rfl

end Text
