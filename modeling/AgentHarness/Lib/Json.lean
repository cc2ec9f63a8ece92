import AgentHarness.Lib.Sha256
import AgentHarness.Lib.TextFile

/-!
JSON values without numbers, as `serde_json::to_vec` writes them, and what a digest of such a text
identifies when the hash has no collisions.
-/

inductive Json where
  | null
  | bool (value : Bool)
  | string (value : String)
  | array (items : List Json)
  | object (fields : List (String × Json))

namespace Json

def ofOption (value : Option String) : Json :=
  match value with
  | none => .null
  | some text => .string text

@[simp]
theorem ofOption_inj {a b : Option String} : ofOption a = ofOption b ↔ a = b := by
  cases a <;> cases b <;> simp [ofOption]

mutual

def render (json : Json) : List Char :=
  match json with
  | .null => ['n', 'u', 'l', 'l']
  | .bool true => ['t', 'r', 'u', 'e']
  | .bool false => ['f', 'a', 'l', 's', 'e']
  | .string value => (Text.jsonString value).toList
  | .array [] => ['[', ']']
  | .array (item :: items) => '[' :: render item ++ renderItems items
  | .object [] => ['{', '}']
  | .object ((name, value) :: fields) =>
    '{' :: (Text.jsonString name).toList ++ ':' :: render value ++ renderFields fields

def renderItems (items : List Json) : List Char :=
  match items with
  | [] => [']']
  | item :: items => ',' :: render item ++ renderItems items

def renderFields (fields : List (String × Json)) : List Char :=
  match fields with
  | [] => ['}']
  | (name, value) :: fields =>
    ',' :: (Text.jsonString name).toList ++ ':' :: render value ++ renderFields fields

end

end Json

namespace Text

def escapedCodes : List Nat :=
  List.range 32 ++ [0x22, 0x5c]

theorem escape_of_plain {ch : Char} (h : ch.toNat ∉ escapedCodes) : jsonString.escape ch = [ch] := by
  simp only [escapedCodes, List.mem_append, List.mem_range, List.mem_cons, List.not_mem_nil,
    or_false, not_or] at h
  unfold jsonString.escape
  split
  all_goals first | omega | skip
  rw [if_neg (by omega)]

theorem escape_head : ∀ n ∈ escapedCodes, (jsonString.escape (Char.ofNat n)).head? = some '\\' := by
  decide +kernel

theorem escape_prefix_code : ∀ m ∈ escapedCodes, ∀ n ∈ escapedCodes,
    jsonString.escape (Char.ofNat m) <+: jsonString.escape (Char.ofNat n) → m = n := by
  decide +kernel

theorem escape_eq_cons {ch : Char} (h : ch.toNat ∈ escapedCodes)
    : ∃ rest, jsonString.escape ch = '\\' :: rest := by
  have hhead := escape_head ch.toNat h
  rw [Char.ofNat_toNat] at hhead
  exact ⟨_, (List.cons_head?_tail hhead).symm⟩

theorem escape_ne_nil (ch : Char) : jsonString.escape ch ≠ [] := by
  by_cases h : ch.toNat ∈ escapedCodes
  . obtain ⟨rest, hrest⟩ := escape_eq_cons h
    simp [hrest]
  . simp [escape_of_plain h]

theorem eq_of_escape_start {a b : Char} (h : jsonString.escape a <+: jsonString.escape b)
    : a = b := by
  by_cases ha : a.toNat ∈ escapedCodes
  . by_cases hb : b.toNat ∈ escapedCodes
    . have hcode := escape_prefix_code a.toNat ha b.toNat hb
      rw [Char.ofNat_toNat, Char.ofNat_toNat] at hcode
      exact Char.toNat_inj.mp (hcode h)
    . obtain ⟨rest, hrest⟩ := escape_eq_cons ha
      rw [hrest, escape_of_plain hb] at h
      rw [← (List.cons_prefix_cons.mp h).1] at hb
      exact absurd (by decide) hb
  . rw [escape_of_plain ha] at h
    by_cases hb : b.toNat ∈ escapedCodes
    . obtain ⟨rest, hrest⟩ := escape_eq_cons hb
      rw [hrest] at h
      rw [(List.cons_prefix_cons.mp h).1] at ha
      exact absurd (by decide) ha
    . rw [escape_of_plain hb] at h
      exact (List.cons_prefix_cons.mp h).1

variable {left right : List Char}

theorem escape_append_inj {a b : Char}
    (h : jsonString.escape a ++ left = jsonString.escape b ++ right)
    : a = b ∧ left = right := by
  have hsame : a = b := by
    have hleft : jsonString.escape a <+: jsonString.escape b ++ right := by simp [← h]
    have hright : jsonString.escape b <+: jsonString.escape b ++ right := by simp
    cases List.prefix_or_prefix_of_prefix hleft hright with
    | inl hab => exact eq_of_escape_start hab
    | inr hba => exact (eq_of_escape_start hba).symm
  rw [hsame] at h
  exact ⟨hsame, List.append_cancel_left h⟩

theorem escape_append_ne_quote (ch : Char) (left right : List Char)
    : jsonString.escape ch ++ left ≠ '"' :: right := by
  intro h
  by_cases hch : ch.toNat ∈ escapedCodes
  . obtain ⟨rest, hrest⟩ := escape_eq_cons hch
    rw [hrest] at h
    exact absurd (List.cons.inj h).1 (by decide)
  . rw [escape_of_plain hch] at h
    rw [(List.cons.inj h).1] at hch
    exact hch (by decide)

theorem escapes_append_inj {a b : List Char}
    (h : a.flatMap jsonString.escape ++ '"' :: left = b.flatMap jsonString.escape ++ '"' :: right)
    : a = b ∧ left = right := by
  induction a generalizing b with
  | nil =>
    cases b with
    | nil => simpa using h
    | cons ch b =>
      rw [List.flatMap_nil, List.nil_append, List.flatMap_cons, List.append_assoc] at h
      exact absurd h.symm (escape_append_ne_quote ch _ _)
  | cons ch a ih =>
    cases b with
    | nil =>
      rw [List.flatMap_nil, List.nil_append, List.flatMap_cons, List.append_assoc] at h
      exact absurd h (escape_append_ne_quote ch _ _)
    | cons other b =>
      rw [List.flatMap_cons, List.flatMap_cons, List.append_assoc, List.append_assoc] at h
      obtain ⟨hfirst, hrest⟩ := escape_append_inj h
      obtain ⟨hsame, hend⟩ := ih hrest
      rw [hfirst, hsame]
      exact ⟨rfl, hend⟩

theorem toList_jsonString (s : String)
    : (jsonString s).toList = '"' :: s.toList.flatMap jsonString.escape ++ ['"'] := by
  simp [jsonString]

theorem jsonString_append_inj {a b : String}
    (h : (jsonString a).toList ++ left = (jsonString b).toList ++ right)
    : a = b ∧ left = right := by
  rw [toList_jsonString, toList_jsonString] at h
  simp only [List.cons_append, List.append_assoc, List.nil_append, List.cons.injEq,
    true_and] at h
  obtain ⟨hsame, hend⟩ := escapes_append_inj h
  exact ⟨String.toList_inj.mp hsame, hend⟩

end Text

namespace Json

def opening (json : Json) : Char :=
  match json with
  | .null => 'n'
  | .bool true => 't'
  | .bool false => 'f'
  | .string _ => '"'
  | .array _ => '['
  | .object _ => '{'

attribute [local simp] render in
theorem render_opening (json : Json) : ∃ rest, render json = json.opening :: rest := by
  cases json with
  | null => simp [render, opening]
  | bool value => cases value <;> simp [render, opening]
  | string value => simp [render, opening, Text.toList_jsonString]
  | array items => cases items <;> simp [render, opening]
  | object fields =>
    cases fields with
    | nil => simp [render, opening]
    | cons field fields => simp [render, opening]

theorem render_append_ne {json : Json} {ch : Char} (h : json.opening ≠ ch) (left right : List Char)
    : render json ++ left ≠ ch :: right := by
  obtain ⟨rest, hrest⟩ := render_opening json
  rw [hrest, List.cons_append]
  intro heq
  exact h (List.cons.inj heq).1

variable {left right : List Char}

theorem opening_eq_of_append {a b : Json} (h : render a ++ left = render b ++ right)
    : a.opening = b.opening := by
  obtain ⟨restA, hA⟩ := render_opening a
  obtain ⟨restB, hB⟩ := render_opening b
  rw [hA, hB, List.cons_append, List.cons_append] at h
  exact (List.cons.inj h).1

theorem opening_ne_close (json : Json) : json.opening ≠ ']' := by
  cases json with
  | bool value => cases value <;> decide
  | _ => simp [opening]

def Separable (a : Json) : Prop :=
  ∀ b left right, render a ++ left = render b ++ right → a = b ∧ left = right

theorem renderItems_append_inj {items other : List Json} (hitems : ∀ item ∈ items, item.Separable)
    (h : renderItems items ++ left = renderItems other ++ right)
    : items = other ∧ left = right := by
  induction items generalizing other with
  | nil =>
    cases other with
    | nil => simpa [renderItems] using h
    | cons item other => simp [renderItems] at h
  | cons item items ih =>
    rw [List.forall_mem_cons] at hitems
    cases other with
    | nil => simp [renderItems] at h
    | cons item' other =>
      rw [renderItems, renderItems] at h
      simp only [List.cons_append, List.append_assoc, List.cons.injEq, true_and] at h
      obtain ⟨hitem, hrest⟩ := hitems.1 item' _ _ h
      obtain ⟨hsame, hend⟩ := ih hitems.2 hrest
      rw [hitem, hsame]
      exact ⟨rfl, hend⟩

theorem field_append_inj {field other : String × Json} (hfield : field.2.Separable)
    (h : (Text.jsonString field.1).toList ++ ':' :: (render field.2 ++ left)
      = (Text.jsonString other.1).toList ++ ':' :: (render other.2 ++ right))
    : field = other ∧ left = right := by
  obtain ⟨hname, hrest⟩ := Text.jsonString_append_inj h
  rw [List.cons.injEq] at hrest
  obtain ⟨hvalue, hend⟩ := hfield other.2 _ _ hrest.2
  exact ⟨Prod.ext hname hvalue, hend⟩

theorem renderFields_append_inj {fields other : List (String × Json)}
    (hfields : ∀ field ∈ fields, field.2.Separable)
    (h : renderFields fields ++ left = renderFields other ++ right)
    : fields = other ∧ left = right := by
  induction fields generalizing other with
  | nil =>
    cases other with
    | nil => simpa [renderFields] using h
    | cons field other => simp [renderFields] at h
  | cons field fields ih =>
    rw [List.forall_mem_cons] at hfields
    cases other with
    | nil => simp [renderFields] at h
    | cons field' other =>
      rw [renderFields, renderFields] at h
      simp only [List.cons_append, List.append_assoc, List.cons.injEq, true_and] at h
      obtain ⟨hfield, hrest⟩ := field_append_inj hfields.1 h
      obtain ⟨hsame, hend⟩ := ih hfields.2 hrest
      rw [hfield, hsame]
      exact ⟨rfl, hend⟩

theorem separable_array {items : List Json} (hitems : ∀ item ∈ items, item.Separable)
    : (Json.array items).Separable := by
  intro b left right h
  have hopening := opening_eq_of_append h
  cases b with
  | array other =>
    cases items with
    | nil =>
      cases other with
      | nil => simpa [render] using h
      | cons item other =>
        rw [render, render] at h
        simp only [List.cons_append, List.append_assoc, List.nil_append, List.cons.injEq,
          true_and] at h
        exact absurd h.symm (render_append_ne (opening_ne_close item) _ _)
    | cons item items =>
      rw [List.forall_mem_cons] at hitems
      cases other with
      | nil =>
        rw [render, render] at h
        simp only [List.cons_append, List.append_assoc, List.nil_append, List.cons.injEq,
          true_and] at h
        exact absurd h (render_append_ne (opening_ne_close item) _ _)
      | cons item' other =>
        rw [render, render] at h
        simp only [List.cons_append, List.append_assoc, List.cons.injEq, true_and] at h
        obtain ⟨hitem, hrest⟩ := hitems.1 item' _ _ h
        obtain ⟨hsame, hend⟩ := renderItems_append_inj hitems.2 hrest
        rw [hitem, hsame]
        exact ⟨rfl, hend⟩
  | bool value => cases value <;> simp [opening] at hopening
  | _ => simp [opening] at hopening

theorem separable_object {fields : List (String × Json)}
    (hfields : ∀ field ∈ fields, field.2.Separable)
    : (Json.object fields).Separable := by
  intro b left right h
  have hopening := opening_eq_of_append h
  cases b with
  | object other =>
    cases fields with
    | nil =>
      cases other with
      | nil => simpa [render] using h
      | cons field other => simp [render, Text.toList_jsonString] at h
    | cons field fields =>
      rw [List.forall_mem_cons] at hfields
      cases other with
      | nil => simp [render, Text.toList_jsonString] at h
      | cons field' other =>
        rw [render, render] at h
        simp only [List.cons_append, List.append_assoc, List.cons.injEq, true_and] at h
        obtain ⟨hfield, hrest⟩ := field_append_inj hfields.1 h
        obtain ⟨hsame, hend⟩ := renderFields_append_inj hfields.2 hrest
        rw [hfield, hsame]
        exact ⟨rfl, hend⟩
  | bool value => cases value <;> simp [opening] at hopening
  | _ => simp [opening] at hopening

theorem separable_string (value : String) : (Json.string value).Separable := by
  intro b left right h
  have hopening := opening_eq_of_append h
  cases b with
  | string other =>
    rw [render, render] at h
    obtain ⟨hsame, hend⟩ := Text.jsonString_append_inj h
    rw [hsame]
    exact ⟨rfl, hend⟩
  | bool value => cases value <;> simp [opening] at hopening
  | _ => simp [opening] at hopening

theorem separable_bool (value : Bool) : (Json.bool value).Separable := by
  intro b left right h
  have hopening := opening_eq_of_append h
  cases b with
  | bool other => cases value <;> cases other <;> simp_all [render, opening]
  | _ => cases value <;> simp [opening] at hopening

theorem separable_null : Json.null.Separable := by
  intro b left right h
  have hopening := opening_eq_of_append h
  cases b with
  | null => simpa [render] using h
  | bool value => cases value <;> simp [opening] at hopening
  | _ => simp [opening] at hopening

theorem separable (a : Json) : a.Separable :=
  match a with
  | .null => separable_null
  | .bool value => separable_bool value
  | .string value => separable_string value
  | .array items => separable_array fun item _ => separable item
  | .object fields => separable_object fun field _ => separable field.2
termination_by a
decreasing_by
  . next hitem =>
    have := List.sizeOf_lt_of_mem hitem
    simp only [array.sizeOf_spec]
    omega
  . next hfield =>
    have := List.sizeOf_lt_of_mem hfield
    have : sizeOf field = 1 + sizeOf field.1 + sizeOf field.2 := rfl
    simp only [object.sizeOf_spec]
    omega

theorem render_injective : Function.Injective render := by
  intro a b h
  have happend : render a ++ [] = render b ++ [] := by rw [h]
  exact (separable a b _ _ happend).1

end Json

/-
SHA-256 as far as its callers may assume that it has no collisions.
-/
structure CollisionFree where
  digest : List UInt8 → List UInt8
  injective : Function.Injective digest

namespace CollisionFree

def extended : CollisionFree where
  digest message := Sha256.digest message ++ message
  injective := by
    intro a b h
    apply List.append_inj_right h
    rw [Sha256.length_digest, Sha256.length_digest]

-- `checksum_json`
def checksumJson (self : CollisionFree) (payload : Json) : String :=
  "sha256:" ++ Text.hex (self.digest (Text.utf8Bytes (String.ofList (Json.render payload))))

theorem checksumJson_injective (self : CollisionFree) : Function.Injective self.checksumJson := by
  intro a b h
  unfold checksumJson at h
  rw [String.append_right_inj] at h
  apply Json.render_injective
  have hbytes := self.injective (Text.hex_injective h)
  exact String.ofList_injective (Text.utf8Bytes_injective hbytes)

@[simp]
theorem checksumJson_inj (self : CollisionFree) {a b : Json}
    : self.checksumJson a = self.checksumJson b ↔ a = b :=
  self.checksumJson_injective.eq_iff

theorem not_isWhitespace_checksumJson (self : CollisionFree) (payload : Json)
    : ∀ ch ∈ (self.checksumJson payload).toList, ¬Text.isWhitespace ch := by
  have hlead : ∀ ch ∈ "sha256:".toList, ¬Text.isWhitespace ch := Text.forall_mem_of_all (by decide)
  have hdigit : ∀ n < 16, ¬Text.isWhitespace (Text.hexDigit n) := by decide
  intro ch hch
  rw [checksumJson, String.toList_append, List.mem_append] at hch
  cases hch with
  | inl hch => exact hlead ch hch
  | inr hch =>
    rw [Text.hex, String.toList_ofList, List.mem_flatMap] at hch
    obtain ⟨byte, _, hch⟩ := hch
    have hbyte := byte.toNat_lt
    simp only [List.mem_cons, List.not_mem_nil, or_false] at hch
    cases hch with
    | inl hhigh =>
      rw [hhigh]
      exact hdigit _ (by omega)
    | inr hlow =>
      rw [hlow]
      exact hdigit _ (by omega)

theorem not_isBlank_checksumJson (self : CollisionFree) (payload : Json)
    : ¬TextFile.isBlank (self.checksumJson payload) := by
  rw [TextFile.isBlank_iff]
  intro h
  have hfirst := h 's' (by simp [checksumJson, String.toList_append])
  exact absurd hfirst (by decide)

end CollisionFree
