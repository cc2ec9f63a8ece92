import AgentHarness.Memory.Lemmas.Merge

/-!
The ranges that the two scanners find, by what stands before, in and behind a range.
-/

namespace Memory

open Text (IsAscii StartsWithChar slice utf8Bytes)

-- The key in front of a separator as its bytes.
def keyBytes (before : List UInt8) : Option (List UInt8) :=
  let before := before.rdropWhile isAsciiWhitespace
  match before.getLast? with
  | none => none
  | some last =>
    if isQuote last then
      let content := before.dropLast
      if last ∈ content then some (content.rtakeWhile (· ≠ last)) else none
    else
      let key := before.rtakeWhile isKeyByte
      if key = [] then none else some key

def normalizedKey (key : List UInt8) : List UInt8 :=
  (key.filter isAsciiAlphanumeric).map toAsciiLowercase

def SensitiveKey (key : List UInt8) : Prop :=
  ∃ suffix ∈ sensitiveSuffixes, utf8Bytes suffix <:+ normalizedKey key

def Assigns (before : List UInt8) : Prop :=
  ∃ key ∈ keyBytes before, SensitiveKey key

-- What stands behind a separator: spaces and a quote, the value, and what follows the value.
inductive ValueAt : List UInt8 → List UInt8 → List UInt8 → Prop
  | quoted {space value rest : List UInt8} {quote : UInt8}
      (hspace : ∀ b ∈ space, isAsciiWhitespace b) (hquote : isQuote quote) (hne : value ≠ [])
      (hvalue : quote ∉ value) (hrest : ∀ b ∈ rest.head?, b = quote)
      : ValueAt (space ++ [quote]) value rest
  | bare {space value rest : List UInt8} (hspace : ∀ b ∈ space, isAsciiWhitespace b)
      (hne : value ≠ []) (hvalue : ∀ b ∈ value, ¬endsCredential b)
      (hrest : ∀ b ∈ rest.head?, endsCredential b)
      : ValueAt space value rest

def WordStart (before : List UInt8) : Prop :=
  ∀ b ∈ before.getLast?, ¬isWordByte b

def SecretStart (bytes : List UInt8) : Prop :=
  utf8Bytes "sk-" <+: bytes ∨ utf8Bytes "sk_proj" <+: bytes

def CredentialBytes (bytes : List UInt8) : Bool :=
  bytes.length ≥ 16 || bytes.any fun b => isAsciiDigit b || b = 0x2e || b = 0x2d || b = 0x5f

def Skipped (before after : List UInt8) : Prop :=
  ∃ outer inner b rest, before = outer ++ inner ∧ after = b :: rest ∧ inner ≠ [] ∧ WordStart outer
    ∧ SecretStart (inner ++ after) ∧ ∀ x ∈ inner ++ [b], ¬endsCredential x

-- The middle one of three parts of a text is a range that is redacted.
inductive Redacts : List UInt8 → List UInt8 → List UInt8 → Prop
  | assigned {before lead value rest : List UInt8} {separator : UInt8} (hassigns : Assigns before)
      (hseparator : isSeparator separator) (hvalue : ValueAt lead value rest)
      : Redacts (before ++ separator :: lead) value rest
  | bearer {before word space value rest : List UInt8} (hstart : WordStart before)
      (hword : word.map toAsciiLowercase = utf8Bytes "bearer") (hne : space ≠ [])
      (hspace : ∀ b ∈ space, isAsciiWhitespace b) (hvalue : ∀ b ∈ value, ¬endsCredential b)
      (hrest : ∀ b ∈ rest.head?, endsCredential b) (hcredential : CredentialBytes value)
      (hscanned : ¬Skipped before (word ++ space ++ value ++ rest))
      : Redacts (before ++ word ++ space) value rest
  | secretKey {before value rest : List UInt8} (hstart : WordStart before)
      (hsecret : SecretStart value) (hvalue : ∀ b ∈ value, ¬endsCredential b)
      (hrest : ∀ b ∈ rest.head?, endsCredential b)
      : Redacts before value rest

section

attribute [grind] isAsciiWhitespace isAsciiDigit isAsciiAlphanumeric toAsciiLowercase isSeparator
  isQuote isKeyByte isWordByte endsCredential IsAscii

theorem isAscii_of_whitespace : ∀ b, isAsciiWhitespace b → IsAscii b := by
  grind

theorem isAscii_of_quote : ∀ b, isQuote b → IsAscii b := by
  grind

theorem isAscii_of_separator : ∀ b, isSeparator b → IsAscii b := by
  grind

theorem isAscii_of_keyByte : ∀ b, isKeyByte b → IsAscii b := by
  grind

theorem isAscii_of_endsCredential : ∀ b, endsCredential b → IsAscii b := by
  grind

theorem endsCredential_of_whitespace : ∀ b, isAsciiWhitespace b → endsCredential b := by
  grind

theorem endsCredential_of_quote : ∀ b, isQuote b → endsCredential b := by
  grind

theorem not_quote_of_whitespace : ∀ b, isAsciiWhitespace b → ¬isQuote b := by
  grind

end

section

variable {text : String} {before after : List UInt8}

theorem boundary_of_ascii {b : UInt8} (htext : utf8Bytes text = before ++ b :: after) (hb : IsAscii b)
    : Boundary (utf8Bytes text) before.length := by
  unfold Boundary
  rw [htext, List.drop_left]
  exact Text.startsWithChar_of_ascii hb after

theorem boundary_behind_ascii {b : UInt8} (htext : utf8Bytes text = before ++ b :: after)
    (hb : IsAscii b)
    : Boundary (utf8Bytes text) (before.length + 1) := by
  have hdrop : (before ++ b :: after).drop (before.length + 1) = after := by
    rw [← List.drop_drop]
    simp
  have hfirst := Text.first_after_ascii ((Text.encode_toList text).trans htext) hb
  unfold Boundary
  rwa [htext, hdrop]

theorem slice_parts {middle : List UInt8} (htext : utf8Bytes text = before ++ middle ++ after)
    (hstart : Boundary (utf8Bytes text) before.length)
    (hstop : Boundary (utf8Bytes text) (before.length + middle.length))
    : ∃ piece, slice text before.length (before.length + middle.length) = some piece
        ∧ utf8Bytes piece = middle := by
  have hlength : (utf8Bytes text).length = before.length + middle.length + after.length := by
    rw [htext, List.length_append, List.length_append]
  obtain ⟨piece, hslice, hpiece⟩ := slice_boundary (Nat.le_add_right _ _) (by omega) hstart hstop
  refine ⟨piece, hslice, ?_⟩
  rw [hpiece, htext, ← List.length_append, List.take_left, List.drop_left]

end

theorem rdropWhile_append_rtakeWhile (p : UInt8 → Bool) (bytes : List UInt8)
    : bytes.rdropWhile p ++ bytes.rtakeWhile p = bytes := by
  unfold List.rdropWhile List.rtakeWhile
  rw [← List.reverse_append, List.takeWhile_append_dropWhile, List.reverse_reverse]

variable {p : UInt8 → Bool} {bytes : List UInt8}

theorem all_rtakeWhile : ∀ b ∈ bytes.rtakeWhile p, p b := by
  intro b hb
  exact List.mem_rtakeWhile_imp hb

theorem rdropWhile_of_mem {b : UInt8} (h : b ∈ bytes)
    : ∃ front, bytes.rdropWhile (· ≠ b) = front ++ [b] := by
  have hne : bytes.rdropWhile (· ≠ b) ≠ [] := by
    intro hnil
    rw [List.rdropWhile_eq_nil_iff] at hnil
    simpa using hnil b h
  have hlast := List.rdropWhile_last_not (· ≠ b) bytes hne
  simp only [decide_eq_true_iff, not_not] at hlast
  refine ⟨(bytes.rdropWhile (· ≠ b)).dropLast, ?_⟩
  conv => lhs; rw [← List.dropLast_append_getLast hne]
  rw [hlast]

section

variable {text : String} {before after : List UInt8} {separator : UInt8}

theorem assignmentKeyBefore_eq (htext : utf8Bytes text = before ++ separator :: after)
    (hseparator : isSeparator separator)
    : ∃ key, assignmentKeyBefore text before.length = .ok key
        ∧ key.map utf8Bytes = keyBytes before := by
  unfold assignmentKeyBefore keyBytes
  dsimp only
  rw [htext, List.take_left]
  -- the spaces between the key and the separator
  generalize hspace : before.rtakeWhile isAsciiWhitespace = space
  generalize hword : before.rdropWhile isAsciiWhitespace = word
  have hbefore : before = word ++ space := by
    rw [← hspace, ← hword, rdropWhile_append_rtakeWhile]
  have hend : Boundary (utf8Bytes text) word.length := by
    cases hcases : space with
    | nil =>
      rw [hcases, List.append_nil] at hbefore
      rw [hbefore] at htext
      exact boundary_of_ascii htext (isAscii_of_separator _ hseparator)
    | cons b space' =>
      have hb : isAsciiWhitespace b := all_rtakeWhile b (by rw [hspace, hcases]; simp)
      have htext' : utf8Bytes text = word ++ b :: (space' ++ separator :: after) := by
        rw [htext, hbefore, hcases]
        simp
      exact boundary_of_ascii htext' (isAscii_of_whitespace b hb)
  cases hlast : word.getLast? with
  | none => exact ⟨none, rfl, rfl⟩
  | some last =>
    dsimp only
    obtain ⟨content, hcontent⟩ := List.getLast?_eq_some_iff.mp hlast
    split
    . next hquote =>
      have hdrop : word.dropLast = content := by rw [hcontent, List.dropLast_concat]
      rw [hdrop]
      split
      . next hmem =>
        generalize hkey : content.rtakeWhile (· ≠ last) = key
        generalize hfront : content.rdropWhile (· ≠ last) = front
        have hparts : content = front ++ key := by
          rw [← hkey, ← hfront, rdropWhile_append_rtakeWhile]
        have htext' : utf8Bytes text = front ++ key ++ (last :: space ++ separator :: after) := by
          rw [htext, hbefore, hcontent, hparts]
          simp
        -- the key starts behind the opening quote and ends in front of the closing one
        have hstart : Boundary (utf8Bytes text) front.length := by
          obtain ⟨outer, rfl⟩ : ∃ outer, front = outer ++ [last] := by
            rw [← hfront]
            apply rdropWhile_of_mem hmem
          rw [List.length_append]
          apply boundary_behind_ascii _ (isAscii_of_quote last hquote)
          . exact key ++ last :: space ++ separator :: after
          . rw [htext']
            simp
        have hstop : Boundary (utf8Bytes text) (front.length + key.length) := by
          rw [← List.length_append, ← hparts]
          apply boundary_of_ascii _ (isAscii_of_quote last hquote)
          . exact space ++ separator :: after
          . rw [htext', hparts]
            simp
        obtain ⟨piece, hslice, hpiece⟩ := slice_parts htext' hstart hstop
        refine ⟨some piece, ?_, by simp [hpiece]⟩
        rw [hparts, List.length_append, hslice]
        rfl
      . exact ⟨none, rfl, rfl⟩
    . next hquote =>
      generalize hkey : word.rtakeWhile isKeyByte = key
      generalize hfront : word.rdropWhile isKeyByte = front
      have hparts : word = front ++ key := by
        rw [← hkey, ← hfront, rdropWhile_append_rtakeWhile]
      rw [hparts, List.length_append]
      cases hcases : key with
      | nil => exact ⟨none, by simp, rfl⟩
      | cons b key' =>
        have hb : isKeyByte b := all_rtakeWhile b (by rw [hkey, hcases]; simp)
        have htext' : utf8Bytes text = front ++ key ++ (space ++ separator :: after) := by
          rw [htext, hbefore, hparts]
          simp
        have hstart : Boundary (utf8Bytes text) front.length := by
          apply boundary_of_ascii _ (isAscii_of_keyByte b hb)
          . exact key' ++ (space ++ separator :: after)
          . rw [htext', hcases]
            simp
        rw [hparts, List.length_append] at hend
        obtain ⟨piece, hslice, hpiece⟩ := slice_parts htext' hstart hend
        rw [hcases] at hslice hpiece
        refine ⟨some piece, ?_, by simp [hpiece]⟩
        rw [if_pos (by simp), hslice]
        rfl

end

theorem takeWhile_append_stop {front rest : List UInt8} (hfront : ∀ b ∈ front, p b)
    (hrest : ∀ b ∈ rest.head?, ¬p b)
    : (front ++ rest).takeWhile p = front := by
  rw [List.takeWhile_append_of_pos hfront]
  cases rest with
  | nil => simp
  | cons b rest => rw [List.takeWhile_cons_of_neg (hrest b rfl), List.append_nil]

theorem all_takeWhile : ∀ b ∈ bytes.takeWhile p, p b :=
  fun b hb => List.all_eq_true.mp List.all_takeWhile b hb

theorem head_dropWhile : ∀ b ∈ (bytes.dropWhile p).head?, ¬p b := by
  intro b hb
  have hnot := List.head?_dropWhile_not p bytes
  rw [hb] at hnot
  simpa using hnot

theorem exists_upTo (x : UInt8) (l : List UInt8)
    : ∃ seen rest, l = seen ++ rest ∧ x ∉ seen ∧ ∀ b ∈ rest.head?, b = x := by
  refine ⟨l.takeWhile (· ≠ x), l.dropWhile (· ≠ x), List.takeWhile_append_dropWhile.symm, ?_, ?_⟩
  . intro hmem
    simpa using all_takeWhile x hmem
  . intro b hb
    simpa using head_dropWhile b hb

-- a value in quotes ends at the next such quote, or with the text
theorem exists_quoted {space inner : List UInt8} {quote : UInt8}
    (hspace : ∀ b ∈ space, isAsciiWhitespace b) (hquote : isQuote quote) (hne : inner ≠ [])
    (hinner : quote ∉ inner) (after : List UInt8)
    : ∃ more rest, after = more ++ rest ∧ ValueAt (space ++ [quote]) (inner ++ more) rest := by
  obtain ⟨more, rest, hsplit, hmore, hrest⟩ := exists_upTo quote after
  exact ⟨more, rest, hsplit, .quoted hspace hquote (by simp [hne]) (by simp [hinner, hmore]) hrest⟩

section

variable {front tail : List UInt8}

theorem getElem?_append_head : (front ++ tail)[front.length]? = tail.head? := by
  rw [List.getElem?_append_right le_rfl, Nat.sub_self, List.head?_eq_getElem?]

theorem skipWhitespace_append
    : skipWhitespace (front ++ tail) front.length
        = (front ++ tail.takeWhile isAsciiWhitespace).length := by
  unfold skipWhitespace
  rw [List.drop_left, List.length_append]

theorem credentialValueEnd_append
    : credentialValueEnd (front ++ tail) front.length
        = front.length + (tail.takeWhile fun b => !endsCredential b).length := by
  unfold credentialValueEnd
  rw [List.drop_left]

variable {space rest : List UInt8}

theorem skipWhitespace_eq (hspace : ∀ b ∈ space, isAsciiWhitespace b)
    (hrest : ∀ b ∈ rest.head?, ¬isAsciiWhitespace b)
    : skipWhitespace (front ++ (space ++ rest)) front.length = (front ++ space).length := by
  rw [skipWhitespace_append, takeWhile_append_stop hspace hrest]

theorem assignmentValueAfter_quoted {quote : UInt8} (hspace : ∀ b ∈ space, isAsciiWhitespace b)
    (hquote : isQuote quote)
    : assignmentValueAfter (front ++ (space ++ quote :: rest)) front.length
        = if rest.takeWhile (· ≠ quote) = [] then
            none
          else
            some (front.length + (space ++ [quote]).length,
              front.length + (space ++ [quote]).length + (rest.takeWhile (· ≠ quote)).length) := by
  have hskip : skipWhitespace (front ++ (space ++ quote :: rest)) front.length
      = (front ++ space).length := by
    apply skipWhitespace_eq hspace
    rintro b ⟨⟩ hb
    exact not_quote_of_whitespace quote hb hquote
  have hhead : (front ++ (space ++ quote :: rest))[(front ++ space).length]? = some quote := by
    rw [← List.append_assoc, getElem?_append_head]
    rfl
  have hdrop : (front ++ (space ++ quote :: rest)).drop ((front ++ space).length + 1) = rest := by
    rw [← List.append_assoc, ← List.drop_drop, List.drop_left]
    rfl
  have hlength : (front ++ space).length + 1 = front.length + (space ++ [quote]).length := by
    simp [Nat.add_assoc]
  unfold assignmentValueAfter
  dsimp only
  rw [hskip, hhead, Option.filter_some, if_pos hquote]
  dsimp only
  rw [hdrop, hlength]
  by_cases hvalue : rest.takeWhile (· ≠ quote) = []
  . rw [if_pos hvalue, hvalue, if_neg (by simp)]
  . rw [if_neg hvalue, if_pos (Nat.lt_add_of_pos_right (List.length_pos_of_ne_nil hvalue))]

theorem assignmentValueAfter_bare (hspace : ∀ b ∈ space, isAsciiWhitespace b)
    (hrest : ∀ b ∈ rest.head?, ¬isAsciiWhitespace b ∧ ¬isQuote b)
    : assignmentValueAfter (front ++ (space ++ rest)) front.length
        = if rest.takeWhile (fun b => !endsCredential b) = [] then
            none
          else
            some (front.length + space.length,
              front.length + space.length
                + (rest.takeWhile fun b => !endsCredential b).length) := by
  have hskip : skipWhitespace (front ++ (space ++ rest)) front.length = (front ++ space).length :=
    skipWhitespace_eq hspace fun b hb => (hrest b hb).1
  have hhead : (front ++ (space ++ rest))[(front ++ space).length]? = rest.head? := by
    rw [← List.append_assoc, getElem?_append_head]
  have hquote : rest.head?.filter isQuote = none := by
    rw [Option.filter_eq_none_iff]
    exact fun b hb => (hrest b hb).2
  have hend : credentialValueEnd (front ++ (space ++ rest)) (front ++ space).length
      = (front ++ space).length + (rest.takeWhile fun b => !endsCredential b).length := by
    rw [← List.append_assoc, credentialValueEnd_append]
  unfold assignmentValueAfter
  dsimp only
  rw [hskip, hhead, hquote]
  dsimp only
  rw [hend, List.length_append]
  by_cases hvalue : rest.takeWhile (fun b => !endsCredential b) = []
  . rw [if_pos hvalue, hvalue, if_neg (by simp)]
  . rw [if_neg hvalue, if_pos (Nat.lt_add_of_pos_right (List.length_pos_of_ne_nil hvalue))]

-- the value behind a separator is what `ValueAt` describes
theorem assignmentValueAfter_eq_some {range : Range}
    : assignmentValueAfter (front ++ tail) front.length = some range
        ↔ ∃ lead value rest, tail = lead ++ value ++ rest ∧ ValueAt lead value rest
          ∧ range = (front.length + lead.length, front.length + lead.length + value.length) := by
  constructor
  . intro h
    have hspace : ∀ b ∈ tail.takeWhile isAsciiWhitespace, isAsciiWhitespace b := all_takeWhile
    have hstop : ∀ b ∈ (tail.dropWhile isAsciiWhitespace).head?, ¬isAsciiWhitespace b :=
      head_dropWhile
    have hsplit : tail.takeWhile isAsciiWhitespace ++ tail.dropWhile isAsciiWhitespace = tail :=
      List.takeWhile_append_dropWhile
    generalize tail.takeWhile isAsciiWhitespace = space at hspace hsplit
    generalize tail.dropWhile isAsciiWhitespace = rest at hstop hsplit
    subst hsplit
    by_cases hquote : ∃ quote rest', rest = quote :: rest' ∧ isQuote quote
    . obtain ⟨quote, rest', rfl, hquote⟩ := hquote
      rw [assignmentValueAfter_quoted hspace hquote, Option.ite_none_left_eq_some] at h
      obtain ⟨hvalue, hrange⟩ := h
      have hplain : ∀ b ∈ rest'.takeWhile (· ≠ quote), b ≠ quote := by
        intro b hb
        simpa using all_takeWhile b hb
      have hclosed : ∀ b ∈ (rest'.dropWhile (· ≠ quote)).head?, b = quote := by
        intro b hb
        simpa using head_dropWhile b hb
      refine ⟨space ++ [quote], rest'.takeWhile (· ≠ quote), rest'.dropWhile (· ≠ quote), ?_, ?_,
        (Option.some.inj hrange).symm⟩
      . rw [List.append_assoc, List.takeWhile_append_dropWhile]
        simp
      . exact .quoted hspace hquote hvalue (fun hmem => hplain quote hmem rfl) hclosed
    . have hrest : ∀ b ∈ rest.head?, ¬isAsciiWhitespace b ∧ ¬isQuote b := by
        intro b hb
        refine ⟨hstop b hb, fun hb' => hquote ?_⟩
        obtain ⟨rest', hrest'⟩ := List.head?_eq_some_iff.mp hb
        exact ⟨b, rest', hrest', hb'⟩
      rw [assignmentValueAfter_bare hspace hrest, Option.ite_none_left_eq_some] at h
      obtain ⟨hvalue, hrange⟩ := h
      have hplain : ∀ b ∈ rest.takeWhile (fun b => !endsCredential b), ¬endsCredential b := by
        intro b hb
        simpa using all_takeWhile b hb
      have hends : ∀ b ∈ (rest.dropWhile fun b => !endsCredential b).head?, endsCredential b := by
        intro b hb
        simpa using head_dropWhile b hb
      refine ⟨space, rest.takeWhile fun b => !endsCredential b,
        rest.dropWhile fun b => !endsCredential b, ?_, .bare hspace hvalue hplain hends,
        (Option.some.inj hrange).symm⟩
      rw [List.append_assoc, List.takeWhile_append_dropWhile]
  . rintro ⟨lead, value, rest, rfl, hvalue, rfl⟩
    cases hvalue with
    | @quoted space _ _ quote hspace hquote hne hvalue hrest =>
      have htake : (value ++ rest).takeWhile (· ≠ quote) = value := by
        apply takeWhile_append_stop
        . intro b hb
          simp only [decide_eq_true_iff]
          rintro rfl
          exact hvalue hb
        . intro b hb
          simpa using hrest b hb
      have hsplit : space ++ [quote] ++ value ++ rest = space ++ quote :: (value ++ rest) := by simp
      rw [hsplit, assignmentValueAfter_quoted hspace hquote, htake, if_neg hne]
    | bare hspace hne hvalue hrest =>
      have htake : (value ++ rest).takeWhile (fun b => !endsCredential b) = value := by
        apply takeWhile_append_stop
        . intro b hb
          simpa using hvalue b hb
        . intro b hb
          simpa using hrest b hb
      have hfirst : ∀ b ∈ (value ++ rest).head?, ¬isAsciiWhitespace b ∧ ¬isQuote b := by
        intro b hb
        rw [List.head?_append_of_ne_nil _ hne] at hb
        have hb := hvalue b (List.mem_of_mem_head? hb)
        exact ⟨fun h => hb (endsCredential_of_whitespace b h),
          fun h => hb (endsCredential_of_quote b h)⟩
      rw [List.append_assoc, assignmentValueAfter_bare hspace hfirst, htake, if_neg hne]

end

end Memory
