import AgentHarness.Memory.Lemmas.Ranges

/-!
The redaction of a text as a whole: it does not panic, and it leaves the skeleton of the text under the
ranges which `Redacts` describes.
-/

namespace Memory

open Text (IsAscii slice utf8Bytes)

theorem exists_of_mem_mapM {α β ε : Type} {xs : List α} {ys : List β} {f : α → Except ε β}
    (h : xs.mapM f = .ok ys) {y : β} (hy : y ∈ ys)
    : ∃ x ∈ xs, f x = .ok y := by
  rw [Except.mapM_eq_ok] at h
  induction h with
  | nil => cases hy
  | @cons x _ xs _ hx _ ih =>
    rw [List.mem_cons] at hy
    rcases hy with rfl | hy
    . exact ⟨x, List.mem_cons_self, hx⟩
    . obtain ⟨x, hmem, hx⟩ := ih hy
      exact ⟨x, List.mem_cons_of_mem _ hmem, hx⟩

theorem isSensitiveAssignmentKey_iff (key : String)
    : isSensitiveAssignmentKey key = true ↔ SensitiveKey (utf8Bytes key) := by
  unfold isSensitiveAssignmentKey SensitiveKey normalizedKey
  simp only [List.any_eq_true, List.isSuffixOf_iff_suffix]

section

variable {text : String} {before after : List UInt8} {b : UInt8}

theorem assignmentRange_eq (htext : utf8Bytes text = before ++ b :: after)
    : ∃ found, assignmentRange text before.length = .ok found
        ∧ ∀ range, found = some range ↔
          isSeparator b ∧ Assigns before
            ∧ assignmentValueAfter (utf8Bytes text) (before.length + 1) = some range := by
  have hget : (utf8Bytes text)[before.length]? = some b := by
    rw [htext, getElem?_append_head]
    rfl
  unfold assignmentRange
  dsimp only
  rw [hget, Option.any_some]
  by_cases hseparator : isSeparator b
  . obtain ⟨key, hread, hkey⟩ := assignmentKeyBefore_eq htext hseparator
    rw [if_neg (by simp [hseparator]), hread]
    unfold Assigns
    rw [← hkey]
    cases key with
    | none => exact ⟨none, rfl, by simp⟩
    | some key =>
      by_cases hsensitive : isSensitiveAssignmentKey key
      . refine ⟨assignmentValueAfter (utf8Bytes text) (before.length + 1), ?_, ?_⟩
        . show (if isSensitiveAssignmentKey key then _ else _) = _
          rw [if_pos hsensitive]
          rfl
        . rw [isSensitiveAssignmentKey_iff] at hsensitive
          simp [hseparator, hsensitive]
      . refine ⟨none, ?_, ?_⟩
        . show (if isSensitiveAssignmentKey key then _ else _) = _
          rw [if_neg hsensitive]
          rfl
        . rw [isSensitiveAssignmentKey_iff] at hsensitive
          simp [hsensitive]
  . rw [if_pos (by simp [hseparator])]
    exact ⟨none, rfl, by simp [hseparator]⟩

end

def Assigned (bytes : List UInt8) (range : Range) : Prop :=
  ∃ before separator lead value rest, bytes = before ++ separator :: (lead ++ value ++ rest)
    ∧ isSeparator separator ∧ Assigns before ∧ ValueAt lead value rest
    ∧ range = (before.length + 1 + lead.length, before.length + 1 + lead.length + value.length)

theorem assignmentRanges_eq (text : String)
    : ∃ found, (List.range (utf8Bytes text).length).mapM (assignmentRange text) = .ok found
        ∧ ∀ range, range ∈ found.reduceOption ↔ Assigned (utf8Bytes text) range := by
  have hsplit : ∀ i ∈ List.range (utf8Bytes text).length,
      ∃ before b after, utf8Bytes text = before ++ b :: after ∧ before.length = i := by
    intro i hi
    rw [List.mem_range] at hi
    refine ⟨(utf8Bytes text).take i, (utf8Bytes text)[i], (utf8Bytes text).drop (i + 1), ?_, ?_⟩
    . rw [← List.drop_eq_getElem_cons hi, List.take_append_drop]
    . rw [List.length_take]
      omega
  have hok : ∀ i ∈ List.range (utf8Bytes text).length, ∃ found, assignmentRange text i = .ok found := by
    intro i hi
    obtain ⟨before, b, after, htext, rfl⟩ := hsplit i hi
    obtain ⟨found, hfound, _⟩ := assignmentRange_eq htext
    exact ⟨found, hfound⟩
  obtain ⟨found, hfound⟩ := Except.mapM_isOk hok
  refine ⟨found, hfound, fun range => ?_⟩
  rw [List.reduceOption_mem_iff]
  constructor
  . intro hrange
    obtain ⟨i, hi, hread⟩ := exists_of_mem_mapM hfound hrange
    obtain ⟨before, b, after, htext, rfl⟩ := hsplit i hi
    obtain ⟨found', hread', hiff⟩ := assignmentRange_eq htext
    obtain rfl : found' = some range := Except.ok.inj (hread'.symm.trans hread)
    obtain ⟨hseparator, hassigns, hvalue⟩ := (hiff range).mp rfl
    have hbytes : utf8Bytes text = (before ++ [b]) ++ after := by
      rw [htext]
      simp
    have hlength : before.length + 1 = (before ++ [b]).length := by simp
    rw [hbytes, hlength, assignmentValueAfter_eq_some] at hvalue
    obtain ⟨lead, value, rest, rfl, hvalue, rfl⟩ := hvalue
    rw [← hlength]
    exact ⟨before, b, lead, value, rest, htext, hseparator, hassigns, hvalue, rfl⟩
  . rintro ⟨before, separator, lead, value, rest, htext, hseparator, hassigns, hvalue, rfl⟩
    obtain ⟨found', hread', hiff⟩ := assignmentRange_eq htext
    have hbytes : utf8Bytes text = (before ++ [separator]) ++ (lead ++ value ++ rest) := by
      rw [htext]
      simp
    have hlength : before.length + 1 = (before ++ [separator]).length := by simp
    have hrange : assignmentValueAfter (utf8Bytes text) (before.length + 1)
        = some (before.length + 1 + lead.length,
          before.length + 1 + lead.length + value.length) := by
      rw [hbytes, hlength, assignmentValueAfter_eq_some]
      exact ⟨lead, value, rest, rfl, hvalue, rfl⟩
    have hmem : before.length ∈ List.range (utf8Bytes text).length := by
      rw [List.mem_range, htext]
      simp
    obtain ⟨found'', hmem', hread''⟩ := Except.mem_of_mapM_eq_ok hfound hmem
    obtain rfl : found' = found'' := Except.ok.inj (hread'.symm.trans hread'')
    rw [(hiff _).mpr ⟨hseparator, hassigns, hrange⟩] at hmem'
    exact hmem'

-- a credential behind the word `bearer`
def BearerAt (before after : List UInt8) (range : Range) : Prop :=
  ∃ word space value rest, after = word ++ space ++ value ++ rest ∧ WordStart before
    ∧ word.map toAsciiLowercase = utf8Bytes "bearer" ∧ space ≠ []
    ∧ (∀ b ∈ space, isAsciiWhitespace b) ∧ (∀ b ∈ value, ¬endsCredential b)
    ∧ (∀ b ∈ rest.head?, endsCredential b) ∧ CredentialBytes value
    ∧ range = ((before ++ word ++ space).length, (before ++ word ++ space ++ value).length)

def SecretAt (before after : List UInt8) (range : Range) : Prop :=
  ∃ value rest, after = value ++ rest ∧ WordStart before ∧ SecretStart value
    ∧ (∀ b ∈ value, ¬endsCredential b) ∧ (∀ b ∈ rest.head?, endsCredential b)
    ∧ range = (before.length, (before ++ value).length)

section

variable {text : String} {before after : List UInt8}

theorem isWordStartBoundary_iff
    : isWordStartBoundary (before ++ after) before.length = true ↔ WordStart before := by
  unfold isWordStartBoundary WordStart
  rcases List.eq_nil_or_concat' before with rfl | ⟨front, b, rfl⟩
  . simp
  . have hget : (front ++ [b] ++ after)[(front ++ [b]).length - 1]? = some b := by
      rw [List.append_assoc, List.length_append, List.length_singleton, Nat.add_sub_cancel,
        getElem?_append_head]
      rfl
    rw [hget]
    simp

theorem startsSecretKey_iff
    : startsSecretKey (before ++ after) before.length = true
        ↔ WordStart before ∧ SecretStart after := by
  unfold startsSecretKey SecretStart
  rw [List.drop_left, Bool.and_eq_true, Bool.or_eq_true, isWordStartBoundary_iff,
    List.isPrefixOf_iff_prefix, List.isPrefixOf_iff_prefix, and_comm]

theorem looksLikeBearerCredential_eq (candidate : String)
    : looksLikeBearerCredential candidate = CredentialBytes (utf8Bytes candidate) := by
  unfold looksLikeBearerCredential CredentialBytes
  rw [Text.length_utf8Bytes]

theorem lowercase_bearer : (utf8Bytes "bearer").map toAsciiLowercase = utf8Bytes "bearer" := by
  decide

theorem bearer_eq : utf8Bytes "bearer" = [0x62, 0x65, 0x61, 0x72, 0x65, 0x72] := by
  decide

theorem length_bearer : (utf8Bytes "bearer").length = 6 := by
  decide

theorem boundary_of_ends (htext : utf8Bytes text = before ++ after)
    (hends : ∀ b ∈ after.head?, endsCredential b)
    : Boundary (utf8Bytes text) before.length := by
  cases hafter : after with
  | nil =>
    rw [hafter, List.append_nil] at htext
    rw [← htext]
    exact boundary_length
  | cons b after' =>
    rw [hafter] at htext hends
    exact boundary_of_ascii htext (isAscii_of_endsCredential b (hends b rfl))

theorem startsAsciiCaseInsensitive_bearer
    : startsAsciiCaseInsensitive (before ++ after) before.length "bearer" = true
        ↔ (after.take 6).map toAsciiLowercase = utf8Bytes "bearer" := by
  unfold startsAsciiCaseInsensitive
  dsimp only
  rw [List.drop_left, lowercase_bearer, length_bearer, decide_eq_true_iff]

theorem bearerRange_of_word {word space tail : List UInt8}
    (htext : utf8Bytes text = before ++ (word ++ space ++ tail)) (hstart : WordStart before)
    (hword : word.map toAsciiLowercase = utf8Bytes "bearer") (hne : space ≠ [])
    (hspace : ∀ b ∈ space, isAsciiWhitespace b) (htail : ∀ b ∈ tail.head?, ¬isAsciiWhitespace b)
    : let value := tail.takeWhile fun b => !endsCredential b
      bearerRange text before.length
        = .ok (if CredentialBytes value then
            some ((before ++ word ++ space).length, (before ++ word ++ space ++ value).length)
          else
            none) := by
  intro value
  have hlength : word.length = 6 := by
    rw [← List.length_map toAsciiLowercase, hword, length_bearer]
  have hstarts : startsAsciiCaseInsensitive (utf8Bytes text) before.length "bearer" = true := by
    rw [htext, startsAsciiCaseInsensitive_bearer, List.append_assoc, ← hlength, List.take_left, hword]
  have hboundary : isWordStartBoundary (utf8Bytes text) before.length = true := by
    rw [htext, isWordStartBoundary_iff]
    exact hstart
  obtain ⟨b, space', hcases⟩ : ∃ b space', space = b :: space' := List.exists_cons_of_ne_nil hne
  have hb : isAsciiWhitespace b := hspace b (by simp [hcases])
  have hwordEnd : before.length + (utf8Bytes "bearer").length = (before ++ word).length := by
    rw [length_bearer, List.length_append, hlength]
  have hnext : (utf8Bytes text)[(before ++ word).length]? = some b := by
    rw [htext, List.append_assoc, ← List.append_assoc, getElem?_append_head, hcases]
    rfl
  have hplain : isWordByte b = false := by grind
  have hskip : skipWhitespace (utf8Bytes text) (before ++ word).length
      = (before ++ word ++ space).length := by
    rw [htext, List.append_assoc word, ← List.append_assoc before]
    exact skipWhitespace_eq hspace htail
  have hend : credentialValueEnd (utf8Bytes text) (before ++ word ++ space).length
      = (before ++ word ++ space ++ value).length := by
    rw [htext, ← List.append_assoc, ← List.append_assoc, credentialValueEnd_append,
      ← List.length_append]
  have hsplit : utf8Bytes text
      = before ++ word ++ space ++ value ++ tail.dropWhile fun b => !endsCredential b := by
    rw [htext, List.append_assoc _ value, List.takeWhile_append_dropWhile]
    simp
  have hends : ∀ b ∈ (tail.dropWhile fun b => !endsCredential b).head?, endsCredential b := by
    intro b hb
    simpa using head_dropWhile b hb
  have hvalueStart : Boundary (utf8Bytes text) (before ++ word ++ space).length := by
    obtain ⟨space'', last, hlast⟩ : ∃ space'' last, space = space'' ++ [last] :=
      (List.eq_nil_or_concat' space).resolve_left hne
    have hascii := isAscii_of_whitespace last (hspace last (by simp [hlast]))
    rw [hlast, ← List.append_assoc, List.length_append]
    apply boundary_behind_ascii _ hascii
    . exact tail
    . rw [htext, hlast]
      simp
  have hvalueEnd : Boundary (utf8Bytes text) ((before ++ word ++ space).length + value.length) := by
    rw [← List.length_append]
    exact boundary_of_ends hsplit hends
  obtain ⟨candidate, hslice, hcandidate⟩ := slice_parts hsplit hvalueStart hvalueEnd
  rw [← List.length_append] at hslice
  unfold bearerRange
  dsimp only
  rw [hwordEnd, hstarts, hboundary, hskip, hend]
  unfold isWordEndBoundary
  rw [hnext, Option.all_some, hplain, Option.any_some, hb, hslice]
  show Except.ok (if looksLikeBearerCredential candidate then _ else _) = _
  rw [looksLikeBearerCredential_eq, hcandidate]

theorem bearerRange_of_bearerAt {range : Range} (htext : utf8Bytes text = before ++ after)
    (h : BearerAt before after range)
    : bearerRange text before.length = .ok (some range) := by
  obtain ⟨word, space, value, rest, rfl, hstart, hword, hne, hspace, hvalue, hrest, hcredential, rfl⟩
    := h
  have htake : (value ++ rest).takeWhile (fun b => !endsCredential b) = value := by
    apply takeWhile_append_stop
    . intro b hb
      simpa using hvalue b hb
    . intro b hb
      simpa using hrest b hb
  have hfirst : ∀ b ∈ (value ++ rest).head?, ¬isAsciiWhitespace b := by
    have hnonempty : value ≠ [] := by
      rintro rfl
      exact absurd hcredential (by decide)
    intro b hb hspace
    rw [List.head?_append_of_ne_nil _ hnonempty] at hb
    exact hvalue b (List.mem_of_mem_head? hb) (endsCredential_of_whitespace b hspace)
  rw [List.append_assoc _ value] at htext
  have hfound := bearerRange_of_word htext hstart hword hne hspace hfirst
  dsimp only at hfound
  rw [hfound, htake, if_pos hcredential]

theorem bearerRange_eq (htext : utf8Bytes text = before ++ after)
    : ∃ found, bearerRange text before.length = .ok found
        ∧ ∀ range, found = some range ↔ BearerAt before after range := by
  have hfound : ∃ found, bearerRange text before.length = .ok found
      ∧ ∀ range, found = some range → BearerAt before after range := by
    have hsplit : after.take 6 ++ (after.drop 6).takeWhile isAsciiWhitespace
        ++ (after.drop 6).dropWhile isAsciiWhitespace = after := by
      rw [List.append_assoc, List.takeWhile_append_dropWhile, List.take_append_drop]
    have hspace : ∀ b ∈ (after.drop 6).takeWhile isAsciiWhitespace, isAsciiWhitespace b :=
      all_takeWhile
    have hstop : ∀ b ∈ ((after.drop 6).dropWhile isAsciiWhitespace).head?, ¬isAsciiWhitespace b :=
      head_dropWhile
    by_cases hstart : WordStart before
    . by_cases hword : (after.take 6).map toAsciiLowercase = utf8Bytes "bearer"
      . by_cases hne : (after.drop 6).takeWhile isAsciiWhitespace = []
        . -- no space behind the word
          have hnext : (utf8Bytes text)[before.length + (utf8Bytes "bearer").length]?
              = (after.drop 6).head? := by
            rw [htext, length_bearer, List.getElem?_append_right (Nat.le_add_right _ _),
              Nat.add_sub_cancel_left, List.head?_eq_getElem?, List.getElem?_drop]
          have hseparator : ((after.drop 6).head?).any isAsciiWhitespace = false := by
            rw [Option.any_eq_false]
            intro b hb
            by_contra hspace
            rw [Bool.not_eq_false] at hspace
            obtain ⟨rest, hrest⟩ := List.head?_eq_some_iff.mp hb
            rw [hrest, List.takeWhile_cons_of_pos hspace] at hne
            cases hne
          refine ⟨none, ?_, by simp⟩
          unfold bearerRange
          dsimp only
          rw [hnext, hseparator]
          simp
        . generalize (after.drop 6).takeWhile isAsciiWhitespace = space at *
          generalize (after.drop 6).dropWhile isAsciiWhitespace = tail at *
          generalize after.take 6 = word at *
          subst hsplit
          have hread := bearerRange_of_word htext hstart hword hne hspace hstop
          dsimp only at hread
          refine ⟨_, hread, ?_⟩
          intro range hrange
          rw [Option.ite_none_right_eq_some] at hrange
          refine ⟨word, space, tail.takeWhile fun b => !endsCredential b,
            tail.dropWhile fun b => !endsCredential b, ?_, hstart, hword, hne, hspace, ?_, ?_,
            hrange.1, (Option.some.inj hrange.2).symm⟩
          . rw [List.append_assoc _ (tail.takeWhile _), List.takeWhile_append_dropWhile]
          . intro b hb
            simpa using all_takeWhile b hb
          . intro b hb
            simpa using head_dropWhile b hb
      . rw [← startsAsciiCaseInsensitive_bearer, ← htext] at hword
        refine ⟨none, ?_, by simp⟩
        unfold bearerRange
        simp [hword]
    . rw [← isWordStartBoundary_iff, ← htext] at hstart
      refine ⟨none, ?_, by simp⟩
      unfold bearerRange
      simp [hstart]
  obtain ⟨found, hread, hsound⟩ := hfound
  refine ⟨found, hread, fun range => ⟨hsound range, fun h => ?_⟩⟩
  exact Except.ok.inj (hread.symm.trans (bearerRange_of_bearerAt htext h))

end

def FoundAt (before after : List UInt8) (range : Range) : Prop :=
  BearerAt before after range ∨ SecretAt before after range

def FoundFrom (before after : List UInt8) (range : Range) : Prop :=
  ∃ ahead rest, after = ahead ++ rest ∧ ¬Skipped (before ++ ahead) rest
    ∧ FoundAt (before ++ ahead) rest range

section

variable {text : String} {before after : List UInt8} {range : Range}

theorem not_foundAt_nil : ¬FoundAt before [] range := by
  rintro (⟨word, space, value, rest, hnil, _, hword, _⟩ | ⟨value, rest, hnil, _, hsecret, _⟩)
  . have hempty : word = [] := by simp_all
    rw [hempty] at hword
    exact absurd hword (by decide)
  . have hempty : value = [] := by simp_all
    rw [hempty] at hsecret
    revert hsecret
    unfold SecretStart
    decide

theorem secretStart_cons (h : SecretStart after)
    : ∃ b rest, after = b :: rest ∧ b = 0x73 := by
  rcases h with ⟨rest, rfl⟩ | ⟨rest, rfl⟩
  . exact ⟨_, _, rfl, by decide⟩
  . exact ⟨_, _, rfl, by decide⟩

theorem prefix_of_prefix_append {needle value rest : List UInt8}
    (hneedle : ∀ b ∈ needle, ¬endsCredential b) (hrest : ∀ b ∈ rest.head?, endsCredential b)
    ( h : needle <+: value ++ rest)
    : needle <+: value := by
  rcases List.prefix_or_prefix_of_prefix h (List.prefix_append value rest) with h' | ⟨more, rfl⟩
  . exact h'
  . rw [List.prefix_append_right_inj] at h
    cases more with
    | nil => simp
    | cons b more =>
      obtain ⟨behind, rfl⟩ := h
      exact absurd (hrest b rfl) (hneedle b (by simp))

theorem secretStart_append {value rest : List UInt8} (hrest : ∀ b ∈ rest.head?, endsCredential b)
    : SecretStart (value ++ rest) ↔ SecretStart value := by
  have hdash : ∀ b ∈ utf8Bytes "sk-", ¬endsCredential b := Text.forall_mem_of_all (by decide)
  have hproj : ∀ b ∈ utf8Bytes "sk_proj", ¬endsCredential b := Text.forall_mem_of_all (by decide)
  constructor
  . rintro (h | h)
    . exact .inl (prefix_of_prefix_append hdash hrest h)
    . exact .inr (prefix_of_prefix_append hproj hrest h)
  . rintro (h | h)
    . exact .inl (h.trans (List.prefix_append _ _))
    . exact .inr (h.trans (List.prefix_append _ _))

theorem takeWhile_credential {value rest : List UInt8} (hvalue : ∀ b ∈ value, ¬endsCredential b)
    (hrest : ∀ b ∈ rest.head?, endsCredential b)
    : (value ++ rest).takeWhile (fun b => !endsCredential b) = value := by
  apply takeWhile_append_stop
  . intro b hb
    simpa using hvalue b hb
  . intro b hb
    simpa using hrest b hb

theorem secretAt_iff {value : List UInt8} (hvalue : ∀ b ∈ value, ¬endsCredential b)
    (hafter : ∀ b ∈ after.head?, endsCredential b)
    : SecretAt before (value ++ after) range
        ↔ WordStart before ∧ SecretStart value
          ∧ range = (before.length, (before ++ value).length) := by
  constructor
  . rintro ⟨value', rest', hsplit, hstart, hsecret, hvalue', hrest', hrange⟩
    have hsame : value = value' := by
      rw [← takeWhile_credential hvalue hafter, hsplit, takeWhile_credential hvalue' hrest']
    rw [hsame]
    exact ⟨hstart, hsecret, hrange⟩
  . rintro ⟨hstart, hsecret, hrange⟩
    exact ⟨value, after, rfl, hstart, hsecret, hvalue, hafter, hrange⟩

theorem foundFrom_cons {b : UInt8} (hskipped : ¬Skipped before (b :: after))
    : FoundFrom before (b :: after) range
        ↔ FoundAt before (b :: after) range ∨ FoundFrom (before ++ [b]) after range := by
  constructor
  . rintro ⟨ahead, rest, hsplit, hseen, hfound⟩
    cases ahead with
    | nil =>
      rw [List.nil_append] at hsplit
      rw [List.append_nil, ← hsplit] at hfound
      exact .inl hfound
    | cons first ahead =>
      obtain ⟨rfl, rfl⟩ := List.cons.inj hsplit
      right
      refine ⟨ahead, rest, rfl, ?_, ?_⟩
      . simpa using hseen
      . simpa using hfound
  . rintro (hfound | ⟨ahead, rest, rfl, hseen, hfound⟩)
    . exact ⟨[], b :: after, rfl, by simpa using hskipped, by simpa using hfound⟩
    . exact ⟨b :: ahead, rest, rfl, by simpa using hseen, by simpa using hfound⟩

theorem foundFrom_secret {value : List UInt8} (hskipped : ¬Skipped before (value ++ after))
    (hstart : WordStart before) (hsecret : SecretStart value)
    (hvalue : ∀ b ∈ value, ¬endsCredential b)
    : FoundFrom before (value ++ after) range
        ↔ FoundAt before (value ++ after) range ∨ FoundFrom (before ++ value) after range := by
  constructor
  . rintro ⟨ahead, rest, hsplit, hseen, hfound⟩
    rcases List.append_eq_append_iff.mp hsplit with ⟨more, rfl, hrest⟩ | ⟨more, hmore, hrest⟩
    . right
      refine ⟨more, rest, hrest, ?_, ?_⟩
      . simpa using hseen
      . simpa using hfound
    . cases more with
      | nil =>
        right
        rw [List.append_nil] at hmore
        rw [List.nil_append] at hrest
        rw [← hmore] at hseen hfound
        exact ⟨[], rest, hrest.symm, by simpa using hseen, by simpa using hfound⟩
      | cons b more =>
        by_cases hahead : ahead = []
        . rw [hahead, List.append_nil] at hfound
          rw [hahead, List.nil_append] at hsplit
          rw [hsplit]
          exact .inl hfound
        . -- a position inside the key is jumped over
          exfalso
          apply hseen
          refine ⟨before, ahead, b, more ++ after, rfl, hrest, hahead, hstart, ?_, ?_⟩
          . rw [← hsplit]
            rcases hsecret with h | h
            . exact .inl (h.trans (List.prefix_append _ _))
            . exact .inr (h.trans (List.prefix_append _ _))
          . intro x hx
            apply hvalue
            rw [hmore]
            simp only [List.mem_append, List.mem_cons, List.not_mem_nil, or_false] at hx ⊢
            tauto
  . rintro (hfound | ⟨ahead, rest, rfl, hseen, hfound⟩)
    . exact ⟨[], _, rfl, by simpa using hskipped, by simpa using hfound⟩
    . refine ⟨value ++ ahead, rest, by simp, ?_, ?_⟩
      . simpa using hseen
      . simpa using hfound

theorem not_foundFrom_nil : ¬FoundFrom before [] range := by
  rintro ⟨ahead, rest, hsplit, _, hfound⟩
  obtain ⟨rfl, rfl⟩ := List.append_eq_nil_iff.mp hsplit.symm
  exact not_foundAt_nil hfound

theorem scanCredentials_end {fuel : Nat} (htext : utf8Bytes text = before)
    : scanCredentials text fuel before.length = .ok [] := by
  cases fuel with
  | zero => rfl
  | succ fuel =>
    unfold scanCredentials
    dsimp only
    rw [htext, if_neg (lt_irrefl _)]

theorem not_skipped_step {b : UInt8} (hskipped : ¬Skipped before (b :: after))
    (hsecret : ¬(WordStart before ∧ SecretStart (b :: after)))
    : ¬Skipped (before ++ [b]) after := by
  rintro ⟨outer, inner, next, rest, hsplit, rfl, hne, hstart, hinner, hplain⟩
  obtain ⟨inner, last, rfl⟩ := (List.eq_nil_or_concat' inner).resolve_left hne
  rw [← List.append_assoc] at hsplit
  obtain ⟨rfl, hlast⟩ := List.append_inj' hsplit rfl
  obtain rfl : b = last := by simpa using hlast
  rw [List.append_assoc, List.singleton_append] at hinner
  cases inner with
  | nil =>
    rw [List.append_nil] at hsecret
    exact hsecret ⟨hstart, hinner⟩
  | cons first inner =>
    apply hskipped
    refine ⟨outer, first :: inner, b, next :: rest, rfl, rfl, by simp, hstart, hinner, ?_⟩
    intro x hx
    apply hplain
    simp only [List.mem_append] at hx ⊢
    exact .inl hx

theorem not_skipped_behind {value : List UInt8} (hafter : ∀ b ∈ after.head?, endsCredential b)
    : ¬Skipped (before ++ value) after := by
  rintro ⟨outer, inner, b, rest, _, rfl, _, _, _, hplain⟩
  exact hplain b (by simp) (hafter b rfl)

theorem scanCredentials_eq {fuel : Nat} (htext : utf8Bytes text = before ++ after)
    (hfuel : after.length ≤ fuel) (hskipped : ¬Skipped before after)
    : ∃ found, scanCredentials text fuel before.length = .ok found
        ∧ ∀ range, range ∈ found ↔ FoundFrom before after range := by
  induction fuel generalizing before after with
  | zero =>
    obtain rfl := List.eq_nil_of_length_eq_zero (Nat.le_zero.mp hfuel)
    rw [List.append_nil] at htext
    refine ⟨[], scanCredentials_end htext, fun range => ?_⟩
    simpa using not_foundFrom_nil
  | succ fuel ih =>
    cases hcases : after with
    | nil =>
      rw [hcases, List.append_nil] at htext
      refine ⟨[], scanCredentials_end htext, fun range => ?_⟩
      simpa using not_foundFrom_nil
    | cons b after' =>
      have hlt : before.length < (utf8Bytes text).length := by
        rw [htext, hcases]
        simp
      obtain ⟨bearer, hbearer, hbearerIff⟩ := bearerRange_eq htext
      by_cases hsecret : WordStart before ∧ SecretStart after
      . have hstarts : startsSecretKey (utf8Bytes text) before.length = true := by
          rw [htext, startsSecretKey_iff]
          exact hsecret
        have hvalue : ∀ b ∈ after.takeWhile (fun b => !endsCredential b), ¬endsCredential b := by
          intro b hb
          simpa using all_takeWhile b hb
        have hrest : ∀ b ∈ (after.dropWhile fun b => !endsCredential b).head?, endsCredential b := by
          intro b hb
          simpa using head_dropWhile b hb
        have hend : credentialValueEnd (utf8Bytes text) before.length
            = (before ++ after.takeWhile fun b => !endsCredential b).length := by
          rw [htext, credentialValueEnd_append, List.length_append]
        have hsplit : after.takeWhile (fun b => !endsCredential b)
            ++ after.dropWhile (fun b => !endsCredential b) = after :=
          List.takeWhile_append_dropWhile
        generalize after.takeWhile (fun b => !endsCredential b) = value at *
        generalize after.dropWhile (fun b => !endsCredential b) = rest at *
        subst hsplit
        have hkey := (secretStart_append hrest).mp hsecret.2
        obtain ⟨first, value', rfl, _⟩ := secretStart_cons hkey
        obtain ⟨found, hscan, hfound⟩ := ih (htext.trans (List.append_assoc _ _ _).symm)
          (by rw [List.length_append, List.length_cons] at hfuel; omega)
          (not_skipped_behind hrest)
        refine ⟨bearer.toList ++ (before.length, (before ++ first :: value').length) :: found, ?_, ?_⟩
        . unfold scanCredentials
          dsimp only
          rw [if_pos hlt, hbearer]
          dsimp only [bind, Except.bind]
          rw [if_pos hstarts, hend, hscan]
          rfl
        . intro range
          rw [← hcases, foundFrom_secret hskipped hsecret.1 hkey hvalue, FoundAt,
            secretAt_iff hvalue hrest, ← hbearerIff, ← hfound]
          simp [hsecret.1, hkey]
          tauto
      . have hstarts : ¬startsSecretKey (utf8Bytes text) before.length = true := by
          rw [htext, startsSecretKey_iff]
          exact hsecret
        rw [hcases] at htext hfuel hskipped hsecret hbearerIff
        have htext' : utf8Bytes text = (before ++ [b]) ++ after' := by
          rw [htext]
          simp
        obtain ⟨found, hscan, hfound⟩ := ih htext' (by rw [List.length_cons] at hfuel; omega)
          (not_skipped_step hskipped hsecret)
        refine ⟨bearer.toList ++ found, ?_, ?_⟩
        . rw [List.length_append, List.length_singleton] at hscan
          unfold scanCredentials
          dsimp only
          rw [if_pos hlt, hbearer]
          dsimp only [bind, Except.bind]
          rw [if_neg hstarts, hscan]
          rfl
        . intro range
          have hnone : ¬SecretAt before (b :: after') range := by
            rintro ⟨value, rest, hsplit, hstart, hkey, hvalue, hrest, _⟩
            apply hsecret
            rw [hsplit, secretStart_append hrest]
            exact ⟨hstart, hkey⟩
          rw [foundFrom_cons hskipped, FoundAt, ← hbearerIff, ← hfound]
          simp [hnone]

end

section

variable {before value rest : List UInt8}

theorem ValueAt.ends {lead : List UInt8} (h : ValueAt lead value rest)
    : ∀ b ∈ rest.head?, endsCredential b := by
  cases h with
  | quoted _ hquote _ _ hrest =>
    intro b hb
    rw [hrest b hb]
    exact endsCredential_of_quote _ hquote
  | bare _ _ _ hrest => exact hrest

theorem ValueAt.ne_nil {lead : List UInt8} (h : ValueAt lead value rest) : value ≠ [] := by
  cases h <;> assumption

theorem Redacts.ends (h : Redacts before value rest) : ∀ b ∈ rest.head?, endsCredential b := by
  cases h with
  | assigned _ _ hvalue => exact hvalue.ends
  | bearer _ _ _ _ _ hrest _ _ => exact hrest
  | secretKey _ _ _ hrest => exact hrest

theorem Redacts.ne_nil (h : Redacts before value rest) : value ≠ [] := by
  cases h with
  | assigned _ _ hvalue => exact hvalue.ne_nil
  | bearer _ _ _ _ _ _ hcredential _ =>
    rintro rfl
    exact absurd hcredential (by decide)
  | secretKey _ hsecret _ _ =>
    obtain ⟨b, value', rfl, _⟩ := secretStart_cons hsecret
    simp

theorem Redacts.starts (h : Redacts before value rest)
    : (∃ front b, before = front ++ [b] ∧ (isSeparator b ∨ isAsciiWhitespace b ∨ isQuote b))
      ∨ WordStart before ∧ SecretStart value := by
  cases h with
  | @assigned before lead _ _ separator _ hseparator hvalue =>
    left
    cases hvalue with
    | @quoted space _ _ quote _ hquote _ _ _ =>
      exact ⟨before ++ separator :: space, quote, by simp, .inr (.inr hquote)⟩
    | bare hspace _ _ _ =>
      rcases List.eq_nil_or_concat' lead with rfl | ⟨space, b, rfl⟩
      . exact ⟨before, separator, rfl, .inl hseparator⟩
      . exact ⟨before ++ separator :: space, b, by simp, .inr (.inl (hspace b (by simp)))⟩
  | @bearer before word space _ _ _ _ hne hspace _ _ _ _ =>
    left
    obtain ⟨space, b, rfl⟩ := (List.eq_nil_or_concat' space).resolve_left hne
    exact ⟨before ++ word ++ space, b, by simp, .inr (.inl (hspace b (by simp)))⟩
  | secretKey hstart hsecret _ _ => exact .inr ⟨hstart, hsecret⟩

theorem Redacts.boundary {text : String} (h : Redacts before value rest)
    (htext : utf8Bytes text = before ++ value ++ rest)
    : Boundary (utf8Bytes text) before.length
      ∧ Boundary (utf8Bytes text) (before.length + value.length) := by
  constructor
  . rcases h.starts with ⟨front, b, rfl, hb⟩ | ⟨_, hsecret⟩
    . have hascii : IsAscii b := by
        rcases hb with hb | hb | hb
        . exact isAscii_of_separator b hb
        . exact isAscii_of_whitespace b hb
        . exact isAscii_of_quote b hb
      rw [List.length_append]
      apply boundary_behind_ascii _ hascii
      . exact value ++ rest
      . rw [htext]
        simp
    . obtain ⟨b, value', rfl, hb⟩ := secretStart_cons hsecret
      have hascii : IsAscii b := by
        rw [hb]
        decide
      apply boundary_of_ascii _ hascii
      . exact value' ++ rest
      . rw [htext]
        simp
  . rw [← List.length_append]
    exact boundary_of_ends htext h.ends

end

def Covered (bytes : List UInt8) (i : Nat) : Prop :=
  ∃ before value rest, bytes = before ++ value ++ rest ∧ Redacts before value rest
    ∧ before.length ≤ i ∧ i < before.length + value.length

section

variable {bytes : List UInt8} {range : Range}

theorem Assigned.redacts (h : Assigned bytes range)
    : ∃ before value rest, bytes = before ++ value ++ rest ∧ Redacts before value rest
      ∧ range = (before.length, before.length + value.length) := by
  obtain ⟨before, separator, lead, value, rest, rfl, hseparator, hassigns, hvalue, rfl⟩ := h
  refine ⟨before ++ separator :: lead, value, rest, by simp, .assigned hassigns hseparator hvalue, ?_⟩
  simp only [List.length_append, List.length_cons, Prod.mk.injEq]
  omega

theorem FoundFrom.redacts (h : FoundFrom [] bytes range)
    : ∃ before value rest, bytes = before ++ value ++ rest ∧ Redacts before value rest
      ∧ range = (before.length, before.length + value.length) := by
  obtain ⟨before, after, rfl, hseen, hfound⟩ := h
  rw [List.nil_append] at hseen hfound
  rcases hfound with hbearer | hsecret
  . obtain ⟨word, space, value, rest, rfl, hstart, hword, hne, hspace, hvalue, hrest, hcredential, rfl⟩
      := hbearer
    refine ⟨before ++ word ++ space, value, rest, by simp,
      .bearer hstart hword hne hspace hvalue hrest hcredential hseen, ?_⟩
    simp [Nat.add_assoc]
  . obtain ⟨value, rest, rfl, hstart, hkey, hvalue, hrest, rfl⟩ := hsecret
    exact ⟨before, value, rest, by simp, .secretKey hstart hkey hvalue hrest, by simp⟩

theorem foundFrom_of_secret {before value rest : List UInt8} (hstart : WordStart before)
    (hsecret : SecretStart value) (hvalue : ∀ b ∈ value, ¬endsCredential b)
    (hrest : ∀ b ∈ rest.head?, endsCredential b)
    : ∃ first, first ≤ before.length
        ∧ FoundFrom [] (before ++ value ++ rest) (first, (before ++ value).length) := by
  induction hn : before.length using Nat.strong_induction_on generalizing before value with
  | _ n ih =>
    by_cases hskipped : Skipped before (value ++ rest)
    . obtain ⟨outer, inner, b, _, rfl, _, hne, houter, hinner, hplain⟩ := hskipped
      rw [← List.append_assoc, secretStart_append hrest] at hinner
      have hlt : outer.length < n := by
        have hpos := List.length_pos_of_ne_nil hne
        rw [List.length_append] at hn
        omega
      have hlong : ∀ x ∈ inner ++ value, ¬endsCredential x := by
        intro x hx
        rw [List.mem_append] at hx
        rcases hx with hx | hx
        . exact hplain x (List.mem_append_left _ hx)
        . exact hvalue x hx
      obtain ⟨first, hfirst, hfound⟩ := ih outer.length hlt houter hinner hlong rfl
      refine ⟨first, by omega, ?_⟩
      simpa using hfound
    . refine ⟨before.length, hn.le, before, value ++ rest, by simp, hskipped, .inr ?_⟩
      exact ⟨value, rest, rfl, hstart, hsecret, hvalue, hrest, rfl⟩

theorem covered_of_ranges {assignments credentials : List Range}
    (hassignments : ∀ range, range ∈ assignments ↔ Assigned bytes range)
    (hcredentials : ∀ range, range ∈ credentials ↔ FoundFrom [] bytes range) (i : Nat)
    : Covers (assignments ++ credentials) i ↔ Covered bytes i := by
  unfold Covers
  simp only [List.mem_append, hassignments, hcredentials]
  constructor
  . rintro ⟨range, hrange, hlow, hhigh⟩
    have hredacts : ∃ before value rest, bytes = before ++ value ++ rest
        ∧ Redacts before value rest
        ∧ range = (before.length, before.length + value.length) := by
      rcases hrange with hrange | hrange
      . exact hrange.redacts
      . exact hrange.redacts
    obtain ⟨before, value, rest, hbytes, hredacts, rfl⟩ := hredacts
    exact ⟨before, value, rest, hbytes, hredacts, hlow, hhigh⟩
  . rintro ⟨before, value, rest, rfl, hredacts, hlow, hhigh⟩
    cases hredacts with
    | @assigned before lead _ _ separator hassigns hseparator hvalue =>
      rw [List.length_append, List.length_cons] at hlow hhigh
      refine ⟨_, .inl ⟨before, separator, lead, value, rest, by simp, hseparator, hassigns, hvalue,
        rfl⟩, ?_, ?_⟩
      . dsimp only
        omega
      . dsimp only
        omega
    | @bearer before word space _ _ hstart hword hne hspace hvalue hrest hcredential hscanned =>
      have hfound : FoundFrom [] (before ++ word ++ space ++ value ++ rest)
          ((before ++ word ++ space).length, (before ++ word ++ space ++ value).length) := by
        refine ⟨before, word ++ space ++ value ++ rest, by simp, hscanned, .inl ?_⟩
        exact ⟨word, space, value, rest, rfl, hstart, hword, hne, hspace, hvalue, hrest, hcredential,
          rfl⟩
      rw [← List.length_append] at hhigh
      exact ⟨_, .inr hfound, hlow, hhigh⟩
    | secretKey hstart hsecret hvalue hrest =>
      obtain ⟨first, hfirst, hfound⟩ := foundFrom_of_secret hstart hsecret hvalue hrest
      rw [← List.length_append] at hhigh
      exact ⟨_, .inr hfound, hfirst.trans hlow, hhigh⟩

end

open Classical in
noncomputable def skeleton (bytes : List UInt8) : Skeleton :=
  skeletonFrom (Covered bytes) false 0 bytes

theorem render_skeleton_cons_ne_nil (b : UInt8) (bytes : List UInt8)
    : (skeleton (b :: bytes)).render ≠ [] := by
  unfold skeleton skeletonFrom
  split
  . rw [if_neg (by simp), List.singleton_append, Skeleton.render_cons]
    apply List.append_ne_nil_of_left_ne_nil
    decide
  . rw [Skeleton.render_cons]
    apply List.append_ne_nil_of_left_ne_nil
    simp [Skeleton.piece]

theorem redactSensitive_eq (text : String)
    : ∃ out, redactSensitive text = .ok out
        ∧ utf8Bytes out = (skeleton (utf8Bytes text)).render := by
  obtain ⟨assignments, hread, hassignments⟩ := assignmentRanges_eq text
  have hskipped : ¬Skipped [] (utf8Bytes text) := by
    rintro ⟨outer, inner, _, _, hnil, _, hne, _⟩
    exact hne (List.append_eq_nil_iff.mp hnil.symm).2
  obtain ⟨credentials, hscan, hcredentials⟩ := scanCredentials_eq rfl le_rfl hskipped
  have hbounds : ∀ range ∈ assignments.reduceOption ++ credentials,
      Boundary (utf8Bytes text) range.1 ∧ Boundary (utf8Bytes text) range.2
        ∧ range.2 ≤ (utf8Bytes text).length := by
    intro range hrange
    have hredacts : ∃ before value rest, utf8Bytes text = before ++ value ++ rest
        ∧ Redacts before value rest
        ∧ range = (before.length, before.length + value.length) := by
      rw [List.mem_append, hassignments, hcredentials] at hrange
      rcases hrange with hrange | hrange
      . exact hrange.redacts
      . exact hrange.redacts
    obtain ⟨before, value, rest, htext, hredacts, rfl⟩ := hredacts
    refine ⟨(hredacts.boundary htext).1, (hredacts.boundary htext).2, ?_⟩
    rw [htext]
    simp
  obtain ⟨out, hout, hbytes⟩ := replaceSensitiveRanges_eq hbounds
  refine ⟨out, ?_, ?_⟩
  . unfold redactSensitive
    dsimp only [bind, Except.bind]
    rw [hread]
    dsimp only
    rw [show (0 : Nat) = ([] : List UInt8).length from rfl, hscan]
    exact hout
  . classical
    rw [hbytes]
    unfold skeleton
    congr 1
    apply skeletonFrom_congr
    intro j _
    exact covered_of_ranges hassignments hcredentials (0 + j)

end Memory
