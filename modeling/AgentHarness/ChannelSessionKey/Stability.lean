import AgentHarness.Lib.Marker
import AgentHarness.ChannelSessionKey

/-!
Binding a session key to its lane again.
-/

namespace ChannelSessionKey

-- the characters of an account binding behind `acct-`
def isPlain (ch : Char) : Bool :=
  Text.isAsciiGraphic ch && ch ≠ ':'

theorem isPlain_hexDigit : ∀ n < 16, isPlain (Text.hexDigit n) := by
  decide

theorem isPlain_hex (bytes : List UInt8) : ∀ ch ∈ (Text.hex bytes).toList, isPlain ch := by
  intro ch hch
  unfold Text.hex at hch
  rw [String.toList_ofList, List.mem_flatMap] at hch
  obtain ⟨byte, _, hch⟩ := hch
  have hbyte := byte.toNat_lt
  simp only [List.mem_cons, List.not_mem_nil, or_false] at hch
  cases hch with
  | inl hhigh =>
    rw [hhigh]
    exact isPlain_hexDigit _ (by omega)
  | inr hlow =>
    rw [hlow]
    exact isPlain_hexDigit _ (by omega)

def plainChar (ch : Char) : Char :=
  if isAsciiAlphanumeric ch || ch = '-' || ch = '_' || ch = '.' then ch.toLower else '_'

theorem isPlain_plainChar (ch : Char) : isPlain (plainChar ch) := by
  by_cases hascii : ch.toNat < 128
  . have hall : ∀ n < 128, isPlain (plainChar (Char.ofNat n)) := by decide
    rw [← Char.ofNat_toNat ch]
    exact hall _ hascii
  . have hother : plainChar ch = '_' := by
      unfold plainChar
      rw [if_neg]
      simp only [isAsciiAlphanumeric, Char.isDigit, Char.le_def, UInt32.le_iff_toNat_le, Char.ext_iff,
        ← UInt32.toNat_inj, Bool.or_eq_true, Bool.and_eq_true, decide_eq_true_eq]
      have hnat : ch.val.toNat = ch.toNat := rfl
      simp only [UInt32.reduceToNat, hnat, Char.reduceVal]
      omega
    rw [hother]
    decide

theorem isPlain_normalizeKeyPart (value : String)
    : ∀ ch ∈ (normalizeKeyPart value).toList, isPlain ch := by
  have hnormalize : normalizeKeyPart value
      = if Text.mapChars plainChar value = "" then "unknown" else Text.mapChars plainChar value := rfl
  rw [hnormalize]
  split
  . exact List.all_eq_true.mp (by decide)
  . intro ch hch
    unfold Text.mapChars at hch
    rw [String.toList_ofList, List.mem_map] at hch
    obtain ⟨source, _, rfl⟩ := hch
    exact isPlain_plainChar source

def IsBinding (expected : String) : Prop :=
  ∃ account, expected = "acct-" ++ account ∧ ∀ ch ∈ account.toList, isPlain ch

theorem isBinding_expected (platform accountId channelId userId agentId : String)
    : IsBinding (expectedAccountBinding platform accountId channelId userId agentId) := by
  unfold expectedAccountBinding
  dsimp only
  split
  . exact ⟨_, rfl, isPlain_normalizeKeyPart accountId⟩
  . next lane _ =>
    split
    . exact ⟨_, rfl, isPlain_normalizeKeyPart accountId⟩
    . next identityHash hhash =>
      unfold Lane.FullLaneKeyV1.identityHash at hhash
      split at hhash
      . cases hhash
      . next bytes _ =>
        rw [Except.ok.injEq] at hhash
        rw [← hhash]
        exact ⟨_, rfl, isPlain_hex _⟩

theorem isPlain_iff {ch : Char} (h : isPlain ch)
    : ch ≠ ':' ∧ Text.isWhitespace ch = false ∧ Text.isControl ch = false := by
  simp only [isPlain, Text.isAsciiGraphic, Bool.and_eq_true, decide_eq_true_eq] at h
  have hall : ∀ n < 0x7f, 0x21 ≤ n → Text.isWhitespace (Char.ofNat n) = false
      ∧ Text.isControl (Char.ofNat n) = false := by
    decide +kernel
  refine ⟨h.2, ?_⟩
  rw [← Char.ofNat_toNat ch]
  exact hall _ (by omega) h.1.1

theorem isPlain_of_isDigit {ch : Char} (h : ch.isDigit) : isPlain ch := by
  have hbounds : 48 ≤ ch.toNat ∧ ch.toNat ≤ 57 := by
    simp only [Char.isDigit, Bool.and_eq_true, decide_eq_true_eq, ge_iff_le,
      UInt32.le_iff_toNat_le] at h
    exact h
  have hall : ∀ n ≤ 57, 48 ≤ n → isPlain (Char.ofNat n) := by decide
  rw [← Char.ofNat_toNat ch]
  exact hall _ hbounds.2 hbounds.1

theorem colon_notMem {chars : List Char} (h : ∀ ch ∈ chars, isPlain ch) : ':' ∉ chars := by
  intro hmem
  exact (isPlain_iff (h ':' hmem)).1 rfl

theorem cont_isMarker : Text.IsMarker ":cont-" := ⟨':', "cont-".toList, by decide, by decide⟩

theorem acct_isMarker : Text.IsMarker ":acct-" := ⟨':', "acct-".toList, by decide, by decide⟩

theorem IsBinding.colon {expected : String} (h : IsBinding expected) : ':' ∉ expected.toList := by
  obtain ⟨account, rfl, hplain⟩ := h
  rw [String.toList_append, List.mem_append]
  intro hmem
  cases hmem with
  | inl hmem => exact absurd hmem (by decide)
  | inr hmem => exact colon_notMem hplain hmem

theorem IsBinding.plain {expected : String} (h : IsBinding expected)
    : ∀ ch ∈ expected.toList, isPlain ch := by
  obtain ⟨account, rfl, hplain⟩ := h
  rw [String.toList_append, List.forall_mem_append]
  exact ⟨List.all_eq_true.mp (by decide), hplain⟩

theorem contains_bound {expected : String} (h : IsBinding expected) (root : String)
    : Text.contains (root ++ ":" ++ expected) ":cont-" = Text.contains root ":cont-" := by
  have hsegment : ¬(':' :: "cont-".toList) <:+: ':' :: expected.toList := by
    apply Text.not_marker_infix_segment h.colon
    obtain ⟨account, rfl, _⟩ := h
    intro hlead
    simp at hlead
  have hmarker : ":cont-".toList = ':' :: "cont-".toList := by decide
  rw [Bool.eq_iff_iff, Text.contains_iff, Text.contains_iff, hmarker]
  have hlist : (root ++ ":" ++ expected).toList = root.toList ++ ':' :: expected.toList := by simp
  rw [hlist, Text.marker_infix_append (by decide)]
  simp only [hsegment, or_false]

theorem validateRaw_eq_ok {value raw : String}
    : validateRaw value = .ok raw
        ↔ value ≠ "" ∧ Text.trim value = value ∧ (∀ ch ∈ value.toList, Text.isControl ch = false)
          ∧ raw = value := by
  unfold validateRaw
  split
  . next h =>
    simp only [Bool.or_eq_true, decide_eq_true_eq, List.any_eq_true] at h
    simp only [reduceCtorEq, false_iff, not_and]
    intro hne htrim hcontrol
    obtain (h | h) | ⟨ch, hch, h⟩ := h
    . exact absurd h hne
    . exact absurd htrim h
    . rw [hcontrol ch hch] at h
      cases h
  . next h =>
    simp only [Bool.or_eq_true, decide_eq_true_eq, List.any_eq_true, not_or, not_exists,
      not_and, ne_eq, not_not, Bool.not_eq_true] at h
    rw [Except.ok.injEq]
    constructor
    . intro heq
      exact ⟨h.1.1, h.1.2, h.2, heq.symm⟩
    . intro heq
      exact heq.2.2.2.symm

-- what a continuation suffix says, and what the value says without one
inductive Continues (value root : String) (index : Nat) : Prop where
  | none (hroot : root = value) (hindex : index = 0) (hmarker : ¬Text.contains value ":cont-")
  | some (suffix : String) (hsplit : Text.rsplitOnce ":cont-" value = some (root, suffix))
      (hroot : root ≠ "") (hdigits : ∀ ch ∈ suffix.toList, ch.isDigit) (hpos : 0 < index)
      (hmax : index ≤ u64Max)

theorem parseTerminalContinuation_ok {value root : String} {index : Nat}
    (h : parseTerminalContinuation value = .ok (root, index))
    : Continues value root index := by
  unfold parseTerminalContinuation at h
  split at h
  . next hnone =>
    obtain ⟨rfl, rfl⟩ := Prod.mk.inj (Except.ok.inj h)
    exact .none rfl rfl ((Text.rsplitOnce_eq_none cont_isMarker).mp hnone)
  . next lead suffix hsplit =>
    split at h
    . cases h
    . next hvalid =>
      dsimp only at h
      split at h
      . cases h
      . next hindex =>
        obtain ⟨rfl, rfl⟩ := Prod.mk.inj (Except.ok.inj h)
        simp only [Bool.or_eq_true, decide_eq_true_eq, Bool.not_eq_true', not_or,
          Bool.not_eq_false, List.all_eq_true] at hvalid hindex
        refine .some suffix hsplit hvalid.1.1 hvalid.2 ?_ ?_
        . omega
        . omega

theorem parseTerminalContinuation_unmarked {value : String} (h : ¬Text.contains value ":cont-")
    : parseTerminalContinuation value = .ok (value, 0) := by
  unfold parseTerminalContinuation
  rw [(Text.rsplitOnce_eq_none cont_isMarker).mpr h]

theorem not_contains_of_plain {value : String} (h : ∀ ch ∈ value.toList, isPlain ch)
    : ¬Text.contains value ":cont-" := by
  have hmarker : ":cont-".toList = ':' :: "cont-".toList := by decide
  rw [Text.contains_iff, hmarker]
  exact Text.not_marker_infix (colon_notMem h)

theorem parseTerminalContinuation_marked {root : String} (hroot : root ≠ "") {index : Nat}
    (hpos : 0 < index) (hmax : index ≤ u64Max)
    : parseTerminalContinuation (root ++ ":cont-" ++ toString index) = .ok (root, index) := by
  have hdigits : ∀ ch ∈ (toString index).toList, ch.isDigit := Text.isDigit_toString
  have hplain := not_contains_of_plain fun ch hch => isPlain_of_isDigit (hdigits ch hch)
  have hall : (toString index).toList.all Char.isDigit = true := List.all_eq_true.mpr hdigits
  unfold parseTerminalContinuation
  rw [Text.rsplitOnce_append cont_isMarker root hplain]
  simp only [hroot, Text.toString_ne_empty, hall, Text.digitsValue_toString]
  have hvalid : ¬(index > u64Max ∨ index = 0) := by omega
  simp [hvalid]

def marksContinuationOnce (rawSessionKey : String) : Bool :=
  match Text.rsplitOnce ":cont-" rawSessionKey with
  | none => true
  | some (lead, _) => !Text.contains lead ":cont-"

theorem marksContinuationOnce_of_none {raw : String} (h : ¬Text.contains raw ":cont-")
    : marksContinuationOnce raw = true := by
  unfold marksContinuationOnce
  rw [(Text.rsplitOnce_eq_none cont_isMarker).mpr h]

theorem marksContinuationOnce_of_some {raw lead suffix : String}
    (h : Text.rsplitOnce ":cont-" raw = some (lead, suffix))
    : marksContinuationOnce raw = !Text.contains lead ":cont-" := by
  unfold marksContinuationOnce
  rw [h]

/-
What is known of a key that was bound from a raw key: the root is the start of the raw key, and it
has a continuation marker exactly when the raw key has a second one.
-/
structure Bound (raw root : String) (index : Nat) : Prop where
  valid : validateRaw raw = .ok raw
  lead : root.toList <+: raw.toList
  root_ne : root ≠ ""
  single : containsAccountBinding root = false
  max : index ≤ u64Max
  unmarked : index = 0 → ¬Text.contains root ":cont-"
  marks : marksContinuationOnce raw = !Text.contains root ":cont-"

theorem boundKey_ok {root expected : String} {index : Nat}
    {normalization : SessionKeyNormalization} {key : CanonicalChannelSessionKey}
    (h : boundKey root expected index normalization = .ok key)
    : root ≠ "" ∧ containsAccountBinding root = false
        ∧ key = { root, accountBinding := expected, continuationIndex := index, normalization } := by
  unfold boundKey validateRoot at h
  grind

theorem Continues.lead {value root : String} {index : Nat} (h : Continues value root index)
    : root.toList <+: value.toList := by
  cases h with
  | none hroot => rw [hroot]
  | some suffix hsplit =>
    rw [Text.rsplitOnce_eq_some hsplit, String.toList_append, String.toList_append,
      List.append_assoc]
    exact List.prefix_append _ _

theorem Continues.max {value root : String} {index : Nat} (h : Continues value root index)
    : index ≤ u64Max := by
  cases h with
  | none _ hindex =>
    rw [hindex]
    exact Nat.zero_le _
  | some _ _ _ _ _ hmax => exact hmax

theorem Continues.unmarked {value root : String} {index : Nat} (h : Continues value root index)
    (hindex : index = 0)
    : ¬Text.contains root ":cont-" := by
  cases h with
  | none hroot _ hmarker =>
    rw [hroot]
    exact hmarker
  | some _ _ _ _ hpos => omega

theorem Continues.marks {value root : String} {index : Nat} (h : Continues value root index)
    : marksContinuationOnce value = !Text.contains root ":cont-" := by
  cases h with
  | none hroot _ hmarker =>
    rw [hroot, marksContinuationOnce_of_none hmarker]
    simpa using hmarker
  | some suffix hsplit => exact marksContinuationOnce_of_some hsplit

section

variable {raw expected : String} {key : CanonicalChannelSessionKey}

theorem bound_of_parse (hvalid : validateRaw raw = .ok raw) (hbinding : IsBinding expected)
    {root : String} {index : Nat}
    (hparse : parseTerminalContinuation raw = .ok (root ++ ":" ++ expected, index))
    (hne : root ≠ "") (hsingle : containsAccountBinding root = false)
    : Bound raw root index := by
  have hcontinues := parseTerminalContinuation_ok hparse
  have hmarker := contains_bound hbinding root
  have hlead := hcontinues.lead
  have hunmarked := hcontinues.unmarked
  have hmarks := hcontinues.marks
  rw [hmarker] at hunmarked hmarks
  refine ⟨hvalid, ?_, hne, hsingle, hcontinues.max, hunmarked, hmarks⟩
  rw [String.toList_append, String.toList_append, List.append_assoc] at hlead
  exact (List.prefix_append _ _).trans hlead

theorem bound_of_duplicate (hvalid : validateRaw raw = .ok raw) (hbinding : IsBinding expected)
    {root : String} {index : Nat}
    (hduplicate : duplicateAccount raw (":" ++ expected) = some (root, index))
    (hne : root ≠ "") (hsingle : containsAccountBinding root = false)
    : Bound raw root index := by
  unfold duplicateAccount at hduplicate
  split at hduplicate
  . cases hduplicate
  . next withoutDuplicate hdrop =>
    split at hduplicate
    . cases hduplicate
    . next boundRoot continuationIndex hparse =>
      split at hduplicate
      . next hpos =>
        rw [Option.map_eq_some_iff] at hduplicate
        obtain ⟨root', hroot, hpair⟩ := hduplicate
        obtain ⟨rfl, rfl⟩ := Prod.mk.inj hpair
        rw [Text.dropTail_eq_some] at hdrop hroot
        have hroot : boundRoot = root' ++ ":" ++ expected := by rw [hroot, String.append_assoc]
        have hcontinues := parseTerminalContinuation_ok hparse
        have hmarker := contains_bound hbinding root'
        rw [← hroot] at hmarker
        cases hcontinues with
        | none _ hindex => omega
        | some suffix hsplit _ hdigits _ hmax =>
          have hwhole : raw = boundRoot ++ ":cont-" ++ (suffix ++ ":" ++ expected) := by
            rw [hdrop, Text.rsplitOnce_eq_some hsplit]
            simp only [String.append_assoc]
          have hplain : ¬Text.contains (suffix ++ ":" ++ expected) ":cont-" := by
            rw [contains_bound hbinding]
            exact not_contains_of_plain fun ch hch => isPlain_of_isDigit (hdigits ch hch)
          have hlast := Text.rsplitOnce_append cont_isMarker boundRoot hplain
          rw [← hwhole] at hlast
          refine ⟨hvalid, ?_, hne, hsingle, hmax, fun _ => by omega, ?_⟩
          . rw [hwhole, hroot]
            simp only [String.toList_append, List.append_assoc]
            exact List.prefix_append _ _
          . rw [marksContinuationOnce_of_some hlast, hmarker]
      . cases hduplicate

theorem parseBound_ok (hbinding : IsBinding expected) (h : parseBound raw expected = .ok key)
    : key.accountBinding = expected ∧ Bound raw key.root key.continuationIndex := by
  unfold parseBound at h
  split at h
  . cases h
  . next value hvalid =>
    obtain rfl : value = raw := (validateRaw_eq_ok.mp hvalid).2.2.2
    dsimp only at h
    split at h
    . next root index hduplicate =>
      obtain ⟨hne, hsingle, rfl⟩ := boundKey_ok h
      exact ⟨rfl, bound_of_duplicate hvalid hbinding hduplicate hne hsingle⟩
    . split at h
      . cases h
      . split at h
        . cases h
        . next boundRoot index hparse =>
          split at h
          . split at h <;> cases h
          . next root hroot =>
            obtain ⟨hne, hsingle, rfl⟩ := boundKey_ok h
            rw [Text.dropTail_eq_some, ← String.append_assoc] at hroot
            rw [hroot] at hparse
            exact ⟨rfl, bound_of_parse hvalid hbinding hparse hne hsingle⟩

theorem bound_of_structural {root : String} {index : Nat}
    (h : parseStructural raw = .ok (root, index)) (hsingle : containsAccountBinding root = false)
    : Bound raw root index := by
  unfold parseStructural at h
  split at h
  . cases h
  . next value hvalid =>
    obtain rfl : value = raw := (validateRaw_eq_ok.mp hvalid).2.2.2
    have hcontinues := parseTerminalContinuation_ok h
    refine ⟨hvalid, hcontinues.lead, ?_, hsingle, hcontinues.max, hcontinues.unmarked,
      hcontinues.marks⟩
    cases hcontinues with
    | none hroot =>
      rw [hroot]
      exact (validateRaw_eq_ok.mp hvalid).1
    | some _ _ hroot => exact hroot

theorem bindForLane_ok {platform accountId channelId userId agentId : String}
    (h : CanonicalChannelSessionKey.bindForLane raw platform accountId channelId userId agentId
      = .ok key)
    : key.accountBinding = expectedAccountBinding platform accountId channelId userId agentId
        ∧ Bound raw key.root key.continuationIndex := by
  have hbinding := isBinding_expected platform accountId channelId userId agentId
  unfold CanonicalChannelSessionKey.bindForLane at h
  generalize expectedAccountBinding platform accountId channelId userId agentId = expected
    at h hbinding ⊢
  dsimp only at h
  split at h
  . next parsed hparse =>
    obtain rfl := Except.ok.inj h
    exact parseBound_ok hbinding hparse
  . split at h
    . cases h
    . next root index hparse =>
      split at h
      . cases h
      . next hsingle =>
        obtain rfl := Except.ok.inj h
        exact ⟨rfl, bound_of_structural hparse (by simpa using hsingle)⟩
  . cases h

def contSuffix (index : Nat) : String :=
  ":cont-" ++ toString index

theorem toList_contSuffix (index : Nat)
    : (contSuffix index).toList = ':' :: ("cont-".toList ++ (toString index).toList) := by
  simp [contSuffix]

theorem isPlain_cont (index : Nat)
    : ∀ ch ∈ "cont-".toList ++ (toString index).toList, isPlain ch := by
  rw [List.forall_mem_append]
  exact ⟨List.all_eq_true.mp (by decide), fun ch hch => isPlain_of_isDigit (Text.isDigit_toString ch hch)⟩

/-
The canonical string of a root, a binding and an index, as the parser meets it.
-/
variable {root : String} {index : Nat} (hbound : Bound raw root index)
  (hbinding : IsBinding expected)
include hbound hbinding

theorem validateRaw_bound (suffix : String) (hsuffix : ∀ ch ∈ suffix.toList, isPlain ch ∨ ch = ':')
    (hlast : ∀ ch ∈ suffix.toList.getLast?, isPlain ch)
    : validateRaw (root ++ ":" ++ expected ++ suffix)
        = .ok (root ++ ":" ++ expected ++ suffix) := by
  obtain ⟨hraw, htrim, hcontrol, _⟩ := validateRaw_eq_ok.mp hbound.valid
  obtain ⟨first, rest, hroot⟩ := List.exists_cons_of_ne_nil
    (fun h => hbound.root_ne (String.toList_inj.mp h))
  have hlist : (root ++ ":" ++ expected ++ suffix).toList
      = root.toList ++ ':' :: (expected.toList ++ suffix.toList) := by simp
  rw [validateRaw_eq_ok]
  refine ⟨?_, ?_, ?_, rfl⟩
  . intro h
    have h := congrArg String.toList h
    rw [hlist, hroot] at h
    simp at h
  . apply Text.trim_of_ends
    . obtain ⟨tail, htail⟩ := hbound.lead
      rw [hlist]
      intro ch hch
      apply Text.head_of_trim htrim ch
      rw [← htail]
      rw [hroot] at hch ⊢
      exact hch
    . intro ch hch
      have hplain : isPlain ch := by
        rw [hlist] at hch
        cases hempty : suffix.toList with
        | nil =>
          rw [hempty, List.append_nil] at hch
          obtain ⟨account, rfl, _⟩ := id hbinding
          apply hbinding.plain
          rw [List.getLast?_append_of_ne_nil _ (by simp), List.getLast?_cons_of_ne_nil (by simp)] at hch
          exact List.mem_of_mem_getLast? hch
        | cons c cs =>
          apply hlast
          rw [List.getLast?_append_of_ne_nil _ (by simp), ← List.cons_append,
            List.getLast?_append_of_ne_nil _ (by simp [hempty])] at hch
          exact hch
      exact ne_true_of_eq_false (isPlain_iff hplain).2.1
  . rw [hlist]
    intro ch hch
    rw [List.mem_append, List.mem_cons, List.mem_append] at hch
    obtain hch | rfl | hch | hch := hch
    . exact hcontrol ch (hbound.lead.subset hch)
    . decide
    . exact (isPlain_iff (hbinding.plain ch hch)).2.2
    . cases hsuffix ch hch with
      | inl hplain => exact (isPlain_iff hplain).2.2
      | inr hcolon =>
        rw [hcolon]
        decide

omit hbinding in
theorem boundKey_bound (binding : String) (index' : Nat) (normalization : SessionKeyNormalization)
    : boundKey root binding index' normalization
        = .ok { root, accountBinding := binding, continuationIndex := index', normalization } := by
  simp [boundKey, validateRoot, hbound.root_ne, hbound.single]

omit hbound in
theorem rsplitOnce_acct (root suffix : String) (hsuffix : ¬Text.contains suffix ":acct-")
    (hcolon : suffix = "" ∨ suffix.toList.head? = some ':')
    : ∃ account, expected = "acct-" ++ account
        ∧ Text.rsplitOnce ":acct-" (root ++ ":" ++ expected ++ suffix)
          = some (root, account ++ suffix) := by
  obtain ⟨account, rfl, hplain⟩ := hbinding
  have hmarker : ":acct-".toList = ':' :: "acct-".toList := by decide
  have hlast : ¬Text.contains (account ++ suffix) ":acct-" := by
    rw [Text.contains_iff, hmarker, String.toList_append]
    rw [Text.contains_iff, hmarker] at hsuffix
    cases hcolon with
    | inl hempty =>
      rw [hempty, String.toList_empty, List.append_nil]
      exact Text.not_marker_infix (colon_notMem hplain)
    | inr hhead =>
      obtain ⟨rest, hrest⟩ := List.head?_eq_some_iff.mp hhead
      rw [hrest] at hsuffix ⊢
      rw [Text.marker_infix_append (by decide)]
      intro hinfix
      cases hinfix with
      | inl hinfix => exact Text.not_marker_infix (colon_notMem hplain) hinfix
      | inr hinfix => exact hsuffix hinfix
  refine ⟨account, rfl, ?_⟩
  have hsplit := Text.rsplitOnce_append acct_isMarker root hlast
  rw [← hsplit]
  congr 1
  rw [← String.toList_inj]
  simp

theorem parseBound_first (hmarker : ¬Text.contains root ":cont-")
    : parseBound (root ++ ":" ++ expected) expected
        = .ok {
            root
            accountBinding := expected
            continuationIndex := 0
            normalization := .alreadyCanonical } := by
  have hvalid := validateRaw_bound hbound hbinding "" (by simp) (by simp)
  rw [String.append_empty] at hvalid
  have hdrop : Text.dropTail (":" ++ expected) (root ++ ":" ++ expected) = some root := by
    rw [Text.dropTail_eq_some, String.append_assoc]
  have hduplicate : duplicateAccount (root ++ ":" ++ expected) (":" ++ expected) = none := by
    unfold duplicateAccount
    rw [hdrop]
    simp [parseTerminalContinuation_unmarked hmarker]
  have hforeign : foreignTail (root ++ ":" ++ expected) expected = false := by
    obtain ⟨account, hexpected, hsplit⟩ := rsplitOnce_acct hbinding root "" (by decide) (.inl rfl)
    rw [String.append_empty, String.append_empty] at hsplit
    unfold foreignTail
    rw [hsplit]
    simp [hexpected]
  have hparse : parseTerminalContinuation (root ++ ":" ++ expected)
      = .ok (root ++ ":" ++ expected, 0) := by
    apply parseTerminalContinuation_unmarked
    rw [contains_bound hbinding]
    exact hmarker
  unfold parseBound
  rw [hvalid]
  simp only [hduplicate, hforeign, hparse, hdrop, boundKey_bound hbound]
  simp

omit hbound in
theorem dropTail_continuation (root : String) (index' : Nat)
    : Text.dropTail (":" ++ expected) (root ++ ":" ++ expected ++ contSuffix index') = none := by
  rw [Option.eq_none_iff_forall_ne_some]
  intro left hleft
  rw [Text.dropTail_eq_some] at hleft
  have hlist := congrArg String.toList hleft
  simp only [String.toList_append, toList_contSuffix, String.reduceToList, List.singleton_append,
    List.append_assoc] at hlist
  rw [← List.cons_append, ← List.append_assoc] at hlist
  have hlast := (Text.segment_inj (colon_notMem (isPlain_cont index')) hbinding.colon hlist).2
  obtain ⟨account, rfl, _⟩ := id hbinding
  simp at hlast

omit hbound in
theorem foreignTail_continuation (root : String) (index' : Nat)
    : foreignTail (root ++ ":" ++ expected ++ contSuffix index') expected
        = Text.contains root ":cont-" := by
  have hnone : ¬Text.contains (contSuffix index') ":acct-" := by
    have hmarker : ":acct-".toList = ':' :: "acct-".toList := by decide
    rw [Text.contains_iff, toList_contSuffix, hmarker]
    apply Text.not_marker_infix_segment (colon_notMem (isPlain_cont index'))
    simp
  obtain ⟨account, hexpected, hsplit⟩ := rsplitOnce_acct hbinding root (contSuffix index') hnone
    (.inr (by rw [toList_contSuffix]; rfl))
  have hne : "acct-" ++ (account ++ contSuffix index') ≠ expected := by
    rw [hexpected]
    intro h
    have h := congrArg (fun text => text.toList.length) h
    simp [toList_contSuffix] at h
  unfold foreignTail
  rw [hsplit]
  simp [hne]

theorem parseBound_continuation {index' : Nat} (hpos : 0 < index') (hmax : index' ≤ u64Max)
    : parseBound (root ++ ":" ++ expected ++ contSuffix index') expected
        = if Text.contains root ":cont-" then
            .error .mismatchedAccount
          else
            .ok {
              root
              accountBinding := expected
              continuationIndex := index'
              normalization := .alreadyCanonical } := by
  have hplain := isPlain_cont index'
  have hvalid : validateRaw (root ++ ":" ++ expected ++ contSuffix index')
      = .ok (root ++ ":" ++ expected ++ contSuffix index') := by
    apply validateRaw_bound hbound hbinding
    . rw [toList_contSuffix, List.forall_mem_cons]
      exact ⟨.inr rfl, fun ch hch => .inl (hplain ch hch)⟩
    . rw [toList_contSuffix, List.getLast?_cons_of_ne_nil (by simp)]
      exact fun ch hch => hplain ch (List.mem_of_mem_getLast? hch)
  have hdrop := dropTail_continuation hbinding root index'
  have hforeign := foreignTail_continuation hbinding root index'
  have hparse : parseTerminalContinuation (root ++ ":" ++ expected ++ contSuffix index')
      = .ok (root ++ ":" ++ expected, index') := by
    unfold contSuffix
    rw [← String.append_assoc]
    exact parseTerminalContinuation_marked (by simp) hpos hmax
  have hdropRoot : Text.dropTail (":" ++ expected) (root ++ ":" ++ expected) = some root := by
    rw [Text.dropTail_eq_some, String.append_assoc]
  unfold parseBound duplicateAccount
  rw [hvalid]
  simp only [hdrop, hforeign, hparse, hdropRoot, boundKey_bound hbound]

end

namespace CanonicalChannelSessionKey

section

variable (platform accountId channelId userId agentId : String)

def RebindsToSelf (key : CanonicalChannelSessionKey) : Prop :=
  ∃ again, bindForLane key.canonicalString platform accountId channelId userId agentId = .ok again
    ∧ again.normalization = .alreadyCanonical
    ∧ again.root = key.root
    ∧ again.accountBinding = key.accountBinding
    ∧ again.continuationIndex = key.continuationIndex
    ∧ again.canonicalString = key.canonicalString

def IsStable (key : CanonicalChannelSessionKey) : Prop :=
  key.RebindsToSelf platform accountId channelId userId agentId
    ∧ ∀ n, 0 < n → n ≤ u64Max → ∃ next, key.continuation n = .ok next
      ∧ next.RebindsToSelf platform accountId channelId userId agentId

end

section

variable {platform accountId channelId userId agentId : String}
  {key : CanonicalChannelSessionKey}

theorem canonicalString_continuation (hpos : 0 < key.continuationIndex)
    : key.canonicalString
        = key.root ++ ":" ++ key.accountBinding ++ contSuffix key.continuationIndex := by
  unfold canonicalString contSuffix
  dsimp only
  rw [if_neg (Nat.ne_of_gt hpos), String.append_assoc]

theorem bindForLane_of_parse {raw : String}
    (h : parseForLane raw platform accountId channelId userId agentId = .ok key)
    : bindForLane raw platform accountId channelId userId agentId = .ok key := by
  unfold parseForLane at h
  unfold bindForLane
  dsimp only
  rw [h]

theorem rebinds_of_parse
    (h : parseBound key.canonicalString
        (expectedAccountBinding platform accountId channelId userId agentId)
      = .ok { key with normalization := .alreadyCanonical })
    : key.RebindsToSelf platform accountId channelId userId agentId :=
  ⟨_, bindForLane_of_parse h, rfl, rfl, rfl, rfl, rfl⟩

variable {raw : String} {index : Nat}
  (hkey : key.accountBinding = expectedAccountBinding platform accountId channelId userId agentId)
  (hbound : Bound raw key.root index)
include hkey hbound

theorem rebinds_continuation (hpos : 0 < key.continuationIndex)
    (hmax : key.continuationIndex ≤ u64Max)
    : key.RebindsToSelf platform accountId channelId userId agentId
        ↔ ¬Text.contains key.root ":cont-" := by
  have hbinding := isBinding_expected platform accountId channelId userId agentId
  have hparse := parseBound_continuation hbound hbinding hpos hmax
  rw [← hkey] at hparse
  rw [← canonicalString_continuation hpos] at hparse
  constructor
  . intro h hmarker
    obtain ⟨again, hagain, _⟩ := h
    rw [hkey, if_pos hmarker] at hparse
    unfold bindForLane at hagain
    dsimp only at hagain
    rw [hparse] at hagain
    cases hagain
  . intro hmarker
    rw [if_neg hmarker] at hparse
    apply rebinds_of_parse
    rw [← hkey]
    exact hparse

theorem rebinds_first (hindex : key.continuationIndex = 0)
    (hmarker : ¬Text.contains key.root ":cont-")
    : key.RebindsToSelf platform accountId channelId userId agentId := by
  have hbinding := isBinding_expected platform accountId channelId userId agentId
  have hparse := parseBound_first hbound hbinding hmarker
  have hstring : key.canonicalString = key.root ++ ":" ++ key.accountBinding := by
    unfold canonicalString
    dsimp only
    rw [if_pos hindex]
  apply rebinds_of_parse
  rw [hstring, hkey, hparse, ← hkey, ← hindex]

theorem isStable_iff (hindex : key.continuationIndex = index)
    : key.IsStable platform accountId channelId userId agentId
        ↔ ¬Text.contains key.root ":cont-" := by
  constructor
  . intro h
    cases Nat.eq_zero_or_pos key.continuationIndex with
    | inl hzero => exact hbound.unmarked (hindex.symm.trans hzero)
    | inr hpos =>
      exact (rebinds_continuation hkey hbound hpos (hindex ▸ hbound.max)).mp h.1
  . intro hmarker
    constructor
    . cases Nat.eq_zero_or_pos key.continuationIndex with
      | inl hzero => exact rebinds_first hkey hbound hzero hmarker
      | inr hpos =>
        exact (rebinds_continuation hkey hbound hpos (hindex ▸ hbound.max)).mpr hmarker
    . intro n hpos hmax
      let next := { key with continuationIndex := n, normalization := .alreadyCanonical }
      have hnext : key.continuation n = .ok next := by
        unfold continuation
        rw [if_neg (Nat.ne_of_gt hpos)]
      have hkey' : next.accountBinding = _ := hkey
      have hbound' : Bound raw next.root index := hbound
      exact ⟨next, hnext, (rebinds_continuation hkey' hbound' hpos hmax).mpr hmarker⟩

end

theorem stable_iff_marked_once {raw platform accountId channelId userId agentId : String}
    {key : CanonicalChannelSessionKey}
    (h : bindForLane raw platform accountId channelId userId agentId = .ok key)
    : key.IsStable platform accountId channelId userId agentId
        ↔ marksContinuationOnce raw = true := by
  obtain ⟨hkey, hbound⟩ := bindForLane_ok h
  rw [isStable_iff hkey hbound rfl, hbound.marks]
  simp

theorem sampleAccountBinding
    : expectedAccountBinding "telegram" "account-a" "channel-a" "user-a" "main"
        = "acct-043de6dabc50643408c2e60494b664f5ea0f75d1479e7e35057bceda1397ad53" := by
  decide +kernel

theorem sampleKey_isStable
    : ∃ key, bindForLane "synthetic-root:cont-7" "telegram" "account-a" "channel-a" "user-a" "main"
        = .ok key
      ∧ key.continuationIndex = 7
      ∧ key.IsStable "telegram" "account-a" "channel-a" "user-a" "main" := by
  have hindex : (bindForLane "synthetic-root:cont-7" "telegram" "account-a" "channel-a" "user-a"
      "main").toOption.map continuationIndex = some 7 := by
    rw [bindForLane, sampleAccountBinding]
    decide +kernel
  cases hbind : bindForLane "synthetic-root:cont-7" "telegram" "account-a" "channel-a" "user-a"
      "main" with
  | error e =>
    rw [hbind] at hindex
    cases hindex
  | ok key =>
    rw [hbind] at hindex
    exact ⟨key, rfl, Option.some.inj hindex, (stable_iff_marked_once hbind).mpr (by decide)⟩

/-
A root that ends in a continuation marker is bound, but the string it is printed to is refused.
-/
theorem repeated_marker_is_refused
    : ∃ key, bindForLane "synthetic-root:cont-1:cont-2" "telegram" "account-a" "channel-a" "user-a"
        "main" = .ok key
      ∧ ¬key.RebindsToSelf "telegram" "account-a" "channel-a" "user-a" "main" := by
  have hindex : (bindForLane "synthetic-root:cont-1:cont-2" "telegram" "account-a" "channel-a"
      "user-a" "main").toOption.map continuationIndex = some 2 := by
    rw [bindForLane, sampleAccountBinding]
    decide +kernel
  cases hbind : bindForLane "synthetic-root:cont-1:cont-2" "telegram" "account-a" "channel-a"
      "user-a" "main" with
  | error e =>
    rw [hbind] at hindex
    cases hindex
  | ok key =>
    rw [hbind] at hindex
    have hindex : key.continuationIndex = 2 := Option.some.inj hindex
    obtain ⟨hkey, hbound⟩ := bindForLane_ok hbind
    refine ⟨key, rfl, ?_⟩
    rw [rebinds_continuation hkey hbound (by omega) hbound.max, not_not]
    have hmarks := hbound.marks
    have honce : marksContinuationOnce "synthetic-root:cont-1:cont-2" = false := by decide
    rw [honce] at hmarks
    simpa using hmarks.symm

end CanonicalChannelSessionKey

end ChannelSessionKey
