import AgentHarness.Lib.Json
import AgentHarness.Memory.Lemmas.Member

/-!
The redaction of a JSON member with a sensitive key: for which values it hides the value.
-/

namespace Memory

open Text (utf8Bytes)

def OneMarker (a : List UInt8) : Prop :=
  a = [] ∨ a = utf8Bytes redactedMarker ∨ SecretStart a ∧ ∀ b ∈ a, ¬endsCredential b

section

variable {l e a : List UInt8}

theorem not_quote_of_mem_shownTail (ha : Bland a) : ∀ b ∈ shownTail a, ¬isQuote b := by
  classical
  intro b hb hquote
  rcases mem_render _ hb with hmem | hmem
  . exact not_quote_of_marker b hquote hmem
  . exact (ha b hmem).1 hquote

theorem not_covered_first : ¬Covered (0x22 :: a) 0 := by
  have hmark := @covered_mark_iff [] a
  rw [List.nil_append, List.length_nil] at hmark
  rw [hmark]
  rintro ⟨p, separator, space, inner, hnil, _⟩
  simp at hnil

theorem shownTail_marker : shownTail (utf8Bytes redactedMarker) = utf8Bytes redactedMarker := by
  classical
  obtain ⟨out, hout, hbytes⟩ := redactSensitive_eq "\"[redacted]"
  have hsame : redactSensitive "\"[redacted]" = .ok "\"[redacted]" := by
    decide +kernel
  obtain rfl := Except.ok.inj (hsame.symm.trans hout)
  have htext : utf8Bytes "\"[redacted]" = 0x22 :: utf8Bytes redactedMarker := by
    decide
  rw [htext] at hbytes
  unfold skeleton at hbytes
  rw [skeletonFrom_visible _ not_covered_first, Skeleton.render_cons] at hbytes
  exact (List.cons.inj hbytes).2.symm

theorem plain_of_bland (ha : Bland a) {i : Nat} {b : UInt8} (hcovered : Covered (0x22 :: a) (1 + i))
    (hb : a[i]? = some b)
    : ¬endsCredential b := by
  obtain ⟨hlt, hget⟩ := List.getElem?_eq_some_iff.mp hb
  obtain ⟨x, y, rfl, rfl⟩ : ∃ x y, a = x ++ b :: y ∧ x.length = i :=
    ⟨a.take i, a.drop (i + 1), by rw [← hget, ← List.drop_eq_getElem_cons, List.take_append_drop],
      by rw [List.length_take]; omega⟩
  have hthere : Covered ((0x22 :: x) ++ b :: y) (0x22 :: x).length := by
    rwa [List.length_cons, List.cons_append, Nat.add_comm]
  obtain ⟨before, inner, more, rest, hbefore, _, hredacts⟩ := exists_range hthere
  rcases hredacts.plain_or_quoted with hplain | ⟨p, separator, space, quote, rfl, hseparator, _⟩
  . exact hplain b (by simp)
  . exfalso
    have hmem : separator ∈ 0x22 :: x := by
      rw [hbefore]
      simp
    rw [List.mem_cons] at hmem
    rcases hmem with rfl | hmem
    . exact absurd hseparator (by decide)
    . exact (ha separator (by simp [hmem])).2 hseparator

theorem shownTail_eq_marker_iff (ha : Bland a) (hne : a ≠ [])
    : shownTail a = utf8Bytes redactedMarker ↔ OneMarker a := by
  classical
  constructor
  . intro h
    unfold shownTail at h
    rcases Skeleton.first_run (skeletonFrom (Covered (0x22 :: a)) false 1 a)
      with ⟨seen, hseen⟩ | ⟨seen, back, hseen⟩
    . rw [hseen, Skeleton.render_map_some] at h
      rw [← List.append_nil (seen.map some)] at hseen
      obtain ⟨rest, rfl, _, hnil⟩ := skeletonFrom_eq_map_append _ hseen
      obtain rfl := skeletonFrom_eq_nil _ hnil
      rw [List.append_nil]
      exact .inr (.inl h)
    . have hempty : seen = [] ∧ back = [] := by
        rw [hseen, Skeleton.render_append, Skeleton.render_map_some, Skeleton.render_cons] at h
        have hlength := congrArg List.length h
        simp only [List.length_append, Skeleton.piece] at hlength
        refine ⟨List.eq_nil_of_length_eq_zero (by omega), ?_⟩
        have hback : back.render = [] := List.eq_nil_of_length_eq_zero (by omega)
        cases back with
        | nil => rfl
        | cons part back =>
          rw [Skeleton.render_cons] at hback
          have hpiece := (List.append_eq_nil_iff.mp hback).1
          cases part with
          | none => exact absurd hpiece (by decide)
          | some b => cases hpiece
      rw [hempty.1, hempty.2, List.map_nil, List.nil_append] at hseen
      obtain ⟨run, rest, rfl, _, hrun, _, hrest⟩ := skeletonFrom_eq_none_cons _ hseen
      obtain rfl := skeletonFrom_eq_nil _ hrest
      rw [List.append_nil] at *
      right
      right
      obtain ⟨c, run, rfl⟩ := List.exists_cons_of_ne_nil hne
      constructor
      . have hfirst := hrun 1 le_rfl (by simp)
        obtain ⟨value, rest, hsplit, hredacts⟩ := @redacts_of_run [] run c 0x22 hfirst not_covered_first
        rw [hsplit]
        rw [List.nil_append] at hredacts
        generalize hbefore : [(0x22 : UInt8)] = before at hredacts
        cases hredacts with
        | @assigned before lead _ _ separator hassigns hseparator _ =>
          exfalso
          have hmem : separator ∈ [(0x22 : UInt8)] := by
            rw [hbefore]
            simp
          rw [List.mem_singleton.mp hmem] at hseparator
          exact absurd hseparator (by decide)
        | @bearer before word space _ _ _ hword _ _ _ _ _ _ =>
          exfalso
          have hshort := congrArg List.length hbefore
          have hlong := congrArg List.length hword
          rw [List.length_map, length_bearer] at hlong
          simp only [List.length_append, List.length_singleton] at hshort
          omega
        | secretKey _ hsecret _ hend =>
          rw [secretStart_append hend]
          exact hsecret
      . intro b hb
        obtain ⟨i, hlt, hget⟩ := List.getElem_of_mem hb
        apply plain_of_bland ha (i := i)
        . exact hrun (1 + i) (by omega) (by omega)
        . rw [List.getElem?_eq_getElem hlt, hget]
  . rintro (h | rfl | ⟨hsecret, hplain⟩)
    . exact absurd h hne
    . exact shownTail_marker
    . have hstart : WordStart [(0x22 : UInt8)] := by
        rintro b hb
        obtain rfl := Option.some.inj hb
        decide
      have hredacts : Redacts [0x22] a [] := .secretKey hstart hsecret hplain (by simp)
      have hrun : ∀ j, 1 ≤ j → j < 1 + a.length → Covered (0x22 :: a) j := by
        intro j hlow hhigh
        have hthere := covered_of_redacts hredacts hlow hhigh
        simpa using hthere
      have hwhole := @skeletonFrom_run (Covered (0x22 :: a)) _ false 1 a [] hrun hne
      rw [List.append_nil] at hwhole
      unfold shownTail
      rw [hwhole]
      simp [skeletonFrom, Skeleton.render, Skeleton.piece]

theorem shownFrom_eq_iff (hopens : Opens (l ++ [0x22]) 0x22) (hescaped : Escaped e) (ha : Bland a)
    : shownFrom l e a = 0x22 :: shownTail a
      ↔ (0x22 : UInt8) ∉ e ∧ ¬Opens (l ++ 0x22 :: e) 0x27 ∧ (Expects (l ++ 0x22 :: e) → OneMarker a) := by
  by_cases he : (0x22 : UInt8) ∈ e
  . refine ⟨fun h => ?_, fun h => absurd he h.1⟩
    obtain ⟨quote, hmem, hquote⟩ := shownFrom_quoted hopens hescaped he ha h
    exact absurd hquote (not_quote_of_mem_shownTail ha quote hmem)
  . obtain ⟨hopen, hexpects, hplain⟩ := shownFrom_plain hopens he ha
    by_cases hclosed : Opens (l ++ 0x22 :: e) 0x27
    . rw [hopen hclosed]
      simp [hclosed]
    . by_cases hends : Expects (l ++ 0x22 :: e)
      . by_cases hne : a = []
        . rw [hplain hclosed fun _ => hne]
          simp [he, hclosed, OneMarker, hne]
        . rw [hexpects hclosed hends hne, List.cons.injEq, eq_comm (a := utf8Bytes redactedMarker),
            shownTail_eq_marker_iff ha hne]
          simp [he, hclosed, hends]
      . rw [hplain hclosed fun h => absurd h hends]
        simp [he, hclosed, hends]

end

-- The content of a JSON string.
def escaped (s : String) : List UInt8 :=
  Text.encode (s.toList.flatMap Text.jsonString.escape)

section

theorem utf8Bytes_jsonString (s : String)
    : utf8Bytes (Text.jsonString s) = 0x22 :: (escaped s ++ [0x22]) := by
  rw [← Text.encode_toList, Text.toList_jsonString, List.cons_append, Text.encode_cons, Text.encode_append]
  rfl

theorem mark_mem_utf8EncodeChar {ch : Char} (h : (0x22 : UInt8) ∈ String.utf8EncodeChar ch) : ch = '"' := by
  obtain ⟨x, y, hsplit⟩ := List.append_of_mem h
  have hchar : Text.encode [ch] = x ++ 0x22 :: y := by
    rw [Text.encode_cons, hsplit]
    exact List.append_nil _
  obtain ⟨left, right, hparts, rfl, hright⟩ := Text.split_of_encode hchar
    (by rintro _ ⟨⟩; exact Text.IsAscii.isUTF8FirstByte (by decide))
  have hleft : left = [] := by
    cases right with
    | nil => cases hright
    | cons c right =>
      cases left with
      | nil => rfl
      | cons b left =>
        have hlength := congrArg List.length hparts
        simp only [List.length_append, List.length_cons, List.length_nil] at hlength
        omega
  rw [hleft, List.nil_append] at hparts
  rw [← hparts, Text.encode_cons] at hright
  have hbytes : String.utf8EncodeChar ch = 0x22 :: y := by
    rw [← hright]
    exact (List.append_nil _).symm
  obtain rfl := Text.utf8EncodeChar_of_ascii hbytes (by decide)
  have hsame : utf8Bytes (String.ofList [ch]) = utf8Bytes (String.ofList ['"']) := by
    rw [Text.utf8Bytes_ofList, Text.utf8Bytes_ofList, Text.encode_cons, hbytes]
    rfl
  have hstring := Text.utf8Bytes_injective hsame
  exact (List.cons.inj (String.ofList_injective hstring)).1

theorem mark_not_mem_escape_code : ∀ n ∈ Text.escapedCodes, Char.ofNat n ≠ '"' →
    '"' ∉ Text.jsonString.escape (Char.ofNat n) := by
  decide +kernel

theorem mark_not_mem_escape {ch : Char} (h : ch ≠ '"') : '"' ∉ Text.jsonString.escape ch := by
  by_cases hcode : ch.toNat ∈ Text.escapedCodes
  . have hnot := mark_not_mem_escape_code ch.toNat hcode
    rw [Char.ofNat_toNat] at hnot
    exact hnot h
  . rw [Text.escape_of_plain hcode, List.mem_singleton]
    exact fun hsame => h hsame.symm

theorem escaped_char {ch : Char} {x y : List UInt8}
    (h : Text.encode (Text.jsonString.escape ch) = x ++ 0x22 :: y)
    : ∃ front, x = front ++ [0x5c] := by
  by_cases hch : ch = '"'
  . have hbytes : Text.encode (Text.jsonString.escape '"') = [0x5c, 0x22] := by decide
    rw [hch, hbytes] at h
    cases x with
    | nil => exact absurd (List.cons.inj h).1 (by decide)
    | cons b x =>
      obtain ⟨rfl, htail⟩ := List.cons.inj h
      cases x with
      | nil => exact ⟨[], rfl⟩
      | cons c x => simp at htail
  . exfalso
    have hmem : (0x22 : UInt8) ∈ Text.encode (Text.jsonString.escape ch) := by
      rw [h]
      simp
    obtain ⟨c, hc, hbyte⟩ := List.mem_flatMap.mp hmem
    obtain rfl := mark_mem_utf8EncodeChar hbyte
    exact mark_not_mem_escape hch hc

theorem escaped_escapes (chars : List Char) : Escaped (Text.encode (chars.flatMap Text.jsonString.escape)) := by
  induction chars with
  | nil =>
    intro x y h
    simp [Text.encode] at h
  | cons ch chars ih =>
    intro x y h
    rw [List.flatMap_cons, Text.encode_append] at h
    rcases List.append_eq_append_iff.mp h with ⟨more, rfl, hmore⟩ | ⟨more, hpiece, hmore⟩
    . obtain ⟨front, rfl⟩ := ih more y hmore
      exact ⟨_ ++ front, by rw [List.append_assoc]⟩
    . cases more with
      | nil =>
        obtain ⟨front, hfront⟩ := ih [] y hmore.symm
        simp at hfront
      | cons b more =>
        obtain ⟨rfl, _⟩ := List.cons.inj hmore
        exact escaped_char hpiece

theorem escaped_escaped (s : String) : Escaped (escaped s) :=
  escaped_escapes s.toList

theorem escaped_ne_nil {s : String} (h : s ≠ "") : escaped s ≠ [] := by
  intro hnil
  apply h
  cases hchars : s.toList with
  | nil => exact String.toList_eq_nil_iff.mp hchars
  | cons ch chars =>
    exfalso
    unfold escaped at hnil
    rw [hchars, List.flatMap_cons, Text.encode_append, List.append_eq_nil_iff] at hnil
    cases hescape : Text.jsonString.escape ch with
    | nil => exact Text.escape_ne_nil ch hescape
    | cons c more =>
      rw [hescape, Text.encode_cons, List.append_eq_nil_iff] at hnil
      exact String.utf8EncodeChar_ne_nil hnil.1.1

end

-- A text with a member of a JSON object.
def memberText (before key value after : String) : String :=
  before ++ Text.jsonString key ++ ": " ++ Text.jsonString value ++ after

def memberHead (before key : String) : List UInt8 :=
  utf8Bytes before ++ 0x22 :: (escaped key ++ [0x22, 0x3a, 0x20])

def Recognized (key : String) : Prop :=
  SensitiveKey ((escaped key).rtakeWhile (· ≠ 0x22))

/-
The value is hidden: the key is recognized; the value has no quotation mark, leaves no apostrophe open
behind a separator, and does not end with a separator that takes the closing quote for the opening one,
unless what follows is one marker anyway.
-/
structure Hidden (before key value after : String) : Prop where
  recognized : Recognized key
  unquoted : (0x22 : UInt8) ∉ escaped value
  closed : ¬Opens (memberHead before key ++ 0x22 :: escaped value) 0x27
  settled : Expects (memberHead before key ++ 0x22 :: escaped value) → OneMarker (utf8Bytes after)

section

variable {before key value after : String}

theorem utf8Bytes_memberText
    : utf8Bytes (memberText before key value after)
        = memberHead before key ++ 0x22 :: (escaped value ++ 0x22 :: utf8Bytes after) := by
  unfold memberText memberHead
  simp only [Text.utf8Bytes_append, utf8Bytes_jsonString]
  rw [show utf8Bytes ": " = [0x3a, 0x20] by decide]
  simp

theorem opens_memberHead : Opens (memberHead before key ++ [0x22]) 0x22 ↔ Recognized key := by
  have hkey : keyBytes (utf8Bytes before ++ 0x22 :: escaped key ++ [0x22])
      = some ((escaped key).rtakeWhile (· ≠ 0x22)) := by
    rw [keyBytes_concat_quote (by decide), if_pos (by simp)]
    congr 1
    rw [rtakeWhile_append_of_exists ⟨0x22, by simp, by simp⟩, ← List.singleton_append]
    by_cases hmem : (0x22 : UInt8) ∈ escaped key
    . exact rtakeWhile_append_of_exists ⟨0x22, hmem, by simp⟩
    . have hall : ∀ b ∈ escaped key, decide (b ≠ 0x22) := by
        intro b hb
        rw [decide_eq_true_iff]
        rintro rfl
        exact hmem hb
      rw [rtakeWhile_append_of_forall hall]
      have hself := @rtakeWhile_append_of_forall (· ≠ 0x22) [] (escaped key) hall
      rw [List.nil_append] at hself
      rw [hself]
      rfl
  have hassigns : Assigns (utf8Bytes before ++ 0x22 :: escaped key ++ [0x22]) ↔ Recognized key := by
    unfold Assigns Recognized
    rw [hkey]
    simp
  rw [← hassigns]
  have hhead : memberHead before key = utf8Bytes before ++ 0x22 :: escaped key ++ [0x22] ++ [0x3a] ++ [0x20] := by
    unfold memberHead
    simp
  rw [hhead]
  generalize utf8Bytes before ++ 0x22 :: escaped key ++ [0x22] = front
  constructor
  . rintro ⟨p, separator, space, inner, hsplit, hseparator, hassigns, hspace, hinner⟩
    obtain rfl : inner = [] := by
      rcases List.eq_nil_or_concat' inner with rfl | ⟨inner, b, rfl⟩
      . rfl
      . exfalso
        have hshape : p ++ separator :: (space ++ 0x22 :: (inner ++ [b]))
            = (p ++ separator :: (space ++ 0x22 :: inner)) ++ [b] := by simp
        rw [hshape] at hsplit
        obtain rfl := (List.cons.inj (List.append_inj' hsplit rfl).2).1
        exact hinner (by simp)
    have hshape : p ++ separator :: (space ++ [0x22]) = (p ++ separator :: space) ++ [0x22] := by simp
    rw [hshape] at hsplit
    have hsplit := (List.append_inj' hsplit rfl).1
    rcases List.eq_nil_or_concat' space with rfl | ⟨space, b, rfl⟩
    . obtain rfl := (List.cons.inj (List.append_inj' hsplit rfl).2).1
      exact absurd hseparator (by decide)
    . have hshape : p ++ separator :: (space ++ [b]) = (p ++ separator :: space) ++ [b] := by simp
      rw [hshape] at hsplit
      have hsplit := (List.append_inj' hsplit rfl).1
      rcases List.eq_nil_or_concat' space with rfl | ⟨space, c, rfl⟩
      . obtain ⟨rfl, _⟩ := List.append_inj' hsplit rfl
        exact hassigns
      . exfalso
        have hshape : p ++ separator :: (space ++ [c]) = (p ++ separator :: space) ++ [c] := by simp
        rw [hshape] at hsplit
        obtain rfl := (List.cons.inj (List.append_inj' hsplit rfl).2).1
        exact absurd (hspace 0x3a (by simp)) (by decide)
  . intro hassigns
    exact ⟨front, 0x3a, [0x20], [], by simp, by decide, hassigns,
      Text.forall_mem_of_all (by decide), by simp⟩

end

open Classical in
noncomputable def shownHead (l : List UInt8) : List UInt8 :=
  (skeletonFrom (Covered (l ++ [0x22])) false 0 (l ++ [0x22])).render

section

variable {l x y e a : List UInt8}

theorem skeleton_render_split
    : ∃ inside : Bool, ∀ x, (skeleton (l ++ 0x22 :: x)).render
        = shownHead l ++ (@skeletonFrom (Covered (l ++ 0x22 :: x)) (fun _ => Classical.propDecidable _)
          inside (l.length + 1) x).render := by
  classical
  refine ⟨decide (Covered (l ++ [0x22]) l.length), fun x => ?_⟩
  have hleft : ∀ j < (l ++ [(0x22 : UInt8)]).length,
      Covered (l ++ 0x22 :: x) (0 + j) ↔ Covered (l ++ [0x22]) (0 + j) := by
    intro j hj
    rw [List.length_append, List.length_singleton] at hj
    constructor
    . exact covered_left (by decide) (by omega)
    . exact covered_left (by decide) (by omega)
  have hmark := hleft l.length (by simp)
  rw [Nat.zero_add] at hmark
  unfold skeleton shownHead
  rw [skeletonFrom_append, Nat.zero_add, Skeleton.render_append, skeletonFrom_congr _ hleft]
  simp only [hmark]

theorem member_render (hopens : Opens (l ++ [0x22]) 0x22)
    : ∃ head, ∀ e a, Escaped e → e ≠ [] →
        (skeleton (l ++ 0x22 :: (e ++ 0x22 :: a))).render = head ++ shownFrom l e a := by
  classical
  obtain ⟨inside, hrender⟩ := @skeleton_render_split l
  refine ⟨shownHead l ++ (Skeleton.render (if inside then [] else [none])), fun e a hescaped hne => ?_⟩
  obtain ⟨c, e, rfl⟩ := List.exists_cons_of_ne_nil hne
  have hc : c ≠ 0x22 := by
    rintro rfl
    obtain ⟨front, hnil⟩ := hescaped [] e rfl
    simp at hnil
  have hfirst : Covered (l ++ 0x22 :: (c :: e ++ 0x22 :: a)) (l.length + 1) := by
    have hvalue := @covered_value l hopens [c] (e ++ 0x22 :: a) (by simpa using hc.symm)
    apply hvalue _ le_rfl
    simp
  rw [hrender, List.append_assoc]
  congr 1
  unfold shownFrom
  rw [List.cons_append] at hfirst ⊢
  rw [skeletonFrom_cons, skeletonFrom_cons, if_pos hfirst, if_pos hfirst, if_pos rfl,
    Skeleton.render_append]
  rfl

theorem unrecognized_render (hopens : ¬Opens (l ++ [0x22]) 0x22) {c : UInt8} (hs : c ≠ 0x73)
    : ∃ tail, (skeleton (l ++ 0x22 :: ([0x27, c] ++ 0x22 :: a))).render = shownHead l ++ 0x27 :: c :: tail := by
  classical
  obtain ⟨inside, hrender⟩ := @skeleton_render_split l
  have hlength : (l ++ [(0x22 : UInt8)]).length = l.length + 1 := by simp
  have hparts : l ++ 0x22 :: ([0x27, c] ++ 0x22 :: a) = (l ++ [0x22]) ++ 0x27 :: c :: 0x22 :: a := by simp
  have hfirst : ¬Covered (l ++ 0x22 :: ([0x27, c] ++ 0x22 :: a)) (l.length + 1) := by
    rwa [hparts, ← hlength, covered_apostrophe_iff]
  have hsecond : ¬Covered (l ++ 0x22 :: ([0x27, c] ++ 0x22 :: a)) (l.length + 1 + 1) := by
    intro hcovered
    rw [hparts, ← hlength] at hcovered hfirst
    obtain ⟨value, rest, hsplit, hredacts⟩ := redacts_of_run hcovered hfirst
    generalize hbefore : l ++ [0x22] ++ [0x27] = before at hredacts
    cases hredacts with
    | @assigned before lead _ _ separator hassigns hseparator hvalue =>
      cases hvalue with
      | @quoted space _ _ quote hspace _ _ _ _ =>
        have hshape : before ++ separator :: (space ++ [quote]) = (before ++ separator :: space) ++ [quote] := by
          simp
        rw [hshape] at hbefore
        have hbefore := (List.append_inj' hbefore rfl).1
        rcases List.eq_nil_or_concat' space with rfl | ⟨space, b, rfl⟩
        . obtain rfl := (List.cons.inj (List.append_inj' hbefore rfl).2).1
          exact absurd hseparator (by decide)
        . have hshape : before ++ separator :: (space ++ [b]) = (before ++ separator :: space) ++ [b] := by simp
          rw [hshape] at hbefore
          obtain rfl := (List.cons.inj (List.append_inj' hbefore rfl).2).1
          exact absurd (hspace 0x22 (by simp)) (by decide)
      | bare hspace _ _ _ =>
        rcases List.eq_nil_or_concat' lead with rfl | ⟨space, b, rfl⟩
        . obtain rfl := (List.cons.inj (List.append_inj' hbefore rfl).2).1
          exact absurd hseparator (by decide)
        . have hshape : before ++ separator :: (space ++ [b]) = (before ++ separator :: space) ++ [b] := by simp
          rw [hshape] at hbefore
          obtain rfl := (List.cons.inj (List.append_inj' hbefore rfl).2).1
          exact absurd (hspace 0x27 (by simp)) (by decide)
    | @bearer before word space _ _ _ _ hne hspace _ _ _ _ =>
      obtain ⟨space, b, rfl⟩ := (List.eq_nil_or_concat' space).resolve_left hne
      rw [← List.append_assoc] at hbefore
      obtain rfl := (List.cons.inj (List.append_inj' hbefore rfl).2).1
      exact absurd (hspace 0x27 (by simp)) (by decide)
    | secretKey _ hsecret _ _ =>
      obtain ⟨b, value', rfl, hb⟩ := secretStart_cons hsecret
      obtain ⟨rfl, _⟩ := List.cons.inj hsplit
      exact hs hb
  rw [hrender, List.cons_append, List.singleton_append]
  rw [List.cons_append, List.singleton_append] at hfirst hsecond
  rw [skeletonFrom_outside _ hfirst, skeletonFrom_visible _ hfirst, skeletonFrom_visible _ hsecond]
  exact ⟨_, rfl⟩

end

theorem redactSensitive_eq_iff (left right : String)
    : redactSensitive left = redactSensitive right
      ↔ (skeleton (utf8Bytes left)).render = (skeleton (utf8Bytes right)).render := by
  obtain ⟨out, hout, hbytes⟩ := redactSensitive_eq left
  obtain ⟨out', hout', hbytes'⟩ := redactSensitive_eq right
  rw [hout, hout', ← hbytes, ← hbytes']
  constructor
  . intro h
    rw [Except.ok.inj h]
  . intro h
    rw [Text.utf8Bytes_injective h]

/-
A member whose value is hidden is redacted to the same text as a member with another value exactly if
that one is hidden too. A key that is not recognized hides no value.
-/
theorem redactSensitive_member_iff {before key after : String} (hafter : Bland (utf8Bytes after))
    : (∀ v w, v ≠ "" → w ≠ "" → Hidden before key w after →
        (redactSensitive (memberText before key v after) = redactSensitive (memberText before key w after)
          ↔ Hidden before key v after))
      ∧ (¬Recognized key → ∃ v w, v ≠ "" ∧ w ≠ ""
        ∧ redactSensitive (memberText before key v after) ≠ redactSensitive (memberText before key w after)) := by
  constructor
  . intro v w hv hw hhidden
    have hopens : Opens (memberHead before key ++ [0x22]) 0x22 := opens_memberHead.mpr hhidden.recognized
    obtain ⟨head, hrender⟩ := member_render hopens
    have hshown := shownFrom_eq_iff hopens (escaped_escaped w) hafter
    rw [redactSensitive_eq_iff, utf8Bytes_memberText, utf8Bytes_memberText,
      hrender _ _ (escaped_escaped v) (escaped_ne_nil hv),
      hrender _ _ (escaped_escaped w) (escaped_ne_nil hw), List.append_cancel_left_eq,
      hshown.mpr ⟨hhidden.unquoted, hhidden.closed, hhidden.settled⟩,
      shownFrom_eq_iff hopens (escaped_escaped v) hafter]
    constructor
    . rintro ⟨hunquoted, hclosed, hsettled⟩
      exact ⟨hhidden.recognized, hunquoted, hclosed, hsettled⟩
    . intro h
      exact ⟨h.unquoted, h.closed, h.settled⟩
  . intro hkey
    have hopens : ¬Opens (memberHead before key ++ [0x22]) 0x22 := fun h => hkey (opens_memberHead.mp h)
    refine ⟨"'a", "'b", by decide, by decide, ?_⟩
    have ha : escaped "'a" = [0x27, 0x61] := by decide
    have hb : escaped "'b" = [0x27, 0x62] := by decide
    rw [ne_eq, redactSensitive_eq_iff, utf8Bytes_memberText, utf8Bytes_memberText, ha, hb]
    obtain ⟨tail, htail⟩ := @unrecognized_render _ (utf8Bytes after) hopens 0x61 (by decide)
    obtain ⟨tail', htail'⟩ := @unrecognized_render _ (utf8Bytes after) hopens 0x62 (by decide)
    rw [htail, htail', List.append_cancel_left_eq]
    simp

theorem member_quoted_value_shown
    : isSensitiveAssignmentKey "token" = true
      ∧ redactSensitive (memberText "x " "token" "a\"b" " y") = .ok "x \"token\": \"[redacted]\"b\" y"
      ∧ redactSensitive (memberText "x " "token" "c" " y") = .ok "x \"token\": \"[redacted]\" y" := by
  decide +kernel

section

variable {before key value after : String}

theorem recognized_of_sensitive (hplain : escaped key = utf8Bytes key) (hmark : (0x22 : UInt8) ∉ utf8Bytes key)
    (h : isSensitiveAssignmentKey key)
    : Recognized key := by
  unfold Recognized
  have hall : ∀ b ∈ utf8Bytes key, decide (b ≠ 0x22) := by
    intro b hb
    rw [decide_eq_true_iff]
    rintro rfl
    exact hmark hb
  have hself := @rtakeWhile_append_of_forall (· ≠ 0x22) [] (utf8Bytes key) hall
  rw [List.nil_append] at hself
  rw [hplain, hself]
  exact (isSensitiveAssignmentKey_iff key).mp h

theorem hidden_of_plain (hkey : Recognized key) (hmark : (0x22 : UInt8) ∉ escaped value)
    (hquote : (0x27 : UInt8) ∉ memberHead before key ++ 0x22 :: escaped value)
    (hlast : ∀ b ∈ (memberHead before key ++ 0x22 :: escaped value).getLast?,
      ¬isAsciiWhitespace b ∧ ¬isSeparator b)
    : Hidden before key value after := by
  refine ⟨hkey, hmark, ?_, ?_⟩
  . rintro ⟨p, separator, space, inner, hsplit, _⟩
    apply hquote
    rw [hsplit]
    simp
  . rintro ⟨p, separator, space, hsplit, hseparator, _, hspace⟩
    exfalso
    rw [hsplit] at hlast
    rcases List.eq_nil_or_concat' space with rfl | ⟨space, b, rfl⟩
    . exact (hlast separator List.getLast?_concat).2 hseparator
    . rw [← List.cons_append, ← List.append_assoc] at hlast
      exact (hlast b List.getLast?_concat).1 (hspace b (by simp))

end

theorem redactSensitive_member_sample
    : redactSensitive (memberText "x " "token" "a b" " y") = redactSensitive (memberText "x " "token" "c" " y") := by
  have hkey : Recognized "token" := recognized_of_sensitive (by decide) (by decide) (by decide)
  have hafter : Bland (utf8Bytes " y") := Text.forall_mem_of_all (by decide)
  exact ((redactSensitive_member_iff hafter).1 "a b" "c" (by decide) (by decide)
    (hidden_of_plain hkey (by decide) (by decide)
      (Text.forall_mem_of_all_option (by decide)))).mpr
    (hidden_of_plain hkey (by decide) (by decide)
      (Text.forall_mem_of_all_option (by decide)))

end Memory
