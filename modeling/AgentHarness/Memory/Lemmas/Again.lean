import AgentHarness.Memory.Lemmas.Shown

/-!
The ranges of a redacted text. Each of them is the start of a marker, behind an assignment that the text
still shows, or it holds a separator; and then an assignment is shown as well.
-/

namespace Memory

open Text (utf8Bytes)

namespace Skeleton

variable {s : Skeleton} {x y w rest : List UInt8} {b : UInt8}

theorem render_eq_append_cons (h : s.render = x ++ b :: y) (hb : b ∉ utf8Bytes redactedMarker)
    : ∃ front back : Skeleton, s = front ++ some b :: back ∧ front.render = x ∧ back.render = y := by
  induction s generalizing x with
  | nil => simp [render] at h
  | cons part s ih =>
    rw [render_cons] at h
    cases part with
    | none =>
      rcases List.append_eq_append_iff.mp h with ⟨more, rfl, hmore⟩ | ⟨more, hpiece, hmore⟩
      . obtain ⟨front, back, rfl, hfront, hback⟩ := ih hmore
        exact ⟨none :: front, back, rfl, by rw [render_cons, hfront], hback⟩
      . cases more with
        | nil =>
          obtain ⟨front, back, rfl, hfront, hback⟩ := @ih [] hmore.symm
          refine ⟨none :: front, back, rfl, ?_, hback⟩
          rw [render_cons, hfront, hpiece]
          simp
        | cons b' more =>
          exfalso
          apply hb
          obtain ⟨rfl, _⟩ := List.cons.inj hmore
          show b ∈ piece none
          rw [hpiece]
          simp
    | some c =>
      cases x with
      | nil =>
        obtain ⟨rfl, hrest⟩ := List.cons.inj h
        exact ⟨[], s, rfl, rfl, hrest⟩
      | cons c' x =>
        obtain ⟨rfl, hrest⟩ := List.cons.inj h
        obtain ⟨front, back, rfl, hfront, hback⟩ := ih hrest
        exact ⟨some c :: front, back, rfl, by rw [render_cons, hfront]; rfl, hback⟩

theorem render_eq_append (h : s.render = w ++ rest) (hw : (0x5b : UInt8) ∉ w)
    : ∃ back : Skeleton, s = w.map some ++ back ∧ back.render = rest := by
  induction w generalizing s with
  | nil => exact ⟨s, rfl, h⟩
  | cons b w ih =>
    cases s with
    | nil => simp [render] at h
    | cons part s =>
      rw [render_cons] at h
      have hpart : part = some b := by
        cases part with
        | none =>
          exfalso
          apply hw
          obtain ⟨rfl, _⟩ := List.cons.inj h
          exact List.mem_cons_self
        | some c => rw [(List.cons.inj h).1]
      subst hpart
      obtain ⟨back, rfl, hback⟩ := ih (List.cons.inj h).2 fun hmem => hw (List.mem_cons_of_mem _ hmem)
      exact ⟨back, rfl, hback⟩

theorem first_run (s : Skeleton)
    : (∃ seen : List UInt8, s = seen.map some)
      ∨ ∃ (seen : List UInt8) (back : Skeleton), s = seen.map some ++ none :: back := by
  induction s with
  | nil => exact .inl ⟨[], rfl⟩
  | cons part s ih =>
    cases part with
    | none => exact .inr ⟨[], s, rfl⟩
    | some b =>
      rcases ih with ⟨seen, rfl⟩ | ⟨seen, back, rfl⟩
      . exact .inl ⟨b :: seen, rfl⟩
      . exact .inr ⟨b :: seen, back, rfl⟩

end Skeleton

def again (quote : Option UInt8) (back : Skeleton) : List UInt8 :=
  match quote with
  | none => utf8Bytes "[redacted"
  | some quote => utf8Bytes redactedMarker ++ back.render.takeWhile (· ≠ quote)

theorem again_none (back : Skeleton) : again none back = utf8Bytes "[redacted" := rfl

theorem again_some (quote : UInt8) (back : Skeleton)
    : again (some quote) back
        = utf8Bytes redactedMarker ++ back.render.takeWhile (· ≠ quote) := rfl

section

variable {bytes before value rest b q : List UInt8}

theorem valueAt_again {space : List UInt8} {quote : Option UInt8} {back : Skeleton}
    (hspace : ∀ b ∈ space, isAsciiWhitespace b) (hquote : ∀ b ∈ quote, isQuote b)
    : ∃ rest, ValueAt (space ++ quote.toList) (again quote back) rest
        ∧ utf8Bytes redactedMarker ++ back.render = again quote back ++ rest := by
  cases quote with
  | none =>
    refine ⟨0x5d :: back.render, ?_, ?_⟩
    . rw [Option.toList_none, List.append_nil]
      have hne : utf8Bytes "[redacted" ≠ [] := by decide
      have hplain : ∀ b ∈ utf8Bytes "[redacted", ¬endsCredential b :=
        Text.forall_mem_of_all (by decide)
      refine .bare hspace hne hplain ?_
      rintro b ⟨⟩
      decide
    . rw [marker_eq, List.append_assoc]
      rfl
  | some quote =>
    have hquote := hquote quote rfl
    refine ⟨back.render.dropWhile (· ≠ quote), .quoted hspace hquote ?_ ?_ ?_, ?_⟩
    . exact List.append_ne_nil_of_left_ne_nil (by decide) _
    . intro hmem
      rcases List.mem_append.mp hmem with hmem | hmem
      . exact not_quote_of_marker quote hquote hmem
      . simpa using all_takeWhile quote hmem
    . intro b hb
      simpa using head_dropWhile b hb
    . rw [again_some, List.append_assoc, List.takeWhile_append_dropWhile]

theorem assigned_again {front lead : List UInt8} {separator : UInt8} (hassigns : Assigns front)
    (hseparator : isSeparator separator) (hvalue : ValueAt lead value rest)
    (heq : (skeleton bytes).render = front ++ separator :: lead ++ value ++ rest)
    : ∃ quote before back, Shown (skeleton bytes) quote before back
        ∧ front ++ separator :: lead = before.render ∧ value = again quote back := by
  classical
  have hmarker : separator ∉ utf8Bytes redactedMarker := by
    grind [marker_eq, opening_eq]
  have heq' : (skeleton bytes).render = front ++ separator :: (lead ++ value ++ rest) := by
    rw [heq]
    simp
  obtain ⟨key, behind, hskeleton, rfl, hbehind⟩ := Skeleton.render_eq_append_cons heq' hmarker
  obtain ⟨p, q, hbytes, hvisible, hkey, hbehind'⟩ := skeletonFrom_eq_append_some _ hskeleton
  rw [Nat.zero_add] at hvisible hbehind'
  have hassigns' := assigns_of_shown hbytes hseparator hvisible (by rwa [hkey])
  obtain ⟨space, shown, hspace, hrun, ⟨quote, back, hquote, rfl⟩ | hnone⟩ :=
    run_or_no_value hbytes hseparator hvisible hassigns'
  . obtain ⟨rest', hvalue', hagain⟩ := @valueAt_again space quote back hspace hquote
    rw [hbehind', ← List.append_assoc, ← List.map_append] at hrun
    have hsame : lead ++ value ++ rest = space ++ quote.toList ++ again quote back ++ rest' := by
      rw [← hbehind, hrun, Skeleton.render_append, Skeleton.render_map_some, Skeleton.render_cons,
        Skeleton.piece, hagain]
      simp
    obtain ⟨rfl, rfl, rfl⟩ := hvalue.unique hvalue' hsame
    refine ⟨quote, key ++ some separator :: (space ++ quote.toList).map some, back, ⟨?_, ?_, hquote⟩, ?_, rfl⟩
    . rw [hskeleton, hrun]
      simp
    . exact ⟨key, separator, space, rfl, hseparator, hassigns, hspace⟩
    . rw [Skeleton.render_append, Skeleton.render_cons, Skeleton.render_map_some]
      rfl
  . exfalso
    apply hnone lead value rest _ hvalue
    rw [← hrun, hbehind', hbehind]

end

section

variable {bytes before after p q : List UInt8} {c : UInt8}

theorem covered_of_skipped (hskipped : Skipped before after) : Covered (before ++ after) before.length := by
  obtain ⟨outer, inner, b, rest, rfl, rfl, hne, hstart, hsecret, hplain⟩ := hskipped
  have hsplit : inner ++ b :: rest
      = (inner ++ b :: rest.takeWhile fun b => !endsCredential b)
        ++ rest.dropWhile fun b => !endsCredential b := by
    rw [List.append_assoc, List.cons_append, List.takeWhile_append_dropWhile]
  have hrest : ∀ b ∈ (rest.dropWhile fun b => !endsCredential b).head?, endsCredential b := by
    intro b hb
    simpa using head_dropWhile b hb
  have hvalue : ∀ x ∈ inner ++ b :: rest.takeWhile (fun b => !endsCredential b), ¬endsCredential x := by
    intro x hx
    rw [← List.singleton_append, ← List.append_assoc, List.mem_append] at hx
    rcases hx with hx | hx
    . exact hplain x hx
    . simpa using all_takeWhile x hx
  rw [hsplit, secretStart_append hrest] at hsecret
  have hredacts := Redacts.secretKey hstart hsecret hvalue hrest
  rw [List.append_assoc outer, hsplit, ← List.append_assoc]
  apply covered_of_redacts hredacts
  . rw [List.length_append]
    omega
  . simp only [List.length_append, List.length_cons]
    omega

open Classical in
theorem wordStart_of_render (hbytes : bytes = p ++ c :: q) (hvisible : ¬Covered bytes p.length)
    (hc : ¬endsCredential c) (h : WordStart (skeletonFrom (Covered bytes) false 0 p).render)
    : WordStart p := by
  rcases List.eq_nil_or_concat' (skeletonFrom (Covered bytes) false 0 p) with hs | ⟨front, part, hs⟩
  . obtain rfl := skeletonFrom_eq_nil _ hs
    intro b hb
    cases hb
  . cases part with
    | none =>
      exfalso
      rw [show front ++ [none] = front ++ none :: ([] : List UInt8).map some from rfl] at hs
      obtain ⟨p, b, rfl, hb, _, _⟩ := skeletonFrom_eq_append_none _ hs
      have hnext : bytes = p ++ b :: c :: q := by
        rw [hbytes]
        simp
      rw [Nat.zero_add] at hb
      rw [List.length_append] at hvisible
      rw [hnext] at hb hvisible
      exact hc (ends_behind_run hb hvisible)
    | some x =>
      obtain ⟨p, rest, rfl, _, _, hrest⟩ := skeletonFrom_eq_append_some _ hs
      obtain rfl := skeletonFrom_eq_nil _ hrest
      rw [hs, Skeleton.render_append] at h
      intro b hb
      apply h
      rw [List.getLast?_concat] at hb
      obtain rfl := Option.some.inj hb
      show x ∈ (Skeleton.render front ++ [x]).getLast?
      rw [List.getLast?_concat]
      exact rfl

theorem no_secretKey_again {value rest : List UInt8} (hstart : WordStart before)
    (hsecret : SecretStart value) (heq : (skeleton bytes).render = before ++ value ++ rest)
    : False := by
  classical
  obtain ⟨needle, more, rfl, hneedle, hopen, hplain, hkey⟩ : ∃ needle more, value = 0x73 :: (needle ++ more)
      ∧ (0x5b : UInt8) ∉ needle ∧ (0x73 : UInt8) ∉ utf8Bytes redactedMarker
      ∧ (∀ b ∈ (0x73 : UInt8) :: needle, ¬endsCredential b)
      ∧ ∀ more, SecretStart (0x73 :: (needle ++ more)) := by
    rcases hsecret with ⟨more, rfl⟩ | ⟨more, rfl⟩
    . exact ⟨(utf8Bytes "sk-").tail, more, rfl, by decide, by decide,
        Text.forall_mem_of_all (by decide),
        fun more => .inl ⟨more, rfl⟩⟩
    . exact ⟨(utf8Bytes "sk_proj").tail, more, rfl, by decide, by decide,
        Text.forall_mem_of_all (by decide),
        fun more => .inr ⟨more, rfl⟩⟩
  have heq' : (skeleton bytes).render = before ++ 0x73 :: (needle ++ (more ++ rest)) := by
    rw [heq]
    simp
  obtain ⟨front, behind, hskeleton, rfl, hbehind⟩ := Skeleton.render_eq_append_cons heq' hopen
  obtain ⟨back, rfl, _⟩ := Skeleton.render_eq_append hbehind hneedle
  obtain ⟨p, q, hbytes, hvisible, rfl, hq⟩ := skeletonFrom_eq_append_some _ hskeleton
  obtain ⟨q', rfl, _, _⟩ := skeletonFrom_eq_map_append _ hq
  rw [Nat.zero_add] at hvisible
  have hstart' := wordStart_of_render hbytes hvisible (hplain _ List.mem_cons_self) hstart
  have hsplit : 0x73 :: (needle ++ q')
      = (0x73 :: needle ++ q'.takeWhile fun b => !endsCredential b)
        ++ q'.dropWhile fun b => !endsCredential b := by
    rw [List.append_assoc, List.takeWhile_append_dropWhile, List.cons_append]
  have hredacts : Redacts p (0x73 :: needle ++ q'.takeWhile fun b => !endsCredential b)
      (q'.dropWhile fun b => !endsCredential b) := by
    refine .secretKey hstart' ?_ ?_ ?_
    . exact hkey _
    . intro b hb
      rcases List.mem_append.mp hb with hb | hb
      . exact hplain b hb
      . simpa using all_takeWhile b hb
    . intro b hb
      simpa using head_dropWhile b hb
  apply hvisible
  rw [hbytes, hsplit, ← List.append_assoc]
  exact covered_head hredacts

theorem covered_bearer {word space value rest : List UInt8} (hstart : WordStart p)
    (hword : word.map toAsciiLowercase = utf8Bytes "bearer") (hne : space ≠ [])
    (hspace : ∀ b ∈ space, isAsciiWhitespace b) (hvalue : ∀ b ∈ value, ¬endsCredential b)
    (hrest : ∀ b ∈ rest.head?, endsCredential b) (hcredential : CredentialBytes value)
    (hvisible : ¬Covered (p ++ (word ++ space ++ value ++ rest)) p.length)
    : Covered (p ++ (word ++ space ++ value ++ rest)) (p ++ word ++ space).length := by
  have hscanned : ¬Skipped p (word ++ space ++ value ++ rest) := fun hskipped =>
    hvisible (covered_of_skipped hskipped)
  have hcovered := covered_head
    (.bearer hstart hword hne hspace hvalue hrest hcredential hscanned)
  simpa using hcovered

theorem not_assigns_bearer {word space : List UInt8}
    (hword : word.map toAsciiLowercase = utf8Bytes "bearer") (hspace : ∀ b ∈ space, isAsciiWhitespace b)
    : ¬Assigns (p ++ word ++ space) := by
  rintro ⟨key, hkey, name, hname, hsuffix⟩
  obtain ⟨front, last, rfl⟩ : ∃ front last, word = front ++ [last] := by
    apply (List.eq_nil_or_concat' word).resolve_left
    rintro rfl
    exact absurd hword (by decide)
  have hlast : toAsciiLowercase last = 0x72 := by
    rw [List.map_append] at hword
    have hback := congrArg List.getLast? hword
    rw [List.map_singleton, List.getLast?_concat] at hback
    exact Option.some.inj (hback.trans (by decide))
  have hletter : ∀ b, toAsciiLowercase b = 0x72 →
      ¬isAsciiWhitespace b ∧ ¬isQuote b ∧ isKeyByte b ∧ isAsciiAlphanumeric b := by grind
  obtain ⟨hlastSpace, hlastQuote, hlastKey, hlastLetter⟩ := hletter last hlast
  rw [keyBytes_append_space hspace, ← List.append_assoc, keyBytes_concat_bare hlastSpace hlastQuote,
    List.rtakeWhile_concat_pos _ _ _ hlastKey, if_neg (by simp)] at hkey
  obtain rfl := Option.some.inj hkey
  have hnorm : normalizedKey [last] = [0x72] := by
    unfold normalizedKey
    rw [List.filter_cons_of_pos hlastLetter, List.filter_nil, List.map_singleton, hlast]
  have hnames : ∀ name ∈ sensitiveSuffixes, (utf8Bytes name).getLast? ≠ some 0x72 ∧ utf8Bytes name ≠ [] := by
    decide
  obtain ⟨hend, hnonempty⟩ := hnames name hname
  obtain ⟨more, hmore⟩ := hsuffix
  rw [normalizedKey_append, hnorm] at hmore
  apply hend
  have hback := congrArg List.getLast? hmore
  rwa [List.getLast?_append_of_ne_nil _ hnonempty, List.getLast?_concat] at hback

theorem credentialBytes_of_secret {seen value rest : List UInt8} (hsecret : SecretStart value)
    : CredentialBytes (seen ++ value ++ rest) := by
  have hmark : ∃ b ∈ value, b = 0x2d ∨ b = 0x5f := by
    rcases hsecret with ⟨more, rfl⟩ | ⟨more, rfl⟩
    . exact ⟨0x2d, List.mem_append_left _ (by decide), .inl rfl⟩
    . exact ⟨0x5f, List.mem_append_left _ (by decide), .inr rfl⟩
  obtain ⟨b, hb, hmark⟩ := hmark
  unfold CredentialBytes
  rw [Bool.or_eq_true, List.any_eq_true]
  right
  refine ⟨b, by simp [hb], ?_⟩
  rcases hmark with rfl | rfl
  . decide
  . decide

theorem assigns_behind_bearer {word space seen other : List UInt8}
    (hword : word.map toAsciiLowercase = utf8Bytes "bearer") (hne : space ≠ [])
    (hspace : ∀ b ∈ space, isAsciiWhitespace b) (hseen : ∀ b ∈ seen, ¬endsCredential b)
    (h : Assigns (p ++ word ++ space ++ seen))
    : Assigns (other ++ word ++ space ++ seen) := by
  rcases List.eq_nil_or_concat' seen with rfl | ⟨seen, last, rfl⟩
  . rw [List.append_nil] at h
    exact absurd h (not_assigns_bearer hword hspace)
  . have hlast := hseen last (by simp)
    have hexists : ∃ b ∈ space ++ seen ++ [last], ¬isKeyByte b := by
      obtain ⟨b, space', rfl⟩ := List.exists_cons_of_ne_nil hne
      refine ⟨b, by simp, ?_⟩
      exact not_keyByte_of_ends b (endsCredential_of_whitespace b (hspace b List.mem_cons_self))
    have hkey : ∀ front : List UInt8, keyBytes (front ++ word ++ space ++ (seen ++ [last]))
        = if (space ++ seen ++ [last]).rtakeWhile isKeyByte = [] then
            none
          else
            some ((space ++ seen ++ [last]).rtakeWhile isKeyByte) := by
      intro front
      have hsplit : front ++ word ++ space ++ (seen ++ [last])
          = front ++ word ++ (space ++ seen ++ [last]) := by simp
      have hsplit' : front ++ word ++ (space ++ seen ++ [last])
          = front ++ word ++ (space ++ seen) ++ [last] := by simp
      rw [hsplit, hsplit', keyBytes_concat_bare
        (fun h => hlast (endsCredential_of_whitespace last h))
        (fun h => hlast (endsCredential_of_quote last h)), ← hsplit',
        rtakeWhile_append_of_exists hexists]
    unfold Assigns at h ⊢
    rw [hkey] at h ⊢
    exact h

theorem bearer_bytes {letters space : List UInt8}
    (hword : (c :: letters).map toAsciiLowercase = utf8Bytes "bearer")
    (hspace : ∀ b ∈ space, isAsciiWhitespace b)
    : c ∉ utf8Bytes redactedMarker ∧ ¬endsCredential c ∧ (0x5b : UInt8) ∉ letters ++ space := by
  have hletters : ∀ b, toAsciiLowercase b ∈ utf8Bytes "bearer" → b ≠ 0x5b := by
    rintro b hb rfl
    exact absurd hb (by decide)
  have hopen : ∀ b, toAsciiLowercase b = 0x62 →
      b ∉ utf8Bytes redactedMarker ∧ ¬endsCredential b := by
    intro b hb
    obtain rfl | rfl : b = 0x62 ∨ b = 0x42 := by grind
    all_goals decide
  have hspaces : ∀ b, isAsciiWhitespace b → b ≠ 0x5b := by grind
  have hfirst : toAsciiLowercase c = 0x62 := by
    rw [List.map_cons, show utf8Bytes "bearer" = 0x62 :: (utf8Bytes "bearer").tail by decide] at hword
    exact (List.cons.inj hword).1
  refine ⟨(hopen c hfirst).1, (hopen c hfirst).2, ?_⟩
  intro hmem
  rcases List.mem_append.mp hmem with hmem | hmem
  . apply hletters _ _ rfl
    rw [← hword]
    exact List.mem_map_of_mem (List.mem_cons_of_mem _ hmem)
  . exact hspaces _ (hspace _ hmem) rfl

-- a value behind a byte that ends no credential is bare behind its separator, or a secret key
theorem Redacts.behind_plain {x : UInt8} {value rest : List UInt8}
    (h : Redacts (before ++ [x]) value rest) (hx : ¬endsCredential x)
    : (isSeparator x ∧ Assigns before)
      ∨ (SecretStart value ∧ (∀ b ∈ value, ¬endsCredential b) ∧ ∀ b ∈ rest.head?, endsCredential b) := by
  generalize hbefore : before ++ [x] = before' at h
  cases h with
  | @assigned before' lead _ _ separator hassigns hseparator hvalue' =>
    cases hvalue' with
    | @quoted space' _ _ quote _ hquote _ _ _ =>
      exfalso
      have hlast : before ++ [x] = (before' ++ separator :: space') ++ [quote] := by
        rw [hbefore]
        simp
      obtain rfl := (List.cons.inj (List.append_inj' hlast rfl).2).1
      exact hx (endsCredential_of_quote x hquote)
    | bare hspace' _ _ _ =>
      rcases List.eq_nil_or_concat' lead with rfl | ⟨lead, b, rfl⟩
      . obtain ⟨rfl, hlast⟩ := List.append_inj' hbefore rfl
        obtain rfl := (List.cons.inj hlast).1
        exact .inl ⟨hseparator, hassigns⟩
      . exfalso
        have hlast : before ++ [x] = (before' ++ separator :: lead) ++ [b] := by
          rw [hbefore]
          simp
        obtain rfl := (List.cons.inj (List.append_inj' hlast rfl).2).1
        exact hx (endsCredential_of_whitespace x (hspace' x (by simp)))
  | @bearer before' word' space' _ _ _ _ hne' hspace' _ _ _ _ =>
    exfalso
    obtain ⟨space', b, rfl⟩ := (List.eq_nil_or_concat' space').resolve_left hne'
    rw [← List.append_assoc] at hbefore
    obtain rfl := (List.cons.inj (List.append_inj' hbefore rfl).2).1
    exact hx (endsCredential_of_whitespace x (hspace' x (by simp)))
  | secretKey _ hsecret hplain hrest => exact .inr ⟨hsecret, hplain, hrest⟩

theorem bearer_again {word space value rest : List UInt8} (hstart : WordStart before)
    (hword : word.map toAsciiLowercase = utf8Bytes "bearer") (hne : space ≠ [])
    (hspace : ∀ b ∈ space, isAsciiWhitespace b) (hvalue : ∀ b ∈ value, ¬endsCredential b)
    (hrest : ∀ b ∈ rest.head?, endsCredential b) (hcredential : CredentialBytes value)
    (heq : (skeleton bytes).render = before ++ word ++ space ++ value ++ rest)
    : (∃ b ∈ value, isSeparator b) ∧ ∃ front back, Shown (skeleton bytes) none front back := by
  classical
  obtain ⟨c, letters, rfl⟩ : ∃ c letters, word = c :: letters := by
    cases word with
    | nil => exact absurd hword (by decide)
    | cons c letters => exact ⟨c, letters, rfl⟩
  obtain ⟨hc, hplain, hseen⟩ := bearer_bytes hword hspace
  have heq' : (skeleton bytes).render = before ++ c :: (letters ++ space ++ (value ++ rest)) := by
    rw [heq]
    simp
  -- the word and the spaces are visible
  obtain ⟨front, behind, hskeleton, rfl, hbehind⟩ := Skeleton.render_eq_append_cons heq' hc
  obtain ⟨tail, rfl, htail⟩ := Skeleton.render_eq_append hbehind hseen
  obtain ⟨p, q, hbytes, hvisible, rfl, hq⟩ := skeletonFrom_eq_append_some _ hskeleton
  obtain ⟨q, rfl, _, hq⟩ := skeletonFrom_eq_map_append _ hq
  rw [Nat.zero_add] at hvisible hq
  have hstart' := wordStart_of_render hbytes hvisible hplain hstart
  have hlength : (p ++ c :: letters ++ space).length = p.length + 1 + (letters ++ space).length := by
    simp only [List.length_append, List.length_cons]
    omega
  rw [← hlength] at hq
  -- a credential there would be covered
  have hfree : ∀ {v r : List UInt8}, q = v ++ r → (∀ b ∈ v, ¬endsCredential b)
      → (∀ b ∈ r.head?, endsCredential b) → ¬Covered bytes (p ++ c :: letters ++ space).length
      → CredentialBytes v = false := by
    intro v r hsplit hv hr hnot
    by_contra hcredential
    rw [Bool.not_eq_false] at hcredential
    apply hnot
    have hparts : bytes = p ++ (c :: letters ++ space ++ v ++ r) := by
      rw [hbytes, hsplit]
      simp
    rw [hparts] at hvisible ⊢
    exact covered_bearer hstart' hword hne hspace hv hr hcredential hvisible
  have hnonempty : value ≠ [] := by
    rintro rfl
    exact absurd hcredential (by decide)
  have hpos := List.length_pos_of_ne_nil hnonempty
  generalize hstartAt : (p ++ c :: letters ++ space).length = start at hq hfree
  rcases Skeleton.first_run tail with ⟨seen, rfl⟩ | ⟨seen, back, rfl⟩
  . exfalso
    rw [Skeleton.render_map_some] at htail
    rw [← List.append_nil (seen.map some)] at hq
    obtain ⟨rest', rfl, hseenFree, hnil⟩ := skeletonFrom_eq_map_append _ hq
    obtain rfl := skeletonFrom_eq_nil _ hnil
    have hnot := hseenFree _ le_rfl (by rw [htail, List.length_append]; omega)
    rw [hfree (by rw [List.append_nil, htail]) hvalue hrest hnot] at hcredential
    cases hcredential
  . obtain ⟨q', rfl, hseenFree, hrun⟩ := skeletonFrom_eq_map_append _ hq
    rw [Skeleton.render_append, Skeleton.render_map_some, Skeleton.render_cons] at htail
    rcases List.append_eq_append_iff.mp htail with ⟨more, rfl, hmore⟩ | ⟨more, rfl, hmore⟩
    . -- the value reaches into the marker
      have hbare : more = utf8Bytes "[redacted" := by
        have htake := takeWhile_credential (fun b hb => hvalue b (List.mem_append_right _ hb)) hrest
        rw [← hmore, Skeleton.piece, marker_eq, List.append_assoc] at htake
        rw [← htake]
        apply takeWhile_credential
        . exact Text.forall_mem_of_all (by decide)
        . rintro b ⟨⟩
          decide
      rcases List.eq_nil_or_concat' seen with rfl | ⟨seen, x, rfl⟩
      . exfalso
        rw [List.nil_append, hbare] at hcredential
        exact absurd hcredential (by decide)
      . have hx : ¬endsCredential x := hvalue x (by simp)
        obtain ⟨run, r, rfl, hrunNe, hcovered, _, _⟩ := skeletonFrom_eq_none_cons _ hrun
        obtain ⟨y, run, rfl⟩ := List.exists_cons_of_ne_nil hrunNe
        generalize hpre : p ++ c :: letters ++ space ++ seen = pre
        have hparts : bytes = pre ++ x :: y :: (run ++ r) := by
          rw [hbytes, ← hpre]
          simp
        have hpreLength : pre.length = start + seen.length := by
          rw [← hpre, List.length_append, hstartAt]
        have hnotX : ¬Covered bytes pre.length := by
          apply hseenFree
          . omega
          . rw [List.length_append, List.length_singleton]
            omega
        have hisY : Covered bytes (pre.length + 1) := by
          apply hcovered
          . rw [List.length_append, List.length_singleton]
            omega
          . rw [List.length_append, List.length_singleton, List.length_cons]
            omega
        have hnotFirst : ¬Covered bytes start := by
          apply hseenFree _ le_rfl
          rw [List.length_append, List.length_singleton]
          omega
        rw [hparts] at hnotX hisY
        obtain ⟨value', rest', hsplit, hredacts⟩ := redacts_of_run hisY hnotX
        obtain ⟨hseparator, hassigns⟩ | ⟨hsecret, hplain', hrest'⟩ := hredacts.behind_plain hx
        . refine ⟨⟨x, by simp, hseparator⟩, ?_⟩
          refine ⟨skeletonFrom (Covered bytes) false 0 p
            ++ some c :: (letters ++ space ++ (seen ++ [x])).map some, back, ?_, ?_, by simp⟩
          . rw [hskeleton]
            simp
          . refine ⟨skeletonFrom (Covered bytes) false 0 p
              ++ some c :: (letters ++ space ++ seen).map some, x, [], by simp, hseparator, ?_,
              by simp⟩
            rw [Skeleton.render_append, Skeleton.render_cons, Skeleton.render_map_some]
            rw [← hpre] at hassigns
            have hseen : ∀ b ∈ seen, ¬endsCredential b := fun b hb => hvalue b (by simp [hb])
            have hsame := @assigns_behind_bearer _ _ _ _
              (skeletonFrom (Covered bytes) false 0 p).render hword hne hspace hseen hassigns
            simpa [Skeleton.piece] using hsame
        . exfalso
          have hlong : ∀ b ∈ seen ++ [x] ++ value', ¬endsCredential b := by
            intro b hb
            rcases List.mem_append.mp hb with hb | hb
            . exact hvalue b (List.mem_append_left _ hb)
            . exact hplain' b hb
          have hshort := hfree (by rw [List.append_assoc _ value', ← hsplit]; simp) hlong hrest' hnotFirst
          have hsecret' := @credentialBytes_of_secret (seen ++ [x]) value' [] hsecret
          rw [List.append_nil, hshort] at hsecret'
          cases hsecret'
    . exfalso
      cases more with
      | nil =>
        rw [List.nil_append] at hmore
        have hends := hrest 0x5b (by rw [hmore]; rfl)
        exact absurd hends (by decide)
      | cons d more =>
        have hnot := hseenFree _ le_rfl (by rw [List.length_append]; omega)
        have hd : ∀ b ∈ (d :: (more ++ q')).head?, endsCredential b := by
          rintro b ⟨⟩
          apply hrest
          rw [hmore]
          rfl
        rw [hfree (by simp) hvalue hd hnot] at hcredential
        cases hcredential

end

theorem redacts_again {bytes before value rest : List UInt8} (h : Redacts before value rest)
    (heq : (skeleton bytes).render = before ++ value ++ rest)
    : (∃ quote front back, Shown (skeleton bytes) quote front back ∧ before = front.render
        ∧ value = again quote back)
      ∨ (∃ b ∈ value, isSeparator b) ∧ ∃ front back, Shown (skeleton bytes) none front back := by
  cases h with
  | assigned hassigns hseparator hvalue =>
    left
    exact assigned_again hassigns hseparator hvalue heq
  | bearer hstart hword hne hspace hvalue hrest hcredential _ =>
    right
    exact bearer_again hstart hword hne hspace hvalue hrest hcredential heq
  | secretKey hstart hsecret _ _ => exact (no_secretKey_again hstart hsecret heq).elim

theorem Shown.redacts {s : Skeleton} {quote : Option UInt8} {front back : Skeleton}
    (h : Shown s quote front back)
    : ∃ rest, Redacts front.render (again quote back) rest
        ∧ s.render = front.render ++ again quote back ++ rest := by
  obtain ⟨key, separator, space, hfront, hseparator, hassigns, hspace⟩ := h.assigned
  obtain ⟨rest, hvalue, hagain⟩ := @valueAt_again space quote back hspace h.quoted
  have hrender : front.render = key.render ++ separator :: (space ++ quote.toList) := by
    rw [hfront, Skeleton.render_append, Skeleton.render_cons, Skeleton.render_map_some]
    rfl
  refine ⟨rest, ?_, ?_⟩
  . rw [hrender]
    exact .assigned hassigns hseparator hvalue
  . rw [h.split, Skeleton.render_append, Skeleton.render_cons, Skeleton.piece, hagain,
      List.append_assoc]

end Memory
