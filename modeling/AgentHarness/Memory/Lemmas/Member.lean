import AgentHarness.Memory.Lemmas.Again

/-!
Redaction around a quote. No range reaches over a quote but a value between quotes of the other kind; so
what is redacted on one side of a visible quote does not depend on the other side.
-/

namespace Memory

open Text (utf8Bytes)

def Opens (before : List UInt8) (quote : UInt8) : Prop :=
  ∃ p separator space inner, before = p ++ separator :: (space ++ quote :: inner) ∧ isSeparator separator
    ∧ Assigns p ∧ (∀ b ∈ space, isAsciiWhitespace b) ∧ quote ∉ inner

def Expects (before : List UInt8) : Prop :=
  ∃ p separator space, before = p ++ separator :: space ∧ isSeparator separator ∧ Assigns p
    ∧ ∀ b ∈ space, isAsciiWhitespace b

section

variable {before value rest x y l m : List UInt8} {q : UInt8} {j : Nat}

theorem Redacts.plain_or_quoted (h : Redacts before value rest)
    : (∀ b ∈ value, ¬endsCredential b)
      ∨ ∃ p separator space quote, before = p ++ separator :: (space ++ [quote]) ∧ isSeparator separator
        ∧ Assigns p ∧ (∀ b ∈ space, isAsciiWhitespace b) ∧ isQuote quote ∧ quote ∉ value
        ∧ ∀ b ∈ rest.head?, b = quote := by
  cases h with
  | @assigned p lead _ _ separator hassigns hseparator hvalue =>
    cases hvalue with
    | @quoted space _ _ quote hspace hquote _ hvalue hrest =>
      exact .inr ⟨p, separator, space, quote, rfl, hseparator, hassigns, hspace, hquote, hvalue, hrest⟩
    | bare _ _ hvalue _ => exact .inl hvalue
  | bearer _ _ _ _ hvalue _ _ _ => exact .inl hvalue
  | secretKey _ _ hvalue _ => exact .inl hvalue

theorem covered_of_opens {quote : UInt8} (hquote : isQuote quote) (h : Opens l quote) (hx : quote ∉ x)
    (hne : x ≠ [])
    : ∀ j, l.length ≤ j → j < l.length + x.length → Covered (l ++ x ++ y) j := by
  intro j hlow hhigh
  obtain ⟨p, separator, space, inner, rfl, hseparator, hassigns, hspace, hinner⟩ := h
  obtain ⟨more, rest, rfl, hvalue⟩ := @exists_quoted space (inner ++ x) quote hspace hquote
    (by simp [hne]) (by simp [hinner, hx]) y
  have hparts : p ++ separator :: (space ++ quote :: inner) ++ x ++ (more ++ rest)
      = (p ++ separator :: (space ++ [quote])) ++ (inner ++ x ++ more) ++ rest := by
    simp
  rw [hparts]
  apply covered_of_redacts (.assigned hassigns hseparator hvalue)
  . simp only [List.length_append, List.length_cons, List.length_nil] at hlow ⊢
    omega
  . simp only [List.length_append, List.length_cons, List.length_nil] at hlow hhigh ⊢
    omega

theorem exists_range {c : UInt8} (h : Covered (x ++ c :: y) x.length)
    : ∃ before inner more rest, x = before ++ inner ∧ y = more ++ rest
        ∧ Redacts before (inner ++ c :: more) rest := by
  obtain ⟨before, value, rest, hsplit, hredacts, hlow, hhigh⟩ := h
  rw [List.append_assoc, List.append_eq_append_iff] at hsplit
  rcases hsplit with ⟨between, rfl, hsplit⟩ | ⟨inner, rfl, hsplit⟩
  . obtain rfl : between = [] := by
      rw [List.length_append] at hlow
      exact List.eq_nil_of_length_eq_zero (by omega)
    cases value with
    | nil => exact absurd rfl hredacts.ne_nil
    | cons b more =>
      obtain ⟨rfl, rfl⟩ := List.cons.inj hsplit
      rw [List.append_nil] at hredacts
      exact ⟨x, [], more, rest, by simp, rfl, hredacts⟩
  . rw [List.append_eq_append_iff] at hsplit
    rcases hsplit with ⟨beyond, rfl, _⟩ | ⟨tail, rfl, hsplit⟩
    . simp only [List.length_append] at hhigh
      omega
    . cases tail with
      | nil =>
        simp only [List.length_append, List.length_nil] at hhigh
        omega
      | cons b more =>
        obtain ⟨rfl, rfl⟩ := List.cons.inj hsplit
        exact ⟨before, inner, more, rest, rfl, rfl, hredacts⟩

theorem covered_quote_iff (hq : isQuote q)
    : Covered (x ++ q :: y) x.length ↔ ∃ quote, isQuote quote ∧ quote ≠ q ∧ Opens x quote := by
  constructor
  . intro hcovered
    obtain ⟨before, inner, more, rest, rfl, _, hredacts⟩ := exists_range hcovered
    rcases hredacts.plain_or_quoted with hplain | ⟨p, separator, space, quote, rfl, hseparator, hassigns,
      hspace, hquote, hvalue, _⟩
    . exact absurd (endsCredential_of_quote q hq) (hplain q (by simp))
    . rw [List.mem_append, List.mem_cons, not_or, not_or] at hvalue
      exact ⟨quote, hquote, hvalue.2.1, p, separator, space, inner, by simp, hseparator, hassigns, hspace,
        hvalue.1⟩
  . rintro ⟨quote, hquote, hne, hopens⟩
    have hcovered := covered_of_opens (y := y) hquote hopens (by simpa using hne) (List.cons_ne_nil q [])
      x.length le_rfl (by simp)
    simpa using hcovered

theorem skipped_congr {d : UInt8} (hd : endsCredential d) (hx : x ≠ []) (h : Skipped before (x ++ d :: y))
    : Skipped before (x ++ d :: m) := by
  have hends : ∀ y : List UInt8, ∀ b ∈ (d :: y).head?, endsCredential b := by
    rintro y b ⟨⟩
    exact hd
  obtain ⟨outer, inner, b, rest, rfl, hsplit, hne, hstart, hsecret, hplain⟩ := h
  obtain ⟨c, x, rfl⟩ := List.exists_cons_of_ne_nil hx
  obtain ⟨rfl, _⟩ := List.cons.inj hsplit
  refine ⟨outer, inner, c, x ++ d :: m, rfl, rfl, hne, hstart, ?_, hplain⟩
  rw [← List.append_assoc, secretStart_append (hends _)] at hsecret ⊢
  exact hsecret

theorem Redacts.congr (h : Redacts before value rest) (rest' : List UInt8) (hrest : rest.head? = rest'.head?)
    : Redacts before value rest' := by
  cases h with
  | assigned hassigns hseparator hvalue =>
    refine .assigned hassigns hseparator ?_
    cases hvalue with
    | quoted hspace hquote hne hvalue hend => exact .quoted hspace hquote hne hvalue (hrest ▸ hend)
    | bare hspace hne hvalue hend => exact .bare hspace hne hvalue (hrest ▸ hend)
  | @bearer before word space _ _ hstart hword hne hspace hvalue hend hcredential hscanned =>
    refine .bearer hstart hword hne hspace hvalue (hrest ▸ hend) hcredential fun hskipped => hscanned ?_
    obtain ⟨d, space, rfl⟩ := List.exists_cons_of_ne_nil hne
    have hd := endsCredential_of_whitespace d (hspace d List.mem_cons_self)
    have hwordNe : word ≠ [] := by
      rintro rfl
      exact absurd hword (by decide)
    simp only [List.append_assoc, List.cons_append] at hskipped ⊢
    exact skipped_congr hd hwordNe hskipped
  | secretKey hstart hsecret hvalue hend => exact .secretKey hstart hsecret hvalue (hrest ▸ hend)

theorem covered_left (hq : isQuote q) (hj : j ≤ l.length) (h : Covered (l ++ q :: x) j)
    : Covered (l ++ q :: y) j := by
  rcases Nat.lt_or_eq_of_le hj with hlt | rfl
  . obtain ⟨l, c, m, rfl, rfl⟩ : ∃ left c right, l = left ++ c :: right ∧ left.length = j :=
      ⟨l.take j, l[j], l.drop (j + 1), by rw [← List.drop_eq_getElem_cons, List.take_append_drop],
        by rw [List.length_take]; omega⟩
    rw [List.append_assoc, List.cons_append] at h
    obtain ⟨before, inner, more, rest, rfl, hsplit, hredacts⟩ := exists_range h
    have hinside : ∀ tail, m = more ++ tail → rest = tail ++ q :: x
        → Covered (before ++ inner ++ c :: m ++ q :: y) (before ++ inner).length := by
      rintro tail rfl rfl
      have hredacts' := hredacts.congr (tail ++ q :: y) (by cases tail <;> rfl)
      have hcovered := covered_of_redacts hredacts' (i := (before ++ inner).length) (by simp)
        (by simp only [List.length_append, List.length_cons]; omega)
      simpa using hcovered
    rcases List.append_eq_append_iff.mp hsplit with ⟨beyond, rfl, hover⟩ | ⟨tail, hm, hrest⟩
    . cases beyond with
      | nil => exact hinside [] (by simp) (by simpa using hover.symm)
      | cons b beyond =>
        obtain ⟨rfl, _⟩ := List.cons.inj hover
        rcases hredacts.plain_or_quoted with hplain | ⟨p, separator, space, quote, rfl, hseparator,
          hassigns, hspace, hquote, hvalue, _⟩
        . exact absurd (endsCredential_of_quote q hq) (hplain q (by simp))
        . simp only [List.mem_append, List.mem_cons, not_or] at hvalue
          have hopens : Opens (p ++ separator :: (space ++ [quote]) ++ inner) quote :=
            ⟨p, separator, space, inner, by simp, hseparator, hassigns, hspace, hvalue.1⟩
          apply covered_of_opens hquote hopens _ (List.cons_ne_nil c m) _ le_rfl (by simp)
          rw [List.mem_cons, not_or]
          exact ⟨hvalue.2.1, hvalue.2.2.1⟩
    . exact hinside tail hm hrest
  . rw [covered_quote_iff hq] at h ⊢
    exact h

theorem wordStart_append (hne : y ≠ []) : WordStart (x ++ y) ↔ WordStart y := by
  unfold WordStart
  rw [List.getLast?_append_of_ne_nil _ hne]

theorem skipped_behind_quote (hq : isQuote q) : Skipped (m ++ q :: x) y ↔ Skipped (q :: x) y := by
  have hplain : ∀ outer inner front : List UInt8, (∀ b ∈ inner, ¬endsCredential b)
      → front ++ q :: x = outer ++ inner
      → ∃ left right, outer = left ++ right ∧ left = front ∧ right ≠ [] ∧ q :: x = right ++ inner := by
    intro outer inner front hinner hsplit
    rcases List.append_eq_append_iff.mp hsplit with ⟨right, rfl, hright⟩ | ⟨beyond, rfl, hover⟩
    . cases right with
      | nil =>
        rw [List.nil_append] at hright
        exact absurd (endsCredential_of_quote q hq) (hinner q (by simp [← hright]))
      | cons b right => exact ⟨front, b :: right, rfl, rfl, by simp, hright⟩
    . exact absurd (endsCredential_of_quote q hq) (hinner q (by simp [hover]))
  constructor
  . rintro ⟨outer, inner, b, rest, hsplit, rfl, hne, hstart, hsecret, hfree⟩
    have hinner : ∀ b ∈ inner, ¬endsCredential b := fun x hx => hfree x (List.mem_append_left _ hx)
    obtain ⟨left, right, rfl, rfl, hright, hsplit⟩ := hplain outer inner m hinner hsplit
    rw [wordStart_append hright] at hstart
    exact ⟨right, inner, b, rest, hsplit, rfl, hne, hstart, hsecret, hfree⟩
  . rintro ⟨outer, inner, b, rest, hsplit, rfl, hne, hstart, hsecret, hfree⟩
    have hinner : ∀ b ∈ inner, ¬endsCredential b := fun x hx => hfree x (List.mem_append_left _ hx)
    obtain ⟨left, right, rfl, rfl, hright, hsplit⟩ := hplain outer inner [] hinner hsplit
    rw [List.nil_append] at hstart
    rw [← wordStart_append (x := m) hright] at hstart
    refine ⟨m ++ right, inner, b, rest, ?_, rfl, hne, hstart, hsecret, hfree⟩
    rw [hsplit, List.append_assoc]

theorem redacts_behind_quote (hq : isQuote q) (hx : ∀ b ∈ x, ¬isSeparator b) (hexpects : ¬Expects m)
    : Redacts (m ++ q :: x) value rest ↔ Redacts (q :: x) value rest := by
  have hqPlain : ¬isSeparator q := fun hseparator =>
    not_ends_of_separator q hseparator (endsCredential_of_quote q hq)
  have hqWord : ∀ b, isQuote b → toAsciiLowercase b ∉ utf8Bytes "bearer" := by
    grind [bearer_eq]
  have htail : (q :: x) ≠ [] := by simp
  -- the word and the spaces stand behind the quote
  have hbehind : ∀ front before word space : List UInt8, word.map toAsciiLowercase = utf8Bytes "bearer"
      → (∀ b ∈ space, isAsciiWhitespace b) → before ++ word ++ space = front ++ q :: x
      → ∃ right, before = front ++ q :: right ∧ x = right ++ word ++ space := by
    intro front before word space hword hspace hsplit
    have hnot : q ∉ word ++ space := by
      intro hmem
      rcases List.mem_append.mp hmem with hmem | hmem
      . apply hqWord q hq
        rw [← hword]
        exact List.mem_map_of_mem hmem
      . exact not_quote_of_whitespace q (hspace q hmem) hq
    rw [List.append_assoc] at hsplit
    rcases List.append_eq_append_iff.mp hsplit with ⟨beyond, rfl, hover⟩ | ⟨right, rfl, hright⟩
    . exact absurd (by rw [hover]; simp) hnot
    . cases right with
      | nil =>
        rw [List.nil_append] at hright
        exact absurd (by rw [← hright]; simp) hnot
      | cons b right =>
        obtain ⟨rfl, rfl⟩ := List.cons.inj hright
        exact ⟨right, rfl, by simp⟩
  constructor
  . intro h
    generalize hbefore : m ++ q :: x = before at h
    cases h with
    | @assigned p lead _ _ separator hassigns hseparator hvalue =>
      exfalso
      rcases List.append_eq_append_iff.mp hbefore with ⟨beyond, rfl, hover⟩ | ⟨middle, rfl, hmiddle⟩
      . have hmem : separator ∈ q :: x := by rw [hover]; simp
        rw [List.mem_cons] at hmem
        rcases hmem with rfl | hmem
        . exact hqPlain hseparator
        . exact hx separator hmem hseparator
      . cases middle with
        | nil =>
          rw [List.nil_append] at hmiddle
          obtain ⟨rfl, _⟩ := List.cons.inj hmiddle
          exact hqPlain hseparator
        | cons b middle =>
          obtain ⟨rfl, rfl⟩ := List.cons.inj hmiddle
          apply hexpects
          change ValueAt (middle ++ q :: x) value rest at hvalue
          generalize hlead : middle ++ q :: x = lead at hvalue
          cases hvalue with
          | @quoted space _ _ quote hspace _ _ _ _ =>
            refine ⟨p, separator, middle, rfl, hseparator, hassigns, ?_⟩
            rcases List.append_eq_append_iff.mp hlead with ⟨beyond, rfl, _⟩ | ⟨beyond, rfl, hover⟩
            . exact fun b hb => hspace b (List.mem_append_left _ hb)
            . cases beyond with
              | nil => simpa using hspace
              | cons b beyond => simp at hover
          | bare hspace _ _ _ =>
            subst hlead
            exact absurd hq (not_quote_of_whitespace q (hspace q (by simp)))
    | @bearer before word space _ _ hstart hword hne hspace hvalue hend hcredential hscanned =>
      obtain ⟨right, rfl, rfl⟩ := hbehind m before word space hword hspace hbefore.symm
      rw [wordStart_append (by simp)] at hstart
      rw [skipped_behind_quote hq] at hscanned
      exact .bearer hstart hword hne hspace hvalue hend hcredential hscanned
    | secretKey hstart hsecret hvalue hend =>
      subst hbefore
      rw [wordStart_append htail] at hstart
      exact .secretKey hstart hsecret hvalue hend
  . intro h
    generalize hbefore : q :: x = before at h
    cases h with
    | @assigned p lead _ _ separator hassigns hseparator hvalue =>
      exfalso
      have hmem : separator ∈ q :: x := by rw [hbefore]; simp
      rw [List.mem_cons] at hmem
      rcases hmem with rfl | hmem
      . exact hqPlain hseparator
      . exact hx separator hmem hseparator
    | @bearer before word space _ _ hstart hword hne hspace hvalue hend hcredential hscanned =>
      obtain ⟨right, rfl, rfl⟩ := hbehind [] before word space hword hspace hbefore.symm
      rw [List.nil_append] at hstart hscanned
      rw [← wordStart_append (x := m) (by simp)] at hstart
      rw [← @skipped_behind_quote right _ m q hq] at hscanned
      have hredacts := Redacts.bearer hstart hword hne hspace hvalue hend hcredential hscanned
      simpa using hredacts
    | secretKey hstart hsecret hvalue hend =>
      subst hbefore
      rw [← wordStart_append (x := m) htail] at hstart
      exact .secretKey hstart hsecret hvalue hend

theorem covered_right_iff (hq : isQuote q) (hx : ∀ b ∈ x, ¬isSeparator b) (hexpects : ¬Expects m)
    (hvisible : ¬Covered (m ++ q :: x) m.length)
    : Covered (m ++ q :: x) (m.length + 1 + j) ↔ Covered (q :: x) (1 + j) := by
  by_cases hj : j < x.length
  . obtain ⟨left, c, right, rfl, rfl⟩ : ∃ left c right, x = left ++ c :: right ∧ left.length = j :=
      ⟨x.take j, x[j], x.drop (j + 1), by rw [← List.drop_eq_getElem_cons, List.take_append_drop],
        by rw [List.length_take]; omega⟩
    have hleft : ∀ inner b, left = b ++ inner → ∀ x ∈ b, ¬isSeparator x := by
      rintro inner b rfl x hx'
      exact hx x (by simp [hx'])
    have hcovered : ∀ front : List UInt8, Covered (front ++ q :: (left ++ c :: right)) (front.length + 1 + left.length)
        ↔ Covered ((front ++ q :: left) ++ c :: right) (front ++ q :: left).length := by
      intro front
      have hlength : (front ++ q :: left).length = front.length + 1 + left.length := by
        rw [List.length_append, List.length_cons]
        omega
      rw [hlength, List.append_assoc, List.cons_append]
    rw [hcovered]
    have hright := hcovered []
    simp only [List.nil_append, List.length_nil, Nat.zero_add] at hright
    rw [hright]
    constructor
    . intro h
      obtain ⟨before, inner, more, rest, hbefore, rfl, hredacts⟩ := exists_range h
      rcases List.append_eq_append_iff.mp hbefore with ⟨tail, rfl, htail⟩ | ⟨beyond, rfl, hover⟩
      . cases tail with
        | nil =>
          exfalso
          apply hvisible
          rw [List.nil_append] at htail
          subst htail
          rw [List.append_nil] at hredacts
          have hhead := covered_head hredacts
          simpa using hhead
        | cons b tail =>
          obtain ⟨rfl, rfl⟩ := List.cons.inj htail
          rw [redacts_behind_quote hq (hleft inner tail rfl) hexpects] at hredacts
          have hthere := covered_of_redacts hredacts (i := (q :: (tail ++ inner)).length)
            (by simp only [List.length_cons, List.length_append]; omega)
            (by simp only [List.length_cons, List.length_append]; omega)
          simpa using hthere
      . exfalso
        apply hvisible
        subst hover
        have hthere := covered_of_redacts hredacts (i := (before ++ beyond).length)
          (by rw [List.length_append]; omega)
          (by simp only [List.length_cons, List.length_append]; omega)
        simpa using hthere
    . intro h
      obtain ⟨before, inner, more, rest, hbefore, rfl, hredacts⟩ := exists_range h
      cases before with
      | nil =>
        exfalso
        rw [List.nil_append] at hbefore
        subst hbefore
        rcases hredacts.starts with ⟨front, b, hnil, _⟩ | ⟨_, hsecret⟩
        . simp at hnil
        . obtain ⟨b, value, hsplit, rfl⟩ := secretStart_cons hsecret
          obtain ⟨rfl, _⟩ := List.cons.inj hsplit
          exact absurd hq (by decide)
      | cons b tail =>
        obtain ⟨rfl, rfl⟩ := List.cons.inj hbefore
        rw [← redacts_behind_quote hq (hleft inner tail rfl) hexpects] at hredacts
        have hthere := covered_of_redacts hredacts (i := (m ++ q :: (tail ++ inner)).length)
          (by simp only [List.length_cons, List.length_append]; omega)
          (by simp only [List.length_cons, List.length_append]; omega)
        simpa using hthere
  . have hfar : ∀ {bytes : List UInt8} {i}, bytes.length ≤ i → ¬Covered bytes i := by
      rintro bytes i hle ⟨before, value, rest, rfl, _, _, hhigh⟩
      simp only [List.length_append] at hle
      omega
    constructor
    . intro h
      exact absurd h (hfar (by simp only [List.length_append, List.length_cons]; omega))
    . intro h
      exact absurd h (hfar (by simp only [List.length_cons]; omega))

end

end Memory

/-!
The redaction of a text in which a value stands between quotes behind a sensitive key. The bytes up to
the value are redacted the same way for every value, so two texts are alike if what is left of the value
and of the text behind it is.
-/

namespace Memory

open Text (utf8Bytes)

def Bland (bytes : List UInt8) : Prop :=
  ∀ b ∈ bytes, ¬isQuote b ∧ ¬isSeparator b

def Escaped (bytes : List UInt8) : Prop :=
  ∀ x y, bytes = x ++ 0x22 :: y → ∃ front, x = front ++ [0x5c]

section

variable (covered : Nat → Prop) [DecidablePred covered] {inside : Bool} {i : Nat}
  {bytes x y : List UInt8} {b c : UInt8}

theorem skeletonFrom_append
    : skeletonFrom covered inside i (x ++ c :: y)
        = skeletonFrom covered inside i (x ++ [c])
          ++ skeletonFrom covered (decide (covered (i + x.length))) (i + x.length + 1) y := by
  induction x generalizing inside i with
  | nil =>
    rw [List.nil_append, List.nil_append, List.length_nil, Nat.add_zero, skeletonFrom_cons,
      skeletonFrom_cons]
    by_cases hc : covered i
    . simp [hc, skeletonFrom]
    . simp [hc, skeletonFrom]
  | cons d x ih =>
    have hlength : i + (d :: x).length = i + 1 + x.length := by
      rw [List.length_cons]
      omega
    rw [hlength, List.cons_append, List.cons_append, skeletonFrom_cons, skeletonFrom_cons, ih, ih]
    split
    . rw [List.append_assoc]
    . rfl

theorem mem_render (h : b ∈ (skeletonFrom covered inside i bytes).render)
    : b ∈ utf8Bytes redactedMarker ∨ b ∈ bytes := by
  induction bytes generalizing inside i with
  | nil => simp [skeletonFrom, Skeleton.render] at h
  | cons c bytes ih =>
    unfold skeletonFrom at h
    split at h
    . rw [Skeleton.render_append, List.mem_append] at h
      rcases h with h | h
      . cases inside with
        | true => cases h
        | false =>
          left
          simpa [Skeleton.render, Skeleton.piece] using h
      . exact (ih h).imp_right (List.mem_cons_of_mem _)
    . rw [Skeleton.render_cons, Skeleton.piece, List.singleton_append, List.mem_cons] at h
      rcases h with rfl | h
      . exact .inr List.mem_cons_self
      . exact (ih h).imp_right (List.mem_cons_of_mem _)

theorem mem_render_of_visible (h : ¬covered (i + x.length))
    : c ∈ (skeletonFrom covered inside i (x ++ c :: y)).render := by
  rw [show x ++ c :: y = x ++ [c] ++ y by simp]
  induction x generalizing inside i with
  | nil =>
    rw [List.nil_append, List.singleton_append]
    unfold skeletonFrom
    rw [if_neg (show ¬covered i from h), Skeleton.render_cons]
    exact List.mem_append_left _ List.mem_cons_self
  | cons d x ih =>
    have hlength : i + (d :: x).length = i + 1 + x.length := by
      rw [List.length_cons]
      omega
    rw [hlength] at h
    rw [List.cons_append, List.cons_append]
    unfold skeletonFrom
    split
    . rw [Skeleton.render_append]
      exact List.mem_append_right _ (ih h)
    . rw [Skeleton.render_cons]
      exact List.mem_append_right _ (ih h)

theorem skeletonFrom_true_run (h : ∀ j, i ≤ j → j < i + x.length → covered j)
    : skeletonFrom covered true i (x ++ y) = skeletonFrom covered true (i + x.length) y := by
  by_cases hx : x = []
  . rw [hx]
    rfl
  . rw [skeletonFrom_run _ _ h hx]
    rfl

end

section

variable {l e a front inner : List UInt8}

theorem not_opens_escaped (he : Escaped (e ++ a)) (hmem : (0x22 : UInt8) ∈ e) : ¬Opens (front ++ e) 0x22 := by
  rintro ⟨p, separator, space, inner, hsplit, hseparator, _, hspace, hinner⟩
  obtain ⟨x, y, rfl, hy⟩ : ∃ x y, e = x ++ 0x22 :: y ∧ (0x22 : UInt8) ∉ y := by
    obtain ⟨y, hy⟩ := rdropWhile_of_mem hmem
    refine ⟨y, e.rtakeWhile (· ≠ 0x22), ?_, fun h => ?_⟩
    . have hparts := rdropWhile_append_rtakeWhile (· ≠ 0x22) e
      rw [hy] at hparts
      conv => lhs; rw [← hparts]
      simp
    . simpa using all_rtakeWhile _ h
  obtain ⟨x, rfl⟩ := he x (y ++ a) (by simp)
  -- the last quotation mark
  have hlast : front ++ x ++ [0x5c] = p ++ separator :: space := by
    have hsplit' : (front ++ x ++ [0x5c]) ++ (0x22 :: y) = (p ++ separator :: space) ++ 0x22 :: inner := by
      rw [List.append_assoc p, List.cons_append, ← hsplit]
      simp
    rcases List.append_eq_append_iff.mp hsplit' with ⟨more, hmore, hy'⟩ | ⟨more, hmore, hinner'⟩
    . cases more with
      | nil => rw [hmore, List.append_nil]
      | cons b more =>
        obtain ⟨_, rfl⟩ := List.cons.inj hy'
        exact absurd (by simp) hy
    . cases more with
      | nil => rw [hmore, List.append_nil]
      | cons b more =>
        obtain ⟨_, rfl⟩ := List.cons.inj hinner'
        exact absurd (by simp) hinner
  have hback : ∀ b, isAsciiWhitespace b ∨ isSeparator b → b ≠ 0x5c := by grind
  rcases List.eq_nil_or_concat' space with rfl | ⟨space, b, rfl⟩
  . obtain ⟨_, hb⟩ := List.append_inj' hlast rfl
    exact hback separator (.inr hseparator) (List.cons.inj hb).1.symm
  . rw [← List.cons_append, ← List.append_assoc] at hlast
    obtain ⟨_, hb⟩ := List.append_inj' hlast rfl
    exact hback b (.inl (hspace b (by simp))) (List.cons.inj hb).1.symm

end

open Classical in
noncomputable def shownFrom (l e a : List UInt8) : List UInt8 :=
  (skeletonFrom (Covered (l ++ 0x22 :: (e ++ 0x22 :: a))) true (l.length + 1) (e ++ 0x22 :: a)).render

open Classical in
noncomputable def shownTail (a : List UInt8) : List UInt8 :=
  (skeletonFrom (Covered (0x22 :: a)) false 1 a).render

section

variable {l e a : List UInt8}

theorem isQuote_cases : ∀ b, isQuote b → b = 0x27 ∨ b = 0x22 := by
  grind

theorem covered_mark_iff {x y : List UInt8}
    : Covered (x ++ 0x22 :: y) x.length ↔ Opens x 0x27 := by
  rw [covered_quote_iff (by decide)]
  constructor
  . rintro ⟨quote, hquote, hne, hopens⟩
    obtain rfl := (isQuote_cases quote hquote).resolve_right hne
    exact hopens
  . intro hopens
    exact ⟨0x27, by decide, by decide, hopens⟩

theorem covered_apostrophe_iff {x y : List UInt8}
    : Covered (x ++ 0x27 :: y) x.length ↔ Opens x 0x22 := by
  rw [covered_quote_iff (by decide)]
  constructor
  . rintro ⟨quote, hquote, hne, hopens⟩
    obtain rfl := (isQuote_cases quote hquote).resolve_left hne
    exact hopens
  . intro hopens
    exact ⟨0x22, by decide, by decide, hopens⟩

theorem covered_value (hopens : Opens (l ++ [0x22]) 0x22) {seen : List UInt8} (rest : List UInt8)
    (hseen : (0x22 : UInt8) ∉ seen)
    : ∀ j, l.length + 1 ≤ j → j < l.length + 1 + seen.length → Covered (l ++ 0x22 :: (seen ++ rest)) j := by
  intro j hlow hhigh
  have hne : seen ≠ [] := by
    rintro rfl
    rw [List.length_nil] at hhigh
    omega
  have hlength : (l ++ [(0x22 : UInt8)]).length = l.length + 1 := by simp
  rw [show l ++ 0x22 :: (seen ++ rest) = l ++ [0x22] ++ seen ++ rest by simp]
  apply covered_of_opens (by decide) hopens hseen hne
  . omega
  . omega

theorem shownFrom_plain (hopens : Opens (l ++ [0x22]) 0x22) (he : (0x22 : UInt8) ∉ e) (ha : Bland a)
    : (Opens (l ++ 0x22 :: e) 0x27 → shownFrom l e a = [])
      ∧ (¬Opens (l ++ 0x22 :: e) 0x27 → Expects (l ++ 0x22 :: e) → a ≠ []
        → shownFrom l e a = 0x22 :: utf8Bytes redactedMarker)
      ∧ (¬Opens (l ++ 0x22 :: e) 0x27 → (Expects (l ++ 0x22 :: e) → a = [])
        → shownFrom l e a = 0x22 :: shownTail a) := by
  classical
  have hbland : ∀ quote, isQuote quote → quote ∉ a := fun quote hquote hmem => (ha quote hmem).1 hquote
  have hvalue := covered_value hopens (0x22 :: a) he
  have hlength : (l ++ 0x22 :: e).length = l.length + 1 + e.length := by
    rw [List.length_append, List.length_cons]
    omega
  have hparts : l ++ 0x22 :: (e ++ 0x22 :: a) = (l ++ 0x22 :: e) ++ 0x22 :: a := by simp
  have hstart : shownFrom l e a = (skeletonFrom (Covered (l ++ 0x22 :: (e ++ 0x22 :: a))) true
      (l.length + 1 + e.length) (0x22 :: a)).render := by
    unfold shownFrom
    rw [skeletonFrom_true_run _ hvalue]
  rw [hstart, hparts, ← hlength]
  generalize hfront : l ++ 0x22 :: e = front
  have hmark : Covered (front ++ 0x22 :: a) front.length ↔ Opens front 0x27 := covered_mark_iff
  refine ⟨fun hopen => ?_, fun hclosed hexpects hne => ?_, fun hclosed hexpects => ?_⟩
  . have hall : ∀ j, front.length ≤ j → j < front.length + (0x22 :: a).length
        → Covered (front ++ 0x22 :: a) j := by
      intro j hlow hhigh
      have hnot : (0x27 : UInt8) ∉ 0x22 :: a := by
        rw [List.mem_cons, not_or]
        exact ⟨by decide, hbland 0x27 (by decide)⟩
      have hcovered := covered_of_opens (y := []) (by decide) hopen hnot (List.cons_ne_nil _ _) j hlow hhigh
      rwa [List.append_nil] at hcovered
    rw [← List.append_nil (0x22 :: a), skeletonFrom_true_run _ (by simpa using hall)]
    rfl
  . rw [← hmark] at hclosed
    obtain ⟨p, separator, space, rfl, hseparator, hassigns, hspace⟩ := hexpects
    have hopens' : Opens (p ++ separator :: space ++ [0x22]) 0x22 :=
      ⟨p, separator, space, [], by simp, hseparator, hassigns, hspace, by simp⟩
    have hall := covered_value hopens' [] (hbland 0x22 (by decide))
    rw [List.append_nil] at hall
    have hrun := @skeletonFrom_run _ _ false _ a [] hall hne
    rw [List.append_nil] at hrun
    rw [skeletonFrom_outside _ hclosed, skeletonFrom_visible _ hclosed, hrun]
    simp [skeletonFrom, Skeleton.render, Skeleton.piece]
  . rw [← hmark] at hclosed
    rw [skeletonFrom_outside _ hclosed, skeletonFrom_visible _ hclosed, Skeleton.render_cons]
    have hsame : skeletonFrom (Covered (front ++ 0x22 :: a)) false (front.length + 1) a
        = skeletonFrom (Covered (0x22 :: a)) false 1 a := by
      cases a with
      | nil => rfl
      | cons c a =>
        apply skeletonFrom_congr
        intro j _
        apply covered_right_iff (by decide) (fun b hb => (ha b hb).2) _ hclosed
        intro h
        exact absurd (hexpects h) (by simp)
    rw [hsame]
    rfl

section

variable {front behind : List UInt8}
  (hnone : ∀ y z, behind = y ++ z → ¬Opens (front ++ 0x22 :: y) 0x22)

include hnone

open Classical in
-- the run ends at the next apostrophe, or with the text
theorem no_mark_in_apostrophe (hopen : Opens front 0x27) (ha : Bland a) {t : List UInt8}
    : (skeletonFrom (Covered (front ++ 0x22 :: (behind ++ 0x22 :: a))) true front.length
        (0x22 :: (behind ++ 0x22 :: a))).render ≠ 0x22 :: t := by
  intro h
  obtain ⟨x, rest, htail, hinside, hstop⟩ := exists_upTo 0x27 (behind ++ 0x22 :: a)
  replace htail := htail.symm
  have hnot : (0x27 : UInt8) ∉ 0x22 :: x := by
    rw [List.mem_cons, not_or]
    exact ⟨by decide, hinside⟩
  have hcovered := covered_of_opens (y := rest) (by decide) hopen hnot (List.cons_ne_nil _ _)
  rw [List.append_assoc, List.cons_append, htail] at hcovered
  generalize htext : front ++ 0x22 :: (behind ++ 0x22 :: a) = text at hcovered h
  rw [← htail, ← List.cons_append, skeletonFrom_true_run _ hcovered] at h
  cases rest with
  | nil => simp [skeletonFrom, Skeleton.render] at h
  | cons b rest =>
    obtain rfl := hstop b rfl
    obtain ⟨z, hz⟩ : ∃ z, behind = x ++ z := by
      rcases List.append_eq_append_iff.mp htail with ⟨z, rfl, _⟩ | ⟨beyond, rfl, hover⟩
      . exact ⟨z, rfl⟩
      . exfalso
        have hmem : (0x27 : UInt8) ∈ 0x22 :: a := by
          rw [hover]
          simp
        rw [List.mem_cons] at hmem
        rcases hmem with hmem | hmem
        . exact absurd hmem (by decide)
        . exact (ha 0x27 hmem).1 (by decide)
    have hvisible : ¬Covered text (front.length + (0x22 :: x).length) := by
      rw [← htext, ← htail, ← List.length_append, ← List.cons_append, ← List.append_assoc,
        covered_apostrophe_iff]
      exact hnone x z hz
    rw [skeletonFrom_outside _ hvisible, skeletonFrom_visible _ hvisible, Skeleton.render_cons] at h
    exact absurd (List.cons.inj h).1 (by decide)

open Classical in
-- the apostrophe that is open stands behind the mark and is shown
theorem apostrophe_shown (hmark : ¬Opens front 0x27) (hclosing : Opens (front ++ 0x22 :: behind) 0x27)
    : 0x27 ∈ (skeletonFrom (Covered (front ++ 0x22 :: (behind ++ 0x22 :: a))) false (front.length + 1)
        (behind ++ 0x22 :: a)).render := by
  obtain ⟨p, separator, space, inner, hsplit, hseparator, hassigns, hspace, hinner⟩ := hclosing
  rw [← List.cons_append, ← List.append_assoc] at hsplit
  rcases List.append_eq_append_iff.mp hsplit with ⟨beyond, hover, htail⟩ | ⟨beyond, hover, htail⟩
  . cases beyond with
    | nil => exact absurd (List.cons.inj htail).1 (by decide)
    | cons b y =>
      obtain ⟨rfl, rfl⟩ := List.cons.inj htail
      change 0x27 ∈ (skeletonFrom (Covered (front ++ 0x22 :: ((y ++ 0x27 :: inner) ++ 0x22 :: a)))
        false (front.length + 1) ((y ++ 0x27 :: inner) ++ 0x22 :: a)).render
      rw [List.append_assoc y, List.cons_append]
      apply mem_render_of_visible
      rw [show front ++ 0x22 :: (y ++ 0x27 :: (inner ++ 0x22 :: a))
        = (front ++ 0x22 :: y) ++ 0x27 :: (inner ++ 0x22 :: a) by simp,
        show front.length + 1 + y.length = (front ++ 0x22 :: y).length by simp; omega,
        covered_apostrophe_iff]
      exact hnone y _ rfl
  . cases beyond with
    | nil => exact absurd (List.cons.inj htail).1 (by decide)
    | cons b z =>
      obtain ⟨rfl, rfl⟩ := List.cons.inj htail
      exfalso
      apply hmark
      refine ⟨p, separator, space, z, ?_, hseparator, hassigns, hspace, fun hmem => hinner (by simp [hmem])⟩
      rw [hover]
      simp

end

theorem shownFrom_quoted (hopens : Opens (l ++ [0x22]) 0x22) (hescaped : Escaped e)
    (he : (0x22 : UInt8) ∈ e) (ha : Bland a) {t : List UInt8} (h : shownFrom l e a = 0x22 :: t)
    : ∃ quote ∈ t, isQuote quote := by
  classical
  obtain ⟨seen, behind, rfl, hseen⟩ : ∃ seen behind, e = seen ++ 0x22 :: behind ∧ (0x22 : UInt8) ∉ seen := by
    obtain ⟨seen, rest, rfl, hseen, hhead⟩ := exists_upTo 0x22 e
    cases rest with
    | nil => exact absurd (by simpa using he) hseen
    | cons b behind =>
      obtain rfl := hhead b rfl
      exact ⟨seen, behind, rfl, hseen⟩
  have hvalue := covered_value hopens (0x22 :: (behind ++ 0x22 :: a)) hseen
  generalize hfront : l ++ 0x22 :: seen = front
  have hlength : front.length = l.length + 1 + seen.length := by
    rw [← hfront, List.length_append, List.length_cons]
    omega
  have hparts : l ++ 0x22 :: (seen ++ 0x22 :: behind ++ 0x22 :: a)
      = front ++ 0x22 :: (behind ++ 0x22 :: a) := by simp [← hfront]
  have hstart : shownFrom l (seen ++ 0x22 :: behind) a
      = (skeletonFrom (Covered (front ++ 0x22 :: (behind ++ 0x22 :: a))) true
        front.length (0x22 :: (behind ++ 0x22 :: a))).render := by
    unfold shownFrom
    rw [hlength, ← hparts, List.append_assoc seen, List.cons_append, skeletonFrom_true_run _ hvalue]
  rw [hstart] at h
  -- no value starts at a quotation mark of the value
  have hnone : ∀ y z, behind = y ++ z → ¬Opens (front ++ 0x22 :: y) 0x22 := by
    rintro y z rfl
    have hescaped' : Escaped ((seen ++ 0x22 :: y) ++ z) := by simpa using hescaped
    have hnot := @not_opens_escaped _ _ (l ++ [0x22]) hescaped' (by simp)
    simpa [← hfront] using hnot
  by_cases hmark : Opens front 0x27
  . exact absurd h (no_mark_in_apostrophe hnone hmark ha)
  . have hvisible : ¬Covered (front ++ 0x22 :: (behind ++ 0x22 :: a)) front.length := by
      rwa [covered_mark_iff]
    rw [skeletonFrom_outside _ hvisible, skeletonFrom_visible _ hvisible, Skeleton.render_cons] at h
    obtain ⟨_, rfl⟩ := List.cons.inj h
    by_cases hclosing : Opens (front ++ 0x22 :: behind) 0x27
    . exact ⟨0x27, apostrophe_shown hnone hmark hclosing, by decide⟩
    . refine ⟨0x22, ?_, by decide⟩
      apply mem_render_of_visible
      rw [show front ++ 0x22 :: (behind ++ 0x22 :: a) = (front ++ 0x22 :: behind) ++ 0x22 :: a by simp,
        show front.length + 1 + behind.length = (front ++ 0x22 :: behind).length by simp; omega,
        covered_mark_iff]
      exact hclosing

end

end Memory
