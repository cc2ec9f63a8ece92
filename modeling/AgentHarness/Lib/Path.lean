import AgentHarness.Lib.Text

/-!
Paths as texts, in the notation with slashes: their components, the place that a path leads to when the
components `.` and `..` are resolved on the text alone, and when one place is inside another.
-/

namespace Path

def isAbsolute (path : String) : Bool :=
  Text.startsWith "/" path

def components (path : String) : List String :=
  (Text.splitOn '/' path).filter fun name => name ≠ "" ∧ name ≠ "."

-- `Path::join` with a path that is not empty
def join (path relative : String) : String :=
  if isAbsolute relative then
    relative
  else if path = "" ∨ Text.endsWith "/" path then
    path ++ relative
  else
    path ++ "/" ++ relative

def fileName (path : String) : Option String :=
  match (components path).getLast? with
  | none => none
  | some name => if name = ".." then none else some name

def extension (path : String) : Option String := do
  let name ← fileName path
  let (stem, extension) ← Text.rsplitOnce "." name
  if stem = "" then none else some extension

-- how far a path leads up, and the names below that, the deepest one first
structure Place where
  up : Nat
  names : List String

namespace Place

def here : Place where
  up := 0
  names := []

def step (rooted : Bool) (place : Place) (name : String) : Place :=
  if name = ".." then
    match place.names with
    | [] => if rooted then place else { place with up := place.up + 1 }
    | _ :: above => { place with names := above }
  else
    { place with names := name :: place.names }

def walk (rooted : Bool) (place : Place) (names : List String) : Place :=
  names.foldl (step rooted) place

def follow (rooted : Bool) (place way : Place) : Place where
  up := if rooted then place.up else place.up + (way.up - place.names.length)
  names := way.names ++ place.names.drop way.up

theorem follow_here (rooted : Bool) (place : Place) : follow rooted place here = place := by
  unfold follow here
  cases rooted with
  | true => simp
  | false => simp

theorem follow_step (rooted : Bool) (place way : Place) (name : String)
    : follow rooted place (step false way name) = step rooted (follow rooted place way) name := by
  unfold step
  by_cases hup : name = ".."
  . rw [if_pos hup, if_pos hup]
    unfold follow
    cases hway : way.names with
    | cons deepest above => simp
    | nil =>
      simp only [List.nil_append, Bool.false_eq_true, if_false]
      cases hdrop : place.names.drop way.up with
      | nil =>
        have hlength := List.drop_eq_nil_iff.1 hdrop
        have hnext : place.names.drop (way.up + 1) = [] := by
          rw [List.drop_eq_nil_iff]
          omega
        have hmore : way.up + 1 - place.names.length = way.up - place.names.length + 1 := by omega
        cases rooted with
        | true => simp [hnext]
        | false => simp [hnext, hmore, Nat.add_assoc]
      | cons next above =>
        have hlength : way.up < place.names.length := by
          apply Nat.lt_of_not_le
          intro hle
          rw [List.drop_eq_nil_iff.2 hle] at hdrop
          cases hdrop
        have hnext : place.names.drop (way.up + 1) = above := by
          rw [← List.tail_drop, hdrop]
          rfl
        have hmore : way.up + 1 - place.names.length = way.up - place.names.length := by omega
        simp [hnext, hmore]
  . rw [if_neg hup, if_neg hup]
    rfl

theorem walk_eq_follow (rooted : Bool) (place : Place) (names : List String)
    : walk rooted place names = follow rooted place (walk false here names) := by
  have hgeneral : ∀ way, walk rooted (follow rooted place way) names
      = follow rooted place (walk false way names) := by
    induction names with
    | nil =>
      intro way
      rfl
    | cons name names ih =>
      intro way
      unfold walk at ih ⊢
      rw [List.foldl_cons, List.foldl_cons, ← follow_step, ih]
  rw [← hgeneral here, follow_here]

end Place

def normalize (path : String) : Place :=
  Place.walk (isAbsolute path) Place.here (components path)

def Inside (outer inner : String) : Prop :=
  isAbsolute inner = isAbsolute outer ∧ (normalize inner).up = (normalize outer).up
    ∧ (normalize outer).names <:+ (normalize inner).names

/-
The way out of a place leads back into it: it does not lead above the start of a relative path, and after the
highest point it names the directories again that it has left.
-/
def LeadsBack (outer : String) (names : List String) : Prop :=
  let way := Place.walk false Place.here names
  (isAbsolute outer ∨ way.up ≤ (normalize outer).names.length)
    ∧ (normalize outer).names.take way.up <:+ way.names

section

variable {outer inner : String} {names : List String}

instance : Decidable (Inside outer inner) :=
  inferInstanceAs (Decidable (_ ∧ _))

instance : Decidable (LeadsBack outer names) :=
  inferInstanceAs (Decidable (_ ∧ _))

theorem suffix_append_drop_iff (names way : List String) (up : Nat)
    : names <:+ way ++ names.drop up ↔ names.take up <:+ way := by
  constructor
  . intro h
    obtain ⟨front, hfront⟩ := h
    have hwhole : front ++ names.take up ++ names.drop up = way ++ names.drop up := by
      rw [List.append_assoc, List.take_append_drop, hfront]
    exact ⟨front, List.append_cancel_right hwhole⟩
  . intro h
    obtain ⟨front, hfront⟩ := h
    refine ⟨front, ?_⟩
    rw [← hfront, List.append_assoc, List.take_append_drop]

theorem inside_iff (habsolute : isAbsolute inner = isAbsolute outer)
    (hnames : components inner = components outer ++ names)
    : Inside outer inner ↔ LeadsBack outer names := by
  have hplace : normalize inner
      = Place.follow (isAbsolute outer) (normalize outer) (Place.walk false Place.here names) := by
    rw [← Place.walk_eq_follow]
    unfold normalize Place.walk
    rw [habsolute, hnames, List.foldl_append]
  unfold Inside LeadsBack
  rw [hplace]
  dsimp only [Place.follow]
  rw [suffix_append_drop_iff, and_iff_right habsolute]
  apply and_congr_left
  intro _
  cases isAbsolute outer with
  | true => simp
  | false =>
    simp only [Bool.false_eq_true, if_false, false_or]
    omega

end

section

variable (path relative : String)

theorem components_append_slash (left right : List Char)
    : components (String.ofList (left ++ '/' :: right))
        = components (String.ofList left) ++ components (String.ofList right) := by
  unfold components Text.splitOn
  rw [String.toList_ofList, String.toList_ofList, String.toList_ofList, List.splitOn,
    List.splitOnP_append_cons _ _ (by simp), List.map_append, List.filter_append]
  rfl

theorem components_empty : components "" = [] := by
  decide

theorem components_join {relative : String} (h : isAbsolute relative = false)
    : components (join path relative) = components path ++ components relative := by
  unfold join
  simp only [h, Bool.false_eq_true, if_false]
  split
  . next hclosed =>
    cases hclosed with
    | inl hempty =>
      rw [hempty, components_empty]
      simp
    | inr hslash =>
      unfold Text.endsWith at hslash
      rw [List.isSuffixOf_iff_suffix] at hslash
      obtain ⟨front, hfront⟩ := hslash
      have hpath : path = String.ofList (front ++ ['/']) := by
        rw [← String.toList_inj, String.toList_ofList, ← hfront]
        rfl
      have hjoined : path ++ relative = String.ofList (front ++ '/' :: relative.toList) := by
        rw [← String.toList_inj, String.toList_append, String.toList_ofList, ← hfront]
        simp
      rw [hjoined, components_append_slash, hpath, components_append_slash, String.ofList_toList]
      simp [components_empty]
  . have hjoined : path ++ "/" ++ relative = String.ofList (path.toList ++ '/' :: relative.toList) := by
      rw [← String.toList_inj, String.toList_append, String.toList_append, String.toList_ofList]
      simp
    rw [hjoined, components_append_slash, String.ofList_toList, String.ofList_toList]

theorem isAbsolute_join {relative : String} (h : isAbsolute relative = false)
    : isAbsolute (join path relative) = isAbsolute path := by
  have hlead : ∀ rest : List Char, path.toList ≠ []
      → ['/'].isPrefixOf (path.toList ++ rest) = ['/'].isPrefixOf path.toList := by
    intro rest hne
    cases hpath : path.toList with
    | nil => exact absurd hpath hne
    | cons first others => simp [List.isPrefixOf]
  by_cases hempty : path = ""
  . subst hempty
    unfold join
    simp only [h, Bool.false_eq_true, if_false, true_or, if_true]
    have hsame : "" ++ relative = relative := by simp
    rw [hsame, h]
    rfl
  . have hne : path.toList ≠ [] := by
      intro hnil
      apply hempty
      rw [← String.toList_inj, hnil]
      rfl
    unfold join
    simp only [h, Bool.false_eq_true, if_false]
    unfold isAbsolute Text.startsWith
    split
    . rw [String.toList_append]
      apply hlead _ hne
    . rw [String.toList_append, String.toList_append, List.append_assoc]
      apply hlead _ hne

end

end Path
