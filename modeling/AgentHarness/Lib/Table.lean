import Mathlib.Data.List.Nodup
import Mathlib.Data.List.Pairwise

/-!
Tables of a relational store. A schema has a primary key, CHECK constraints on each row and unique
indexes; a statement that would leave a table against its schema fails and leaves it as it was.
-/

structure Schema (ρ : Type u) (κ : Type v) where
  key : ρ → κ
  check : ρ → Bool
  -- two rows that some unique index does not admit together
  clash : ρ → ρ → Bool

structure Schema.Admits {ρ : Type u} {κ : Type v} (schema : Schema ρ κ) (rows : List ρ) : Prop where
  nodup : (rows.map schema.key).Nodup
  check : ∀ row ∈ rows, schema.check row
  unique : rows.Pairwise fun row other => schema.clash row other = false

instance {ρ : Type u} {κ : Type v} [DecidableEq κ] (schema : Schema ρ κ) (rows : List ρ)
    : Decidable (schema.Admits rows) :=
  decidable_of_iff
    ((rows.map schema.key).Nodup ∧ (∀ row ∈ rows, schema.check row)
      ∧ rows.Pairwise fun row other => schema.clash row other = false)
    ⟨fun h => ⟨h.1, h.2.1, h.2.2⟩, fun h => ⟨h.nodup, h.check, h.unique⟩⟩

structure Table {ρ : Type u} {κ : Type v} (schema : Schema ρ κ) where
  rows : List ρ
  admits : schema.Admits rows

namespace Table

variable {ρ : Type u} {κ : Type v} [DecidableEq κ] {schema : Schema ρ κ}

def empty (schema : Schema ρ κ) : Table schema where
  rows := []
  admits := by
    constructor
    . simp
    . simp
    . simp

def ofRows (rows : List ρ) : Option (Table schema) :=
  if h : schema.Admits rows then some ⟨rows, h⟩ else none

theorem rows_ofRows {rows : List ρ} {table : Table schema} (h : ofRows rows = some table)
    : table.rows = rows := by
  unfold ofRows at h
  split at h
  . injection h with h
    rw [← h]
  . cases h

theorem ofRows_isSome {rows : List ρ} (h : schema.Admits rows)
    : (ofRows rows : Option (Table schema)) = some ⟨rows, h⟩ := by
  simp [ofRows, h]

def find (self : Table schema) (key : κ) : Option ρ :=
  self.rows.find? fun row => schema.key row = key

theorem mem_of_find {self : Table schema} {key : κ} {row : ρ} (h : self.find key = some row)
    : row ∈ self.rows ∧ schema.key row = key := by
  refine ⟨List.mem_of_find?_eq_some h, ?_⟩
  simpa using List.find?_some h

theorem find_of_mem {self : Table schema} {row : ρ} (h : row ∈ self.rows)
    : self.find (schema.key row) = some row := by
  cases hfind : self.find (schema.key row) with
  | none =>
    exfalso
    have := List.find?_eq_none.mp hfind row h
    simp at this
  | some found =>
    have hfound := mem_of_find hfind
    rw [Option.some.injEq]
    exact List.inj_on_of_nodup_map self.admits.nodup hfound.1 h hfound.2

omit [DecidableEq κ] in
theorem eq_of_key {self : Table schema} {row other : ρ} (hrow : row ∈ self.rows)
    (hother : other ∈ self.rows) (h : schema.key row = schema.key other)
    : row = other :=
  List.inj_on_of_nodup_map self.admits.nodup hrow hother h

omit [DecidableEq κ] in
theorem not_clash {self : Table schema}
    (hsymm : ∀ row other, schema.clash row other = schema.clash other row) {row other : ρ}
    (hrow : row ∈ self.rows) (hother : other ∈ self.rows) (h : row ≠ other)
    : schema.clash row other = false := by
  have : Std.Symm fun row other => schema.clash row other = false := by
    constructor
    intro row other hclash
    rw [hsymm]
    exact hclash
  exact self.admits.unique.forall hrow hother h

-- INSERT
def insert (self : Table schema) (row : ρ) : Option (Table schema) :=
  ofRows (self.rows ++ [row])

theorem rows_insert {self table : Table schema} {row : ρ} (h : self.insert row = some table)
    : table.rows = self.rows ++ [row] :=
  rows_ofRows h

theorem insert_eq_some {self table : Table schema} {row : ρ}
    : self.insert row = some table ↔ table.rows = self.rows ++ [row] := by
  constructor
  . exact rows_insert
  . intro h
    have hadmits : schema.Admits (self.rows ++ [row]) := by
      rw [← h]
      exact table.admits
    rw [insert, ofRows_isSome hadmits]
    congr 1
    cases table
    simp_all

theorem insert_isSome {self : Table schema} {row : ρ}
    (hkey : ∀ other ∈ self.rows, schema.key other ≠ schema.key row) (hcheck : schema.check row)
    (hclash : ∀ other ∈ self.rows, schema.clash other row = false)
    : ∃ table, self.insert row = some table := by
  have hadmits : schema.Admits (self.rows ++ [row]) := by
    constructor
    . rw [List.map_append, List.nodup_append]
      refine ⟨self.admits.nodup, List.nodup_singleton _, ?_⟩
      intro key hmem other hother
      obtain ⟨stored, hstored, rfl⟩ := List.mem_map.1 hmem
      rw [List.mem_singleton.1 hother]
      apply hkey stored hstored
    . intro other hother
      rw [List.mem_append, List.mem_singleton] at hother
      cases hother with
      | inl hstored => exact self.admits.check other hstored
      | inr hnew =>
        rw [hnew]
        exact hcheck
    . rw [List.pairwise_append]
      refine ⟨self.admits.unique, List.pairwise_singleton _ _, ?_⟩
      intro stored hstored other hother
      rw [List.mem_singleton.1 hother]
      apply hclash stored hstored
  exact ⟨_, ofRows_isSome hadmits⟩

theorem find_insert {self table : Table schema} {row : ρ} (h : self.insert row = some table)
    (key : κ)
    : table.find key = if schema.key row = key then some row else self.find key := by
  have hrows := rows_insert h
  split
  . next hkey =>
    rw [← hkey]
    apply find_of_mem
    simp [hrows]
  . next hkey =>
    unfold find
    rw [hrows, List.find?_append]
    simp [hkey]

theorem insert_empty {row : ρ} (h : schema.check row)
    : ∃ table, (empty schema).insert row = some table ∧ table.rows = [row] := by
  have hadmits : schema.Admits [row] := by
    constructor
    . simp
    . simp [h]
    . simp
  exact ⟨⟨[row], hadmits⟩, ofRows_isSome hadmits, rfl⟩

-- the row after an UPDATE with this WHERE and SET clause
def rewrite (hits : ρ → Bool) (set : ρ → ρ) (row : ρ) : ρ :=
  if hits row then set row else row

-- UPDATE, and the number of rows that it changed
def update (self : Table schema) (hits : ρ → Bool) (set : ρ → ρ) : Option (Table schema) :=
  ofRows (self.rows.map (rewrite hits set))

def changed (self : Table schema) (hits : ρ → Bool) : Nat :=
  self.rows.countP hits

theorem changed_eq_one {table : Table schema} {hits : ρ → Bool} {row : ρ} (hrow : row ∈ table.rows)
    (hhits : hits row) (hkey : ∀ other ∈ table.rows, hits other → schema.key other = schema.key row)
    : table.changed hits = 1 := by
  have hcongr : table.rows.countP hits = (table.rows.map schema.key).count (schema.key row) := by
    rw [List.count, List.countP_map]
    apply List.countP_congr
    intro other hother
    simp only [Function.comp_apply, beq_iff_eq]
    constructor
    . exact hkey other hother
    . intro heq
      rw [table.eq_of_key hother hrow heq]
      exact hhits
  rw [Table.changed, hcongr]
  exact List.count_eq_one_of_mem table.admits.nodup (List.mem_map_of_mem hrow)

theorem rows_update {self table : Table schema} {hits : ρ → Bool} {set : ρ → ρ}
    (h : self.update hits set = some table)
    : table.rows = self.rows.map (rewrite hits set) :=
  rows_ofRows h

theorem update_eq_some {self table : Table schema} {hits : ρ → Bool} {set : ρ → ρ}
    : self.update hits set = some table ↔ table.rows = self.rows.map (rewrite hits set) := by
  constructor
  . exact rows_update
  . intro h
    have hadmits : schema.Admits (self.rows.map (rewrite hits set)) := by
      rw [← h]
      exact table.admits
    rw [update, ofRows_isSome hadmits]
    congr 1
    cases table
    simp_all

theorem update_trans {self middle table : Table schema} {hits hits' both : ρ → Bool} {set : ρ → ρ}
    (h : self.update hits set = some middle) (h' : middle.update hits' set = some table)
    (hboth : ∀ row ∈ self.rows, rewrite both set row = rewrite hits' set (rewrite hits set row))
    : self.update both set = some table := by
  rw [update_eq_some] at h h' ⊢
  rw [h', h, List.map_map]
  apply List.map_congr_left
  intro row hrow
  rw [hboth row hrow, Function.comp_apply]

theorem update_of_none {self : Table schema} {hits : ρ → Bool} {set : ρ → ρ}
    (hnone : ∀ row ∈ self.rows, hits row = false)
    : self.update hits set = some self := by
  rw [update_eq_some, List.map_congr_left (g := id)]
  . simp
  . intro row hrow
    simp [rewrite, hnone row hrow]

omit [DecidableEq κ] in
theorem key_rewrite {hits : ρ → Bool} {set : ρ → ρ} (hkey : ∀ row, schema.key (set row) = schema.key row)
    (row : ρ)
    : schema.key (rewrite hits set row) = schema.key row := by
  unfold rewrite
  split
  . apply hkey
  . rfl

theorem find_update {self table : Table schema} {hits : ρ → Bool} {set : ρ → ρ}
    (hkey : ∀ row, schema.key (set row) = schema.key row) (h : self.update hits set = some table)
    (key : κ)
    : table.find key = (self.find key).map (rewrite hits set) := by
  unfold find
  rw [rows_update h, List.find?_map]
  congr 2
  funext row
  simp only [Function.comp_apply, key_rewrite hkey]

theorem update_isSome {self : Table schema} {hits : ρ → Bool} {set : ρ → ρ}
    (hkey : ∀ row, schema.key (set row) = schema.key row)
    (hcheck : ∀ row ∈ self.rows, hits row → schema.check (set row))
    (hclash : ∀ row ∈ self.rows, ∀ other ∈ self.rows,
      schema.clash (rewrite hits set row) (rewrite hits set other) → schema.clash row other)
    : ∃ table, self.update hits set = some table := by
  have hadmits : schema.Admits (self.rows.map (rewrite hits set)) := by
    constructor
    . rw [List.map_map]
      have hsame : schema.key ∘ rewrite hits set = schema.key := by
        funext row
        exact key_rewrite hkey row
      rw [hsame]
      exact self.admits.nodup
    . intro row hrow
      rw [List.mem_map] at hrow
      cases hrow with
      | intro old hold =>
        rw [← hold.2]
        unfold rewrite
        split
        . next hhits => exact hcheck old hold.1 hhits
        . exact self.admits.check old hold.1
    . rw [List.pairwise_map]
      apply List.Pairwise.imp_of_mem _ self.admits.unique
      intro row other hrow hother hunique
      rw [Bool.eq_false_iff]
      intro hclash'
      rw [hclash row hrow other hother hclash'] at hunique
      cases hunique
  exact ⟨_, ofRows_isSome hadmits⟩

theorem mem_update {self table : Table schema} {hits : ρ → Bool} {set : ρ → ρ}
    (h : self.update hits set = some table) {row : ρ}
    : row ∈ table.rows ↔ ∃ old ∈ self.rows, rewrite hits set old = row := by
  rw [rows_update h, List.mem_map]

theorem mem_insert {self table : Table schema} {new : ρ} (h : self.insert new = some table)
    {row : ρ}
    : row ∈ table.rows ↔ row ∈ self.rows ∨ row = new := by
  rw [rows_insert h, List.mem_append, List.mem_singleton]

/-
What a statement, or several of them, may do to the rows: each is kept in a row of the same key that is
related to it, and a row without such an origin is a fresh one.
-/
structure Evolves (rel : ρ → ρ → Prop) (fresh : ρ → Prop) (table later : Table schema) : Prop where
  kept : ∀ row ∈ table.rows, ∃ row' ∈ later.rows, schema.key row' = schema.key row ∧ rel row row'
  origin : ∀ row' ∈ later.rows,
    (∃ row ∈ table.rows, schema.key row' = schema.key row ∧ rel row row') ∨ fresh row'

section Evolves

variable {rel rel' : ρ → ρ → Prop} {fresh fresh' : ρ → Prop}

omit [DecidableEq κ] in
theorem Evolves.refl (h : ∀ row, rel row row) (table : Table schema)
    : Evolves rel fresh table table where
  kept row hrow := ⟨row, hrow, rfl, h row⟩
  origin row hrow := .inl ⟨row, hrow, rfl, h row⟩

omit [DecidableEq κ] in
theorem Evolves.trans {table middle later : Table schema} (h : Evolves rel fresh table middle)
    (h' : Evolves rel fresh middle later)
    (htrans : ∀ a b c, rel a b → rel b c → rel a c) (hfresh : ∀ a b, fresh a → rel a b → fresh b)
    : Evolves rel fresh table later where
  kept := by
    intro row hrow
    obtain ⟨row', hrow', hkey, hrel⟩ := h.kept row hrow
    obtain ⟨row'', hrow'', hkey', hrel'⟩ := h'.kept row' hrow'
    exact ⟨row'', hrow'', hkey'.trans hkey, htrans _ _ _ hrel hrel'⟩
  origin := by
    intro row'' hrow''
    cases h'.origin row'' hrow'' with
    | inr hnew => exact .inr hnew
    | inl horigin =>
      obtain ⟨row', hrow', hkey', hrel'⟩ := horigin
      cases h.origin row' hrow' with
      | inr hnew => exact .inr (hfresh _ _ hnew hrel')
      | inl horigin =>
        obtain ⟨row, hrow, hkey, hrel⟩ := horigin
        exact .inl ⟨row, hrow, hkey'.trans hkey, htrans _ _ _ hrel hrel'⟩

omit [DecidableEq κ] in
theorem Evolves.mono {table later : Table schema} (h : Evolves rel fresh table later)
    (hrel : ∀ row ∈ table.rows, ∀ row', rel row row' → rel' row row') (hfresh : ∀ row, fresh row → fresh' row)
    : Evolves rel' fresh' table later where
  kept := by
    intro row hrow
    obtain ⟨row', hrow', hkey, hrel'⟩ := h.kept row hrow
    exact ⟨row', hrow', hkey, hrel row hrow row' hrel'⟩
  origin := by
    intro row' hrow'
    cases h.origin row' hrow' with
    | inr hnew => exact .inr (hfresh row' hnew)
    | inl horigin =>
      obtain ⟨row, hrow, hkey, hrel'⟩ := horigin
      exact .inl ⟨row, hrow, hkey, hrel row hrow row' hrel'⟩

theorem evolves_update {table later : Table schema} {hits : ρ → Bool} {set : ρ → ρ}
    (hkey : ∀ row, schema.key (set row) = schema.key row) (hsame : ∀ row, rel row row)
    (hset : ∀ row ∈ table.rows, hits row → rel row (set row)) (h : table.update hits set = some later)
    : Evolves rel fresh table later := by
  have hrewrite : ∀ row ∈ table.rows, rel row (rewrite hits set row) := by
    intro row hrow
    unfold rewrite
    split
    . next hhits => exact hset row hrow hhits
    . exact hsame row
  constructor
  . intro row hrow
    exact ⟨rewrite hits set row, (mem_update h).mpr ⟨row, hrow, rfl⟩, key_rewrite hkey row,
      hrewrite row hrow⟩
  . intro row' hrow'
    obtain ⟨row, hrow, heq⟩ := (mem_update h).mp hrow'
    rw [← heq]
    exact .inl ⟨row, hrow, key_rewrite hkey row, hrewrite row hrow⟩

theorem evolves_insert {table later : Table schema} {row : ρ} (hsame : ∀ row, rel row row)
    (hfresh : fresh row) (h : table.insert row = some later)
    : Evolves rel fresh table later := by
  constructor
  . intro old hold
    exact ⟨old, (mem_insert h).mpr (.inl hold), rfl, hsame old⟩
  . intro row' hrow'
    cases (mem_insert h).mp hrow' with
    | inl hold => exact .inl ⟨row', hold, rfl, hsame row'⟩
    | inr heq =>
      rw [heq]
      exact .inr hfresh

end Evolves

end Table

/-!
Transactions of a store: a statement may fail, and what a transaction has written is kept only when it
commits.
-/

abbrev Transaction (ε σ : Type u) (α : Type u) := EStateM ε σ α

namespace Transaction

variable {ε ε' σ τ α β : Type u}

-- the `?` on a result that reads and writes nothing
def check (result : Except ε α) : Transaction ε σ α := fun s =>
  match result with
  | .ok a => .ok a s
  | .error e => .error e s

def query (read : σ → Except ε α) : Transaction ε σ α := fun s =>
  check (read s) s

def write (statement : σ → Option σ) (e : ε) : Transaction ε σ PUnit := fun s =>
  match statement s with
  | some s' => .ok .unit s'
  | none => .error e s

-- `map_err`
def mapErr (f : ε → ε') (transaction : Transaction ε σ α) : Transaction ε' σ α := fun s =>
  match transaction s with
  | .ok a s' => .ok a s'
  | .error e s' => .error (f e) s'

def within (get : σ → τ) (set : σ → τ → σ) (transaction : Transaction ε τ α)
    : Transaction ε σ α := fun s =>
  match transaction (get s) with
  | .ok a t => .ok a (set s t)
  | .error e t => .error e (set s t)

-- the caller commits when the function has returned `Ok` and drops the transaction otherwise
def commit (transaction : Transaction ε σ α) (s : σ) : σ :=
  match transaction s with
  | .ok _ s' => s'
  | .error _ _ => s

theorem bind_eq_ok {x : Transaction ε σ α} {f : α → Transaction ε σ β} {s s' : σ} {b : β}
    : (x >>= f) s = .ok b s' ↔ ∃ a t, x s = .ok a t ∧ f a t = .ok b s' := by
  simp only [bind, EStateM.bind]
  cases h : x s with
  | ok a t =>
    constructor
    . intro hf
      exact ⟨a, t, rfl, hf⟩
    . intro hf
      cases hf with
      | intro a' hf =>
        cases hf with
        | intro t' hf =>
          cases hf.1
          exact hf.2
  | error e t => simp

theorem bind_of_ok {x : Transaction ε σ α} {f : α → Transaction ε σ β} {s t : σ} {a : α}
    (h : x s = .ok a t)
    : (x >>= f) s = f a t := by
  simp only [bind, EStateM.bind, h]

theorem pure_eq_ok {a b : α} {s s' : σ}
    : (pure a : Transaction ε σ α) s = .ok b s' ↔ a = b ∧ s = s' := by
  simp [pure, EStateM.pure]

theorem check_eq_ok {result : Except ε α} {a : α} {s s' : σ}
    : check result s = .ok a s' ↔ result = .ok a ∧ s = s' := by
  cases result with
  | ok b => simp [check]
  | error e => simp [check]

theorem query_eq_ok {read : σ → Except ε α} {a : α} {s s' : σ}
    : query read s = .ok a s' ↔ read s = .ok a ∧ s = s' := by
  rw [query, check_eq_ok]

theorem write_eq_ok {statement : σ → Option σ} {e : ε} {u : PUnit} {s s' : σ}
    : write statement e s = .ok u s' ↔ statement s = some s' := by
  unfold write
  cases h : statement s with
  | none => simp
  | some t => simp

theorem mapErr_eq_ok {f : ε → ε'} {transaction : Transaction ε σ α} {a : α} {s s' : σ}
    : mapErr f transaction s = .ok a s' ↔ transaction s = .ok a s' := by
  unfold mapErr
  cases h : transaction s with
  | ok b t => simp
  | error e t => simp

theorem within_eq_ok {get : σ → τ} {set : σ → τ → σ} {transaction : Transaction ε τ α} {a : α}
    {s s' : σ}
    : within get set transaction s = .ok a s' ↔
        ∃ t, transaction (get s) = .ok a t ∧ s' = set s t := by
  unfold within
  cases h : transaction (get s) with
  | ok b t =>
    constructor
    . intro hok
      cases hok
      exact ⟨t, rfl, rfl⟩
    . intro hok
      cases hok with
      | intro t' hok =>
        cases hok.1
        rw [hok.2]
  | error e t => simp

theorem check_bind {result : Except ε α} {f : α → Transaction ε σ β} {a : α} {s : σ}
    (h : result = .ok a)
    : (check result >>= f) s = f a s :=
  bind_of_ok (check_eq_ok.mpr ⟨h, rfl⟩)

theorem query_bind {read : σ → Except ε α} {f : α → Transaction ε σ β} {a : α} {s : σ}
    (h : read s = .ok a)
    : (query read >>= f) s = f a s :=
  bind_of_ok (query_eq_ok.mpr ⟨h, rfl⟩)

theorem write_bind {statement : σ → Option σ} {e : ε} {f : PUnit → Transaction ε σ β} {s t : σ}
    (h : statement s = some t)
    : (write statement e >>= f) s = f .unit t :=
  bind_of_ok (write_eq_ok.mpr h)

theorem commit_cases {transaction : Transaction ε σ α} {s : σ} (motive : σ → Prop) (hs : motive s)
    (hok : ∀ a s', transaction s = .ok a s' → motive s')
    : motive (commit transaction s) := by
  unfold commit
  split
  . next a s' h => exact hok a s' h
  . exact hs

theorem commit_of_error {transaction : Transaction ε σ α} {e : ε} {s t : σ}
    (h : transaction s = .error e t)
    : commit transaction s = s := by
  simp [commit, h]

end Transaction
