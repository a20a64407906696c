/-!
# Entries in the order they were first named

A `Listed α` holds values under distinct names and remembers the order in which the names came.

* `put` stores a value: an old name keeps its place and takes the new value, a new name goes last.
* `lookup_put_self`, `lookup_put_of_ne`: what is found after `put`.
* `keys_put`: the names after `put`.
-/

namespace RetreatDesk

/-! ## Lists of entries -/

/-- Stores `v` under `k`, in place when `k` is there already and at the end otherwise. -/
def put {α : Type} (k : String) (v : α) : List (String × α) → List (String × α)
  | [] => [(k, v)]
  | (k', v') :: rest => if k' = k then (k, v) :: rest else (k', v') :: put k v rest

/-- The names of the entries, in order. -/
def keysOf {α : Type} (entries : List (String × α)) : List String :=
  entries.map (·.1)

section
variable {α : Type}

theorem lookup_put_self (k : String) (v : α) (entries : List (String × α)) :
    (put k v entries).lookup k = some v := by
  induction entries with
  | nil => simp [put]
  | cons e rest ih =>
    obtain ⟨k', v'⟩ := e
    by_cases h : k' = k
    · simp [put, h]
    · have hb : (k == k') = false := beq_eq_false_iff_ne.mpr (Ne.symm h)
      simp [put, h, List.lookup_cons, hb, ih]

theorem lookup_put_of_ne {k j : String} (h : j ≠ k) (v : α) (entries : List (String × α)) :
    (put k v entries).lookup j = entries.lookup j := by
  have hb : (j == k) = false := beq_eq_false_iff_ne.mpr h
  induction entries with
  | nil => simp [put, List.lookup_cons, hb]
  | cons e rest ih =>
    obtain ⟨k', v'⟩ := e
    by_cases hk : k' = k
    · simp [put, hk, List.lookup_cons, hb]
    · simp [put, hk, List.lookup_cons, ih]

theorem keys_put (k : String) (v : α) (entries : List (String × α)) :
    keysOf (put k v entries) = if k ∈ keysOf entries then keysOf entries else keysOf entries ++ [k] := by
  induction entries with
  | nil => simp [put, keysOf]
  | cons e rest ih =>
    obtain ⟨k', v'⟩ := e
    simp only [keysOf] at ih
    by_cases h : k' = k
    · simp [put, keysOf, h]
    · have h' : ¬ k = k' := fun e => h e.symm
      simp only [put, if_neg h, keysOf, List.map_cons, List.mem_cons, h', false_or, ih]
      by_cases hk : k ∈ rest.map (·.1) <;> simp [hk]

theorem nodup_keys_put (k : String) (v : α) {entries : List (String × α)}
    (h : (keysOf entries).Nodup) : (keysOf (put k v entries)).Nodup := by
  rw [keys_put]
  split
  · exact h
  · next hk =>
    rw [List.nodup_append]
    refine ⟨h, by simp, ?_⟩
    intro a ha b hb hab
    simp only [List.mem_singleton] at hb
    exact hk (hb ▸ hab ▸ ha)

end

/-! ## Listed entries -/

/-- Values under distinct names, in the order the names were first given. -/
structure Listed (α : Type) where
  entries : List (String × α)
  /-- No name occurs twice. -/
  distinct : (keysOf entries).Nodup

namespace Listed

variable {α : Type}

@[ext] theorem ext {a b : Listed α} (h : a.entries = b.entries) : a = b := by
  cases a; cases b; cases h; rfl

/-- No entries. -/
def empty : Listed α := ⟨[], List.nodup_nil⟩

instance : Inhabited (Listed α) := ⟨empty⟩

/-- The value under a name. -/
def get? (m : Listed α) (k : String) : Option α := m.entries.lookup k

/-- Stores a value under a name: an old name keeps its place, a new one goes last. -/
def insert (m : Listed α) (k : String) (v : α) : Listed α :=
  ⟨put k v m.entries, nodup_keys_put k v m.distinct⟩

/-- Stores the entries one after another; of entries with one name the last value counts. -/
def ofList (entries : List (String × α)) : Listed α :=
  entries.foldl (fun m e => m.insert e.1 e.2) empty

/-- The names in order. -/
def keys (m : Listed α) : List String := keysOf m.entries

@[simp] theorem get?_insert_self (m : Listed α) (k : String) (v : α) :
    (m.insert k v).get? k = some v := lookup_put_self k v m.entries

theorem get?_insert_of_ne (m : Listed α) {k j : String} (h : j ≠ k) (v : α) :
    (m.insert k v).get? j = m.get? j := lookup_put_of_ne h v m.entries

end Listed

end RetreatDesk
