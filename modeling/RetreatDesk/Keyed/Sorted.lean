/-!
# Entries in the order of their names

A `Sorted α` holds values under distinct names, smallest name first. Names are compared character by
character, which for UTF-8 text is the order of the bytes.

* `insert` replaces the value of an old name and puts a new name in its place.
* `get?_insert_self`, `get?_insert_of_ne`: what is found after `insert`.
-/

namespace RetreatDesk

/-- The entries' names strictly increase. -/
def Increasing {α : Type} (entries : List (String × α)) : Prop :=
  entries.Pairwise (fun a b => a.1 < b.1)

/-- Values under distinct names, in increasing order of the names. -/
structure Sorted (α : Type) where
  entries : List (String × α)
  /-- The names increase. -/
  increasing : Increasing entries

namespace Sorted

variable {α : Type}

@[ext] theorem ext {a b : Sorted α} (h : a.entries = b.entries) : a = b := by
  cases a; cases b; cases h; rfl

/-! ## Insertion into the list of entries -/

/-- Stores `v` under `k` in an increasing list. -/
def place (k : String) (v : α) : List (String × α) → List (String × α)
  | [] => [(k, v)]
  | (k', v') :: rest =>
    if k < k' then (k, v) :: (k', v') :: rest
    else if k = k' then (k, v) :: rest
    else (k', v') :: place k v rest

theorem mem_place {k : String} {v : α} {e : String × α} {entries : List (String × α)}
    (h : e ∈ place k v entries) : e = (k, v) ∨ e ∈ entries := by
  induction entries with
  | nil => simpa [place] using h
  | cons hd tl ih =>
    obtain ⟨k', v'⟩ := hd
    unfold place at h
    split at h
    · simpa using h
    · split at h
      · rcases List.mem_cons.mp h with h | h
        · exact .inl h
        · exact .inr (List.mem_cons_of_mem _ h)
      · rcases List.mem_cons.mp h with h | h
        · exact .inr (h ▸ List.mem_cons_self)
        · exact (ih h).imp id (List.mem_cons_of_mem _)

private theorem lt_of_not_lt_of_ne {a b : String} (h : ¬ a < b) (hne : a ≠ b) : b < a := by
  rcases Std.lt_trichotomy a b with h' | h' | h'
  · exact absurd h' h
  · exact absurd h' hne
  · exact h'

theorem increasing_place (k : String) (v : α) {entries : List (String × α)}
    (h : Increasing entries) : Increasing (place k v entries) := by
  induction entries with
  | nil => simp [place, Increasing]
  | cons hd tl ih =>
    obtain ⟨k', v'⟩ := hd
    obtain ⟨hhd, htl⟩ := List.pairwise_cons.mp h
    unfold place
    split
    · next hlt =>
      refine List.pairwise_cons.mpr ⟨?_, h⟩
      intro e he
      rcases List.mem_cons.mp he with he | he
      · exact he ▸ hlt
      · exact String.lt_trans hlt (hhd e he)
    · next hlt =>
      split
      · next heq =>
        subst heq
        exact List.pairwise_cons.mpr ⟨hhd, htl⟩
      · next hne =>
        refine List.pairwise_cons.mpr ⟨?_, ih htl⟩
        intro e he
        rcases mem_place he with he | he
        · exact he ▸ lt_of_not_lt_of_ne hlt hne
        · exact hhd e he

theorem lookup_place_self (k : String) (v : α) (entries : List (String × α)) :
    (place k v entries).lookup k = some v := by
  induction entries with
  | nil => simp [place]
  | cons hd tl ih =>
    obtain ⟨k', v'⟩ := hd
    unfold place
    split
    · simp
    · split
      · simp
      · next hne =>
        have hb : (k == k') = false := beq_eq_false_iff_ne.mpr hne
        simp [List.lookup_cons, hb, ih]

theorem lookup_place_of_ne {k j : String} (h : j ≠ k) (v : α) (entries : List (String × α)) :
    (place k v entries).lookup j = entries.lookup j := by
  have hb : (j == k) = false := beq_eq_false_iff_ne.mpr h
  induction entries with
  | nil => simp [place, List.lookup_cons, hb]
  | cons hd tl ih =>
    obtain ⟨k', v'⟩ := hd
    unfold place
    split
    · simp [List.lookup_cons, hb]
    · split
      · next heq => subst heq; simp [List.lookup_cons, hb]
      · simp [List.lookup_cons, ih]

/-! ## Operations -/

/-- No entries. -/
def empty : Sorted α := ⟨[], List.Pairwise.nil⟩

instance : Inhabited (Sorted α) := ⟨empty⟩

/-- The value under a name. -/
def get? (m : Sorted α) (k : String) : Option α := m.entries.lookup k

/-- Whether a name has a value. -/
def contains (m : Sorted α) (k : String) : Bool := (m.get? k).isSome

/-- Stores a value under a name, in place of an earlier one. -/
def insert (m : Sorted α) (k : String) (v : α) : Sorted α :=
  ⟨place k v m.entries, increasing_place k v m.increasing⟩

/-- Stores the entries one after another; of entries with one name the last value counts. -/
def ofList (entries : List (String × α)) : Sorted α :=
  entries.foldl (fun m e => m.insert e.1 e.2) empty

/-- The names, smallest first. -/
def keys (m : Sorted α) : List String := m.entries.map (·.1)

/-- The values in the order of their names. -/
def values (m : Sorted α) : List α := m.entries.map (·.2)

/-- The number of entries. -/
def size (m : Sorted α) : Nat := m.entries.length

@[simp] theorem get?_insert_self (m : Sorted α) (k : String) (v : α) :
    (m.insert k v).get? k = some v := lookup_place_self k v m.entries

theorem get?_insert_of_ne (m : Sorted α) {k j : String} (h : j ≠ k) (v : α) :
    (m.insert k v).get? j = m.get? j := lookup_place_of_ne h v m.entries

end Sorted

end RetreatDesk
