import RetreatDesk.Keyed.Listed
import RetreatDesk.Keyed.Sorted
import Mathlib.Data.List.Basic
import Mathlib.Data.List.Nodup
import Mathlib.Data.List.Perm.Basic

/-!
# Entries and what is found in them

* `lookup_of_mem`, `lookup_perm`: under distinct names every entry is found, whatever the order.
* `put_of_lookup`, `put_put_self`, `put_comm`: storing what is there already, storing twice, storing under two names.
* `filter_name`: under distinct names a name comes once or not at all.
* `Listed.entries_ofList`, `Listed.ext_get?`: distinct names keep their order, which with the values makes the whole.
* `Sorted.get?_ofList_eq_lookup_reverse`: of entries with one name the last one is found.
* `Sorted.get?_ofList`, `Sorted.ext_get?`: what is found determines the whole.
* `Listed.map`, `Sorted.map`: each value passed through a function, the names as they are.
-/

namespace RetreatDesk

section
variable {α β : Type}

/-! ## Looking up -/

@[simp] theorem keysOf_nil : keysOf ([] : List (String × α)) = [] := rfl

@[simp] theorem keysOf_cons (e : String × α) (l : List (String × α)) : keysOf (e :: l) = e.1 :: keysOf l := rfl

@[simp] theorem keysOf_append (l l' : List (String × α)) : keysOf (l ++ l') = keysOf l ++ keysOf l' :=
  List.map_append

theorem lookup_eq_none_of_not_mem {k : String} {l : List (String × α)} (h : k ∉ keysOf l) : l.lookup k = none := by
  rw [List.lookup_eq_none_iff]
  rintro ⟨k', v⟩ he
  have hne : k ≠ k' := by
    rintro rfl
    exact h (List.mem_map.mpr ⟨(k, v), he, rfl⟩)
  exact bne_iff_ne.mpr hne

theorem mem_keysOf_of_lookup {k : String} {v : α} {l : List (String × α)} (h : l.lookup k = some v) :
    k ∈ keysOf l := by
  by_contra hk
  rw [lookup_eq_none_of_not_mem hk] at h
  cases h

theorem exists_lookup_of_mem {k : String} {l : List (String × α)} (h : k ∈ keysOf l) : ∃ v, l.lookup k = some v := by
  by_contra hnone
  obtain ⟨e, he, rfl⟩ := List.mem_map.mp h
  have hmiss : l.lookup e.1 = none := Option.eq_none_iff_forall_ne_some.mpr fun v hv => hnone ⟨v, hv⟩
  have hne := List.lookup_eq_none_iff.mp hmiss e he
  simp at hne

theorem mem_of_lookup {k : String} {v : α} {l : List (String × α)} (h : l.lookup k = some v) : (k, v) ∈ l := by
  obtain ⟨before, after, hsplit, -⟩ := List.lookup_eq_some_iff.mp h
  rw [hsplit]
  simp

theorem lookup_cons_of_ne {k j : String} (h : j ≠ k) (v : α) (l : List (String × α)) :
    ((k, v) :: l).lookup j = l.lookup j := by
  have hb : (j == k) = false := beq_eq_false_iff_ne.mpr h
  rw [List.lookup_cons, hb]

/-- Under distinct names every entry is found. -/
theorem lookup_of_mem {k : String} {v : α} {l : List (String × α)} (hl : (keysOf l).Nodup) (h : (k, v) ∈ l) :
    l.lookup k = some v := by
  induction l with
  | nil => cases h
  | cons e rest ih =>
    obtain ⟨k', v'⟩ := e
    obtain ⟨hfresh, hrest⟩ := List.nodup_cons.mp hl
    rcases List.mem_cons.mp h with heq | h
    · cases heq
      exact List.lookup_cons_self
    · have hne : k ≠ k' := fun heq => hfresh (heq ▸ List.mem_map.mpr ⟨(k, v), h, rfl⟩)
      rw [lookup_cons_of_ne hne]
      exact ih hrest h

/-- Under distinct names the order of the entries does not matter. -/
theorem lookup_perm {l l' : List (String × α)} (h : l'.Perm l) (hl : (keysOf l).Nodup) (k : String) :
    l'.lookup k = l.lookup k := by
  have hl' : (keysOf l').Nodup := (h.map _).nodup_iff.mpr hl
  refine Option.ext fun v => ⟨fun hv => ?_, fun hv => ?_⟩
  · exact lookup_of_mem hl (h.subset (mem_of_lookup hv))
  · exact lookup_of_mem hl' (h.symm.subset (mem_of_lookup hv))

/-- Under distinct names the position of an element is found by its name. -/
theorem findIdx?_of_nodup {name : α → String} {l : List α} (hl : (l.map name).Nodup) {i : Nat} {a : α}
    (h : l[i]? = some a) : l.findIdx? (fun b => name b = name a) = some i := by
  obtain ⟨hi, rfl⟩ := List.getElem?_eq_some_iff.mp h
  rw [List.findIdx?_eq_some_iff_getElem]
  refine ⟨hi, decide_eq_true rfl, fun j hji hj => ?_⟩
  have hj' : j < l.length := Nat.lt_trans hji hi
  have hlength : j < (l.map name).length := by rw [List.length_map]; exact hj'
  have hname : (l.map name)[j]? = (l.map name)[i]? := by
    rw [List.getElem?_map, List.getElem?_map, List.getElem?_eq_getElem hj', List.getElem?_eq_getElem hi,
      Option.map_some, Option.map_some, of_decide_eq_true hj]
  exact Nat.ne_of_lt hji ((List.getElem?_inj hlength hl).mp hname)

/-- Under distinct names an element is found by its name. -/
theorem find?_of_nodup {name : α → String} {l : List α} (hl : (l.map name).Nodup) {a : α} (h : a ∈ l) :
    l.find? (fun b => name b = name a) = some a := by
  obtain ⟨i, hi⟩ := List.mem_iff_getElem?.mp h
  rw [List.find?_eq_bind_findIdx?_getElem?, findIdx?_of_nodup hl hi]
  exact hi

theorem lookup_map (g : α → β) (k : String) (l : List (String × α)) :
    (l.map fun e => (e.1, g e.2)).lookup k = (l.lookup k).map g := by
  induction l with
  | nil => rfl
  | cons e rest ih =>
    obtain ⟨k', v'⟩ := e
    by_cases h : k = k'
    · subst h
      simp
    · rw [List.map_cons, lookup_cons_of_ne h, lookup_cons_of_ne h, ih]

theorem keysOf_map (g : α → β) (l : List (String × α)) : keysOf (l.map fun e => (e.1, g e.2)) = keysOf l := by
  simp [keysOf]

theorem map_eq_self_iff {f : α → α} {l : List α} : l.map f = l ↔ ∀ x ∈ l, f x = x := by
  have h := List.map_inj_left (l := l) (f := f) (g := id)
  rwa [List.map_id] at h

theorem map_values_eq_self {g : α → α} {l : List (String × α)} :
    (l.map fun e => (e.1, g e.2)) = l ↔ ∀ e ∈ l, g e.2 = e.2 := by
  rw [map_eq_self_iff]
  refine forall₂_congr fun e _ => ?_
  rw [Prod.ext_iff]
  exact and_iff_right rfl

theorem keysOf_filterMap (g : α → Option β) (l : List (String × α)) :
    (keysOf (l.filterMap fun e => (g e.2).map (e.1, ·))).Sublist (keysOf l) := by
  induction l with
  | nil => exact List.Sublist.refl _
  | cons e rest ih =>
    rw [List.filterMap_cons]
    cases g e.2 with
    | none => exact ih.cons _
    | some b => exact ih.cons_cons _

theorem lookup_filterMap (g : α → Option β) {l : List (String × α)} (hl : (keysOf l).Nodup) (k : String) :
    (l.filterMap fun e => (g e.2).map (e.1, ·)).lookup k = (l.lookup k).bind g := by
  induction l with
  | nil => rfl
  | cons e rest ih =>
    obtain ⟨k', v⟩ := e
    obtain ⟨hfresh, hrest⟩ := List.nodup_cons.mp hl
    have hgone : k = k' → (rest.filterMap fun e => (g e.2).map (e.1, ·)).lookup k = none := by
      rintro rfl
      exact lookup_eq_none_of_not_mem fun h => hfresh ((keysOf_filterMap g rest).subset h)
    rw [List.filterMap_cons]
    by_cases h : k = k'
    · rw [← h, List.lookup_cons_self]
      cases hg : g v with
      | none => simpa [hg] using hgone h
      | some b => simp [hg]
    · rw [lookup_cons_of_ne h, ← ih hrest]
      cases hg : g v with
      | none => simp
      | some b => exact lookup_cons_of_ne h b _

/-! ## Storing -/

theorem mem_put {k : String} {v : α} {e : String × α} {l : List (String × α)} (h : e ∈ put k v l) :
    e = (k, v) ∨ e ∈ l := by
  induction l with
  | nil => exact .inl (List.mem_singleton.mp h)
  | cons hd rest ih =>
    obtain ⟨k', v'⟩ := hd
    unfold put at h
    split at h
    · rcases List.mem_cons.mp h with h | h
      · exact .inl h
      · exact .inr (List.mem_cons_of_mem _ h)
    · rcases List.mem_cons.mp h with h | h
      · exact .inr (h ▸ List.mem_cons_self)
      · exact (ih h).imp id (List.mem_cons_of_mem _)

/-- Storing what is there already changes nothing. -/
theorem put_of_lookup {k : String} {v : α} {l : List (String × α)} (h : l.lookup k = some v) : put k v l = l := by
  induction l with
  | nil => cases h
  | cons e rest ih =>
    obtain ⟨k', v'⟩ := e
    by_cases hk : k' = k
    · subst hk
      rw [List.lookup_cons_self, Option.some.injEq] at h
      rw [put, if_pos rfl, h]
    · rw [lookup_cons_of_ne (Ne.symm hk)] at h
      rw [put, if_neg hk, ih h]

/-- A new name goes last. -/
theorem put_of_not_mem {k : String} {l : List (String × α)} (h : k ∉ keysOf l) (v : α) :
    put k v l = l ++ [(k, v)] := by
  induction l with
  | nil => rfl
  | cons e rest ih =>
    obtain ⟨k', v'⟩ := e
    rw [keysOf_cons, List.mem_cons, not_or] at h
    rw [put, if_neg (Ne.symm h.1), ih h.2, List.cons_append]

theorem put_put_self (k : String) (v w : α) (l : List (String × α)) : put k v (put k w l) = put k v l := by
  induction l with
  | nil => simp [put]
  | cons e rest ih =>
    obtain ⟨k', v'⟩ := e
    by_cases hk : k' = k
    · simp [put, hk]
    · simp only [put, if_neg hk, ih]

/-- The order of storing under two names does not matter when one of them is there already. -/
theorem put_comm {k j : String} (hkj : j ≠ k) (v w : α) {l : List (String × α)} (hk : k ∈ keysOf l) :
    put k v (put j w l) = put j w (put k v l) := by
  induction l with
  | nil => cases hk
  | cons e rest ih =>
    obtain ⟨k', v'⟩ := e
    by_cases h : k' = k
    · subst h
      simp only [put, if_neg (Ne.symm hkj), if_true]
    · have hrest : k ∈ keysOf rest := (List.mem_cons.mp hk).resolve_left (Ne.symm h)
      by_cases h' : k' = j
      · subst h'
        simp only [put, if_neg h, if_true]
      · simp only [put, if_neg h, if_neg h', ih hrest]

/-- Entries stored one after another are among the old ones and the new ones. -/
theorem mem_foldl_insert {γ : Type} (entries : γ → List (String × α)) (insert : γ → String → α → γ)
    (hinsert : ∀ m k v e, e ∈ entries (insert m k v) → e = (k, v) ∨ e ∈ entries m) (l : List (String × α)) {m : γ}
    {e : String × α} (h : e ∈ entries (l.foldl (fun m e => insert m e.1 e.2) m)) : e ∈ entries m ∨ e ∈ l := by
  induction l generalizing m with
  | nil => exact .inl h
  | cons hd rest ih =>
    rcases ih h with h | h
    · rcases hinsert _ _ _ _ h with h | h
      · exact .inr (h ▸ List.mem_cons_self)
      · exact .inl h
    · exact .inr (List.mem_cons_of_mem _ h)

end

/-! ## Listed entries -/

namespace Listed

variable {α : Type}

theorem entries_foldl_insert (l : List (String × α)) (m : Listed α) (h : (keysOf (m.entries ++ l)).Nodup) :
    (l.foldl (fun m e => m.insert e.1 e.2) m).entries = m.entries ++ l := by
  induction l generalizing m with
  | nil => simp
  | cons e rest ih =>
    have hfresh : e.1 ∉ keysOf m.entries := by
      intro hmem
      rw [keysOf_append, keysOf_cons] at h
      exact (List.nodup_append.mp h).2.2 _ hmem _ List.mem_cons_self rfl
    have hnext : (m.insert e.1 e.2).entries = m.entries ++ [e] := put_of_not_mem hfresh e.2
    rw [List.foldl_cons, ih, hnext, List.append_assoc, List.singleton_append]
    rw [hnext, List.append_assoc, List.singleton_append]
    exact h

theorem entries_ofList_eq_foldl (l : List (String × α)) :
    (ofList l).entries = l.foldl (fun es e => put e.1 e.2 es) [] :=
  (List.foldl_hom Listed.entries fun _ _ => rfl).symm

/-- Entries under distinct names are kept as they come. -/
theorem entries_ofList {l : List (String × α)} (h : (keysOf l).Nodup) : (ofList l).entries = l := by
  rw [ofList, entries_foldl_insert l empty h]
  rfl

theorem mem_ofList {l : List (String × α)} {e : String × α} (h : e ∈ (ofList l).entries) : e ∈ l :=
  (mem_foldl_insert Listed.entries Listed.insert (fun _ _ _ _ => mem_put) l h).resolve_left List.not_mem_nil

/-- The names in order and the values under them make the whole. -/
theorem ext_get? {a b : Listed α} (hkeys : keysOf a.entries = keysOf b.entries)
    (h : ∀ k ∈ keysOf a.entries, a.get? k = b.get? k) : a = b := by
  obtain ⟨l, hl⟩ := a
  obtain ⟨l', hl'⟩ := b
  refine Listed.ext ?_
  simp only [get?] at hkeys h ⊢
  induction l generalizing l' with
  | nil => exact (List.map_eq_nil_iff.mp hkeys.symm).symm
  | cons e rest ih =>
    obtain ⟨k, v⟩ := e
    cases l' with
    | nil => cases hkeys
    | cons e' rest' =>
      obtain ⟨k', v'⟩ := e'
      obtain ⟨hk, hrest⟩ := List.cons.inj hkeys
      simp only at hk
      subst hk
      have hv := h k List.mem_cons_self
      rw [List.lookup_cons_self, List.lookup_cons_self, Option.some.injEq] at hv
      obtain ⟨hfresh, hnodup⟩ := List.nodup_cons.mp hl
      have htail : rest = rest' := by
        refine ih hnodup rest' (List.nodup_cons.mp hl').2 hrest fun j hj => ?_
        have hne : j ≠ k := fun heq => hfresh (heq ▸ hj)
        have hj' := h j (List.mem_cons_of_mem _ hj)
        rwa [lookup_cons_of_ne hne, lookup_cons_of_ne hne] at hj'
      rw [hv, htail]

/-- Each value passed through a function. -/
def map {β : Type} (g : α → β) (m : Listed α) : Listed β :=
  ⟨m.entries.map fun e => (e.1, g e.2), by rw [keysOf_map]; exact m.distinct⟩

theorem get?_map {β : Type} (g : α → β) (m : Listed α) (k : String) : (m.map g).get? k = (m.get? k).map g :=
  lookup_map g k m.entries

theorem map_eq_self {g : α → α} {m : Listed α} : m.map g = m ↔ ∀ e ∈ m.entries, g e.2 = e.2 := by
  rw [Listed.ext_iff]
  exact map_values_eq_self

@[simp] theorem map_id : (map id : Listed α → Listed α) = id := funext fun _ => map_eq_self.mpr fun _ _ => rfl

end Listed

/-! ## Sorted entries -/

namespace Sorted

variable {α : Type}

theorem nodup_keys (m : Sorted α) : (keysOf m.entries).Nodup := by
  rw [keysOf, List.Nodup, List.pairwise_map]
  exact m.increasing.imp fun hlt => String.ne_of_lt hlt

theorem get?_foldl_insert (k : String) (l : List (String × α)) (m : Sorted α) :
    (l.foldl (fun m e => m.insert e.1 e.2) m).get? k = (l.reverse.lookup k).or (m.get? k) := by
  induction l generalizing m with
  | nil => rfl
  | cons e rest ih =>
    obtain ⟨k', v⟩ := e
    have hnext : (m.insert k' v).get? k = ([(k', v)].lookup k).or (m.get? k) := by
      by_cases h : k = k'
      · rw [h, get?_insert_self, List.lookup_cons_self, Option.some_or]
      · rw [get?_insert_of_ne m h, lookup_cons_of_ne h, List.lookup_nil, Option.none_or]
    rw [List.foldl_cons, ih, hnext, List.reverse_cons, List.lookup_append, Option.or_assoc]

/-- Of entries with one name the last one is found. -/
theorem get?_ofList_eq_lookup_reverse (l : List (String × α)) (k : String) :
    (ofList l).get? k = l.reverse.lookup k := by
  rw [ofList, get?_foldl_insert]
  exact Option.or_none

theorem get?_ofList {l : List (String × α)} (hl : (keysOf l).Nodup) (k : String) :
    (ofList l).get? k = l.lookup k := by
  rw [get?_ofList_eq_lookup_reverse]
  exact lookup_perm (List.reverse_perm l) hl k

theorem mem_ofList {l : List (String × α)} {e : String × α} (h : e ∈ (ofList l).entries) : e ∈ l :=
  (mem_foldl_insert Sorted.entries Sorted.insert (fun _ _ _ _ => mem_place) l h).resolve_left List.not_mem_nil

/-- What is found among records stored under keys of their own is one of them, found under its key. -/
theorem mem_of_get?_keyed {key : α → String} {l : List α} {k : String} {a : α}
    (h : (ofList (l.map fun a => (key a, a))).get? k = some a) : a ∈ l ∧ key a = k := by
  obtain ⟨b, hb, hentry⟩ := List.mem_map.mp (mem_ofList (mem_of_lookup h))
  cases hentry
  exact ⟨hb, rfl⟩

/-- What is found determines the whole. -/
theorem ext_get? {a b : Sorted α} (h : ∀ k, a.get? k = b.get? k) : a = b := by
  have hmem : ∀ e, e ∈ a.entries ↔ e ∈ b.entries := by
    rintro ⟨k, v⟩
    constructor
    · intro he
      exact mem_of_lookup ((h k).symm.trans (lookup_of_mem a.nodup_keys he))
    · intro he
      exact mem_of_lookup ((h k).trans (lookup_of_mem b.nodup_keys he))
  have hperm : a.entries.Perm b.entries :=
    (List.perm_ext_iff_of_nodup (List.Nodup.of_map _ a.nodup_keys) (List.Nodup.of_map _ b.nodup_keys)).mpr hmem
  refine Sorted.ext (hperm.eq_of_pairwise (fun x y _ _ hxy hyx => ?_) a.increasing b.increasing)
  exact absurd (String.lt_trans hxy hyx) (String.lt_irrefl _)

/-- Storing what is there already changes nothing. -/
theorem insert_of_get? {m : Sorted α} {k : String} {v : α} (h : m.get? k = some v) : m.insert k v = m := by
  refine ext_get? fun j => ?_
  by_cases hj : j = k
  · rw [hj, get?_insert_self, h]
  · rw [get?_insert_of_ne m hj]

theorem insert_insert_self (m : Sorted α) (k : String) (v w : α) : (m.insert k v).insert k w = m.insert k w := by
  refine ext_get? fun j => ?_
  by_cases hj : j = k
  · rw [hj, get?_insert_self, get?_insert_self]
  · rw [get?_insert_of_ne _ hj, get?_insert_of_ne _ hj, get?_insert_of_ne _ hj]

/-- Storing under a name leaves the entries with other names as they are and in their order. -/
theorem filter_place_ne (k : String) (v : α) (l : List (String × α)) :
    (place k v l).filter (fun e => e.1 ≠ k) = l.filter (fun e => e.1 ≠ k) := by
  induction l with
  | nil => simp [place]
  | cons e rest ih =>
    obtain ⟨k', v'⟩ := e
    unfold place
    split
    · simp
    · split
      · next heq => simp [heq]
      · rw [List.filter_cons, List.filter_cons, ih]

/-! ## Names -/

theorem mem_keys_iff {m : Sorted α} {k : String} : k ∈ m.keys ↔ ∃ v, m.get? k = some v :=
  ⟨exists_lookup_of_mem, fun ⟨_, hv⟩ => mem_keysOf_of_lookup hv⟩

theorem mem_keys_insert {m : Sorted α} {k j : String} {v : α} : j ∈ (m.insert k v).keys ↔ j ∈ m.keys ∨ j = k := by
  rw [mem_keys_iff, mem_keys_iff]
  by_cases h : j = k
  · subst h
    simp
  · simp [get?_insert_of_ne m h, h]

theorem mem_keys_ofList {l : List (String × α)} {k : String} : k ∈ (ofList l).keys ↔ k ∈ keysOf l := by
  have hstore : ∀ m : Sorted α, k ∈ (l.foldl (fun m e => m.insert e.1 e.2) m).keys ↔ k ∈ m.keys ∨ k ∈ keysOf l := by
    intro m
    induction l generalizing m with
    | nil => simp
    | cons e rest ih => rw [List.foldl_cons, ih, mem_keys_insert, keysOf_cons, List.mem_cons, or_assoc]
  exact (hstore empty).trans (or_iff_right List.not_mem_nil)

/-- Each value passed through a function. -/
def map {β : Type} (g : α → β) (m : Sorted α) : Sorted β :=
  ⟨m.entries.map fun e => (e.1, g e.2), by rw [Increasing, List.pairwise_map]; exact m.increasing⟩

theorem get?_map {β : Type} (g : α → β) (m : Sorted α) (k : String) : (m.map g).get? k = (m.get? k).map g :=
  lookup_map g k m.entries

theorem values_map {β : Type} (g : α → β) (m : Sorted α) : (m.map g).values = m.values.map g := by
  rw [values, values, map, List.map_map, List.map_map]
  rfl

theorem map_eq_self {g : α → α} {m : Sorted α} : m.map g = m ↔ ∀ e ∈ m.entries, g e.2 = e.2 := by
  rw [Sorted.ext_iff]
  exact map_values_eq_self

@[simp] theorem map_id : (map id : Sorted α → Sorted α) = id := funext fun _ => map_eq_self.mpr fun _ _ => rfl

end Sorted

end RetreatDesk
