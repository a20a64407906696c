import RetreatDesk.Reading.Layout
import RetreatDesk.Proofs.Reading.Entries

/-!
# Reading by a layout

* `take`, `takeAll`: what one field does, and what the fields of a record that has been read already do.
* `readFields_cons`: the fields of a record are taken one after another.
* `read_record_eq_ok`: a record under distinct names fits if all its fields do and no required one is missing.
* `read_invariant`: what holds at the start and after each field holds of whatever is read.
-/

namespace RetreatDesk

open Json

namespace Draft

theorem value_of_mem_fields {v : Json} {fs : Parts (Option String × Draft)} (hfs : fs ∈ (value v).fields?) :
    ∀ e ∈ fs.parts, ∃ w, e.2 = .value w := by
  intro e he
  cases v with
  | record fields =>
    cases hfs
    obtain ⟨f, -, rfl⟩ := List.mem_map.mp he
    exact ⟨f.2, rfl⟩
  | _ => cases hfs

theorem value_of_mem_items {v : Json} {ds : Parts Draft} (hds : ds ∈ (value v).items?) :
    ∀ d ∈ ds.parts, ∃ w, d = .value w := by
  intro d hd
  cases v with
  | list items =>
    cases hds
    obtain ⟨w, -, rfl⟩ := List.mem_map.mp hd
    exact ⟨w, rfl⟩
  | _ => cases hds

end Draft

namespace Layout

variable {α : Type} (l : Layout α)

/-! ## One field after another -/

/-- What one field does, declared or not. -/
def take (a : α) (k : String) (d : Draft) : Except Problem α :=
  if k ∈ l.fields then l.set k d a else l.other k d a

/-- What the fields of a record that has been read already do, one after another. -/
def takeAll (a : α) (fs : List (String × Json)) : Except Problem α :=
  fs.foldlM (fun a e => l.take a e.1 (.value e.2)) a

theorem takeAll_cons (a : α) (e : String × Json) (fs : List (String × Json)) :
    l.takeAll a (e :: fs) = l.take a e.1 (.value e.2) >>= fun a => l.takeAll a fs :=
  List.foldlM_cons

theorem other_value (k : String) (v : Json) (a : α) :
    l.other k (.value v) a = .ok (match l.keep with | some keep => keep k v a | none => a) := by
  unfold other
  cases l.keep with
  | none => rfl
  | some keep => rfl

/-- The declared fields met once a field has been read. -/
def meet (seen : List String) (k : String) : List String := if k ∈ l.fields then k :: seen else seen

theorem mem_meet {seen : List String} {k n : String} : n ∈ l.meet seen k ↔ n ∈ seen ∨ n ∈ l.fields ∧ n = k := by
  unfold meet
  split
  · next hk =>
    rw [List.mem_cons, or_comm]
    exact or_congr_right ⟨fun h => ⟨h ▸ hk, h⟩, And.right⟩
  · next hk => exact ⟨.inl, fun h => h.resolve_right fun ⟨hn, heq⟩ => hk (heq ▸ hn)⟩

theorem readFields_cons {seen : List String} {k : String} (hk : k ∈ l.fields → k ∉ seen) (d : Draft)
    (rest : List (Option String × Draft)) (a : α) : l.readFields seen a ((some k, d) :: rest) =
      l.take a k d >>= fun a => l.readFields (l.meet seen k) a rest := by
  rw [readFields, take, meet]
  by_cases hdecl : k ∈ l.fields
  · rw [if_pos hdecl, if_neg (hk hdecl), if_pos hdecl, if_pos hdecl]
  · rw [if_neg hdecl, if_neg hdecl, if_neg hdecl]

/-- Under distinct names no field is met twice. -/
theorem readFields_ofFields {fs : List (String × Json)} (hfs : (keysOf fs).Nodup) {seen : List String}
    (hseen : ∀ n ∈ seen, n ∉ keysOf fs) :
    ∃ met, (∀ n, n ∈ met ↔ n ∈ seen ∨ n ∈ l.fields ∧ n ∈ keysOf fs) ∧
      ∀ a, l.readFields seen a (Draft.ofFields fs) = (met, ·) <$> l.takeAll a fs := by
  induction fs generalizing seen with
  | nil => exact ⟨seen, fun n => by simp, fun a => rfl⟩
  | cons e rest ih =>
    obtain ⟨k, v⟩ := e
    obtain ⟨hfresh, hrest⟩ := List.nodup_cons.mp hfs
    have hk : k ∉ seen := fun hmem => hseen k hmem List.mem_cons_self
    have hseen' : ∀ n ∈ l.meet seen k, n ∉ keysOf rest := by
      intro n hn hmem
      rcases l.mem_meet.mp hn with hn | ⟨-, rfl⟩
      · exact hseen n hn (List.mem_cons_of_mem _ hmem)
      · exact hfresh hmem
    obtain ⟨met, hmet, hread⟩ := ih hrest hseen'
    refine ⟨met, fun n => ?_, fun a => ?_⟩
    · rw [hmet, mem_meet, or_assoc, ← and_or_left, keysOf_cons, List.mem_cons]
    · have hcons := l.readFields_cons (fun _ => hk) (.value v) (Draft.ofFields rest) a
      rw [takeAll_cons]
      refine hcons.trans ?_
      cases l.take a k (.value v) with
      | error p => rfl
      | ok b => exact hread b

theorem read_record_eq_ok (hrequired : ∀ n ∈ l.required, n ∈ l.fields) {fs : List (String × Json)}
    (hfs : (keysOf fs).Nodup) {x : α} : l.read (.value (.record fs)) = .ok x ↔
      l.takeAll l.blank fs = .ok x ∧ ∀ n ∈ l.required, n ∈ keysOf fs := by
  have hseen : ∀ n ∈ ([] : List String), n ∉ keysOf fs := by simp
  obtain ⟨met, hmet, hread⟩ := l.readFields_ofFields hfs hseen
  have hmissing : l.required.find? (· ∉ met) = none ↔ ∀ n ∈ l.required, n ∈ keysOf fs := by
    rw [List.find?_eq_none]
    refine forall₂_congr fun n hn => ?_
    simp [hmet, hrequired n hn]
  change (l.readFields [] l.blank (Draft.ofFields fs) >>= _) = .ok x ↔ _
  rw [hread, bind_eq_ok]
  constructor
  · rintro ⟨⟨seen, a⟩, hall, hrest⟩
    obtain ⟨b, hb, heq⟩ := map_eq_ok.mp hall
    cases heq
    simp only [passGap, bind, Except.bind] at hrest
    split at hrest
    · cases hrest
    · next hnone =>
      cases hrest
      exact ⟨hb, hmissing.mp hnone⟩
  · rintro ⟨htake, hall⟩
    refine ⟨(met, x), by rw [htake]; rfl, ?_⟩
    simp only [passGap, bind, Except.bind, hmissing.mpr hall]

/-! ## Whatever is read -/

theorem exists_readFields {parts : List (Option String × Draft)} {gap : Option Fault} {x : α}
    (h : l.readRecord parts gap = .ok x) : ∃ met, l.readFields [] l.blank parts = .ok (met, x) := by
  obtain ⟨⟨met, a⟩, hread, hrest⟩ := bind_eq_ok.mp h
  obtain ⟨-, -, hend⟩ := bind_eq_ok.mp hrest
  split at hend
  · cases hend
  · cases hend
    exact ⟨met, hread⟩

theorem exists_readItems {surplus : Problem} {parts : List Draft} {gap : Option Fault} {x : α}
    (h : l.readList surplus parts gap = .ok x) : ∃ left, l.readItems gap 0 l.blank l.fields parts = .ok (x, left) := by
  obtain ⟨⟨a, left⟩, hread, hrest⟩ := bind_eq_ok.mp h
  dsimp only at hrest
  split at hrest
  · obtain ⟨-, -, hend⟩ := bind_eq_ok.mp hrest
    cases hend
    exact ⟨left, hread⟩
  · cases hrest

section
variable {P : α → Prop} {Q : Draft → Prop}
  (htake : ∀ {a b : α} {k : String} {d : Draft}, Q d → P a → l.take a k d = .ok b → P b)

include htake

theorem readFields_invariant {parts : List (Option String × Draft)} (hparts : ∀ e ∈ parts, Q e.2)
    {seen seen' : List String} {a b : α} (ha : P a) (h : l.readFields seen a parts = .ok (seen', b)) : P b := by
  induction parts generalizing seen a with
  | nil =>
    cases h
    exact ha
  | cons e rest ih =>
    obtain ⟨hd, hrest⟩ := List.forall_mem_cons.mp hparts
    rcases e with ⟨- | k, d⟩
    · cases h
    by_cases hk : k ∈ l.fields ∧ k ∈ seen
    · rw [readFields, if_pos hk.1, if_pos hk.2] at h
      cases h
    · rw [readFields_cons l fun hdecl hseen => hk ⟨hdecl, hseen⟩] at h
      obtain ⟨a', ha', h⟩ := bind_eq_ok.mp h
      exact ih hrest (htake hd ha ha') h

theorem readItems_invariant {names : List String} (hnames : ∀ n ∈ names, n ∈ l.fields) {parts : List Draft}
    (hparts : ∀ d ∈ parts, Q d) {gap : Option Fault} {index left : Nat} {a b : α} (ha : P a)
    (h : l.readItems gap index a names parts = .ok (b, left)) : P b := by
  induction names generalizing parts index a with
  | nil =>
    cases h
    exact ha
  | cons name names ih =>
    obtain ⟨hname, hnames⟩ := List.forall_mem_cons.mp hnames
    cases parts with
    | nil =>
      obtain ⟨-, -, h⟩ := bind_eq_ok.mp h
      obtain ⟨-, -, h⟩ := bind_eq_ok.mp h
      cases h
      exact ha
    | cons d parts =>
      obtain ⟨hd, hparts⟩ := List.forall_mem_cons.mp hparts
      obtain ⟨a', ha', h⟩ := bind_eq_ok.mp h
      have htaken : l.take a name d = .ok a' := by rw [take, if_pos hname, ha']
      exact ih hnames hparts (htake hd ha htaken) h

theorem readRecord_invariant {parts : List (Option String × Draft)} (hparts : ∀ e ∈ parts, Q e.2)
    {gap : Option Fault} (hblank : P l.blank) {x : α} (h : l.readRecord parts gap = .ok x) : P x := by
  obtain ⟨met, hread⟩ := l.exists_readFields h
  exact l.readFields_invariant htake hparts hblank hread

theorem readList_invariant {surplus : Problem} {parts : List Draft} (hparts : ∀ d ∈ parts, Q d) {gap : Option Fault}
    (hblank : P l.blank) {x : α} (h : l.readList surplus parts gap = .ok x) : P x := by
  obtain ⟨left, hread⟩ := l.exists_readItems h
  exact l.readItems_invariant htake (fun n hn => hn) hparts hblank hread

/-- What holds at the start and after each field holds of whatever is read. `Q` is what the parts of the draft are
known to be. -/
theorem read_invariant {d : Draft} (hfields : ∀ fs ∈ d.fields?, ∀ e ∈ fs.parts, Q e.2)
    (hitems : ∀ ds ∈ d.items?, ∀ e ∈ ds.parts, Q e) (hblank : P l.blank) {x : α} (h : l.read d = .ok x) : P x := by
  unfold read at h
  split at h
  · next fs hfs => exact l.readRecord_invariant htake (hfields fs hfs) hblank h
  · next ds _ hds =>
    split at h
    · cases h
    · exact l.readList_invariant htake (hitems ds hds) hblank h
  · cases h

end

end Layout

end RetreatDesk
