import RetreatDesk.Registry.Pool
import RetreatDesk.Proofs.Reading.Items
import RetreatDesk.Proofs.Registry.Slots

/-!
# Pools as they are written

* `PoolRule.readsBack`: every rule is read back as it was, one that nobody meets too.
* `Pool.described`: the layout of a pool is nothing but its slots.
* `Pool.readsBack`: a pool is read back as it was.
-/

namespace RetreatDesk

open Json

/-! ## Rules -/

namespace Reader

theorem items_ofTexts (ss : List String) : items (text .string) (.value (.ofTexts ss)) = .ok ss := by
  have heach : eachItem (text .string) ((ss.map Json.text).map .value) = .ok ss := by
    induction ss with
    | nil => rfl
    | cons s rest ih =>
      change (eachItem (text .string) ((rest.map Json.text).map .value) >>= fun ss => .ok (s :: ss)) = _
      rw [ih]
      rfl
  change (eachItem (text .string) ((ss.map Json.text).map .value) >>= fun ss => .ok ss) = _
  rw [heach]
  rfl

end Reader

namespace PoolRule

/-- The list of pools is the only parameter whose reading looks at more than one value. -/
theorem take_pools (aid subEvent : String) (pools : List String) :
    (layout "offeringandpools").take (offeringAndPools aid subEvent []) "pools" (.value (.ofTexts pools)) =
      .ok (offeringAndPools aid subEvent pools) := by
  change (Reader.items (Reader.text .string) (.value (.ofTexts pools)) >>= fun ps =>
    .ok ((offeringAndPools aid subEvent []).withPools ps)) = _
  rw [Reader.items_ofTexts]
  rfl

theorem read_toJson (r : PoolRule) : tagged.read (.value r.toJson) = .ok r := by
  cases r with
  | offeringAndPools aid subEvent pools =>
    have hnames : keysOf (offeringAndPools aid subEvent pools).parameters = (layout "offeringandpools").fields := rfl
    have hdistinct : (layout "offeringandpools").fields.Nodup := by decide
    have hrequired : ∀ n ∈ (layout "offeringandpools").required, n ∈ (layout "offeringandpools").fields := by decide
    have hfields : (layout "offeringandpools").takeAll (offeringAndPools "" "" [])
        (offeringAndPools aid subEvent pools).parameters = .ok (offeringAndPools aid subEvent pools) := by
      change ((layout "offeringandpools").take (offeringAndPools aid subEvent []) "pools" (.value (.ofTexts pools)) >>=
        fun r => .ok r) = _
      rw [take_pools]
      rfl
    rw [← hnames] at hdistinct
    exact ((layout "offeringandpools").read_record_eq_ok hrequired hdistinct).mpr ⟨hfields, hrequired⟩
  | _ => rfl

theorem readsBack : (Facet.whole tagged.read toJson).ReadsBack id := fun r _ => r.read_toJson

end PoolRule

/-! ## Pools -/

namespace Pool

def slots : List (Slot Pool) :=
  [.label "name" none (·.name) fun s p => { p with name := s },
   .label "description" (some "") (·.description) fun s p => { p with description := s },
   .allItems "attributes" .unknown PoolRule.tagged.read PoolRule.toJson (·.rules) fun rs p => { p with rules := rs }]

theorem described : layout.Described slots fun _ => [] where
  fields_eq := rfl
  nodup := by decide
  blank_of_required := by simp [layout, slots]
  required_of_blank := by simp [slots, layout]
  blank_eq := by simp [slots, layout]
  sound_of_blank := by
    simp only [slots, List.forall_mem_cons]
    exact ⟨fun _ => ⟨some (.text ""), rfl⟩, by simp [Slot.label]⟩
  set_eq := by
    simp only [slots, List.forall_mem_cons]
    exact ⟨fun _ _ => rfl, fun _ _ => rfl, fun _ _ => bind_pure_comp _ _, by simp⟩
  get_put := by simp [slots]
  get_put_of_ne := by simp [slots]
  rest_put _ _ _ _ := rfl
  get_keep := by simp [layout]
  rest_keep := by simp [layout]
  rest_blank := rfl
  rest_nodup _ := List.nodup_nil
  ext x y h _ := by
    cases x; cases y
    simp_all [slots]

theorem toJson_eq (p : Pool) : p.toJson = .record (Slot.written slots p ++ []) := rfl

theorem slots_readBack : ∀ s ∈ slots, s.facet.ReadsBack id := by
  have hrules := Facet.allItems_readsBack ⟨PoolRule.unknown.toJson, PoolRule.unknown.read_toJson⟩ PoolRule.readsBack
  rw [List.map_id_fun] at hrules
  simp only [slots, List.forall_mem_cons]
  exact ⟨(Facet.label_readsBack none).along fun _ => rfl, (Facet.label_readsBack (some "")).along fun _ => rfl,
    hrules.along fun _ => rfl, by simp⟩

/-- A pool is read back as it was. -/
theorem readsBack : (Facet.whole layout.read toJson).ReadsBack id :=
  described.readsBack toJson_eq slots_readBack fun _ => rfl

end Pool

end RetreatDesk
