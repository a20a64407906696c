import RetreatDesk.Proofs.Reading.Parameters
import RetreatDesk.Proofs.Registry.Pools

/-!
# Rules as they are entered

* `PoolRule.kinds`: the kinds of rules, each with the parameters that it needs.
* `PoolRule.tabular`: a rule is told by its tag and by what it holds under the names of its parameters.
* `PoolRule.read_iff_spelledBy`: a rule is read off a record exactly if the record spells it.
* `PoolRule.exists_read_iff_complete`: some rule is, exactly if the record has all that a kind needs.
-/

namespace RetreatDesk

open Json

/-! ## Texts -/

namespace Reader

theorem eachItem_texts {items : List Json} {ss : List String}
    (h : eachItem (text .string) (items.map .value) = .ok ss) : items = ss.map .text := by
  induction items generalizing ss with
  | nil =>
    cases h
    rfl
  | cons v rest ih =>
    obtain ⟨s, hs, h⟩ := bind_eq_ok.mp h
    obtain ⟨ss', hss, h⟩ := bind_eq_ok.mp h
    cases h
    rw [text_eq_ok.mp hs, ih hss, List.map_cons]

theorem items_texts_eq_ok {v : Json} {ss : List String} :
    items (text .string) (.value v) = .ok ss ↔ v = .ofTexts ss := by
  constructor
  · intro h
    cases v with
    | list items =>
      obtain ⟨ss', hss, h⟩ := bind_eq_ok.mp h
      cases h
      rw [eachItem_texts hss, ofTexts]
    | _ => cases h
  · rintro rfl
    exact items_ofTexts ss

end Reader

/-! ## Rules -/

namespace PoolRule

/-- The kinds of rules. -/
def kinds : List (String × List String) :=
  [("true", []), ("pool", ["name"]), ("pooldiff", ["inpool", "outpool"]), ("pooland", ["pool1", "pool2"]),
   ("practice", ["field"]), ("offering", ["aid", "subevent"]), ("currenteventoffering", ["subevent"]),
   ("currenteventtest", []), ("currenteventnotoffering", ["subevent"]), ("offeringandpools", ["aid", "subevent"]),
   ("oath", ["aid"]), ("attended", ["aid"]), ("join", ["aid"]), ("currenteventjoin", []),
   ("currenteventmanualinclude", []), ("currenteventaccepted", []), ("currenteventnotjoin", []),
   ("joinwhich", ["aid", "retreat"]), ("offeringwhich", ["aid", "retreat", "subevent"]), ("eligible", [])]

/-- The fields of a record are those of a rule: a kind with all that it needs and, where a list of pools is there, one of
texts. -/
def Complete (fs : List (String × Json)) : Prop :=
  ∃ kind, OfKind kinds "type" fs kind ∧
    (kind = "offeringandpools" → fs.lookup "pools" = none ∨ ∃ ss, fs.lookup "pools" = some (.ofTexts ss))

/-- The fields of a record spell a rule: its tag, and each of its parameters as it is. An empty list of pools may be left
out. -/
structure SpelledBy (fs : List (String × Json)) (r : PoolRule) : Prop where
  tag : fs.lookup "type" = some (.text r.tag)
  parameter : ∀ n w, (n, w) ∈ r.parameters →
    fs.lookup n = some w ∨ n = "pools" ∧ w = .ofTexts [] ∧ fs.lookup n = none

/-! ### Parameters -/

theorem withTag_tag (r : PoolRule) : keysOf (withTag r.tag).parameters = keysOf r.parameters ∧
    (withTag r.tag).tag = r.tag := by
  cases r <;> exact ⟨rfl, rfl⟩

theorem nodup_parameters (r : PoolRule) : (keysOf r.parameters).Nodup := by
  cases r <;> simp [parameters]

theorem eq_unknown_of_tag {r : PoolRule} (h : r.tag = "unknown") : r = unknown := by
  cases r <;> simp_all [tag]

theorem tag_withTag {s : String} (h : withTag s ≠ unknown) : (withTag s).tag = s := by
  unfold withTag at h ⊢
  split at h <;> first | rfl | exact absurd rfl h

theorem withTag_tag_withTag (s : String) : withTag (withTag s).tag = withTag s := by
  by_cases h : withTag s = unknown
  · rw [h]
    rfl
  · rw [tag_withTag h]

theorem eq_of_withTag_eq {s : String} {r : PoolRule} (h : withTag r.tag = withTag s) (hr : r ≠ unknown) :
    s = r.tag := by
  rw [← r.withTag_tag.2, h]
  refine (tag_withTag fun hunknown => hr (eq_unknown_of_tag ?_)).symm
  rw [← r.withTag_tag.2, h, hunknown]
  rfl

theorem tag_withText (n s : String) (r : PoolRule) : (r.withText n s).tag = r.tag := by
  cases r <;> simp only [withText] <;> (try split) <;> (try split) <;> rfl

theorem parameters_withText (r : PoolRule) : ∀ n ∈ keysOf r.parameters, n ≠ "pools" →
    ∀ s, (r.withText n s).parameters = put n (.text s) r.parameters := by
  cases r <;> simp [parameters, withText, put]

theorem tag_withPools (ps : List String) (r : PoolRule) : (r.withPools ps).tag = r.tag := by
  cases r <;> rfl

theorem parameters_withPools (r : PoolRule) : "pools" ∈ keysOf r.parameters →
    ∀ ps, (r.withPools ps).parameters = put "pools" (.ofTexts ps) r.parameters := by
  cases r <;> simp [parameters, withPools, put]

/-- Every parameter but the list of pools is a text. -/
theorem text_of_mem_parameters (r : PoolRule) :
    ∀ e ∈ r.parameters, e.1 ≠ "type" ∧ if e.1 = "pools" then ∃ ss, e.2 = .ofTexts ss else ∃ s, e.2 = .text s := by
  cases r <;> simp [parameters]

theorem lookup_pools_withTag (s : String) {w : Json} (h : (withTag s).parameters.lookup "pools" = some w) :
    w = .ofTexts [] := by
  unfold withTag at h
  split at h <;> simp_all [parameters, List.lookup_cons]

theorem mem_kinds {r : PoolRule} (hr : r ≠ unknown) : (r.tag, (keysOf r.parameters).filter (· ≠ "pools")) ∈ kinds := by
  cases r <;> simp [tag, parameters, kinds] at hr ⊢

theorem pools_of_tag {r : PoolRule} (h : r.tag = "offeringandpools") : ∃ ss, ("pools", .ofTexts ss) ∈ r.parameters := by
  cases r <;> simp [tag, parameters] at h ⊢

/-- What the kinds need is what the layouts require. -/
theorem layout_of_mem_kinds {kind : String} {needed : List String} (h : (kind, needed) ∈ kinds) :
    withTag kind ≠ unknown ∧ (layout kind).required = needed ∧
      ("pools" ∈ (layout kind).fields → kind = "offeringandpools") := by
  have hall : ∀ e ∈ kinds, withTag e.1 ≠ unknown ∧ (layout e.1).required = e.2 ∧
      ("pools" ∈ (layout e.1).fields → e.1 = "offeringandpools") := by decide
  exact hall _ h

/-! ### What is read -/

/-- What becomes of a value under the name of a parameter. -/
def taken (n : String) (v : Json) : Option (Option Json) :=
  if n = "pools" then (Reader.ofJson? (Reader.items (Reader.text .string)) v).map fun ss => some (.ofTexts ss)
  else (Reader.ofJson? (Reader.text .string) v).map fun s => some (.text s)

theorem taken_eq_some {n : String} {v : Json} {t : Option Json} (h : taken n v = some t) : t = some v := by
  unfold taken at h
  split at h
  · obtain ⟨ss, hss, rfl⟩ := Option.map_eq_some_iff.mp h
    rw [Reader.items_texts_eq_ok.mp (Reader.ofJson?_eq_some.mp hss)]
  · obtain ⟨s, hs, rfl⟩ := Option.map_eq_some_iff.mp h
    rw [Reader.text_eq_ok.mp (Reader.ofJson?_eq_some.mp hs)]

theorem taken_texts (ss : List String) : taken "pools" (.ofTexts ss) = some (some (.ofTexts ss)) := by
  rw [taken, if_pos rfl, Reader.ofJson?_eq_some.mpr (Reader.items_texts_eq_ok.mpr rfl)]
  rfl

theorem taken_text {n : String} (hn : n ≠ "pools") (s : String) : taken n (.text s) = some (some (.text s)) := by
  rw [taken, if_neg hn]
  rfl

theorem taken_of_mem {r : PoolRule} {n : String} {w : Json} (h : (n, w) ∈ r.parameters) : taken n w = some (some w) := by
  have hw := (r.text_of_mem_parameters _ h).2
  split at hw
  · next hn =>
    obtain ⟨ss, rfl⟩ := hw
    have hpools : n = "pools" := hn
    rw [hpools, taken_texts]
  · next hn =>
    obtain ⟨s, rfl⟩ := hw
    exact taken_text hn s

theorem mem_keysOf_of_kind {s n : String} {r : PoolRule} (hr : withTag r.tag = withTag s) (hn : n ∈ (layout s).fields) :
    n ∈ keysOf r.parameters := by
  rw [← r.withTag_tag.1, hr]
  exact hn

/-- Rules with the same tag and the same parameters are the same. -/
theorem ext_parameters {a b : PoolRule} (htag : a.tag = b.tag)
    (h : ∀ n ∈ keysOf a.parameters, a.parameters.lookup n = b.parameters.lookup n) : a = b := by
  have hkeys : keysOf a.parameters = keysOf b.parameters := by
    rw [← a.withTag_tag.1, ← b.withTag_tag.1, htag]
  have hparameters : a.parameters = b.parameters :=
    congrArg Listed.entries
      (@Listed.ext_get? Json ⟨a.parameters, a.nodup_parameters⟩ ⟨b.parameters, b.nodup_parameters⟩ hkeys h)
  have hjson : a.toJson = b.toJson := by rw [toJson, toJson, htag, hparameters]
  exact Except.ok.inj (a.read_toJson.symm.trans (hjson ▸ b.read_toJson))

theorem tabular (s : String) : (layout s).Tabular (fun r => withTag r.tag = withTag s)
    (fun r n => r.parameters.lookup n) taken where
  keep_eq := rfl
  required_subset n hn := List.mem_of_mem_filter hn
  kind_blank := withTag_tag_withTag s
  of_set {n v a b} hn ha h := by
    have hmem := mem_keysOf_of_kind ha hn
    have hput : ∀ {b : PoolRule} {w : Json}, b.tag = a.tag → b.parameters = put n w a.parameters →
        taken n v = some (some w) → withTag b.tag = withTag s ∧ taken n v = some (b.parameters.lookup n) ∧
          ∀ m ∈ (layout s).fields, m ≠ n → b.parameters.lookup m = a.parameters.lookup m := by
      intro b w htag hparameters htaken
      rw [htag, hparameters, lookup_put_self]
      exact ⟨ha, htaken, fun m _ hm => lookup_put_of_ne hm w _⟩
    change (if n = "pools" then _ else _) = _ at h
    split at h
    · next hn =>
      subst hn
      obtain ⟨ps, hps, h⟩ := bind_eq_ok.mp h
      cases h
      refine hput (tag_withPools ps a) (parameters_withPools a hmem ps) ?_
      rw [taken, if_pos rfl, Reader.ofJson?_eq_some.mpr hps]
      rfl
    · next hn =>
      obtain ⟨text, htext, h⟩ := bind_eq_ok.mp h
      cases h
      refine hput (tag_withText n text a) (parameters_withText a n hmem hn text) ?_
      rw [taken, if_neg hn, Reader.ofJson?_eq_some.mpr htext]
      rfl
  exists_set {n v a} _ _ hv := by
    obtain ⟨t, ht⟩ := Option.ne_none_iff_exists'.mp hv
    change ∃ b, (if n = "pools" then _ else _) = _
    unfold taken at ht
    split at ht
    · next hn =>
      obtain ⟨ps, hps, -⟩ := Option.map_eq_some_iff.mp ht
      exact ⟨a.withPools ps, by rw [if_pos hn, Reader.ofJson?_eq_some.mp hps]; rfl⟩
    · next hn =>
      obtain ⟨text, htext, -⟩ := Option.map_eq_some_iff.mp ht
      exact ⟨a.withText n text, by rw [if_neg hn, Reader.ofJson?_eq_some.mp htext]; rfl⟩
  ext {a b} ha hb h := by
    have htag : a.tag = b.tag := by rw [← a.withTag_tag.2, ← b.withTag_tag.2, ha, hb]
    refine ext_parameters htag fun n hn => h n ?_
    rw [← a.withTag_tag.1, ha] at hn
    exact hn

theorem type_not_parameter (s : String) : tagged.tag ∉ (tagged.layout s).fields := by
  intro hmem
  obtain ⟨e, he, hname⟩ := List.mem_map.mp hmem
  exact ((withTag s).text_of_mem_parameters e he).1 hname

theorem fields_layout (r : PoolRule) : (tagged.layout r.tag).fields = keysOf r.parameters :=
  r.withTag_tag.1

/-- Every parameter but the list of pools has to be there. -/
theorem mem_required {r : PoolRule} {n : String} :
    n ∈ (tagged.layout r.tag).required ↔ n ∈ keysOf r.parameters ∧ n ≠ "pools" := by
  change n ∈ (keysOf (withTag r.tag).parameters).filter _ ↔ _
  rw [List.mem_filter, r.withTag_tag.1, decide_eq_true_iff]

/-- A rule holds what stands under the name of a parameter, and no pools where no list of them is needed or there. -/
theorem heldAfter_parameter {r : PoolRule} {n : String} {w : Json} (hw : (n, w) ∈ r.parameters)
    {fs : List (String × Json)} (hthere : n ≠ "pools" → n ∈ keysOf fs) :
    Layout.heldAfter taken n ((withTag r.tag).parameters.lookup n) (fs.lookup n) = some (some w) ↔
      fs.lookup n = some w ∨ n = "pools" ∧ w = .ofTexts [] ∧ fs.lookup n = none := by
  cases hlookup : fs.lookup n with
  | some v =>
    constructor
    · exact fun h => .inl (taken_eq_some h).symm
    · rintro (hv | ⟨-, -, hv⟩)
      · cases hv
        exact taken_of_mem hw
      · cases hv
  | none =>
    have hpools : n = "pools" := by
      by_contra hne
      obtain ⟨v, hv⟩ := exists_lookup_of_mem (hthere hne)
      cases hlookup.symm.trans hv
    subst hpools
    have hmem : "pools" ∈ keysOf (withTag r.tag).parameters := r.withTag_tag.1 ▸ List.mem_map_of_mem hw
    obtain ⟨w', hw'⟩ := exists_lookup_of_mem hmem
    have hempty := lookup_pools_withTag _ hw'
    subst hempty
    rw [hw']
    constructor
    · intro h
      cases h
      exact .inr ⟨rfl, rfl, rfl⟩
    · rintro (hv | ⟨-, rfl, -⟩)
      · cases hv
      · rfl

theorem SpelledBy.lookup_of_ne {fs : List (String × Json)} {r : PoolRule} (h : SpelledBy fs r) {n : String} {w : Json}
    (hw : (n, w) ∈ r.parameters) (hn : n ≠ "pools") : fs.lookup n = some w :=
  (h.parameter n w hw).resolve_right fun hpools => hn hpools.1

/-- What spells a rule that anybody can meet is complete. -/
theorem SpelledBy.complete {fs : List (String × Json)} {r : PoolRule} (h : SpelledBy fs r) (hr : r ≠ unknown) :
    Complete fs := by
  refine ⟨r.tag, ⟨(keysOf r.parameters).filter (· ≠ "pools"), r.mem_kinds hr, h.tag, fun n hn => ?_⟩, fun hpools => ?_⟩
  · obtain ⟨hn, hne⟩ := List.mem_filter.mp hn
    obtain ⟨w, hw⟩ := exists_lookup_of_mem hn
    have hmem := mem_of_lookup hw
    have htext := (r.text_of_mem_parameters _ hmem).2
    rw [if_neg (of_decide_eq_true hne)] at htext
    obtain ⟨s, rfl⟩ := htext
    exact ⟨s, h.lookup_of_ne hmem (of_decide_eq_true hne)⟩
  · obtain ⟨ss, hss⟩ := r.pools_of_tag hpools
    rcases h.parameter "pools" (.ofTexts ss) hss with hlookup | ⟨-, -, hlookup⟩
    · exact .inr ⟨ss, hlookup⟩
    · exact .inl hlookup

/-- What is complete holds nothing but parameters that are taken. -/
theorem taken_of_complete {fs : List (String × Json)} {kind : String} {needed : List String}
    (hkind : (kind, needed) ∈ kinds) (htexts : ∀ n ∈ needed, ∃ s, fs.lookup n = some (.text s))
    (hpools : kind = "offeringandpools" → fs.lookup "pools" = none ∨ ∃ ss, fs.lookup "pools" = some (.ofTexts ss)) :
    ∀ n ∈ (layout kind).fields, ∀ v, fs.lookup n = some v → taken n v ≠ none := by
  obtain ⟨-, hneeded, hlisted⟩ := layout_of_mem_kinds hkind
  intro n hn v hv
  by_cases hname : n = "pools"
  · subst hname
    rcases hpools (hlisted hn) with hnone | ⟨ss, hss⟩
    · cases hnone.symm.trans hv
    · cases hss.symm.trans hv
      simp [taken_texts]
  · have hrequired : n ∈ (layout kind).required := List.mem_filter.mpr ⟨hn, decide_eq_true hname⟩
    obtain ⟨s, hs⟩ := htexts n (hneeded ▸ hrequired)
    cases hs.symm.trans hv
    simp [taken_text hname]

section
variable {fs : List (String × Json)} (hfs : (keysOf fs).Nodup)

include hfs

/-- A rule is read off a record exactly if the record spells it. -/
theorem read_iff_spelledBy {r : PoolRule} (hr : r ≠ unknown) :
    tagged.read (.value (.record fs)) = .ok r ↔ SpelledBy fs r := by
  rw [Tagged.read_tabular_iff tabular type_not_parameter hfs]
  constructor
  · rintro ⟨s, hs, hkind, hrequired, hheld⟩
    obtain rfl := eq_of_withTag_eq hkind hr
    refine ⟨hs, fun n w hw => (heldAfter_parameter hw fun hne => ?_).mp ?_⟩
    · exact hrequired n (mem_required.mpr ⟨List.mem_map_of_mem hw, hne⟩)
    · rw [← lookup_of_mem r.nodup_parameters hw]
      exact hheld n (r.fields_layout ▸ List.mem_map_of_mem hw)
  · intro h
    refine ⟨r.tag, h.tag, rfl, fun n hn => ?_, fun n hn => ?_⟩
    · obtain ⟨hn, hne⟩ := mem_required.mp hn
      obtain ⟨w, hw⟩ := exists_lookup_of_mem hn
      exact mem_keysOf_of_lookup (h.lookup_of_ne (mem_of_lookup hw) hne)
    · rw [r.fields_layout] at hn
      obtain ⟨w, hw⟩ := exists_lookup_of_mem hn
      have hmem := mem_of_lookup hw
      rw [hw]
      have hthere : n ≠ "pools" → n ∈ keysOf fs := fun hne => mem_keysOf_of_lookup (h.lookup_of_ne hmem hne)
      exact (heldAfter_parameter hmem hthere).mpr (h.parameter n w hmem)

/-- A rule that anybody can meet is read off a record exactly if the record is complete. -/
theorem exists_read_iff_complete :
    (∃ r, r ≠ unknown ∧ tagged.read (.value (.record fs)) = .ok r) ↔ Complete fs := by
  constructor
  · rintro ⟨r, hr, hread⟩
    exact ((read_iff_spelledBy hfs hr).mp hread).complete hr
  · rintro ⟨kind, ⟨needed, hkind, htag, htexts⟩, hpools⟩
    obtain ⟨hknown, hneeded, -⟩ := layout_of_mem_kinds hkind
    have hrequired : ∀ n ∈ (layout kind).required, n ∈ keysOf fs := fun n hn =>
      (htexts n (hneeded ▸ hn)).elim fun s => mem_keysOf_of_lookup
    obtain ⟨r, hread, hr⟩ := Tagged.exists_read_tabular tabular type_not_parameter hfs htag hrequired
      (taken_of_complete hkind htexts hpools)
    refine ⟨r, ?_, hread⟩
    rintro rfl
    exact hknown hr.symm

end

end PoolRule

end RetreatDesk
