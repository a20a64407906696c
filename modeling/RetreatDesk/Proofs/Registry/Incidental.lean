import RetreatDesk.Proofs.Pool.Standing
import RetreatDesk.Proofs.Registry.Frame

/-!
# Changes that membership does not go by

Contact data, payments and fields without a meaning are recorded by changes that name nothing else. They may reach into
the programs and offerings that are there, but bring no new ones, for a new program or a new booking can count.

* `EntersOnly`: a record of records, each for an entry that is there.
* `Program.Incidental`, `Participant.Incidental`: the changes that name nothing a rule looks at.
* `map_eq_of_entersOnly`: what is looked up in the entries of a collection stays if it stays in each entry entered.
* `Participant.standing_of_spared`: such a change leaves the standing of a person.
-/

namespace RetreatDesk

open Json

/-! ## Entering what is there -/

/-- A record of records, each for an entry that is there and of a kind allowed for it. -/
def EntersOnly {β : Type} (found : String → Option β) (allowed : List (String × Json) → β → Prop) (v : Json) : Prop :=
  ∃ entries, v = .record entries ∧ ∀ k w, entries.lookup k = some w →
    ∃ x inner, found k = some x ∧ w = .record inner ∧ allowed inner x

theorem EntersOnly.singleton {β : Type} {found : String → Option β} {allowed : List (String × Json) → β → Prop}
    {k : String} {x : β} {inner : List (String × Json)} (hx : found k = some x) (hinner : allowed inner x) :
    EntersOnly found allowed (.record [(k, .record inner)]) := by
  refine ⟨_, rfl, fun j w hj => ?_⟩
  cases List.mem_singleton.mp (mem_of_lookup hj)
  exact ⟨x, inner, hx, rfl, hinner⟩

/-- `look` stays under every name when a change enters only entries that are there and leaves it in each of them. -/
theorem map_eq_of_entersOnly {β γ : Type} {m m' : Sorted β} {norm : β → β} {look : β → γ}
    (hnorm : ∀ x, look (norm x) = look x) {inside : List (String × Json) → β → β → Prop}
    {allowed : List (String × Json) → β → Prop}
    (hinside : ∀ inner x y, allowed inner x → inside inner (norm x) y → look y = look x)
    {changes : List (String × Json)} {name : String} (hunnamed : name ∉ keysOf changes → m' = m.map norm)
    (hkept : ∀ inner, changes.lookup name = some (.record inner) → Kept inside inner (m.map norm).get? m'.get?)
    (henters : ∀ v, changes.lookup name = some v → EntersOnly m.get? allowed v) : m'.map look = m.map look := by
  have hback : ∀ k, ((m.map norm).get? k).map look = (m.get? k).map look := by
    intro k
    rw [Sorted.get?_map, Option.map_map]
    exact congrArg (Option.map · _) (funext hnorm)
  apply Sorted.ext_get?
  intro k
  rw [Sorted.get?_map, Sorted.get?_map]
  cases hname : changes.lookup name with
  | none => rw [hunnamed (not_mem_keysOf_iff.mpr hname), hback]
  | some v =>
    obtain ⟨entries, rfl, hentries⟩ := henters v hname
    have hkept := hkept entries hname
    cases hk : entries.lookup k with
    | none => rw [hkept.beside k (not_mem_keysOf_iff.mpr hk), hback]
    | some w =>
      obtain ⟨x, inner, hx, rfl, hallowed⟩ := hentries k w hk
      have hbefore : (m.map norm).get? k = some (norm x) := by rw [Sorted.get?_map, hx, Option.map_some]
      obtain ⟨y, hy, hleft⟩ := hkept.within k inner hk (norm x) hbefore
      rw [hy, hx, Option.map_some, Option.map_some, hinside inner x y hallowed hleft]

/-! ## Offerings -/

theorem Offering.standing_asWritten (o : Offering) : o.asWritten.standing = o.standing := rfl

theorem Offering.standing_of_spared {changes : List (String × Json)} {o o' : Offering}
    (h : Spared changes o.asWritten o') (hsku : "offeringSKU" ∉ keysOf changes) : o'.standing = o.standing := by
  have hslots := h.unnamed
  simp only [slots, List.forall_mem_cons] at hslots
  obtain ⟨hstays, -⟩ := hslots
  have hsame : o'.sku = o.sku := hstays hsku
  rw [standing, standing, hsame]

/-! ## Programs -/

namespace Program

/-- Of the declared fields the change names none but the offerings, and of these it enters some that are there, without
a word of the article. -/
structure Incidental (changes : List (String × Json)) (r : Program) : Prop where
  undeclared : ∀ k ∈ keysOf changes, k ∈ layout.fields → k = "offeringHistory"
  offeringHistory : ∀ v, changes.lookup "offeringHistory" = some v →
    EntersOnly r.offeringHistory.get? (fun inner _ => "offeringSKU" ∉ keysOf inner) v

theorem standing_asWritten (r : Program) : r.asWritten.standing = r.standing := by
  have hhistory : (r.offeringHistory.map Offering.asWritten).map Offering.standing =
      r.offeringHistory.map Offering.standing := by
    apply Sorted.ext_get?
    intro k
    rw [Sorted.get?_map, Sorted.get?_map, Sorted.get?_map, Option.map_map]
    rfl
  exact congrArg (fun history => { r.standing with offeringHistory := history }) hhistory

theorem standing_of_spared {changes : List (String × Json)} {r r' : Program} (h : Spared changes r.asWritten r')
    (hincidental : Incidental changes r) : r'.standing = r.standing := by
  have hslots := h.unnamed
  simp only [slots, List.forall_mem_cons] at hslots
  obtain ⟨hjoin, haccepted, hwithdrawn, -, hattended, hoath, heligible, hmanual, htest, -, -, hpicks, hoffers, -⟩ :=
    hslots
  have hunnamed : ∀ k ∈ layout.fields, k ≠ "offeringHistory" → k ∉ keysOf changes := by
    intro k hfield hne hk
    exact hne (hincidental.undeclared k hk hfield)
  have hinside : ∀ inner (o o' : Offering), "offeringSKU" ∉ keysOf inner → Offering.Spared inner o.asWritten o' →
      o'.standing = o.standing := by
    intro inner o o' hsku hleft
    exact Offering.standing_of_spared hleft hsku
  have hhistory : r'.offeringHistory.map Offering.standing = r.offeringHistory.map Offering.standing :=
    map_eq_of_entersOnly Offering.standing_asWritten hinside hoffers h.offeringHistory hincidental.offeringHistory
  have hjoin : r'.join = r.join := hjoin (hunnamed _ (by decide) (by decide))
  have haccepted : r'.accepted = r.accepted := haccepted (hunnamed _ (by decide) (by decide))
  have hwithdrawn : r'.withdrawn = r.withdrawn := hwithdrawn (hunnamed _ (by decide) (by decide))
  have hattended : r'.attended = r.attended := hattended (hunnamed _ (by decide) (by decide))
  have hoath : r'.oath = r.oath := hoath (hunnamed _ (by decide) (by decide))
  have heligible : r'.eligible = r.eligible := heligible (hunnamed _ (by decide) (by decide))
  have hmanual : r'.manualInclude = r.manualInclude := hmanual (hunnamed _ (by decide) (by decide))
  have htest : r'.test = r.test := htest (hunnamed _ (by decide) (by decide))
  have hpicks : r'.whichRetreats = r.whichRetreats := hpicks (hunnamed _ (by decide) (by decide))
  rw [standing, standing, hjoin, haccepted, hwithdrawn, hattended, hoath, heligible, hmanual, htest, hpicks, hhistory]

end Program

/-! ## People -/

namespace Participant

/-- The change says nothing of what the person practises, and if it names programs it enters some that are there, with
changes that are incidental to each of them. All else it may name: names, addresses, languages, fields without a
meaning. -/
structure Incidental (changes : List (String × Json)) (p : Participant) : Prop where
  practice : "practice" ∉ keysOf changes
  programs : ∀ v, changes.lookup "programs" = some v → EntersOnly p.programs.get? Program.Incidental v

theorem standing_of_spared {changes : List (String × Json)} {p q : Participant} (hid : q.id = p.id)
    (h : Spared changes p.asWritten q) (hincidental : Incidental changes p) : q.standing = p.standing := by
  have hslots := h.unnamed
  simp only [slots, List.forall_mem_cons] at hslots
  obtain ⟨-, -, -, -, hunnamed, hpractice, -⟩ := hslots
  -- Amounts without a numeral are lost on the way, which is why `asWritten` stands before the change.
  have hinside : ∀ inner (r r' : Program), r.Incidental inner → Program.Spared inner r.asWritten r' →
      r'.standing = r.standing := by
    intro inner r r' hallowed hspared
    exact Program.standing_of_spared hspared hallowed
  have hprograms : q.programs.map Program.standing = p.programs.map Program.standing :=
    map_eq_of_entersOnly Program.standing_asWritten hinside hunnamed h.programs hincidental.programs
  have hpractice : q.practice = p.practice := hpractice hincidental.practice
  rw [standing, standing, hid, hprograms, hpractice]

end Participant

end RetreatDesk
