import RetreatDesk.Reading.Reader
import RetreatDesk.Proofs.Json.Overlay
import RetreatDesk.Proofs.Reading.Outcome

/-!
# Documents give no two fields one name

A document may name a field twice. What is read from it does not: the last value counts.

* `Draft.Distinct.json?`: the value of a draft gives no two fields one name.
* `distinct_assemble`, `distinct_lex`: so it is with everything that a text holds.
* `Json.distinct_ofText?`: the value of a whole text.
-/

namespace RetreatDesk

/-- No value inside a draft that has been read already gives two fields one name. -/
inductive Draft.Distinct : Draft → Prop
  | value {v : Json} (h : v.Distinct) : Draft.Distinct (.value v)
  | list {items : List Draft} {gap : Option Fault} (h : ∀ d ∈ items, Draft.Distinct d) :
      Draft.Distinct (.list items gap)
  | record {fields : List (Option String × Draft)} {gap : Option Fault} (h : ∀ e ∈ fields, Draft.Distinct e.2) :
      Draft.Distinct (.record fields gap)
  | broken (reading skipping : Fault) : Draft.Distinct (.broken reading skipping)
  | flawed (inner : Draft) : Draft.Distinct (.flawed inner)

namespace Draft

theorem distinct_torn (fault : Fault) : (torn fault).Distinct := .broken fault fault

/-! ## Values of drafts -/

theorem mem_jsons? {items : List Draft} {vs : List Json} (h : jsons? items = .ok vs) :
    ∀ v ∈ vs, ∃ d ∈ items, d.json? = .ok v := by
  induction items generalizing vs with
  | nil =>
    cases h
    intro v hv
    cases hv
  | cons d rest ih =>
    rw [jsons?] at h
    obtain ⟨v, hv, h⟩ := bind_eq_ok.mp h
    obtain ⟨vs', hvs', h⟩ := bind_eq_ok.mp h
    cases h
    intro w hw
    rcases List.mem_cons.mp hw with rfl | hw
    · exact ⟨d, List.mem_cons_self, hv⟩
    · obtain ⟨d', hd', hjson⟩ := ih hvs' w hw
      exact ⟨d', List.mem_cons_of_mem _ hd', hjson⟩

theorem distinct_jsonFields? {fields : List (Option String × Draft)}
    (hfields : ∀ e ∈ fields, ∀ v, e.2.json? = .ok v → v.Distinct) {done fs : List (String × Json)}
    (hdone : (Json.record done).Distinct) (h : jsonFields? done fields = .ok fs) : (Json.record fs).Distinct := by
  induction fields generalizing done with
  | nil =>
    cases h
    exact hdone
  | cons e rest ih =>
    obtain ⟨hd, hrest⟩ := List.forall_mem_cons.mp hfields
    rcases e with ⟨- | name, d⟩
    · cases h
    rw [jsonFields?] at h
    obtain ⟨v, hv, h⟩ := bind_eq_ok.mp h
    exact ih hrest (hdone.put name (hd v hv)) h

/-- The value of a draft gives no two fields one name. -/
theorem Distinct.json? {d : Draft} (hd : d.Distinct) {v : Json} (h : d.json? = .ok v) : v.Distinct := by
  induction hd generalizing v with
  | value hv =>
    cases h
    exact hv
  | @list items gap _ ih =>
    rw [Draft.json?] at h
    obtain ⟨vs, hvs, h⟩ := bind_eq_ok.mp h
    cases gap with
    | some fault => cases h
    | none =>
      cases h
      refine .list fun w hw => ?_
      obtain ⟨d, hd, hjson⟩ := mem_jsons? hvs w hw
      exact ih d hd hjson
  | @record fields gap _ ih =>
    rw [Draft.json?] at h
    obtain ⟨fs, hfs, h⟩ := bind_eq_ok.mp h
    cases gap with
    | some fault => cases h
    | none =>
      cases h
      have hnothing : (Json.record []).Distinct := .record List.nodup_nil (by simp)
      exact distinct_jsonFields? (fun e he w hw => ih e he hw) hnothing hfs
  | broken reading skipping => cases h
  | flawed inner => cases h

/-- Any value that is read gives no two fields one name. -/
theorem Distinct.read_json {d : Draft} (hd : d.Distinct) {v : Json} (h : Reader.json d = .ok v) : v.Distinct := by
  unfold Reader.json at h
  split at h
  · next w hw =>
    cases h
    exact hd.json? hw
  · cases h

theorem Distinct.fields? {d : Draft} (hd : d.Distinct) {fs : Parts (Option String × Draft)} (hfs : fs ∈ d.fields?) :
    ∀ e ∈ fs.parts, e.2.Distinct := by
  cases hd with
  | @value v hv =>
    cases v with
    | record fields =>
      cases hfs
      intro e he
      obtain ⟨f, hf, rfl⟩ := List.mem_map.mp he
      exact .value (hv.values (lookup_of_mem hv.names hf))
    | _ => cases hfs
  | record h =>
    cases hfs
    exact h
  | _ => cases hfs

theorem Distinct.items? {d : Draft} (hd : d.Distinct) {ds : Parts Draft} (hds : ds ∈ d.items?) :
    ∀ e ∈ ds.parts, e.Distinct := by
  cases hd with
  | @value v hv =>
    cases hv with
    | list hitems =>
      cases hds
      intro e he
      obtain ⟨w, hw, rfl⟩ := List.mem_map.mp he
      exact .value (hitems w hw)
    | _ => cases hds
  | list h =>
    cases hds
    exact h
  | _ => cases hds

end Draft

/-! ## Putting lexemes together -/

def Frame.Distinct : Frame → Prop
  | .list done => ∀ d ∈ done, d.Distinct
  | .record done _ => ∀ e ∈ done, e.2.Distinct

theorem Frame.distinct_take {f : Frame} (hf : f.Distinct) {d : Draft} (hd : d.Distinct) : (f.take d).Distinct := by
  cases f with
  | list done => exact List.forall_mem_cons.mpr ⟨hd, hf⟩
  | record done name => exact List.forall_mem_cons.mpr ⟨hd, hf⟩

theorem Frame.distinct_close {f : Frame} (hf : f.Distinct) (around : Nat) (gap : Option Fault) :
    (f.close around gap).Distinct := by
  have hflawed : ∀ d : Draft, d.Distinct → (if depthLimit ≤ around + 1 then d.flawed else d).Distinct := by
    intro d hd
    split
    · exact .flawed d
    · exact hd
  cases f with
  | list done => exact hflawed _ (.list fun d hd => hf d (List.mem_reverse.mp hd))
  | record done name => exact hflawed _ (.record fun e he => hf e (List.mem_reverse.mp he))

theorem distinct_abandon {d : Draft} (hd : d.Distinct) {frames : List Frame} (hframes : ∀ f ∈ frames, f.Distinct) :
    (abandon d frames).Distinct := by
  induction frames generalizing d with
  | nil => exact hd
  | cons f around ih =>
    obtain ⟨hf, haround⟩ := List.forall_mem_cons.mp hframes
    exact ih (Frame.distinct_close (Frame.distinct_take hf hd) _ _) haround

theorem distinct_abandonGap (fault : Fault) {frames : List Frame} (hframes : ∀ f ∈ frames, f.Distinct) :
    (abandonGap fault frames).Distinct := by
  cases frames with
  | nil => exact Draft.distinct_torn fault
  | cons f around =>
    obtain ⟨hf, haround⟩ := List.forall_mem_cons.mp hframes
    exact distinct_abandon (Frame.distinct_close hf _ _) haround

theorem Turn.distinct_atEnd (turn : Turn) {frames : List Frame} (hframes : ∀ f ∈ frames, f.Distinct) :
    (turn.atEnd frames).Distinct := by
  unfold atEnd
  split
  · exact distinct_abandon (Draft.distinct_torn _) hframes
  · exact distinct_abandon (Draft.distinct_torn _) hframes
  · exact distinct_abandonGap _ hframes
  · exact distinct_abandonGap _ hframes

theorem Turn.distinct_atOther (turn : Turn) {frames : List Frame} (hframes : ∀ f ∈ frames, f.Distinct) :
    (turn.atOther frames).Distinct := by
  unfold atOther
  split
  · exact distinct_abandon (Draft.distinct_torn _) hframes
  · exact distinct_abandon (Draft.distinct_torn _) hframes
  · exact distinct_abandonGap _ hframes
  · exact distinct_abandonGap _ hframes

def Lexeme.Distinct : Lexeme → Prop
  | .word d => d.Distinct
  | _ => True

/-- Each lexeme is passed on, opens, closes or fills the innermost container, or ends the document. -/
theorem distinct_assemble {ls : List Lexeme} (hls : ∀ l ∈ ls, l.Distinct) {turn : Turn} {frames : List Frame}
    (hframes : ∀ f ∈ frames, f.Distinct) : (assemble turn frames ls).root.Distinct := by
  induction ls generalizing turn frames with
  | nil =>
    rw [assemble]
    exact turn.distinct_atEnd hframes
  | cons l rest ih =>
    obtain ⟨hl, hrest⟩ := List.forall_mem_cons.mp hls
    have hnext : ∀ {turn frames}, (∀ f ∈ frames, f.Distinct) → (assemble turn frames rest).root.Distinct := ih hrest
    have hhand : ∀ {d : Draft} {f : Frame} {around : List Frame}, d.Distinct → (∀ g ∈ f :: around, g.Distinct) →
        (assemble .next (f.take d :: around) rest).root.Distinct := by
      intro d f around hd hframes
      obtain ⟨hf, haround⟩ := List.forall_mem_cons.mp hframes
      exact hnext (List.forall_mem_cons.mpr ⟨Frame.distinct_take hf hd, haround⟩)
    have hend : ∀ {turn : Turn} {f : Frame} {around : List Frame}, (∀ g ∈ f :: around, g.Distinct) →
        (if f.endsWith l then assemble.shut f around rest
          else (⟨turn.atOther (f :: around), false⟩ : Document)).root.Distinct := by
      intro turn f around hframes
      obtain ⟨hf, haround⟩ := List.forall_mem_cons.mp hframes
      split
      · unfold assemble.shut
        cases around with
        | nil => exact Frame.distinct_close hf 0 none
        | cons g around => exact hhand (Frame.distinct_close hf _ _) haround
      · exact turn.distinct_atOther hframes
    -- Every way on is covered by `hnext`, `hhand` or `hend`; every other one ends the document.
    unfold assemble
    split
    · exact hnext (List.forall_mem_cons.mpr ⟨by simp [Frame.Distinct], hframes⟩)
    · exact hnext (List.forall_mem_cons.mpr ⟨by simp [Frame.Distinct], hframes⟩)
    · split
      · exact distinct_abandon hl hframes
      · exact hl
      · exact hhand hl hframes
    · next s =>
      cases s with
      | some s =>
        cases frames with
        | nil => exact .value (.text s)
        | cons f around => exact hhand (.value (.text s)) hframes
      | none =>
        cases frames with
        | nil => exact .flawed _
        | cons f around => exact hhand (.flawed _) hframes
    · exact distinct_abandon (.broken _ _) hframes
    · exact hend hframes
    · obtain ⟨hf, haround⟩ := List.forall_mem_cons.mp hframes
      exact hnext (List.forall_mem_cons.mpr ⟨hf, haround⟩)
    · split
      · exact distinct_abandonGap _ hframes
      · exact distinct_abandon (.broken _ _) hframes
    · exact hend hframes
    · exact hnext hframes
    · exact hnext hframes
    · exact hend hframes
    · exact Turn.distinct_atOther _ hframes

/-! ## Lexemes -/

namespace Lexeme

theorem distinct_scanText (sound : Bool) (done cs : List Char) : (scanText sound done cs).1.Distinct := by
  induction sound, done, cs using scanText.induct with
  | _ => unfold scanText; grind [Distinct, tornAfter]

theorem distinct_scanWord (word : String) {v : Json} (hv : v.Distinct) (cs : List Char) :
    (scanWord word v cs).1.Distinct := by
  unfold scanWord
  split
  · exact .value hv
  · exact Draft.distinct_torn _

theorem distinct_missingDigits (cs : List Char) : (missingDigits cs).Distinct := by
  unfold missingDigits
  split
  · exact .broken _ _
  · exact Draft.distinct_torn _

theorem distinct_realNumber (negative : Bool) (digits : Nat) (exponent : Int) :
    (realNumber negative digits exponent).Distinct := by
  unfold realNumber
  dsimp only
  split
  · exact .value (.number _)
  · exact .flawed _

theorem distinct_finish (negative : Bool) (digits : List Char) : (scanExponent.finish negative digits).Distinct := by
  unfold scanExponent.finish
  split
  · exact .value (.number _)
  · split
    · exact .value (.number _)
    · exact .flawed _

theorem distinct_scanExponent (negative : Bool) (digits : List Char) (places : Nat) (written : Bool)
    (cs : List Char) : (scanExponent negative digits places written cs).1.Distinct := by
  have hplain : ∀ rest : List Char, (if written then
      (realNumber negative (Decimal.digitsValue digits) (-places), rest)
      else (scanExponent.finish negative digits, rest)).1.Distinct := by
    intro rest
    split
    · exact distinct_realNumber _ _ _
    · exact distinct_finish _ _
  unfold scanExponent
  split
  · split
    · dsimp only
      split
      · exact distinct_missingDigits _
      · exact distinct_realNumber _ _ _
    · exact hplain _
  · exact hplain _

theorem distinct_scanNumber (cs : List Char) : (scanNumber cs).1.Distinct := by
  unfold scanNumber
  dsimp only
  split
  · exact distinct_missingDigits _
  · exact Draft.distinct_torn _
  · split
    · split
      · exact distinct_missingDigits _
      · exact distinct_scanExponent _ _ _ _ _
    · exact distinct_scanExponent _ _ _ _ _

theorem distinct_scan (c : Char) (rest : List Char) : (scan c rest).1.Distinct := by
  unfold scan
  split
  · exact distinct_scanText _ _ _
  · dsimp only [Distinct]
    split
    · exact distinct_scanWord _ .null _
    · split
      · exact distinct_scanWord _ (.bool true) _
      · split
        · exact distinct_scanWord _ (.bool false) _
        · split
          · exact distinct_scanNumber _
          · exact Draft.distinct_torn _

theorem distinct_mark? {c : Char} {l : Lexeme} (h : mark? c = some l) : l.Distinct := by
  unfold mark? at h
  split at h <;> cases h <;> trivial

theorem distinct_lexWithin (fuel : Nat) (cs : List Char) : ∀ l ∈ lexWithin fuel cs, l.Distinct := by
  induction fuel generalizing cs with
  | zero => simp [lexWithin]
  | succ fuel ih =>
    cases cs with
    | nil => simp [lexWithin]
    | cons c rest =>
      rw [lexWithin]
      split
      · exact ih rest
      · split
        · next l hmark => exact List.forall_mem_cons.mpr ⟨distinct_mark? hmark, ih rest⟩
        · exact List.forall_mem_cons.mpr ⟨distinct_scan c rest, ih _⟩

end Lexeme

/-! ## Whole texts -/

theorem distinct_ofText (s : String) : (Document.ofText s).root.Distinct :=
  distinct_assemble (Lexeme.distinct_lexWithin _ _) (by simp)

/-- What a whole text holds is read off the document in it. -/
theorem Reader.read_of_ofText {α : Type} {r : Reader α} {s : String} {a : α} (h : Reader.ofText r s = .ok a) :
    r (Document.ofText s).root = .ok a := by
  obtain ⟨b, hb, h⟩ := bind_eq_ok.mp h
  split at h
  · cases h
  · cases h
    exact hb

/-- The value of a whole text gives no two fields one name. -/
theorem Json.distinct_ofText? {s : String} {v : Json} (h : ofText? s = .ok v) : v.Distinct := by
  obtain ⟨w, hw, h⟩ := bind_eq_ok.mp h
  split at h
  · cases h
  · cases h
    exact (distinct_ofText s).json? hw

end RetreatDesk
