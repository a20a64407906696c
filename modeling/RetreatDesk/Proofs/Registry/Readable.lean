import RetreatDesk.Registry.Snapshot
import RetreatDesk.Proofs.Reading.Items
import RetreatDesk.Proofs.Reading.Layout

/-!
# What stands in a snapshot

* `Snapshot.Readable`: every record has been read from some value.
* `Snapshot.readable_of_read`: so it is with every snapshot, whatever document it comes of.
-/

namespace RetreatDesk.Snapshot

/-- Every record of the snapshot has been read from some value. -/
structure Readable (s : Snapshot) : Prop where
  participants : ∀ p ∈ s.participants, ∃ v, Participant.layout.read (.value v) = .ok p
  events : ∀ e ∈ s.events, ∃ v, Event.layout.read (.value v) = .ok e
  pools : ∀ p ∈ s.pools, ∃ v, Pool.layout.read (.value v) = .ok p
  views : ∀ w ∈ s.views, ∃ v, View.layout.read (.value v) = .ok w

theorem readable_take {s s' : Snapshot} {k : String} {d : Draft} (hs : s.Readable) (h : layout.take s k d = .ok s') :
    s'.Readable := by
  unfold Layout.take at h
  split at h
  · simp only [layout] at h
    split at h
    · obtain ⟨ps, hps, h⟩ := bind_eq_ok.mp h
      cases h
      exact { hs with participants := fun p hp => Reader.readable_of_mem_sound hps hp }
    · obtain ⟨es, hes, h⟩ := bind_eq_ok.mp h
      cases h
      exact { hs with events := fun e he => Reader.readable_of_mem_sound hes he }
    · obtain ⟨ps, hps, h⟩ := bind_eq_ok.mp h
      cases h
      exact { hs with pools := fun p hp => Reader.readable_of_mem_sound hps hp }
    · obtain ⟨vs, hvs, h⟩ := bind_eq_ok.mp h
      cases h
      exact { hs with views := fun v hv => Reader.readable_of_mem_sound hvs hv }
    · cases h
      exact hs
  · obtain ⟨-, -, h⟩ := bind_eq_ok.mp h
    cases h
    exact hs

/-- Every record of a snapshot has been read from some value, even if the document as a whole is none. -/
theorem readable_of_read {doc : Draft} {s : Snapshot} (h : layout.read doc = .ok s) : s.Readable := by
  have hblank : layout.blank.Readable := by constructor <;> rintro x ⟨⟩
  exact layout.read_invariant (Q := fun _ => True) (fun _ hs ht => readable_take hs ht) (fun _ _ _ _ => trivial)
    (fun _ _ _ _ => trivial) hblank h

end RetreatDesk.Snapshot
