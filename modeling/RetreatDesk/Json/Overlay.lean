import RetreatDesk.Json.Basic

/-!
# Laying a change over a value

* `overlay`: a record laid over a value, field by field wherever both sides hold records; any other
  incoming value takes the place of what was there.
* `overlay_keys`: the names of the result are the old ones in order, then the new ones in order.
-/

namespace RetreatDesk.Json

mutual

/-- The value at a field, given what the field held before. -/
def settle (current : Option Json) : Json → Json
  | .null => .null
  | .bool b => .bool b
  | .number n => .number n
  | .text s => .text s
  | .list items => .list items
  | .record changes =>
    match current with
    | some (.record fields) => .record (overlayFields fields changes)
    | _ => .record changes

/-- The fields with each change settled in its place. -/
def overlayFields (fields : List (String × Json)) : List (String × Json) → List (String × Json)
  | [] => fields
  | (name, incoming) :: rest =>
    overlayFields (put name (settle (fields.lookup name) incoming) fields) rest

end

/-- The record of changes laid over a value. A value that is no record counts as an empty one. -/
def overlay (target : Json) (changes : List (String × Json)) : Json :=
  .record (overlayFields target.fields changes)

/-- The names in `new` that are not in `old` yet, each once, in order. -/
def freshNames (old : List String) : List String → List String
  | [] => []
  | n :: rest => if n ∈ old then freshNames old rest else n :: freshNames (old ++ [n]) rest

/-- The old names come first, in order, then the new ones. -/
theorem overlay_keys (fields changes : List (String × Json)) :
    keysOf (overlayFields fields changes) =
      keysOf fields ++ freshNames (keysOf fields) (keysOf changes) := by
  induction changes generalizing fields with
  | nil => simp [overlayFields, keysOf, freshNames]
  | cons e rest ih =>
    obtain ⟨name, incoming⟩ := e
    rw [overlayFields, ih, keys_put]
    have hkeys : keysOf ((name, incoming) :: rest) = name :: keysOf rest := rfl
    rw [hkeys, freshNames]
    split
    · rfl
    · simp

end RetreatDesk.Json
