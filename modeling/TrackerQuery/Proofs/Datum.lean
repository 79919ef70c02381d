import TrackerQuery.Datum.Basic

/-!
# TrackerQuery.Proofs.Datum

Laws of **dictionaries** of loosely typed values.

A key that is a text is the same key as each value that is that text and as no other
(`sameKey_text`). So a name that is set has its value, and the other names keep theirs.
-/

namespace TrackerQuery.Datum

theorem sameKey_text (k : Datum) (name : Text) :
    sameKey k (text name) = (k.asText? == some name) := by
  cases k with
  | float x =>
      cases x with
      | finite s m e =>
          -- a number is the same key as a number only, whole or not
          have hkey : keyNumber? (text name) = none := rfl
          have htext : asText? (float (.finite s m e)) = none := rfl
          simp only [sameKey, hkey, htext]
          cases keyNumber? (float (.finite s m e)) <;> rfl
      | _ => rfl
  | _ => rfl

theorem exists_mem_of_lookup {key v : Datum} {entries : List (Datum × Datum)}
    (h : lookup key entries = some v) : ∃ k, (k, v) ∈ entries := by
  induction entries with
  | nil => cases h
  | cons e rest ih =>
      obtain ⟨k, w⟩ := e
      rw [lookup] at h
      split at h
      · obtain rfl := Option.some.inj h
        exact ⟨k, List.mem_cons_self⟩
      · obtain ⟨k', hk'⟩ := ih h
        exact ⟨k', List.mem_cons_of_mem _ hk'⟩

theorem lookupText_insert_self (name : Text) (v : Datum) (entries : List (Datum × Datum)) :
    lookupText name (insert (text name) v entries) = some v := by
  unfold lookupText
  induction entries with
  | nil => simp [insert, lookup, sameKey_text, asText?]
  | cons e rest ih =>
      obtain ⟨k, w⟩ := e
      rw [insert]
      split
      · next hk => rw [lookup, if_pos hk]
      · next hk => rw [lookup, if_neg hk, ih]

theorem lookupText_insert_of_ne {name other : Text} (h : name ≠ other) (v : Datum)
    (entries : List (Datum × Datum)) :
    lookupText other (insert (text name) v entries) = lookupText other entries := by
  unfold lookupText
  induction entries with
  | nil => simp [insert, lookup, sameKey_text, asText?, h]
  | cons e rest ih =>
      obtain ⟨k, w⟩ := e
      rw [insert]
      split
      · next hk =>
          have hother : sameKey k (text other) = false := by
            rw [sameKey_text, beq_iff_eq] at hk
            rw [sameKey_text, hk]
            simpa using h
          rw [lookup, lookup, hother]
          rfl
      · next hk => rw [lookup, lookup, ih]

theorem insert_ne_nil (key v : Datum) (entries : List (Datum × Datum)) :
    insert key v entries ≠ [] := by
  cases entries with
  | nil => exact List.cons_ne_nil _ _
  | cons e rest =>
      rw [insert]
      split <;> exact List.cons_ne_nil _ _

end TrackerQuery.Datum
