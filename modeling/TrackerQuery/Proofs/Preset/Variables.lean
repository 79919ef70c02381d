import TrackerQuery.Preset.Expansion
import TrackerQuery.Proofs.Datum
import TrackerQuery.Proofs.Datum.Limit

/-!
# TrackerQuery.Proofs.Preset.Variables

The **variables of a preset** as texts.

All of them are written before the template is looked at. If they can be
(`AreWritable`), the text of a placeholder is that of the value that is given for it, or its
default (`value?_eq`); otherwise there is no text at all, whether or not the template asks for
the variable in question.
-/

namespace TrackerQuery

namespace Datum

theorem lookupText_map {α β : Type} (name : Text) (f : α → β) (entries : List (Datum × α)) :
    lookupText name (entries.map fun e => (e.1, f e.2)) = (lookupText name entries).map f := by
  unfold lookupText
  induction entries with
  | nil => rfl
  | cons e rest ih =>
      rw [List.map_cons, lookup, lookup, ih]
      split <;> rfl

end Datum

namespace Preset

variable [Limits]

/-- Holds of variables whose values can all be written as texts. -/
def AreWritable (given : List (Datum × Datum)) : Prop :=
  ∀ e ∈ given, e.2.IsWritable

/-- A variable that is set to a value that can be written does not spoil the others. -/
theorem AreWritable.insert {given : List (Datum × Datum)} (h : AreWritable given) (key : Datum)
    {value : Datum} (hvalue : value.IsWritable) :
    AreWritable (Datum.insert key value given) := by
  induction given with
  | nil => exact List.forall_mem_singleton.mpr hvalue
  | cons e rest ih =>
      obtain ⟨hfirst, hrest⟩ := List.forall_mem_cons.mp h
      rw [Datum.insert]
      split
      · exact List.forall_mem_cons.mpr ⟨hvalue, hrest⟩
      · exact List.forall_mem_cons.mpr ⟨hfirst, ih hrest⟩

/-- Variables are written as their texts, or one of them has too many digits for that. -/
theorem writtenEntries_cases (given : List (Datum × Datum)) :
    (AreWritable given ∧ writtenEntries given = .ok (given.map fun e => (e.1, e.2.toText))) ∨
      (¬AreWritable given ∧ ∃ f, writtenEntries given = .error f ∧ Datum.IsLongNumber f) := by
  induction given with
  | nil => exact .inl ⟨nofun, rfl⟩
  | cons e rest ih =>
      obtain ⟨key, value⟩ := e
      rw [AreWritable, List.forall_mem_cons, writtenEntries]
      cases hw : value.written with
      | error f =>
          obtain ⟨hvalue, hf⟩ := Datum.written_eq_error hw
          exact .inr ⟨fun h => hvalue h.1, f, rfl, hf⟩
      | ok t =>
          obtain ⟨hvalue, rfl⟩ := Datum.written_eq_ok.mp hw
          obtain ⟨hrest, htexts⟩ | ⟨hrest, f, hf, hlong⟩ := ih
          · rw [htexts]
            exact .inl ⟨⟨hvalue, hrest⟩, rfl⟩
          · rw [hf]
            exact .inr ⟨fun h => hrest h.2, f, rfl, hlong⟩

theorem areWritable_of_writtenEntries {given : List (Datum × Datum)} {texts : List (Datum × Text)}
    (h : writtenEntries given = .ok texts) :
    AreWritable given ∧ texts = given.map fun e => (e.1, e.2.toText) := by
  obtain ⟨hgiven, hok⟩ | ⟨-, f, hf, -⟩ := writtenEntries_cases given
  · exact ⟨hgiven, Except.ok.inj (h.symm.trans hok)⟩
  · rw [hf] at h
    cases h

/-- The text of a placeholder for variables as they are given. -/
def givenValue? (given : List (Datum × Datum)) (dates : DateVariables) (name : Text) :
    Option Text :=
  match Datum.lookupText name given with
  | some d => some d.toText
  | none => dates.entries.lookup name

theorem value?_eq {given : List (Datum × Datum)} {texts : List (Datum × Text)}
    (h : writtenEntries given = .ok texts) (dates : DateVariables) :
    value? texts dates = givenValue? given dates := by
  obtain ⟨-, rfl⟩ := areWritable_of_writtenEntries h
  funext name
  rw [value?, givenValue?, Datum.lookupText_map]
  cases Datum.lookupText name given <;> rfl

end Preset

end TrackerQuery
