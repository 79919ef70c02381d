import TrackerQuery.Proofs.Calendar.Day
import TrackerQuery.Proofs.Preset.Shape

/-!
# TrackerQuery.Proofs.Preset.Expansion

How the **expansion of a preset** ends.

What is expanded is never blank, since each preset is made of conditions. An expansion
fails because of the options, or else because the reference day is the last one of the
calendar: the day after it is needed then by every preset that there is, with or without
a placeholder for it (`expand_last`, `expand_eq_error`). In the same way a variable that has
too many digits to be written fails every preset (`exists_expand_of_not_areWritable`).
-/

namespace TrackerQuery.Preset

open Template (Form presetNames ofPreset?)

theorem dateVariables_eq_error {today : Day} {f : Fault} :
    dateVariables today = .error f ↔ today = Day.last ∧ f = .dateOutOfRange := by
  obtain ⟨monday, hmonday⟩ := today.exists_weekStart
  rw [dateVariables, hmonday, ← Day.next?_eq_none]
  cases today.next? with
  | none => simp [eq_comm]
  | some tomorrow => simp

theorem dateVariables_eq_ok {today : Day} {dates : DateVariables} :
    dateVariables today = .ok dates ↔ ∃ tomorrow monday, today.next? = some tomorrow ∧
      today.weekStart? = some monday ∧ dates = ⟨today.iso, tomorrow.iso, monday.iso⟩ := by
  rw [dateVariables]
  cases today.next? <;> cases today.weekStart? <;> simp [eq_comm]

theorem exists_dateVariables {today : Day} (h : today ≠ Day.last) :
    ∃ dates, dateVariables today = .ok dates := by
  cases hdates : dateVariables today with
  | ok dates => exact ⟨dates, rfl⟩
  | error f => exact absurd (dateVariables_eq_error.mp hdates).1 h

theorem mem_presetNames {name : Text} :
    name ∈ presetNames ↔ ∃ template, ofPreset? name = some template := by
  rw [← Option.isSome_iff_exists, ofPreset?, List.lookup_isSome_iff, presetNames]
  simp

section Limits

variable [Limits]

/-- What is expanded is never blank. -/
theorem isAllBlank_of_expand {name text : Text} {bindings : Datum} {today : Day}
    (h : (expand name bindings today).outcome = .ok text) : Text.isAllBlank text = false := by
  obtain ⟨template, ht, rfl, -⟩ := expand_eq_ok h
  obtain ⟨forms, hforms⟩ := Template.exists_hasForms ht
  obtain ⟨f, fs, rfl⟩ := List.exists_cons_of_ne_nil hforms.ne_nil
  obtain ⟨t, ht⟩ := Form.fillAll_eq_append (valueIn bindings today) f fs
  rw [hforms.fill_eq, ht]
  exact Text.isAllBlank_append (Form.isAllBlank_fill (hforms.sound f List.mem_cons_self)) t

theorem ne_nil_of_expand {name text : Text} {bindings : Datum} {today : Day}
    (h : (expand name bindings today).outcome = .ok text) : text ≠ [] := by
  rintro rfl
  exact absurd (isAllBlank_of_expand h) (by decide)

/-- On the last day every preset fails for that reason. -/
theorem expand_last {name : Text} (h : name ∈ presetNames) (bindings : Datum) :
    (expand name bindings Day.last).outcome = .error .dateOutOfRange := by
  obtain ⟨template, ht⟩ := mem_presetNames.mp h
  rw [expand, ht]
  rfl

/-- The stages of an expansion that are left when the day has one after it and the variables are
given as entries. -/
theorem expand_eq_written {name : Text} {template : Template}
    (ht : ofPreset? name = some template) {bindings : Datum} {given : List (Datum × Datum)}
    {today : Day} {dates : DateVariables} (hgiven : callerEntries bindings = .ok given)
    (hdates : dateVariables today = .ok dates) :
    expand name bindings today = (do
      let texts ← Traced.ofExcept (writtenEntries given)
      let text ← Traced.ofChecked (template.expand name (value? texts dates))
      Traced.log .debug .presets
        ("Expanded preset ".toText ++ name ++ " to ".toText ++ Text.inspect text)
      return text) := by
  rw [expand, ht, hgiven, hdates]
  rfl

theorem expand_eq {name : Text} {template : Template} (ht : ofPreset? name = some template)
    {bindings : Datum} {given : List (Datum × Datum)} {today : Day} {dates : DateVariables}
    (hgiven : callerEntries bindings = .ok given) (hdates : dateVariables today = .ok dates)
    (hw : AreWritable given) :
    expand name bindings today =
      (Traced.ofChecked (template.expand name (givenValue? given dates)) >>= fun text => do
        Traced.log .debug .presets
          ("Expanded preset ".toText ++ name ++ " to ".toText ++ Text.inspect text)
        return text) := by
  obtain ⟨-, htexts⟩ | ⟨hnot, -⟩ := writtenEntries_cases given
  · rw [expand_eq_written ht hgiven hdates, ← value?_eq htexts, htexts]
    rfl
  · exact absurd hw hnot

/-- If a variable has too many digits, every preset fails for that reason, without a record. -/
theorem exists_expand_of_not_areWritable {name : Text} {template : Template}
    (ht : ofPreset? name = some template) {bindings : Datum} {given : List (Datum × Datum)}
    {today : Day} (hgiven : callerEntries bindings = .ok given) (hday : today ≠ Day.last)
    (hw : ¬AreWritable given) :
    ∃ f, expand name bindings today = Traced.fail f ∧ Datum.IsLongNumber f := by
  obtain ⟨dates, hdates⟩ := exists_dateVariables hday
  obtain ⟨hyes, -⟩ | ⟨-, f, hf, hlong⟩ := writtenEntries_cases given
  · exact absurd hyes hw
  · refine ⟨f, ?_, hlong⟩
    rw [expand_eq_written ht hgiven hdates, hf]
    rfl

/-- Expanding a reference leaves no expression empty, and makes none of nothing. -/
theorem resolve_empty_iff {expression resolved : Option Text} {bindings : Datum} {today : Day}
    (h : (resolve expression bindings today).outcome = .ok resolved) :
    resolved = none ∨ resolved = some [] ↔ expression = none ∨ expression = some [] := by
  cases expression with
  | none =>
      cases h
      rfl
  | some t =>
      rw [resolve] at h
      cases hname : reference? t with
      | none =>
          rw [hname] at h
          cases h
          rfl
      | some name =>
          rw [hname] at h
          obtain ⟨expanded, hexpand, h⟩ := Traced.outcome_bind_eq_ok.mp h
          cases h
          have hne : t ≠ [] := by
            rintro rfl
            cases hname
          simp [ne_nil_of_expand hexpand, hne]

end Limits

end TrackerQuery.Preset
