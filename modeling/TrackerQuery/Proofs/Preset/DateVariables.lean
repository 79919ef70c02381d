import TrackerQuery.Proofs.Calendar.Iso
import TrackerQuery.Proofs.Preset.Expansion

/-!
# TrackerQuery.Proofs.Preset.DateVariables

What the **date placeholders** say of a reference day.

A day that has a following one has a window (`IsWindow`): the day itself, the day after it
and the Monday of its week, each as a text of ten characters that reads as that day. The
three texts are in the order of the three days, which is what the comparison of date
literals as texts relies on. On the last day of the calendar there is no window, on the
first one there is (`dateVariables_isWindow`).
-/

namespace TrackerQuery.Preset

/-- Holds of the texts of ten characters that read as a day. -/
def IsIso (t : Text) (d : Day) : Prop :=
  t.length = 10 ∧ Day.ofIso? t = some d

theorem isIso_iso (d : Day) : IsIso d.iso d :=
  ⟨d.length_iso, d.ofIso?_iso⟩

namespace DateVariables

/-- What the date placeholders have to say of a day. -/
structure IsWindow (v : DateVariables) (day : Day) : Prop where
  /-- The day is named. -/
  today_iso : IsIso v.today day
  /-- So is the day with none between. -/
  tomorrow_iso : ∃ next, day ⋖ next ∧ IsIso v.tomorrow next
  /-- So is the Monday at most six days before. -/
  weekStart_iso : ∃ monday, day.IsInWeekOf monday ∧ IsIso v.weekStart monday
  /-- The week does not start behind the day, as text. -/
  weekStart_le : v.weekStart ≤ v.today
  /-- The day is over before the next one, as text. -/
  today_lt : v.today < v.tomorrow

end DateVariables

theorem isWindow_of_dateVariables {day : Day} {v : DateVariables}
    (h : dateVariables day = .ok v) : v.IsWindow day := by
  obtain ⟨next, monday, hnext, hmonday, rfl⟩ := dateVariables_eq_ok.mp h
  have hcover := Day.next?_eq_some_iff_covBy.mp hnext
  have hweek := Day.weekStart?_eq_some_iff.mp hmonday
  exact {
    today_iso := isIso_iso day
    tomorrow_iso := ⟨next, hcover, isIso_iso next⟩
    weekStart_iso := ⟨monday, hweek, isIso_iso monday⟩
    weekStart_le := Day.iso_le_iso hweek.2.1
    today_lt := Day.iso_lt_iso hcover.1 }

/-- Two days have the same start of the week exactly if they are days of one week. -/
theorem weekStart_eq_iff {day other : Day} {v w : DateVariables} (h : dateVariables day = .ok v)
    (h' : dateVariables other = .ok w) : v.weekStart = w.weekStart ↔ day.IsSameWeek other := by
  obtain ⟨next, monday, hnext, hmonday, rfl⟩ := dateVariables_eq_ok.mp h
  obtain ⟨next', monday', hnext', hmonday', rfl⟩ := dateVariables_eq_ok.mp h'
  constructor
  · intro hiso
    obtain rfl : monday = monday' := Day.iso_injective hiso
    exact ⟨monday, Day.weekStart?_eq_some_iff.mp hmonday, Day.weekStart?_eq_some_iff.mp hmonday'⟩
  · rintro ⟨start, hday, hother⟩
    rw [Day.weekStart?_eq_some_iff.mpr hday] at hmonday
    rw [Day.weekStart?_eq_some_iff.mpr hother, hmonday] at hmonday'
    obtain rfl := Option.some.inj hmonday'
    rfl

/-- The text of the following day is what that day has for itself. -/
theorem tomorrow_eq {day other : Day} {v w : DateVariables} (h : dateVariables day = .ok v)
    (h' : dateVariables other = .ok w) (hcover : day ⋖ other) : v.tomorrow = w.today := by
  obtain ⟨next, monday, hnext, hmonday, rfl⟩ := dateVariables_eq_ok.mp h
  obtain ⟨next', monday', hnext', hmonday', rfl⟩ := dateVariables_eq_ok.mp h'
  rw [Day.next?_eq_some_iff_covBy.mpr hcover] at hnext
  obtain rfl := Option.some.inj hnext
  rfl

/-- **Every day but the last has its window.** The placeholders fail on the last day of the
calendar and on no other, they say what a window of the day says, and they fit together from day
to day: what is tomorrow becomes today, and the start of the week stays for the week. -/
theorem dateVariables_isWindow (day : Day) :
    (∀ f, dateVariables day = .error f ↔ day = Day.last ∧ f = .dateOutOfRange) ∧
      (∀ v, dateVariables day = .ok v → v.IsWindow day) ∧
      ∀ other v w, dateVariables day = .ok v → dateVariables other = .ok w →
        (day ⋖ other → v.tomorrow = w.today) ∧
          (v.weekStart = w.weekStart ↔ day.IsSameWeek other) :=
  ⟨fun _ => dateVariables_eq_error, fun _ => isWindow_of_dateVariables,
    fun _ _ _ h h' => ⟨tomorrow_eq h h', weekStart_eq_iff h h'⟩⟩

/-- The 29th of February 2024, a Thursday, and the day after it. -/
theorem dateVariables_isWindow_leap :
    let day : Day := ⟨2024, 2, 29, by decide⟩
    let other : Day := ⟨2024, 3, 1, by decide⟩
    let v : DateVariables := ⟨"2024-02-29".toText, "2024-03-01".toText, "2024-02-26".toText⟩
    let w : DateVariables := ⟨"2024-03-01".toText, "2024-03-02".toText, "2024-02-26".toText⟩
    dateVariables day = .ok v ∧ dateVariables other = .ok w ∧ v.IsWindow day ∧
      day.IsSameWeek other := by
  intro day other v w
  have hv : dateVariables day = .ok v := by cbv
  have hw : dateVariables other = .ok w := by cbv
  obtain ⟨-, hwindow, hdays⟩ := dateVariables_isWindow day
  exact ⟨hv, hw, hwindow v hv, (hdays other v w hv hw).2.mp rfl⟩

end TrackerQuery.Preset
