import TrackerQuery.Calendar.Moment
import TrackerQuery.Proofs.Calendar.Order

/-!
# TrackerQuery.Proofs.Calendar.Moment

The **day of an instant**.

An instant counts microseconds, and the days of the range cut the line of instants into
pieces of equal length (`Day.Holds`). The day in universal time of a moment with an offset
is the day that holds its instant (`utcDay?_eq_some_iff`): a clock shows less than a day and
an offset is less than a day, so the instant is at most one step away from the day that the
local calendar shows. It follows that the day depends on the instant alone, and is missing
exactly for the instants outside the range (`utcDay?_eq_none_iff`).
-/

namespace TrackerQuery

/-! ### Days and instants -/

/-- The instant at which a day starts in universal time. -/
def Day.start (d : Day) : Int :=
  (d.ordinal : Int) * dayMicros

/-- Holds of the instants of a day in universal time. -/
def Day.Holds (d : Day) (t : Int) : Prop :=
  d.start ≤ t ∧ t < d.start + dayMicros

/-- Holds of the instants from the start of the first day to the end of the last one. -/
def IsOnCalendar (t : Int) : Prop :=
  Day.first.start ≤ t ∧ t < Day.last.start + dayMicros

theorem Day.start_mono {d e : Day} (h : d.ordinal ≤ e.ordinal) : d.start ≤ e.start := by
  unfold start dayMicros
  omega

theorem Day.Holds.isOnCalendar {d : Day} {t : Int} (h : d.Holds t) : IsOnCalendar t := by
  have hfirst : first.start ≤ d.start := start_mono d.ordinal_pos
  have hlast : d.start ≤ last.start := start_mono d.ordinal_le_last
  exact ⟨hfirst.trans h.1, by have := h.2; omega⟩

theorem Clock.micros_lt (c : Clock) : c.micros < dayMicros := by
  obtain ⟨hhour, hminute, hsecond, hmicro⟩ := c.valid
  unfold micros dayMicros
  omega

namespace Moment

/-- An instant is less than a day away from the day that the local calendar shows. -/
theorem instant_bounds (m : Moment) (o : Offset) :
    m.day.start - dayMicros < m.instant o ∧ m.instant o < m.day.start + 2 * dayMicros := by
  have hclock := m.clock.micros_lt
  obtain ⟨hlow, hhigh⟩ := o.bounded
  unfold instant Day.start
  omega

/-- The day in universal time is the day before if the instant lies in front of the local day, the
day after if it lies behind it, and else the local day. -/
theorem utcDay?_cases {m : Moment} {o : Offset} (h : m.offset = some o) :
    (m.instant o < m.day.start ∧ m.utcDay? = m.day.prev?) ∨
      (m.day.start + dayMicros ≤ m.instant o ∧ m.utcDay? = m.day.next?) ∨
      (m.day.Holds (m.instant o) ∧ m.utcDay? = some m.day) := by
  simp only [utcDay?, h, Day.Holds, Day.start, instant]
  by_cases hbefore : (m.clock.micros : Int) - o.micros < 0
  · rw [if_pos hbefore]
    exact Or.inl ⟨by omega, rfl⟩
  · rw [if_neg hbefore]
    by_cases hafter : (dayMicros : Int) ≤ m.clock.micros - o.micros
    · rw [if_pos hafter]
      exact Or.inr (Or.inl ⟨by omega, rfl⟩)
    · rw [if_neg hafter]
      exact Or.inr (Or.inr ⟨⟨by omega, by omega⟩, rfl⟩)

/-- The day in universal time is the day that holds the instant. -/
theorem utcDay?_eq_some_iff {m : Moment} {o : Offset} (h : m.offset = some o) {d : Day} :
    m.utcDay? = some d ↔ d.Holds (m.instant o) := by
  obtain ⟨hlow, hhigh⟩ := m.instant_bounds o
  rcases utcDay?_cases h with ⟨hbefore, hday⟩ | ⟨hafter, hday⟩ | ⟨hin, hday⟩
  · rw [hday, Day.prev?_eq_some_iff]
    unfold Day.Holds Day.start dayMicros at *
    omega
  · rw [hday, Day.next?_eq_some_iff]
    unfold Day.Holds Day.start dayMicros at *
    omega
  · rw [hday, Option.some.injEq]
    constructor
    · rintro rfl
      exact hin
    · intro hd
      refine Day.eq_of_ordinal_eq ?_
      unfold Day.Holds Day.start dayMicros at *
      omega

/-- Holds of the moments whose instant is on the calendar, and of those without an offset. -/
def IsWithinRange (m : Moment) : Prop :=
  ∀ o, m.offset = some o → IsOnCalendar (m.instant o)

/-- Holds of the moments whose local day is the day in universal time, and of those without an
offset. -/
def KeepsDay (m : Moment) : Prop :=
  ∀ o, m.offset = some o → m.day.Holds (m.instant o)

/-- There is no day in universal time exactly for the instants that are not on the calendar. -/
theorem utcDay?_eq_none_iff {m : Moment} : m.utcDay? = none ↔ ¬m.IsWithinRange := by
  cases ho : m.offset with
  | none => simp [utcDay?, IsWithinRange, ho]
  | some o =>
      have hwithin : m.IsWithinRange ↔ IsOnCalendar (m.instant o) := by simp [IsWithinRange, ho]
      rw [hwithin]
      constructor
      · rintro hnone ⟨hfirst, hlast⟩
        rcases utcDay?_cases ho with ⟨hbefore, hday⟩ | ⟨hafter, hday⟩ | ⟨hin, hday⟩
        · rw [hday, Day.prev?_eq_none] at hnone
          rw [hnone] at hbefore
          exact absurd hfirst (Int.not_le.mpr hbefore)
        · rw [hday, Day.next?_eq_none] at hnone
          rw [hnone] at hafter
          exact absurd hlast (Int.not_lt.mpr hafter)
        · rw [hday] at hnone
          cases hnone
      · intro hout
        cases hday : m.utcDay? with
        | none => rfl
        | some d => exact absurd ((utcDay?_eq_some_iff ho).mp hday).isOnCalendar hout

theorem exists_utcDay? {m : Moment} (h : m.IsWithinRange) : ∃ d, m.utcDay? = some d :=
  Option.ne_none_iff_exists'.mp fun hnone => utcDay?_eq_none_iff.mp hnone h

theorem utcDay?_eq_day_iff {m : Moment} : m.utcDay? = some m.day ↔ m.KeepsDay := by
  cases ho : m.offset with
  | none => simp [utcDay?, KeepsDay, ho]
  | some o =>
      rw [utcDay?_eq_some_iff ho]
      simp [KeepsDay, ho]

/-- The day in universal time is the local day or a neighbour of it. -/
theorem neighbour_of_utcDay? {m : Moment} {o : Offset} (h : m.offset = some o) {d : Day}
    (hd : m.utcDay? = some d) : d = m.day ∨ d ⋖ m.day ∨ m.day ⋖ d := by
  rcases utcDay?_cases h with ⟨-, hday⟩ | ⟨-, hday⟩ | ⟨-, hday⟩
  · rw [hday, Day.prev?_eq_some_iff] at hd
    exact Or.inr (Or.inl (Day.next?_eq_some_iff_covBy.mp (Day.next?_eq_some_iff.mpr hd.symm)))
  · rw [hday] at hd
    exact Or.inr (Or.inr (Day.next?_eq_some_iff_covBy.mp hd))
  · rw [hday] at hd
    exact Or.inl (Option.some.inj hd).symm

end Moment

end TrackerQuery
