import Mathlib.Order.Cover
import TrackerQuery.Proofs.Calendar.Day

/-!
# TrackerQuery.Proofs.Calendar.Order

The **order of the calendar**: days by year, then by month, then by day of the month.

The running count is strictly increasing in that order (`lt_iff_ordinal_lt`), because the
days of a month fit in front of the next month and the days of a year in front of the next
year. So it numbers the days of the range without repetition, a step forward or back is
the step to the next number (`next?_eq_some_iff`, `prev?_eq_some_iff`), and the following
day is the one with nothing between (`next?_eq_some_iff_covBy`). The Monday of a week is
told by the count alone (`weekStart?_eq_some_iff`).
-/

namespace TrackerQuery.Day

/-- Days are ordered by year, then by month, then by day of the month. -/
instance : LT Day where
  lt d e := d.year < e.year ∨ d.year = e.year ∧
    (d.month < e.month ∨ d.month = e.month ∧ d.day < e.day)

theorem lt_def {d e : Day} : d < e ↔ d.year < e.year ∨ d.year = e.year ∧
    (d.month < e.month ∨ d.month = e.month ∧ d.day < e.day) :=
  Iff.rfl

theorem lt_trichotomy (d e : Day) : d < e ∨ d = e ∨ e < d := by
  rw [lt_def, lt_def]
  by_cases hyear : d.year = e.year
  · by_cases hmonth : d.month = e.month
    · by_cases hday : d.day = e.day
      · exact Or.inr (Or.inl (eq_of_parts hyear hmonth hday))
      · omega
    · omega
  · omega

/-! ### The running count -/

/-- The days of a month fit in front of every later month. -/
theorem daysBeforeMonth_add_le (year : Nat) {m n : Nat} (hm : 1 ≤ m) (h : m < n) :
    daysBeforeMonth year m + monthLength year m ≤ daysBeforeMonth year n := by
  induction n, h using Nat.le_induction with
  | base => rw [daysBeforeMonth_succ year hm]
  | succ n hn ih =>
      rw [daysBeforeMonth_succ year (by omega)]
      omega

/-- The days of a year fit in front of every later year. -/
theorem daysBeforeYear_add_le {y z : Nat} (hy : 1 ≤ y) (h : y < z) :
    daysBeforeYear y + (daysBeforeMonth y 12 + 31) ≤ daysBeforeYear z := by
  induction z, h using Nat.le_induction with
  | base => rw [daysBeforeYear_succ hy]
  | succ z hz ih =>
      rw [daysBeforeYear_succ (by omega)]
      omega

/-- A day is among the days of its year. -/
theorem daysBeforeMonth_add_day_le (d : Day) :
    daysBeforeMonth d.year d.month + d.day ≤ daysBeforeMonth d.year 12 + 31 := by
  obtain ⟨-, -, hm, hm', -, hd⟩ := d.valid
  rcases Nat.lt_or_eq_of_le hm' with hlt | heq
  · have := daysBeforeMonth_add_le d.year hm hlt
    omega
  · rw [heq, monthLength_december] at hd
    rw [heq]
    omega

theorem ordinal_lt_of_lt {d e : Day} (h : d < e) : d.ordinal < e.ordinal := by
  obtain ⟨hy, -, hm, -, -, hd⟩ := d.valid
  have he : 1 ≤ e.day := e.valid.2.2.2.2.1
  rw [ordinal, ordinal]
  rcases lt_def.mp h with hyear | ⟨hyear, hmonth | ⟨hmonth, hday⟩⟩
  · have hfit := daysBeforeYear_add_le hy hyear
    have hin := daysBeforeMonth_add_day_le d
    omega
  · have hfit := daysBeforeMonth_add_le d.year hm hmonth
    rw [← hyear]
    omega
  · rw [← hyear, ← hmonth]
    omega

/-- The running count is strictly increasing. -/
theorem lt_iff_ordinal_lt {d e : Day} : d < e ↔ d.ordinal < e.ordinal := by
  refine ⟨ordinal_lt_of_lt, fun h => ?_⟩
  rcases lt_trichotomy d e with hlt | rfl | hlt
  · exact hlt
  · exact absurd h (Nat.lt_irrefl _)
  · exact absurd (ordinal_lt_of_lt hlt) (Nat.lt_asymm h)

/-- No two days have the same count. -/
theorem eq_of_ordinal_eq {d e : Day} (h : d.ordinal = e.ordinal) : d = e := by
  rcases lt_trichotomy d e with hlt | heq | hlt
  · have := ordinal_lt_of_lt hlt
    omega
  · exact heq
  · have := ordinal_lt_of_lt hlt
    omega

theorem ordinal_le_last (d : Day) : d.ordinal ≤ last.ordinal := by
  refine Nat.le_of_not_lt fun h => ?_
  obtain ⟨-, hy, -, hm, -, hd⟩ := d.valid
  have hlt : last < d := lt_iff_ordinal_lt.mpr h
  have hlast : last.year = 9999 ∧ last.month = 12 ∧ last.day = 31 := ⟨rfl, rfl, rfl⟩
  obtain ⟨hyear, hmonth, hday⟩ := hlast
  rw [lt_def, hyear, hmonth, hday] at hlt
  have hdecember : d.month = 12 := by omega
  rw [hdecember, monthLength_december] at hd
  omega

/-! ### Steps -/

/-- A step forward raises the running count by one. -/
theorem ordinal_of_next? {d e : Day} (h : d.next? = some e) : e.ordinal = d.ordinal + 1 := by
  obtain ⟨hy, -, hm, hm', -, hd⟩ := d.valid
  unfold next? at h
  split at h
  · obtain ⟨hyear, hmonth, hday⟩ := ofParts?_eq_some.mp h
    rw [ordinal, ordinal, hyear, hmonth, hday]
    omega
  · next hend =>
      have hfull : d.day = monthLength d.year d.month := by omega
      split at h
      · obtain ⟨hyear, hmonth, hday⟩ := ofParts?_eq_some.mp h
        rw [ordinal, ordinal, hyear, hmonth, hday, daysBeforeMonth_succ d.year hm, hfull]
        omega
      · obtain ⟨hyear, hmonth, hday⟩ := ofParts?_eq_some.mp h
        have hdecember : d.month = 12 := by omega
        rw [hdecember, monthLength_december] at hfull
        rw [ordinal, ordinal, hyear, hmonth, hday, daysBeforeYear_succ hy, hdecember, hfull]
        simp only [daysBeforeMonth]
        omega

/-- The following day is the one with the next count. -/
theorem next?_eq_some_iff {d e : Day} : d.next? = some e ↔ e.ordinal = d.ordinal + 1 := by
  refine ⟨ordinal_of_next?, fun h => ?_⟩
  cases hnext : d.next? with
  | none =>
      have hle := e.ordinal_le_last
      rw [next?_eq_none.mp hnext] at h
      omega
  | some n =>
      have hn := ordinal_of_next? hnext
      rw [eq_of_ordinal_eq (hn.trans h.symm)]

/-- The preceding day is the one with the count before. -/
theorem prev?_eq_some_iff {d p : Day} : d.prev? = some p ↔ p.ordinal + 1 = d.ordinal := by
  refine ⟨ordinal_of_prev?, fun h => ?_⟩
  cases hprev : d.prev? with
  | none =>
      have hpos := p.ordinal_pos
      rw [prev?_eq_none.mp hprev, ordinal_first] at h
      omega
  | some q =>
      have hq := ordinal_of_prev? hprev
      rw [eq_of_ordinal_eq (d := q) (e := p) (by omega)]

/-- The following day is the one with nothing between. -/
theorem next?_eq_some_iff_covBy {d e : Day} : d.next? = some e ↔ d ⋖ e := by
  rw [next?_eq_some_iff]
  constructor
  · intro h
    refine ⟨lt_iff_ordinal_lt.mpr (by omega), fun f hdf hfe => ?_⟩
    rw [lt_iff_ordinal_lt] at hdf hfe
    omega
  · intro h
    have hlt := lt_iff_ordinal_lt.mp h.1
    cases hnext : d.next? with
    | none =>
        have hle := e.ordinal_le_last
        rw [next?_eq_none.mp hnext] at hlt
        omega
    | some n =>
        have hn := ordinal_of_next? hnext
        have hnot : ¬n < e := h.2 (lt_iff_ordinal_lt.mpr (by omega))
        rw [lt_iff_ordinal_lt] at hnot
        omega

/-! ### Weeks -/

theorem ordinal_of_back? {d p : Day} {n : Nat} (h : d.back? n = some p) :
    p.ordinal + n = d.ordinal := by
  induction n generalizing d with
  | zero =>
      obtain rfl := Option.some.inj h
      rfl
  | succ n ih =>
      rw [back?] at h
      cases hprev : d.prev? with
      | none =>
          rw [hprev] at h
          cases h
      | some q =>
          rw [hprev] at h
          have hq := ordinal_of_prev? hprev
          have hp := ih h
          omega

/-- Holds of the days from a Monday to the Sunday behind it. -/
def IsInWeekOf (d monday : Day) : Prop :=
  monday.weekday = 0 ∧ monday.ordinal ≤ d.ordinal ∧ d.ordinal ≤ monday.ordinal + 6

/-- Holds of two days of one week. -/
def IsSameWeek (d e : Day) : Prop :=
  ∃ monday, d.IsInWeekOf monday ∧ e.IsInWeekOf monday

/-- The start of the week of a day is the Monday at most six days before it. -/
theorem weekStart?_eq_some_iff {d monday : Day} :
    d.weekStart? = some monday ↔ d.IsInWeekOf monday := by
  obtain ⟨start, hstart⟩ := d.exists_weekStart
  have hcount : start.ordinal + (d.ordinal + 6) % 7 = d.ordinal := ordinal_of_back? hstart
  rw [hstart, Option.some.injEq, IsInWeekOf, weekday]
  constructor
  · rintro rfl
    omega
  · intro h
    exact eq_of_ordinal_eq (by omega)

end TrackerQuery.Day
