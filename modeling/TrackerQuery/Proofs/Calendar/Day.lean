import TrackerQuery.Calendar.Day

/-!
# TrackerQuery.Proofs.Calendar.Day

Laws of **moving by days**.

The range of days has a first and a last one, and nowhere else a step forward or back
is missing (`next?_eq_none`, `prev?_eq_none`). A step back lowers the running count by
one, also over the end of February and over the end of a year (`ordinal_of_prev?`), so
that the days in front of a day are as many as its count says, and the Monday of its
week is always among them (`exists_weekStart`).
-/

namespace TrackerQuery

/-! ### Lengths -/

theorem isLeapYear_iff {year : Nat} :
    isLeapYear year = true ↔ year % 4 = 0 ∧ (year % 100 ≠ 0 ∨ year % 400 = 0) := by
  simp [isLeapYear]

theorem monthLength_pos (year month : Nat) : 1 ≤ monthLength year month := by
  unfold monthLength
  split
  · split <;> decide
  all_goals decide

theorem monthLength_december (year : Nat) : monthLength year 12 = 31 := rfl

namespace Day

theorem ofParts?_eq_some {y m n : Nat} {d : Day} :
    ofParts? y m n = some d ↔ d.year = y ∧ d.month = m ∧ d.day = n := by
  unfold ofParts?
  split
  · constructor
    · intro h
      cases h
      exact ⟨rfl, rfl, rfl⟩
    · obtain ⟨_, _, _, _⟩ := d
      rintro ⟨rfl, rfl, rfl⟩
      rfl
  · next hno =>
      refine ⟨nofun, ?_⟩
      rintro ⟨rfl, rfl, rfl⟩
      exact absurd d.valid hno

theorem ofParts?_eq_none {y m n : Nat} (hy : 1 ≤ y) (hm : 1 ≤ m ∧ m ≤ 12)
    (hn : 1 ≤ n ∧ n ≤ monthLength y m) (h : ofParts? y m n = none) : 9999 < y := by
  refine Nat.lt_of_not_le fun hle => ?_
  rw [ofParts?, dif_pos ⟨hy, hle, hm.1, hm.2, hn.1, hn.2⟩] at h
  cases h

theorem eq_of_parts {d e : Day} (hy : d.year = e.year) (hm : d.month = e.month)
    (hn : d.day = e.day) : d = e :=
  Option.some.inj ((ofParts?_eq_some.mpr ⟨rfl, rfl, rfl⟩).symm.trans
    (ofParts?_eq_some.mpr ⟨hy.symm, hm.symm, hn.symm⟩))

/-! ### The ends of the range -/

theorem next?_eq_none {d : Day} : d.next? = none ↔ d = last := by
  obtain ⟨hy, hy', hm, hm', hn, hn'⟩ := d.valid
  constructor
  · intro h
    unfold next? at h
    split at h
    · next hday => exact absurd (ofParts?_eq_none hy ⟨hm, hm'⟩ ⟨by omega, hday⟩ h) (by omega)
    · next hday =>
        split at h
        · next hmonth =>
            have hfits := monthLength_pos d.year (d.month + 1)
            exact absurd (ofParts?_eq_none hy ⟨by omega, hmonth⟩ ⟨Nat.le_refl 1, hfits⟩ h)
              (by omega)
        · next hmonth =>
            -- the last day of a December, which only the last year has no day after
            have hover := ofParts?_eq_none (by omega) ⟨Nat.le_refl 1, by decide⟩
              ⟨Nat.le_refl 1, monthLength_pos _ _⟩ h
            have hdecember : d.month = 12 := by omega
            have hlength : monthLength d.year d.month = 31 := by
              rw [hdecember, monthLength_december]
            refine eq_of_parts ?_ hdecember ?_
            · show d.year = 9999
              omega
            · show d.day = 31
              omega
  · rintro rfl
    rfl

theorem prev?_eq_none {d : Day} : d.prev? = none ↔ d = first := by
  obtain ⟨hy, hy', hm, hm', hn, hn'⟩ := d.valid
  constructor
  · intro h
    unfold prev? at h
    split at h
    · exact absurd (ofParts?_eq_none hy ⟨hm, hm'⟩ ⟨by omega, by omega⟩ h) (by omega)
    · next hday =>
        split at h
        · next hmonth =>
            have hfits := monthLength_pos d.year (d.month - 1)
            exact absurd (ofParts?_eq_none hy ⟨by omega, by omega⟩ ⟨hfits, Nat.le_refl _⟩ h)
              (by omega)
        · next hmonth =>
            refine eq_of_parts ?_ ?_ ?_
            · show d.year = 1
              refine Nat.le_antisymm (Nat.le_of_not_lt fun hyear => ?_) hy
              exact absurd (ofParts?_eq_none (Nat.le_sub_one_of_lt hyear) ⟨by decide, by decide⟩
                ⟨by decide, Nat.le_of_eq (monthLength_december _).symm⟩ h) (by omega)
            · show d.month = 1
              omega
            · show d.day = 1
              omega
  · rintro rfl
    rfl

/-! ### The running count -/

/-- The days of a year: those before its December, and that month. -/
theorem daysBeforeMonth_december (year : Nat) :
    daysBeforeMonth year 12 + 31 = if isLeapYear year then 366 else 365 := by
  simp only [daysBeforeMonth, monthLength]
  split <;> rfl

/-- A quotient grows with the numbers that the divisor divides. -/
theorem div_eq_pred_div {n : Nat} (h : 1 ≤ n) (k : Nat) :
    n / k = (n - 1) / k + if n % k = 0 then 1 else 0 := by
  have hdiv := Nat.succ_div (a := n - 1) (b := k)
  simpa only [Nat.sub_add_cancel h, Nat.dvd_iff_mod_eq_zero] using hdiv

theorem daysBeforeYear_succ {year : Nat} (h : 1 ≤ year) :
    daysBeforeYear (year + 1) = daysBeforeYear year + (daysBeforeMonth year 12 + 31) := by
  have hle : (year - 1) / 100 ≤ (year - 1) / 4 := Nat.div_le_div_left (by decide) (by decide)
  simp only [daysBeforeMonth_december, daysBeforeYear, Nat.add_sub_cancel,
    div_eq_pred_div h 4, div_eq_pred_div h 100, div_eq_pred_div h 400]
  by_cases hleap : isLeapYear year = true
  · rw [if_pos hleap]
    obtain ⟨h4, h100 | h400⟩ := isLeapYear_iff.mp hleap
    · rw [if_pos h4, if_neg h100, if_neg (by omega)]
      omega
    · rw [if_pos h4, if_pos (by omega), if_pos h400]
      omega
  · rw [if_neg hleap]
    rw [isLeapYear_iff, Decidable.not_and_iff_not_or_not, not_or, Decidable.not_not] at hleap
    obtain h4 | ⟨h100, h400⟩ := hleap
    · rw [if_neg h4, if_neg (by omega), if_neg (by omega)]
      omega
    · rw [if_pos (by omega), if_pos h100, if_neg h400]
      omega

theorem daysBeforeMonth_succ (year : Nat) {month : Nat} (h : 1 ≤ month) :
    daysBeforeMonth year (month + 1) = daysBeforeMonth year month + monthLength year month := by
  cases month with
  | zero => cases h
  | succ m => rfl

theorem ordinal_pos (d : Day) : 1 ≤ d.ordinal := by
  have := d.valid.2.2.2.2.1
  unfold ordinal
  omega

/-- A step back lowers the running count by one. -/
theorem ordinal_of_prev? {d p : Day} (h : d.prev? = some p) : p.ordinal + 1 = d.ordinal := by
  obtain ⟨hy, -, hm, -, hn, -⟩ := d.valid
  unfold prev? at h
  split at h
  · next hday =>
      obtain ⟨hyear, hmonth, hpday⟩ := ofParts?_eq_some.mp h
      rw [ordinal, ordinal, hyear, hmonth, hpday]
      omega
  · next hday =>
      have hfirst : d.day = 1 := by omega
      split at h
      · next hlater =>
          obtain ⟨hyear, hmonth, hpday⟩ := ofParts?_eq_some.mp h
          have hstep := daysBeforeMonth_succ d.year (Nat.le_sub_one_of_lt hlater)
          rw [Nat.sub_add_cancel hm] at hstep
          rw [ordinal, ordinal, hyear, hmonth, hpday, hstep, hfirst]
          omega
      · next hlater =>
          obtain ⟨hyear, hmonth, hpday⟩ := ofParts?_eq_some.mp h
          have hjanuary : d.month = 1 := by omega
          have hpos : 1 ≤ d.year - 1 := hyear ▸ p.valid.1
          have hstep := daysBeforeYear_succ hpos
          rw [Nat.sub_add_cancel hy] at hstep
          rw [ordinal, ordinal, hyear, hmonth, hpday, hstep, hfirst, hjanuary]
          simp only [daysBeforeMonth]
          omega

theorem ordinal_first : first.ordinal = 1 := rfl

/-- There are as many days in front of a day as its running count says. -/
theorem exists_back? {d : Day} {n : Nat} (h : n < d.ordinal) : ∃ p, d.back? n = some p := by
  induction n generalizing d with
  | zero => exact ⟨d, rfl⟩
  | succ n ih =>
      rw [back?]
      cases hprev : d.prev? with
      | none =>
          rw [prev?_eq_none.mp hprev, ordinal_first] at h
          omega
      | some p =>
          have hcount := ordinal_of_prev? hprev
          exact ih (by omega)

/-- The first day of the range is a Monday, so no week starts in front of it. -/
theorem exists_weekStart (d : Day) : ∃ monday, d.weekStart? = some monday := by
  refine exists_back? ?_
  have := d.ordinal_pos
  unfold weekday
  omega

end Day

end TrackerQuery
