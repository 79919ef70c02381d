import TrackerQuery.Proofs.Calendar.Order
import TrackerQuery.Proofs.Text.Numeral

/-!
# TrackerQuery.Proofs.Calendar.Iso

Laws of **days as text**.

The text of a day has ten characters (`length_iso`), digits and hyphens, and reads back as
the day (`ofIso?_iso`). Year, month and day of the month have a fixed width each and stand
in the order in which the calendar compares them, so later days have greater texts
(`iso_lt_iso`).
-/

namespace TrackerQuery.Day

theorem monthLength_le (year month : Nat) : monthLength year month ≤ 31 := by
  unfold monthLength
  split
  · split <;> decide
  all_goals decide

/-- The parts of a day fit into the digits that are there for them. -/
theorem parts_lt (d : Day) : d.year < 10 ^ 4 ∧ d.month < 10 ^ 2 ∧ d.day < 10 ^ 2 := by
  obtain ⟨-, hy, -, hm, -, hd⟩ := d.valid
  have hlen := monthLength_le d.year d.month
  omega

theorem length_iso (d : Day) : d.iso.length = 10 := by
  obtain ⟨hy, hm, hd⟩ := d.parts_lt
  rw [iso, List.length_append, List.length_append, List.length_cons, List.length_cons,
    Text.length_padded (by decide) hy, Text.length_padded (by decide) hm,
    Text.length_padded (by decide) hd]

theorem mem_iso {d : Day} {c : CodePoint} (h : c ∈ d.iso) : c.isDigit = true ∨ c = '-' := by
  simp only [iso, List.mem_append, List.mem_cons] at h
  rcases h with (h | h | h) | h | h
  · exact Or.inl (Text.isDigit_of_mem_padded h)
  · exact Or.inr h
  · exact Or.inl (Text.isDigit_of_mem_padded h)
  · exact Or.inr h
  · exact Or.inl (Text.isDigit_of_mem_padded h)

/-! ### Reading back -/

theorem readFixed?_padded {width n : Nat} (hw : 0 < width) (h : n < 10 ^ width) (rest : Text) :
    readFixed? width (Text.padded width n ++ rest) = some (n, rest) := by
  have hlen := Text.length_padded hw h
  have hdigits : (Text.padded width n).all CodePoint.isDigit = true :=
    List.all_eq_true.mpr fun c hc => Text.isDigit_of_mem_padded hc
  simp only [readFixed?, List.take_left' hlen, List.drop_left' hlen, hlen, hdigits,
    Text.natOfDigits_padded]
  simp

theorem cutIso?_iso_append (d : Day) (rest : Text) : cutIso? (d.iso ++ rest) = some (d, rest) := by
  obtain ⟨hy, hm, hd⟩ := d.parts_lt
  have hparts : ofParts? d.year d.month d.day = some d := ofParts?_eq_some.mpr ⟨rfl, rfl, rfl⟩
  simp only [cutIso?, iso, List.append_assoc, List.cons_append,
    readFixed?_padded (by decide : 0 < 4) hy, readFixed?_padded (by decide : 0 < 2) hm,
    readFixed?_padded (by decide : 0 < 2) hd, hparts, Option.map_some]

theorem ofIso?_iso (d : Day) : ofIso? d.iso = some d := by
  have hcut := d.cutIso?_iso_append []
  rw [List.append_nil] at hcut
  rw [ofIso?, hcut]

theorem iso_injective {d e : Day} (h : d.iso = e.iso) : d = e := by
  have hd := d.ofIso?_iso
  rw [h, ofIso?_iso] at hd
  exact (Option.some.inj hd).symm

/-! ### Order -/

/-- A later day has a greater text. -/
theorem iso_lt_iso {d e : Day} (h : d < e) : d.iso < e.iso := by
  obtain ⟨hy, hm, hd⟩ := d.parts_lt
  obtain ⟨hy', hm', hd'⟩ := e.parts_lt
  rw [iso, iso, List.append_assoc, List.append_assoc]
  rcases lt_def.mp h with hyear | ⟨hyear, hmonth | ⟨hmonth, hday⟩⟩
  · refine Text.append_lt_append ?_ (Text.padded_lt_padded (by decide) hy' hyear) _ _
    rw [Text.length_padded (by decide) hy, Text.length_padded (by decide) hy']
  · rw [hyear]
    refine List.append_left_lt (List.cons_lt_cons_iff.mpr (Or.inr ⟨rfl, ?_⟩))
    refine Text.append_lt_append ?_ (Text.padded_lt_padded (by decide) hm' hmonth) _ _
    rw [Text.length_padded (by decide) hm, Text.length_padded (by decide) hm']
  · rw [hyear, hmonth]
    refine List.append_left_lt (List.cons_lt_cons_iff.mpr (Or.inr ⟨rfl, ?_⟩))
    refine List.append_left_lt (List.cons_lt_cons_iff.mpr (Or.inr ⟨rfl, ?_⟩))
    exact Text.padded_lt_padded (by decide) hd' hday

/-- The texts of days are in the order of their counts. -/
theorem iso_le_iso {d e : Day} (h : d.ordinal ≤ e.ordinal) : d.iso ≤ e.iso := by
  rcases Nat.lt_or_eq_of_le h with hlt | heq
  · exact le_of_lt (iso_lt_iso (lt_iff_ordinal_lt.mpr hlt))
  · rw [eq_of_ordinal_eq heq]

end TrackerQuery.Day
