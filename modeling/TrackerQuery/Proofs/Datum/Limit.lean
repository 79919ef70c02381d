import Mathlib.Algebra.Group.Nat.Defs
import TrackerQuery.Datum.Display
import TrackerQuery.Proofs.Datum.Nesting
import TrackerQuery.Proofs.Text.Numeral

/-!
# TrackerQuery.Proofs.Datum.Limit

Which values the platform **writes as texts**.

A value can be written if no whole number in it has more digits than the limit
(`IsWritable`). Without a limit every value can, and under any limit every number of
ordinary size (`isWritable_int_of_lt`). A value that cannot be written is unusable for
that reason, and for no other.
-/

namespace TrackerQuery

variable [Limits]

/-- A numeral of some digits is within the limit if it is not longer than that. -/
theorem Text.exceeded?_eq_none {digits : Nat} :
    Text.exceeded? digits = none ↔ ∀ most ∈ Limits.digits, digits ≤ most := by
  unfold exceeded?
  split
  · next most h => simp [h]
  · next h => simp [h]

theorem Text.mem_digits_of_exceeded? {digits most : Nat} (h : Text.exceeded? digits = some most) :
    most ∈ Limits.digits := by
  unfold exceeded? at h
  split at h
  · next limit hlimit =>
      split at h
      · exact Option.some.inj h ▸ hlimit
      · cases h
  · cases h

namespace Datum

/-- Holds of the values that the platform writes as texts. -/
def IsWritable (d : Datum) : Prop :=
  d.exceeded? = none

instance (d : Datum) : Decidable d.IsWritable :=
  inferInstanceAs (Decidable (d.exceeded? = none))

/-- A whole number can be written exactly if it has no more digits than the limit. -/
theorem isWritable_int_iff {n : Int} :
    (int n).IsWritable ↔ ∀ most ∈ Limits.digits, n.natAbs < 10 ^ most := by
  refine Text.exceeded?_eq_none.trans (forall₂_congr fun most hmost => ?_)
  have hlimit := Limits.le_of_mem_digits most hmost
  have hpos : 0 < most := by omega
  rw [Text.length_ofNat]
  exact Nat.length_toDigits_le_iff (by decide) hpos

/-- Numbers of ordinary size are within every limit. -/
theorem lt_of_mem_digits {n k : Nat} (h : n < 10 ^ k) (hk : k ≤ 640) {most : Nat}
    (hmost : most ∈ Limits.digits) : n < 10 ^ most := by
  have hle : k ≤ most := Nat.le_trans hk (Limits.le_of_mem_digits most hmost)
  exact Nat.lt_of_lt_of_le h (Nat.pow_le_pow_right (Nat.succ_pos 9) hle)

theorem isWritable_int_of_lt {n : Int} {k : Nat} (h : n.natAbs < 10 ^ k) (hk : k ≤ 640) :
    (int n).IsWritable :=
  isWritable_int_iff.mpr fun _ hmost => lt_of_mem_digits h hk hmost

/-- A value of an entry can be written if the dictionary can. -/
theorem isWritable_of_mem {entries : List (Datum × Datum)} (h : (dict entries).IsWritable)
    {k v : Datum} (hv : (k, v) ∈ entries) : v.IsWritable := by
  rw [IsWritable, exceeded?] at h
  induction entries with
  | nil => cases hv
  | cons e rest ih =>
      obtain ⟨k', v'⟩ := e
      rw [exceededInEntries?, Option.or_eq_none_iff, Option.or_eq_none_iff] at h
      obtain he | hrest := List.mem_cons.mp hv
      · cases he
        exact h.1.2
      · exact ih h.2 hrest

theorem exceededIn?_eq_none {items : List Datum} :
    exceededIn? items = none ↔ ∀ y ∈ items, y.IsWritable := by
  induction items with
  | nil => simp [exceededIn?]
  | cons x xs ih => rw [exceededIn?, Option.or_eq_none_iff, ih, List.forall_mem_cons, IsWritable]

/-- A part of a value can be written if the value can. -/
theorem IsWritable.of_parts? {x y : Datum} {items : List Datum} (h : x.IsWritable)
    (hx : x.parts? = some items) (hy : y ∈ items) : y.IsWritable := by
  have hitems : exceededIn? items = none := by
    obtain hsequence | rfl := parts?_cases hx
    · cases x
      case list xs => exact Option.some.inj hx ▸ h
      case tuple xs => exact Option.some.inj hx ▸ h
      all_goals cases hsequence
    · exact h
  exact exceededIn?_eq_none.mp hitems y hy

theorem IsWritable.of_occurs {x y : Datum} (h : x.IsWritable) (hy : Occurs y x) :
    y.IsWritable := by
  induction hy with
  | self => exact h
  | item hz hitem _ ih => exact ih (h.of_parts? (parts?_of_sequence? hz) hitem)

/-! ### The limit that is exceeded -/

mutual

theorem mem_digits_of_exceeded? {most : Nat} (d : Datum) (h : d.exceeded? = some most) :
    most ∈ Limits.digits := by
  cases d with
  | int n =>
      rw [exceeded?] at h
      exact Text.mem_digits_of_exceeded? h
  | list items =>
      rw [exceeded?] at h
      exact mem_digits_of_exceededIn? items h
  | tuple items =>
      rw [exceeded?] at h
      exact mem_digits_of_exceededIn? items h
  | dict entries =>
      rw [exceeded?] at h
      exact mem_digits_of_exceededInEntries? entries h
  | dateLiteral value =>
      rw [exceeded?] at h
      exact mem_digits_of_exceeded? value h
  | arrayLiteral items =>
      rw [exceeded?] at h
      exact mem_digits_of_exceededIn? items h
  | _ => simp [exceeded?] at h

theorem mem_digits_of_exceededIn? {most : Nat} (ds : List Datum) (h : exceededIn? ds = some most) :
    most ∈ Limits.digits := by
  cases ds with
  | nil => simp [exceededIn?] at h
  | cons d ds =>
      rw [exceededIn?] at h
      obtain hd | ⟨-, hds⟩ := Option.or_eq_some_iff.mp h
      · exact mem_digits_of_exceeded? d hd
      · exact mem_digits_of_exceededIn? ds hds

theorem mem_digits_of_exceededInEntries? {most : Nat} (entries : List (Datum × Datum))
    (h : exceededInEntries? entries = some most) : most ∈ Limits.digits := by
  match entries with
  | [] => simp [exceededInEntries?] at h
  | (k, v) :: rest =>
      rw [exceededInEntries?] at h
      obtain hkv | ⟨-, hrest⟩ := Option.or_eq_some_iff.mp h
      · obtain hk | ⟨-, hv⟩ := Option.or_eq_some_iff.mp hkv
        · exact mem_digits_of_exceeded? k hk
        · exact mem_digits_of_exceeded? v hv
      · exact mem_digits_of_exceededInEntries? rest hrest

end

theorem isWritable_or (d : Datum) :
    d.IsWritable ∨ (¬d.IsWritable ∧ ∃ most, most ∈ Limits.digits) := by
  cases h : d.exceeded? with
  | none => exact .inl h
  | some most =>
      refine .inr ⟨?_, most, mem_digits_of_exceeded? d h⟩
      rw [IsWritable, h]
      simp

/-- Without a limit on numerals every value can be written. -/
theorem isWritable_of_unlimited (h : (Limits.digits : Option Nat) = none) (d : Datum) :
    d.IsWritable := by
  refine Option.eq_none_iff_forall_ne_some.mpr fun most hmost => ?_
  have hmem := mem_digits_of_exceeded? d hmost
  rw [h] at hmem
  cases hmem

/-! ### Texts of values -/

/-- Holds of the fault of a value that cannot be written, which names the limit. -/
def IsLongNumber (f : Fault) : Prop :=
  ∃ most ∈ Limits.digits, f = .badValue (.longNumber most)

variable {d : Datum} {t : Text} {f : Fault}

/-- There is one limit, so there is one such fault. -/
theorem IsLongNumber.unique {g : Fault} (hf : IsLongNumber f) (hg : IsLongNumber g) : f = g := by
  obtain ⟨most, hmost, rfl⟩ := hf
  obtain ⟨most', hmost', rfl⟩ := hg
  rw [Option.mem_unique hmost hmost']

theorem written_of_isWritable (h : d.IsWritable) : d.written = .ok d.toText := by
  have hnone : d.exceeded? = none := h
  rw [written, unlessExceeded, hnone]

theorem shown_of_isWritable (h : d.IsWritable) : d.shown = .ok d.inspect := by
  have hnone : d.exceeded? = none := h
  rw [shown, unlessExceeded, hnone]

theorem unlessExceeded_eq_ok {u : Text} :
    d.unlessExceeded u = .ok t ↔ d.IsWritable ∧ t = u := by
  rw [unlessExceeded, IsWritable]
  cases d.exceeded? <;> simp [eq_comm]

theorem written_eq_ok : d.written = .ok t ↔ d.IsWritable ∧ t = d.toText :=
  unlessExceeded_eq_ok

theorem shown_eq_ok : d.shown = .ok t ↔ d.IsWritable ∧ t = d.inspect :=
  unlessExceeded_eq_ok

theorem unlessExceeded_eq_error {u : Text} (h : d.unlessExceeded u = .error f) :
    ¬d.IsWritable ∧ IsLongNumber f := by
  unfold unlessExceeded at h
  split at h
  · next most hmost =>
      refine ⟨?_, most, mem_digits_of_exceeded? d hmost, (Except.error.inj h).symm⟩
      intro hnone
      exact absurd (hmost.symm.trans hnone) (by simp)
  · cases h

theorem unlessExceeded_of_not_isWritable {u : Text} (h : ¬d.IsWritable) {most : Nat}
    (hmost : most ∈ Limits.digits) : d.unlessExceeded u =
      .error (.badValue (.longNumber most)) := by
  cases hu : d.unlessExceeded u with
  | ok t => exact absurd (unlessExceeded_eq_ok.mp hu).1 h
  | error f => rw [(unlessExceeded_eq_error hu).2.unique ⟨most, hmost, rfl⟩]

theorem written_eq_error (h : d.written = .error f) : ¬d.IsWritable ∧ IsLongNumber f :=
  unlessExceeded_eq_error h

theorem shown_eq_error (h : d.shown = .error f) : ¬d.IsWritable ∧ IsLongNumber f :=
  unlessExceeded_eq_error h

end Datum

end TrackerQuery
