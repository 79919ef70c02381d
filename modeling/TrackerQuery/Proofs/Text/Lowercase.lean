import Mathlib.Data.List.Basic
import TrackerQuery.Proofs.Text.CodePoint
import TrackerQuery.Text.Lowercase

/-!
# TrackerQuery.Proofs.Text.Lowercase

Which texts have a **small form in ASCII**.

Two characters beyond ASCII have an ASCII letter in their small form, the dotted capital
U+0130 with an `i` and the kelvin sign U+212A with a `k`. A text whose small form has
neither letter is ASCII itself, and its small form is taken letter by letter
(`lower_eq_iff`).
-/

namespace TrackerQuery.Text

/-- Holds of a run of capitals unless one of its small letters is ASCII and its capital is not. The
kelvin sign is let through. -/
def CapitalRun.KeepsAscii (run : CapitalRun) : Prop :=
  run.last < 0x80 ∨ 0x80 ≤ run.first + run.up - run.down ∨
    (run.first = run.last ∧ run.first + run.up - run.down = 'k'.toNat)

instance (run : CapitalRun) : Decidable run.KeepsAscii :=
  inferInstanceAs (Decidable (_ ∨ _ ∨ _))

theorem lt_of_smallCode {runs : List CapitalRun} (hruns : ∀ run ∈ runs, run.KeepsAscii) {n : Nat}
    (h : smallCode runs n < 0x80) (hk : smallCode runs n ≠ 'k'.toNat) : n < 0x80 := by
  induction runs with
  | nil => exact h
  | cons run rest ih =>
      have hrun : run.KeepsAscii := hruns run List.mem_cons_self
      have hrest : ∀ run ∈ rest, run.KeepsAscii := fun r hr => hruns r (List.mem_cons_of_mem run hr)
      unfold smallCode at h hk
      split at h
      · exact h
      · next hfirst =>
          rw [if_neg hfirst] at hk
          split at h
          · next hin =>
              rw [if_pos hin] at hk
              simp only [Bool.and_eq_true, decide_eq_true_eq] at hin
              unfold CapitalRun.KeepsAscii at hrun
              omega
          · next hout =>
              rw [if_neg hout] at hk
              exact ih hrest h hk

theorem keepsAscii_capitalRuns : ∀ run ∈ capitalRuns, run.KeepsAscii := by
  decide +kernel

/-- Holds of the ASCII characters that only ASCII characters have in their small form. -/
def OnlyFromAscii (x : CodePoint) : Prop :=
  0 < x.toNat ∧ x.toNat < 0x80 ∧ x ≠ 'i' ∧ x ≠ 'k'

instance (x : CodePoint) : Decidable (OnlyFromAscii x) :=
  inferInstanceAs (Decidable (_ ∧ _ ∧ _ ∧ _))

theorem lt_of_mem_lowerChar {before behind : Text} {c x : CodePoint}
    (hmem : x ∈ lowerChar before c behind) (hx : OnlyFromAscii x) : c.toNat < 0x80 := by
  obtain ⟨hpos, hlt, hi, hk⟩ := hx
  unfold lowerChar at hmem
  split at hmem
  · next h => exact h
  · split at hmem
    · -- the dotted capital
      rcases List.mem_cons.mp hmem with h | h
      · exact absurd h hi
      · rw [List.mem_singleton.mp h] at hlt
        exact absurd hlt (by decide)
    · split at hmem
      · -- the capital sigma
        split at hmem
        · rw [List.mem_singleton.mp hmem] at hlt
          exact absurd hlt (by decide)
        · rw [List.mem_singleton.mp hmem] at hlt
          exact absurd hlt (by decide)
      · rw [List.mem_singleton] at hmem
        have hcode : x.toNat = smallCode capitalRuns c.toNat := by
          rcases CodePoint.toNat_ofNat_cases (smallCode capitalRuns c.toNat) with h | h
          · rw [hmem, h]
          · rw [← hmem] at h
            exact absurd h (Nat.ne_of_gt hpos)
        refine lt_of_smallCode keepsAscii_capitalRuns (hcode ▸ hlt) ?_
        rw [← hcode]
        intro h
        exact hk (CodePoint.toNat_inj.mp h)

theorem lowerChar_ne_nil (before : Text) (c : CodePoint) (behind : Text) :
    lowerChar before c behind ≠ [] := by
  unfold lowerChar
  split
  · exact List.cons_ne_nil _ _
  · split
    · exact List.cons_ne_nil _ _
    · split
      · split <;> exact List.cons_ne_nil _ _
      · exact List.cons_ne_nil _ _

theorem lt_of_toLower_lt {c : CodePoint} (h : c.toLower.toNat < 0x80) : c.toNat < 0x80 := by
  rw [CodePoint.toNat_toLower] at h
  split at h <;> omega

theorem lowerFrom_eq_iff {before t w : Text} (hw : ∀ x ∈ w, OnlyFromAscii x) :
    lowerFrom before t = w ↔ t.map CodePoint.toLower = w := by
  induction t generalizing before w with
  | nil => rfl
  | cons c t ih =>
      constructor
      · intro h
        obtain ⟨x, xs, hx⟩ := List.exists_cons_of_ne_nil (lowerChar_ne_nil before c t)
        have hmem : x ∈ lowerChar before c t := hx ▸ List.mem_cons_self
        have hxw : x ∈ w := h ▸ List.mem_append_left _ hmem
        have hc : c.toNat < 0x80 := lt_of_mem_lowerChar hmem (hw x hxw)
        rw [lowerFrom, lowerChar, if_pos hc, List.singleton_append] at h
        subst h
        rw [List.map_cons, (ih fun y hy => hw y (List.mem_cons_of_mem _ hy)).mp rfl]
      · intro h
        subst h
        have hc : c.toNat < 0x80 := lt_of_toLower_lt (hw _ List.mem_cons_self).2.1
        rw [lowerFrom, lowerChar, if_pos hc, List.singleton_append,
          (ih fun y hy => hw y (List.mem_cons_of_mem _ hy)).mpr rfl, List.map_cons]

/-- A text has such a small form exactly if it has it letter by letter. -/
theorem lower_eq_iff {t w : Text} (hw : ∀ x ∈ w, OnlyFromAscii x) :
    lower t = w ↔ t.map CodePoint.toLower = w :=
  lowerFrom_eq_iff hw

/-! ### Letter by letter -/

/-- A character that is no capital is the small form of itself, and of the capital of it if it is a
letter. -/
theorem toLower_eq_iff {c x : CodePoint} (hx : ¬(65 ≤ x.toNat ∧ x.toNat ≤ 90)) :
    c.toLower = x ↔ c = x ∨ (65 ≤ c.toNat ∧ c.toNat ≤ 90 ∧ c.toNat + 32 = x.toNat) := by
  rw [← CodePoint.toNat_inj, ← CodePoint.toNat_inj, CodePoint.toNat_toLower]
  split <;> omega

theorem toLower_eq_letter {c x y : CodePoint} (hx : x.toNat = y.toNat + 32)
    (hy : 65 ≤ y.toNat ∧ y.toNat ≤ 90) : c.toLower = x ↔ c = x ∨ c = y := by
  rw [toLower_eq_iff (by omega)]
  refine or_congr_right ?_
  rw [← CodePoint.toNat_inj]
  omega

end TrackerQuery.Text
