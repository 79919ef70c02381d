import Mathlib.Data.Char
import Mathlib.Order.Basic
import TrackerQuery.Text.CodePoint

/-!
# TrackerQuery.Proofs.Text.CodePoint

**Code points by number**: a code point is told by its number, and every number below the
end of the code space belongs to one. Code points are therefore ordered as numbers are.
-/

namespace TrackerQuery.CodePoint

@[simp] theorem toNat_char (c : Char) : (char c).toNat = c.toNat := rfl

/-- No character has the number of a surrogate. -/
theorem toNat_char_ne_lone (c : Char) (half : Fin 0x800) : c.toNat ≠ 0xD800 + half := by
  have hvalid := c.valid
  have hhalf := half.isLt
  simp only [UInt32.isValidChar, Nat.isValidChar] at hvalid
  change c.val.toNat ≠ _
  omega

theorem toNat_inj {c d : CodePoint} : c.toNat = d.toNat ↔ c = d := by
  constructor
  · intro h
    cases c with
    | char c =>
        cases d with
        | char d => rw [Char.toNat_inj.mp h]
        | lone half => exact absurd h (toNat_char_ne_lone c half)
    | lone half =>
        cases d with
        | char d => exact absurd h.symm (toNat_char_ne_lone d half)
        | lone half' => rw [Fin.ext (Nat.add_left_cancel h)]
  · intro h
    rw [h]

/-- A number beyond the code space is read as the number zero. -/
theorem toNat_ofNat_eq (n : Nat) : (ofNat n).toNat = if n < 0x110000 then n else 0 := by
  by_cases hn : 0xD800 ≤ n ∧ n < 0xE000
  · rw [ofNat, dif_pos hn, if_pos (by omega)]
    exact Nat.add_sub_of_le hn.1
  · rw [ofNat, dif_neg hn, toNat_char, Char.ofNat]
    by_cases hlt : n < 0x110000
    · have hvalid : n.isValidChar := by
        simp only [Nat.isValidChar]
        omega
      rw [dif_pos hvalid, if_pos hlt]
      rfl
    · have hinvalid : ¬n.isValidChar := by
        simp only [Nat.isValidChar]
        omega
      rw [dif_neg hinvalid, if_neg hlt]
      rfl

theorem toNat_ofNat {n : Nat} (h : n < 0x110000) : (ofNat n).toNat = n := by
  rw [toNat_ofNat_eq, if_pos h]

theorem toNat_ofNat_cases (n : Nat) : (ofNat n).toNat = n ∨ (ofNat n).toNat = 0 := by
  rw [toNat_ofNat_eq]
  split
  · exact .inl rfl
  · exact .inr rfl

theorem toNat_toLower (c : CodePoint) :
    c.toLower.toNat = if 65 ≤ c.toNat ∧ c.toNat ≤ 90 then c.toNat + 32 else c.toNat := by
  simp only [toLower, isUpper, Bool.and_eq_true, decide_eq_true_eq]
  split
  · next h => exact toNat_ofNat (by omega)
  · rfl

theorem isAlphanum_iff {c : CodePoint} :
    c.isAlphanum = true ↔ (65 ≤ c.toNat ∧ c.toNat ≤ 90) ∨ (97 ≤ c.toNat ∧ c.toNat ≤ 122) ∨
      (48 ≤ c.toNat ∧ c.toNat ≤ 57) := by
  simp only [isAlphanum, isAlpha, isUpper, isLower, isDigit, Bool.or_eq_true, Bool.and_eq_true,
    decide_eq_true_eq, or_assoc]

instance : LinearOrder CodePoint :=
  LinearOrder.lift' toNat fun _ _ => toNat_inj.mp

end TrackerQuery.CodePoint
