import Mathlib.Algebra.Group.Nat.Defs
import Mathlib.Data.List.Lex
import TrackerQuery.Proofs.Text.CodePoint
import TrackerQuery.Text.Numeral

/-!
# TrackerQuery.Proofs.Text.Numeral

Laws of **numbers written with a fixed width**.

A number that has room is written in exactly that many digits (`length_padded`), and the
digits read back as the number (`natOfDigits_padded`). Digits of one length are ordered as
the numbers that they spell (`lt_of_natOfDigits_lt`), so zeros in front make the order of
the texts the order of the numbers (`padded_lt_padded`).
-/

namespace TrackerQuery.Text

/-- Texts of one length that differ are in the order of their first difference, whatever
follows. -/
theorem append_lt_append {t u : Text} (hlen : t.length = u.length) (h : t < u) (r s : Text) :
    t ++ r < u ++ s := by
  induction t generalizing u with
  | nil =>
      rw [List.eq_nil_of_length_eq_zero hlen.symm] at h
      exact absurd h (List.lt_irrefl [])
  | cons c t ih =>
      cases u with
      | nil => cases hlen
      | cons d u =>
          rw [List.cons_append, List.cons_append, List.cons_lt_cons_iff]
          rcases List.cons_lt_cons_iff.mp h with hcd | ⟨rfl, htu⟩
          · exact Or.inl hcd
          · exact Or.inr ⟨rfl, ih (Nat.succ.inj hlen) htu⟩

/-! ### What digits spell -/

theorem natOfDigits_ofChars (cs : List Char) :
    natOfDigits (ofChars cs) = Nat.ofDigitChars 10 cs 0 := by
  simp only [natOfDigits, ofChars, Nat.ofDigitChars, List.foldl_map, Nat.mul_comm 10]
  rfl

/-- Digits behind others count on from the value of those. -/
theorem foldl_digits (t : Text) (value : Nat) :
    t.foldl (fun value c => value * 10 + (c.toNat - 48)) value =
      10 ^ t.length * value + natOfDigits t := by
  unfold natOfDigits
  induction t generalizing value with
  | nil => simp
  | cons c t ih =>
      rw [List.foldl_cons, List.foldl_cons, ih, ih (0 * 10 + _), List.length_cons, Nat.pow_succ,
        Nat.mul_add, Nat.mul_assoc, Nat.mul_comm 10 value, Nat.zero_mul, Nat.zero_add,
        Nat.add_assoc]

theorem natOfDigits_cons (c : CodePoint) (t : Text) :
    natOfDigits (c :: t) = 10 ^ t.length * (c.toNat - 48) + natOfDigits t := by
  rw [natOfDigits, List.foldl_cons, foldl_digits, Nat.zero_mul, Nat.zero_add]

theorem padded_eq_ofChars (width n : Nat) :
    padded width n =
      ofChars (List.replicate (width - (ofNat n).length) '0' ++ Nat.toDigits 10 n) := by
  rw [padded, ofNat, ofChars, ofChars, List.map_append, List.map_replicate]

theorem natOfDigits_padded (width n : Nat) : natOfDigits (padded width n) = n := by
  rw [padded_eq_ofChars, natOfDigits_ofChars, Nat.ofDigitChars_append,
    Nat.ofDigitChars_replicate_zero, Nat.mul_zero,
    Nat.ofDigitChars_toDigits (by decide) (by decide)]

theorem length_ofNat (n : Nat) : (ofNat n).length = (Nat.toDigits 10 n).length :=
  List.length_map _

theorem bounds_of_isDigit {c : CodePoint} (h : c.isDigit = true) :
    48 ≤ c.toNat ∧ c.toNat ≤ 57 := by
  simpa [CodePoint.isDigit] using h

theorem isDigit_of_mem_ofNat {n : Nat} {c : CodePoint} (h : c ∈ ofNat n) : c.isDigit = true := by
  obtain ⟨d, hd, rfl⟩ := List.mem_map.mp h
  have hdigit := Nat.isDigit_of_mem_toDigits (by decide) (by decide) hd
  simp only [Char.isDigit, ge_iff_le, UInt32.le_iff_toNat_le, Bool.and_eq_true,
    decide_eq_true_eq] at hdigit
  simp only [CodePoint.isDigit, Bool.and_eq_true, decide_eq_true_eq]
  exact hdigit

theorem natOfDigits_lt {t : Text} (h : ∀ c ∈ t, c.isDigit = true) :
    natOfDigits t < 10 ^ t.length := by
  induction t with
  | nil => decide
  | cons c t ih =>
      have hrest := ih fun x hx => h x (List.mem_cons_of_mem c hx)
      obtain ⟨-, hnine⟩ := bounds_of_isDigit (h c List.mem_cons_self)
      have hdigit : 10 ^ t.length * (c.toNat - 48) ≤ 10 ^ t.length * 9 :=
        Nat.mul_le_mul_left _ (by omega)
      rw [natOfDigits_cons, List.length_cons, Nat.pow_succ]
      omega

/-- Digits of one length are ordered as the numbers that they spell. -/
theorem lt_of_natOfDigits_lt {t u : Text} (ht : ∀ c ∈ t, c.isDigit = true)
    (hu : ∀ c ∈ u, c.isDigit = true) (hlen : t.length = u.length)
    (h : natOfDigits t < natOfDigits u) : t < u := by
  induction t generalizing u with
  | nil =>
      rw [List.eq_nil_of_length_eq_zero hlen.symm] at h
      exact absurd h (Nat.lt_irrefl _)
  | cons c t ih =>
      cases u with
      | nil => cases hlen
      | cons d u =>
          have hlen' : t.length = u.length := Nat.succ.inj hlen
          have hu' : ∀ x ∈ u, x.isDigit = true := fun x hx => hu x (List.mem_cons_of_mem d hx)
          obtain ⟨hzero, -⟩ := bounds_of_isDigit (ht c List.mem_cons_self)
          obtain ⟨hzero', -⟩ := bounds_of_isDigit (hu d List.mem_cons_self)
          rw [natOfDigits_cons, natOfDigits_cons, hlen'] at h
          rw [List.cons_lt_cons_iff]
          rcases Nat.lt_trichotomy c.toNat d.toNat with hcd | hcd | hcd
          · exact Or.inl hcd
          · obtain rfl : c = d := CodePoint.toNat_inj.mp hcd
            exact Or.inr ⟨rfl, ih (fun x hx => ht x (List.mem_cons_of_mem c hx)) hu' hlen'
              (Nat.lt_of_add_lt_add_left h)⟩
          · -- a greater first digit outweighs all that follow
            have hstep : 10 ^ u.length * (d.toNat - 48 + 1) ≤ 10 ^ u.length * (c.toNat - 48) :=
              Nat.mul_le_mul_left _ (by omega)
            have hrest := natOfDigits_lt hu'
            rw [Nat.mul_succ] at hstep
            omega

/-! ### Fixed width -/

theorem length_padded {width n : Nat} (hw : 0 < width) (h : n < 10 ^ width) :
    (padded width n).length = width := by
  have hlen : (ofNat n).length ≤ width := by
    rw [length_ofNat]
    exact (Nat.length_toDigits_le_iff (by decide) hw).mpr h
  rw [padded, List.length_append, List.length_replicate]
  omega

theorem isDigit_of_mem_padded {width n : Nat} {c : CodePoint} (h : c ∈ padded width n) :
    c.isDigit = true := by
  rcases List.mem_append.mp h with h | h
  · rw [List.eq_of_mem_replicate h]
    decide
  · exact isDigit_of_mem_ofNat h

/-- Numbers of a fixed width are in the order of their texts. -/
theorem padded_lt_padded {width m n : Nat} (hw : 0 < width) (hn : n < 10 ^ width) (h : m < n) :
    padded width m < padded width n := by
  refine lt_of_natOfDigits_lt (fun c => isDigit_of_mem_padded) (fun c => isDigit_of_mem_padded)
    ?_ ?_
  · rw [length_padded hw (h.trans hn), length_padded hw hn]
  · rwa [natOfDigits_padded, natOfDigits_padded]

end TrackerQuery.Text
