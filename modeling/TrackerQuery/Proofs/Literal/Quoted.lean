import TrackerQuery.Literal.Quoted
import TrackerQuery.Proofs.Text.Blank

/-!
# TrackerQuery.Proofs.Literal.Quoted

Laws of **text literals**.

Collapsing undoes doubling, so the quoting of a literal is that literal, and what
is read behind an opening apostrophe is the text that was doubled. Quoting adds
apostrophes and takes away quotes; every other character of a text stays
(`countP_meaning`).
-/

namespace TrackerQuery.Literal

/-! ### Doubling and its inverses -/

@[simp] theorem double_nil : double [] = [] := rfl

@[simp] theorem double_apostrophe (t : Text) :
    double (apostrophe :: t) = apostrophe :: apostrophe :: double t := by
  rw [double, if_pos rfl]

theorem double_cons_of_ne {c : CodePoint} (hc : c ≠ apostrophe) (t : Text) :
    double (c :: t) = c :: double t := by
  rw [double, if_neg hc]

theorem double_eq_self {t : Text} (h : apostrophe ∉ t) : double t = t := by
  induction t with
  | nil => rfl
  | cons c t ih =>
      have hc : c ≠ apostrophe := fun e => h (e ▸ List.mem_cons_self)
      rw [double_cons_of_ne hc, ih fun hm => h (List.mem_cons_of_mem c hm)]

theorem collapse_cons_of_ne {c : CodePoint} (hc : c ≠ apostrophe) (t : Text) :
    collapse (c :: t) = c :: collapse t := by
  cases t with
  | nil => rfl
  | cons d t => rw [collapse, if_neg (fun h => hc h.1)]

@[simp] theorem collapse_pair (t : Text) :
    collapse (apostrophe :: apostrophe :: t) = apostrophe :: collapse t := by
  rw [collapse, if_pos ⟨rfl, rfl⟩]

theorem closeFrom_cons_of_ne {c : CodePoint} (hc : c ≠ apostrophe) (t : Text) :
    closeFrom (c :: t) = (closeFrom t).map fun p => (c :: p.1, p.2) := by
  cases t with
  | nil => simp [closeFrom, hc]
  | cons d t => rw [closeFrom, if_neg hc]

@[simp] theorem closeFrom_pair (t : Text) :
    closeFrom (apostrophe :: apostrophe :: t) =
      (closeFrom t).map fun p => (apostrophe :: p.1, p.2) := by
  rw [closeFrom, if_pos rfl, if_pos rfl]

theorem collapse_double (t : Text) : collapse (double t) = t := by
  induction t with
  | nil => rfl
  | cons c t ih =>
      by_cases hc : c = apostrophe
      · rw [hc, double_apostrophe, collapse_pair, ih]
      · rw [double_cons_of_ne hc, collapse_cons_of_ne hc, ih]

/-- A literal is closed by the apostrophe behind its text, unless another one follows. -/
theorem closeFrom_double (t : Text) {rest : Text} (hr : rest.head? ≠ some apostrophe) :
    closeFrom (double t ++ apostrophe :: rest) = some (t, rest) := by
  induction t with
  | nil =>
      cases rest with
      | nil => rfl
      | cons d rest =>
          have hd : d ≠ apostrophe := fun h => hr (by rw [h, List.head?_cons])
          rw [double_nil, List.nil_append, closeFrom, if_pos rfl, if_neg hd]
  | cons c t ih =>
      by_cases hc : c = apostrophe
      · rw [hc, double_apostrophe, List.cons_append, List.cons_append, closeFrom_pair, ih,
          Option.map_some]
      · rw [double_cons_of_ne hc, List.cons_append, closeFrom_cons_of_ne hc, ih, Option.map_some]

/-- Two texts that start with a literal that another apostrophe does not follow start with the
same one if they are equal. -/
theorem ofText_append_inj {t u rest rest' : Text} (hr : rest.head? ≠ some apostrophe)
    (hr' : rest'.head? ≠ some apostrophe) (h : ofText t ++ rest = ofText u ++ rest') : t = u := by
  simp only [ofText, List.cons_append, List.append_assoc, List.nil_append, List.cons.injEq,
    true_and] at h
  have hc := closeFrom_double t hr
  rw [h, closeFrom_double u hr'] at hc
  exact (congrArg Prod.fst (Option.some.inj hc)).symm

/-! ### Quoting a literal -/

theorem dropClosing_concat {c : CodePoint} (hc : isQuote c = true) (t : Text) :
    dropClosing (t ++ [c]) = t := by
  rw [dropClosing, List.reverse_append, List.reverse_singleton, List.singleton_append, dropOpening,
    if_pos hc, List.reverse_reverse]

theorem meaning_ofText (t : Text) : meaning (ofText t) = t := by
  have hw : isWrapped (ofText t) = true := by simp [isWrapped, ofText]
  have hd : dropOpening (ofText t) = double t ++ [apostrophe] := rfl
  rw [meaning, hd, dropClosing_concat rfl, if_pos hw, collapse_double]

theorem quote_ofText (t : Text) : quote (ofText t) = ofText t := by
  rw [quote, meaning_ofText]

/-- Holds of the texts that are literals. -/
def IsLiteral (t : Text) : Prop :=
  ∃ inner, t = ofText inner

theorem isLiteral_quote (raw : Text) : IsLiteral (quote raw) :=
  ⟨meaning raw, rfl⟩

theorem IsLiteral.quote_eq {t : Text} (h : IsLiteral t) : quote t = t := by
  obtain ⟨inner, rfl⟩ := h
  exact quote_ofText inner

theorem IsLiteral.eq_cons {t : Text} (h : IsLiteral t) : ∃ u, t = apostrophe :: u := by
  obtain ⟨inner, rfl⟩ := h
  exact ⟨_, rfl⟩

theorem IsLiteral.isTrimmed {t : Text} (h : IsLiteral t) : Text.IsTrimmed t := by
  obtain ⟨inner, rfl⟩ := h
  constructor
  · rw [ofText, List.cons_append, Text.startsDark_cons]
    decide
  · rw [ofText, List.reverse_append, List.reverse_singleton, List.singleton_append,
      Text.startsDark_cons]
    decide

/-! ### The characters of a literal -/

@[simp] theorem mem_double {c : CodePoint} {t : Text} : c ∈ double t ↔ c ∈ t := by
  induction t with
  | nil => rfl
  | cons d t ih =>
      by_cases hd : d = apostrophe
      · simp [hd, ih]
      · simp [double_cons_of_ne hd, ih]

theorem mem_of_mem_collapse {c : CodePoint} {t : Text} (h : c ∈ collapse t) : c ∈ t := by
  fun_induction collapse t with
  | case1 => exact h
  | case2 => exact h
  | case3 d e rest hde ih =>
      rcases List.mem_cons.mp h with rfl | h
      · exact hde.1 ▸ List.mem_cons_self
      · exact List.mem_cons_of_mem _ (List.mem_cons_of_mem _ (ih h))
  | case4 d e rest hde ih =>
      rcases List.mem_cons.mp h with rfl | h
      · exact List.mem_cons_self
      · exact List.mem_cons_of_mem _ (ih h)

theorem mem_of_mem_dropOpening {c : CodePoint} {t : Text} (h : c ∈ dropOpening t) : c ∈ t := by
  cases t with
  | nil => exact h
  | cons d t =>
      rw [dropOpening] at h
      split at h
      · exact List.mem_cons_of_mem _ h
      · exact h

theorem mem_of_mem_meaning {c : CodePoint} {raw : Text} (h : c ∈ meaning raw) : c ∈ raw := by
  have hbare : c ∈ dropClosing (dropOpening raw) := by
    rw [meaning] at h
    split at h
    · exact mem_of_mem_collapse h
    · exact h
  rw [dropClosing, List.mem_reverse] at hbare
  exact mem_of_mem_dropOpening (List.mem_reverse.mp (mem_of_mem_dropOpening hbare))

theorem mem_ofText {c : CodePoint} {t : Text} : c ∈ ofText t ↔ c = apostrophe ∨ c ∈ t := by
  simp only [ofText, List.cons_append, List.mem_cons, List.mem_append, mem_double,
    List.not_mem_nil, or_false]
  constructor
  · rintro (h | h | h)
    · exact Or.inl h
    · exact Or.inr h
    · exact Or.inl h
  · rintro (h | h)
    · exact Or.inl h
    · exact Or.inr (Or.inl h)

/-- A literal has no characters but apostrophes and those of what it was made from. -/
theorem mem_of_mem_quote {c : CodePoint} {raw : Text} (h : c ∈ quote raw) :
    c = apostrophe ∨ c ∈ raw :=
  (mem_ofText.mp h).imp_right mem_of_mem_meaning

/-! ### Counting characters that are not apostrophes -/

section Count

variable {p : CodePoint → Bool} (hp : p apostrophe = false)
include hp

theorem countP_double (t : Text) : (double t).countP p = t.countP p := by
  induction t with
  | nil => rfl
  | cons c t ih =>
      by_cases hc : c = apostrophe
      · simp [hc, hp, ih]
      · rw [double_cons_of_ne hc, List.countP_cons, List.countP_cons, ih]

theorem countP_collapse (t : Text) : (collapse t).countP p = t.countP p := by
  fun_induction collapse t with
  | case1 => rfl
  | case2 => rfl
  | case3 c d rest hcd ih => simp [hcd.1, hcd.2, hp, ih]
  | case4 c d rest hcd ih => rw [List.countP_cons, ih, ← List.countP_cons]

theorem countP_ofText (t : Text) : (ofText t).countP p = t.countP p := by
  simp [ofText, List.countP_append, hp, countP_double hp]

omit hp in
theorem countP_dropOpening (t : Text) :
    (dropOpening t).countP p ≤ t.countP p ∧ t.countP p ≤ (dropOpening t).countP p + 1 := by
  cases t with
  | nil => simp [dropOpening]
  | cons c t =>
      rw [dropOpening]
      split
      · rw [List.countP_cons]
        split <;> omega
      · omega

omit hp in
theorem countP_dropClosing (t : Text) :
    (dropClosing t).countP p ≤ t.countP p ∧ t.countP p ≤ (dropClosing t).countP p + 1 := by
  have h := countP_dropOpening (p := p) t.reverse
  rw [List.countP_reverse] at h
  rw [dropClosing, List.countP_reverse]
  exact h

/-- What a caller means has at most two characters fewer than what they wrote, apostrophes
aside. -/
theorem countP_meaning (raw : Text) :
    (meaning raw).countP p ≤ raw.countP p ∧ raw.countP p ≤ (meaning raw).countP p + 2 := by
  have hbare : (meaning raw).countP p = (dropClosing (dropOpening raw)).countP p := by
    rw [meaning]
    split
    · exact countP_collapse hp _
    · rfl
  have ho := countP_dropOpening (p := p) raw
  have hc := countP_dropClosing (p := p) (dropOpening raw)
  omega

end Count

end TrackerQuery.Literal
