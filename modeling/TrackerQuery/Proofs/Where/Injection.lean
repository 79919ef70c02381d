import TrackerQuery.Proofs.Literal.Reading
import TrackerQuery.Proofs.Where.Expression

/-!
# TrackerQuery.Proofs.Where.Injection

**Which text reaches the query outside a literal.**

A value reaches compiled text through quoting, so the literal that is read there is
the value and nothing else. A field reaches it as it is. Compiled text is therefore
read as the literals of its conditions exactly if no field has a quote
(`compiled_readsAs_iff`): without one the reading goes from value to value, and with
one there are more quotes in the text than in all its literals together.
-/

namespace TrackerQuery.Where

open Literal (ReadsAs isQuote)

/-! ### Reading compiled conditions -/

/-- A condition whose field has no quote adds its value to what is read. -/
theorem readsAs_render_append {c : Condition} (hc : c.IsCanonical)
    (hq : ∀ x ∈ c.field, isQuote x = false) {t : Text} {ls : List Text} (ht : ReadsAs t ls)
    (hhead : t.head? ≠ some Literal.apostrophe) :
    ReadsAs (c.render ++ t) (c.literal?.toList ++ ls) := by
  cases c with
  | compare f op literal =>
      have hfront : ∀ x ∈ f ++ .char ' ' :: op.toText ++ [.char ' '], isQuote x = false := by
        intro x hx
        rcases List.mem_append.mp hx with hx | hx
        · exact not_quote_front hq op x hx
        · exact List.mem_singleton.mp hx ▸ by decide
      have h := (ht.literal hc.2.1 hhead).outside hfront
      rwa [← List.append_assoc, ← front_append] at h
  | check f n =>
      refine ht.outside fun x hx => ?_
      rcases List.mem_append.mp hx with hx | hx
      · exact hq x hx
      · rcases List.mem_cons.mp hx with rfl | hx
        · decide
        · exact isQuote_toText_nullCheck n x hx

theorem readsAs_render {cs : List Condition} (hc : ∀ c ∈ cs, c.IsCanonical)
    (hq : ∀ c ∈ cs, ∀ x ∈ c.field, isQuote x = false) :
    ReadsAs (render cs) (cs.filterMap Condition.literal?) := by
  induction cs with
  | nil => exact Literal.readsAs_nil
  | cons c cs ih =>
      have hc0 := hc c List.mem_cons_self
      have hq0 := hq c List.mem_cons_self
      have ih' := ih (fun d hd => hc d (List.mem_cons_of_mem _ hd))
        (fun d hd => hq d (List.mem_cons_of_mem _ hd))
      have hlits : (c :: cs).filterMap Condition.literal? =
          c.literal?.toList ++ cs.filterMap Condition.literal? := by
        cases h : c.literal? <;> simp [h]
      rw [hlits]
      cases cs with
      | nil =>
          have h := readsAs_render_append hc0 hq0 Literal.readsAs_nil (by simp)
          rw [List.append_nil] at h
          rwa [render_singleton]
      | cons d ds =>
          have hand : ∀ x ∈ " and ".toText, isQuote x = false := Text.forall_mem_of_any (by decide)
          have hhead : (" and ".toText ++ render (d :: ds)).head? ≠ some Literal.apostrophe := by
            change some (CodePoint.char ' ') ≠ some Literal.apostrophe
            decide
          have h := readsAs_render_append hc0 hq0 (ih'.outside hand) hhead
          rwa [render_cons_cons, List.append_assoc]

/-! ### Counting quotes -/

theorem countP_quote_render_condition (c : Condition) :
    c.render.countP isQuote =
      c.field.countP isQuote + c.literal?.toList.flatten.countP isQuote := by
  have hspace : isQuote ' ' = false := by decide
  cases c with
  | compare f op literal =>
      have hop : op.toText.countP isQuote = 0 :=
        List.countP_eq_zero.mpr fun x hx => by simp [isQuote_toText op x hx]
      simp [Condition.render, Condition.field, Condition.literal?, hspace, hop]
  | check f n =>
      have hop : n.toText.countP isQuote = 0 :=
        List.countP_eq_zero.mpr fun x hx => by simp [isQuote_toText_nullCheck n x hx]
      simp [Condition.render, Condition.field, Condition.literal?, hspace, hop]

/-- The quotes of compiled text are those of the fields and those of the values. -/
theorem countP_quote_render (cs : List Condition) :
    (render cs).countP isQuote =
      (cs.flatMap Condition.field).countP isQuote +
        (cs.filterMap Condition.literal?).flatten.countP isQuote := by
  have hand : " and ".toText.countP isQuote = 0 := by decide
  induction cs with
  | nil => rfl
  | cons c cs ih =>
      have hlits : ((c :: cs).filterMap Condition.literal?).flatten =
          c.literal?.toList.flatten ++ (cs.filterMap Condition.literal?).flatten := by
        cases h : c.literal? <;> simp [h]
      have hstep : (render (c :: cs)).countP isQuote =
          c.render.countP isQuote + (render cs).countP isQuote := by
        cases cs with
        | nil => rw [render_singleton]; rfl
        | cons d ds =>
            rw [render_cons_cons, List.countP_append, List.countP_append, hand, Nat.add_zero]
      rw [hstep, ih, hlits, List.countP_append, List.flatMap_cons, List.countP_append,
        countP_quote_render_condition]
      omega

/-! ### Main statement -/

/-- **What compiled text is read as.** The literals that are found in it are the values of its
comparisons, in order and each of them closed, and no quote stands outside them, if and only if no
field has a quote. -/
theorem compiled_readsAs_iff {w out : Text} (h : compile w = .ok out) :
    ∃ cs, parse w = .ok cs ∧
      (ReadsAs out (cs.filterMap Condition.literal?) ↔
        ∀ c ∈ cs, ∀ x ∈ c.field, isQuote x = false) := by
  obtain ⟨cs, hw, rfl⟩ := compile_eq_ok.mp h
  refine ⟨cs, hw, fun hread c hc x hx => ?_, fun hq => ?_⟩
  -- all quotes of the text are in its literals, so none is left for a field
  · have hcount := hread.countP_quote
    rw [countP_quote_render, Nat.add_eq_right, List.countP_eq_zero] at hcount
    exact Bool.eq_false_iff.mpr (hcount x (List.mem_flatMap.mpr ⟨c, hc, hx⟩))
  · exact readsAs_render (fun c hc => isCanonical_of_mem_parse hw hc) hq

theorem compiled_readsAs_iff_escaped :
    let w := "Id is null and Name eq O'Brien".toText
    let out := "Id is null and Name eq 'O''Brien'".toText
    compile w = .ok out ∧ ∃ cs, parse w = .ok cs ∧
      (ReadsAs out (cs.filterMap Condition.literal?) ↔
        ∀ c ∈ cs, ∀ x ∈ c.field, isQuote x = false) := by
  intro w out
  have hw : compile w = .ok out := by rfl
  exact ⟨hw, compiled_readsAs_iff hw⟩

/-- An apostrophe in a field opens a literal: what is read behind it is not the value, and it is
not closed. -/
theorem not_readsAs_of_quote_in_field :
    let w := "O'Brien eq 5".toText
    let cs := [.compare "O'Brien".toText .eq "'5'".toText]
    let out := "O'Brien eq '5'".toText
    parse w = .ok cs ∧ compile w = .ok out ∧ Literal.read out = none ∧
      ¬ReadsAs out (cs.filterMap Condition.literal?) := by
  intro w cs out
  have hread : Literal.read out = none := by rfl
  refine ⟨by rfl, by rfl, hread, ?_⟩
  rintro ⟨outside, hout, -⟩
  rw [hread] at hout
  exact absurd hout (by simp)

end TrackerQuery.Where
