import TrackerQuery.Proofs.Field
import TrackerQuery.Proofs.Literal.Quoted
import TrackerQuery.Proofs.Text.Keyword
import TrackerQuery.Where.Condition

/-!
# TrackerQuery.Proofs.Where.Condition

**Reading a clause** and writing the condition back.

A condition that was read from a trimmed clause is canonical: its field is a
canonical word and its value, if it has one, a literal without a line feed
(`isCanonical_of_ofClause?`). A canonical condition is read back from its compiled
text (`ofClause?_render`), since the words in front of the value decide which form
a clause has: a keyword is found in front of a space only if the word there is that
keyword (`beforeKeyword?_word`), and a literal ends in no letter.
-/

namespace TrackerQuery

namespace Condition

/-! ### Null checks -/

theorem beforeWords?_eq_some {words : List Text} (hne : words ≠ [])
    {start reversed blanks front : Text}
    (h : beforeWords? words start reversed = some (blanks, front)) :
    Text.StartsDark front ∧ front <:+ reversed := by
  induction words generalizing start reversed with
  | nil => exact absurd rfl hne
  | cons word more ih =>
      rw [beforeWords?] at h
      split at h
      · exact absurd h (by simp)
      · next bl rest hb =>
          obtain ⟨hd, hs⟩ := Text.beforeKeyword?_eq_some hb
          cases more with
          | nil =>
              obtain ⟨-, rfl⟩ := Prod.mk.inj (Option.some.inj h)
              exact ⟨hd, hs⟩
          | cons word' more =>
              obtain ⟨hd', hs'⟩ := ih (List.cons_ne_nil _ _) h
              exact ⟨hd', hs'.trans hs⟩

/-- The field of a null check has a character that is not blank, and only characters of the
clause. -/
theorem checkedField?_eq_some {n : NullCheck} {clause field : Text}
    (hc : Text.StartsDark clause) (h : checkedField? n clause = some field) :
    (∃ x ∈ field, Text.isBlank x = false) ∧ field ⊆ clause := by
  have hwords : n.words.reverse ≠ [] := by cases n <;> decide
  rw [checkedField?] at h
  split at h
  · exact absurd h (by simp)
  · next blanks front hb =>
      obtain ⟨hdark, hsuffix⟩ := beforeWords?_eq_some hwords hb
      simp only [Option.ite_none_left_eq_some, Option.some.injEq] at h
      obtain ⟨hne, rfl⟩ := h
      cases hf : front with
      | nil =>
          subst hf
          cases clause with
          | nil => simp at hne
          | cons c clause =>
              have htwo : 2 ≤ blanks.length := by
                by_contra hlt
                simp [hlt] at hne
              simp only [List.isEmpty_nil, if_true, if_pos htwo, List.take_succ_cons,
                List.take_zero]
              exact ⟨⟨c, List.mem_singleton_self c, by simpa using hc⟩, by simp⟩
      | cons d front' =>
          rw [hf] at hdark hsuffix
          simp only [List.isEmpty_cons, Bool.false_eq_true, if_false]
          refine ⟨⟨d, by simp, by simpa using hdark⟩, fun x hx => ?_⟩
          exact List.mem_reverse.mp (hsuffix.subset (List.mem_reverse.mp hx))

/-- No letter of the words of a null check stands for a space. -/
theorem foldsTo_space_of_mem_words (n : NullCheck) :
    ∀ word ∈ n.words, ∀ l ∈ word, Text.foldsTo l ' ' = false := by
  have hany : ∀ word ∈ n.words, word.any (Text.foldsTo · ' ') = false := by cases n <;> decide
  exact fun word hword => Text.forall_mem_of_any (p := (Text.foldsTo · ' ')) (hany word hword)

/-- The last word of a text decides whether the last word of a null check is found there. -/
theorem beforeWords?_cons_word {word : Text} (hk : ∀ l ∈ word, Text.foldsTo l ' ' = false)
    {w rest : Text} (hw : ∀ c ∈ w, Text.isBlank c = false) (hr : Text.StartsDark rest)
    (more : List Text) (start : Text) :
    beforeWords? (word :: more) start (w ++ .char ' ' :: rest) =
      if Text.isKeyword word.reverse w then beforeWords? more [' '] rest else none := by
  rw [beforeWords?, Text.beforeKeyword?_word hk hw hr]
  cases Text.isKeyword word.reverse w <;> rfl

/-- A clause that ends in a character that stands for no `l` is no null check. -/
theorem checkedField?_concat (n : NullCheck) {c : CodePoint} (hc : Text.foldsTo 'l' c = false)
    (t : Text) : checkedField? n (t ++ [c]) = none := by
  have hnone : Text.beforeKeyword? ['n', 'u', 'l', 'l'] (c :: t.reverse) = none := by
    simp [Text.beforeKeyword?, Text.afterKeyword?, hc]
  cases n <;> simp [checkedField?, NullCheck.words, beforeWords?, hnone]

/-- A comparison with a single word is no null check. -/
theorem checkedField?_compare (n : NullCheck) (f : Text) (op : Comparison) {w : Text}
    (hw : Text.IsWord w) :
    checkedField? n (f ++ .char ' ' :: op.toText ++ .char ' ' :: w) = none := by
  have hrev : (f ++ .char ' ' :: op.toText ++ .char ' ' :: w).reverse =
      w.reverse ++ .char ' ' :: (op.toText.reverse ++ .char ' ' :: f.reverse) := by simp
  have hdark : Text.StartsDark (op.toText.reverse ++ .char ' ' :: f.reverse) := by
    cases op <;> exact Text.startsDark_cons.mpr (by decide)
  -- behind the last word stands a comparison, where *is* or *not* should stand
  have hnone : ∀ word more start, word = "is".toText ∨ word = "not".toText →
      beforeWords? (word :: more) start (op.toText.reverse ++ .char ' ' :: f.reverse) = none := by
    rintro word more start (rfl | rfl) <;> cases op <;> rfl
  have hk := foldsTo_space_of_mem_words n
  rw [checkedField?, hrev]
  cases n with
  | isNull =>
      rw [show NullCheck.isNull.words.reverse = ["null".toText, "is".toText] from rfl,
        beforeWords?_cons_word (hk _ (by decide)) hw.reverse.2 hdark, hnone _ _ _ (Or.inl rfl)]
      simp
  | isNotNull =>
      rw [show NullCheck.isNotNull.words.reverse =
          ["null".toText, "not".toText, "is".toText] from rfl,
        beforeWords?_cons_word (hk _ (by decide)) hw.reverse.2 hdark, hnone _ _ _ (Or.inr rfl)]
      simp

/-- Words with a space in front of each are found again, from the last to the first. -/
theorem beforeWords?_foldr {words : List Text} {front : Text} (hne : words ≠ [])
    (hk : ∀ word ∈ words, ∀ l ∈ word, Text.foldsTo l ' ' = false)
    (hw : ∀ word ∈ words, Text.IsWord word ∧ Text.isKeyword word.reverse word.reverse = true)
    (hf : Text.StartsDark front) (start : Text) :
    beforeWords? words start (words.foldr (fun word t => word.reverse ++ .char ' ' :: t) front) =
      some ([.char ' '], front) := by
  induction words generalizing start with
  | nil => exact absurd rfl hne
  | cons word more ih =>
      have hword := hw word List.mem_cons_self
      have hdark :
          Text.StartsDark (more.foldr (fun word t => word.reverse ++ .char ' ' :: t) front) := by
        cases more with
        | nil => exact hf
        | cons w ws =>
            have hr := (hw w (List.mem_cons_of_mem _ List.mem_cons_self)).1.reverse
            exact hr.startsDark.append hr.1 _
      rw [List.foldr_cons,
        beforeWords?_cons_word (hk word List.mem_cons_self) hword.1.reverse.2 hdark,
        if_pos hword.2]
      cases more with
      | nil => rfl
      | cons w ws =>
          exact ih (List.cons_ne_nil w ws) (fun x hx => hk x (List.mem_cons_of_mem _ hx))
            (fun x hx => hw x (List.mem_cons_of_mem _ hx)) [' ']

theorem checkedField?_render {n : NullCheck} {f : Text} (hf : Text.IsWord f) :
    checkedField? n (f ++ .char ' ' :: n.toText) = some f := by
  have hnl : .char '\n' ∉ f := fun h => absurd (hf.2 _ h) (by decide)
  have hempty : f.reverse.isEmpty = false := by simpa using hf.1
  have hrev : (f ++ .char ' ' :: n.toText).reverse =
      n.words.reverse.foldr (fun word t => word.reverse ++ .char ' ' :: t) f.reverse := by
    cases n <;> simp [NullCheck.toText, NullCheck.words, Text.join]
  have hb := @beforeWords?_foldr n.words.reverse f.reverse (by cases n <;> decide)
    (fun word hword => foldsTo_space_of_mem_words n word (List.mem_reverse.mp hword))
    (by cases n <;> decide) hf.reverse.startsDark []
  rw [checkedField?, hrev, hb]
  simp [hempty, hf.1, hnl]

/-- The longer null check is not mistaken for the shorter one. -/
theorem checkedField?_isNull_isNotNull (f : Text) :
    checkedField? .isNull (f ++ .char ' ' :: NullCheck.isNotNull.toText) = none := by
  have hb : beforeWords? NullCheck.isNull.words.reverse []
      (f ++ .char ' ' :: NullCheck.isNotNull.toText).reverse = none := by
    rw [show (f ++ .char ' ' :: NullCheck.isNotNull.toText).reverse =
        "llun ton si ".toText ++ f.reverse by
          simp [NullCheck.toText, NullCheck.words, Text.join]
          rfl]
    rfl
  rw [checkedField?, hb]

/-! ### Comparisons -/

theorem afterWords?_suffix {words : List Text} {t rest : Text}
    (h : afterWords? words t = some rest) : rest <:+ t := by
  fun_induction afterWords? words t with
  | case1 t => exact Option.some.inj h ▸ List.suffix_refl _
  | case2 t word => exact Text.afterKeyword?_suffix h
  | case3 => exact absurd h (by simp)
  | case4 => exact absurd h (by simp)
  | case5 t word more hmore rest' ha hl ih =>
      exact ((ih h).trans (Text.dropBlank_suffix rest')).trans (Text.afterKeyword?_suffix ha)

theorem comparedValue?_suffix {op : Comparison} {t value : Text}
    (h : comparedValue? op t = some value) : value <:+ t := by
  rw [comparedValue?] at h
  split at h
  · exact absurd h (by simp)
  · next rest ha =>
      have hrest := afterWords?_suffix ha
      simp only at h
      split at h
      · exact absurd h (by simp)
      · split at h
        · exact Option.some.inj h ▸ (Text.dropBlank_suffix rest).trans hrest
        · next hempty =>
            -- without a value the last blank serves as one, and all that is left is blank
            split at h
            · have hnil : Text.dropBlank rest = [] := by simpa using hempty
              have hblank : Text.leadingBlank rest = rest := by
                simpa [hnil] using Text.leadingBlank_append_dropBlank rest
              rw [hblank] at h
              exact Option.some.inj h ▸ (List.drop_suffix _ _).trans hrest
            · exact absurd h (by simp)

theorem matchComparison?_suffix {t value : Text} {ops : List Comparison} {op : Comparison}
    (h : matchComparison? t ops = some (op, value)) : value <:+ t := by
  fun_induction matchComparison? t ops with
  | case1 => exact absurd h (by simp)
  | case2 op' more value' hv =>
      obtain ⟨-, rfl⟩ := Prod.mk.inj (Option.some.inj h)
      exact comparedValue?_suffix hv
  | case3 op' more hv ih => exact ih h

/-- A comparison and its value are found again. -/
theorem matchComparison?_append (op : Comparison) {v : Text} (hne : v ≠ [])
    (hd : Text.StartsDark v) :
    matchComparison? (op.toText ++ .char ' ' :: v) Comparison.matchOrder = some (op, v) := by
  obtain ⟨c, v, rfl⟩ := List.exists_cons_of_ne_nil hne
  have hc : Text.isBlank c = false := by simpa using hd
  cases op <;>
    simp [matchComparison?, Comparison.matchOrder, Comparison.toText, Comparison.words, Text.join,
      comparedValue?, afterWords?, Text.afterKeyword?, Text.foldsTo, CodePoint.toUpper,
      CodePoint.isLower, CodePoint.ofNat, Text.leadingBlank, Text.dropBlank, hc,
      show Text.isBlank ' ' = true from by decide,
      show Text.isBlank 'c' = false from by decide]

theorem cutField?_eq_some {clause f rest : Text} (h : cutField? clause = some (f, rest)) :
    Text.IsWord f ∧ .char '\n' ∉ rest ∧ f ⊆ clause ∧ rest ⊆ clause := by
  rw [cutField?] at h
  simp only [Option.ite_none_left_eq_some, Option.some.injEq, Prod.mk.injEq] at h
  obtain ⟨hcond, rfl, rfl⟩ := h
  simp only [Bool.or_eq_true, not_or, Bool.not_eq_true, List.isEmpty_eq_false_iff,
    List.contains_eq_mem, decide_eq_false_iff_not] at hcond
  refine ⟨Text.isWord_firstWord hcond.1.1.1, hcond.2, List.takeWhile_subset _, ?_⟩
  exact List.Subset.trans (Text.dropBlank_suffix _).subset (List.dropWhile_subset _)

theorem cutField?_append {f rest : Text} (hf : Text.IsWord f) (hne : rest ≠ [])
    (hd : Text.StartsDark rest) (hnl : .char '\n' ∉ rest) :
    cutField? (f ++ .char ' ' :: rest) = some (f, rest) := by
  have hb : Text.isBlank ' ' = true := by decide
  rw [cutField?, Text.firstWord_append hf hb, Text.afterWord_append hf hb, Text.dropBlank_cons hb,
    Text.dropBlank_eq_self hd]
  simp [hf.1, hne, hnl]

theorem startsDark_toText_append (op : Comparison) (t : Text) :
    Text.StartsDark (op.toText ++ t) := by
  cases op <;> exact Text.startsDark_cons.mpr (by decide)

/-- A word, a comparison and a value are read as such. -/
theorem comparison?_append {f v : Text} (hf : Text.IsWord f) (op : Comparison) (hne : v ≠ [])
    (hd : Text.StartsDark v) (hnl : .char '\n' ∉ v) :
    comparison? (f ++ .char ' ' :: op.toText ++ .char ' ' :: v) =
      some (compare (Field.sanitize f) op (Literal.quote (Text.strip v))) := by
  have hop : .char '\n' ∉ op.toText := by cases op <;> decide
  have hcut : cutField? (f ++ .char ' ' :: (op.toText ++ .char ' ' :: v)) =
      some (f, op.toText ++ .char ' ' :: v) := by
    refine cutField?_append hf (by simp) (startsDark_toText_append op _) ?_
    simp [hop, hnl]
  rw [List.append_assoc, List.cons_append, comparison?, hcut]
  simp only [matchComparison?_append op hne hd]

theorem comparison?_append_newline {f v : Text} (hf : Text.IsWord f) (op : Comparison)
    (hnl : .char '\n' ∈ v) :
    comparison? (f ++ .char ' ' :: op.toText ++ .char ' ' :: v) = none := by
  have hb : Text.isBlank ' ' = true := by decide
  have hcut : cutField? (f ++ .char ' ' :: (op.toText ++ .char ' ' :: v)) = none := by
    rw [cutField?, Text.firstWord_append hf hb, Text.afterWord_append hf hb,
      Text.dropBlank_cons hb, Text.dropBlank_eq_self (startsDark_toText_append op _)]
    simp [hnl]
  rw [List.append_assoc, List.cons_append, comparison?, hcut]

/-! ### Clauses -/

/-- Holds of the conditions that compiled text is made from: fields are canonical words, and a
value is a literal in which no line ends. -/
def IsCanonical : Condition → Prop
  | compare f _ literal => Field.IsCanonical f ∧ Literal.IsLiteral literal ∧ .char '\n' ∉ literal
  | check f _ => Field.IsCanonical f

theorem IsCanonical.field {c : Condition} (h : c.IsCanonical) : Field.IsCanonical c.field := by
  cases c with
  | compare f op literal => exact h.1
  | check f op => exact h

/-- How a clause is read: as a null check, or else as a comparison. -/
theorem ofClause?_eq_some {clause : Text} {c : Condition} (h : ofClause? clause = some c) :
    (∃ n field, checkedField? n clause = some field ∧
      c = check (Field.sanitize (Text.strip field)) n) ∨ comparison? clause = some c := by
  rw [ofClause?] at h
  split at h
  · next field hf => exact Or.inl ⟨_, field, hf, (Option.some.inj h).symm⟩
  · split at h
    · next field hf => exact Or.inl ⟨_, field, hf, (Option.some.inj h).symm⟩
    · exact Or.inr h

theorem comparison?_eq_some {clause : Text} {c : Condition} (h : comparison? clause = some c) :
    ∃ f op value, Text.IsWord f ∧ .char '\n' ∉ value ∧ f ⊆ clause ∧ value ⊆ clause ∧
      c = compare (Field.sanitize f) op (Literal.quote (Text.strip value)) := by
  rw [comparison?] at h
  split at h
  · exact absurd h (by simp)
  · next f rest hcut =>
      obtain ⟨hf, hnl, hfc, hrc⟩ := cutField?_eq_some hcut
      split at h
      · exact absurd h (by simp)
      · next op value hm =>
          have hv : value ⊆ rest := (matchComparison?_suffix hm).subset
          exact ⟨f, op, value, hf, fun hx => hnl (hv hx), hfc, List.Subset.trans hv hrc,
            (Option.some.inj h).symm⟩

/-- A text that has a character that is not blank keeps it when it is trimmed. -/
theorem isCanonical_sanitize_strip {field : Text} (h : ∃ x ∈ field, Text.isBlank x = false) :
    Field.IsCanonical (Field.sanitize (Text.strip field)) := by
  obtain ⟨x, hx, hb⟩ := h
  exact Field.isCanonical_sanitize (Text.mem_strip hx hb) hb

/-- **What is read is canonical.** -/
theorem isCanonical_of_ofClause? {clause : Text} (hc : Text.StartsDark clause) {c : Condition}
    (h : ofClause? clause = some c) : c.IsCanonical := by
  rcases ofClause?_eq_some h with ⟨n, field, hf, rfl⟩ | h
  · exact isCanonical_sanitize_strip (checkedField?_eq_some hc hf).1
  · obtain ⟨f, op, value, hf, hnl, -, -, rfl⟩ := comparison?_eq_some h
    refine ⟨Field.isCanonical_sanitize_of_isWord hf, Literal.isLiteral_quote _, fun hx => ?_⟩
    rcases Literal.mem_of_mem_quote hx with hx | hx
    · exact absurd hx (by decide)
    · exact hnl (Text.mem_of_mem_strip hx)

/-- A backslash in a condition is one of the clause. -/
theorem backslash_mem_of_ofClause? {clause : Text} (hc : Text.StartsDark clause) {c : Condition}
    (h : ofClause? clause = some c) (hb : .char '\\' ∈ c.render) : .char '\\' ∈ clause := by
  have hfield : ∀ {f : Text}, f ⊆ clause → .char '\\' ∈ Field.sanitize f → .char '\\' ∈ clause := by
    intro f hf hx
    rcases Field.mem_of_mem_sanitize hx with hx | hx
    · exact absurd hx (by decide)
    · exact hf hx
  rcases ofClause?_eq_some h with ⟨n, field, hf, rfl⟩ | h
  · have hop : .char '\\' ∉ n.toText := by cases n <;> decide
    have hsub := (checkedField?_eq_some hc hf).2
    refine hfield (f := Text.strip field) (fun x hx => hsub (Text.mem_of_mem_strip hx)) ?_
    simpa [render, hop] using hb
  · obtain ⟨f, op, value, -, -, hfc, hvc, rfl⟩ := comparison?_eq_some h
    have hop : .char '\\' ∉ op.toText := by cases op <;> decide
    simp only [render, List.cons_append, List.mem_append, List.mem_cons, List.append_assoc] at hb
    rcases hb with hb | hb | hb | hb | hb
    · exact hfield hfc hb
    · exact absurd hb (by decide)
    · exact absurd hb hop
    · exact absurd hb (by decide)
    · rcases Literal.mem_of_mem_quote hb with hb | hb
      · exact absurd hb (by decide)
      · exact hvc (Text.mem_of_mem_strip hb)

/-- Compiled text starts with the field and a space. -/
theorem render_eq_append (c : Condition) : ∃ u, c.render = c.field ++ .char ' ' :: u := by
  cases c with
  | compare f op literal => exact ⟨op.toText ++ .char ' ' :: literal, by simp [render, field]⟩
  | check f n => exact ⟨n.toText, rfl⟩

/-- A clause of a word, a comparison and a value that ends in no letter of a null check. -/
theorem ofClause?_concat {f t : Text} {c : CodePoint} (hf : Text.IsWord f) (op : Comparison)
    (hc : Text.foldsTo 'l' c = false) (ht : Text.IsTrimmed (t ++ [c]))
    (hnl : .char '\n' ∉ t ++ [c]) :
    ofClause? (f ++ .char ' ' :: op.toText ++ .char ' ' :: (t ++ [c])) =
      some (compare (Field.sanitize f) op (Literal.quote (t ++ [c]))) := by
  have hcheck : ∀ n,
      checkedField? n (f ++ .char ' ' :: op.toText ++ .char ' ' :: (t ++ [c])) = none := by
    intro n
    rw [← List.cons_append, ← List.append_assoc]
    exact checkedField?_concat n hc _
  rw [ofClause?, hcheck, hcheck]
  simp only [comparison?_append hf op (List.concat_ne_nil c t) ht.1 hnl, Text.strip_eq_self ht]

/-- A clause of a word, a comparison and a literal. -/
theorem ofClause?_literal {f literal : Text} (hf : Text.IsWord f) (op : Comparison)
    (hl : Literal.IsLiteral literal) (hnl : .char '\n' ∉ literal) :
    ofClause? (f ++ .char ' ' :: op.toText ++ .char ' ' :: literal) =
      some (compare (Field.sanitize f) op literal) := by
  have ht := hl.isTrimmed
  have hquote := hl.quote_eq
  obtain ⟨inner, rfl⟩ := hl
  rw [Literal.ofText] at hnl ht hquote ⊢
  rw [ofClause?_concat hf op (by decide) ht hnl, hquote]

/-- A clause of a word, a comparison and another word. -/
theorem ofClause?_word {f w : Text} (hf : Text.IsWord f) (op : Comparison) (hw : Text.IsWord w) :
    ofClause? (f ++ .char ' ' :: op.toText ++ .char ' ' :: w) =
      some (compare (Field.sanitize f) op (Literal.quote w)) := by
  have hnl : .char '\n' ∉ w := fun h => absurd (hw.2 _ h) (by decide)
  rw [ofClause?, checkedField?_compare _ f op hw, checkedField?_compare _ f op hw]
  simp only [comparison?_append hf op hw.1 hw.startsDark hnl, Text.strip_eq_self hw.isTrimmed]

theorem ofClause?_nil : ofClause? [] = none := rfl

/-- A clause of a word and a null check. -/
theorem ofClause?_check {f : Text} (hf : Text.IsWord f) (n : NullCheck) :
    ofClause? (f ++ .char ' ' :: n.toText) = some (check (Field.sanitize f) n) := by
  cases n with
  | isNull =>
      rw [ofClause?, checkedField?_render hf]
      simp only [Text.strip_eq_self hf.isTrimmed]
  | isNotNull =>
      rw [ofClause?, checkedField?_isNull_isNotNull, checkedField?_render hf]
      simp only [Text.strip_eq_self hf.isTrimmed]

/-- A clause of a word and a comparison without a value is no condition. -/
theorem ofClause?_no_value {f : Text} (hf : Text.IsWord f) (op : Comparison) :
    ofClause? (f ++ .char ' ' :: op.toText) = none := by
  have hcheck : ∀ n, checkedField? n (f ++ .char ' ' :: op.toText) = none := by
    intro n
    obtain ⟨t, c, hc, ht⟩ : ∃ t c, Text.foldsTo 'l' c = false ∧ op.toText = t ++ [c] :=
      ⟨op.toText.dropLast, op.toText.getLast?.getD ' ', by cases op <;> decide,
        by cases op <;> decide⟩
    rw [ht, ← List.cons_append, ← List.append_assoc]
    exact checkedField?_concat n hc _
  have hcut : cutField? (f ++ .char ' ' :: op.toText) = some (f, op.toText) := by
    have hd := startsDark_toText_append op []
    rw [List.append_nil] at hd
    exact cutField?_append hf (by cases op <;> decide) hd (by cases op <;> decide)
  have hmatch : matchComparison? op.toText Comparison.matchOrder = none := by
    cases op <;> rfl
  rw [ofClause?, hcheck, hcheck]
  simp only [comparison?, hcut, hmatch]

/-- **Compiled text is read back.** -/
theorem ofClause?_render {c : Condition} (h : c.IsCanonical) : ofClause? c.render = some c := by
  cases c with
  | compare f op literal =>
      obtain ⟨⟨hw, hs⟩, hl, hnl⟩ := h
      rw [render, ofClause?_literal hw op hl hnl, hs]
  | check f n =>
      obtain ⟨hw, hs⟩ := h
      rw [render, ofClause?_check hw, hs]

/-! ### Which condition a compiled text starts with -/

/-- The words of a null check start no comparison. -/
theorem matchComparison?_nullCheck (n : NullCheck) (t : Text) :
    matchComparison? (n.toText ++ t) Comparison.matchOrder = none := by
  cases n <;> rfl

theorem toText_append_inj {n n' : NullCheck} {t u : Text}
    (h : n.toText ++ t = n'.toText ++ u) : n = n' := by
  cases n <;> cases n' <;> first
    | rfl
    | simp [NullCheck.toText, NullCheck.words, Text.join] at h

theorem matchComparison?_literal (op : Comparison) (inner t : Text) :
    matchComparison? (op.toText ++ .char ' ' :: (Literal.ofText inner ++ t)) Comparison.matchOrder =
      some (op, Literal.ofText inner ++ t) :=
  matchComparison?_append op (List.cons_ne_nil _ _) (Text.startsDark_cons.mpr (by decide))

/-- Compiled text determines the condition that it starts with. -/
theorem render_append_inj {c d : Condition} (hc : c.IsCanonical) (hd : d.IsCanonical) {t u : Text}
    (ht : t.head? ≠ some Literal.apostrophe) (hu : u.head? ≠ some Literal.apostrophe)
    (h : c.render ++ t = d.render ++ u) : c = d := by
  have hb : Text.isBlank ' ' = true := by decide
  have hfield : c.field = d.field := by
    obtain ⟨x, hx⟩ := c.render_eq_append
    obtain ⟨y, hy⟩ := d.render_eq_append
    have hfirst := congrArg Text.firstWord h
    rwa [hx, hy, List.append_assoc, List.append_assoc, List.cons_append, List.cons_append,
      Text.firstWord_append hc.field.1 hb, Text.firstWord_append hd.field.1 hb] at hfirst
  cases c <;> cases d <;> simp only [field] at hfield <;> subst hfield <;>
    simp only [render, List.append_assoc, List.cons_append, List.append_cancel_left_eq,
      List.cons.injEq, true_and] at h
  case compare.compare f op literal op' literal' =>
    obtain ⟨-, ⟨inner, rfl⟩, -⟩ := hc
    obtain ⟨-, ⟨inner', rfl⟩, -⟩ := hd
    have hm := matchComparison?_literal op inner t
    rw [h, matchComparison?_literal] at hm
    obtain ⟨rfl, hl⟩ := Prod.mk.inj (Option.some.inj hm)
    rw [Literal.ofText_append_inj hu ht hl]
  case compare.check f op literal n =>
    obtain ⟨-, ⟨inner, rfl⟩, -⟩ := hc
    have hm := matchComparison?_literal op inner t
    rw [h, matchComparison?_nullCheck] at hm
    exact absurd hm (by simp)
  case check.compare n f op literal =>
    obtain ⟨-, ⟨inner, rfl⟩, -⟩ := hd
    have hm := matchComparison?_literal op inner u
    rw [← h, matchComparison?_nullCheck] at hm
    exact absurd hm (by simp)
  case check.check f n n' => rw [toText_append_inj h]

end Condition

end TrackerQuery
