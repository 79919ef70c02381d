import Mathlib.Data.List.Forall2
import TrackerQuery.Proofs.Text.Words
import TrackerQuery.Proofs.Where.Condition
import TrackerQuery.Where.Expression

/-!
# TrackerQuery.Proofs.Where.Grammar

The **grammar of clauses**, told by words, and the parser that follows it.

A clause has one of two forms. In the first the words of a null check are its last words and
another word is in front of them (`IsCheckForm`); in the second a field, a comparison and a value
follow one another with gaps between (`IsComparisonForm`). `Reads` puts the forms in order and
rejects every other clause.

The reader of null checks works from the end of the clause, on the text read backwards. There it
is the reader of comparisons (`beforeWords?_eq`), so both rest on one statement about keywords at
the start of a text (`afterWords?_eq_some_iff`). The order in which comparisons are tried decides
nothing, since the first word of what follows the field belongs to one of them at most
(`matchComparison?_eq_some_iff`).

Main statement: `parseClause_eq_iff`.
-/

namespace TrackerQuery

/-! ### The grammar -/

/-- Holds of trimmed texts whose words are some keywords, in any case. -/
def Text.Spells (keywords : List Text) (t : Text) : Prop :=
  Text.IsTrimmed t ∧ List.Forall₂ (fun k w => Text.isKeyword k w = true) keywords (Text.words t)

/-- A clause whose last words are those of a null check, and the text in front of them. -/
structure Condition.IsCheckForm (n : NullCheck) (clause before : Text) : Prop where
  /-- The clause ends in the words of the null check. -/
  ends : ∃ last, clause = before ++ last ∧ Text.Spells n.words last
  /-- A gap is in front of them. -/
  apart : ∃ front gap, before = front ++ gap ∧ Text.IsGap gap
  /-- Another word is in front of them. -/
  words_ne_nil : Text.words before ≠ []
  /-- No line ends in it, the gap apart. -/
  one_line : .char '\n' ∉ Text.dropBlankEnd before

/-- A clause of a field, a comparison and a value. -/
structure Condition.IsComparisonForm (clause field : Text) (op : Comparison) (value : Text) :
    Prop where
  /-- The field is the first word. -/
  field_isWord : Text.IsWord field
  /-- The comparison and the value follow, in one line and with gaps between. -/
  follows : ∃ gap spelled gap', clause = field ++ gap ++ (spelled ++ gap' ++ value) ∧
    Text.IsGap gap ∧ Text.Spells op.words spelled ∧ Text.IsGap gap' ∧
    .char '\n' ∉ spelled ++ gap' ++ value
  /-- The second gap is all of the blanks there. -/
  value_startsDark : Text.StartsDark value
  /-- There is a value. -/
  value_ne_nil : value ≠ []

/-- What a clause is read as. The forms are tried in order. -/
inductive Where.Reads (clause : Text) : Except Rejection Condition → Prop where
  /-- A check that the field has no value. -/
  | isNull {before : Text} (form : Condition.IsCheckForm .isNull clause before) :
      Reads clause (.ok (.check (Field.sanitize before) .isNull))
  /-- A check that the field has a value. -/
  | isNotNull {before : Text} (other : ∀ b, ¬Condition.IsCheckForm .isNull clause b)
      (form : Condition.IsCheckForm .isNotNull clause before) :
      Reads clause (.ok (.check (Field.sanitize before) .isNotNull))
  /-- A comparison with a literal. -/
  | compare {field value : Text} {op : Comparison}
      (other : ∀ n b, ¬Condition.IsCheckForm n clause b)
      (form : Condition.IsComparisonForm clause field op value) :
      Reads clause (.ok (.compare (Field.sanitize field) op (Literal.quote value)))
  /-- No condition. -/
  | rejected (other : ∀ n b, ¬Condition.IsCheckForm n clause b)
      (form : ∀ field op value, ¬Condition.IsComparisonForm clause field op value) :
      Reads clause (.error (.badCondition clause))

namespace Text

/-! ### Keywords with gaps between -/

theorem Spells.ne_nil {ks : List Text} {t : Text} (h : Spells ks t) (hks : ks ≠ []) : t ≠ [] := by
  intro ht
  have hwords := h.2
  rw [ht, words_nil, List.forall₂_nil_right_iff] at hwords
  exact hks hwords

theorem spells_singleton {k t : Text} (hk : IsLetters k) :
    Spells [k] t ↔ isKeyword k t = true := by
  constructor
  · intro h
    cases hwords : words t with
    | nil => exact absurd h.2 (by simp [hwords])
    | cons w ws =>
        have hkeys := h.2
        rw [hwords, List.forall₂_cons, List.forall₂_nil_left_iff] at hkeys
        obtain ⟨hw, rfl⟩ := hkeys
        rwa [(eq_of_words_singleton h.1 hwords).1]
  · intro h
    have hw := isWord_of_isKeyword hk h
    refine ⟨hw.isTrimmed, ?_⟩
    rw [words_of_isWord hw]
    exact List.Forall₂.cons h List.Forall₂.nil

theorem spells_cons {k : Text} {ks : List Text} {t : Text} (hk : IsLetters k) (hks : ks ≠ []) :
    Spells (k :: ks) t ↔
      ∃ w gap u, t = w ++ gap ++ u ∧ isKeyword k w = true ∧ IsGap gap ∧ Spells ks u := by
  constructor
  · intro h
    cases hwords : words t with
    | nil => exact absurd h.2 (by simp [hwords])
    | cons w ws =>
        have hkeys := h.2
        rw [hwords, List.forall₂_cons] at hkeys
        have hws : ws ≠ [] := by
          rintro rfl
          exact hks (List.forall₂_nil_right_iff.mp hkeys.2)
        obtain ⟨gap, u, rfl, hw, hg, hu, hlater⟩ := eq_append_of_words h.1 hws hwords
        exact ⟨w, gap, u, rfl, hkeys.1, hg, hu, hlater ▸ hkeys.2⟩
  · intro h
    obtain ⟨w, gap, u, rfl, hw, hg, hu⟩ := h
    have hword := isWord_of_isKeyword hk hw
    refine ⟨⟨?_, ?_⟩, ?_⟩
    · rw [List.append_assoc]
      exact hword.startsDark.append hword.1 _
    · rw [List.reverse_append]
      exact hu.1.2.append (by simpa using hu.ne_nil hks) _
    · rw [words_append_gap hg, words_of_isWord hword]
      exact List.Forall₂.cons hw hu.2

theorem spells_iff {ks : List Text} (hks : ∀ k ∈ ks, IsLetters k) {t : Text} :
    Spells ks t ↔ IsTrimmed t ∧ (words t).map (List.map fold) = ks := by
  refine and_congr_right fun _ => ?_
  generalize words t = ws
  induction ks generalizing ws with
  | nil => cases ws <;> simp
  | cons k ks ih =>
      cases ws with
      | nil => simp
      | cons w ws =>
          rw [List.forall₂_cons, ih (fun x hx => hks x (List.mem_cons_of_mem k hx)), List.map_cons,
            List.cons.injEq, isKeyword_iff (hks k List.mem_cons_self).2]

theorem spells_reverse {ks : List Text} (hks : ∀ k ∈ ks, IsLetters k) {t : Text} :
    Spells (ks.reverse.map List.reverse) t.reverse ↔ Spells ks t := by
  have hrev : ∀ k ∈ ks.reverse.map List.reverse, IsLetters k := by
    intro k hk
    obtain ⟨x, hx, rfl⟩ := List.mem_map.mp hk
    exact (hks x (List.mem_reverse.mp hx)).reverse
  have htrim : IsTrimmed t.reverse ↔ IsTrimmed t := by
    rw [IsTrimmed, IsTrimmed, List.reverse_reverse, and_comm]
  have hmap : (((words t).map List.reverse).map (List.map fold)) =
      ((words t).map (List.map fold)).map List.reverse := by
    simp
  rw [spells_iff hrev, spells_iff hks, htrim, words_reverse, List.map_reverse, hmap,
    List.map_reverse, List.reverse_inj, (List.map_injective_iff.mpr List.reverse_injective).eq_iff]

end Text

namespace Condition

/-! ### Words at the start of a clause -/

theorem afterWords?_cons {ks : List Text} (hne : ks ≠ []) (k t : Text) :
    afterWords? (k :: ks) t =
      (Text.afterKeyword? k t).bind fun rest =>
        if (Text.leadingBlank rest).isEmpty then none
        else afterWords? ks (Text.dropBlank rest) := by
  obtain ⟨k', ks, rfl⟩ := List.exists_cons_of_ne_nil hne
  rw [afterWords?]
  · cases Text.afterKeyword? k t <;> rfl
  · simp

/-- Keywords that a text starts with, and what follows them. -/
theorem afterWords?_eq_some_iff {ks : List Text} (hne : ks ≠ []) (hks : ∀ k ∈ ks, Text.IsLetters k)
    {t rest : Text} :
    afterWords? ks t = some rest ↔
      ∃ spelled, t = spelled ++ rest ∧ Text.Spells ks spelled := by
  induction ks generalizing t with
  | nil => exact absurd rfl hne
  | cons k ks ih =>
      have hk := hks k List.mem_cons_self
      by_cases hnil : ks = []
      · subst hnil
        rw [afterWords?, Text.afterKeyword?_eq_some_iff]
        simp only [Text.spells_singleton hk]
      · have ih' := @ih hnil fun x hx => hks x (List.mem_cons_of_mem k hx)
        rw [afterWords?_cons hnil, Option.bind_eq_some_iff]
        constructor
        · intro h
          obtain ⟨behind, hbehind, hite⟩ := h
          simp only [Option.ite_none_left_eq_some, List.isEmpty_iff] at hite
          obtain ⟨w, rfl, hw⟩ := Text.afterKeyword?_eq_some_iff.mp hbehind
          obtain ⟨u, hu, hs⟩ := ih'.mp hite.2
          have hg := Text.isGap_leadingBlank hite.1
          refine ⟨w ++ Text.leadingBlank behind ++ u, ?_,
            (Text.spells_cons hk hnil).mpr ⟨w, _, u, rfl, hw, hg, hs⟩⟩
          rw [List.append_assoc, List.append_assoc, ← hu, Text.leadingBlank_append_dropBlank]
        · intro h
          obtain ⟨spelled, rfl, hs⟩ := h
          obtain ⟨w, gap, u, rfl, hw, hg, hu⟩ := (Text.spells_cons hk hnil).mp hs
          have hdark : Text.StartsDark (u ++ rest) := hu.1.1.append (hu.ne_nil hnil) rest
          refine ⟨gap ++ (u ++ rest), Text.afterKeyword?_eq_some_iff.mpr ⟨w, by simp, hw⟩, ?_⟩
          rw [hg.leadingBlank_append hdark, hg.dropBlank_append hdark,
            if_neg (by simpa using hg.1)]
          exact ih'.mpr ⟨u, rfl, hu⟩

/-! ### Null checks -/

theorem isLetters_of_mem_words (n : NullCheck) : ∀ k ∈ n.words, Text.IsLetters k := by
  cases n <;> decide

/-- Read backwards, keywords at the end of a text are keywords at its start. -/
theorem beforeWords?_eq {ks : List Text} (hne : ks ≠ []) (start t : Text) :
    beforeWords? ks start t =
      (afterWords? (ks.map List.reverse) t).bind fun rest =>
        if (Text.leadingBlank rest).isEmpty then none
        else some (Text.leadingBlank rest, Text.dropBlank rest) := by
  induction ks generalizing start t with
  | nil => exact absurd rfl hne
  | cons k ks ih =>
      rw [beforeWords?, Text.beforeKeyword?, List.map_cons]
      by_cases hnil : ks = []
      · subst hnil
        rw [List.map_nil, afterWords?]
        cases Text.afterKeyword? k.reverse t with
        | none => rfl
        | some rest =>
            cases hlead : Text.leadingBlank rest with
            | nil => simp [hlead]
            | cons c blanks => simp [hlead, beforeWords?]
      · rw [afterWords?_cons (by simpa using hnil)]
        cases Text.afterKeyword? k.reverse t with
        | none => rfl
        | some rest =>
            cases hlead : Text.leadingBlank rest with
            | nil => simp [hlead]
            | cons c blanks => simp [hlead, ih hnil]

/-- Keywords that a text ends in, and what is in front of them. -/
theorem afterWords?_reverse_eq_some_iff (n : NullCheck) {clause rest : Text} :
    afterWords? (n.words.reverse.map List.reverse) clause.reverse = some rest ↔
      ∃ last, clause = rest.reverse ++ last ∧ Text.Spells n.words last := by
  have hne : n.words.reverse.map List.reverse ≠ [] := by cases n <;> decide
  have hletters : ∀ k ∈ n.words.reverse.map List.reverse, Text.IsLetters k := by
    cases n <;> decide
  rw [afterWords?_eq_some_iff hne hletters]
  constructor
  · intro h
    obtain ⟨spelled, happ, hs⟩ := h
    refine ⟨spelled.reverse, ?_, ?_⟩
    · rw [← List.reverse_append, ← happ, List.reverse_reverse]
    · rw [← Text.spells_reverse (isLetters_of_mem_words n), List.reverse_reverse]
      exact hs
  · intro h
    obtain ⟨last, rfl, hs⟩ := h
    refine ⟨last.reverse, ?_, (Text.spells_reverse (isLetters_of_mem_words n)).mpr hs⟩
    rw [List.reverse_append, List.reverse_reverse]

/-- The form of a null check, read backwards. -/
theorem isCheckForm_reverse_iff {n : NullCheck} {clause rest : Text} :
    IsCheckForm n clause rest.reverse ↔
      afterWords? (n.words.reverse.map List.reverse) clause.reverse = some rest ∧
        Text.leadingBlank rest ≠ [] ∧ Text.dropBlank rest ≠ [] ∧
          .char '\n' ∉ Text.dropBlank rest := by
  have hend : Text.dropBlankEnd rest.reverse = (Text.dropBlank rest).reverse := by
    rw [Text.dropBlankEnd, List.reverse_reverse]
  have hwords : Text.words rest.reverse ≠ [] ↔ Text.dropBlank rest ≠ [] := by
    rw [Text.words_reverse]
    simp [Text.words_eq_nil_iff]
  constructor
  · intro h
    obtain ⟨front, gap, hbefore, hg⟩ := h.apart
    have hline := h.one_line
    rw [hend, List.mem_reverse] at hline
    refine ⟨(afterWords?_reverse_eq_some_iff n).mpr h.ends, ?_, hwords.mp h.words_ne_nil, hline⟩
    rw [← List.reverse_reverse rest, hbefore, List.reverse_append]
    exact hg.reverse.leadingBlank_append_ne_nil _
  · intro h
    obtain ⟨hrest, hlead, hdrop, hline⟩ := h
    refine ⟨(afterWords?_reverse_eq_some_iff n).mp hrest,
      ⟨(Text.dropBlank rest).reverse, (Text.leadingBlank rest).reverse, ?_,
        (Text.isGap_leadingBlank hlead).reverse⟩, hwords.mpr hdrop, ?_⟩
    · rw [← List.reverse_append, Text.leadingBlank_append_dropBlank]
    · rw [hend, List.mem_reverse]
      exact hline

/-- The field of a null check is the text in front of its words, without the gap. -/
theorem checkedField?_eq_some_iff {n : NullCheck} {clause : Text} (hc : Text.StartsDark clause)
    {field : Text} :
    checkedField? n clause = some field ↔
      ∃ before, IsCheckForm n clause before ∧ field = Text.dropBlankEnd before := by
  have hne : n.words.reverse ≠ [] := by cases n <;> decide
  rw [checkedField?, beforeWords?_eq hne]
  constructor
  · intro h
    split at h
    · exact absurd h (by simp)
    · next blanks front hfound =>
        obtain ⟨rest, hrest, hite⟩ := Option.bind_eq_some_iff.mp hfound
        simp only [Option.ite_none_left_eq_some, Option.some.injEq, Prod.mk.injEq,
          List.isEmpty_iff] at hite
        obtain ⟨hlead, rfl, rfl⟩ := hite
        -- a clause that starts with no blank has more than a gap in front of the words
        have hdrop : Text.dropBlank rest ≠ [] := by
          intro hnil
          obtain ⟨last, hclause, -⟩ := (afterWords?_reverse_eq_some_iff n).mp hrest
          have happ := Text.leadingBlank_append_dropBlank rest
          rw [hnil, List.append_nil] at happ
          rw [hclause, ← happ] at hc
          exact (Text.isGap_leadingBlank hlead).reverse.not_startsDark last hc
        have hempty : (Text.dropBlank rest).isEmpty = false := by simpa using hdrop
        simp only [hempty, Bool.false_eq_true, if_false, Option.ite_none_left_eq_some,
          Option.some.injEq] at h
        obtain ⟨hcond, rfl⟩ := h
        have hline : .char '\n' ∉ Text.dropBlank rest := by
          intro hnl
          exact hcond (by simp [hnl])
        refine ⟨rest.reverse, isCheckForm_reverse_iff.mpr ⟨hrest, hlead, hdrop, hline⟩, ?_⟩
        rw [Text.dropBlankEnd, List.reverse_reverse]
  · intro h
    obtain ⟨before, hform, rfl⟩ := h
    rw [← List.reverse_reverse before] at hform
    obtain ⟨hrest, hlead, hdrop, hline⟩ := isCheckForm_reverse_iff.mp hform
    have hempty : (Text.dropBlank before.reverse).isEmpty = false := by simpa using hdrop
    rw [hrest, Option.bind_some, if_neg (by simpa using hlead)]
    simp only [hempty, Bool.false_eq_true, if_false, List.isEmpty_reverse]
    rw [if_neg (by simpa using hline)]
    rfl

theorem checkedField?_eq_none_iff {n : NullCheck} {clause : Text} (hc : Text.StartsDark clause) :
    checkedField? n clause = none ↔ ∀ before, ¬IsCheckForm n clause before := by
  rw [Option.eq_none_iff_forall_ne_some]
  constructor
  · intro h before hform
    exact h _ ((checkedField?_eq_some_iff hc).mpr ⟨before, hform, rfl⟩)
  · intro h field hfield
    obtain ⟨before, hform, -⟩ := (checkedField?_eq_some_iff hc).mp hfield
    exact h before hform

/-! ### Comparisons -/

theorem words_ne_nil (op : Comparison) : op.words ≠ [] := by
  cases op <;> decide

theorem isLetters_of_mem_comparison (op : Comparison) : ∀ k ∈ op.words, Text.IsLetters k := by
  cases op <;> decide

theorem cutField?_eq_some_iff {clause field rest : Text} :
    cutField? clause = some (field, rest) ↔
      ∃ gap, clause = field ++ gap ++ rest ∧ Text.IsWord field ∧ Text.IsGap gap ∧
        Text.StartsDark rest ∧ rest ≠ [] ∧ .char '\n' ∉ rest := by
  constructor
  · intro h
    have hfound := cutField?_eq_some h
    simp only [cutField?, Option.ite_none_left_eq_some, Option.some.injEq,
      Prod.mk.injEq, Bool.or_eq_true, not_or, List.isEmpty_iff] at h
    obtain ⟨⟨⟨⟨-, hbehind⟩, hrest⟩, -⟩, rfl, rfl⟩ := h
    exact ⟨_, (Text.firstWord_append_rest clause).symm, hfound.1,
      Text.isGap_leadingBlank_afterWord hbehind, Text.startsDark_dropBlank _, hrest, hfound.2.1⟩
  · intro h
    obtain ⟨gap, rfl, hf, hg, hd, hne, hnl⟩ := h
    have hdrop := hg.dropBlank_append hd
    obtain ⟨c, blanks, rfl⟩ := List.exists_cons_of_ne_nil hg.1
    have hc : Text.isBlank c = true := hg.2 c List.mem_cons_self
    rw [cutField?, List.append_assoc, List.cons_append, Text.firstWord_append hf hc,
      Text.afterWord_append hf hc, ← List.cons_append, hdrop]
    simp [hf.1, hne, hnl]

/-- The comparison and the value that a text is. The gap between them takes all it can. -/
theorem comparedValue?_eq_some_iff {op : Comparison} {t value : Text} :
    comparedValue? op t = some value ↔
      ∃ spelled gap, t = spelled ++ gap ++ value ∧ Text.Spells op.words spelled ∧ Text.IsGap gap ∧
        Text.LeftByGap value := by
  have hletters := isLetters_of_mem_comparison op
  have hiff := @afterWords?_eq_some_iff op.words (words_ne_nil op) hletters t
  rw [comparedValue?]
  constructor
  · intro h
    split at h
    · exact absurd h (by simp)
    · next rest hrest =>
        obtain ⟨spelled, rfl, hs⟩ := hiff.mp hrest
        simp only [Option.ite_none_left_eq_some, List.isEmpty_iff] at h
        obtain ⟨hlead, h⟩ := h
        have hbehind : ∃ gap, rest = gap ++ value ∧ Text.IsGap gap ∧ Text.LeftByGap value := by
          refine Text.exists_leftByGap_iff.mpr ⟨hlead, ?_⟩
          by_cases hdrop : Text.dropBlank rest = []
          · rw [if_neg (by simpa using hdrop), Option.ite_none_right_eq_some,
              Option.some.injEq] at h
            exact Or.inr ⟨hdrop, h⟩
          · rw [if_pos (by simpa using hdrop), Option.some.injEq] at h
            exact Or.inl ⟨h, h ▸ hdrop⟩
        obtain ⟨gap, rfl, hg, hleft⟩ := hbehind
        exact ⟨spelled, gap, (List.append_assoc _ _ _).symm, hs, hg, hleft⟩
  · intro h
    obtain ⟨spelled, gap, rfl, hs, hg, hleft⟩ := h
    obtain ⟨hlead, hvalue⟩ := Text.exists_leftByGap_iff.mp ⟨gap, rfl, hg, hleft⟩
    rw [hiff.mpr ⟨spelled, List.append_assoc _ _ _, hs⟩]
    simp only [List.isEmpty_iff, hlead, if_false]
    cases hvalue with
    | inl hvalue => rw [hvalue.1, if_pos (by simpa using hvalue.2)]
    | inr hvalue => rw [hvalue.1, if_neg (by simp), if_pos hvalue.2.1, hvalue.2.2]

theorem mem_matchOrder (op : Comparison) : op ∈ Comparison.matchOrder := by
  cases op <;> decide

/-- No two comparisons start with the same word. -/
theorem eq_of_head_words : ∀ op ∈ Comparison.matchOrder, ∀ op' ∈ Comparison.matchOrder,
    op.words.head? = op'.words.head? → op = op' := by
  decide

/-- The first word of a text is that of the comparison which it starts with. -/
theorem exists_head_of_spells {op : Comparison} {spelled gap : Text}
    (hs : Text.Spells op.words spelled) (hg : Text.IsGap gap) (t : Text) :
    ∃ k w, op.words.head? = some k ∧ Text.IsLetters k ∧
      (Text.words (spelled ++ gap ++ t)).head? = some w ∧ Text.isKeyword k w = true := by
  have hletters := isLetters_of_mem_comparison op
  have hkeys := hs.2
  cases hop : op.words with
  | nil => exact absurd hop (words_ne_nil op)
  | cons k ks =>
      cases hwords : Text.words spelled with
      | nil => exact absurd hkeys (by simp [hop, hwords])
      | cons w ws =>
          rw [hop, hwords, List.forall₂_cons] at hkeys
          rw [hop] at hletters
          refine ⟨k, w, rfl, hletters k List.mem_cons_self, ?_, hkeys.1⟩
          rw [Text.words_append_gap hg, hwords]
          rfl

/-- A text starts with one comparison at most. -/
theorem eq_of_spells {op op' : Comparison} {spelled gap t spelled' gap' t' : Text}
    (hs : Text.Spells op.words spelled) (hg : Text.IsGap gap)
    (hs' : Text.Spells op'.words spelled') (hg' : Text.IsGap gap')
    (happ : spelled ++ gap ++ t = spelled' ++ gap' ++ t') : op = op' := by
  obtain ⟨k, w, hop, hk, hw, hkw⟩ := exists_head_of_spells hs hg t
  obtain ⟨k', w', hop', hk', hw', hkw'⟩ := exists_head_of_spells hs' hg' t'
  rw [happ] at hw
  obtain rfl := Option.some.inj (hw.symm.trans hw')
  refine eq_of_head_words op (mem_matchOrder op) op' (mem_matchOrder op') ?_
  rw [hop, hop', Text.eq_of_isKeyword hk hk' hkw hkw']

theorem eq_of_comparedValue? {op op' : Comparison} {t value value' : Text}
    (h : comparedValue? op t = some value) (h' : comparedValue? op' t = some value') :
    op = op' := by
  obtain ⟨spelled, gap, rfl, hs, hg, -⟩ := comparedValue?_eq_some_iff.mp h
  obtain ⟨spelled', gap', happ, hs', hg', -⟩ := comparedValue?_eq_some_iff.mp h'
  exact eq_of_spells hs hg hs' hg' happ

theorem mem_of_matchComparison? {t value : Text} {ops : List Comparison} {op : Comparison}
    (h : matchComparison? t ops = some (op, value)) :
    op ∈ ops ∧ comparedValue? op t = some value := by
  fun_induction matchComparison? t ops with
  | case1 => exact absurd h (by simp)
  | case2 op' more value' hv =>
      obtain ⟨rfl, rfl⟩ := Prod.mk.inj (Option.some.inj h)
      exact ⟨List.mem_cons_self, hv⟩
  | case3 op' more hv ih => exact ⟨List.mem_cons_of_mem op' (ih h).1, (ih h).2⟩

theorem comparedValue?_of_matchComparison?_none {t : Text} {ops : List Comparison}
    (h : matchComparison? t ops = none) :
    ∀ op ∈ ops, comparedValue? op t = none := by
  fun_induction matchComparison? t ops with
  | case1 => simp
  | case2 op' more value' hv => exact absurd h (by simp)
  | case3 op' more hv ih =>
      rw [List.forall_mem_cons]
      exact ⟨hv, ih h⟩

/-- The order in which comparisons are tried decides nothing. -/
theorem matchComparison?_eq_some_iff {t : Text} {ops : List Comparison} {op : Comparison}
    {value : Text} :
    matchComparison? t ops = some (op, value) ↔ op ∈ ops ∧ comparedValue? op t = some value := by
  constructor
  · exact mem_of_matchComparison?
  · intro h
    obtain ⟨hmem, h⟩ := h
    cases hm : matchComparison? t ops with
    | none =>
        rw [comparedValue?_of_matchComparison?_none hm op hmem] at h
        exact absurd h (by simp)
    | some found =>
        obtain ⟨op', value'⟩ := found
        have h' := (mem_of_matchComparison? hm).2
        obtain rfl := eq_of_comparedValue? h h'
        rw [Option.some.inj (h.symm.trans h')]

theorem comparison?_eq_some_iff {clause : Text} (hc : Text.IsTrimmed clause) {c : Condition} :
    comparison? clause = some c ↔
      ∃ field op value, IsComparisonForm clause field op value ∧
        c = .compare (Field.sanitize field) op (Literal.quote value) := by
  rw [comparison?]
  constructor
  · intro h
    split at h
    · exact absurd h (by simp)
    · next field rest hcut =>
        obtain ⟨gap, rfl, hf, hg, hd, -, hnl⟩ := cutField?_eq_some_iff.mp hcut
        have hrest := hc.of_append hd
        split at h
        · exact absurd h (by simp)
        · next op value hm =>
            rw [matchComparison?_eq_some_iff, comparedValue?_eq_some_iff] at hm
            obtain ⟨-, spelled, gap', rfl, hs, hg', hleft⟩ := hm
            have hvalue := hleft.startsDark hrest.2
            have hstrip := Text.strip_eq_self (hrest.of_append hvalue)
            refine ⟨field, op, value,
              ⟨hf, ⟨gap, spelled, gap', rfl, hg, hs, hg', hnl⟩, hvalue, hleft.ne_nil⟩, ?_⟩
            rw [← Option.some.inj h, hstrip]
  · intro h
    obtain ⟨field, op, value, hform, rfl⟩ := h
    obtain ⟨hf, ⟨gap, spelled, gap', rfl, hg, hs, hg', hnl⟩, hvalue, hne⟩ := hform
    have hspelled := hs.ne_nil (words_ne_nil op)
    have hd : Text.StartsDark (spelled ++ gap' ++ value) := by
      rw [List.append_assoc]
      exact hs.1.1.append hspelled _
    have hcut : cutField? (field ++ gap ++ (spelled ++ gap' ++ value)) =
        some (field, spelled ++ gap' ++ value) :=
      cutField?_eq_some_iff.mpr ⟨gap, rfl, hf, hg, hd, by simp [hspelled], hnl⟩
    have hrest := hc.of_append hd
    have hm : matchComparison? (spelled ++ gap' ++ value) Comparison.matchOrder =
        some (op, value) := by
      rw [matchComparison?_eq_some_iff, comparedValue?_eq_some_iff]
      exact ⟨mem_matchOrder op, spelled, gap', rfl, hs, hg', hvalue.leftByGap hne⟩
    simp only [hcut, hm, Text.strip_eq_self (hrest.of_append hvalue)]

theorem comparison?_eq_none_iff {clause : Text} (hc : Text.IsTrimmed clause) :
    comparison? clause = none ↔
      ∀ field op value, ¬IsComparisonForm clause field op value := by
  rw [Option.eq_none_iff_forall_ne_some]
  constructor
  · intro h field op value hform
    exact h _ ((comparison?_eq_some_iff hc).mpr ⟨field, op, value, hform, rfl⟩)
  · intro h c hfound
    obtain ⟨field, op, value, hform, -⟩ := (comparison?_eq_some_iff hc).mp hfound
    exact h field op value hform

end Condition

namespace Where

/-! ### The parser -/

/-- The parser gives an answer that the grammar allows. -/
theorem reads_parseClause {clause : Text} (hc : Text.IsTrimmed clause) :
    Reads clause (parseClause clause) := by
  rw [parseClause, Condition.ofClause?]
  cases hnull : Condition.checkedField? .isNull clause with
  | some field =>
      obtain ⟨before, hform, rfl⟩ := (Condition.checkedField?_eq_some_iff hc.1).mp hnull
      simp only [Field.sanitize_strip, Field.sanitize_dropBlankEnd]
      exact Reads.isNull hform
  | none =>
      have hother := (Condition.checkedField?_eq_none_iff hc.1).mp hnull
      cases hnotNull : Condition.checkedField? .isNotNull clause with
      | some field =>
          obtain ⟨before, hform, rfl⟩ := (Condition.checkedField?_eq_some_iff hc.1).mp hnotNull
          simp only [Field.sanitize_strip, Field.sanitize_dropBlankEnd]
          exact Reads.isNotNull hother hform
      | none =>
          have hneither : ∀ n b, ¬Condition.IsCheckForm n clause b := by
            intro n
            cases n with
            | isNull => exact hother
            | isNotNull => exact (Condition.checkedField?_eq_none_iff hc.1).mp hnotNull
          cases hcompare : Condition.comparison? clause with
          | some c =>
              obtain ⟨field, op, value, hform, rfl⟩ :=
                (Condition.comparison?_eq_some_iff hc).mp hcompare
              exact Reads.compare hneither hform
          | none =>
              have hform := (Condition.comparison?_eq_none_iff hc).mp hcompare
              exact Reads.rejected hneither hform

/-- The grammar allows one answer. -/
theorem Reads.parseClause_eq {clause : Text} (hc : Text.IsTrimmed clause)
    {r : Except Rejection Condition} (h : Reads clause r) : parseClause clause = r := by
  rw [parseClause, Condition.ofClause?]
  cases h with
  | isNull form =>
      rw [(Condition.checkedField?_eq_some_iff hc.1).mpr ⟨_, form, rfl⟩]
      simp only [Field.sanitize_strip, Field.sanitize_dropBlankEnd]
  | isNotNull other form =>
      rw [(Condition.checkedField?_eq_none_iff hc.1).mpr other,
        (Condition.checkedField?_eq_some_iff hc.1).mpr ⟨_, form, rfl⟩]
      simp only [Field.sanitize_strip, Field.sanitize_dropBlankEnd]
  | compare other form =>
      rw [(Condition.checkedField?_eq_none_iff hc.1).mpr (other .isNull),
        (Condition.checkedField?_eq_none_iff hc.1).mpr (other .isNotNull)]
      simp only [(Condition.comparison?_eq_some_iff hc).mpr ⟨_, _, _, form, rfl⟩]
  | rejected other form =>
      rw [(Condition.checkedField?_eq_none_iff hc.1).mpr (other .isNull),
        (Condition.checkedField?_eq_none_iff hc.1).mpr (other .isNotNull)]
      simp only [(Condition.comparison?_eq_none_iff hc).mpr form]

/-- **The parser follows the grammar.** What it makes of a trimmed clause is what the grammar says,
the rejection included. -/
theorem parseClause_eq_iff {clause : Text} (hc : Text.IsTrimmed clause)
    {r : Except Rejection Condition} : parseClause clause = r ↔ Reads clause r := by
  constructor
  · intro h
    rw [← h]
    exact reads_parseClause hc
  · exact Reads.parseClause_eq hc

/-- The value ends in the words of a null check, but a line ends in front of them, and not only in
the gap. -/
theorem parseClause_eq_iff_not_contains :
    Text.IsTrimmed "Name\nNOT \t contains x is null".toText ∧
      parseClause "Name\nNOT \t contains x is null".toText =
        .ok (.compare "Name".toText .notContains "'x is null'".toText) ∧
      Reads "Name\nNOT \t contains x is null".toText
        (.ok (.compare "Name".toText .notContains "'x is null'".toText)) := by
  have htrim : Text.IsTrimmed "Name\nNOT \t contains x is null".toText := by decide
  have hparse : parseClause "Name\nNOT \t contains x is null".toText =
      .ok (.compare "Name".toText .notContains "'x is null'".toText) := by
    decide
  exact ⟨htrim, hparse, (parseClause_eq_iff htrim).mp hparse⟩

end Where

end TrackerQuery
