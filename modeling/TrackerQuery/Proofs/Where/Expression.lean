import Mathlib.Data.List.Forall2
import TrackerQuery.Proofs.Where.Clause
import TrackerQuery.Proofs.Where.Condition
import TrackerQuery.Where.Expression

/-!
# TrackerQuery.Proofs.Where.Expression

**Compiling twice** is compiling once.

The conditions of an expression are canonical, and each is read back from its
compiled text. What is left is that the compiled texts, joined by *and*, are cut
apart where they were joined. A literal in which no backslash stands in front of an
apostrophe opens and closes the quotes of the scan in pairs (`noCut_literal`), so a
compiled condition is a whole clause if its field has no quote, and the clause
behind an *and* is not lost unless its field is that word itself.

Main statements: `parseClause_render` for one condition, `parse_compiled` for an expression.
-/

namespace TrackerQuery.Where

open Condition (ofClause? isCanonical_of_ofClause? backslash_mem_of_ofClause? ofClause?_render)

/-- Holds of the fields that are the word *and* in any case. -/
def IsAnd (f : Text) : Prop :=
  Text.isKeyword "and".toText f = true

instance (f : Text) : Decidable (IsAnd f) :=
  inferInstanceAs (Decidable (_ = true))

/-! ### Conditions of clauses -/

theorem parseClause_eq_ok {clause : Text} {c : Condition} :
    parseClause clause = .ok c ↔ ofClause? clause = some c := by
  rw [parseClause]
  split
  · next c' h => rw [h, Except.ok.injEq, Option.some.injEq]
  · next h => simp [h]

/-- Clauses are accepted if each of them has a condition. -/
theorem parseClauses_eq_ok {ts : List Text} {cs : List Condition} :
    parseClauses ts = .ok cs ↔ List.Forall₂ (fun t c => ofClause? t = some c) ts cs := by
  induction ts generalizing cs with
  | nil => rw [parseClauses, Except.ok.injEq, List.forall₂_nil_left_iff, eq_comm]
  | cons t ts ih =>
      rw [parseClauses]
      -- a clause without a condition rejects the rest, whatever that is
      cases hc : parseClause t with
      | error r =>
          have hn : ∀ c, ofClause? t ≠ some c := fun c h => by
            rw [parseClause_eq_ok.mpr h] at hc
            exact absurd hc (by simp)
          refine iff_of_false (by simp) fun h => ?_
          obtain ⟨c, cs', h1, -, -⟩ := List.forall₂_cons_left_iff.mp h
          exact hn c h1
      | ok c =>
          have ht := parseClause_eq_ok.mp hc
          cases hcs : parseClauses ts with
          | error r =>
              refine iff_of_false (by simp) fun h => ?_
              obtain ⟨c', cs', -, h2, -⟩ := List.forall₂_cons_left_iff.mp h
              rw [ih.mpr h2] at hcs
              exact absurd hcs (by simp)
          | ok cs' =>
              have hts := ih.mp hcs
              simp only [Except.ok.injEq]
              constructor
              · rintro rfl
                exact List.Forall₂.cons ht hts
              · intro h
                obtain ⟨c₁, cs₁, h1, h2, rfl⟩ := List.forall₂_cons_left_iff.mp h
                rw [ih.mpr h2, Except.ok.injEq] at hcs
                rw [ht, Option.some.injEq] at h1
                rw [h1, hcs]

theorem parseClauses_append {ts us : List Text} {cs : List Condition} :
    parseClauses (ts ++ us) = .ok cs ↔
      ∃ cs₁ cs₂, parseClauses ts = .ok cs₁ ∧ parseClauses us = .ok cs₂ ∧ cs = cs₁ ++ cs₂ := by
  simp only [parseClauses_eq_ok]
  constructor
  · intro h
    exact ⟨_, _, (List.forall₂_take_append cs ts us h.flip).flip,
      (List.forall₂_drop_append cs ts us h.flip).flip, (List.take_append_drop _ _).symm⟩
  · rintro ⟨cs₁, cs₂, h1, h2, rfl⟩
    exact List.rel_append h1 h2

/-! ### Expressions -/

theorem parse_eq_ok {w : Text} {cs : List Condition} :
    parse w = .ok cs ↔ Text.isAllBlank w = false ∧ parseClauses (clauses w) = .ok cs := by
  rw [parse]
  cases Text.isAllBlank w <;> simp

theorem compile_eq_ok {w out : Text} :
    compile w = .ok out ↔ ∃ cs, parse w = .ok cs ∧ out = render cs := by
  rw [compile]
  cases parse w <;> simp [eq_comm]

/-- A condition of an expression is the condition of one of its clauses. -/
theorem exists_clause_of_mem_parse {w : Text} {cs : List Condition} (h : parse w = .ok cs)
    {c : Condition} (hc : c ∈ cs) : ∃ t ∈ clauses w, ofClause? t = some c := by
  have hall := parseClauses_eq_ok.mp (parse_eq_ok.mp h).2
  generalize clauses w = ts at hall
  clear h
  induction hall with
  | nil => exact absurd hc List.not_mem_nil
  | cons ht _ ih =>
      rcases List.mem_cons.mp hc with rfl | hc
      · exact ⟨_, List.mem_cons_self, ht⟩
      · obtain ⟨t', ht', he⟩ := ih hc
        exact ⟨t', List.mem_cons_of_mem _ ht', he⟩

theorem isCanonical_of_mem_parse {w : Text} {cs : List Condition} (h : parse w = .ok cs)
    {c : Condition} (hc : c ∈ cs) : c.IsCanonical := by
  obtain ⟨t, ht, he⟩ := exists_clause_of_mem_parse h hc
  exact isCanonical_of_ofClause? (isTrimmed_of_mem_clauses ht).1 he

theorem ne_nil_of_parse {w : Text} {cs : List Condition} (h : parse w = .ok cs) : cs ≠ [] := by
  rintro rfl
  have hall := parseClauses_eq_ok.mp (parse_eq_ok.mp h).2
  exact clauses_ne_nil w (List.forall₂_nil_right_iff.mp hall)

theorem length_clauses_of_parse {w : Text} {cs : List Condition} (h : parse w = .ok cs) :
    (clauses w).length = cs.length :=
  (parseClauses_eq_ok.mp (parse_eq_ok.mp h).2).length_eq

/-- Every clause of an accepted expression has a condition. -/
theorem ofClause?_ne_none_of_parse {w : Text} {cs : List Condition} (h : parse w = .ok cs)
    {t : Text} (ht : t ∈ clauses w) : ofClause? t ≠ none := by
  have hall := parseClauses_eq_ok.mp (parse_eq_ok.mp h).2
  obtain ⟨i, hi, rfl⟩ := List.mem_iff_getElem.mp ht
  have hc := hall.get hi (hall.length_eq ▸ hi)
  exact fun hnone => absurd (hc.symm.trans hnone) (by simp)

/-- An expression in which no clause ends has the condition of its one clause. -/
theorem parse_of_noCut {t : Text} {c : Condition} (ht : Text.IsTrimmed t)
    (hn : NoCut Scan.start t []) (hc : ofClause? t = some c) : parse t = .ok [c] := by
  have hdark : Text.isAllBlank t = false := by
    cases t with
    | nil => exact absurd (Condition.ofClause?_nil.symm.trans hc) (by simp)
    | cons x t => exact Text.isAllBlank_eq_false List.mem_cons_self (Text.startsDark_cons.mp ht.1)
  rw [parse_eq_ok, clauses_of_noCut ht hn, parseClauses_eq_ok]
  exact ⟨hdark, List.Forall₂.cons hc List.Forall₂.nil⟩

/-- An expression of two parts is accepted if both parts are, and has the conditions of both. -/
theorem parse_append {a b : Text} {cs : List Condition} (ha : (Scan.start.after a).opened = none)
    (hb : startsWithAnd (' ' :: b) = false) (hda : Text.isAllBlank a = false)
    (hdb : Text.isAllBlank b = false) :
    parse (a ++ " and ".toText ++ b) = .ok cs ↔
      ∃ cs₁ cs₂, parse a = .ok cs₁ ∧ parse b = .ok cs₂ ∧ cs = cs₁ ++ cs₂ := by
  have hdark : Text.isAllBlank (a ++ " and ".toText ++ b) = false := by
    rw [List.append_assoc]
    exact Text.isAllBlank_append hda _
  have hcl : clauses (a ++ " and ".toText ++ b) = clauses a ++ clauses b := by
    rw [List.append_assoc]
    exact clauses_append ha hb
  simp only [parse_eq_ok, hdark, hda, hdb, hcl, parseClauses_append, true_and]

theorem render_singleton (c : Condition) : render [c] = c.render := by
  rw [render, List.map_singleton, Text.join_singleton]

theorem render_cons_cons (c d : Condition) (cs : List Condition) :
    render (c :: d :: cs) = c.render ++ " and ".toText ++ render (d :: cs) := by
  rw [render, List.map_cons, List.map_cons, Text.join_cons_cons]
  rfl

theorem render_cons {cs : List Condition} (hne : cs ≠ []) (c : Condition) :
    render (c :: cs) = c.render ++ " and ".toText ++ render cs := by
  obtain ⟨d, cs, rfl⟩ := List.exists_cons_of_ne_nil hne
  exact render_cons_cons c d cs

/-- Compiled text goes on with a space behind its first condition, if it goes on. -/
theorem render_cons_eq_append (c : Condition) (cs : List Condition) :
    ∃ t, render (c :: cs) = c.render ++ t ∧ t.head? ≠ some Literal.apostrophe := by
  cases cs with
  | nil => exact ⟨[], by rw [render_singleton, List.append_nil], by simp⟩
  | cons d cs =>
      refine ⟨" and ".toText ++ render (d :: cs), ?_, ?_⟩
      · rw [render_cons_cons, List.append_assoc]
      · exact fun h => absurd (Option.some.inj h) (by decide)

/-! ### Literals under the scan -/

/-- Inside a literal the quote state goes from an apostrophe to its pair and back, and it ends
behind the closing one. The scan takes no part in the escape as long as no backslash stands in
front of an apostrophe. -/
theorem noCut_inside {s : Scan} {t : Text} (ho : s.opened = some Literal.apostrophe)
    (hn : ¬[.char '\\', Literal.apostrophe] <:+:
      s.last.toList ++ (Literal.double t ++ [Literal.apostrophe])) (v : Text) :
    NoCut s (Literal.double t ++ [Literal.apostrophe]) v ∧
      (s.after (Literal.double t ++ [Literal.apostrophe])).opened = none := by
  have hq : Literal.isQuote Literal.apostrophe = true := by decide
  have hspace : Literal.apostrophe ≠ ' ' := by decide
  -- the apostrophe that comes next is not escaped
  have hlast : ∀ {s : Scan} {u : Text},
      ¬[.char '\\', Literal.apostrophe] <:+: s.last.toList ++ Literal.apostrophe :: u →
        s.last ≠ some (.char '\\') := by
    intro s u h hl
    rw [hl] at h
    exact h ⟨[], u, rfl⟩
  induction t generalizing s with
  | nil =>
      rw [Literal.double_nil, List.nil_append] at hn ⊢
      refine ⟨noCut_of_no_space (by simpa using hspace) s v, ?_⟩
      simp [Scan.step, hq, hlast hn, ho, Scan.toggle]
  | cons c t ih =>
      by_cases hc : c = Literal.apostrophe
      · subst hc
        simp only [Literal.double_apostrophe, List.cons_append] at hn ⊢
        have hstep : (s.step Literal.apostrophe).step Literal.apostrophe =
            ⟨some Literal.apostrophe, some Literal.apostrophe⟩ := by
          simp [Scan.step, hq, hlast hn, ho, Scan.toggle, show Literal.apostrophe ≠ '\\' by decide]
        have ih' := ih (s := ⟨some Literal.apostrophe, some Literal.apostrophe⟩) rfl fun h => hn
          (h.trans (List.suffix_append_of_suffix (List.suffix_cons _ _)).isInfix)
        rw [NoCut, NoCut, Scan.after_cons, Scan.after_cons, hstep]
        have hand := startsWithAnd_of_ne hspace
        exact ⟨⟨fun _ => hand _, fun _ => hand _, ih'.1⟩, ih'.2⟩
      · simp only [Literal.double_cons_of_ne hc, List.cons_append] at hn ⊢
        have hopened : (s.step c).opened = some Literal.apostrophe := by
          simp only [Scan.step, ho]
          split
          · rw [Scan.toggle, if_neg hc]
          · rfl
        have ih' := ih hopened fun h => hn
          (h.trans (List.suffix_append_of_suffix (List.suffix_refl _)).isInfix)
        rw [NoCut, Scan.after_cons]
        exact ⟨⟨fun h => absurd (hopened.symm.trans h) (by simp), ih'.1⟩, ih'.2⟩

/-- A literal in which no backslash stands in front of an apostrophe is scanned as one. -/
theorem noCut_literal {literal : Text} (hl : Literal.IsLiteral literal)
    (hn : ¬[.char '\\', Literal.apostrophe] <:+: literal) (v : Text) :
    NoCut Scan.start literal v ∧ (Scan.start.after literal).opened = none := by
  obtain ⟨inner, rfl⟩ := hl
  have hstep : Scan.start.step Literal.apostrophe =
      ⟨some Literal.apostrophe, some Literal.apostrophe⟩ := by decide
  rw [Literal.ofText, List.cons_append] at hn ⊢
  have h := noCut_inside (s := ⟨some Literal.apostrophe, some Literal.apostrophe⟩) rfl hn v
  rw [NoCut, Scan.after_cons, hstep]
  exact ⟨⟨fun hnone => absurd hnone (by simp), h.1⟩, h.2⟩

/-! ### Conditions under the scan -/

/-- A space and a word start with the connective if the word is *and*. -/
theorem startsWithAnd_space_word {f : Text} (hf : ∀ c ∈ f, Text.isBlank c = false) :
    startsWithAnd (' ' :: f) = Text.isKeyword "and".toText f := by
  have hand : "and".toText = [.char 'a', .char 'n', .char 'd'] := rfl
  match f with
  | [] => rfl
  | [a] => simp [startsWithAnd, hand, Text.isKeyword, Text.afterKeyword?]
  | [a, n] => simp [startsWithAnd, hand, Text.isKeyword, Text.afterKeyword?]
  | a :: n :: d :: rest =>
      -- three letters are a connective if nothing follows, since what follows is not blank
      have hend : atWordEnd rest = rest.isEmpty := by
        cases rest with
        | nil => rfl
        | cons c rest => exact hf c (by simp)
      have hrest : (some rest == some ([] : Text)) = rest.isEmpty := by
        cases rest <;> rfl
      by_cases ha : a = 'a' ∨ a = 'A' <;> by_cases hn : n = 'n' ∨ n = 'N' <;>
        by_cases hd : d = 'd' ∨ d = 'D' <;>
        simp [startsWithAnd, hand, Text.isKeyword, Text.afterKeyword?, Text.foldsTo,
          CodePoint.toUpper, CodePoint.isLower, CodePoint.ofNat, ha, hn, hd, hend, hrest]

theorem startsWithAnd_space_front {f : Text} (hf : ∀ c ∈ f, Text.isBlank c = false) (t : Text) :
    startsWithAnd (' ' :: (f ++ .char ' ' :: t)) = Text.isKeyword "and".toText f := by
  rw [← startsWithAnd_space_word hf]
  exact startsWithAnd_append_space (List.cons_ne_nil (.char ' ') f) t

/-- The word *and* has three letters, and is a connective behind a space. -/
theorem eq_of_isAnd {w : Text} (hw : ∀ c ∈ w, Text.isBlank c = false) (h : IsAnd w) :
    ∃ x n d, w = [x, n, d] ∧ startsWithAnd [' ', x, n, d] = true := by
  have hand : startsWithAnd (' ' :: w) = true := (startsWithAnd_space_word hw).trans h
  obtain ⟨x, n, d, rest, he, -⟩ := eq_of_startsWithAnd hand
  obtain rfl : w = x :: n :: d :: rest := (List.cons.inj he).2
  cases rest with
  | nil => exact ⟨x, n, d, rfl, hand⟩
  | cons c rest =>
      have hend : Text.isBlank c = true := by
        simp only [startsWithAnd, Bool.and_eq_true] at hand
        exact hand.2
      exact absurd ((hw c (by simp)).symm.trans hend) (by simp)

/-- No piece ends in the field and the operator of a comparison. -/
theorem noCut_front {f : Text} (hf : Text.IsWord f) (op : Comparison) {v : Text}
    (hv : startsWithAnd (' ' :: v) = false) (s : Scan) :
    NoCut s (f ++ .char ' ' :: op.toText ++ [.char ' ']) v := by
  have hop : ∀ s, NoCut s (' ' :: op.toText) [] := by
    intro s
    cases op <;> simp [NoCut, startsWithAnd, Comparison.toText, Comparison.words, Text.join]
  rw [List.append_assoc, noCut_append, noCut_append]
  refine ⟨noCut_of_no_space hf.ne_space _ _, noCut_space_iff.mpr (hop _), ?_⟩
  exact ⟨fun _ => hv, trivial⟩

theorem isQuote_toText (op : Comparison) : ∀ c ∈ op.toText, Literal.isQuote c = false :=
  Text.forall_mem_of_any (by cases op <;> decide)

theorem isQuote_toText_nullCheck (n : NullCheck) :
    ∀ c ∈ n.toText, Literal.isQuote c = false :=
  Text.forall_mem_of_any (by cases n <;> decide)

theorem not_quote_front {f : Text} (hq : ∀ c ∈ f, Literal.isQuote c = false) (op : Comparison) :
    ∀ c ∈ f ++ .char ' ' :: op.toText, Literal.isQuote c = false := by
  intro c hc
  rcases List.mem_append.mp hc with hc | hc
  · exact hq c hc
  · rcases List.mem_cons.mp hc with rfl | hc
    · decide
    · exact isQuote_toText op c hc

/-- The scan of what follows the field and the operator of a comparison starts afresh. -/
theorem isFresh_front {f : Text} (hq : ∀ c ∈ f, Literal.isQuote c = false) (op : Comparison) :
    (Scan.start.after (f ++ .char ' ' :: op.toText ++ [.char ' '])).IsFresh :=
  Scan.isFresh_start.after_concat (not_quote_front hq op) (by decide) (by decide)

theorem front_append (f : Text) (op : Comparison) (v : Text) :
    f ++ .char ' ' :: op.toText ++ .char ' ' :: v =
      f ++ .char ' ' :: op.toText ++ [.char ' '] ++ v := by
  simp

/-- The value of a comparison is scanned as if it stood alone. -/
theorem noCut_compare {f : Text} (hf : Text.IsWord f)
    (hq : ∀ c ∈ f, Literal.isQuote c = false) (op : Comparison) {v w : Text}
    (hv : startsWithAnd (' ' :: (v ++ w)) = false) :
    NoCut Scan.start (f ++ .char ' ' :: op.toText ++ .char ' ' :: v) w ↔ NoCut Scan.start v w := by
  rw [front_append, noCut_append,
    noCut_congr fun c => (isFresh_front hq op).step_eq c]
  exact and_iff_right (noCut_front hf op hv _)

theorem after_compare_opened {f : Text} (hq : ∀ c ∈ f, Literal.isQuote c = false)
    (op : Comparison) (v : Text) :
    (Scan.start.after (f ++ .char ' ' :: op.toText ++ .char ' ' :: v)).opened =
      (Scan.start.after v).opened := by
  rw [front_append, Scan.after_append, (isFresh_front hq op).after_opened]

theorem isTrimmed_compare {f v : Text} (hf : Text.IsWord f) (op : Comparison) (hne : v ≠ [])
    (hv : Text.IsTrimmed v) : Text.IsTrimmed (f ++ .char ' ' :: op.toText ++ .char ' ' :: v) := by
  constructor
  · rw [List.append_assoc]
    exact hf.startsDark.append hf.1 _
  · rw [List.reverse_append, List.reverse_cons, List.append_assoc]
    exact hv.2.append (by simpa using hne) _

/-- A word with a comparison and a literal behind it is a whole clause. -/
theorem isWhole_compare {f literal : Text} (hf : Text.IsWord f)
    (hq : ∀ c ∈ f, Literal.isQuote c = false) (op : Comparison) (hl : Literal.IsLiteral literal)
    (hw : IsWhole literal) : IsWhole (f ++ .char ' ' :: op.toText ++ .char ' ' :: literal) := by
  obtain ⟨u, rfl⟩ := hl.eq_cons
  have hv : startsWithAnd (' ' :: (Literal.apostrophe :: u ++ [])) = false :=
    startsWithAnd_space_of_ne (by decide) (by decide) _
  rw [isWhole_iff hl.isTrimmed] at hw
  rw [isWhole_iff (isTrimmed_compare hf op (List.cons_ne_nil _ u) hl.isTrimmed),
    noCut_compare hf hq op hv, after_compare_opened hq]
  exact hw

/-- A value in which no piece ends has none in front of it either. -/
theorem isUncut_compare {f v : Text} (hf : Text.IsWord f) (op : Comparison)
    (hv : startsWithAnd (' ' :: v) = false) (hu : IsUncut v) :
    IsUncut (f ++ .char ' ' :: op.toText ++ .char ' ' :: v) := by
  intro s
  rw [front_append, noCut_append]
  exact ⟨noCut_front hf op (by rwa [List.append_nil]) s, hu _⟩

theorem isTrimmed_check {f : Text} (hf : Text.IsWord f) (n : NullCheck) :
    Text.IsTrimmed (f ++ .char ' ' :: n.toText) := by
  refine ⟨hf.startsDark.append hf.1 _, ?_⟩
  rw [List.reverse_append, List.reverse_cons]
  cases n <;> exact Text.startsDark_cons.mpr (by decide)

theorem isUncut_check {f : Text} (hf : Text.IsWord f) (n : NullCheck) :
    IsUncut (f ++ .char ' ' :: n.toText) := by
  intro s
  rw [noCut_append]
  refine ⟨noCut_of_no_space hf.ne_space _ _, ?_⟩
  cases n <;> simp [NoCut, startsWithAnd, NullCheck.toText, NullCheck.words, Text.join]

theorem after_check_opened {f : Text} (hq : ∀ c ∈ f, Literal.isQuote c = false) (n : NullCheck) :
    (Scan.start.after (f ++ .char ' ' :: n.toText)).opened = none := by
  have hop : ∀ c ∈ CodePoint.char ' ' :: n.toText, Literal.isQuote c = false :=
    List.forall_mem_cons.mpr ⟨by decide, isQuote_toText_nullCheck n⟩
  rw [Scan.after_append, Scan.after_opened_of_not_quote hop, Scan.after_opened_of_not_quote hq]
  rfl

theorem isWhole_check {f : Text} (hf : Text.IsWord f)
    (hq : ∀ c ∈ f, Literal.isQuote c = false) (n : NullCheck) :
    IsWhole (f ++ .char ' ' :: n.toText) :=
  (isWhole_iff (isTrimmed_check hf n)).mpr ⟨isUncut_check hf n _, after_check_opened hq n⟩

/-- The compiled text of a condition is a whole clause unless its field has a quote or a backslash
stands in it. -/
theorem isWhole_render {c : Condition} (hc : c.IsCanonical)
    (hq : ∀ x ∈ c.field, Literal.isQuote x = false) (hb : .char '\\' ∉ c.render) :
    IsWhole c.render := by
  cases c with
  | compare f op literal =>
      obtain ⟨⟨hw, -⟩, hl, -⟩ := hc
      have hn : ¬[.char '\\', Literal.apostrophe] <:+: literal := fun h => by
        refine hb (List.mem_append_right _ (List.mem_cons_of_mem _ ?_))
        exact h.subset List.mem_cons_self
      refine isWhole_compare hw hq op hl ?_
      rw [isWhole_iff hl.isTrimmed]
      exact noCut_literal hl hn []
  | check f n => exact isWhole_check hc.1 hq n

/-- The word *and* and a condition behind it are one connective too many only if *and* is the
field. -/
theorem startsWithAnd_space_render {c : Condition} (hc : c.IsCanonical) :
    startsWithAnd (' ' :: c.render) = Text.isKeyword "and".toText c.field := by
  obtain ⟨u, hu⟩ := c.render_eq_append
  rw [hu, startsWithAnd_space_front hc.field.1.2]

/-! ### Reading one condition back -/

theorem isTrimmed_render {c : Condition} (h : c.IsCanonical) : Text.IsTrimmed c.render := by
  cases c with
  | compare f op literal =>
      obtain ⟨⟨hw, -⟩, hl, -⟩ := h
      have ht := hl.isTrimmed
      obtain ⟨u, rfl⟩ := hl.eq_cons
      exact isTrimmed_compare hw op (List.cons_ne_nil _ u) ht
  | check f n => exact isTrimmed_check h.1 n

theorem newline_notMem_render {c : Condition} (h : c.IsCanonical) : .char '\n' ∉ c.render := by
  have hfield : ∀ {f : Text}, Text.IsWord f → .char '\n' ∉ f := fun hf hx =>
    absurd (hf.2 _ hx) (by decide)
  cases c with
  | compare f op literal =>
      obtain ⟨⟨hw, -⟩, -, hnl⟩ := h
      have hop : .char '\n' ∉ op.toText := by cases op <;> decide
      simp [Condition.render, hfield hw, hop, hnl]
  | check f n =>
      have hop : .char '\n' ∉ n.toText := by cases n <;> decide
      simp [Condition.render, hfield h.1, hop]

/-- **A condition is read back from its compiled text**, whatever quotes and backslashes stand in
the clause that it was read from, and this text is itself a trimmed clause of one line. -/
theorem parseClause_render {clause : Text} {c : Condition} (ht : Text.strip clause = clause)
    (h : parseClause clause = .ok c) :
    parseClause c.render = .ok c ∧ Text.strip c.render = c.render ∧ .char '\n' ∉ c.render := by
  have hdark : Text.StartsDark clause := by
    rw [← ht]
    exact (Text.isTrimmed_strip clause).1
  have hcan : c.IsCanonical := isCanonical_of_ofClause? hdark (parseClause_eq_ok.mp h)
  exact ⟨parseClause_eq_ok.mpr (ofClause?_render hcan), Text.strip_eq_self (isTrimmed_render hcan),
    newline_notMem_render hcan⟩

/-- A quote and a backslash in the field, and a value between quotes of different kinds. -/
theorem parseClause_render_quotes :
    let clause := "O'Brien\\ NOT\t contains  \"it's'".toText
    let c := Condition.compare "O'Brien\\".toText .notContains "'it''s'".toText
    Text.strip clause = clause ∧ parseClause clause = .ok c ∧
      c.render = "O'Brien\\ not contains 'it''s'".toText ∧
      parseClause c.render = .ok c ∧ Text.strip c.render = c.render ∧ .char '\n' ∉ c.render := by
  intro clause c
  have ht : Text.strip clause = clause := by decide
  have h : parseClause clause = .ok c := by rfl
  exact ⟨ht, h, by decide, parseClause_render ht h⟩

/-! ### Reading compiled text -/

theorem isAllBlank_render {cs : List Condition} (hne : cs ≠ [])
    (hc : ∀ c ∈ cs, c.IsCanonical) : Text.isAllBlank (render cs) = false := by
  obtain ⟨c, cs, rfl⟩ := List.exists_cons_of_ne_nil hne
  obtain ⟨hw, -⟩ := (hc c List.mem_cons_self).field
  obtain ⟨x, f, hf⟩ := List.exists_cons_of_ne_nil hw.1
  have hx : x ∈ c.field := hf ▸ List.mem_cons_self
  have hmem : x ∈ c.render := by
    obtain ⟨u, hu⟩ := c.render_eq_append
    exact hu ▸ List.mem_append_left _ hx
  refine Text.isAllBlank_eq_false (c := x) ?_ (hw.2 x hx)
  obtain ⟨t, ht, -⟩ := render_cons_eq_append c cs
  exact ht ▸ List.mem_append_left _ hmem

theorem ne_nil_of_compile {w out : Text} (h : compile w = .ok out) : out ≠ [] := by
  obtain ⟨cs, hw, rfl⟩ := compile_eq_ok.mp h
  have hdark := isAllBlank_render (ne_nil_of_parse hw) fun c hc => isCanonical_of_mem_parse hw hc
  rintro hnil
  rw [hnil] at hdark
  exact absurd hdark (by decide)

/-- Conditions are read back from their compiled text if its clauses are those of the conditions. -/
theorem parse_render {cs : List Condition} (hne : cs ≠ []) (hc : ∀ c ∈ cs, c.IsCanonical)
    (hcl : clauses (render cs) = cs.map Condition.render) : parse (render cs) = .ok cs := by
  rw [parse_eq_ok, hcl, parseClauses_eq_ok, List.forall₂_map_left_iff]
  refine ⟨isAllBlank_render hne hc, List.forall₂_same.mpr fun c hmem => ?_⟩
  exact ofClause?_render (hc c hmem)

/-- **Compiled text is read back condition by condition**, and compiling it changes nothing: for an
expression without backslashes none of whose fields has a quote, and of which no field but the
first is the word *and*. -/
theorem parse_compiled {w : Text} {cs : List Condition} (hw : parse w = .ok cs)
    (hb : .char '\\' ∉ w) (hq : ∀ c ∈ cs, ∀ x ∈ c.field, Literal.isQuote x = false)
    (hand : ∀ c ∈ cs.tail, ¬IsAnd c.field) :
    ∃ out, compile w = .ok out ∧ parse out = .ok cs ∧ compile out = .ok out := by
  have hcan : ∀ c ∈ cs, c.IsCanonical := fun c hc => isCanonical_of_mem_parse hw hc
  -- a backslash in a compiled condition would be one of the expression
  have hwhole : ∀ t ∈ cs.map Condition.render, IsWhole t := by
    intro t ht
    obtain ⟨c, hc, rfl⟩ := List.mem_map.mp ht
    refine isWhole_render (hcan c hc) (hq c hc) fun hbc => hb ?_
    obtain ⟨clause, hmem, he⟩ := exists_clause_of_mem_parse hw hc
    exact mem_of_mem_clauses hmem
      (backslash_mem_of_ofClause? (isTrimmed_of_mem_clauses hmem).1 he hbc)
  -- the *and* in front of a condition is not followed by another
  have hnotAnd : ∀ t ∈ (cs.map Condition.render).tail, startsWithAnd (' ' :: t) = false := by
    intro t ht
    rw [← List.map_tail] at ht
    obtain ⟨c, hc, rfl⟩ := List.mem_map.mp ht
    rw [startsWithAnd_space_render (hcan c (List.mem_of_mem_tail hc))]
    exact Bool.eq_false_iff.mpr (hand c hc)
  have hne : cs ≠ [] := ne_nil_of_parse hw
  have hclauses : clauses (render cs) = cs.map Condition.render :=
    clauses_join (by simpa using hne) hwhole hnotAnd
  have hparse : parse (render cs) = .ok cs := parse_render hne hcan hclauses
  exact ⟨render cs, compile_eq_ok.mpr ⟨cs, hw, rfl⟩, hparse, compile_eq_ok.mpr ⟨cs, hparse, rfl⟩⟩

/-- A value with quotes of both kinds and the connective in it, in front of a null check. -/
theorem parse_compiled_mixed :
    let w := "Name eq 'It''s \"A and B\"' AND Custom Field is null".toText
    let cs := [.compare "Name".toText .eq "'It''s \"A and B\"'".toText,
      .check "CustomField".toText .isNull]
    parse w = .ok cs ∧ ∃ out, compile w = .ok out ∧ parse out = .ok cs ∧ compile out = .ok out := by
  intro w cs
  have hw : parse w = .ok cs := by rfl
  have hq : ∀ c ∈ cs, c.field.any Literal.isQuote = false := by decide
  exact ⟨hw, parse_compiled hw (by decide) (fun c hc => Text.forall_mem_of_any (hq c hc))
    (by decide)⟩

end TrackerQuery.Where
