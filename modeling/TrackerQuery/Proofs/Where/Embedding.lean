import TrackerQuery.Literal.Classify
import TrackerQuery.Proofs.Where.Expression

/-!
# TrackerQuery.Proofs.Where.Embedding

**Literals inside a where expression.**

A formatted text can stand as the value of a condition in front of any other
expression exactly if the scan takes it for one clause that leaves no quote open
(`compile_formatted_iff`). Doubling is unknown to the scan, but it toggles twice at
two apostrophes, so the two agree on where a literal ends unless a backslash stands
in front of an apostrophe: there the scan skips a quote that the literal counts.

That nothing else helps is seen from the characters that are neither blank nor
apostrophes (`isInk`). Where the scan ends a clause too early or too late, three of
them, those of an *and*, are lost or gained, and quoting cannot make up for three.
-/

namespace TrackerQuery.Where

open Literal (isQuote)

/-! ### Ink -/

/-- The characters that trimming and quoting leave alone, quotation marks at the edges aside. -/
def isInk (c : CodePoint) : Bool :=
  !Text.isBlank c && c != Literal.apostrophe

theorem isInk_of_isBlank (c : CodePoint) (h : Text.isBlank c = true) : isInk c = false := by
  simp [isInk, h]

theorem isInk_apostrophe : isInk Literal.apostrophe = false := by decide

/-- A connective has three characters of ink. -/
theorem countP_ink_of_startsWithAnd {t : Text} (h : startsWithAnd t = true) :
    3 ≤ t.countP isInk := by
  obtain ⟨a, n, d, rest, rfl, ha, hn, hd⟩ := eq_of_startsWithAnd h
  have hink : isInk a = true ∧ isInk n = true ∧ isInk d = true := by
    refine ⟨?_, ?_, ?_⟩
    · rcases ha with rfl | rfl <;> decide
    · rcases hn with rfl | rfl <;> decide
    · rcases hd with rfl | rfl <;> decide
  rw [List.countP_cons_of_neg (by decide), List.countP_cons_of_pos hink.1,
    List.countP_cons_of_pos hink.2.1, List.countP_cons_of_pos hink.2.2]
  omega

/-! ### The first piece behind the operator -/

/-- If a literal is no whole clause, the piece that starts with it, in front of *and* and more,
has less ink than the literal or at least that of the *and* in addition. -/
theorem exists_piece_of_not_isWhole {literal : Text} (hl : Literal.IsLiteral literal)
    (hw : ¬IsWhole literal) (rest : Text) :
    ∃ p ps, cut Scan.start 0 (literal ++ " and ".toText ++ rest) = p :: ps ∧
      Literal.apostrophe :: p.tail = p ∧
      (p.countP isInk + 3 ≤ literal.countP isInk ∨ literal.countP isInk + 3 ≤ p.countP isInk) := by
  obtain ⟨u, rfl⟩ := hl.eq_cons
  by_cases hn : NoCut Scan.start (Literal.apostrophe :: u) []
  · -- the literal leaves a quote open, so that the piece takes the word and in
    have ho : (Scan.start.after (Literal.apostrophe :: u)).opened ≠ none := fun ho =>
      hw ((isWhole_iff hl.isTrimmed).mpr ⟨hn, ho⟩)
    have hcut := cut_join_of_opened hn ho rest
    obtain ⟨q, qs, hq⟩ := List.exists_cons_of_ne_nil
      (cut_ne_nil (Scan.start.after (Literal.apostrophe :: u ++ " and ".toText)) 0 rest)
    rw [hq, List.modifyHead_cons] at hcut
    refine ⟨_, qs, hcut, rfl, Or.inr ?_⟩
    have hthree : " and ".toText.countP isInk = 3 := by decide
    rw [List.countP_append, List.countP_append, hthree]
    exact Nat.le_add_right _ _
  · -- the scan ends a piece at a connective inside the literal
    have hn' : ¬NoCut Scan.start (Literal.apostrophe :: u) (" and ".toText ++ rest) :=
      fun h => hn (noCut_space_iff.mp h)
    obtain ⟨p, r, ps, happ, hne, hand, -, hcut⟩ := cut_of_not_noCut hn'
    have hr : startsWithAnd r = true := by
      rw [← hand]
      exact (startsWithAnd_append_space hne _).symm
    refine ⟨p, ps, by rw [List.append_assoc, hcut], ?_, Or.inl ?_⟩
    · cases p with
      | nil =>
          rw [List.nil_append] at happ
          rw [← happ, startsWithAnd_of_ne (by decide)] at hr
          exact absurd hr (by simp)
      | cons c p => rw [(List.cons.inj happ).1, List.tail_cons]
    · rw [happ, List.countP_append]
      exact Nat.add_le_add_left (countP_ink_of_startsWithAnd hr) _

/-- No such piece is quoted into the literal. -/
theorem quote_ne_of_countP_ink {inner p : Text}
    (h : p.countP isInk + 3 ≤ (Literal.ofText inner).countP isInk ∨
      (Literal.ofText inner).countP isInk + 3 ≤ p.countP isInk) :
    Literal.quote (Text.strip (Text.dropBlankEnd p)) ≠ Literal.ofText inner := by
  intro he
  have hcount := congrArg (List.countP isInk) he
  rw [Literal.quote, Literal.countP_ofText isInk_apostrophe] at hcount
  have hmeaning := Literal.countP_meaning isInk_apostrophe (Text.strip (Text.dropBlankEnd p))
  rw [Text.countP_strip isInk_of_isBlank, Text.countP_dropBlankEnd isInk_of_isBlank] at hmeaning
  omega

/-! ### Formatted texts -/

theorem formatRaw_text [Limits] (t : Text) :
    Datum.formatRaw (.text t) = .ok (Literal.quote t) := rfl

/-- A word, a comparison and a literal that is a whole clause are read as one condition. -/
theorem parse_literal {f literal : Text} (hf : Text.IsWord f) (hq : ∀ c ∈ f, isQuote c = false)
    (op : Comparison) (hl : Literal.IsLiteral literal) (hnl : .char '\n' ∉ literal)
    (hw : IsWhole literal) :
    parse (f ++ .char ' ' :: op.toText ++ .char ' ' :: literal) =
      .ok [.compare (Field.sanitize f) op literal] := by
  have hwhole := isWhole_compare hf hq op hl hw
  have htrim : Text.IsTrimmed (f ++ .char ' ' :: op.toText ++ .char ' ' :: literal) := by
    obtain ⟨u, rfl⟩ := hl.eq_cons
    exact isTrimmed_compare hf op (List.cons_ne_nil _ u) hl.isTrimmed
  exact parse_of_noCut htrim ((isWhole_iff htrim).mp hwhole).1
    (Condition.ofClause?_literal hf op hl hnl)

/-- The first clause of an expression that starts with a word, a comparison and a literal. -/
theorem exists_clause_of_piece {f literal rest : Text} (hf : Text.IsWord f)
    (hq : ∀ c ∈ f, isQuote c = false) (op : Comparison) (hl : Literal.IsLiteral literal)
    {p : Text} {ps : List Text}
    (hcut : cut Scan.start 0 (literal ++ " and ".toText ++ rest) = p :: ps)
    (hp : Literal.apostrophe :: p.tail = p) :
    ∃ ts, clauses (f ++ .char ' ' :: op.toText ++ .char ' ' :: literal ++ " and ".toText ++ rest) =
      (f ++ .char ' ' :: op.toText ++ .char ' ' :: Text.dropBlankEnd p) :: ts := by
  have hv : startsWithAnd (' ' :: (literal ++ " and ".toText ++ rest)) = false := by
    obtain ⟨u, rfl⟩ := hl.eq_cons
    exact startsWithAnd_space_of_ne (by decide) (by decide) _
  have hpiece := cut_append_of_noCut (noCut_front hf op hv Scan.start)
  rw [cut_of_isFresh (isFresh_front hq op), hcut, List.modifyHead_cons] at hpiece
  have hdark : Text.StartsDark (f ++ .char ' ' :: op.toText ++ [.char ' ']) := by
    rw [List.append_assoc]
    exact hf.startsDark.append hf.1 _
  have hstrip : Text.strip (f ++ .char ' ' :: op.toText ++ [.char ' '] ++ p) =
      f ++ .char ' ' :: op.toText ++ .char ' ' :: Text.dropBlankEnd p := by
    have hmem : Literal.apostrophe ∈ p := hp ▸ List.mem_cons_self
    rw [front_append f op (Text.dropBlankEnd p)]
    exact Text.strip_append hdark (by simp) hmem (by decide)
  refine ⟨ps.map Text.strip, ?_⟩
  rw [← hstrip, ← List.map_cons, ← hpiece, clauses]
  simp

/-- If the literal stands for itself in an expression, it is a whole clause. -/
theorem isWhole_of_compile {f literal rest out : Text} (hf : Text.IsWord f)
    (hq : ∀ c ∈ f, isQuote c = false) (op : Comparison) (hl : Literal.IsLiteral literal)
    (hnl : .char '\n' ∉ literal)
    (h : compile (f ++ .char ' ' :: op.toText ++ .char ' ' :: literal ++ " and ".toText ++ rest) =
      .ok (Field.sanitize f ++ .char ' ' :: op.toText ++ .char ' ' :: literal ++
        " and ".toText ++ out)) :
    IsWhole literal := by
  by_contra hw
  obtain ⟨p, ps, hcut, hp, hink⟩ := exists_piece_of_not_isWhole hl hw rest
  obtain ⟨ts, hts⟩ := exists_clause_of_piece hf hq op hl hcut hp
  obtain ⟨cs, hparse, hout⟩ := compile_eq_ok.mp h
  have hall := parseClauses_eq_ok.mp (parse_eq_ok.mp hparse).2
  rw [hts] at hall
  obtain ⟨c, cs', hc, -, rfl⟩ := List.forall₂_cons_left_iff.mp hall
  -- the compiled text starts with the condition that the literal stands for
  have hcond : c = .compare (Field.sanitize f) op literal := by
    obtain ⟨t, ht, hhead⟩ := render_cons_eq_append c cs'
    rw [ht, List.append_assoc] at hout
    refine (Condition.render_append_inj
      (d := .compare (Field.sanitize f) op literal)
      (isCanonical_of_mem_parse hparse List.mem_cons_self)
      ⟨Field.isCanonical_sanitize_of_isWord hf, hl, hnl⟩ hhead ?_ hout.symm)
    exact fun e => absurd (Option.some.inj e) (by decide)
  subst hcond
  -- but it is read from a piece that is quoted into some other literal
  rcases Condition.ofClause?_eq_some hc with ⟨n, field, -, he⟩ | he
  · exact absurd he (by simp)
  · by_cases hnp : .char '\n' ∈ Text.dropBlankEnd p
    · rw [Condition.comparison?_append_newline hf op hnp] at he
      exact absurd he (by simp)
    · have hpd : Text.StartsDark p := hp ▸ Text.startsDark_cons.mpr (by decide)
      have hpne : Text.dropBlankEnd p ≠ [] :=
        List.ne_nil_of_mem (Text.mem_dropBlankEnd (hp ▸ List.mem_cons_self) (by decide))
      rw [Condition.comparison?_append hf op hpne hpd.dropBlankEnd hnp, Option.some.injEq,
        Condition.compare.injEq] at he
      obtain ⟨inner, rfl⟩ := hl
      exact quote_ne_of_countP_ink hink he.2.2

/-- **A formatted text as a value.** In front of *and* and another expression the literal of a text
stands for itself if and only if the scan takes it for a whole clause, and it does so unless a
backslash stands in front of an apostrophe. -/
theorem compile_formatted_iff [Limits] {t f rest out : Text} (op : Comparison)
    (ht : .char '\n' ∉ t) (hf : Text.IsWord f) (hq : ∀ c ∈ f, isQuote c = false)
    (hrest : compile rest = .ok out) (hand : startsWithAnd (' ' :: rest) = false) :
    ∃ literal, Datum.formatRaw (.text t) = .ok literal ∧
      (compile (f ++ .char ' ' :: op.toText ++ .char ' ' :: literal ++ " and ".toText ++ rest) =
          .ok (Field.sanitize f ++ .char ' ' :: op.toText ++ .char ' ' :: literal ++
            " and ".toText ++ out) ↔
        IsWhole literal) ∧
      (¬[.char '\\', Literal.apostrophe] <:+: literal → IsWhole literal) := by
  have hl : Literal.IsLiteral (Literal.quote t) := Literal.isLiteral_quote t
  have hnl : .char '\n' ∉ Literal.quote t := fun h => by
    rcases Literal.mem_of_mem_quote h with h | h
    · exact absurd h (by decide)
    · exact ht h
  refine ⟨Literal.quote t, formatRaw_text t, ⟨isWhole_of_compile hf hq op hl hnl, fun hw => ?_⟩,
    fun hn => (isWhole_iff hl.isTrimmed).mpr (noCut_literal hl hn [])⟩
  -- the literal is a clause of its own, so that the expression is cut behind it
  obtain ⟨cs, hparse, rfl⟩ := compile_eq_ok.mp hrest
  have hfirst := parse_literal hf hq op hl hnl hw
  have hopened := (isWhole_compare hf hq op hl hw).2
  have hboth := (parse_append hopened hand (parse_eq_ok.mp hfirst).1 (parse_eq_ok.mp hparse).1).mpr
    ⟨_, cs, hfirst, hparse, rfl⟩
  refine compile_eq_ok.mpr ⟨_, hboth, ?_⟩
  rw [List.singleton_append, render_cons (ne_nil_of_parse hparse)]
  rfl

theorem compile_formatted_iff_quoted :
    let t := "\"A and B\" isn't".toText
    let rest := "Id gt 5".toText
    let out := "Id gt '5'".toText
    compile rest = .ok out ∧ ∃ literal, Datum.formatRaw (.text t) = .ok literal ∧
      (compile ("Name".toText ++ .char ' ' :: Comparison.eq.toText ++ .char ' ' :: literal ++
            " and ".toText ++ rest) =
          .ok (Field.sanitize "Name".toText ++ .char ' ' :: Comparison.eq.toText ++
            .char ' ' :: literal ++
            " and ".toText ++ out) ↔
        IsWhole literal) ∧
      (¬[.char '\\', Literal.apostrophe] <:+: literal → IsWhole literal) := by
  intro t rest out
  have hrest : compile rest = .ok out := by rfl
  exact ⟨hrest, compile_formatted_iff .eq (by decide) (by decide)
    (Text.forall_mem_of_any (by decide)) hrest (by rfl)⟩

/-- A backslash is a text of its own, but its literal swallows the condition behind it. -/
theorem not_compile_formatted_backslash :
    let literal := "'\\'".toText
    let w := "Name".toText ++ .char ' ' :: Comparison.eq.toText ++ .char ' ' ::
      literal ++ " and ".toText ++
      "Id gt 5".toText
    Datum.formatRaw (.text "\\".toText) = .ok literal ∧
      compile "Id gt 5".toText = .ok "Id gt '5'".toText ∧
      compile w = .ok "Name eq '\\'' and Id gt 5'".toText ∧
      compile w ≠ .ok (Field.sanitize "Name".toText ++ .char ' ' :: Comparison.eq.toText ++
        .char ' ' :: literal ++ " and ".toText ++ "Id gt '5'".toText) := by
  intro literal w
  have hw : compile w = .ok "Name eq '\\'' and Id gt 5'".toText := by rfl
  refine ⟨by rfl, by rfl, hw, ?_⟩
  rw [hw]
  decide

end TrackerQuery.Where
