import TrackerQuery.Proofs.Literal.Quoted

/-!
# TrackerQuery.Proofs.Literal.Projection

Quoting is a **projection onto the literals** of the query language.

What a literal is, and which text it denotes, is said by a grammar (`Body`, `Denotes`)
that knows nothing of how a literal is made. The texts that the grammar allows are those
in which each apostrophe is doubled (`body_iff`), so a literal is what `ofText` makes of
the text that it denotes, and reading a literal is the grammar run backwards
(`denoted?_eq_some_iff`).

Main statement: `quote_isProjection`. Quoting always ends in a literal, and it changes
nothing exactly if it starts from one. The text that is denoted is the one that was
quoted, unless a quote stood at one of its ends.
-/

namespace TrackerQuery.Literal

/-! ### The grammar of literals -/

/-- What stands between the apostrophes of a literal, and what it is read as: characters that are
no apostrophes stand for themselves, and apostrophes come in pairs that stand for one. -/
inductive Body : Text → Text → Prop where
  | nil : Body [] []
  | char {c : CodePoint} {b t : Text} (hc : c ≠ apostrophe) (h : Body b t) : Body (c :: b) (c :: t)
  | pair {b t : Text} (h : Body b t) : Body (apostrophe :: apostrophe :: b) (apostrophe :: t)

/-- The text `l` is a literal that denotes `t`. -/
def Denotes (l t : Text) : Prop :=
  ∃ b, Body b t ∧ l = apostrophe :: b ++ [apostrophe]

/-- The text is a literal. -/
def IsWellFormed (l : Text) : Prop :=
  ∃ t, Denotes l t

theorem body_double (t : Text) : Body (double t) t := by
  induction t with
  | nil => exact .nil
  | cons c t ih =>
      by_cases hc : c = apostrophe
      · rw [hc, double_apostrophe]
        exact .pair ih
      · rw [double_cons_of_ne hc]
        exact .char hc ih

theorem body_iff {b t : Text} : Body b t ↔ b = double t := by
  constructor
  · intro h
    induction h with
    | nil => rfl
    | char hc _ ih => rw [double_cons_of_ne hc, ih]
    | pair _ ih => rw [double_apostrophe, ih]
  · rintro rfl
    exact body_double t

/-- A literal is made from the text that it denotes. -/
theorem denotes_iff {l t : Text} : Denotes l t ↔ l = ofText t := by
  constructor
  · rintro ⟨b, hb, rfl⟩
    rw [body_iff.mp hb, ofText]
  · rintro rfl
    exact ⟨double t, body_double t, rfl⟩

theorem denotes_ofText (t : Text) : Denotes (ofText t) t :=
  denotes_iff.mpr rfl

theorem isWellFormed_iff {l : Text} : IsWellFormed l ↔ IsLiteral l :=
  exists_congr fun _ => denotes_iff

/-! ### Reading literals -/

theorem ofText_append (t u : Text) :
    ofText t ++ u = apostrophe :: (double t ++ apostrophe :: u) := by
  simp [ofText]

/-- What is read behind an opening apostrophe stands doubled in front of the closing one. -/
theorem eq_of_closeFrom {b t rest : Text} (h : closeFrom b = some (t, rest)) :
    b = double t ++ apostrophe :: rest := by
  fun_induction closeFrom b generalizing t with
  | case1 => cases h
  | case2 =>
      cases h
      rfl
  | case3 => cases h
  | case4 b ih =>
      obtain ⟨⟨u, v⟩, hu, he⟩ := Option.map_eq_some_iff.mp h
      cases he
      rw [double_apostrophe, List.cons_append, List.cons_append, ← ih hu]
  | case5 d b hd =>
      cases h
      rfl
  | case6 c d b hc ih =>
      obtain ⟨⟨u, v⟩, hu, he⟩ := Option.map_eq_some_iff.mp h
      cases he
      rw [double_cons_of_ne hc, List.cons_append, ← ih hu]

/-- The literal at the start of a text ends where its grammar says, whatever follows it but another
apostrophe. -/
theorem cut?_ofText_append (t : Text) {rest : Text} (hr : rest.head? ≠ some apostrophe) :
    cut? (ofText t ++ rest) = some (t, rest) := by
  rw [ofText_append, cut?, if_pos rfl, closeFrom_double t hr]

/-- Reading a literal finds the text that it denotes, and no other text can be read as one. -/
theorem denoted?_eq_some_iff {l t : Text} : denoted? l = some t ↔ Denotes l t := by
  rw [denotes_iff]
  constructor
  · intro h
    rw [denoted?] at h
    split at h
    · next inner hcut =>
        cases h
        cases l with
        | nil => cases hcut
        | cons c b =>
            rw [cut?, Option.ite_none_right_eq_some] at hcut
            obtain ⟨rfl, hclose⟩ := hcut
            rw [eq_of_closeFrom hclose]
            rfl
    · cases h
  · rintro rfl
    have hcut := @cut?_ofText_append t [] nofun
    rw [List.append_nil] at hcut
    rw [denoted?, hcut]

theorem denotes_ofText_iff {t u : Text} : Denotes (ofText t) u ↔ u = t := by
  have hread := denoted?_eq_some_iff.mpr (denotes_ofText t)
  rw [← denoted?_eq_some_iff, hread, Option.some.injEq, eq_comm]

/-! ### What is quoted -/

theorem dropOpening_eq_self {t : Text} (h : ∀ c ∈ t.head?, isQuote c = false) :
    dropOpening t = t := by
  cases t with
  | nil => rfl
  | cons c t => rw [dropOpening, if_neg (Bool.eq_false_iff.mp (h c rfl))]

theorem dropClosing_eq_self {t : Text} (h : ∀ c ∈ t.getLast?, isQuote c = false) :
    dropClosing t = t := by
  have hreverse : ∀ c ∈ t.reverse.head?, isQuote c = false := by rwa [List.head?_reverse]
  rw [dropClosing, dropOpening_eq_self hreverse, List.reverse_reverse]

theorem isWrapped_eq_false {t : Text} (h : ∀ c ∈ t.head?, c ≠ apostrophe) :
    isWrapped t = false := by
  cases t with
  | nil => rfl
  | cons c t => rw [isWrapped, beq_eq_false_iff_ne.mpr (h c rfl), Bool.false_and]

theorem ne_apostrophe_of_not_quote {c : CodePoint} (h : isQuote c = false) : c ≠ apostrophe := by
  rintro rfl
  exact absurd h (by decide)

/-- Without quotes at its ends a text means itself. -/
theorem meaning_eq_self {raw : Text} (hfirst : ∀ c ∈ raw.head?, isQuote c = false)
    (hlast : ∀ c ∈ raw.getLast?, isQuote c = false) : meaning raw = raw := by
  have hwrapped := isWrapped_eq_false fun c hc => ne_apostrophe_of_not_quote (hfirst c hc)
  rw [meaning, dropOpening_eq_self hfirst, dropClosing_eq_self hlast, hwrapped]
  rfl

/-- A text between quotation marks means that text, whatever quotes it has at its own ends. -/
theorem quote_between (u : Text) :
    quote (CodePoint.char '"' :: u ++ [CodePoint.char '"']) = ofText u := by
  have hwrapped : isWrapped (CodePoint.char '"' :: u ++ [CodePoint.char '"']) = false :=
    isWrapped_eq_false fun c hc => by
      cases hc
      decide
  have hopening : dropOpening (CodePoint.char '"' :: u ++ [CodePoint.char '"']) =
      u ++ [CodePoint.char '"'] := rfl
  rw [quote, meaning, hwrapped, hopening, dropClosing_concat (by decide)]
  rfl

/-- **Quoting is a projection onto the literals.** It makes a literal of every text, and no quote
ends the literal before its last character does. The literal of a text without quotes at its ends
denotes that text and no other. Quoting twice is quoting once, and the texts that quoting leaves
alone are the literals. -/
theorem quote_isProjection (raw : Text) :
    (∃ t, Denotes (quote raw) t ∧
      ∀ rest, rest.head? ≠ some apostrophe → cut? (quote raw ++ rest) = some (t, rest)) ∧
    ((∀ c ∈ raw.head?, isQuote c = false) → (∀ c ∈ raw.getLast?, isQuote c = false) →
      ∀ t, Denotes (quote raw) t ↔ t = raw) ∧
    quote (quote raw) = quote raw ∧
    (quote raw = raw ↔ IsWellFormed raw) := by
  refine ⟨⟨meaning raw, denotes_ofText _, fun rest hr => cut?_ofText_append _ hr⟩, ?_,
    quote_ofText _, ?_⟩
  · intro hfirst hlast t
    rw [quote, meaning_eq_self hfirst hlast]
    exact denotes_ofText_iff
  · rw [isWellFormed_iff]
    constructor
    · intro h
      rw [← h]
      exact isLiteral_quote raw
    · intro h
      exact h.quote_eq

/-- A text with apostrophes inside, of which two in a row are not taken for one. -/
theorem quote_isProjection_inner :
    let raw := "5 o''clock's \"late\" now".toText
    quote raw = "'5 o''''clock''s \"late\" now'".toText ∧
      (∃ t, Denotes (quote raw) t ∧
        ∀ rest, rest.head? ≠ some apostrophe → cut? (quote raw ++ rest) = some (t, rest)) ∧
      (∀ t, Denotes (quote raw) t ↔ t = raw) ∧
      quote (quote raw) = quote raw ∧ (quote raw = raw ↔ IsWellFormed raw) := by
  intro raw
  obtain ⟨hliteral, hdenotes, htwice, hfixed⟩ := quote_isProjection raw
  have hfirst : ∀ c ∈ raw.head?, isQuote c = false := by
    rintro c ⟨⟩
    rfl
  have hlast : ∀ c ∈ raw.getLast?, isQuote c = false := by
    rintro c ⟨⟩
    rfl
  exact ⟨by decide, hliteral, hdenotes hfirst hlast, htwice, hfixed⟩

end TrackerQuery.Literal
