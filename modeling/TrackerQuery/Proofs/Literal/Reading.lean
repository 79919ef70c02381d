import TrackerQuery.Proofs.Literal.Quoted

/-!
# TrackerQuery.Proofs.Literal.Reading

The **literals of a text** as the query language reads them.

A text is read from left to right. An apostrophe opens a literal, two in a row
inside a literal stand for one, and an apostrophe alone closes it. `read` is this
rule and nothing else: no other character has a meaning for it, and it knows
nothing about how literals are made. It has no answer for a text in which a literal
stays open.

`ReadsAs` says that a text is read as certain literals and that no quote of either
kind stands outside them. Reading loses no character, so the quotes of such a text
are those of its literals (`ReadsAs.countP_quote`).
-/

namespace TrackerQuery.Literal

/-- What the literal rule finds in a text. -/
structure Reading where
  /-- The characters outside the literals, in order. -/
  outside : Text
  /-- The literals with their apostrophes, in order. -/
  literals : List Text
  deriving DecidableEq, Repr

namespace Reading

/-- A text outside the literals in front of what was read. -/
def addOutside (t : Text) (r : Reading) : Reading :=
  { r with outside := t ++ r.outside }

/-- A literal in front of what was read. -/
def addLiteral (l : Text) (r : Reading) : Reading :=
  { r with literals := l :: r.literals }

end Reading

/-- Reads a text from left to right. The first argument is the literal that is open, as far as it
has been read. -/
def readFrom : Option Text → Text → Option Reading
  | none, [] => some ⟨[], []⟩
  | some _, [] => none
  | none, c :: rest =>
    if c = apostrophe then readFrom (some [c]) rest
    else (readFrom none rest).map (Reading.addOutside [c])
  | some l, [c] => if c = apostrophe then some ⟨[], [l ++ [c]]⟩ else none
  | some l, c :: d :: rest =>
    if c = apostrophe then
      if d = apostrophe then readFrom (some (l ++ [c, d])) rest
      else (readFrom none (d :: rest)).map (Reading.addLiteral (l ++ [c]))
    else readFrom (some (l ++ [c])) (d :: rest)

/-- The literals of a text and what stands outside them; `none` if a literal is not closed. -/
def read (t : Text) : Option Reading :=
  readFrom none t

/-! ### Reading outside and inside a literal -/

theorem readFrom_inside_cons {c : CodePoint} (hc : c ≠ apostrophe) (l t : Text) :
    readFrom (some l) (c :: t) = readFrom (some (l ++ [c])) t := by
  cases t with
  | nil => simp [readFrom, hc]
  | cons d t => rw [readFrom, if_neg hc]

theorem readFrom_inside_pair (l t : Text) :
    readFrom (some l) (apostrophe :: apostrophe :: t) =
      readFrom (some (l ++ [apostrophe, apostrophe])) t := by
  rw [readFrom, if_pos rfl, if_pos rfl]

theorem readFrom_inside_close (l : Text) {t : Text} (ht : t.head? ≠ some apostrophe) :
    readFrom (some l) (apostrophe :: t) =
      (readFrom none t).map (Reading.addLiteral (l ++ [apostrophe])) := by
  cases t with
  | nil => rfl
  | cons d t =>
      have hd : d ≠ apostrophe := fun h => ht (by rw [h, List.head?_cons])
      simp [readFrom, hd]

/-- Inside a literal, doubled text is read up to the apostrophe behind it. -/
theorem readFrom_double (l inner : Text) {t : Text} (ht : t.head? ≠ some apostrophe) :
    readFrom (some l) (double inner ++ apostrophe :: t) =
      (readFrom none t).map (Reading.addLiteral (l ++ double inner ++ [apostrophe])) := by
  induction inner generalizing l with
  | nil => rw [double_nil, List.nil_append, readFrom_inside_close l ht, List.append_nil]
  | cons c inner ih =>
      by_cases hc : c = apostrophe
      · rw [hc, double_apostrophe, List.cons_append, List.cons_append, readFrom_inside_pair, ih]
        simp
      · rw [double_cons_of_ne hc, List.cons_append, readFrom_inside_cons hc, ih]
        simp

theorem read_cons {c : CodePoint} (hc : c ≠ apostrophe) (t : Text) :
    read (c :: t) = (read t).map (Reading.addOutside [c]) := by
  rw [read, readFrom, if_neg hc, ← read]

/-- A literal is read whole, unless another apostrophe follows it. -/
theorem read_literal {l : Text} (hl : IsLiteral l) {t : Text} (ht : t.head? ≠ some apostrophe) :
    read (l ++ t) = (read t).map (Reading.addLiteral l) := by
  obtain ⟨inner, rfl⟩ := hl
  have happ : ofText inner ++ t = apostrophe :: (double inner ++ apostrophe :: t) := by
    simp [ofText]
  rw [happ, read, readFrom, if_pos rfl, readFrom_double _ _ ht, ← read]
  rfl

/-- Reading loses no character. -/
theorem perm_of_readFrom {l : Option Text} {t : Text} {r : Reading} (h : readFrom l t = some r) :
    (l.getD [] ++ t).Perm (r.outside ++ r.literals.flatten) := by
  fun_induction readFrom l t generalizing r with
  | case1 => exact Option.some.inj h ▸ List.Perm.refl _
  | case2 => exact absurd h (by simp)
  | case3 rest ih => exact ih h
  | case4 c rest hc ih =>
      obtain ⟨r', hr', rfl⟩ := Option.map_eq_some_iff.mp h
      exact (ih hr').cons c
  | case5 l => exact Option.some.inj h ▸ by simp
  | case6 => exact absurd h (by simp)
  | case7 l rest ih => simpa using ih h
  | case8 l d rest hd ih =>
      -- the literal that is closed here moves in front of what is read outside
      obtain ⟨r', hr', rfl⟩ := Option.map_eq_some_iff.mp h
      have hperm := (ih hr').append_left (l ++ [apostrophe])
      refine (List.Perm.of_eq (by simp)).trans (hperm.trans ?_)
      exact (List.perm_append_comm_assoc _ _ _).trans
        (List.Perm.of_eq (by simp [Reading.addLiteral]))
  | case9 l c d rest hc ih => simpa using ih h

/-! ### Texts without quotes outside their literals -/

/-- The text is read as exactly these literals, each of them closed, and no quote of either kind
stands outside them. -/
def ReadsAs (t : Text) (literals : List Text) : Prop :=
  ∃ outside, read t = some ⟨outside, literals⟩ ∧ ∀ c ∈ outside, isQuote c = false

theorem readsAs_nil : ReadsAs [] [] :=
  ⟨[], rfl, by simp⟩

/-- Text without quotes in front changes no literal. -/
theorem ReadsAs.outside {t : Text} {ls : List Text} (h : ReadsAs t ls) {u : Text}
    (hu : ∀ c ∈ u, isQuote c = false) : ReadsAs (u ++ t) ls := by
  induction u with
  | nil => exact h
  | cons c u ih =>
      obtain ⟨o, hr, ho⟩ := ih (fun x hx => hu x (List.mem_cons_of_mem _ hx))
      have hc : isQuote c = false := hu c List.mem_cons_self
      have hne : c ≠ apostrophe := fun e => by
        rw [e] at hc
        exact absurd hc (by decide)
      refine ⟨c :: o, ?_, fun x hx => ?_⟩
      · rw [List.cons_append, read_cons hne, hr]
        rfl
      · rcases List.mem_cons.mp hx with rfl | hx
        · exact hc
        · exact ho x hx

theorem ReadsAs.literal {t : Text} {ls : List Text} (h : ReadsAs t ls) {l : Text}
    (hl : IsLiteral l) (ht : t.head? ≠ some apostrophe) : ReadsAs (l ++ t) (l :: ls) := by
  obtain ⟨o, hr, ho⟩ := h
  exact ⟨o, by rw [read_literal hl ht, hr]; rfl, ho⟩

/-- The quotes of the text are those of its literals. -/
theorem ReadsAs.countP_quote {t : Text} {ls : List Text} (h : ReadsAs t ls) :
    t.countP isQuote = ls.flatten.countP isQuote := by
  obtain ⟨o, hr, ho⟩ := h
  have hperm := perm_of_readFrom hr
  have hzero : o.countP isQuote = 0 := List.countP_eq_zero.mpr fun c hc => by simp [ho c hc]
  have hcount := hperm.countP_eq isQuote
  rw [Option.getD_none, List.nil_append, List.countP_append, hzero, Nat.zero_add] at hcount
  exact hcount

end TrackerQuery.Literal
