import TrackerQuery.Preset.Template
import TrackerQuery.Proofs.Where.Expression

/-!
# TrackerQuery.Proofs.Preset.Form

Templates **condition by condition**.

A template is written as conditions with *and* between them, and the values are
filled in where the conditions are. What a value can do to the conditions depends on
where it stands: between quotation marks, which it has none of, it stays where it
is, and outside of them it has to be a word of its own (`IsToken`) and to close what
it opens (`IsClosed`).

Main statements: `parse_fillAll`, `hasShape_fillAll_iff`. A value that is no token
leaves an empty clause or one without a value behind, and one that leaves a quote open
takes the next *and*, which no other place can make up for.
-/

namespace TrackerQuery

open Where (Scan IsAnd IsUncut EndsInAnd NoCut startsWithAnd)
open Literal (isQuote)

/-- The field and the operator of a condition. -/
def Condition.shape (c : Condition) : Text × Operator :=
  (c.field, c.operator)

/-- The expression is accepted, and its conditions have these fields and operators in order. -/
def Where.HasShape (w : Text) (shape : List (Text × Operator)) : Prop :=
  ∃ cs, Where.parse w = .ok cs ∧ cs.map Condition.shape = shape

/-- The text that takes the place of a piece of a template. -/
def Piece.fill (value : Text → Text) : Piece → Text
  | .text t => t
  | .placeholder name => value name

namespace Template

/-! ### Values -/

/-- Holds of the words that are not read as a connective. -/
def IsToken (v : Text) : Prop :=
  Text.IsWord v ∧ ¬IsAnd v

instance (v : Text) : Decidable (IsToken v) :=
  inferInstanceAs (Decidable (_ ∧ _))

/-- Holds of the texts that leave no quote open. -/
def IsClosed (t : Text) : Prop :=
  (Scan.start.after t).opened = none

instance (t : Text) : Decidable (IsClosed t) :=
  inferInstanceAs (Decidable (_ = none))

theorem isClosed_of_not_quote {t : Text} (h : ∀ c ∈ t, isQuote c = false) : IsClosed t :=
  Scan.after_opened_of_not_quote h Scan.start

/-- The value of a placeholder is a token, and leaves no quote open if more follows. -/
def Fits (value : Text → Text) (slot : Text × Bool) : Prop :=
  IsToken (value slot.1) ∧ (slot.2 = true → IsClosed (value slot.1))

instance (value : Text → Text) (slot : Text × Bool) : Decidable (Fits value slot) :=
  inferInstanceAs (Decidable (_ ∧ _))

/-! ### Conditions of a template -/

/-- A condition of a template. -/
inductive Form where
  /-- A field compared with a value that stands by itself. -/
  | bare (field : Text) (op : Comparison) (value : Piece)
  /-- A field compared with a value between quotation marks. -/
  | quoted (field : Text) (op : Comparison) (value : Piece)
  /-- A field tested for having a value. -/
  | check (field : Text) (op : NullCheck)

namespace Form

def field : Form → Text
  | bare f _ _ => f
  | quoted f _ _ => f
  | check f _ => f

/-- The fields and operators that the conditions of a filled template should have. -/
def shape : Form → Text × Operator
  | bare f op _ => (Field.sanitize f, .comparison op)
  | quoted f op _ => (Field.sanitize f, .comparison op)
  | check f n => (Field.sanitize f, .nullCheck n)

/-- A condition with its value filled in. -/
def fill (value : Text → Text) : Form → Text
  | bare f op p => f ++ .char ' ' :: op.toText ++ .char ' ' :: p.fill value
  | quoted f op p =>
    f ++ .char ' ' :: op.toText ++ .char ' ' :: (CodePoint.char '"' :: p.fill value ++ [.char '"'])
  | check f n => f ++ .char ' ' :: n.toText

/-- The condition that a filled condition should be read as. -/
def condition (value : Text → Text) : Form → Condition
  | bare f op p => .compare (Field.sanitize f) op (Literal.quote (p.fill value))
  | quoted f op p =>
    .compare (Field.sanitize f) op
      (Literal.quote (CodePoint.char '"' :: p.fill value ++ [.char '"']))
  | check f n => .check (Field.sanitize f) n

theorem shape_condition (value : Text → Text) (f : Form) :
    (f.condition value).shape = f.shape := by
  cases f <;> rfl

/-- Conditions with their values filled in and *and* between them. -/
def fillAll (value : Text → Text) (forms : List Form) : Text :=
  Text.join " and ".toText (forms.map (fill value))

/-- The placeholder of a condition. -/
def name? : Form → Option Text
  | bare _ _ (.placeholder n) => some n
  | quoted _ _ (.placeholder n) => some n
  | _ => none

/-- The placeholder of a condition if it stands outside quotation marks. -/
def bareName? : Form → Option Text
  | bare _ _ (.placeholder n) => some n
  | _ => none

/-- The placeholders outside quotation marks in order, each with whether a condition follows. -/
def slots : List Form → List (Text × Bool)
  | [] => []
  | f :: fs => (f.bareName?.map fun n => (n, !fs.isEmpty)).toList ++ slots fs

/-- Holds if the text of a condition does to the clauses what a placeholder should do. -/
def TextFits : Form → Prop
  | bare _ _ (.text t) => IsToken t ∧ IsClosed t
  | quoted _ _ (.text t) =>
    (∀ c ∈ t, c ≠ '"' ∧ c ≠ '\\' ∧ c ≠ '\n') ∧ ∀ r ∈ (t ++ [CodePoint.char '"']).tails,
      startsWithAnd r = false
  | _ => True

instance (f : Form) : Decidable f.TextFits :=
  match f with
  | bare _ _ (.text _) => inferInstanceAs (Decidable (_ ∧ _))
  | quoted _ _ (.text t) =>
    @instDecidableAnd _ _ (List.decidableBAll _ t)
      (List.decidableBAll _ (t ++ [CodePoint.char '"']).tails)
  | bare _ _ (.placeholder _) => inferInstanceAs (Decidable True)
  | quoted _ _ (.placeholder _) => inferInstanceAs (Decidable True)
  | check _ _ => inferInstanceAs (Decidable True)

/-- The own text of a condition is in order. -/
structure IsSound (f : Form) : Prop where
  /-- The field is a word. -/
  word : Text.IsWord f.field
  /-- The field has no quote. -/
  unquoted : ∀ c ∈ f.field, isQuote c = false
  /-- The field is not read as a connective. -/
  not_and : ¬IsAnd f.field
  /-- The value fits, if it is text. -/
  text_fits : f.TextFits

instance (f : Form) : Decidable f.IsSound :=
  decidable_of_iff
    (Text.IsWord f.field ∧ f.field.any isQuote = false ∧ ¬IsAnd f.field ∧ f.TextFits)
    ⟨fun h => ⟨h.1, Text.forall_mem_of_any h.2.1, h.2.2.1, h.2.2.2⟩,
      fun h => ⟨h.word, by simpa using h.unquoted, h.not_and, h.text_fits⟩⟩

/-- No value has an unsafe character. -/
def IsSafe (value : Text → Text) (f : Form) : Prop :=
  ∀ n, f.name? = some n → ∀ c ∈ value n, isUnsafe c = false

/-! ### What is filled in -/

section Filled

variable {value : Text → Text}

theorem not_blank_of_bare {f : Text} {op : Comparison} {p : Piece} (hs : (bare f op p).IsSound)
    (hv : IsSafe value (bare f op p)) : ∀ c ∈ p.fill value, Text.isBlank c = false := by
  cases p with
  | text t => exact hs.text_fits.1.1.2
  | placeholder n =>
      intro c hc
      have hsafe := hv n rfl c hc
      simp only [isUnsafe, Bool.or_eq_false_iff] at hsafe
      exact hsafe.1.1

theorem ne_of_quoted {f : Text} {op : Comparison} {p : Piece} (hs : (quoted f op p).IsSound)
    (hv : IsSafe value (quoted f op p)) :
    ∀ c ∈ p.fill value, c ≠ '"' ∧ c ≠ '\\' ∧ c ≠ '\n' := by
  cases p with
  | text t => exact hs.text_fits.1
  | placeholder n =>
      intro c hc
      have hsafe := hv n rfl c hc
      simp only [isUnsafe, Bool.or_eq_false_iff, beq_eq_false_iff_ne] at hsafe
      refine ⟨hsafe.1.2, hsafe.2, ?_⟩
      rintro rfl
      exact absurd hsafe.1.1 (by decide)

theorem isUncut_of_quoted {f : Text} {op : Comparison} {p : Piece} (hs : (quoted f op p).IsSound)
    (hv : IsSafe value (quoted f op p)) :
    IsUncut (CodePoint.char '"' :: p.fill value ++ [.char '"']) := by
  refine fun s => ⟨fun _ => Where.startsWithAnd_of_ne (by decide) _, ?_⟩
  cases p with
  | text t => exact Where.isUncut_of_tails hs.text_fits.2 _
  | placeholder n =>
      refine Where.noCut_of_no_space (fun c hc => ?_) _ _
      rcases List.mem_append.mp hc with hc | hc
      · rintro rfl
        exact absurd (hv n rfl _ hc) (by decide)
      · rw [List.mem_singleton.mp hc]
        decide

theorem fill_eq_append (value : Text → Text) (f : Form) :
    ∃ t, f.fill value = f.field ++ .char ' ' :: t := by
  cases f with
  | bare f op p => exact ⟨op.toText ++ .char ' ' :: p.fill value, by simp [fill, field]⟩
  | quoted f op p => exact ⟨op.toText ++ .char ' ' :: .char '"' :: p.fill value ++ [.char '"'],
      by simp [fill, field]⟩
  | check f n => exact ⟨n.toText, rfl⟩

theorem startsWithAnd_space_fill {f : Form} (hs : f.IsSound) :
    startsWithAnd (' ' :: f.fill value) = false := by
  obtain ⟨t, ht⟩ := fill_eq_append value f
  rw [ht, Where.startsWithAnd_space_front hs.word.2]
  exact Bool.eq_false_iff.mpr hs.not_and

theorem isAllBlank_fill {f : Form} (hs : f.IsSound) : Text.isAllBlank (f.fill value) = false := by
  obtain ⟨t, ht⟩ := fill_eq_append value f
  obtain ⟨c, u, hu⟩ := List.exists_cons_of_ne_nil hs.word.1
  have hc : c ∈ f.field := hu ▸ List.mem_cons_self
  exact Text.isAllBlank_eq_false (ht ▸ List.mem_append_left _ hc) (hs.word.2 c hc)

/-- Only a value outside quotation marks can leave a quote open. -/
theorem isClosed_fill_iff {f : Form} (hs : f.IsSound) (hv : f.IsSafe value) :
    IsClosed (f.fill value) ↔ ∀ n, f.bareName? = some n → IsClosed (value n) := by
  cases f with
  | bare f op p =>
      have hq : ∀ c ∈ f, isQuote c = false := hs.unquoted
      rw [IsClosed, fill, Where.after_compare_opened hq]
      cases p with
      | text t => exact iff_of_true hs.text_fits.2 (by simp [bareName?])
      | placeholder n => simp [bareName?, Piece.fill, IsClosed]
  | quoted f op p =>
      have hq : ∀ c ∈ f, isQuote c = false := hs.unquoted
      have hne := ne_of_quoted hs hv
      -- apostrophes do not close the quotation mark, and no backslash hides the closing one
      have hopen : ((Scan.start.step '"').after (p.fill value)).opened = some (.char '"') :=
        Scan.after_opened_of_ne rfl fun c hc => (hne c hc).1
      have hlast : ((Scan.start.step '"').after (p.fill value)).last ≠ some (.char '\\') := by
        intro h
        rcases Scan.mem_of_after_last h with h | h
        · exact (hne _ h).2.1 rfl
        · exact absurd h (by decide)
      refine iff_of_true ?_ (by simp [bareName?])
      rw [IsClosed, fill, Where.after_compare_opened hq, List.cons_append, Scan.after_cons,
        Scan.after_append, Scan.after_cons, Scan.after_nil, Scan.step, hopen]
      simp [hlast, Scan.toggle, show isQuote '"' = true from by decide]
  | check f n => exact iff_of_true (Where.after_check_opened hs.unquoted n) (by simp [bareName?])

theorem isUncut_bare {f v : Text} (hf : Text.IsWord f) (op : Comparison)
    (hb : ∀ c ∈ v, Text.isBlank c = false) (hand : ¬IsAnd v) :
    IsUncut (f ++ .char ' ' :: op.toText ++ .char ' ' :: v) := by
  refine Where.isUncut_compare hf op ?_ fun s => ?_
  · rw [Where.startsWithAnd_space_word hb]
    exact Bool.eq_false_iff.mpr hand
  · refine Where.noCut_of_no_space (fun c hc => ?_) s []
    rintro rfl
    exact absurd (hb _ hc) (by decide)

theorem endsInAnd_bare {f v : Text} (hq : ∀ c ∈ f, isQuote c = false) (op : Comparison)
    (hb : ∀ c ∈ v, Text.isBlank c = false) (hand : IsAnd v) :
    EndsInAnd (f ++ .char ' ' :: op.toText ++ .char ' ' :: v) := by
  obtain ⟨x, n, d, rfl, hstarts⟩ := Where.eq_of_isAnd hb hand
  exact ⟨f ++ .char ' ' :: op.toText, x, n, d, rfl, hstarts, Where.not_quote_front hq op⟩

/-- No piece ends in a filled condition, unless its value is a connective. -/
theorem isUncut_or_endsInAnd {f : Form} (hs : f.IsSound) (hv : f.IsSafe value) :
    IsUncut (f.fill value) ∨ EndsInAnd (f.fill value) := by
  cases f with
  | bare f op p =>
      have hblank := not_blank_of_bare hs hv
      by_cases hand : IsAnd (p.fill value)
      · exact Or.inr (endsInAnd_bare hs.unquoted op hblank hand)
      · exact Or.inl (isUncut_bare hs.word op hblank hand)
  | quoted f op p =>
      exact Or.inl (Where.isUncut_compare hs.word op
        (Where.startsWithAnd_space_of_ne (by decide) (by decide) _) (isUncut_of_quoted hs hv))
  | check f n => exact Or.inl (Where.isUncut_check hs.word n)

/-! ### Reading a filled condition -/

theorem parse_bare {f v : Text} (hf : Text.IsWord f) (op : Comparison) (hv : IsToken v) :
    Where.parse (f ++ .char ' ' :: op.toText ++ .char ' ' :: v) =
      .ok [.compare (Field.sanitize f) op (Literal.quote v)] :=
  Where.parse_of_noCut (Where.isTrimmed_compare hf op hv.1.1 hv.1.isTrimmed)
    (isUncut_bare hf op hv.1.2 hv.2 _) (Condition.ofClause?_word hf op hv.1)

/-- A value that is no token leaves a clause behind that is no condition. -/
theorem not_parse_bare {f v : Text} (hf : Text.IsWord f) (hq : ∀ c ∈ f, isQuote c = false)
    (op : Comparison) (hb : ∀ c ∈ v, Text.isBlank c = false) (hv : ¬IsToken v)
    (cs : List Condition) :
    Where.parse (f ++ .char ' ' :: op.toText ++ .char ' ' :: v) ≠ .ok cs := by
  intro h
  by_cases hand : IsAnd v
  · -- the clause behind the word *and* is empty
    have hnil := (endsInAnd_bare hq op hb hand).nil_mem_tail_cut (s := Scan.start) rfl (Or.inl rfl)
    rw [List.append_nil] at hnil
    have hmem : [] ∈ Where.clauses (f ++ .char ' ' :: op.toText ++ .char ' ' :: v) :=
      List.mem_map.mpr ⟨[], List.mem_of_mem_tail hnil, rfl⟩
    exact Where.ofClause?_ne_none_of_parse h hmem Condition.ofClause?_nil
  · -- there is no value, and the one clause has none either
    obtain rfl : v = [] := by
      by_contra hne
      exact hv ⟨⟨hne, hb⟩, hand⟩
    have htrim : Text.IsTrimmed (f ++ .char ' ' :: op.toText) := by
      refine ⟨hf.startsDark.append hf.1 _, ?_⟩
      rw [List.reverse_append, List.reverse_cons]
      cases op <;> exact Text.startsDark_cons.mpr (by decide)
    have hcl : Where.clauses (f ++ .char ' ' :: op.toText ++ [.char ' ']) =
        [f ++ .char ' ' :: op.toText] := by
      rw [Where.clauses, Where.cut_of_noCut (isUncut_bare hf op hb hand _), List.map_singleton,
        Text.strip_concat htrim (by simp) (by decide)]
    exact Where.ofClause?_ne_none_of_parse h (hcl ▸ List.mem_singleton_self _)
      (Condition.ofClause?_no_value hf op)

theorem parse_quoted {f u : Text} (hf : Text.IsWord f) (op : Comparison) (hnl : .char '\n' ∉ u)
    (hu : IsUncut (CodePoint.char '"' :: u ++ [.char '"'])) :
    Where.parse (f ++ .char ' ' :: op.toText ++ .char ' ' ::
      (CodePoint.char '"' :: u ++ [.char '"'])) =
      .ok [.compare (Field.sanitize f) op
        (Literal.quote (CodePoint.char '"' :: u ++ [.char '"']))] := by
  have htrim : Text.IsTrimmed (CodePoint.char '"' :: u ++ [.char '"']) := by
    constructor
    · exact Text.startsDark_cons.mpr (by decide)
    · rw [List.reverse_append]
      exact Text.startsDark_cons.mpr (by decide)
  refine Where.parse_of_noCut (Where.isTrimmed_compare hf op (List.cons_ne_nil _ _) htrim)
    (Where.isUncut_compare hf op ?_ hu _) ?_
  · exact Where.startsWithAnd_space_of_ne (by decide) (by decide) _
  · exact Condition.ofClause?_concat hf op (by decide) htrim (by simpa using hnl)

theorem parse_check {f : Text} (hf : Text.IsWord f) (n : NullCheck) :
    Where.parse (f ++ .char ' ' :: n.toText) = .ok [.check (Field.sanitize f) n] :=
  Where.parse_of_noCut (Where.isTrimmed_check hf n) (Where.isUncut_check hf n _)
    (Condition.ofClause?_check hf n)

/-- A filled condition is read as intended if a value outside quotation marks is a token. -/
theorem parse_fill {f : Form} (hs : f.IsSound) (hv : f.IsSafe value)
    (ht : ∀ n, f.bareName? = some n → IsToken (value n)) :
    Where.parse (f.fill value) = .ok [f.condition value] := by
  cases f with
  | bare f op p =>
      have htoken : IsToken (p.fill value) := by
        cases p with
        | text t => exact hs.text_fits.1
        | placeholder n => exact ht n rfl
      exact parse_bare hs.word op htoken
  | quoted f op p =>
      have hnl : .char '\n' ∉ p.fill value := fun h => (ne_of_quoted hs hv _ h).2.2 rfl
      exact parse_quoted hs.word op hnl (isUncut_of_quoted hs hv)
  | check f n => exact parse_check hs.word n

theorem not_parse_fill {f : Form} (hs : f.IsSound) (hv : f.IsSafe value) {n : Text}
    (hn : f.bareName? = some n) (ht : ¬IsToken (value n)) (cs : List Condition) :
    Where.parse (f.fill value) ≠ .ok cs := by
  cases f with
  | bare f op p =>
      cases p with
      | text t => exact absurd hn (by simp [bareName?])
      | placeholder m =>
          obtain rfl : m = n := Option.some.inj hn
          exact not_parse_bare hs.word hs.unquoted op (not_blank_of_bare hs hv) ht cs
  | quoted f op p => exact absurd hn (by simp [bareName?])
  | check f op => exact absurd hn (by simp [bareName?])

/-! ### Main statement -/

theorem forall_slots_cons {f : Form} {fs : List Form} :
    (∀ slot ∈ slots (f :: fs), Fits value slot) ↔
      (∀ n, f.bareName? = some n → IsToken (value n) ∧ (fs ≠ [] → IsClosed (value n))) ∧
        ∀ slot ∈ slots fs, Fits value slot := by
  rw [slots, List.forall_mem_append]
  refine and_congr_left' ?_
  cases f.bareName? <;> simp [Fits]

theorem fillAll_cons_cons (value : Text → Text) (f g : Form) (gs : List Form) :
    fillAll value (f :: g :: gs) = f.fill value ++ " and ".toText ++ fillAll value (g :: gs) := by
  rw [fillAll, List.map_cons, List.map_cons, Text.join_cons_cons]
  rfl

theorem fillAll_eq_append (value : Text → Text) (f : Form) (fs : List Form) :
    ∃ t, fillAll value (f :: fs) = f.fill value ++ t := by
  cases fs with
  | nil => exact ⟨[], by rw [fillAll, List.map_singleton, Text.join_singleton, List.append_nil]⟩
  | cons g gs => exact ⟨_, (fillAll_cons_cons value f g gs).trans (List.append_assoc _ _ _)⟩

/-- If there are as many clauses as conditions, the first of them leaves no quote open. -/
theorem isClosed_of_parse {f g : Form} {gs : List Form} (hs : ∀ h ∈ f :: g :: gs, h.IsSound)
    (hv : ∀ h ∈ f :: g :: gs, h.IsSafe value) {cs : List Condition}
    (hparse : Where.parse (fillAll value (f :: g :: gs)) = .ok cs)
    (hlen : cs.length = gs.length + 2) : IsClosed (f.fill value) := by
  by_contra ho
  have hn : NoCut Scan.start (f.fill value) [] := by
    rcases isUncut_or_endsInAnd (hs f List.mem_cons_self) (hv f List.mem_cons_self) with h | h
    · exact h _
    · exact absurd (isClosed_of_not_quote h.not_quote) ho
  have hcut := Where.cut_join_of_opened hn ho (fillAll value (g :: gs))
  rw [← fillAll_cons_cons] at hcut
  have hpieces : ∀ t ∈ (g :: gs).map (fill value),
      startsWithAnd (' ' :: t) = false ∧ (IsUncut t ∨ EndsInAnd t) := by
    intro t ht
    obtain ⟨h, hmem, rfl⟩ := List.mem_map.mp ht
    have hmem' : h ∈ f :: g :: gs := List.mem_cons_of_mem _ hmem
    exact ⟨startsWithAnd_space_fill (hs h hmem'), isUncut_or_endsInAnd (hs h hmem') (hv h hmem')⟩
  have hbound : ∀ s, [] ∈ (Where.cut s 0 (fillAll value (g :: gs))).tail ∨
      (Where.cut s 0 (fillAll value (g :: gs))).length ≤ ((g :: gs).map (fill value)).length :=
    Where.length_cut_join_le (List.cons_ne_nil _ _) (fun t ht => (hpieces t ht).1)
      (fun t ht => (hpieces t ht).2)
  -- either a clause is empty, or there is one too few
  rcases hbound (Scan.start.after (f.fill value ++ " and ".toText)) with hnil | hle
  · rw [← List.tail_modifyHead, ← hcut] at hnil
    have hmem : [] ∈ Where.clauses (fillAll value (f :: g :: gs)) :=
      List.mem_map.mpr ⟨[], List.mem_of_mem_tail hnil, rfl⟩
    exact Where.ofClause?_ne_none_of_parse hparse hmem Condition.ofClause?_nil
  · rw [← List.length_modifyHead, ← hcut, List.length_map, List.length_cons] at hle
    have hclauses := Where.length_clauses_of_parse hparse
    rw [Where.clauses, List.length_map, hlen] at hclauses
    omega

/-- A condition that leaves no quote open is read apart from those behind it. -/
theorem parse_fillAll_cons_cons {f g : Form} {gs : List Form}
    (hs : ∀ h ∈ f :: g :: gs, h.IsSound) (hc : IsClosed (f.fill value)) {cs : List Condition} :
    Where.parse (fillAll value (f :: g :: gs)) = .ok cs ↔
      ∃ cs₁ cs₂, Where.parse (f.fill value) = .ok cs₁ ∧
        Where.parse (fillAll value (g :: gs)) = .ok cs₂ ∧ cs = cs₁ ++ cs₂ := by
  have hsg := hs g (List.mem_cons_of_mem _ List.mem_cons_self)
  have hand : startsWithAnd (' ' :: fillAll value (g :: gs)) = false :=
    Where.startsWithAnd_space_join (startsWithAnd_space_fill hsg) _
  have hdark : Text.isAllBlank (fillAll value (g :: gs)) = false := by
    obtain ⟨t, ht⟩ := fillAll_eq_append value g gs
    exact ht ▸ Text.isAllBlank_append (isAllBlank_fill hsg) t
  rw [fillAll_cons_cons]
  exact Where.parse_append hc hand (isAllBlank_fill (hs f List.mem_cons_self)) hdark

/-- Where every value outside quotation marks fits, the filled template is read condition by
condition. -/
theorem parse_fillAll {fs : List Form} (hne : fs ≠ []) (hs : ∀ f ∈ fs, f.IsSound)
    (hv : ∀ f ∈ fs, f.IsSafe value) (hfit : ∀ slot ∈ slots fs, Fits value slot) :
    Where.parse (fillAll value fs) = .ok (fs.map (condition value)) := by
  induction fs with
  | nil => exact absurd rfl hne
  | cons f fs ih =>
      obtain ⟨hf, hrest⟩ := forall_slots_cons.mp hfit
      have hsf := hs f List.mem_cons_self
      have hvf := hv f List.mem_cons_self
      have hfirst := parse_fill hsf hvf fun n hn => (hf n hn).1
      cases fs with
      | nil => rwa [fillAll, List.map_singleton, List.map_singleton, Text.join_singleton]
      | cons g gs =>
          have hclosed := (isClosed_fill_iff hsf hvf).mpr fun n hn =>
            (hf n hn).2 (List.cons_ne_nil g gs)
          have hbehind := ih (List.cons_ne_nil g gs) (fun h hh => hs h (List.mem_cons_of_mem _ hh))
            (fun h hh => hv h (List.mem_cons_of_mem _ hh)) hrest
          exact (parse_fillAll_cons_cons hs hclosed).mpr ⟨_, _, hfirst, hbehind, rfl⟩

/-- Where the fields and operators are as intended, every value outside quotation marks fits. -/
theorem fits_of_hasShape {fs : List Form} (hs : ∀ f ∈ fs, f.IsSound)
    (hv : ∀ f ∈ fs, f.IsSafe value) (h : Where.HasShape (fillAll value fs) (fs.map shape)) :
    ∀ slot ∈ slots fs, Fits value slot := by
  induction fs with
  | nil => simp [slots]
  | cons f fs ih =>
      have hsf := hs f List.mem_cons_self
      have hvf := hv f List.mem_cons_self
      -- a value that is no token would leave a clause behind that is no condition
      have htoken : ∀ {cs}, Where.parse (f.fill value) = .ok cs →
          ∀ n, f.bareName? = some n → IsToken (value n) := by
        intro cs hparse n hn
        by_contra ht
        exact not_parse_fill hsf hvf hn ht cs hparse
      obtain ⟨cs, hparse, hshape⟩ := h
      rw [forall_slots_cons]
      cases fs with
      | nil =>
          rw [fillAll, List.map_singleton, Text.join_singleton] at hparse
          exact ⟨fun n hn => ⟨htoken hparse n hn, fun hne => absurd rfl hne⟩, by simp [slots]⟩
      | cons g gs =>
          have hlen : cs.length = gs.length + 2 := by simpa using congrArg List.length hshape
          have hclosed := isClosed_of_parse hs hv hparse hlen
          obtain ⟨cs₁, cs₂, h1, h2, rfl⟩ := (parse_fillAll_cons_cons hs hclosed).mp hparse
          have hfirst := parse_fill hsf hvf (htoken h1)
          rw [h1, Except.ok.injEq] at hfirst
          subst hfirst
          refine ⟨fun n hn => ⟨htoken h1 n hn, fun _ => ?_⟩, ?_⟩
          · exact (isClosed_fill_iff hsf hvf).mp hclosed n hn
          · exact ih (fun h hh => hs h (List.mem_cons_of_mem _ hh))
              (fun h hh => hv h (List.mem_cons_of_mem _ hh)) ⟨cs₂, h2, (List.cons.inj hshape).2⟩

/-- **Which values keep the conditions of a template.** The filled template is read as the
conditions that it was written for if and only if every value outside quotation marks fits. -/
theorem hasShape_fillAll_iff {fs : List Form} (hne : fs ≠ []) (hs : ∀ f ∈ fs, f.IsSound)
    (hv : ∀ f ∈ fs, f.IsSafe value) :
    Where.HasShape (fillAll value fs) (fs.map shape) ↔ ∀ slot ∈ slots fs, Fits value slot := by
  constructor
  · intro h
    exact fits_of_hasShape hs hv h
  · intro hfit
    refine ⟨_, parse_fillAll hne hs hv hfit, ?_⟩
    rw [List.map_map]
    exact List.map_congr_left fun f _ => shape_condition value f

end Filled

end Form

end Template

end TrackerQuery
