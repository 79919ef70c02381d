import Mathlib.Logic.Relation
import TrackerQuery.Field
import TrackerQuery.Proofs.Text.Blank

/-!
# TrackerQuery.Proofs.Field

The **canonical form** of field references.

The alias is written without blanks and is no beginning of the long spelling, so a
sanitized reference has no blank, does not start with the long spelling, and is
left alone by a second sanitizing. It is a word unless the reference was blank.

Blanks and the spelling of a custom field are all that sanitizing levels out: each is
a step from one reference to another (`Respells`), and references that have the same
canonical form are joined by such steps (`sanitize_eq_iff`), since each reference is
joined to its own canonical form.

Main statement: `sanitize_isCanonicalForm`.
-/

namespace TrackerQuery

theorem Text.after?_eq_some_iff {start t rest : Text} :
    Text.after? start t = some rest ↔ t = start ++ rest := by
  fun_induction Text.after? start t with
  | case1 t => simp
  | case2 p ps => simp
  | case3 ps c cs ih => simp [ih]
  | case4 p ps c cs hne => simp [Ne.symm hne]

namespace Field

/-- Sanitizing either only removes blanks, or what is left then starts with the long spelling and
that is replaced. -/
theorem sanitize_cases (f : Text) :
    (sanitize f = Text.compact f ∧ Text.after? customField (Text.compact f) = none) ∨
      ∃ name, Text.compact f = customField ++ name ∧ sanitize f = customAlias ++ name := by
  rw [sanitize]
  cases h : Text.after? customField (Text.compact f) with
  | none => exact Or.inl ⟨rfl, rfl⟩
  | some name => exact Or.inr ⟨name, Text.after?_eq_some_iff.mp h, rfl⟩

theorem not_blank_of_mem_sanitize {f : Text} {c : CodePoint} (h : c ∈ sanitize f) :
    Text.isBlank c = false := by
  rcases sanitize_cases f with ⟨hs, -⟩ | ⟨name, hc, hs⟩
  · rw [hs] at h
    exact (Text.mem_compact.mp h).2
  · rw [hs, List.mem_append] at h
    rcases h with h | h
    · exact Text.forall_mem_of_any (t := customAlias) (by decide) c h
    · have hm : c ∈ Text.compact f := hc ▸ List.mem_append_right _ h
      exact (Text.mem_compact.mp hm).2

/-- Every character of a sanitized reference is one of the reference or of the alias. -/
theorem mem_of_mem_sanitize {f : Text} {c : CodePoint} (h : c ∈ sanitize f) :
    c ∈ customAlias ∨ c ∈ f := by
  rcases sanitize_cases f with ⟨hs, -⟩ | ⟨name, hc, hs⟩
  · rw [hs] at h
    exact Or.inr (Text.mem_compact.mp h).1
  · rw [hs, List.mem_append] at h
    have hm : c ∈ name → c ∈ f := fun h =>
      (Text.mem_compact.mp (hc ▸ List.mem_append_right _ h)).1
    exact h.imp_right hm

theorem sanitize_ne_nil {f : Text} {c : CodePoint} (hc : c ∈ f) (hb : Text.isBlank c = false) :
    sanitize f ≠ [] := by
  rcases sanitize_cases f with ⟨hs, -⟩ | ⟨name, -, hs⟩
  · rw [hs]
    exact List.ne_nil_of_mem (Text.mem_compact.mpr ⟨hc, hb⟩)
  · rw [hs]
    exact List.cons_ne_nil _ _

/-- A sanitized reference does not start with the long spelling. -/
theorem after?_sanitize (f : Text) : Text.after? customField (sanitize f) = none := by
  rcases sanitize_cases f with ⟨hs, hn⟩ | ⟨name, -, hs⟩
  · rw [hs, hn]
  · rw [hs]
    rfl

theorem sanitize_sanitize (f : Text) : sanitize (sanitize f) = sanitize f := by
  have hcompact : Text.compact (sanitize f) = sanitize f :=
    Text.compact_eq_self fun c hc => not_blank_of_mem_sanitize hc
  rw [sanitize, hcompact, after?_sanitize]

/-- The blanks at the ends of a reference do not matter. -/
theorem sanitize_strip (f : Text) : sanitize (Text.strip f) = sanitize f := by
  rw [sanitize, sanitize, Text.strip, Text.compact_dropBlankEnd, Text.compact_dropBlank]

theorem sanitize_dropBlankEnd (f : Text) : sanitize (Text.dropBlankEnd f) = sanitize f := by
  rw [sanitize, sanitize, Text.compact_dropBlankEnd]

/-- Holds of the words that sanitizing leaves alone. -/
def IsCanonical (f : Text) : Prop :=
  Text.IsWord f ∧ sanitize f = f

/-- A reference that is not blank has a canonical form. -/
theorem isCanonical_sanitize {f : Text} {c : CodePoint} (hc : c ∈ f) (hb : Text.isBlank c = false) :
    IsCanonical (sanitize f) :=
  ⟨⟨sanitize_ne_nil hc hb, fun _ h => not_blank_of_mem_sanitize h⟩, sanitize_sanitize f⟩

theorem isCanonical_sanitize_of_isWord {f : Text} (h : Text.IsWord f) :
    IsCanonical (sanitize f) := by
  obtain ⟨c, t, rfl⟩ := List.exists_cons_of_ne_nil h.1
  exact isCanonical_sanitize List.mem_cons_self (h.2 c List.mem_cons_self)

end Field

/-! ### Blanks put in and taken out -/

namespace Text

/-- The second text is the first one with one more blank in it. -/
inductive InsertsBlank : Text → Text → Prop where
  | insert (t u : Text) {c : CodePoint} (hc : isBlank c = true) :
      InsertsBlank (t ++ u) (t ++ c :: u)

/-- Holds of two texts that differ only by blanks put in and taken out. -/
def DifferByBlanks : Text → Text → Prop :=
  Relation.EqvGen InsertsBlank

theorem InsertsBlank.compact_eq {t u : Text} (h : InsertsBlank t u) : compact t = compact u := by
  cases h with
  | insert t u hc => simp [compact, hc]

/-- Taking out every blank is one way to take out blanks. The text in front is what has been gone
through. -/
theorem differByBlanks_append_compact (front t : Text) :
    DifferByBlanks (front ++ t) (front ++ compact t) := by
  induction t generalizing front with
  | nil => exact .refl _
  | cons c t ih =>
      by_cases hc : isBlank c = true
      · have hcompact : compact (c :: t) = compact t := by simp [compact, hc]
        rw [hcompact]
        exact (Relation.EqvGen.rel _ _ (.insert front t hc)).symm.trans _ _ _ (ih front)
      · have hcompact : compact (c :: t) = c :: compact t := by simp [compact, hc]
        have hbehind := ih (front ++ [c])
        rw [List.append_assoc, List.append_assoc] at hbehind
        rw [hcompact]
        exact hbehind

theorem differByBlanks_compact (t : Text) : DifferByBlanks t (compact t) :=
  differByBlanks_append_compact [] t

end Text

namespace Field

/-! ### Two spellings of one reference -/

/-- A step from one spelling of a reference to another: one more blank, or the alias in the place
of the long spelling. -/
inductive Respells : Text → Text → Prop where
  | blank {f g : Text} (h : Text.InsertsBlank f g) : Respells f g
  | shorten (name : Text) : Respells (customField ++ name) (customAlias ++ name)

/-- Holds of two spellings of one reference. -/
def SameReference : Text → Text → Prop :=
  Relation.EqvGen Respells

theorem sameReference_of_differByBlanks {f g : Text} (h : Text.DifferByBlanks f g) :
    SameReference f g :=
  h.mono fun _ _ => .blank

/-- Either spelling of a custom field has the alias in its canonical form. -/
theorem sanitize_customField (name : Text) :
    sanitize (customField ++ name) = sanitize (customAlias ++ name) := by
  have hlong : Text.compact (customField ++ name) = customField ++ Text.compact name := by
    rw [Text.compact, List.filter_append]
    rfl
  have hshort : Text.compact (customAlias ++ name) = customAlias ++ Text.compact name := by
    rw [Text.compact, List.filter_append]
    rfl
  rw [sanitize, hlong, Text.after?_eq_some_iff.mpr rfl, sanitize, hshort]
  rfl

theorem Respells.sanitize_eq {f g : Text} (h : Respells f g) : sanitize f = sanitize g := by
  cases h with
  | blank h => rw [sanitize, sanitize, h.compact_eq]
  | shorten name => exact sanitize_customField name

/-- A reference can be respelled as its canonical form. -/
theorem sameReference_sanitize (f : Text) : SameReference f (sanitize f) := by
  have hcompact := sameReference_of_differByBlanks (Text.differByBlanks_compact f)
  rcases sanitize_cases f with ⟨hs, -⟩ | ⟨name, hc, hs⟩
  · rw [hs]
    exact hcompact
  · rw [hc] at hcompact
    rw [hs]
    exact hcompact.trans _ _ _ (.rel _ _ (.shorten name))

/-- References have the same canonical form if they are spellings of one reference, and only
then. -/
theorem sanitize_eq_iff {f g : Text} : sanitize f = sanitize g ↔ SameReference f g := by
  constructor
  · intro h
    have hf := sameReference_sanitize f
    rw [h] at hf
    exact hf.trans _ _ _ (sameReference_sanitize g).symm
  · intro h
    induction h with
    | rel _ _ h => exact h.sanitize_eq
    | refl => rfl
    | symm _ _ _ ih => exact ih.symm
    | trans _ _ _ _ _ ih ih' => exact ih.trans ih'

/-- **Canonical form.** A sanitized reference has no blank, does not start with the long spelling
and stays as it is when it is sanitized again. Blanks put into a reference or taken out of it do
not matter, and nothing but blanks and the spelling of a custom field is levelled out. -/
theorem sanitize_isCanonicalForm (f : Text) :
    (∀ c ∈ sanitize f, Text.isBlank c = false) ∧ ¬customField <+: sanitize f ∧
      sanitize (sanitize f) = sanitize f ∧
      (∀ g, Text.DifferByBlanks f g → sanitize g = sanitize f) ∧
      ∀ g, sanitize g = sanitize f → SameReference f g := by
  refine ⟨fun c hc => not_blank_of_mem_sanitize hc, ?_, sanitize_sanitize f, ?_, ?_⟩
  · intro h
    obtain ⟨name, hname⟩ := h
    have hnone := after?_sanitize f
    rw [Text.after?_eq_some_iff.mpr hname.symm] at hnone
    exact absurd hnone (by simp)
  · intro g hg
    exact (sanitize_eq_iff.mpr (sameReference_of_differByBlanks hg)).symm
  · intro g hg
    exact sanitize_eq_iff.mp hg.symm

/-- Without its blanks the reference starts with the long spelling, and behind that with the long
spelling once more. -/
theorem sanitize_isCanonicalForm_repeated :
    let f := " Custom Field.\u2003CustomField. X".toText
    let g := "CustomField.CustomField.X".toText
    sanitize f = "cf_CustomField.X".toText ∧ (∀ c ∈ sanitize f, Text.isBlank c = false) ∧
      ¬customField <+: sanitize f ∧ sanitize (sanitize f) = sanitize f ∧
      Text.DifferByBlanks f g ∧ sanitize g = sanitize f ∧ SameReference f g := by
  intro f g
  obtain ⟨hdark, hstart, hagain, hblanks, hsame⟩ := sanitize_isCanonicalForm f
  have hcompact : Text.compact f = g := by decide
  have hg : Text.DifferByBlanks f g := hcompact ▸ Text.differByBlanks_compact f
  exact ⟨by decide, hdark, hstart, hagain, hg, hblanks g hg, hsame g (hblanks g hg)⟩

end Field

end TrackerQuery
