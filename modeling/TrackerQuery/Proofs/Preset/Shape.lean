import TrackerQuery.Preset.Expansion
import TrackerQuery.Proofs.Preset.Form
import TrackerQuery.Proofs.Preset.Variables
import TrackerQuery.Proofs.Traced

/-!
# TrackerQuery.Proofs.Preset.Shape

What a **variable of a preset** can do to the query.

Every template of the library is made of conditions (`forall₂_hasForms`), so what is
known of these holds of an expanded preset. The check of a variable keeps a value in
its place between quotation marks, but it lets apostrophes, empty values and the word
*and* pass, and where a placeholder stands outside of quotation marks these change
the conditions (`expand_hasShape_iff`).
-/

namespace TrackerQuery

open Where (Scan IsAnd)

namespace Template

/-! ### Placeholders outside quotes -/

/-- The placeholders that stand outside quotes, in order, each with whether the template goes on
behind it. `s` is the state of the scan in front of the template. -/
def slotsFrom (s : Scan) : Template → List (Text × Bool)
  | [] => []
  | .text t :: rest => slotsFrom (s.after t) rest
  | .placeholder n :: rest =>
    if s.opened = none then (n, !rest.isEmpty) :: slotsFrom s rest else slotsFrom s rest

/-- The placeholders of a template that stand outside quotes. -/
def slots (template : Template) : List (Text × Bool) :=
  slotsFrom Scan.start template

/-! ### The templates of the library -/

/-- The template is made of these conditions. -/
structure HasForms (template : Template) (forms : List Form) : Prop where
  ne_nil : forms ≠ []
  sound : ∀ f ∈ forms, f.IsSound
  names : ∀ f ∈ forms, ∀ n ∈ f.name?, n ∈ template.names
  fill_eq : ∀ value, template.fill value = Form.fillAll value forms
  slots_eq : template.slots = Form.slots forms

namespace Form

def state (op : Comparison) (name : String) : Form :=
  quoted "EntityState.Name".toText op (verbatim name)

def assignedToUser : Form :=
  quoted "AssignedUser.Email".toText .eq (slot "currentUser")

def unassigned : Form :=
  check "AssignedUser".toText .isNull

def highPriority : Form :=
  quoted "Priority.Name".toText .eq (verbatim "High")

def onReferenceDay (field : String) : List Form :=
  [bare field.toText .gte (slot "todayDate"), bare field.toText .lt (slot "tomorrowDate")]

def sinceWeekStart (field : String) : List Form :=
  [bare field.toText .gte (slot "weekStartDate")]

end Form

/-- The conditions of the presets, in the order in which the presets are listed. -/
def presetForms : List (List Form) :=
  [[.state .eq "Open"], [.state .eq "In Progress"], [.state .eq "Done"], [.state .ne "Done"],
   [.state .ne "Closed"], [.assignedToUser], [.unassigned],
   [.bare "Project.Id".toText .eq (slot "projectId")], [.highPriority],
   Form.onReferenceDay "CreateDate", Form.onReferenceDay "ModifyDate",
   Form.sinceWeekStart "CreateDate", Form.sinceWeekStart "ModifyDate",
   [.assignedToUser, .state .eq "Open"], [.highPriority, .unassigned],
   [.assignedToUser, .bare "ModifyDate".toText .gt (verbatim "@Today")],
   [.state .ne "Done", .state .ne "Closed"]]

theorem forall₂_hasForms : List.Forall₂ HasForms (presets.map Prod.snd) presetForms := by
  simp only [presets, presetForms, List.map_cons, List.map_nil]
  repeat
    refine List.Forall₂.cons ⟨by decide, by decide, by decide, fun value => ?_, by rfl⟩ ?_
    · simp [fill, Form.fillAll, Form.fill, Piece.fill, Text.join, List.intercalate, verbatim, slot,
        Comparison.toText, Comparison.words, NullCheck.toText, NullCheck.words, Form.state,
        Form.assignedToUser, Form.unassigned, Form.highPriority, Form.onReferenceDay,
        Form.sinceWeekStart, assignedToUser, onReferenceDay, sinceWeekStart, String.toText,
        Text.ofChars]
  exact List.Forall₂.nil

theorem mem_of_ofPreset? {name : Text} {template : Template} (h : ofPreset? name = some template) :
    template ∈ presets.map Prod.snd := by
  obtain ⟨before, after, happ, -⟩ := List.lookup_eq_some_iff.mp h
  exact List.mem_map.mpr ⟨(name, template), happ ▸ by simp, rfl⟩

/-- Every preset is made of conditions. -/
theorem exists_hasForms {name : Text} {template : Template} (h : ofPreset? name = some template) :
    ∃ forms, template.HasForms forms := by
  obtain ⟨i, hi, rfl⟩ := List.mem_iff_getElem.mp (mem_of_ofPreset? h)
  exact ⟨_, forall₂_hasForms.get hi (forall₂_hasForms.length_eq ▸ hi)⟩

/-! ### Expansion -/

/-- An expanded template is filled, and no value has an unsafe character. -/
theorem expand_eq_ok {preset : Text} {template : Template} {value? : Text → Option Text}
    {text : Text} (h : template.expand preset value? = .ok text) :
    text = template.fill (fun n => (value? n).getD []) ∧
      ∀ n ∈ template.names, ∀ c ∈ (value? n).getD [], isUnsafe c = false := by
  rw [expand] at h
  split at h
  · split at h
    · exact absurd h (by simp)
    · next hfind =>
        refine ⟨(Except.ok.inj h).symm, fun n hn c hc => ?_⟩
        have hany := List.find?_eq_none.mp hfind n hn
        rw [Bool.not_eq_true, List.any_eq_false] at hany
        exact Bool.eq_false_iff.mpr (hany c hc)
  · exact absurd h (by simp)

/-- Words of letters and digits, not read as a connective. -/
def IsPlain (word : Text) : Prop :=
  word ≠ [] ∧ (∀ c ∈ word, c.isAlphanum = true) ∧ ¬IsAnd word

instance (word : Text) : Decidable (IsPlain word) :=
  decidable_of_iff (word ≠ [] ∧ word.all CodePoint.isAlphanum = true ∧ ¬IsAnd word) <|
    and_congr_right' (and_congr_left' List.all_eq_true)

theorem not_unsafe_of_isAlphanum {c : CodePoint} (h : c.isAlphanum = true) :
    isUnsafe c = false ∧ Literal.isQuote c = false := by
  have hne : ∀ {d : CodePoint}, d.isAlphanum = false → (c == d) = false := by
    intro d hd
    refine beq_eq_false_iff_ne.mpr ?_
    rintro rfl
    exact absurd (h.symm.trans hd) (by simp)
  have hblank : Text.isBlank c = false := by
    have hbounds := CodePoint.isAlphanum_iff.mp h
    simp only [Text.isBlank, Bool.or_eq_false_iff, Bool.and_eq_false_iff, decide_eq_false_iff_not,
      beq_eq_false_iff_ne]
    omega
  constructor
  · rw [isUnsafe, hblank, hne (by decide), hne (by decide)]
    rfl
  · rw [Literal.isQuote, hne (by decide), hne (by decide)]
    rfl

theorem IsPlain.fits {word : Text} (h : IsPlain word) (slot : Text × Bool) :
    Fits (fun _ => word) slot := by
  have hsafe := fun c hc => not_unsafe_of_isAlphanum (h.2.1 c hc)
  refine ⟨⟨⟨h.1, fun c hc => ?_⟩, h.2.2⟩, fun _ => isClosed_of_not_quote fun c hc => (hsafe c hc).2⟩
  have hunsafe := (hsafe c hc).1
  simp only [isUnsafe, Bool.or_eq_false_iff] at hunsafe
  exact hunsafe.1.1

/-- A template that is made of conditions is read as these, with the values filled in. -/
theorem HasForms.parse_fill {template : Template} {forms : List Form}
    (h : template.HasForms forms) {value : Text → Text}
    (hv : ∀ n ∈ template.names, ∀ c ∈ value n, isUnsafe c = false)
    (hfit : ∀ slot ∈ template.slots, Fits value slot) :
    Where.parse (template.fill value) = .ok (forms.map (Form.condition value)) := by
  rw [h.slots_eq] at hfit
  rw [h.fill_eq]
  exact Form.parse_fillAll h.ne_nil h.sound (fun f hf n hn => hv n (h.names f hf n hn)) hfit

/-- What holds of conditions holds of a template that is made of them. -/
theorem HasForms.hasShape_fill_iff {template : Template} {forms : List Form}
    (h : template.HasForms forms) {value : Text → Text}
    (hv : ∀ n ∈ template.names, ∀ c ∈ value n, isUnsafe c = false) :
    Where.HasShape (template.fill value) (forms.map Form.shape) ↔
      ∀ slot ∈ template.slots, Fits value slot := by
  rw [h.fill_eq, h.slots_eq]
  exact Form.hasShape_fillAll_iff h.ne_nil h.sound fun f hf n hn => hv n (h.names f hf n hn)

end Template

namespace Preset

/-- The value that a placeholder has in an expansion. -/
def valueIn (bindings : Datum) (today : Day) (name : Text) : Text :=
  match dateVariables today, callerEntries bindings with
  | .ok dates, .ok given => (givenValue? given dates name).getD []
  | _, _ => []

section Limits

variable [Limits]

theorem expand_eq_ok {name text : Text} {bindings : Datum} {today : Day}
    (h : (expand name bindings today).outcome = .ok text) :
    ∃ template, Template.ofPreset? name = some template ∧
      text = template.fill (valueIn bindings today) ∧
      ∀ n ∈ template.names, ∀ c ∈ valueIn bindings today n, Template.isUnsafe c = false := by
  rw [expand] at h
  cases ht : Template.ofPreset? name with
  | none =>
      rw [ht] at h
      exact absurd (Traced.outcome_ofChecked_eq_ok.mp h) (by simp)
  | some template =>
      rw [ht] at h
      obtain ⟨dates, hdates, h⟩ := Traced.outcome_bind_eq_ok.mp h
      obtain ⟨given, hgiven, h⟩ := Traced.outcome_bind_eq_ok.mp h
      obtain ⟨texts, htexts, h⟩ := Traced.outcome_bind_eq_ok.mp h
      obtain ⟨text', hexpand, h⟩ := Traced.outcome_bind_eq_ok.mp h
      obtain ⟨-, -, h⟩ := Traced.outcome_bind_eq_ok.mp h
      obtain rfl : text' = text := Except.ok.inj h
      rw [Traced.outcome_ofExcept] at hdates hgiven htexts
      have hvalue : valueIn bindings today = fun n => (value? texts dates n).getD [] := by
        funext n
        rw [valueIn, hdates, hgiven, value?_eq htexts]
      rw [hvalue]
      exact ⟨template, rfl, Template.expand_eq_ok (Traced.outcome_ofChecked_eq_ok.mp hexpand)⟩

/-- **What a variable can do.** The conditions of an expanded preset have the fields and operators
of the template, in its order and as many, if and only if the value of every placeholder outside
quotes is a token that leaves no quote open where the template goes on. -/
theorem expand_hasShape_iff {name text : Text} {bindings : Datum} {today : Day}
    (h : (expand name bindings today).outcome = .ok text) {word : Text}
    (hword : Template.IsPlain word) :
    ∃ template conditions, Template.ofPreset? name = some template ∧
      Where.parse (template.fill fun _ => word) = .ok conditions ∧
      ((∃ cs, Where.parse text = .ok cs ∧ Where.compile text = .ok (Where.render cs) ∧
          cs.map Condition.shape = conditions.map Condition.shape) ↔
        ∀ slot ∈ template.slots, Template.Fits (valueIn bindings today) slot) := by
  obtain ⟨template, ht, rfl, hsafe⟩ := expand_eq_ok h
  obtain ⟨forms, hforms⟩ := Template.exists_hasForms ht
  have hplain : ∀ n ∈ template.names, ∀ c ∈ word, Template.isUnsafe c = false :=
    fun _ _ c hc => (Template.not_unsafe_of_isAlphanum (hword.2.1 c hc)).1
  obtain ⟨conditions, hparse, hshape⟩ :=
    (hforms.hasShape_fill_iff hplain).mpr fun slot _ => hword.fits slot
  refine ⟨template, conditions, ht, hparse, ?_⟩
  rw [← hforms.hasShape_fill_iff hsafe, hshape]
  constructor
  · rintro ⟨cs, hcs, -, hsame⟩
    exact ⟨cs, hcs, hsame⟩
  · rintro ⟨cs, hcs, hsame⟩
    exact ⟨cs, hcs, Where.compile_eq_ok.mpr ⟨cs, hcs, rfl⟩, hsame⟩

end Limits

theorem expand_hasShape_iff_balanced :
    let today : Day := ⟨2024, 5, 15, by decide⟩
    let bindings := Datum.dict [(.text "todayDate".toText, .text "'2024-05-14'".toText)]
    let text := "CreateDate gte '2024-05-14' and CreateDate lt 2024-05-16".toText
    let word := "x1".toText
    (expand "createdToday".toText bindings today).outcome = .ok text ∧ Template.IsPlain word ∧
      ∃ template conditions, Template.ofPreset? "createdToday".toText = some template ∧
        Where.parse (template.fill fun _ => word) = .ok conditions ∧
        ((∃ cs, Where.parse text = .ok cs ∧ Where.compile text = .ok (Where.render cs) ∧
            cs.map Condition.shape = conditions.map Condition.shape) ↔
          ∀ slot ∈ template.slots, Template.Fits (valueIn bindings today) slot) := by
  intro today bindings text word
  have htext : (expand "createdToday".toText bindings today).outcome = .ok text := by
    decide +kernel
  have hword : Template.IsPlain word := by decide
  exact ⟨htext, hword, expand_hasShape_iff htext hword⟩

/-- An apostrophe passes the check of a variable, opens a quote, and makes one condition of two. -/
theorem expand_apostrophe_merges :
    let today : Day := ⟨2024, 5, 15, by decide⟩
    let bindings := Datum.dict [(.text "todayDate".toText, .text "'".toText)]
    let text := "CreateDate gte ' and CreateDate lt 2024-05-16".toText
    let template := Template.onReferenceDay "CreateDate"
    let merged : List Condition :=
      [.compare "CreateDate".toText .gte "' and CreateDate lt 2024-05-16'".toText]
    let conditions : List Condition :=
      [.compare "CreateDate".toText .gte "'x1'".toText,
        .compare "CreateDate".toText .lt "'x1'".toText]
    (expand "createdToday".toText bindings today).outcome = .ok text ∧
      Template.ofPreset? "createdToday".toText = some template ∧
      Where.parse text = .ok merged ∧
      Where.parse (template.fill fun _ => "x1".toText) = .ok conditions ∧
      merged.length ≠ conditions.length := by
  intro today bindings text template merged conditions
  exact ⟨by decide +kernel, by rfl, by rfl, by rfl, by decide⟩

end Preset

end TrackerQuery
