import TrackerQuery.Proofs.Literal.Projection
import TrackerQuery.Proofs.Preset.Substitution

/-!
# TrackerQuery.Proofs.Preset.Quoted

The values of placeholders **between quotation marks**.

A value that has passed the check has no quotation mark, so that the one behind it closes
the quote, and quoting takes these two marks off and no quote of the value. What comes
between the apostrophes of the literal is then the value, and whatever quotes it has, the
conditions behind it are read as if it had none (`parse_fill_user`).

Main statement: `expand_user`.
-/

namespace TrackerQuery

open Where (Scan)

namespace Template

/-- The placeholders between quotation marks, in order. `s` is the state of the scan in front of
the template. -/
def quotedFrom (s : Scan) : Template → List Text
  | [] => []
  | .text t :: rest => quotedFrom (s.after t) rest
  | .placeholder n :: rest =>
    if s.opened = some (.char '"') then n :: quotedFrom s rest else quotedFrom s rest

/-- The placeholders of a template that stand between quotation marks. -/
def quoted (template : Template) : List Text :=
  quotedFrom Scan.start template

theorem uses_of_mem_quotedFrom {n : Text} {s : Scan} {template : Template}
    (h : n ∈ quotedFrom s template) : template.Uses n := by
  induction template generalizing s with
  | nil => cases h
  | cons p template ih =>
      cases p with
      | text t => exact List.mem_cons_of_mem _ (ih h)
      | placeholder m =>
          rw [quotedFrom] at h
          split at h
          · rcases List.mem_cons.mp h with rfl | h
            · exact List.mem_cons_self
            · exact List.mem_cons_of_mem _ (ih h)
          · exact List.mem_cons_of_mem _ (ih h)

namespace Form

theorem bareName?_eq_none {f : Form} (h : f.name? = none) : f.bareName? = none := by
  cases f with
  | bare f op p =>
      cases p with
      | text t => rfl
      | placeholder n => cases h
  | quoted f op p => rfl
  | check f n => rfl

theorem slots_eq_nil {fs : List Form} (h : ∀ f ∈ fs, f.bareName? = none) : slots fs = [] := by
  induction fs with
  | nil => rfl
  | cons f fs ih =>
      rw [slots, h f List.mem_cons_self, ih fun g hg => h g (List.mem_cons_of_mem _ hg)]
      rfl

/-- A condition without a placeholder is the same whatever the values are. -/
theorem condition_congr {f : Form} (h : f.name? = none) (value value' : Text → Text) :
    f.condition value = f.condition value' := by
  cases f with
  | bare f op p =>
      cases p with
      | text t => rfl
      | placeholder n => cases h
  | quoted f op p =>
      cases p with
      | text t => rfl
      | placeholder n => cases h
  | check f n => rfl

theorem condition_assignedToUser (value : Text → Text) :
    assignedToUser.condition value = .compare "AssignedUser.Email".toText .eq
      (Literal.ofText (value "currentUser".toText)) := by
  rw [assignedToUser, slot, condition, Piece.fill, Literal.quote_between]
  rfl

end Form

/-! ### The user -/

/-- Where the placeholder for the user stands between quotation marks, the condition on the user
comes first, and the others have no placeholder. -/
theorem forall₂_userForms :
    List.Forall₂
      (fun template forms => "currentUser".toText ∈ quoted template →
        ∃ others, forms = Form.assignedToUser :: others ∧ ∀ f ∈ others, f.name? = none)
      (presets.map Prod.snd) presetForms := by
  simp only [presets, presetForms, List.map_cons, List.map_nil]
  repeat
    refine List.Forall₂.cons ?_ ?_
    · first
        | exact fun h => absurd h (by decide)
        | exact fun _ => ⟨_, rfl, by decide⟩
  exact List.Forall₂.nil

theorem exists_userForms {name : Text} {template : Template} (ht : ofPreset? name = some template)
    (hq : "currentUser".toText ∈ template.quoted) :
    ∃ others, template.HasForms (.assignedToUser :: others) ∧ ∀ f ∈ others, f.name? = none := by
  obtain ⟨i, hi, rfl⟩ := List.mem_iff_getElem.mp (mem_of_ofPreset? ht)
  have hi' : i < presetForms.length := forall₂_hasForms.length_eq ▸ hi
  obtain ⟨others, hothers, hnone⟩ := forall₂_userForms.get hi hi' hq
  have hforms := forall₂_hasForms.get hi hi'
  rw [hothers] at hforms
  exact ⟨others, hforms, hnone⟩

/-- Whatever the value for the user is, its literal denotes it, and the other conditions are read
alike. -/
theorem parse_fill_user {template : Template} {others : List Form}
    (h : template.HasForms (.assignedToUser :: others)) (hothers : ∀ f ∈ others, f.name? = none)
    {value : Text → Text} (hv : ∀ n ∈ template.names, ∀ c ∈ value n, isUnsafe c = false) :
    Where.parse (template.fill value) =
      .ok (.compare "AssignedUser.Email".toText .eq (Literal.ofText (value "currentUser".toText)) ::
        others.map (Form.condition fun _ => [])) := by
  have hslots : template.slots = [] := by
    rw [h.slots_eq]
    refine Form.slots_eq_nil fun f hf => ?_
    rcases List.mem_cons.mp hf with rfl | hf
    · rfl
    · exact Form.bareName?_eq_none (hothers f hf)
  have hfit : ∀ slot ∈ template.slots, Fits value slot := by
    rw [hslots]
    nofun
  have hmap : others.map (Form.condition value) = others.map (Form.condition fun _ => []) :=
    List.map_congr_left fun f hf => Form.condition_congr (hothers f hf) value _
  rw [h.parse_fill hv hfit, List.map_cons, Form.condition_assignedToUser, hmap]

end Template

namespace Preset

open Template (IsPlain ofPreset?)

section Limits

variable [Limits]

theorem areWritable_of_expand {name text : Text} {template : Template}
    (ht : ofPreset? name = some template) {bindings : Datum} {given : List (Datum × Datum)}
    (hgiven : callerEntries bindings = .ok given) {today : Day} (hday : today ≠ Day.last)
    (h : (expand name bindings today).outcome = .ok text) : AreWritable given := by
  by_contra hw
  obtain ⟨f, hf, -⟩ := exists_expand_of_not_areWritable ht hgiven hday hw
  rw [hf] at h
  cases h

/-- An expansion that succeeds fills the template with safe values. -/
theorem exists_fill_of_expand {name text : Text} {template : Template}
    (ht : ofPreset? name = some template) {bindings : Datum} {given : List (Datum × Datum)}
    (hgiven : callerEntries bindings = .ok given) {today : Day}
    (h : (expand name bindings today).outcome = .ok text) :
    ∃ value, text = template.fill value ∧
      ∀ n, template.Uses n → HasValue given today n (value n) ∧ ¬Template.HasUnsafe (value n) := by
  have hday : today ≠ Day.last := by
    rintro rfl
    rw [expand_last (mem_presetNames.mpr ⟨template, ht⟩)] at h
    cases h
  have hw := areWritable_of_expand ht hgiven hday h
  cases (outcome_expand_iff ht hgiven hday hw).mp h with
  | @filled value _ hvalue htext =>
      have hread := Template.isReadable_of_ofPreset? ht
      exact ⟨value, htext.unique (Template.substituted_source hread value), hvalue⟩

/-- **What is between quotation marks arrives unchanged.** In a preset whose placeholder for the
user stands between quotation marks, every user that is accepted is denoted exactly by the literal
of its condition, and the other conditions are the same for all users: those that the template has
with a plain word for its placeholders. -/
theorem expand_user {name : Text} {template : Template} (ht : ofPreset? name = some template)
    (hq : "currentUser".toText ∈ template.quoted) :
    ∃ others : List Condition,
      (∀ word, IsPlain word →
        Where.parse (template.fill fun _ => word) =
          .ok (.compare "AssignedUser.Email".toText .eq (Literal.ofText word) :: others)) ∧
      ∀ bindings given today u text, callerEntries bindings = .ok given →
        Datum.lookupText "currentUser".toText given = some (.text u) →
        (expand name bindings today).outcome = .ok text →
        ∃ literal, (∀ t, Literal.Denotes literal t ↔ t = u) ∧
          Where.parse text = .ok (.compare "AssignedUser.Email".toText .eq literal :: others) ∧
          Where.compile text =
            .ok (Where.render (.compare "AssignedUser.Email".toText .eq literal :: others)) := by
  obtain ⟨others, hforms, hothers⟩ := Template.exists_userForms ht hq
  refine ⟨others.map (Template.Form.condition fun _ => []), fun word hword => ?_, ?_⟩
  · exact Template.parse_fill_user hforms hothers fun _ _ c hc =>
      (Template.not_unsafe_of_isAlphanum (hword.2.1 c hc)).1
  · intro bindings given today u text hgiven hu htext
    obtain ⟨value, rfl, hvalue⟩ := exists_fill_of_expand ht hgiven htext
    have hsafe : ∀ n ∈ template.names, ∀ c ∈ value n, Template.isUnsafe c = false := by
      intro n hn c hc
      have hany := mt Template.hasUnsafe_iff.mpr (hvalue n (Template.mem_names.mp hn)).2
      exact Text.forall_mem_of_any (Bool.eq_false_iff.mpr hany) c hc
    have huser : value "currentUser".toText = u :=
      (hasValue_iff_of_some hu).mp (hvalue _ (Template.uses_of_mem_quotedFrom hq)).1
    have hparse := Template.parse_fill_user hforms hothers hsafe
    rw [huser] at hparse
    exact ⟨Literal.ofText u, fun t => Literal.denotes_ofText_iff, hparse,
      Where.compile_eq_ok.mpr ⟨_, hparse, rfl⟩⟩

end Limits

/-- A user with apostrophes at both ends and inside, in front of another condition. -/
theorem expand_user_apostrophes :
    let name := "myRecentTasks".toText
    let template := Template.assignedToUser ++ [Template.verbatim " and ModifyDate gt @Today"]
    let u := "'O'Brien''".toText
    let given := [(Datum.text "currentUser".toText, Datum.text u)]
    let today : Day := ⟨2024, 5, 15, by decide⟩
    let text := "AssignedUser.Email eq \"'O'Brien''\" and ModifyDate gt @Today".toText
    ofPreset? name = some template ∧ "currentUser".toText ∈ template.quoted ∧
      callerEntries (.dict given) = .ok given ∧
      Datum.lookupText "currentUser".toText given = some (.text u) ∧
      (expand name (.dict given) today).outcome = .ok text ∧
      ∃ others literal, (∀ t, Literal.Denotes literal t ↔ t = u) ∧
        Where.parse text = .ok (.compare "AssignedUser.Email".toText .eq literal :: others) ∧
        Where.compile text =
          .ok (Where.render (.compare "AssignedUser.Email".toText .eq literal :: others)) := by
  intro name template u given today text
  have ht : ofPreset? name = some template := by rfl
  have hq : "currentUser".toText ∈ template.quoted := by decide +kernel
  have hgiven : callerEntries (.dict given) = .ok given := by rfl
  have hu : Datum.lookupText "currentUser".toText given = some (.text u) := by rfl
  have htext : (expand name (.dict given) today).outcome = .ok text := by decide +kernel
  obtain ⟨others, -, huser⟩ := expand_user ht hq
  exact ⟨ht, hq, hgiven, hu, htext, others, huser _ given today u text hgiven hu htext⟩

end Preset

end TrackerQuery
