import TrackerQuery.Proofs.Builder.Outcome
import TrackerQuery.Proofs.Include
import TrackerQuery.Proofs.Preset.Substitution
import TrackerQuery.Proofs.SortKey
import TrackerQuery.Proofs.Where.Composition

/-!
# TrackerQuery.Proofs.Builder.Warning

Which calls leave a **warning**.

Each step of a call leaves the warning that its failure calls for, and no other. So does the
whole call (`warnsByOutcome_call`), and it depends on the failure alone whether there is a
warning.

A rejected clause and a rejected include entry are warned of. A blank where expression, a preset
that cannot be expanded and a sort key without a field are rejected without a warning, and these
are the calls for which the rule of one warning for each rejection fails (`Call.IsUnlogged`). What
a preset is expanded to is never blank, so its conditions follow the rule.

Main statement: `warnsOfRejection_call_iff`.
-/

namespace TrackerQuery

open Template (HasUnsafe ofPreset? presetNames)

/-! ### The parts of a call -/

theorem Include.texts_eq_error {ds : List Datum} {f : Fault} (h : Include.texts ds = .error f) :
    f = .lacksOperation := by
  induction ds with
  | nil => cases h
  | cons d ds ih =>
      rw [texts] at h
      split at h
      · split at h
        · exact (Except.error.inj h).symm
        · split at h
          · next e he =>
              obtain rfl := Except.error.inj h
              exact ih he
          · cases h
      · exact ih h

theorem Include.entries_ne_rejected (d : Datum) (r : Rejection) :
    Include.entries d ≠ .error (.rejected r) := by
  intro h
  rw [entries] at h
  split at h
  · exact absurd (texts_eq_error h) (by simp)
  · exact absurd (Except.error.inj h) (by simp)

theorem SortKey.keys_ne_rejected (d : Datum) (r : Rejection) :
    SortKey.keys d ≠ .error (.rejected r) := by
  rw [keys]
  cases d.elements? <;> simp

/-- What yields something when it is iterated over counts as given. -/
theorem Datum.isGiven_of_mem_elements {d item : Datum} {items : List Datum}
    (h : d.elements? = some items) (hitem : item ∈ items) : d.isGiven = true := by
  have hne := List.ne_nil_of_mem hitem
  cases d with
  | text t =>
      obtain rfl := Option.some.inj h
      simpa [isGiven] using hne
  | list ds =>
      obtain rfl := Option.some.inj h
      simpa [isGiven] using hne
  | tuple ds =>
      obtain rfl := Option.some.inj h
      simpa [isGiven] using hne
  | dict entries =>
      obtain rfl := Option.some.inj h
      simpa [isGiven] using hne
  | null => cases h
  | bool b => cases h
  | int n => cases h
  | float x => cases h
  | _ => rfl

/-- A rejected clause leaves a warning, and a blank expression does not. -/
theorem Where.rejectsSilently_accept_iff {t : Text} :
    (accept t).RejectsSilently ↔ Text.isAllBlank t = true := by
  rw [Traced.rejectsSilently_iff_of_outcome (outcome_accept t)]
  simp only [Where.compile_eq_error]
  constructor
  · intro h
    obtain ⟨r, ⟨hblank, -⟩ | ⟨-, clause, -, rfl⟩, hw⟩ := h
    · exact hblank
    · cases hw
  · intro hblank
    exact ⟨.emptyWhere, .inl ⟨hblank, rfl⟩, rfl⟩

/-- A rejected include entry leaves a warning. -/
theorem Include.not_rejectsSilently_accept (entries : List Text) :
    ¬(accept entries).RejectsSilently := by
  rw [Traced.rejectsSilently_iff_of_outcome (outcome_accept entries)]
  intro h
  obtain ⟨r, hr, hw⟩ := h
  obtain ⟨bad, -, rfl⟩ := check_eq_error.mp hr
  cases hw

theorem SortKey.IsKeyRejection.warningOf?_eq_none {r : Rejection} (h : IsKeyRejection r) :
    Traced.warningOf? (.rejected r) = none := by
  cases h <;> rfl

section Limits

variable [Limits]

theorem SortKey.warningOf?_of_fields {keys : List Datum} {f : Fault}
    (h : fields keys = .error f) : Traced.warningOf? f = none := by
  obtain ⟨before, key, after, -, -, hkey⟩ := fields_eq_error_iff.mp h
  cases f with
  | rejected r => exact (isKeyRejection_of_field hkey).warningOf?_eq_none
  | _ => rfl

/-- Sort keys are rejected for the first of them that has no field, unless it cannot be shown. -/
theorem SortKey.rejectsSilently_fields_iff {keys : List Datum} :
    (Traced.ofExcept (fields keys)).RejectsSilently ↔
      ∃ before key after, keys = before ++ key :: after ∧
        (∀ b ∈ before, ∃ f, field b = .ok f) ∧ IsMalformed key ∧ key.IsWritable := by
  rw [Traced.rejectsSilently_ofExcept_iff]
  simp only [← exists_field_eq_rejected_iff]
  constructor
  · intro h
    obtain ⟨r, hr, -⟩ := h
    obtain ⟨before, key, after, hkeys, hbefore, hkey⟩ := fields_eq_error_iff.mp hr
    exact ⟨before, key, after, hkeys, hbefore, r, hkey⟩
  · intro h
    obtain ⟨before, key, after, hkeys, hbefore, r, hkey⟩ := h
    exact ⟨r, fields_eq_error_iff.mpr ⟨before, key, after, hkeys, hbefore, hkey⟩,
      (isKeyRejection_of_field hkey).warningOf?_eq_none⟩

end Limits

theorem Template.warningOf?_of_expand {name : Text} {template : Template}
    {value? : Text → Option Text} {r : Rejection} (h : template.expand name value? = .error r) :
    Traced.warningOf? (.rejected r) = none := by
  rw [expand] at h
  split at h
  · split at h
    · cases h
      rfl
    · cases h
  · cases h
    rfl

namespace Preset

/-! ### Presets -/

theorem callerEntries_ne_rejected (bindings : Datum) (r : Rejection) :
    callerEntries bindings ≠ .error (.rejected r) := by
  unfold callerEntries
  split
  · split <;> simp
  · simp

theorem dateVariables_ne_rejected (today : Day) (r : Rejection) :
    dateVariables today ≠ .error (.rejected r) := by
  intro h
  exact absurd (dateVariables_eq_error.mp h).2 (by simp)

variable [Limits]

theorem writtenEntries_ne_rejected (given : List (Datum × Datum)) (r : Rejection) :
    writtenEntries given ≠ .error (.rejected r) := by
  obtain ⟨-, h⟩ | ⟨-, f, hf, most, -, rfl⟩ := writtenEntries_cases given
  · simp [h]
  · simp [hf]

theorem warnsByOutcome_expand (name : Text) (bindings : Datum) (today : Day) :
    (expand name bindings today).WarnsByOutcome := by
  rw [expand]
  cases ofPreset? name with
  | none =>
      refine Traced.warnsByOutcome_ofChecked fun r hr => ?_
      cases hr
      rfl
  | some template =>
      have hdates := Traced.warnsByOutcome_ofExcept_of_ne (dateVariables_ne_rejected today)
      have hgiven := Traced.warnsByOutcome_ofExcept_of_ne (callerEntries_ne_rejected bindings)
      refine hdates.bind fun dates => hgiven.bind fun given => ?_
      have htexts := Traced.warnsByOutcome_ofExcept_of_ne (writtenEntries_ne_rejected given)
      refine htexts.bind fun texts => ?_
      have hexpand :
          (Traced.ofChecked (template.expand name (value? texts dates))).WarnsByOutcome :=
        Traced.warnsByOutcome_ofChecked fun r hr => Template.warningOf?_of_expand hr
      exact hexpand.bind fun text => Traced.warnsByOutcome_note _ _ text

/-- Holds of the presets that cannot be expanded because of what the caller asks for: there is no
preset of the name, or a placeholder of it has no value or an unsafe one. -/
inductive IsUnusable (name : Text) (bindings : Datum) (today : Day) : Prop where
  | unknown (h : name ∉ presetNames)
  | values {template : Template} {given : List (Datum × Datum)}
      (ht : ofPreset? name = some template) (hgiven : callerEntries bindings = .ok given)
      (hday : today ≠ Day.last) (hw : AreWritable given)
      (h : (∃ n, template.Uses n ∧ ∀ v, ¬HasValue given today n v) ∨
        ∃ n v, template.Uses n ∧ HasValue given today n v ∧ HasUnsafe v)

/-- Whatever the reason for which a preset is rejected, there is no warning. -/
theorem rejectsSilently_expand_iff {name : Text} {bindings : Datum} {today : Day} :
    (expand name bindings today).RejectsSilently ↔ IsUnusable name bindings today := by
  constructor
  · intro h
    cases ht : ofPreset? name with
    | none =>
        refine .unknown fun hname => ?_
        obtain ⟨template, ht'⟩ := mem_presetNames.mp hname
        exact absurd (ht.symm.trans ht') (by simp)
    | some template =>
        obtain ⟨r, hr, -⟩ := h
        have hout := hr
        rw [expand, ht] at hr
        obtain hr | ⟨dates, hdates, hr⟩ := Traced.outcome_bind_eq_error.mp hr
        · rw [Traced.outcome_ofExcept] at hr
          exact absurd hr (dateVariables_ne_rejected today r)
        obtain hr | ⟨given, hgiven, hr⟩ := Traced.outcome_bind_eq_error.mp hr
        · rw [Traced.outcome_ofExcept] at hr
          exact absurd hr (callerEntries_ne_rejected bindings r)
        obtain hr | ⟨texts, htexts, -⟩ := Traced.outcome_bind_eq_error.mp hr
        · rw [Traced.outcome_ofExcept] at hr
          exact absurd hr (writtenEntries_ne_rejected given r)
        rw [Traced.outcome_ofExcept] at hdates hgiven htexts
        have hday : today ≠ Day.last := by
          rintro rfl
          rw [dateVariables_eq_error.mpr ⟨rfl, rfl⟩] at hdates
          cases hdates
        have hw := (areWritable_of_writtenEntries htexts).1
        exact .values ht hgiven hday hw ((expand_fails_iff ht hgiven hday hw).mp ⟨_, hout⟩)
  · intro h
    cases h with
    | unknown hname =>
        have ht : ofPreset? name = none := by
          by_contra hsome
          exact hname (mem_presetNames.mpr (Option.ne_none_iff_exists'.mp hsome))
        rw [expand, ht]
        exact ⟨_, rfl, rfl⟩
    | values ht hgiven hday hw hvalues =>
        obtain ⟨f, hf⟩ := (expand_fails_iff ht hgiven hday hw).mpr hvalues
        cases (outcome_expand_iff ht hgiven hday hw).mp hf with
        | missing => exact ⟨_, hf, rfl⟩
        | unsafeValue => exact ⟨_, hf, rfl⟩

end Preset

namespace Call

/-! ### Every call leaves the warning of its rejection -/

theorem warnsByOutcome_filterSetting (expression : Datum) :
    (filterSetting expression).WarnsByOutcome := by
  rw [filterSetting]
  split
  · split
    · exact Traced.warnsByOutcome_fail rfl
    · refine (Where.warnsByOutcome_accept _).bind fun compiled => ?_
      exact Traced.warnsByOutcome_note _ _ _
  · exact Traced.warnsByOutcome_note _ _ _

/-- What is left to do with a list of checked options: an empty one changes nothing, and any other
is noted and set. -/
@[reducible] def kept (isEmpty : Bool) (message : Text) (s : Setting) : Traced (Option Setting) :=
  if isEmpty then return none
  else do
    Traced.log .debug .builder message
    return some s

theorem warnsByOutcome_kept (isEmpty : Bool) (message : Text) (s : Setting) :
    (kept isEmpty message s).WarnsByOutcome := by
  cases isEmpty with
  | true => exact Traced.warnsByOutcome_pure none
  | false => exact Traced.warnsByOutcome_note .builder message (some s)

theorem warnsByOutcome_includeSetting (entries : Datum) :
    (includeSetting entries).WarnsByOutcome := by
  rw [includeSetting]
  split
  · have hentries := Traced.warnsByOutcome_ofExcept_of_ne (Include.entries_ne_rejected entries)
    refine hentries.bind fun texts => (Include.warnsByOutcome_accept texts).bind fun paths => ?_
    exact warnsByOutcome_kept _ _ _
  · exact Traced.warnsByOutcome_pure _

section Limits

variable [Limits]

theorem shown_ne_rejected (d : Datum) (r : Rejection) : d.shown ≠ .error (.rejected r) := by
  intro h
  obtain ⟨-, most, -, hf⟩ := Datum.shown_eq_error h
  cases hf

theorem warnsByOutcome_ignoreTake (limit : Datum) : (ignoreTake limit).WarnsByOutcome :=
  (Traced.warnsByOutcome_ofExcept_of_ne (shown_ne_rejected limit)).bind fun _ =>
    Traced.warnsByOutcome_note _ _ _

theorem warnsByOutcome_takeSetting (limit : Datum) : (takeSetting limit).WarnsByOutcome := by
  unfold takeSetting
  split
  · split
    · exact Traced.warnsByOutcome_pure _
    · exact warnsByOutcome_ignoreTake _
  · exact warnsByOutcome_ignoreTake _

theorem warnsByOutcome_orderBySetting (keys : Datum) :
    (orderBySetting keys).WarnsByOutcome := by
  rw [orderBySetting]
  split
  · have hkeys := Traced.warnsByOutcome_ofExcept_of_ne (SortKey.keys_ne_rejected keys)
    refine hkeys.bind fun items => ?_
    have hfields : (Traced.ofExcept (SortKey.fields items)).WarnsByOutcome :=
      Traced.warnsByOutcome_ofExcept fun f hf => SortKey.warningOf?_of_fields hf
    exact hfields.bind fun fields => warnsByOutcome_kept _ _ _
  · exact Traced.warnsByOutcome_pure _

theorem warnsByOutcome_setting (c : Call) : c.setting.WarnsByOutcome := by
  cases c with
  | filter expression => exact warnsByOutcome_filterSetting expression
  | preset name bindings today =>
      have hexpand := Preset.warnsByOutcome_expand name bindings today
      exact hexpand.bind fun text => warnsByOutcome_filterSetting (.text text)
  | includes entries => exact warnsByOutcome_includeSetting entries
  | take limit => exact warnsByOutcome_takeSetting limit
  | orderBy keys => exact warnsByOutcome_orderBySetting keys
  | format name => exact Traced.warnsByOutcome_pure _

/-! ### Calls that are rejected without a warning -/

/-- Holds of the calls that are rejected by a check that does not log. -/
inductive IsUnlogged : Call → Prop where
  /-- The where expression is blank. One that is empty does not count as given. -/
  | blank {t : Text} (hne : t ≠ []) (hblank : ∀ c ∈ t, Text.isBlank c = true) :
      IsUnlogged (.filter (.text t))
  /-- The preset cannot be expanded. -/
  | preset {name : Text} {bindings : Datum} {today : Day}
      (h : Preset.IsUnusable name bindings today) : IsUnlogged (.preset name bindings today)
  /-- The first sort key without a field is none that has too many digits to be shown. -/
  | sortKey {keys key : Datum} {items before after : List Datum}
      (hitems : keys.elements? = some items) (hsplit : items = before ++ key :: after)
      (hbefore : ∀ b ∈ before, ∃ f, SortKey.field b = .ok f) (h : SortKey.IsMalformed key)
      (hw : key.IsWritable) : IsUnlogged (.orderBy keys)

omit [Limits] in
theorem rejectsSilently_filterSetting_iff {expression : Datum} :
    (filterSetting expression).RejectsSilently ↔
      expression.isGiven = true ∧ ∃ t, expression.asText? = some t ∧ Text.isAllBlank t = true := by
  rw [filterSetting]
  split
  · next hgiven =>
      cases ht : expression.asText? with
      | none =>
          refine iff_of_false ?_ (by simp)
          intro h
          obtain ⟨r, hr, -⟩ := h
          cases hr
      | some t =>
          rw [Traced.rejectsSilently_bind_iff_left fun compiled =>
            Traced.not_rejectsSilently_of_ok rfl, Where.rejectsSilently_accept_iff]
          simp [hgiven]
  · next hgiven =>
      refine iff_of_false (Traced.not_rejectsSilently_of_ok rfl) ?_
      exact fun h => hgiven h.1

omit [Limits] in
theorem not_rejectsSilently_kept (isEmpty : Bool) (message : Text) (s : Setting) :
    ¬(kept isEmpty message s).RejectsSilently := by
  cases isEmpty with
  | true => exact Traced.not_rejectsSilently_of_ok rfl
  | false => exact Traced.not_rejectsSilently_of_ok rfl

omit [Limits] in
theorem not_rejectsSilently_includeSetting (entries : Datum) :
    ¬(includeSetting entries).RejectsSilently := by
  rw [includeSetting]
  split
  · rw [Traced.rejectsSilently_ofExcept_bind_iff (Include.entries_ne_rejected entries)]
    intro h
    obtain ⟨texts, -, h⟩ := h
    rw [Traced.rejectsSilently_bind_iff_left fun paths => not_rejectsSilently_kept _ _ _] at h
    exact Include.not_rejectsSilently_accept texts h
  · exact Traced.not_rejectsSilently_of_ok rfl

theorem not_rejectsSilently_takeSetting (limit : Datum) : ¬(takeSetting limit).RejectsSilently := by
  obtain ⟨n, -, -, hn⟩ | hignored := outcome_takeSetting_cases limit
  · exact Traced.not_rejectsSilently_of_ok hn
  · intro h
    obtain ⟨r, hr, -⟩ := h
    rw [hignored] at hr
    cases hshown : limit.shown with
    | ok t =>
        rw [hshown] at hr
        cases hr
    | error f =>
        rw [hshown] at hr
        cases hr
        exact shown_ne_rejected limit r hshown

theorem rejectsSilently_orderBySetting_iff {keys : Datum} :
    (orderBySetting keys).RejectsSilently ↔
      ∃ items, keys.elements? = some items ∧ ∃ before key after, items = before ++ key :: after ∧
        (∀ b ∈ before, ∃ f, SortKey.field b = .ok f) ∧ SortKey.IsMalformed key ∧
          key.IsWritable := by
  have hkeys : ∀ items, SortKey.keys keys = .ok items ↔ keys.elements? = some items := by
    intro items
    rw [SortKey.keys]
    cases keys.elements? <;> simp
  rw [orderBySetting]
  split
  · rw [Traced.rejectsSilently_ofExcept_bind_iff (SortKey.keys_ne_rejected keys)]
    refine exists_congr fun items => and_congr (hkeys items) ?_
    rw [Traced.rejectsSilently_bind_iff_left fun fields => not_rejectsSilently_kept _ _ _,
      SortKey.rejectsSilently_fields_iff]
  · next hgiven =>
      refine iff_of_false (Traced.not_rejectsSilently_of_ok rfl) ?_
      intro h
      obtain ⟨items, hitems, before, key, after, rfl, -⟩ := h
      have hkey : key ∈ before ++ key :: after := by simp
      exact hgiven (Datum.isGiven_of_mem_elements hitems hkey)

theorem rejectsSilently_setting_iff {c : Call} : c.setting.RejectsSilently ↔ c.IsUnlogged := by
  constructor
  · intro h
    cases c with
    | filter expression =>
        obtain ⟨hgiven, t, ht, hblank⟩ := rejectsSilently_filterSetting_iff.mp h
        cases expression with
        | text u =>
            obtain rfl := Option.some.inj ht
            exact .blank (by simpa [Datum.isGiven] using hgiven) (List.all_eq_true.mp hblank)
        | scheme s =>
            -- the name of a scheme is a word
            obtain rfl := Option.some.inj ht
            cases s <;> exact absurd hblank (by decide)
        | _ => cases ht
    | preset name bindings today =>
        cases Traced.rejectsSilently_bind_iff.mp h with
        | inl hexpand => exact .preset (Preset.rejectsSilently_expand_iff.mp hexpand)
        | inr hfilter =>
            -- what a preset is expanded to is not blank
            obtain ⟨text, htext, hfilter⟩ := hfilter
            obtain ⟨-, u, hu, hblank⟩ := rejectsSilently_filterSetting_iff.mp hfilter
            obtain rfl := Option.some.inj hu
            rw [Preset.isAllBlank_of_expand htext] at hblank
            cases hblank
    | includes entries => exact absurd h (not_rejectsSilently_includeSetting entries)
    | take limit => exact absurd h (not_rejectsSilently_takeSetting limit)
    | orderBy keys =>
        obtain ⟨items, hitems, before, key, after, hsplit, hbefore, hbad, hw⟩ :=
          rejectsSilently_orderBySetting_iff.mp h
        exact .sortKey hitems hsplit hbefore hbad hw
    | format name => exact absurd h (Traced.not_rejectsSilently_of_ok rfl)
  · intro h
    cases h with
    | @blank t hne hblank =>
        refine rejectsSilently_filterSetting_iff.mpr ⟨?_, t, rfl, List.all_eq_true.mpr hblank⟩
        simpa [Datum.isGiven] using hne
    | preset h =>
        exact Traced.rejectsSilently_bind_iff.mpr (.inl (Preset.rejectsSilently_expand_iff.mpr h))
    | sortKey hitems hsplit hbefore hbad hw =>
        exact rejectsSilently_orderBySetting_iff.mpr
          ⟨_, hitems, _, _, _, hsplit, hbefore, hbad, hw⟩

end Limits

end Call

namespace Builder

/-! ### Calls of a builder -/

section Limits

variable [Limits]

theorem warnsByOutcome_call (b : Builder) (c : Call) : (b.call c).WarnsByOutcome :=
  c.warnsByOutcome_setting.bind fun _ => Traced.warnsByOutcome_pure _

theorem rejectsSilently_call_iff {b : Builder} {c : Call} :
    (b.call c).RejectsSilently ↔ c.IsUnlogged := by
  rw [call, Traced.rejectsSilently_bind_iff, ← Call.rejectsSilently_setting_iff]
  refine or_iff_left ?_
  intro h
  obtain ⟨s, -, h⟩ := h
  exact Traced.not_rejectsSilently_of_ok rfl h

/-- **One warning for each rejection.** A call of a builder leaves one warning if it is rejected and
none if it succeeds, unless it is rejected for a blank where expression, a preset that cannot be
expanded or a sort key without a field; then it leaves none. -/
theorem warnsOfRejection_call_iff (b : Builder) (c : Call) :
    ((b.call c).WarnsOfRejection ↔ ¬c.IsUnlogged) ∧
      (c.IsUnlogged ↔ ∃ r, (b.call c).outcome = .error (.rejected r) ∧
        (b.call c).warnings = []) := by
  have hwarns := warnsByOutcome_call b c
  refine ⟨?_, ?_⟩
  · rw [hwarns.warnsOfRejection_iff, rejectsSilently_call_iff]
  · rw [← rejectsSilently_call_iff (b := b)]
    refine exists_congr fun r => and_congr_right fun hr => ?_
    rw [hwarns.warnings_eq_of_rejected hr]
    cases Traced.warningOf? (.rejected r) <;> simp

end Limits

/-- A space is rejected as an expression, and nothing is logged. -/
theorem not_warnsOfRejection_blank :
    let b := Builder.new default
    let c := Call.filter (.text [' '])
    (b.call c).outcome = .error (.rejected .emptyWhere) ∧ (b.call c).records = [] ∧
      ¬(b.call c).WarnsOfRejection := by
  intro b c
  have hout : (b.call c).outcome = .error (.rejected .emptyWhere) := by rfl
  have hrecords : (b.call c).records = [] := by rfl
  refine ⟨hout, hrecords, ?_⟩
  intro h
  have hone := h.rejected .emptyWhere hout
  rw [Traced.warnings, hrecords] at hone
  cases hone

end Builder

end TrackerQuery
