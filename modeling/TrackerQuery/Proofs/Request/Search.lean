import TrackerQuery.Proofs.Builder.Outcome
import TrackerQuery.Proofs.Builder.Params
import TrackerQuery.Proofs.Preset.Expansion

/-!
# TrackerQuery.Proofs.Request.Search

From the payload of a **search** to its parameters.

A search passes four stages: a reference to a preset is expanded, the where expression is
compiled, and include entries and sort keys are checked. The first stage that fails
decides, and otherwise what the stages found is listed under its name, with the page
size of the request in front (`found`). How a payload becomes a request does not matter
as long as the page size is in its range (`Validates`), so that it is always listed and
never too long to be written. The checks of this library see to that
(`validates_ofPayload`).

Main statement: `compile_outcome`.
-/

namespace TrackerQuery

open FormEncoding (Param)

/-! ### Checks of payloads -/

namespace Checked

variable {α β : Type}

theorem both_eq_ok {x : Checked α} {y : Checked β} {p : α × β} :
    x.both y = .ok p ↔ x = .ok p.1 ∧ y = .ok p.2 := by
  obtain ⟨a, b⟩ := p
  cases x <;> cases y <;> simp [both]

theorem map_eq_ok {f : α → β} {x : Checked α} {b : β} :
    x.map f = .ok b ↔ ∃ a, x = .ok a ∧ f a = b := by
  cases x <;> simp [map]

theorem within_eq_ok {place : Place} {x : Checked α} {a : α} :
    x.within place = .ok a ↔ x = .ok a := by
  cases x <;> simp [within]

theorem report_eq_ok {x : Checked α} {a : α} : x.report = .ok a ↔ x = .ok a := by
  cases x <;> simp [report]

end Checked

namespace Request

theorem pageSize_eq_ok {d : Datum} {n : Nat} (h : pageSize d = .ok n) : 1 ≤ n ∧ n ≤ 1000 := by
  unfold pageSize at h
  split at h
  · next m hm =>
      split at h
      · cases h
      · next hle =>
          cases h
          unfold positive at hm
          split at hm
          · next k =>
              split at hm
              · cases hm
              · next hpos =>
                  cases hm
                  omega
          · cases hm
  · cases h

/-- A field with a default has a property that the default and all values that pass have. -/
theorem of_withDefault {α : Type} {P : α → Prop} {entries : List (Datum × Datum)} {name : String}
    {absent : α} {check : Datum → Checked α} {a : α}
    (h : withDefault entries name absent check = .ok a) (habsent : P absent)
    (hcheck : ∀ d b, check d = .ok b → P b) : P a := by
  unfold withDefault at h
  split at h
  · exact hcheck _ _ (Checked.within_eq_ok.mp h)
  · cases h
    exact habsent

end Request

namespace SearchRequest

theorem take_of_ofPayload {payload : List (Datum × Datum)} {r : SearchRequest}
    (h : ofPayload payload = .ok r) : 1 ≤ r.take ∧ r.take ≤ 1000 := by
  obtain ⟨parts, hparts, rfl⟩ := Checked.map_eq_ok.mp (Checked.report_eq_ok.mp h)
  -- the page size is the fourth of the fields that are checked side by side
  have htake := hparts
  simp only [Checked.both_eq_ok] at htake
  obtain ⟨-, -, -, htake, -⟩ := htake
  exact Request.of_withDefault (P := fun n => 1 ≤ n ∧ n ≤ 1000) htake (by decide) fun _ _ =>
    Request.pageSize_eq_ok

/-- What the checks of a payload have to see to. The fields have their types anyway. -/
structure Validates (validate : List (Datum × Datum) → Except Fault SearchRequest) : Prop where
  take_pos : ∀ payload r, validate payload = .ok r → 1 ≤ r.take
  take_le : ∀ payload r, validate payload = .ok r → r.take ≤ 1000

theorem validates_ofPayload : Validates ofPayload where
  take_pos := fun _ _ h => (take_of_ofPayload h).1
  take_le := fun _ _ h => (take_of_ofPayload h).2

/-! ### Stages -/

section Limits

variable [Limits]

/-- The sort keys as loosely typed values. -/
def sortKeys (r : SearchRequest) : List Datum :=
  (r.orderBy.getD []).map Request.OrderKey.toDatum

/-- What the stages of a search found, by the names of its parameters. -/
def found (r : SearchRequest) (auth : Auth) (filter : Option Text) (paths fields : List Text) :
    ParamName → Option Text
  | .format => some defaultFormat
  | .take => some (Text.ofNat r.take)
  | .filter => filter
  | .includes => if paths.isEmpty then none else some (Include.render paths)
  | .sortKeys => if fields.isEmpty then none else some (SortKey.render fields)
  | .token => if auth.isApiKey then some auth.token else none

/-- The stages of a search in order, and the parameters from what they found. -/
def stages (r : SearchRequest) (auth : Auth) (today : Day) : Except Fault (List Param) := do
  let expression ← (Preset.resolve r.filter (Request.variablesDatum r.bindings) today).outcome
  let filter ← rejecting (Call.compiledFilter expression)
  let paths ← rejecting (Include.check (r.includes.getD []))
  let fields ← SortKey.fields r.sortKeys
  return ParamName.withValues (r.found auth filter paths fields) ParamName.all

omit [Limits] in
theorem filterDatum_eq (filter : Option Text) :
    filterDatum filter = Compilation.textDatum filter := by
  cases filter <;> rfl

omit [Limits] in
theorem orderByDatum_eq (r : SearchRequest) :
    r.orderByDatum = listDatum (r.orderBy.map (List.map Request.OrderKey.toDatum)) := rfl

/-- The parameters of a builder whose options were found are what was found. -/
theorem params_of_found (r : SearchRequest) (hr : 1 ≤ r.take ∧ r.take ≤ 1000) (auth : Auth)
    {filter : Option Text}
    {paths fields : List Text} (hfilter : ∀ v ∈ filter, ∃ w, Where.compile w = .ok v)
    (hpaths : ∀ p ∈ paths, Include.HasPathForm p)
    (hfields : ∀ f ∈ fields, f ≠ [] ∧ Text.IsTrimmed f) :
    Builder.params ⟨auth,
        { filter := filter, includes := paths, take := some r.take, sortKeys := fields }⟩ =
      .ok (ParamName.withValues (r.found auth filter paths fields) ParamName.all) := by
  let o : Options :=
    { filter := filter, includes := paths, take := some r.take, sortKeys := fields }
  have hcanonical : o.IsCanonical := by
    refine ⟨fun v hv => ?_, hpaths, ?_, hfields⟩
    · obtain ⟨w, hw⟩ := hfilter v hv
      exact ⟨Where.ne_nil_of_compile hw, w, hw⟩
    · rintro n ⟨⟩
      exact hr.1
  have hlimit : o.IsWithinLimit := by
    rintro n ⟨⟩ most hmost
    exact Datum.lt_of_mem_digits (k := 4) (Nat.lt_of_le_of_lt hr.2 (by decide)) (by decide) hmost
  obtain ⟨-, hps⟩ | ⟨hnot, -⟩ := Builder.params_cases (b := ⟨auth, o⟩) hcanonical
  · exact hps
  · exact absurd hlimit hnot

omit [Limits] in
theorem compile_of_compiledFilter {expression : Option Text} {v : Text}
    (h : Call.compiledFilter expression = .ok (some v)) :
    ∃ w, expression = some w ∧ w ≠ [] ∧ Where.compile w = .ok v := by
  cases expression with
  | none => cases h
  | some w =>
      rw [Call.compiledFilter] at h
      split at h
      · cases h
      · next hne =>
          refine ⟨w, rfl, by simpa using hne, ?_⟩
          cases hw : Where.compile w with
          | error e =>
              rw [hw] at h
              cases h
          | ok out =>
              rw [hw] at h
              cases h
              rfl

/-- A search ends as its stages do. -/
theorem outcome_compile_eq_stages (r : SearchRequest) (hr : 1 ≤ r.take ∧ r.take ≤ 1000)
    (auth : Auth) (today : Day) : (r.compile auth today).outcome = r.stages auth today := by
  rw [compile, Traced.outcome_bind, stages]
  cases (Preset.resolve r.filter (Request.variablesDatum r.bindings) today).outcome with
  | error f => rfl
  | ok expression =>
      show (Builder.callAll _ _ >>= _).outcome = (rejecting (Call.compiledFilter expression) >>= _)
      rw [Traced.outcome_bind, filterDatum_eq, orderByDatum_eq,
        Builder.outcome_callAll_options (c := .filter (Compilation.textDatum expression))
          (Call.outcome_filterSetting expression) auth _ hr.1]
      have hkeys : (r.orderBy.map (List.map Request.OrderKey.toDatum)).getD [] = r.sortKeys := by
        rw [sortKeys]
        cases r.orderBy <;> rfl
      rw [hkeys]
      cases hfilter : Call.compiledFilter expression with
      | error e => rfl
      | ok filter =>
          cases hpaths : Include.check (r.includes.getD []) with
          | error e => rfl
          | ok paths =>
              cases hfields : SortKey.fields r.sortKeys with
              | error e => rfl
              | ok fields =>
                  refine (Traced.outcome_ofExcept _).trans (r.params_of_found hr auth ?_
                    (Include.check_eq_ok.mp hpaths).2 (SortKey.isTrimmed_of_fields hfields))
                  rintro v rfl
                  obtain ⟨w, -, -, hw⟩ := compile_of_compiledFilter hfilter
                  exact ⟨w, hw⟩

theorem stages_eq_ok {r : SearchRequest} {auth : Auth} {today : Day} {ps : List Param} :
    r.stages auth today = .ok ps ↔ ∃ expression filter paths fields,
      (Preset.resolve r.filter (Request.variablesDatum r.bindings) today).outcome = .ok expression ∧
      Call.compiledFilter expression = .ok filter ∧
      Include.check (r.includes.getD []) = .ok paths ∧ SortKey.fields r.sortKeys = .ok fields ∧
      ParamName.withValues (r.found auth filter paths fields) ParamName.all = ps := by
  rw [stages]
  cases (Preset.resolve r.filter (Request.variablesDatum r.bindings) today).outcome with
  | error f => simp [bind, Except.bind]
  | ok expression =>
      cases hfilter : Call.compiledFilter expression <;>
      cases Include.check (r.includes.getD []) <;> cases SortKey.fields r.sortKeys <;>
      simp [bind, Except.bind, pure, Except.pure, hfilter]

/-! ### What is listed -/

/-- A where expression is found if and only if the request gives one. -/
theorem found_filter_iff {r : SearchRequest} {today : Day} {expression filter : Option Text}
    (hresolve : (Preset.resolve r.filter (Request.variablesDatum r.bindings) today).outcome =
      .ok expression)
    (hfilter : Call.compiledFilter expression = .ok filter) :
    (∃ v, filter = some v) ↔ r.filter ≠ none ∧ r.filter ≠ some [] := by
  rw [← not_or, ← Preset.resolve_empty_iff hresolve, ← Call.compiledFilter_eq_none, hfilter]
  cases filter <;> simp

/-- What holds of the parameters of a search. They start with the format and the page size, stand
in a fixed order, and the other ones are there if and only if the request asks for them. -/
structure Lists (r : SearchRequest) (auth : Auth) (today : Day) (ps : List Param) : Prop where
  front : ∃ rest,
    ps = ("format".toText, "json".toText) :: ("take".toText, Text.ofNat r.take) :: rest
  names : (ps.map Prod.fst).Sublist (ParamName.all.map ParamName.toText)
  filter : (∃ v, ("where".toText, v) ∈ ps) ↔ r.filter ≠ none ∧ r.filter ≠ some []
  compiled : ∀ v, ("where".toText, v) ∈ ps → ∃ w,
    (Preset.resolve r.filter (Request.variablesDatum r.bindings) today).outcome = .ok (some w) ∧
      Where.compile w = .ok v
  includes : (∃ v, ("include".toText, v) ∈ ps) ↔
    ∃ e ∈ r.includes.getD [], Text.isAllBlank e = false
  sortKeys : (∃ v, ("orderBy".toText, v) ∈ ps) ↔
    ∃ k ∈ r.sortKeys, ∃ f, SortKey.field k = .ok f ∧ f ≠ []
  token : ∀ v, ("access_token".toText, v) ∈ ps ↔ auth.scheme = .apiKey ∧ v = auth.token

theorem lists_of_stages {r : SearchRequest} {auth : Auth} {today : Day} {ps : List Param}
    (h : r.stages auth today = .ok ps) : r.Lists auth today ps := by
  obtain ⟨expression, filter, paths, fields, hresolve, hfilter, hpaths, hfields, rfl⟩ :=
    stages_eq_ok.mp h
  have hmem (n : ParamName) (v : Text) : (n.toText, v) ∈
      ParamName.withValues (r.found auth filter paths fields) ParamName.all ↔
      r.found auth filter paths fields n = some v := ParamName.mem_withValues
  exact {
    front := ⟨_, rfl⟩
    names := ParamName.sublist_withValues _
    filter := by
      rw [← found_filter_iff hresolve hfilter]
      exact exists_congr fun v => hmem .filter v
    compiled := by
      intro v hv
      obtain rfl : filter = some v := (hmem .filter v).mp hv
      obtain ⟨w, rfl, -, hw⟩ := compile_of_compiledFilter hfilter
      exact ⟨w, hresolve, hw⟩
    includes := by
      rw [← Include.check_ne_nil hpaths]
      refine (exists_congr fun v => hmem .includes v).trans ?_
      simp [found]
    sortKeys := by
      rw [← SortKey.fields_ne_nil hfields]
      refine (exists_congr fun v => hmem .sortKeys v).trans ?_
      simp [found]
    token := by
      intro v
      refine (hmem .token v).trans ?_
      simp only [found, Option.ite_none_right_eq_some, Option.some.injEq, Auth.isApiKey, beq_iff_eq]
      exact and_congr_right' eq_comm }

/-- **From payload to parameters.** However payloads are validated, the page size of an accepted one
is between 1 and 1000. Its search ends as the first of its stages that fails, or else lists what the
stages found. -/
theorem compile_outcome {validate : List (Datum × Datum) → Except Fault SearchRequest}
    (hvalidate : Validates validate) {payload : List (Datum × Datum)} {r : SearchRequest}
    (h : validate payload = .ok r) (auth : Auth) (today : Day) :
    (1 ≤ r.take ∧ r.take ≤ 1000) ∧
      (r.compile auth today).outcome = r.stages auth today ∧
      ∀ ps, (r.compile auth today).outcome = .ok ps → r.Lists auth today ps := by
  have htake : 1 ≤ r.take ∧ r.take ≤ 1000 :=
    ⟨hvalidate.take_pos payload r h, hvalidate.take_le payload r h⟩
  have hstages := outcome_compile_eq_stages r htake auth today
  refine ⟨htake, hstages, fun ps hps => ?_⟩
  rw [hstages] at hps
  exact lists_of_stages hps

end Limits

/-- A page size that is a truth value, a preset, and include entries and sort keys of which some
are blank. -/
theorem compile_outcome_blank :
    let payload : List (Datum × Datum) :=
      [(.text "type".toText, .text "Bug".toText),
       (.text "where".toText, .text " searchPresets.open".toText),
       (.text "include".toText, .list [.text "  ".toText]),
       (.text "take".toText, .bool true),
       (.text "orderBy".toText, .list [.dict [(.text "field".toText, .text " ".toText)],
         .text "Name desc".toText])]
    let r : SearchRequest :=
      { type := "Bug".toText, filter := some " searchPresets.open".toText,
        includes := some ["  ".toText], take := 1,
        orderBy := some [.item ⟨" ".toText, .asc⟩, .text "Name desc".toText], bindings := [] }
    let auth : Auth := ⟨.apiKey, []⟩
    let ps := [("format".toText, "json".toText), ("take".toText, "1".toText),
      ("where".toText, "EntityState.Name eq 'Open'".toText), ("orderBy".toText, "Name".toText),
      ("access_token".toText, [])]
    Validates ofPayload ∧ ofPayload payload = .ok r ∧ r.stages auth Day.first = .ok ps ∧
      r.Lists auth Day.first ps := by
  intro payload r auth ps
  have hpayload : ofPayload payload = .ok r := by decide
  have hstages : r.stages auth Day.first = .ok ps := by decide +kernel
  obtain ⟨-, houtcome, hlists⟩ := compile_outcome validates_ofPayload hpayload auth Day.first
  exact ⟨validates_ofPayload, hpayload, hstages, hlists ps (houtcome.trans hstages)⟩

end SearchRequest

end TrackerQuery
