import TrackerQuery.Proofs.Builder.Outcome
import TrackerQuery.Proofs.Builder.Params
import TrackerQuery.Proofs.Field
import TrackerQuery.Proofs.FormEncoding

/-!
# TrackerQuery.Proofs.Request.Compilation

A **search as a compilation** of query options.

A search names a preset inside its where expression, a compilation as an option of its own.
`toCompilation` takes the name out of the expression. Nothing else tells the two apart:
expanding a reference first and setting the expression then is what setting a preset does
(`callAll_preset`), and the calls behind it are the same ones in the same order. So a
compilation is the search with its parameters encoded and one more record behind those of
the search (`run_toCompilation_eq`), and inputs that are wrong in several places fail for
the same one of them. Only encoding can fail where a search does not: a search does not
mind a surrogate that stands alone.

Main statement: `outcome_run_toCompilation`.
-/

namespace TrackerQuery

/-- Setting a preset is expanding it and setting the where expression that it gives. -/
theorem Builder.callAll_preset [Limits] (b : Builder) (name : Text) (bindings : Datum) (today : Day)
    (rest : List Call) :
    b.callAll (.preset name bindings today :: rest) = (do
      let expression ← Preset.expand name bindings today
      b.callAll (.filter (.text expression) :: rest)) := by
  simp only [callAll, call, Call.setting, bind_assoc]

namespace SearchRequest

/-! ### The same options -/

/-- The where expression and the preset that the where expression of a request stands for. What
stands behind the start of a reference, blanks at the ends aside, is the name of a preset. -/
def sources : Option Text → Option Text × Option Text
  | none => (none, none)
  | some t =>
    if Preset.referenceStart <+: Text.strip t then
      (none, some ((Text.strip t).drop Preset.referenceStart.length))
    else (some t, none)

/-- The options of a search as those of a compilation. -/
def toCompilation (r : SearchRequest) : Compilation :=
  { filter := (sources r.filter).1
    preset := (sources r.filter).2
    bindings := Request.variablesDatum r.bindings
    includes := includeDatum r.includes
    take := .int r.take
    orderBy := r.orderByDatum }

theorem sources_of_reference {t name : Text} (h : Preset.reference? t = some name) :
    sources (some t) = (none, some name) := by
  have hstrip : Text.strip t = Preset.referenceStart ++ name := Text.after?_eq_some_iff.mp h
  rw [sources, hstrip, if_pos (List.prefix_append _ _), List.drop_left]

theorem sources_of_plain {t : Text} (h : Preset.reference? t = none) :
    sources (some t) = (some t, none) := by
  rw [sources, if_neg]
  rintro ⟨name, hname⟩
  have hsome : Preset.reference? t = some name := Text.after?_eq_some_iff.mpr hname.symm
  rw [h] at hsome
  cases hsome

/-- The first call of the compilation has the effect of resolving the where expression and setting
what it resolves to. -/
theorem callAll_filterCall [Limits] (r : SearchRequest)
    (h : r.filter.map Text.strip ≠ some Preset.referenceStart) (b : Builder) (today : Day)
    (rest : List Call) :
    b.callAll (r.toCompilation.filterCall today :: rest) = (do
      let expression ← Preset.resolve r.filter (Request.variablesDatum r.bindings) today
      b.callAll (.filter (filterDatum expression) :: rest)) := by
  obtain ⟨type, filter, includes, take, orderBy, bindings⟩ := r
  cases filter with
  | none => rfl
  | some t =>
      cases href : Preset.reference? t with
      | none =>
          have hcall : (toCompilation ⟨type, some t, includes, take, orderBy, bindings⟩).filterCall
              today = .filter (.text t) := by
            rw [Compilation.filterCall, toCompilation, sources_of_plain href]
            rfl
          rw [hcall, Preset.resolve, href]
          rfl
      | some name =>
          have hne : name ≠ [] := by
            rintro rfl
            refine h (congrArg some ?_)
            have hstrip := Text.after?_eq_some_iff.mp href
            rwa [List.append_nil] at hstrip
          have hpreset : (toCompilation ⟨type, some t, includes, take, orderBy, bindings⟩).preset =
              some name := by
            rw [toCompilation, sources_of_reference href]
          rw [Compilation.filterCall_of_preset hpreset hne, Builder.callAll_preset, Preset.resolve,
            href]
          simp only [bind_assoc, pure_bind]
          rfl

/-- Parameters that are asked for again are the ones that were encoded, so that they can be asked
for first. -/
theorem query_params_eq {α β γ : Type} (e : Except Fault α) (encode : α → Except Fault β)
    (next : β → α → Traced γ) :
    (do
      let query ← Traced.ofExcept (e.bind encode)
      let params ← Traced.ofExcept e
      next query params) = (do
      let params ← Traced.ofExcept e
      let query ← Traced.ofExcept (encode params)
      next query params) := by
  cases e <;> rfl

/-! ### Main statement -/

/-- A compilation of the options of a search runs as the search does. It then adds a record of its
own and encodes the parameters. -/
theorem run_toCompilation_eq [Limits] (r : SearchRequest)
    (h : r.filter.map Text.strip ≠ some Preset.referenceStart) (auth : Auth) (today : Day) :
    r.toCompilation.run auth today = (do
      let params ← r.compile auth today
      let query ← Traced.ofExcept (FormEncoding.encode params)
      Traced.log .info .compile
        ("Compiled query with ".toText ++ Text.ofNat params.length ++ " parameter(s)".toText)
      return query) := by
  have hcalls : r.toCompilation.calls today = r.toCompilation.filterCall today ::
      [.includes (includeDatum r.includes), .take (.int r.take), .orderBy r.orderByDatum] := rfl
  rw [Compilation.run, hcalls, callAll_filterCall r h, compile]
  simp only [bind_assoc, Builder.queryString, query_params_eq]

theorem unencodable?_of_compile [Limits] {r : SearchRequest} {auth : Auth} {today : Day}
    {ps : List FormEncoding.Param} (h : (r.compile auth today).outcome = .ok ps)
    (hvalues : ∀ p ∈ ps, p.2.isEncodable = true) : FormEncoding.unencodable? ps = none := by
  obtain ⟨filter, -, h⟩ := Traced.outcome_bind_eq_ok.mp h
  obtain ⟨b, -, h⟩ := Traced.outcome_bind_eq_ok.mp h
  rw [Traced.outcome_ofExcept] at h
  obtain ⟨take, -, rfl⟩ := Options.params_eq_ok.mp h
  exact Builder.unencodable?_paramsWith hvalues

theorem outcome_run_eq_bind [Limits] (r : SearchRequest)
    (h : r.filter.map Text.strip ≠ some Preset.referenceStart) (auth : Auth) (today : Day) :
    (r.toCompilation.run auth today).outcome =
      (r.compile auth today).outcome.bind FormEncoding.encode := by
  rw [run_toCompilation_eq r h, Traced.outcome_bind]
  cases (r.compile auth today).outcome with
  | error f => rfl
  | ok params =>
      change (_ >>= _ : Traced Text).outcome = FormEncoding.encode params
      rw [Traced.outcome_bind, Traced.outcome_ofExcept]
      cases FormEncoding.encode params <;> rfl

/-- **A search and a compilation of the same options agree.** Unless the where expression is the
start of a reference without a name, both fail for the same reason, or else the compilation gives
the encoded parameters of the search. If a surrogate stands alone in one of these, so that they
cannot be encoded, the compilation fails for the first of them. -/
theorem outcome_run_toCompilation [Limits] (r : SearchRequest)
    (h : r.filter.map Text.strip ≠ some Preset.referenceStart) (auth : Auth) (today : Day) :
    (∀ f, (r.compile auth today).outcome = .error f →
      (r.toCompilation.run auth today).outcome = .error f) ∧
    ∀ ps, (r.compile auth today).outcome = .ok ps →
      ((∀ p ∈ ps, p.2.isEncodable = true) →
        ∃ query, FormEncoding.encode ps = .ok query ∧
          (r.toCompilation.run auth today).outcome = .ok query) ∧
      ∀ t, FormEncoding.unencodable? ps = some t →
        (r.toCompilation.run auth today).outcome = .error (.unencodable t) := by
  rw [outcome_run_eq_bind r h]
  constructor
  · intro f hf
    rw [hf]
    rfl
  · intro ps hps
    rw [hps]
    constructor
    · intro hvalues
      obtain ⟨query, hquery⟩ :=
        FormEncoding.exists_encode_eq_ok (unencodable?_of_compile hps hvalues)
      exact ⟨query, hquery, hquery⟩
    · intro t ht
      exact FormEncoding.encode_eq_error ht

/-- A reference with blanks around it, whose preset needs a variable, and a search that is wrong in
its preset and in its include entries. -/
theorem outcome_run_toCompilation_reference :
    let auth : Auth := ⟨.apiKey, "k&y".toText⟩
    let good : SearchRequest :=
      { type := "Bug".toText, filter := some "\n searchPresets.myTasks ".toText,
        includes := some ["Project[Name]".toText], take := 25, orderBy := some [],
        bindings := [("currentUser".toText, .text "o'neil".toText)] }
    let bad : SearchRequest := { good with includes := some ["no!".toText], bindings := [] }
    let ps := [("format".toText, "json".toText), ("take".toText, "25".toText),
      ("where".toText, "AssignedUser.Email eq 'o''neil'".toText),
      ("include".toText, "[Project[Name]]".toText), ("access_token".toText, "k&y".toText)]
    let f := Fault.rejected (.missingVariables "myTasks".toText ["currentUser".toText])
    good.filter.map Text.strip ≠ some Preset.referenceStart ∧
      bad.filter.map Text.strip ≠ some Preset.referenceStart ∧
      good.toCompilation.preset = some "myTasks".toText ∧
      (good.compile auth Day.first).outcome = .ok ps ∧
      (∃ query, FormEncoding.encode ps = .ok query ∧
        (good.toCompilation.run auth Day.first).outcome = .ok query) ∧
      (bad.compile auth Day.first).outcome = .error f ∧
      (bad.toCompilation.run auth Day.first).outcome = .error f := by
  intro auth good bad ps f
  have hgood : good.filter.map Text.strip ≠ some Preset.referenceStart := by decide
  have hbad : bad.filter.map Text.strip ≠ some Preset.referenceStart := by decide
  have hps : (good.compile auth Day.first).outcome = .ok ps := by decide +kernel
  have hf : (bad.compile auth Day.first).outcome = .error f := by decide +kernel
  refine ⟨hgood, hbad, by decide, hps, ?_, hf, ?_⟩
  · exact ((outcome_run_toCompilation good hgood auth Day.first).2 ps hps).1 (by decide)
  · exact (outcome_run_toCompilation bad hbad auth Day.first).1 f hf

/-- A search has parameters for a token that is a surrogate, but they cannot be encoded. -/
theorem not_run_toCompilation_surrogate :
    let t : Text := [.lone 0]
    let auth : Auth := ⟨.apiKey, t⟩
    let r : SearchRequest :=
      { type := "Bug".toText, filter := none, includes := none, take := 100, orderBy := none,
        bindings := [] }
    let ps := [("format".toText, "json".toText), ("take".toText, "100".toText),
      ("access_token".toText, t)]
    r.filter.map Text.strip ≠ some Preset.referenceStart ∧
      (r.compile auth Day.first).outcome = .ok ps ∧
      (r.toCompilation.run auth Day.first).outcome = .error (.unencodable t) ∧
      ∀ query, (r.toCompilation.run auth Day.first).outcome ≠ .ok query := by
  intro t auth r ps
  have hfails : (r.toCompilation.run auth Day.first).outcome = .error (.unencodable t) := by
    decide +kernel
  refine ⟨by decide, by decide +kernel, hfails, fun query h => ?_⟩
  rw [hfails] at h
  cases h

end SearchRequest

end TrackerQuery
