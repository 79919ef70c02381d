import TrackerQuery.Compilation
import TrackerQuery.Proofs.Builder.Setting
import TrackerQuery.Request.Basic

/-!
# TrackerQuery.Proofs.Builder.Outcome

How **calls with well-typed arguments** end.

Where an argument has the type that its setter asks for, a call either yields what its
option demands or fails for that option alone. There is one equation for each
setter (`outcome_filterSetting` and so on), and calls in order end as the first one of
them that fails (`outcome_callAll_cons`).
-/

namespace TrackerQuery

/-- A check of query options as a stage of a computation: a rejection is its fault. -/
abbrev rejecting {α : Type} (x : Except Rejection α) : Except Fault α :=
  x.mapError .rejected

namespace Call

/-! ### Where expressions -/

/-- The compiled text of a where expression, unless there is none or it is empty. -/
def compiledFilter : Option Text → Except Rejection (Option Text)
  | none => .ok none
  | some t => if t.isEmpty then .ok none else (Where.compile t).map some

theorem compiledFilter_eq_none {filter : Option Text} :
    compiledFilter filter = .ok none ↔ filter = none ∨ filter = some [] := by
  cases filter with
  | none => simp [compiledFilter]
  | some t =>
      cases t with
      | nil => simp [compiledFilter]
      | cons c t =>
          rw [compiledFilter, if_neg (by simp)]
          cases Where.compile (c :: t) <;> simp [Except.map]

theorem outcome_filterSetting (filter : Option Text) :
    (filterSetting (Compilation.textDatum filter)).outcome =
      (rejecting (compiledFilter filter)).map (Option.map Setting.filter) := by
  cases filter with
  | none => rfl
  | some t =>
      cases t with
      | nil => rfl
      | cons c t =>
          show (Where.accept (c :: t) >>= _).outcome =
            (rejecting ((Where.compile (c :: t)).map some)).map _
          rw [Traced.outcome_bind, Where.outcome_accept]
          cases Where.compile (c :: t) <;> rfl

/-! ### Include paths -/

theorem texts_map_text (ts : List Text) :
    Include.texts (ts.map .text) = .ok (ts.filter fun t => !t.isEmpty) := by
  induction ts with
  | nil => rfl
  | cons t ts ih =>
      rw [List.map_cons, Include.texts, ih]
      cases t <;> rfl

/-- Empty entries are blank, so they are left out sooner or later. -/
theorem check_filter (ts : List Text) :
    Include.check (ts.filter fun t => !t.isEmpty) = Include.check ts := by
  have hcanonical : Include.canonical (ts.filter fun t => !t.isEmpty) = Include.canonical ts := by
    unfold Include.canonical
    rw [List.filter_filter]
    congr 2
    funext t
    cases t <;> simp [Text.isAllBlank]
  rw [Include.check, Include.check, hcanonical]

theorem outcome_includeSetting (entries : Option (List Text)) :
    (includeSetting (SearchRequest.includeDatum entries)).outcome =
      (rejecting (Include.check (entries.getD []))).map fun paths =>
        if paths.isEmpty then none else some (.includes paths) := by
  cases entries with
  | none => rfl
  | some ts =>
      cases ts with
      | nil => rfl
      | cons t ts =>
          show (Traced.ofExcept (Include.texts ((t :: ts).map .text)) >>= _).outcome = _
          rw [texts_map_text, Traced.outcome_bind, Traced.outcome_ofExcept]
          show (Include.accept _ >>= _).outcome = _
          rw [Traced.outcome_bind, Include.outcome_accept, check_filter, Option.getD_some]
          cases Include.check (t :: ts) with
          | error r => rfl
          | ok paths => cases paths <;> rfl

/-! ### Page sizes -/

variable [Limits]

theorem outcome_takeSetting {n : Nat} (h : 0 < n) :
    (takeSetting (.int n)).outcome = .ok (some (.take n)) := by
  rw [takeSetting, if_pos (by omega)]
  rfl

/-- A page size is set, or ignored, or has too many digits to be shown. -/
theorem outcome_takeSetting_cases (limit : Datum) :
    (∃ n : Int, limit = .int n ∧ 0 < n ∧
        (takeSetting limit).outcome = .ok (some (.take n.toNat))) ∨
      (takeSetting limit).outcome = limit.shown.map fun _ => none := by
  unfold takeSetting
  split
  · next n =>
      split
      · next hn => exact .inl ⟨n, rfl, hn, rfl⟩
      · exact .inr (outcome_ignoreTake (.int n))
  · exact .inr (outcome_ignoreTake limit)

/-! ### Sort keys -/

theorem outcome_orderBySetting (keys : Option (List Datum)) :
    (orderBySetting (SearchRequest.listDatum keys)).outcome =
      (SortKey.fields (keys.getD [])).map fun fields =>
        if fields.isEmpty then none else some (.sortKeys fields) := by
  cases keys with
  | none => rfl
  | some ks =>
      cases ks with
      | nil => rfl
      | cons k ks =>
          show (Traced.ofExcept (SortKey.fields (k :: ks)) >>= _).outcome = _
          rw [Traced.outcome_bind, Traced.outcome_ofExcept, Option.getD_some]
          cases SortKey.fields (k :: ks) with
          | error f => rfl
          | ok fields => cases fields <;> rfl

/-! ### Calls -/

theorem setting_includes (entries : Datum) : (includes entries).setting = includeSetting entries :=
  rfl

theorem setting_take (limit : Datum) : (take limit).setting = takeSetting limit :=
  rfl

theorem setting_orderBy (keys : Datum) : (orderBy keys).setting = orderBySetting keys :=
  rfl

end Call

/-! ### Calls in order -/

namespace Builder

variable [Limits]

theorem outcome_call (b : Builder) (c : Call) :
    (b.call c).outcome = c.setting.outcome.map b.apply := by
  rw [call, Traced.outcome_bind]
  cases c.setting.outcome <;> rfl

theorem outcome_callAll_cons (b : Builder) (c : Call) (rest : List Call) :
    (b.callAll (c :: rest)).outcome = (do
      let s ← c.setting.outcome
      ((b.apply s).callAll rest).outcome) := by
  rw [callAll, Traced.outcome_bind, outcome_call]
  cases c.setting.outcome <;> rfl

/-- Calls for all options of a new builder, first one that leads to a where expression. They end
as the first one whose option fails, or else every option has what was found for it. -/
theorem outcome_callAll_options {c : Call} {x : Except Fault (Option Text)}
    (hc : c.setting.outcome = x.map (Option.map Setting.filter)) (auth : Auth)
    (entries : Option (List Text)) {n : Nat} (hn : 0 < n) (keys : Option (List Datum)) :
    ((new auth).callAll [c, .includes (SearchRequest.includeDatum entries), .take (.int n),
        .orderBy (SearchRequest.listDatum keys)]).outcome = (do
      let filter ← x
      let paths ← rejecting (Include.check (entries.getD []))
      let fields ← SortKey.fields (keys.getD [])
      return ⟨auth,
        { filter := filter, includes := paths, take := some n, sortKeys := fields }⟩) := by
  simp only [outcome_callAll_cons, hc, Call.setting_includes, Call.setting_take,
    Call.setting_orderBy, Call.outcome_includeSetting, Call.outcome_takeSetting hn,
    Call.outcome_orderBySetting]
  cases x with
  | error f => rfl
  | ok filter =>
      cases Include.check (entries.getD []) with
      | error r => cases filter <;> rfl
      | ok paths =>
          cases SortKey.fields (keys.getD []) with
          | error f => cases filter <;> cases paths <;> rfl
          | ok fields => cases filter <;> cases paths <;> cases fields <;> rfl

end Builder

theorem Compilation.filterCall_of_preset {c : Compilation} {name : Text} (h : c.preset = some name)
    (hne : name ≠ []) (today : Day) : c.filterCall today = .preset name c.bindings today := by
  rw [filterCall, h]
  exact if_neg (by simpa using hne)

end TrackerQuery
