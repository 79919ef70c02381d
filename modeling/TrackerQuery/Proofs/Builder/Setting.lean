import TrackerQuery.Builder.Basic
import TrackerQuery.Proofs.Include
import TrackerQuery.Proofs.SortKey
import TrackerQuery.Proofs.Where.Acceptance
import TrackerQuery.Proofs.Where.Expression

/-!
# TrackerQuery.Proofs.Builder.Setting

The **settings that calls amount to**, and the options that they lead to.

A call is effective if it neither fails nor changes nothing, and then it has one
setting (`Call.effect?`). For each setter there is one lemma that says which settings
its calls have. They are canonical (`isCanonical_of_effect?`), and options that start
as the defaults stay canonical when they are changed by canonical settings
(`Options.IsCanonical.set`).
-/

namespace TrackerQuery

/-! ### Effective calls -/

namespace Call

/-- The setting of an effective call. -/
def effect? [Limits] (c : Call) : Option Setting :=
  match c.setting.outcome with
  | .ok s => s
  | .error _ => none

theorem effect?_eq_some [Limits] {c : Call} {s : Setting} :
    c.effect? = some s ↔ c.setting.outcome = .ok (some s) := by
  unfold effect?
  cases c.setting.outcome <;> simp

theorem filterSetting_eq_ok {expression : Datum} {s : Setting}
    (h : (filterSetting expression).outcome = .ok (some s)) :
    ∃ w out, expression.asText? = some w ∧ Where.compile w = .ok out ∧ s = .filter out := by
  unfold filterSetting at h
  split at h
  · split at h
    · cases h
    · next w hw =>
        obtain ⟨out, hout, h⟩ := Traced.outcome_bind_eq_ok.mp h
        obtain ⟨-, -, h⟩ := Traced.outcome_bind_eq_ok.mp h
        cases h
        exact ⟨w, out, hw, Where.outcome_accept_eq_ok.mp hout, rfl⟩
  · obtain ⟨-, -, h⟩ := Traced.outcome_bind_eq_ok.mp h
    cases h

theorem includeSetting_eq_ok {entries : Datum} {s : Setting}
    (h : (includeSetting entries).outcome = .ok (some s)) :
    ∃ texts paths, Include.entries entries = .ok texts ∧ Include.check texts = .ok paths ∧
      paths ≠ [] ∧ s = .includes paths := by
  unfold includeSetting at h
  split at h
  · obtain ⟨texts, htexts, h⟩ := Traced.outcome_bind_eq_ok.mp h
    obtain ⟨paths, hpaths, h⟩ := Traced.outcome_bind_eq_ok.mp h
    rw [Traced.outcome_ofExcept] at htexts
    rw [Include.outcome_accept_eq_ok] at hpaths
    split at h
    · cases h
    · next hne =>
        obtain ⟨-, -, h⟩ := Traced.outcome_bind_eq_ok.mp h
        cases h
        exact ⟨texts, paths, htexts, hpaths, by simpa using hne, rfl⟩
  · cases h

/-- A page size that is ignored is shown in the log, which fails if it has too many digits. -/
theorem outcome_ignoreTake [Limits] (limit : Datum) :
    (ignoreTake limit).outcome = limit.shown.map fun _ => none := by
  rw [ignoreTake, Traced.outcome_bind, Traced.outcome_ofExcept]
  cases limit.shown <;> rfl

theorem ignoreTake_ne_ok [Limits] (limit : Datum) (s : Setting) :
    (ignoreTake limit).outcome ≠ .ok (some s) := by
  rw [outcome_ignoreTake]
  cases limit.shown <;> simp [Except.map]

theorem takeSetting_eq_ok [Limits] {limit : Datum} {s : Setting}
    (h : (takeSetting limit).outcome = .ok (some s)) :
    ∃ n : Int, limit = .int n ∧ 0 < n ∧ s = .take n.toNat := by
  unfold takeSetting at h
  split at h
  · next n =>
      split at h
      · next hn =>
          cases h
          exact ⟨n, rfl, hn, rfl⟩
      · exact absurd h (ignoreTake_ne_ok (.int n) s)
  · exact absurd h (ignoreTake_ne_ok limit s)

theorem orderBySetting_eq_ok [Limits] {keys : Datum} {s : Setting}
    (h : (orderBySetting keys).outcome = .ok (some s)) :
    ∃ items fields, SortKey.keys keys = .ok items ∧ SortKey.fields items = .ok fields ∧
      fields ≠ [] ∧ s = .sortKeys fields := by
  unfold orderBySetting at h
  split at h
  · obtain ⟨items, hitems, h⟩ := Traced.outcome_bind_eq_ok.mp h
    obtain ⟨fields, hfields, h⟩ := Traced.outcome_bind_eq_ok.mp h
    rw [Traced.outcome_ofExcept] at hitems hfields
    split at h
    · cases h
    · next hne =>
        obtain ⟨-, -, h⟩ := Traced.outcome_bind_eq_ok.mp h
        cases h
        exact ⟨items, fields, hitems, hfields, by simpa using hne, rfl⟩
  · cases h

end Call

/-! ### Which option -/

/-- The options of a query, by name. -/
inductive QueryOption where
  /-- The where expression. -/
  | filter
  /-- The include paths. -/
  | includes
  /-- The page size. -/
  | take
  /-- The sort keys. -/
  | sortKeys
  /-- The response format. -/
  | format
  deriving DecidableEq, Repr

/-- The option that a setting changes. -/
def Setting.option : Setting → QueryOption
  | filter _ => .filter
  | includes _ => .includes
  | take _ => .take
  | sortKeys _ => .sortKeys
  | format _ => .format

/-- The option that a call is meant for. Expressions and presets are two ways to set one. -/
def Call.option : Call → QueryOption
  | filter _ => .filter
  | preset _ _ _ => .filter
  | includes _ => .includes
  | take _ => .take
  | orderBy _ => .sortKeys
  | format _ => .format

/-! ### Canonical settings -/

/-- Holds of the settings that a call can have: compiled expressions, lists of paths and of trimmed
fields that are not empty, and positive sizes. -/
def Setting.IsCanonical : Setting → Prop
  | filter compiled => ∃ w, Where.compile w = .ok compiled
  | includes paths => paths ≠ [] ∧ ∀ p ∈ paths, Include.HasPathForm p
  | take limit => 1 ≤ limit
  | sortKeys fields => fields ≠ [] ∧ ∀ f ∈ fields, f ≠ [] ∧ Text.IsTrimmed f
  | format _ => True

namespace Call

/-- An effective call changes the option it is meant for, to a canonical value. -/
theorem isCanonical_of_effect? [Limits] {c : Call} {s : Setting} (h : c.effect? = some s) :
    s.option = c.option ∧ s.IsCanonical := by
  rw [effect?_eq_some] at h
  cases c with
  | filter expression =>
      obtain ⟨w, out, -, hout, rfl⟩ := filterSetting_eq_ok h
      exact ⟨rfl, w, hout⟩
  | preset name bindings today =>
      obtain ⟨expression, -, h⟩ := Traced.outcome_bind_eq_ok.mp h
      obtain ⟨w, out, -, hout, rfl⟩ := filterSetting_eq_ok h
      exact ⟨rfl, w, hout⟩
  | includes entries =>
      obtain ⟨texts, paths, -, hpaths, hne, rfl⟩ := includeSetting_eq_ok h
      exact ⟨rfl, hne, (Include.check_eq_ok.mp hpaths).2⟩
  | take limit =>
      obtain ⟨n, -, hn, rfl⟩ := takeSetting_eq_ok h
      refine ⟨rfl, ?_⟩
      show 1 ≤ n.toNat
      omega
  | orderBy keys =>
      obtain ⟨items, fields, -, hfields, hne, rfl⟩ := orderBySetting_eq_ok h
      exact ⟨rfl, hne, SortKey.isTrimmed_of_fields hfields⟩
  | format name =>
      cases h
      exact ⟨rfl, trivial⟩

end Call

/-! ### Canonical options -/

/-- What holds of the options of every builder: the filter is a compiled expression, include
entries are paths, a page size is positive, and sort keys are trimmed and not empty. -/
structure Options.IsCanonical (o : Options) : Prop where
  filter : ∀ t ∈ o.filter, t ≠ [] ∧ ∃ w, Where.compile w = .ok t
  includes : ∀ p ∈ o.includes, Include.HasPathForm p
  take : ∀ n ∈ o.take, 1 ≤ n
  sortKeys : ∀ f ∈ o.sortKeys, f ≠ [] ∧ Text.IsTrimmed f

namespace Options

/-- A setting changes one option, and the others stay as they are. -/
theorem IsCanonical.set {o : Options} (ho : o.IsCanonical) {s : Setting} (hs : s.IsCanonical) :
    (o.set s).IsCanonical := by
  cases s with
  | filter compiled =>
      refine { ho with filter := ?_ }
      rintro t ⟨⟩
      obtain ⟨w, hw⟩ := hs
      exact ⟨Where.ne_nil_of_compile hw, w, hw⟩
  | includes paths => exact { ho with includes := hs.2 }
  | take limit =>
      refine { ho with take := ?_ }
      rintro n ⟨⟩
      exact hs
  | sortKeys fields => exact { ho with sortKeys := hs.2 }
  | format name => exact { ho with }

/-- Settings of different options can be made in either order. -/
theorem set_comm {s s' : Setting} (h : s.option ≠ s'.option) (o : Options) :
    (o.set s).set s' = (o.set s').set s := by
  cases s <;> cases s' <;> try rfl
  -- what is left are two settings of one option
  all_goals exact absurd rfl h

end Options

end TrackerQuery
