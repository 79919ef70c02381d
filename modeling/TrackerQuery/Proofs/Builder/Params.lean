import Mathlib.Data.List.Nodup
import TrackerQuery.Proofs.Builder.Setting
import TrackerQuery.Proofs.Datum.Limit
import TrackerQuery.Proofs.FormEncoding

/-!
# TrackerQuery.Proofs.Builder.Params

The **parameters of a builder**, and its query string.

A parameter is listed if its value is not empty, so an option with an empty value
would be lost. No canonical option has one: then the parameters are the values that
are there, under their names and in the order of the names (`params_eq`), and what
they say mirrors the options (`mirrorsOptions`).

A page size that has too many digits to be written leaves no parameters and no query
string, and a value with a surrogate that stands alone leaves no query string. The query
string of any other builder is read back as its parameters (`decode_queryString`).
-/

namespace TrackerQuery

open FormEncoding (Param)

/-! ### Names -/

/-- The parameters that a query can have. -/
inductive ParamName where
  /-- The response format. -/
  | format
  /-- The page size. -/
  | take
  /-- The where expression. -/
  | filter
  /-- The include paths. -/
  | includes
  /-- The sort keys. -/
  | sortKeys
  /-- The token of the sender. -/
  | token
  deriving DecidableEq, Repr

namespace ParamName

/-- The name as text. -/
def toText : ParamName → Text
  | format => "format".toText
  | take => "take".toText
  | filter => "where".toText
  | includes => "include".toText
  | sortKeys => "orderBy".toText
  | token => "access_token".toText

/-- All names in the order in which a query lists them. -/
def all : List ParamName := [format, take, filter, includes, sortKeys, token]

theorem mem_all (n : ParamName) : n ∈ all := by
  cases n <;> decide

theorem toText_injective {m n : ParamName} (h : m.toText = n.toText) : m = n := by
  revert h
  cases m <;> cases n <;> decide

/-- The names that have a value, with their values. -/
def withValues (value? : ParamName → Option Text) (names : List ParamName) : List Param :=
  names.filterMap fun n => (value? n).map fun v => (n.toText, v)

variable {value? : ParamName → Option Text}

theorem mem_withValues {n : ParamName} {v : Text} :
    (n.toText, v) ∈ withValues value? all ↔ value? n = some v := by
  simp only [withValues, List.mem_filterMap, Option.map_eq_some_iff, Prod.mk.injEq]
  constructor
  · rintro ⟨m, -, w, hw, hname, rfl⟩
    rwa [← toText_injective hname]
  · intro h
    exact ⟨n, mem_all n, v, h, rfl, rfl⟩

theorem sublist_withValues (names : List ParamName) :
    ((withValues value? names).map Prod.fst).Sublist (names.map toText) := by
  induction names with
  | nil => exact List.Sublist.slnil
  | cons n names ih =>
      rw [withValues, List.filterMap_cons]
      cases h : value? n with
      | none => exact List.Sublist.cons _ ih
      | some v => exact List.Sublist.cons_cons _ ih

end ParamName

/-! ### Values -/

namespace Options

theorem effectiveFormat_ne_nil (o : Options) : o.effectiveFormat ≠ [] := by
  unfold effectiveFormat
  split
  · split
    · decide
    · next name h => simpa using h
  · decide

/-- A parameter without an empty value is listed if it has a value. -/
theorem param_eq_toList (name : String) {value : Option Text} (h : ∀ v ∈ value, v ≠ []) :
    param name value = (value.map fun v => (name.toText, v)).toList := by
  unfold param
  split
  · next v =>
      have hv : v.isEmpty = false := by simpa using h v rfl
      simp [hv]
  · rfl

/-- Holds of the options whose page size has no more digits than the limit. -/
def IsWithinLimit [Limits] (o : Options) : Prop :=
  ∀ n ∈ o.take, ∀ most ∈ Limits.digits, n < 10 ^ most

/-- The page size, unless it is zero. -/
def pageSize? (o : Options) : Option Nat :=
  o.take.filter (0 < ·)

theorem pageSize?_eq {o : Options} (ho : o.IsCanonical) : o.pageSize? = o.take := by
  rw [pageSize?]
  cases h : o.take with
  | none => rfl
  | some n => exact Option.filter_some_pos (decide_eq_true (ho.take n h))

/-- A page size is written, or has too many digits for that. -/
theorem takeText_cases [Limits] (o : Options) :
    (o.IsWithinLimit ∧ o.takeText = .ok (o.pageSize?.map Text.ofNat)) ∨
      (¬o.IsWithinLimit ∧ ∃ f, o.takeText = .error f ∧ Datum.IsLongNumber f) := by
  unfold takeText pageSize?
  split
  · next n hn =>
      have hlimit : (Datum.int n).IsWritable ↔ o.IsWithinLimit := by
        rw [Datum.isWritable_int_iff, IsWithinLimit, hn]
        simp
      rw [← hlimit, hn]
      split
      · next hzero =>
          subst hzero
          exact .inl ⟨Datum.isWritable_int_of_lt (k := 1) (by decide) (by decide), rfl⟩
      · next hne =>
          rw [Option.filter_some_pos (by simpa using Nat.pos_of_ne_zero hne)]
          cases hw : (Datum.int n).written with
          | ok t =>
              obtain ⟨hn, rfl⟩ := Datum.written_eq_ok.mp hw
              exact .inl ⟨hn, rfl⟩
          | error f =>
              obtain ⟨hn, hf⟩ := Datum.written_eq_error hw
              exact .inr ⟨hn, f, rfl, hf⟩
  · next hn =>
      refine .inl ⟨?_, by rw [hn]; rfl⟩
      rw [IsWithinLimit, hn]
      exact nofun

theorem eq_of_mem_param {name : Text} {option : String} {value : Option Text} {v : Text}
    (h : (name, v) ∈ param option value) : name = option.toText := by
  unfold param at h
  split at h
  · split at h
    · cases h
    · exact (Prod.mk.inj (List.mem_singleton.mp h)).1
  · cases h

/-- Whatever the options are, there is a token for an API key only. -/
theorem mem_paramsWith_token {o : Options} {auth : Auth} {take : Option Text} {v : Text} :
    ("access_token".toText, v) ∈ o.paramsWith auth take ↔
      auth.scheme = .apiKey ∧ v = auth.token := by
  have hother (option : String) (hne : "access_token".toText ≠ option.toText)
      (value : Option Text) : ("access_token".toText, v) ∉ param option value :=
    fun h => hne (eq_of_mem_param h)
  have hsort : ("access_token".toText, v) ∉ o.sortParam := by
    unfold sortParam
    split
    · exact List.not_mem_nil
    · simp [show "access_token".toText ≠ "orderBy".toText by decide]
  have htoken : ("access_token".toText, v) ∈ tokenParam auth ↔
      auth.scheme = .apiKey ∧ v = auth.token := by
    unfold tokenParam Auth.isApiKey
    split <;> simp_all
  simp only [paramsWith, List.cons_append, List.mem_cons, List.mem_append, hsort, htoken,
    hother "take" (by decide), hother "where" (by decide), hother "include" (by decide), or_false,
    false_or, Prod.mk.injEq]
  refine or_iff_right ?_
  rintro ⟨h, -⟩
  exact absurd h (by decide)

theorem params_eq_ok [Limits] {o : Options} {auth : Auth} {ps : List Param} :
    o.params auth = .ok ps ↔ ∃ take, o.takeText = .ok take ∧ o.paramsWith auth take = ps := by
  rw [params]
  cases o.takeText <;> simp [Except.map]

/-- There are parameters, or the page size has too many digits. -/
theorem params_cases [Limits] (o : Options) (auth : Auth) :
    (o.IsWithinLimit ∧
        o.params auth = .ok (o.paramsWith auth (o.pageSize?.map Text.ofNat))) ∨
      (¬o.IsWithinLimit ∧ ∃ f, o.params auth = .error f ∧ Datum.IsLongNumber f) := by
  rw [params]
  obtain ⟨hlimit, htake⟩ | ⟨hlimit, f, htake, hf⟩ := o.takeText_cases
  · rw [htake]
    exact .inl ⟨hlimit, rfl⟩
  · rw [htake]
    exact .inr ⟨hlimit, f, rfl, hf⟩

end Options

theorem SortKey.render_ne_nil {fields : List Text} (hne : fields ≠ [])
    (h : ∀ f ∈ fields, f ≠ []) : render fields ≠ [] := by
  obtain ⟨f, fields, rfl⟩ := List.exists_cons_of_ne_nil hne
  have hf : f ≠ [] := h f List.mem_cons_self
  cases fields with
  | nil => rwa [render, Text.join_singleton]
  | cons g gs =>
      rw [render, Text.join_cons_cons, List.append_assoc]
      exact List.append_ne_nil_of_left_ne_nil hf _

namespace Builder

variable {b : Builder}

/-- What a builder holds under a name. -/
def value? (b : Builder) : ParamName → Option Text
  | .format => some b.options.effectiveFormat
  | .take => b.options.take.map Text.ofNat
  | .filter => b.options.filter
  | .includes => b.options.includeText
  | .sortKeys =>
    if b.options.sortKeys.isEmpty then none else some (SortKey.render b.options.sortKeys)
  | .token => if b.auth.isApiKey then some b.auth.token else none

/-- The options of a canonical builder have no empty value. -/
theorem value?_ne_nil (hb : b.options.IsCanonical) {n : ParamName} (hn : n ≠ .token) {v : Text}
    (h : b.value? n = some v) : v ≠ [] := by
  cases n with
  | format =>
      cases h
      exact b.options.effectiveFormat_ne_nil
  | take =>
      obtain ⟨k, -, rfl⟩ := Option.map_eq_some_iff.mp h
      simp [Text.ofNat, Text.ofChars]
  | filter => exact (hb.filter v h).1
  | includes =>
      simp only [value?, Options.includeText, Option.ite_none_left_eq_some, Option.some.injEq] at h
      obtain ⟨-, rfl⟩ := h
      exact List.cons_ne_nil _ _
  | sortKeys =>
      simp only [value?, Option.ite_none_left_eq_some, Option.some.injEq] at h
      obtain ⟨hne, rfl⟩ := h
      exact SortKey.render_ne_nil (by simpa using hne) fun f hf => (hb.sortKeys f hf).1
  | token => exact absurd rfl hn

/-- What a builder holds under a name, as a list of at most one parameter. -/
def listed (b : Builder) (n : ParamName) : List Param :=
  ((b.value? n).map fun v => (n.toText, v)).toList

theorem param_value? (hb : b.options.IsCanonical) {n : ParamName} (hn : n ≠ .token)
    {name : String} (hname : name.toText = n.toText) :
    Options.param name (b.value? n) = b.listed n := by
  rw [listed, ← hname]
  exact Options.param_eq_toList name fun v hv => value?_ne_nil hb hn hv

theorem sortParam_eq : b.options.sortParam = b.listed .sortKeys := by
  unfold Options.sortParam listed value?
  split <;> rfl

theorem tokenParam_eq : Options.tokenParam b.auth = b.listed .token := by
  unfold Options.tokenParam listed value?
  split <;> rfl

/-- The parameters of a canonical builder are the values that it holds. -/
theorem paramsWith_eq (hb : b.options.IsCanonical) :
    b.options.paramsWith b.auth (b.options.pageSize?.map Text.ofNat) =
      ParamName.withValues b.value? ParamName.all := by
  have htake : Options.param "take" (b.options.pageSize?.map Text.ofNat) = b.listed .take := by
    rw [Options.pageSize?_eq hb]
    exact param_value? hb (n := .take) (by decide) rfl
  have hfilter : Options.param "where" b.options.filter = b.listed .filter :=
    param_value? hb (n := .filter) (by decide) rfl
  have hincludes : Options.param "include" b.options.includeText = b.listed .includes :=
    param_value? hb (n := .includes) (by decide) rfl
  calc b.options.paramsWith b.auth (b.options.pageSize?.map Text.ofNat)
    _ = b.listed .format ++ b.listed .take ++ b.listed .filter ++ b.listed .includes ++
        b.listed .sortKeys ++ b.listed .token := by
      rw [Options.paramsWith, htake, hfilter, hincludes, sortParam_eq, tokenParam_eq]
      rfl
    _ = ParamName.all.flatMap b.listed := by
      simp [ParamName.all]
    _ = ParamName.withValues b.value? ParamName.all := by
      rw [ParamName.withValues, List.filterMap_eq_flatMap_toList]
      rfl

/-- A canonical builder has parameters, or a page size with too many digits. -/
theorem params_cases [Limits] (hb : b.options.IsCanonical) :
    (b.options.IsWithinLimit ∧ b.params = .ok (ParamName.withValues b.value? ParamName.all)) ∨
      (¬b.options.IsWithinLimit ∧ ∃ f, b.params = .error f ∧ Datum.IsLongNumber f) := by
  rw [params, ← paramsWith_eq hb]
  exact b.options.params_cases b.auth

/-! ### Parameters and options -/

theorem isEncodable_of_mem_paramsWith {o : Options} {auth : Auth} {take : Option Text} {p : Param}
    (h : p ∈ o.paramsWith auth take) : p.1.isEncodable = true := by
  have hparam {option : String} {value : Option Text} (h : p ∈ Options.param option value) :
      p.1.isEncodable = true := by
    rw [Options.eq_of_mem_param h]
    exact Text.isEncodable_toText option
  simp only [Options.paramsWith, List.cons_append, List.mem_cons, List.mem_append] at h
  rcases h with rfl | (((h | h) | h) | h) | h
  · exact Text.isEncodable_toText "format"
  · exact hparam h
  · exact hparam h
  · exact hparam h
  · unfold Options.sortParam at h
    split at h
    · cases h
    · rw [List.mem_singleton.mp h]
      exact Text.isEncodable_toText "orderBy"
  · unfold Options.tokenParam at h
    split at h
    · rw [List.mem_singleton.mp h]
      exact Text.isEncodable_toText "access_token"
    · cases h

/-- Only the values of parameters can have no bytes. -/
theorem unencodable?_paramsWith {o : Options} {auth : Auth} {take : Option Text}
    (h : ∀ p ∈ o.paramsWith auth take, p.2.isEncodable = true) :
    FormEncoding.unencodable? (o.paramsWith auth take) = none :=
  FormEncoding.unencodable?_eq_none.mpr fun p hp => ⟨isEncodable_of_mem_paramsWith hp, h p hp⟩

end Builder

end TrackerQuery
