import TrackerQuery.Proofs.Auth.Secrecy
import TrackerQuery.Proofs.Builder.Params

/-!
# TrackerQuery.Proofs.Auth.Resolution

Which **sender** a configuration and an environment name, and when they name none.

One section on authentication decides, unless an API key of the environment does
(`chosenSection?`): that of the configuration if there is one, whatever it says, and else the one
that the variables of the environment stand for. Whether a section names a sender depends on
its type and its token alone, each of which may be given under a second name or not at all.
`SectionNames` and `SectionRefused` say what comes of that, and a section always has one of
them (`ofSectionValue_eq_ok`, `ofSectionValue_eq_error`). A section is refused as well if the
platform cannot write its token, or cannot show its type where no scheme goes by it.

Main statement: `Auth.resolve_usable`.
-/

namespace TrackerQuery

/-! ### Names of schemes -/

namespace AuthScheme

theorem ofName?_eq_some_iff {t : Text} {s : AuthScheme} : ofName? t = some s ↔ t = s.name := by
  constructor
  · intro h
    rw [ofName?] at h
    have hname := List.find?_some h
    exact (beq_iff_eq.mp hname).symm
  · rintro rfl
    cases s <;> decide

theorem lookup_aliases {v : Text} {s : AuthScheme} :
    aliases.lookup v = some s ↔ (v, s) ∈ aliases := by
  constructor
  · intro h
    obtain ⟨front, rest, happ, -⟩ := List.lookup_eq_some_iff.mp h
    rw [happ]
    exact List.mem_append_right front List.mem_cons_self
  · intro h
    have hall : ∀ p ∈ aliases, aliases.lookup p.1 = some p.2 := by decide
    exact hall (v, s) h

/-- A text names a scheme if it is, trimmed and in small letters, its name or one of its aliases. -/
theorem read?_eq_some_iff {t : Text} {s : AuthScheme} :
    read? t = some s ↔ Text.lower (Text.strip t) = s.name ∨
      (Text.lower (Text.strip t), s) ∈ aliases := by
  have hnames : ∀ s : AuthScheme, s.name ≠ [] ∧ aliases.lookup s.name = none := by
    intro s
    cases s <;> decide
  have haliases : ∀ p ∈ aliases, p.1 ≠ [] := by decide
  rw [read?, canonicalName]
  generalize Text.lower (Text.strip t) = v
  cases v with
  | nil =>
      refine iff_of_false (by simp) ?_
      rintro (h | h)
      · exact (hnames s).1 h.symm
      · exact haliases _ h rfl
  | cons c v =>
      rw [List.isEmpty_cons, if_neg Bool.false_ne_true, ← lookup_aliases]
      cases hlookup : aliases.lookup (c :: v) with
      | none => simp [ofName?_eq_some_iff]
      | some s' =>
          have hname : c :: v ≠ s.name := by
            intro h
            rw [h, (hnames s).2] at hlookup
            cases hlookup
          have hself : ofName? s'.name = some s' := ofName?_eq_some_iff.mpr rfl
          simp [hself, hname]

end AuthScheme

namespace Auth

/-- Holds of the values that name a scheme: its member of the enumeration, and texts that are its
name or one of its aliases in any case and with blanks around them. -/
inductive NamesScheme : Datum → AuthScheme → Prop where
  | member (s : AuthScheme) : NamesScheme (.scheme s) s
  | byName {t : Text} {s : AuthScheme} (h : Text.lower (Text.strip t) = s.name) :
      NamesScheme (.text t) s
  | byAlias {t : Text} {s : AuthScheme}
      (h : (Text.lower (Text.strip t), s) ∈ AuthScheme.aliases) : NamesScheme (.text t) s

theorem namesScheme_text_iff {t : Text} {s : AuthScheme} :
    NamesScheme (.text t) s ↔ AuthScheme.read? t = some s := by
  rw [AuthScheme.read?_eq_some_iff]
  constructor
  · intro h
    cases h with
    | byName h => exact Or.inl h
    | byAlias h => exact Or.inr h
  · rintro (h | h)
    · exact .byName h
    · exact .byAlias h

section Limits

variable [Limits]

theorem unknownScheme_ne_ok (d : Datum) (s : AuthScheme) : unknownScheme d ≠ .ok s := by
  rw [unknownScheme]
  cases d.shown <;> simp

theorem parseScheme_eq_ok {d : Datum} {s : AuthScheme} :
    parseScheme d = .ok s ↔ NamesScheme d s := by
  unfold parseScheme
  split
  · next s' =>
      constructor
      · intro h
        obtain rfl := Except.ok.inj h
        exact .member s'
      · intro h
        cases h
        rfl
  · next t =>
      rw [namesScheme_text_iff]
      cases AuthScheme.read? t <;> simp [unknownScheme_ne_ok]
  · next hmember htext =>
      refine iff_of_false (unknownScheme_ne_ok d s) fun h => ?_
      cases h with
      | member s => exact hmember s rfl
      | byName h => exact htext _ rfl
      | byAlias h => exact htext _ rfl

theorem parseScheme_of_forall_not {d : Datum} (h : ∀ s, ¬NamesScheme d s) :
    parseScheme d = unknownScheme d := by
  unfold parseScheme
  split
  · next s => exact absurd (.member s) (h s)
  · next t =>
      cases hread : AuthScheme.read? t with
      | none => rfl
      | some s => exact absurd (namesScheme_text_iff.mpr hread) (h s)
  · rfl

end Limits

/-! ### Sections -/

/-- Holds of a section and its type: what it states, or what an API key implies. -/
inductive HasType (named : List (Datum × Datum)) : Datum → Prop where
  | stated {d : Datum} (h : given? named "type" = some d) : HasType named d
  | implied {key : Datum} (h : given? named "type" = none)
      (hkey : given? named "apiKey" = some key) : HasType named (.text "apikey".toText)
  | unstated (h : given? named "type" = none) (hkey : given? named "apiKey" = none) :
      HasType named (.text "basic".toText)

/-- Holds of a section and its token, which is given under one name or else under the other. -/
inductive HasToken (named : List (Datum × Datum)) : Datum → Prop where
  | token {d : Datum} (h : given? named "token" = some d) : HasToken named d
  | apiKey {d : Datum} (h : given? named "token" = none) (hkey : given? named "apiKey" = some d) :
      HasToken named d

theorem hasType_iff {named : List (Datum × Datum)} {d : Datum} :
    HasType named d ↔ d = sectionType named := by
  rw [sectionType]
  constructor
  · intro h
    cases h with
    | stated h => rw [h]
    | implied h hkey => rw [h, hkey]; rfl
    | unstated h hkey => rw [h, hkey]; rfl
  · rintro rfl
    cases htype : given? named "type" with
    | some d => exact .stated htype
    | none =>
        cases hkey : given? named "apiKey" with
        | some key => exact .implied htype hkey
        | none => exact .unstated htype hkey

theorem HasToken.eq {named : List (Datum × Datum)} {d : Datum} (h : HasToken named d) :
    sectionToken named = d ∧ d.isGiven = true := by
  rw [sectionToken]
  cases h with
  | token h =>
      rw [h]
      exact ⟨rfl, isGiven_of_given? h⟩
  | apiKey h hkey =>
      rw [h, hkey]
      exact ⟨rfl, isGiven_of_given? hkey⟩

/-- A section has a token, or it has none under either name. -/
theorem hasToken_cases (named : List (Datum × Datum)) :
    (∃ d, HasToken named d) ∨ ((∀ d, ¬HasToken named d) ∧ sectionToken named = .text []) := by
  cases htoken : given? named "token" with
  | some d => exact Or.inl ⟨d, .token htoken⟩
  | none =>
      cases hkey : given? named "apiKey" with
      | some d => exact Or.inl ⟨d, .apiKey htoken hkey⟩
      | none =>
          refine Or.inr ⟨fun d h => ?_, by rw [sectionToken, htoken, hkey]; rfl⟩
          cases h with
          | token h => simp [htoken] at h
          | apiKey _ h => simp [hkey] at h

section Limits

variable [Limits]

/-- Holds of the value of a section and the sender that it names. An API key has a token. -/
inductive SectionNames : Datum → Auth → Prop where
  | token {named : List (Datum × Datum)} {type token : Datum} {scheme : AuthScheme}
      (htype : HasType named type) (hscheme : NamesScheme type scheme)
      (htoken : HasToken named token) (hw : token.IsWritable) :
      SectionNames (.dict named) ⟨scheme, token.toText⟩
  | basic {named : List (Datum × Datum)} {type : Datum} (htype : HasType named type)
      (hscheme : NamesScheme type .basic) (htoken : ∀ d, ¬HasToken named d) :
      SectionNames (.dict named) Auth.basic

/-- Holds of the value of a section that names no sender, and the reason. -/
inductive SectionRefused : Datum → BadValue → Prop where
  | notMapping {d : Datum} (h : ∀ named, d ≠ .dict named) : SectionRefused d .sectionNotMapping
  | unknownScheme {named : List (Datum × Datum)} {type : Datum} (htype : HasType named type)
      (hscheme : ∀ s, ¬NamesScheme type s) (hw : type.IsWritable) :
      SectionRefused (.dict named) (.unknownScheme type.inspect)
  | longType {named : List (Datum × Datum)} {type : Datum} {most : Nat}
      (htype : HasType named type) (hscheme : ∀ s, ¬NamesScheme type s) (hw : ¬type.IsWritable)
      (hmost : most ∈ Limits.digits) : SectionRefused (.dict named) (.longNumber most)
  | missingToken {named : List (Datum × Datum)} {type : Datum} (htype : HasType named type)
      (hscheme : NamesScheme type .apiKey) (htoken : ∀ d, ¬HasToken named d) :
      SectionRefused (.dict named) .missingToken
  | longToken {named : List (Datum × Datum)} {type token : Datum} {scheme : AuthScheme}
      {most : Nat} (htype : HasType named type) (hscheme : NamesScheme type scheme)
      (htoken : HasToken named token) (hw : ¬token.IsWritable) (hmost : most ∈ Limits.digits) :
      SectionRefused (.dict named) (.longNumber most)

/-- The sender that the value of a section names. -/
def ofSectionValue : Datum → Except Fault Auth
  | .dict named => ofSection named
  | _ => .error (.badValue .sectionNotMapping)

theorem SectionNames.ofSectionValue_eq {d : Datum} {a : Auth} (h : SectionNames d a) :
    ofSectionValue d = .ok a := by
  cases h with
  | token htype hscheme htoken hw =>
      obtain ⟨heq, hgiven⟩ := htoken.eq
      rw [ofSectionValue, ofSection, ← hasType_iff.mp htype, parseScheme_eq_ok.mpr hscheme, heq]
      simp [hgiven, Datum.written_of_isWritable hw]
  | @basic named type htype hscheme htoken =>
      have hempty : sectionToken named = .text [] :=
        ((hasToken_cases named).resolve_left (not_exists.mpr htoken)).2
      rw [ofSectionValue, ofSection, ← hasType_iff.mp htype, parseScheme_eq_ok.mpr hscheme, hempty]
      rfl

theorem SectionRefused.ofSectionValue_eq {d : Datum} {v : BadValue} (h : SectionRefused d v) :
    ofSectionValue d = .error (.badValue v) := by
  cases h with
  | notMapping h =>
      unfold ofSectionValue
      split
      · next named => exact absurd rfl (h named)
      · rfl
  | unknownScheme htype hscheme hw =>
      rw [ofSectionValue, ofSection, ← hasType_iff.mp htype, parseScheme_of_forall_not hscheme,
        Auth.unknownScheme, Datum.shown_of_isWritable hw]
  | longType htype hscheme hw hmost =>
      rw [ofSectionValue, ofSection, ← hasType_iff.mp htype, parseScheme_of_forall_not hscheme,
        Auth.unknownScheme, Datum.shown, Datum.unlessExceeded_of_not_isWritable hw hmost]
  | longToken htype hscheme htoken hw hmost =>
      obtain ⟨heq, hgiven⟩ := htoken.eq
      rw [ofSectionValue, ofSection, ← hasType_iff.mp htype, parseScheme_eq_ok.mpr hscheme, heq]
      simp [hgiven, Datum.written, Datum.unlessExceeded_of_not_isWritable hw hmost]
  | @missingToken named type htype hscheme htoken =>
      have hempty : sectionToken named = .text [] :=
        ((hasToken_cases named).resolve_left (not_exists.mpr htoken)).2
      rw [ofSectionValue, ofSection, ← hasType_iff.mp htype, parseScheme_eq_ok.mpr hscheme, hempty]
      rfl

/-- A section names a sender or is refused. -/
theorem sectionNames_or_refused (d : Datum) :
    (∃ a, SectionNames d a) ∨ ∃ v, SectionRefused d v := by
  by_cases hdict : ∃ named, d = .dict named
  · obtain ⟨named, rfl⟩ := hdict
    have htype : HasType named (sectionType named) := hasType_iff.mpr rfl
    by_cases hscheme : ∃ s, NamesScheme (sectionType named) s
    · obtain ⟨s, hs⟩ := hscheme
      rcases hasToken_cases named with ⟨token, htoken⟩ | ⟨htoken, -⟩
      · rcases token.isWritable_or with hw | ⟨hw, most, hmost⟩
        · exact Or.inl ⟨_, .token htype hs htoken hw⟩
        · exact Or.inr ⟨_, .longToken htype hs htoken hw hmost⟩
      · cases s with
        | basic => exact Or.inl ⟨_, .basic htype hs htoken⟩
        | apiKey => exact Or.inr ⟨_, .missingToken htype hs htoken⟩
    · rcases (sectionType named).isWritable_or with hw | ⟨hw, most, hmost⟩
      · exact Or.inr ⟨_, .unknownScheme htype (not_exists.mp hscheme) hw⟩
      · exact Or.inr ⟨_, .longType htype (not_exists.mp hscheme) hw hmost⟩
  · exact Or.inr ⟨_, .notMapping (not_exists.mp hdict)⟩

theorem ofSectionValue_eq_ok {d : Datum} {a : Auth} :
    ofSectionValue d = .ok a ↔ SectionNames d a := by
  refine ⟨fun h => ?_, SectionNames.ofSectionValue_eq⟩
  rcases sectionNames_or_refused d with ⟨a', ha'⟩ | ⟨v, hv⟩
  · rw [ha'.ofSectionValue_eq] at h
    exact Except.ok.inj h ▸ ha'
  · rw [hv.ofSectionValue_eq] at h
    cases h

theorem ofSectionValue_eq_error {d : Datum} {f : Fault} :
    ofSectionValue d = .error f ↔ ∃ v, SectionRefused d v ∧ f = .badValue v := by
  constructor
  · intro h
    rcases sectionNames_or_refused d with ⟨a, ha⟩ | ⟨v, hv⟩
    · rw [ha.ofSectionValue_eq] at h
      cases h
    · rw [hv.ofSectionValue_eq] at h
      exact ⟨v, hv, (Except.error.inj h).symm⟩
  · rintro ⟨v, hv, rfl⟩
    exact hv.ofSectionValue_eq

end Limits

/-! ### The section that decides -/

/-- The section that the variables of an environment stand for, if they give no API key. -/
def environmentSection (environment : Environment) : Datum :=
  if Text.isAllBlank (variableText environment "TP_AUTH_TYPE") then .dict []
  else .dict [(.text "type".toText, .text (Text.strip (variableText environment "TP_AUTH_TYPE"))),
    (.text "token".toText, .text (variableText environment "TP_TOKEN"))]

/-- The section on authentication that decides. There is none if the API key of the environment
does, which it can do only without a configuration. -/
def chosenSection? (config : Option (List (Datum × Datum))) (environment : Environment) :
    Option Datum :=
  match config with
  | some entries => some ((given? entries "auth").getD (.dict []))
  | none =>
    if Text.isAllBlank (variableText environment "TP_API_KEY") then
      some (environmentSection environment)
    else none

theorem chosenSection?_eq_none_iff {config : Option (List (Datum × Datum))}
    {environment : Environment} :
    chosenSection? config environment = none ↔
      config = none ∧ Text.isAllBlank (variableText environment "TP_API_KEY") = false := by
  cases config <;> simp [chosenSection?]

section Limits

variable [Limits]

theorem ofConfig_dict (entries : List (Datum × Datum)) :
    ofConfig (.dict entries) = ofSectionValue ((given? entries "auth").getD (.dict [])) := by
  rw [ofConfig]
  cases given? entries "auth" with
  | none => rfl
  | some d => cases d <;> rfl

theorem outcome_ofEnvironment (environment : Environment) :
    (ofEnvironment environment).outcome =
      match chosenSection? none environment with
      | some d => ofSectionValue d
      | none => .ok ⟨.apiKey, Text.strip (variableText environment "TP_API_KEY")⟩ := by
  simp only [ofEnvironment, chosenSection?, environmentSection, Text.isEmpty_strip]
  cases Text.isAllBlank (variableText environment "TP_API_KEY") with
  | false => rfl
  | true =>
      cases Text.isAllBlank (variableText environment "TP_AUTH_TYPE") with
      | true => rfl
      | false => exact Traced.outcome_ofExcept _

/-- How a resolution ends, by the section that decides. -/
theorem outcome_resolve (documents : Documents)
    (config : Option (List (Datum × Datum))) (environment : Environment) :
    (resolve documents (config.elim .null .dict) environment).outcome =
      match chosenSection? config environment with
      | some d => ofSectionValue d
      | none => .ok ⟨.apiKey, Text.strip (variableText environment "TP_API_KEY")⟩ := by
  cases config with
  | none => exact outcome_ofEnvironment environment
  | some entries =>
      show (Traced.ofExcept (ofConfig (.dict entries))).outcome = _
      rw [Traced.outcome_ofExcept, ofConfig_dict]
      rfl

end Limits

/-! ### Tokens -/

/-- Holds of a section whose tokens are texts where they are given. -/
def HasTextTokens (named : List (Datum × Datum)) : Prop :=
  ∀ name, IsTokenName name → ∀ d, given? named name = some d → d.asText? ≠ none

theorem HasToken.asText?_ne_none {named : List (Datum × Datum)} (hnamed : HasTextTokens named)
    {d : Datum} (h : HasToken named d) : d.asText? ≠ none := by
  cases h with
  | token h => exact hnamed "token" .token d h
  | apiKey _ hkey => exact hnamed "apiKey" .apiKey d hkey

theorem hasTextTokens_of_values {named : List (Datum × Datum)}
    (h : ∀ e ∈ named, e.2.asText? ≠ none) : HasTextTokens named := by
  intro name _ d hd
  unfold given? at hd
  split at hd
  · next v hv =>
      obtain ⟨k, hk⟩ := Datum.exists_mem_of_lookup hv
      split at hd
      · exact Option.some.inj hd ▸ h _ hk
      · cases hd
  · cases hd

theorem hasTextTokens_environmentSection {environment : Environment}
    {named : List (Datum × Datum)} (h : environmentSection environment = .dict named) :
    HasTextTokens named := by
  refine hasTextTokens_of_values ?_
  unfold environmentSection at h
  split at h
  · cases h
    simp
  · cases h
    simp [Datum.asText?]

/-- Holds of a configuration whose section on authentication, if it has one, gives texts for
tokens. -/
def ConfiguresTextTokens (config : Option (List (Datum × Datum))) : Prop :=
  ∀ entries ∈ config, ∀ named, given? entries "auth" = some (.dict named) → HasTextTokens named

theorem hasTextTokens_of_chosenSection? {config : Option (List (Datum × Datum))}
    (hconfig : ConfiguresTextTokens config) {environment : Environment}
    {named : List (Datum × Datum)} (h : chosenSection? config environment = some (.dict named)) :
    HasTextTokens named := by
  unfold chosenSection? at h
  split at h
  · next entries =>
      cases hauth : given? entries "auth" with
      | none =>
          rw [hauth] at h
          cases h
          exact hasTextTokens_of_values (by simp)
      | some d =>
          rw [hauth] at h
          cases h
          exact hconfig entries rfl named hauth
  · split at h
    · exact hasTextTokens_environmentSection (Option.some.inj h)
    · cases h

theorem toText_ne_nil {d : Datum} (hgiven : d.isGiven = true) (h : d.asText? ≠ none) :
    d.toText ≠ [] := by
  cases d with
  | text t =>
      show t ≠ []
      simpa [Datum.isGiven] using hgiven
  | scheme s =>
      show "AuthScheme.".toText ++ s.member ≠ []
      exact List.append_ne_nil_of_left_ne_nil (by decide) _
  | _ => exact (h rfl).elim

/-- The sender of a section has a token if it is an API key. -/
theorem SectionNames.token_ne_nil [Limits] {d : Datum} {a : Auth} (h : SectionNames d a)
    (hd : ∀ named, d = .dict named → HasTextTokens named) (ha : a.scheme = .apiKey) :
    a.token ≠ [] := by
  cases h with
  | @token named _ _ _ htype hscheme htoken hw =>
      exact toText_ne_nil htoken.eq.2 (htoken.asText?_ne_none (hd named rfl))
  | basic => cases ha

/-! ### Main statement -/

/-- **Whatever is configured, no sender is found that would send an empty token.** The section that
decides names the sender or is refused, and nothing else fails; an API key of the environment is
the sender itself. What a sender with the scheme of API keys sends for a token is not empty. A
configuration that is given decides alone, and an API key of the environment decides over its
other variables. -/
theorem resolve_usable [Limits] (documents : Documents)
    (config : Option (List (Datum × Datum))) (environment : Environment) :
    let resolved := resolve documents (config.elim .null .dict) environment
    (∀ f, resolved.outcome = .error f ↔
      ∃ d v, chosenSection? config environment = some d ∧ SectionRefused d v ∧ f = .badValue v) ∧
    (∀ a, resolved.outcome = .ok a ↔
      (∃ d, chosenSection? config environment = some d ∧ SectionNames d a) ∨
        (chosenSection? config environment = none ∧
          a = ⟨.apiKey, Text.strip (variableText environment "TP_API_KEY")⟩)) ∧
    (ConfiguresTextTokens config → ∀ a, resolved.outcome = .ok a →
      (a.scheme = .apiKey → a.token ≠ []) ∧
        ∀ b : Builder, b.auth = a → ∀ ps, b.params = .ok ps →
          ∀ v, ("access_token".toText, v) ∈ ps → v ≠ []) ∧
    (config ≠ none → ∀ environment',
      resolve documents (config.elim .null .dict) environment' = resolved) ∧
    (config = none → Text.isAllBlank (variableText environment "TP_API_KEY") = false →
      resolved.outcome = .ok ⟨.apiKey, Text.strip (variableText environment "TP_API_KEY")⟩) := by
  intro resolved
  have houtcome : resolved.outcome = _ := outcome_resolve documents config environment
  have hok : ∀ a, resolved.outcome = .ok a ↔
      (∃ d, chosenSection? config environment = some d ∧ SectionNames d a) ∨
        (chosenSection? config environment = none ∧
          a = ⟨.apiKey, Text.strip (variableText environment "TP_API_KEY")⟩) := by
    intro a
    rw [houtcome]
    cases chosenSection? config environment with
    | none => simp [eq_comm]
    | some d => simp [ofSectionValue_eq_ok]
  refine ⟨fun f => ?_, hok, fun hconfig a ha => ?_, fun hconfig environment' => ?_,
    fun hconfig hkey => ?_⟩
  · rw [houtcome]
    cases chosenSection? config environment <;> simp [ofSectionValue_eq_error]
  · have htoken : a.scheme = .apiKey → a.token ≠ [] := by
      rcases (hok a).mp ha with ⟨d, hd, hnames⟩ | ⟨hnone, rfl⟩
      · refine hnames.token_ne_nil fun named hnamed => ?_
        exact hasTextTokens_of_chosenSection? hconfig (hnamed ▸ hd)
      · have hkey := (chosenSection?_eq_none_iff.mp hnone).2
        rw [← Text.isEmpty_strip, List.isEmpty_eq_false_iff] at hkey
        exact fun _ => hkey
    refine ⟨htoken, ?_⟩
    rintro b rfl ps hps v hv
    obtain ⟨take, -, rfl⟩ := Options.params_eq_ok.mp hps
    obtain ⟨hscheme, rfl⟩ := Options.mem_paramsWith_token.mp hv
    exact htoken hscheme
  · obtain ⟨entries, rfl⟩ := Option.ne_none_iff_exists'.mp hconfig
    rfl
  · exact (hok _).mpr (Or.inr ⟨chosenSection?_eq_none_iff.mpr ⟨hconfig, hkey⟩, rfl⟩)

/-- A configuration with an alias for its type and the token under its second name decides over an
environment with an API key. Without it, that key decides over the type that stands beside it. -/
theorem resolve_usable_both :
    let documents : Documents :=
      ⟨fun _ => .ok false, fun _ => .error .system, fun _ => .error (.document .grammar)⟩
    let named : List (Datum × Datum) := [(.text "type".toText, .text " API-Key\t".toText),
      (.text "token".toText, .null), (.text "apiKey".toText, .text "k".toText)]
    let entries : List (Datum × Datum) := [(.text "auth".toText, .dict named)]
    let environment : Environment :=
      [("TP_AUTH_TYPE".toText, "basic".toText), ("TP_API_KEY".toText, " abc ".toText)]
    ConfiguresTextTokens (some entries) ∧
      (resolve documents (.dict entries) environment).outcome = .ok ⟨.apiKey, "k".toText⟩ ∧
      (∀ ps, (Builder.new ⟨.apiKey, "k".toText⟩).params = .ok ps →
        ∀ v, ("access_token".toText, v) ∈ ps → v ≠ []) ∧
      resolve documents (.dict entries) [] = resolve documents (.dict entries) environment ∧
      Text.isAllBlank (variableText environment "TP_API_KEY") = false ∧
      (resolve documents .null environment).outcome = .ok ⟨.apiKey, "abc".toText⟩ := by
  intro documents named entries environment
  have htexts : ConfiguresTextTokens (some entries) := by
    rintro _ ⟨⟩ named' hauth
    obtain rfl : named = named' := Datum.dict.inj (Option.some.inj hauth)
    intro name hname d hd
    cases hname with
    | token => cases hd
    | apiKey =>
        obtain rfl : Datum.text "k".toText = d := Option.some.inj hd
        exact nofun
  have hkey : (resolve documents (.dict entries) environment).outcome =
      .ok ⟨.apiKey, "k".toText⟩ := by decide +kernel
  have hblank : Text.isAllBlank (variableText environment "TP_API_KEY") = false := by decide
  obtain ⟨-, -, htoken, hconfig, -⟩ := resolve_usable documents (some entries) environment
  obtain ⟨-, -, -, -, henvironment⟩ := resolve_usable documents none environment
  exact ⟨htexts, hkey, (htoken htexts _ hkey).2 _ rfl, hconfig nofun [], hblank,
    henvironment rfl hblank⟩

end Auth

end TrackerQuery
